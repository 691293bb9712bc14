/-!
# The Stops of a Timing Wheel

A timing wheel counts in ticks and has levels of 64 slots. A slot of the lowest level is one tick; a
slot of any other level is as long as all slots of the level below. What is set for a tick lies on
the level of the highest digit, in base 64, in which the tick differs from the one that the wheel
has come to. When the wheel comes to the beginning of a slot, it moves what lies in the slot one
level down. There are six levels, and what lies beyond them cannot be set.

A slot is a stack, so that every move reverses what is set for the same tick. What is set from an
even level therefore comes before what was set for that tick earlier, and what is set from an odd
level comes after it. `Wheel.place` keeps this as a number, so the slots themselves need not be
simulated: the order of what rings in one tick is the order of these numbers.

## Main results

* `Wheel.stop_of_le`: the stop for a tick that has come is that tick.
* `Wheel.lt_stop`: the next stop lies ahead of the wheel, so the wheel never stands still before a
  tick that is to come.
* `Wheel.stop_le`: the next stop is not behind the tick, so the wheel never passes a tick without
  stopping.
-/

namespace WorkspaceAccess

namespace Wheel

/-- The level on which a tick lies, seen from the tick that the wheel has come to: the place of the
highest digit in which the two differ. -/
def level (elapsed tick : Nat) : Nat :=
  if tick / 64 ≤ elapsed / 64 then 0 else level (elapsed / 64) (tick / 64) + 1
termination_by tick
decreasing_by omega

/-- The beginning of the slot in which a tick lies, which is where the wheel stops on its way
there. -/
def stop (elapsed tick : Nat) : Nat :=
  if tick / 64 ≤ elapsed / 64 then tick else 64 * stop (elapsed / 64) (tick / 64)
termination_by tick
decreasing_by omega

/-- How many ticks ahead something can be set: one less than six digits in base 64 can count. -/
def reach : Nat := 64 * 64 * 64 * 64 * 64 * 64 - 1

/-- The beginning of the stretch of 64 ticks around a tick. -/
def stretch (tick : Nat) : Nat := tick - tick % 64

/-- The place among what is set for the same tick, for what is set as the `n`-th: before everything
set earlier, or after it, as the parity of the level says. -/
def place (elapsed tick n : Nat) : Int := if level elapsed tick % 2 = 0 then -n else n

/-- The stop for a tick that has come is that tick. -/
theorem stop_of_le {elapsed tick : Nat} (h : tick ≤ elapsed) : stop elapsed tick = tick := by
  unfold stop
  exact if_pos (Nat.div_le_div_right h)

/-- The next stop for a tick ahead lies ahead of the wheel. -/
theorem lt_stop {elapsed tick : Nat} (h : elapsed < tick) : elapsed < stop elapsed tick := by
  fun_induction stop elapsed tick with
  | case1 _ _ _ => exact h
  | case2 elapsed tick hne ih =>
    have := ih (by omega)
    omega

/-- The next stop is not behind the tick that it is for. -/
theorem stop_le (elapsed tick : Nat) : stop elapsed tick ≤ tick := by
  fun_induction stop elapsed tick with
  | case1 => exact Nat.le_refl _
  | case2 elapsed tick hne ih => omega

end Wheel

end WorkspaceAccess
