import WorkspaceAccess.Queue.Wheel
import WorkspaceAccess.SortedMap
import WorkspaceAccess.Time.Instant

/-!
# Alarms

For every key the earliest time is kept at which it was asked to be called. The alarm of a key rings
once, at that time or later, and is gone then. Times are rounded up to whole milliseconds, so an
alarm never rings early.

Alarms ring in the order of their times, those of one millisecond in the order in which a timing
wheel comes to them (`WorkspaceAccess.Queue.Wheel`). That order is visible: it decides which of two
keys with one time is started first. So an alarm carries, besides its time, the place that it takes
on the wheel, and `Alarm.first?` picks the one that rings next. An alarm that the wheel cannot hold
is too much for it (`Alarms.overdrawn`), and the controller that asked for it collapses.

The wheel is at rest between its stops. `Alarms.wake` is the next of them; only when it has come is
an alarm looked for, and `Alarms.poll` then either rings one or finds the stop after it.

## Main results

* `Alarm.first?_mem`, `Alarm.first?_isSome`, `Alarm.first?_tick_le`: the first alarm is one of those
  that are set, there is one unless none is set, and no other rings in an earlier millisecond.
* `Alarms.time?_request`: asking twice for a key keeps the earlier of the two times, and asking for
  one key leaves the others alone.
* `Alarms.tickAt_lt_tickFor`: a time is not over before its millisecond has come.
* `Alarms.poll_eq_some`, `Alarms.due_poll_lt`: only an alarm that is due rings, and fewer are due
  after one has rung.
* `Alarms.due_request_of_lt`: an alarm for later does not become due by being asked for.
* `Alarms.isAwake_poll`: a wheel at which no alarm rings has its next stop ahead, so looking at the
  wheel comes to an end.
-/

namespace WorkspaceAccess

/-- When an alarm rings: the time it was asked for, and where that is on the wheel. -/
structure Alarm where
  /-- The time that was asked for. -/
  time : Instant
  /-- The millisecond in which it rings, which is the time rounded up, and not one that is past. -/
  tick : Nat
  /-- The place among the alarms of that millisecond. -/
  place : Int
  deriving DecidableEq

namespace Alarm

/-- One alarm rings before another: its millisecond is earlier, or its place in the same one is. -/
def before (a b : Alarm) : Bool := a.tick < b.tick || (a.tick == b.tick && a.place ≤ b.place)

/-- The first alarm of a list, with its key. -/
def first? {κ : Type} : List (κ × Alarm) → Option (κ × Alarm)
  | [] => none
  | e :: rest =>
    match first? rest with
    | none => some e
    | some f => if e.2.before f.2 then some e else some f

/-- The first alarm is one of the list. -/
theorem first?_mem {κ : Type} {l : List (κ × Alarm)} {e : κ × Alarm} (h : first? l = some e) :
    e ∈ l := by
  induction l generalizing e with
  | nil => cases h
  | cons head rest ih =>
    unfold first? at h
    split at h
    · cases h; simp
    · rename_i f hf
      split at h <;> cases h
      · simp
      · exact List.mem_cons_of_mem _ (ih hf)

/-- There is a first alarm unless there is none at all. -/
theorem first?_isSome {κ : Type} {l : List (κ × Alarm)} (h : l ≠ []) : (first? l).isSome := by
  cases l with
  | nil => exact absurd rfl h
  | cons head rest => unfold first?; split <;> (try split) <;> rfl

/-- No alarm rings in an earlier millisecond than the first one. -/
theorem first?_tick_le {κ : Type} {l : List (κ × Alarm)} {e : κ × Alarm} (h : first? l = some e) :
    ∀ f ∈ l, e.2.tick ≤ f.2.tick := by
  induction l generalizing e with
  | nil => cases h
  | cons head rest ih =>
    unfold first? at h
    intro f hf
    split at h
    · rename_i hr
      cases h
      rcases List.mem_cons.1 hf with rfl | hf
      · exact Nat.le_refl _
      · have := first?_isSome (List.ne_nil_of_mem hf)
        simp [hr] at this
    · rename_i g hg
      have hg := ih hg
      have hb : head.2.before g.2 = true → head.2.tick ≤ g.2.tick := by
        simp only [before, Bool.or_eq_true, Bool.and_eq_true, decide_eq_true_eq, beq_iff_eq]
        omega
      have hn : ¬head.2.before g.2 = true → g.2.tick ≤ head.2.tick := by
        simp only [before, Bool.or_eq_true, Bool.and_eq_true, decide_eq_true_eq, beq_iff_eq]
        omega
      split at h <;> cases h <;> rcases List.mem_cons.1 hf with rfl | hf
      · exact Nat.le_refl _
      · exact Nat.le_trans (hb ‹_›) (hg f hf)
      · exact hn ‹_›
      · exact hg f hf

end Alarm

/-- The alarms that are set, and the wheel on which they are. Of every key at most one is set. -/
structure Alarms (κ : Type) [KeyOrder κ] where
  /-- The alarm of every key that has one. -/
  pending : SortedMap κ Alarm := SortedMap.empty
  /-- How many alarms have been set so far, which numbers them for their places on the wheel. -/
  count : Nat := 0
  /-- The millisecond that the wheel has come to. -/
  elapsed : Nat := 0
  /-- The next stop of the wheel, in milliseconds. -/
  wake : Option Nat := none
  /-- An alarm was asked for that lies beyond the reach of the wheel. -/
  overdrawn : Bool := false

namespace Alarms

variable {κ : Type} [KeyOrder κ]

/-- The nanoseconds of a millisecond. -/
def tickLength : Nat := 1000000

/-- The last whole millisecond at or before a time. -/
def tickAt (time : Instant) : Nat := time / tickLength

/-- The first whole millisecond at or after a time, in which an alarm for that time rings. -/
def tickFor (time : Instant) : Nat := (time + (tickLength - 1)) / tickLength

/-- The time of the alarm of a key. -/
def time? (a : Alarms κ) (k : κ) : Option Instant := (a.pending.get? k).map (·.time)

/-- The next stop of the wheel for the alarms that are set. -/
def nextStop? (a : Alarms κ) : Option Nat :=
  (Alarm.first? a.pending.entries).map fun e => Wheel.stop a.elapsed e.2.tick

/-- The alarm that is set next. -/
def alarm (a : Alarms κ) (time : Instant) : Alarm :=
  let tick := max (tickFor time) a.elapsed
  ⟨time, tick, Wheel.place a.elapsed tick (a.count + 1)⟩

/-- Sets the alarm of a key, in place of the one that there may be; the wheel is not told. -/
def set (a : Alarms κ) (k : κ) (time : Instant) : Alarms κ :=
  { a with pending := a.pending.insert k (a.alarm time), count := a.count + 1 }

/-- Asks for an alarm; where there is one, the earlier of the two times is kept. The wheel is told
to stop in time for it, and notices when the alarm is beyond its reach. -/
def request (a : Alarms κ) (k : κ) (time : Instant) : Alarms κ :=
  let b := a.set k time
  match a.pending.get? k with
  | none =>
    let tick := (a.alarm time).tick
    { b with
      wake := some (min (a.wake.getD tick) tick)
      overdrawn := a.overdrawn || Wheel.reach < tick - a.elapsed }
  | some old => if time ≤ old.time then { b with wake := a.wake.bind fun _ => b.nextStop? } else a

/-- The wheel has come to a stop. -/
def isAwake (a : Alarms κ) (now : Instant) : Bool := a.wake.any (· ≤ tickAt now)

/-- The wheel goes to a tick and finds its next stop. -/
def goTo (a : Alarms κ) (tick : Nat) : Alarms κ :=
  let b := { a with elapsed := max a.elapsed tick }
  { b with wake := b.nextStop? }

/-- An alarm rings. The wheel has come to the stretch around it, and to the alarm itself if it was
the last one. -/
def ring (a : Alarms κ) (k : κ) (e : Alarm) : Alarms κ :=
  let b := { a with pending := a.pending.erase k }
  b.goTo (if b.pending.isEmpty then e.tick else Wheel.stretch e.tick)

/-- What a wheel that has come to a stop does: the first alarm that is due rings, or the next
stop is found. -/
def poll (a : Alarms κ) (now : Instant) : Option κ × Alarms κ :=
  match Alarm.first? a.pending.entries with
  | none => (none, a.goTo (tickAt now))
  | some (k, e) =>
    if e.tick ≤ tickAt now then (some k, a.ring k e) else (none, a.goTo (tickAt now))

/-- The alarms that are due: their milliseconds have come, whether the wheel has noticed or not. -/
def due (a : Alarms κ) (now : Instant) : SortedMap κ Alarm :=
  a.pending.filter fun _ e => e.tick ≤ tickAt now

/-- The time at which the wheel comes to its next stop. -/
def nextTime? (a : Alarms κ) : Option Instant := a.wake.map (· * tickLength)

/-! ### Times -/

/-- Of two numbers the smaller one, divided and rounded down, is below the larger one, divided and
rounded up. -/
theorem div_lt_of_lt {n m k : Nat} (hk : 0 < k) (h : n < m) : n / k < (m + (k - 1)) / k := by
  rw [Nat.lt_iff_add_one_le, Nat.le_div_iff_mul_le hk, Nat.add_mul, Nat.one_mul]
  have := Nat.div_mul_le_self n k
  omega

/-- A time is not over before its millisecond has come. -/
theorem tickAt_lt_tickFor {now time : Instant} (h : now < time) : tickAt now < tickFor time :=
  div_lt_of_lt (Nat.succ_pos _) h

/-- Asking for an alarm keeps the earlier of the two times for its key and leaves all other keys as
they are. -/
theorem time?_request (a : Alarms κ) (k j : κ) (time : Instant) :
    (a.request k time).time? j =
      if KeyOrder.compare j k = .eq then some ((a.time? k).elim time (min time ·))
      else a.time? j := by
  unfold request time?
  cases h : a.pending.get? k with
  | none => simp only [set, SortedMap.get?_insert]; split <;> simp [alarm]
  | some old =>
    by_cases ht : time ≤ old.time
    · simp only [if_pos ht, set, SortedMap.get?_insert]
      split <;> simp [alarm, Nat.min_eq_left ht]
    · simp only [if_neg ht]
      split
      · rename_i hj
        obtain rfl := KeyOrder.compare_eq_iff.1 hj
        simp [h, Nat.min_eq_right (Nat.le_of_not_le ht)]
      · rfl

/-! ### Due alarms -/

/-- The alarm that rings is gone, and no other one is. -/
@[simp] theorem pending_ring (a : Alarms κ) (k : κ) (e : Alarm) :
    (a.ring k e).pending = a.pending.erase k := rfl

/-- An alarm that rings is due, and is gone afterwards. -/
theorem poll_eq_some {a b : Alarms κ} {now : Instant} {k : κ} (h : a.poll now = (some k, b)) :
    b.pending = a.pending.erase k ∧ ∃ e, (a.due now).get? k = some e := by
  unfold poll at h
  split at h
  · cases h
  · rename_i j e hf
    split at h <;> cases h
    refine ⟨rfl, e, ?_⟩
    rw [due, SortedMap.get?_filter, SortedMap.mem_entries_iff.1 (Alarm.first?_mem hf)]
    simp [*]

/-- Fewer alarms are due after one has rung. -/
theorem due_poll_lt {a b : Alarms κ} {now : Instant} {k : κ} (h : a.poll now = (some k, b)) :
    (b.due now).size < (a.due now).size := by
  obtain ⟨hb, e, he⟩ := poll_eq_some h
  have hd : b.due now = (a.due now).erase k := by
    apply SortedMap.ext
    intro j
    simp only [due, hb, SortedMap.get?_filter, SortedMap.get?_erase]
    split <;> rfl
  rw [hd]
  show (List.filter _ _).length < _
  refine List.length_filter_lt_length_iff_exists.2
    ⟨(k, e), SortedMap.mem_entries_iff.2 he, ?_⟩
  simp [KeyOrder.compare_self]

/-- An alarm for later does not become due by being asked for. -/
theorem due_request_of_lt {a : Alarms κ} {now time : Instant} {k : κ}
    (h : a.pending.get? k = none) (ht : now < time) : (a.request k time).due now = a.due now := by
  apply SortedMap.ext
  intro j
  have hl : tickAt now < (a.alarm time).tick :=
    Nat.lt_of_lt_of_le (tickAt_lt_tickFor ht) (Nat.le_max_left _ _)
  simp only [due, SortedMap.get?_filter, request, h, set, SortedMap.get?_insert]
  split
  · rename_i hj
    obtain rfl := KeyOrder.compare_eq_iff.1 hj
    simp [h, Option.filter, Nat.not_le_of_lt hl]
  · rfl

/-- A wheel at which no alarm rings has its next stop ahead. -/
theorem isAwake_poll {a b : Alarms κ} {now : Instant} (h : a.poll now = (none, b)) :
    b.due now = a.due now ∧ b.isAwake now = false := by
  unfold poll at h
  split at h
  · rename_i hf
    cases h
    exact ⟨rfl, by simp [isAwake, goTo, nextStop?, hf]⟩
  · rename_i k e hf
    split at h
    · cases h
    · rename_i hlt
      cases h
      refine ⟨rfl, ?_⟩
      simp only [isAwake, goTo, nextStop?, hf, Option.map_some, Option.any_some,
        decide_eq_false_iff_not]
      by_cases he : e.tick ≤ max a.elapsed (tickAt now)
      · rwa [Wheel.stop_of_le he]
      · have := Wheel.lt_stop (Nat.lt_of_not_le he)
        omega

end Alarms

end WorkspaceAccess
