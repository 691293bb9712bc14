import WorkspaceAccess.Queue.Alarms

/-!
# Alarms Are Not Early

An alarm is set for the first whole millisecond at or after its time, or for the one that the wheel
has come to if that is later. `Punctual` says so of all alarms that are set. It is kept by whatever
is done with alarms, and an alarm of such a wheel rings at its time or later.

That an alarm is not early holds in every course, however late the controller is. That it is not
late either depends on how time goes by, and is said of prompt courses elsewhere (`Alarms.OnTime`).

There is one alarm for each key at most. What rings is one of them, and its key has none any more;
the alarms of all other keys keep their times. So what holds of the alarm of a key is not disturbed
by those of others, and the invariant about recorded retries only has to look at the key that is
called.

## Main results

* `time?_of_rings`, `time?_of_rests`: an alarm that rings is gone then, and the alarms of all other
  keys stay; when none rings all of them do.
* `Punctual.request`: an alarm that is asked for is not set too early, also when it takes the place
  of a later one.
* `Punctual.of_rings`: the one alarm that rings is over its time and is gone then.
-/

namespace WorkspaceAccess

namespace Alarms

variable {κ : Type} [KeyOrder κ] {a b : Alarms κ} {j k : κ} {now : Instant}

/-- No alarm is set for a millisecond before its time, which is what keeps it from ringing early. -/
def Punctual (a : Alarms κ) : Prop :=
  ∀ k e, a.pending.get? k = some e → tickFor e.time ≤ e.tick

/-- An alarm that rings does not change the times of the others, and has none itself. -/
theorem time?_of_rings (h : a.poll now = (some k, b)) (j : κ) :
    b.time? j = if KeyOrder.compare j k = .eq then none else a.time? j := by
  obtain ⟨hpending, -⟩ := poll_eq_some h
  rw [time?, time?, hpending, SortedMap.get?_erase]
  split <;> rfl

/-- A wheel that stops without an alarm keeps them all. -/
theorem pending_of_rests (h : a.poll now = (none, b)) : b.pending = a.pending := by
  rw [poll] at h
  split at h
  · cases h
    rfl
  · split at h
    · cases h
    · cases h
      rfl

/-- A wheel that stops without an alarm keeps their times. -/
theorem time?_of_rests (h : a.poll now = (none, b)) (j : κ) : b.time? j = a.time? j := by
  rw [time?, time?, pending_of_rests h]

namespace Punctual

/-- Taking an alarm away leaves the others in time. -/
theorem of_erase (h : a.Punctual) (hb : b.pending = a.pending.erase k) : b.Punctual := by
  intro j e hj
  rw [hb, SortedMap.get?_erase] at hj
  split at hj
  · cases hj
  · exact h j e hj

/-- An alarm that is asked for is not set too early. -/
theorem request (h : a.Punctual) (k : κ) (time : Instant) : (a.request k time).Punctual := by
  have hset : ∀ j e, (a.pending.insert k (a.alarm time)).get? j = some e →
      tickFor e.time ≤ e.tick := by
    intro j e hj
    rw [SortedMap.get?_insert] at hj
    split at hj
    · cases hj
      exact Nat.le_max_left _ _
    · exact h j e hj
  rw [Alarms.request]
  simp only
  split
  · exact hset
  split
  · exact hset
  · exact h

/-- An alarm that rings is not early: its time has come, and the key has no alarm afterwards. -/
theorem of_rings (h : a.Punctual) (hpoll : a.poll now = (some k, b)) :
    ∃ due ≤ now, a.time? k = some due ∧ b.time? k = none := by
  obtain ⟨-, e, hdue⟩ := poll_eq_some hpoll
  rw [due, SortedMap.get?_filter, Option.filter_eq_some_iff] at hdue
  obtain ⟨hpending, htick⟩ := hdue
  refine ⟨e.time, ?_, by rw [time?, hpending]; rfl, ?_⟩
  · have hreached : tickFor e.time ≤ tickAt now :=
      Nat.le_trans (h k e hpending) (of_decide_eq_true htick)
    refine Nat.le_of_not_lt fun hearly => ?_
    exact absurd (tickAt_lt_tickFor hearly) (Nat.not_lt.mpr hreached)
  · rw [time?_of_rings hpoll, if_pos (KeyOrder.compare_self k)]

end Punctual

end Alarms

end WorkspaceAccess
