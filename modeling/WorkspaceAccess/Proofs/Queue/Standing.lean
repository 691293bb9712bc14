import WorkspaceAccess.Proofs.Queue.Exclusion

/-!
# The Standing of a Key

A single key goes through four standings: it is idle, it waits, its reconcile is in flight, or its
reconcile is in flight and another one is asked for. What happened to the key decides its standing
(`Standing.ofEvents`), whatever happens to other keys, and the bookkeeping of a controller holds
just that standing (`Bookkeeping.standing`): the one is computed from the log of the key by
recursion on its events, the other is read off three sets of keys. That the two agree at all times
is what lets every later module argue about a key by its own events, without a word about lists,
sets or other keys.

## Calls

A wake-up *calls* for a reconcile of its own when the key is idle, or when its reconcile is in
flight and no other one is asked for. Any other wake-up finds that it was already called for. So
wake-ups are merged, as many as there may be, and yet none is lost: of all wake-ups the calls are
those that are answered by a reconcile, and the calls alone are counted (`QueueLog.calls`).

## Main results

* `isOwed_eq_lately`: a reconcile is owed to a key just when something asked for one since its
  newest start.
* `starts_add_owed`: the reconciles that were started, with the one that may be owed, are the calls,
  by induction on the events, given that a reconcile is only started when the key waits.
* `calls_of_waiting`, `calls_of_running`: whatever happens while a key waits calls for nothing
  further, and whatever happens during one reconcile calls for one further reconcile at most.
* `standing_push_self`, `standing_next_self`, `standing_finish_self` and their counterparts for the
  other keys: what the operations of the bookkeeping do to the standing of each key.
* `History.standing_eq`: the bookkeeping holds the standing that the log of the key leads to.
* `History.startsWaiting`: a reconcile is only started when the key waits.
-/

namespace WorkspaceAccess

/-- How a key stands in a work queue. -/
inductive Standing where
  /-- Nothing is to be done. -/
  | idle
  /-- A reconcile is to be started. -/
  | waiting
  /-- A reconcile is in flight. -/
  | running
  /-- A reconcile is in flight, and another one is to be started after it. -/
  | again
  deriving DecidableEq

namespace Standing

variable {ε : Type}

/-- A reconcile of the key is asked for. Where one is already owed nothing changes: this is where
wake-ups are merged. -/
def woken : Standing → Standing
  | idle => waiting
  | running => again
  | s => s

/-- The end of the reconcile of the key is taken up, and the key rests unless it is to run again. -/
def rested : Standing → Standing
  | running => idle
  | again => waiting
  | s => s

/-- A reconcile is owed to the key, at once or after the one that is in flight. -/
def isOwed (s : Standing) : Bool := s = waiting || s = again

/-- The standing after an event. Being enqueued does not count until the key is taken from the
inbox, and the end of a reconcile does not count until it is taken up. -/
def after (s : Standing) : QueueEvent ε → Standing
  | .received | .retried _ => s.woken
  | .started => running
  | .completed .. => s.rested
  | .enqueued | .ended _ => s

/-- The standing that the events lead to, of which the newest stands first. -/
def ofEvents : List (QueueEvent ε) → Standing
  | [] => idle
  | e :: earlier => (ofEvents earlier).after e

/-- Something is to be done for a key that was woken up. -/
theorem woken_ne_idle (s : Standing) : s.woken ≠ idle := by
  cases s <;> decide

/-- An event calls for a reconcile of its own: it is a wake-up, and none is owed to the key so
far. -/
def calls (s : Standing) (e : QueueEvent ε) : Bool := e.isWakeUp && !s.isOwed

end Standing

/-! ### What follows from the events alone -/

namespace QueueLog

open Standing (ofEvents)

variable {ε : Type} {events later earlier : List (QueueEvent ε)}

/-- How many of the events call for a reconcile of their own, each judged by the standing before
it. -/
def calls : List (QueueEvent ε) → Nat
  | [] => 0
  | e :: earlier => calls earlier + ((ofEvents earlier).calls e).toNat

/-- A reconcile is only started when the key waits, which is a law about each start and what was
before. -/
def StartsWaiting : QueueEvent ε → List (QueueEvent ε) → Prop
  | .started, earlier => ofEvents earlier = .waiting
  | _, _ => True

/-- A reconcile is owed just when something asked for one since the newest start. -/
theorem isOwed_eq_lately (events : List (QueueEvent ε)) :
    (ofEvents events).isOwed = lately QueueEvent.isWakeUp events := by
  induction events with
  | nil => rfl
  | cons e earlier ih =>
    rw [lately_cons, ← ih, ofEvents]
    cases e with
    | started => rfl
    | enqueued | ended | received | retried | completed => cases ofEvents earlier <;> rfl

/-- The reconciles that were started, with the one that may be owed, are those called for. -/
theorem starts_add_owed (h : Always StartsWaiting events) :
    events.countP QueueEvent.isStarted + (ofEvents events).isOwed.toNat = calls events := by
  induction events with
  | nil => rfl
  | cons e earlier ih =>
    obtain ⟨hlaw, hearlier⟩ := always_cons.mp h
    have ih := ih hearlier
    rw [List.countP_cons, calls, ← ih, ofEvents]
    cases e with
    | started =>
      have hwaiting : ofEvents earlier = .waiting := hlaw
      simp [hwaiting, Standing.after, Standing.calls, Standing.isOwed, QueueEvent.isStarted,
        QueueEvent.isWakeUp, QueueEvent.isReceived, QueueEvent.isRetried]
    | enqueued | ended | received | retried | completed =>
      cases ofEvents earlier <;> rfl

/-- A key wakes up when it is received and when its retry is due. -/
theorem countP_wakeUps (events : List (QueueEvent ε)) :
    events.countP QueueEvent.isWakeUp =
      events.countP QueueEvent.isReceived + events.countP QueueEvent.isRetried := by
  induction events with
  | nil => rfl
  | cons e earlier ih =>
    rw [List.countP_cons, List.countP_cons, List.countP_cons, ih, QueueEvent.isWakeUp]
    cases e with
    | received =>
      simp only [QueueEvent.isReceived, QueueEvent.isRetried, Bool.or_false, if_true]
      simp only [Bool.false_eq_true, if_false]
      omega
    | retried =>
      simp only [QueueEvent.isReceived, QueueEvent.isRetried, Bool.false_or, if_true]
      simp only [Bool.false_eq_true, if_false]
      omega
    | enqueued | ended | started | completed => rfl

/-- Every call is a wake-up, so no reconcile is called for without one. -/
theorem calls_le_wakeUps (events : List (QueueEvent ε)) :
    calls events ≤ events.countP QueueEvent.isWakeUp := by
  induction events with
  | nil => exact Nat.le_refl 0
  | cons e earlier ih =>
    rw [calls, List.countP_cons, Standing.calls]
    cases e.isWakeUp with
    | false => simpa using ih
    | true =>
      have hone := Bool.toNat_le (!(ofEvents earlier).isOwed)
      simp only [Bool.true_and, if_true]
      omega

/-- Nothing that happens to a waiting key before its start calls for a further reconcile. -/
theorem calls_of_waiting (h : ofEvents earlier = .waiting)
    (hlater : ∀ e ∈ later, e.isStarted = false) :
    ofEvents (later ++ earlier) = .waiting ∧ calls (later ++ earlier) = calls earlier := by
  induction later with
  | nil => exact ⟨h, rfl⟩
  | cons e later ih =>
    obtain ⟨hwaiting, hcalls⟩ := ih fun f hf => hlater f (List.mem_cons_of_mem e hf)
    have hstart := hlater e List.mem_cons_self
    rw [List.cons_append, calls, ofEvents, hwaiting, hcalls]
    cases e with
    | started => cases hstart
    | enqueued | ended | received | retried | completed =>
      exact ⟨rfl, by simp [Standing.calls, Standing.isOwed]⟩

/-- All that happens during one reconcile of a key calls for one further reconcile at most. -/
theorem calls_of_running (h : ofEvents earlier = .running)
    (hlater : ∀ e ∈ later, e.isCompleted = false) (hlaw : Always StartsWaiting (later ++ earlier)) :
    (ofEvents (later ++ earlier) = .running ∧ calls (later ++ earlier) = calls earlier) ∨
      (ofEvents (later ++ earlier) = .again ∧ calls (later ++ earlier) = calls earlier + 1) := by
  induction later with
  | nil => exact .inl ⟨h, rfl⟩
  | cons e later ih =>
    obtain ⟨hstart, hlaw⟩ := always_cons.mp hlaw
    have hdone := hlater e List.mem_cons_self
    rw [List.cons_append, calls, ofEvents]
    rcases ih (fun f hf => hlater f (List.mem_cons_of_mem e hf)) hlaw with
      ⟨hrunning, hcalls⟩ | ⟨hagain, hcalls⟩
    · rw [hrunning, hcalls]
      cases e with
      | started =>
        have hwaiting : ofEvents (later ++ earlier) = .waiting := hstart
        rw [hrunning] at hwaiting
        cases hwaiting
      | completed => cases hdone
      | enqueued | ended => exact .inl ⟨rfl, rfl⟩
      | received | retried => exact .inr ⟨rfl, rfl⟩
    · rw [hagain, hcalls]
      cases e with
      | started =>
        have hwaiting : ofEvents (later ++ earlier) = .waiting := hstart
        rw [hagain] at hwaiting
        cases hwaiting
      | completed => cases hdone
      | enqueued | ended | received | retried => exact .inr ⟨rfl, rfl⟩

end QueueLog

/-! ### The standing in a bookkeeping -/

variable {κ ε : Type} [KeyOrder κ]

namespace Bookkeeping

/-- How a key stands in a bookkeeping: whether it is active and dirty, and otherwise whether it is
queued. -/
def standing (b : Bookkeeping κ) (k : κ) : Standing :=
  if b.active.contains k = true then
    if b.dirty.contains k = true then .again else .running
  else if b.queued.contains k = true then .waiting else .idle

variable {b d : Bookkeeping κ} {j k : κ}

/-- The standing depends on the waiting, active and dirty keys only. -/
theorem standing_of_sameKeys (h : b.SameKeys d) (k : κ) : d.standing k = b.standing k := by
  rw [standing, standing, h.active, h.dirty, h.queued]

/-- A key in the list of those that wait has that standing, since the places of a consistent
bookkeeping agree. -/
theorem standing_of_waiting (h : b.Consistent) (hk : k ∈ b.ready) : b.standing k = .waiting := by
  have hqueued := (h.queued_iff k).mpr hk
  simp [standing, h.disjoint hk, hqueued]

/-- An active key is running or to run again, so that it is not idle and does not wait. -/
theorem standing_of_active (hk : b.active.contains k = true) :
    b.standing k = .running ∨ b.standing k = .again := by
  rw [standing, if_pos hk]
  split
  · exact .inr rfl
  · exact .inl rfl

/-- A key for which something is to be done waits or is active. -/
theorem Consistent.of_standing_ne_idle (h : b.Consistent) (hk : b.standing k ≠ .idle) :
    k ∈ b.ready ∨ b.active.contains k = true := by
  rw [← h.queued_iff]
  rw [standing] at hk
  split at hk
  · exact .inr ‹_›
  · split at hk
    · exact .inl ‹_›
    · exact absurd rfl hk

/-- A reconcile is owed to the keys that wait and to those that are active and dirty. -/
theorem Consistent.isOwed_iff (h : b.Consistent) :
    (b.standing k).isOwed = true ↔
      k ∈ b.ready ∨ (b.active.contains k = true ∧ b.dirty.contains k = true) := by
  rw [← h.queued_iff]
  rw [standing]
  by_cases hactive : b.active.contains k = true
  · have hqueued : b.queued.contains k = false := by
      rw [Bool.eq_false_iff, Ne, h.queued_iff]
      exact h.not_mem_ready hactive
    by_cases hdirty : b.dirty.contains k = true <;>
      simp [hactive, hqueued, hdirty, Standing.isOwed]
  · by_cases hqueued : b.queued.contains k = true <;> simp [hactive, hqueued, Standing.isOwed]

/-- Pushing a key is a wake-up of that key. -/
theorem standing_push_self (b : Bookkeeping κ) (k : κ) :
    (b.push k).standing k = (b.standing k).woken := by
  have hadd : ∀ s : SortedSet κ, (s.add k).contains k = true :=
    fun s => SortedSet.contains_add_iff.mpr (.inl rfl)
  rw [push]
  split
  · rename_i hactive
    by_cases hdirty : b.dirty.contains k = true <;>
      simp [standing, hactive, hadd, hdirty, Standing.woken]
  · rename_i hactive
    split
    · rename_i hqueued
      simp [standing, hactive, hqueued, Standing.woken]
    · rename_i hqueued
      simp [standing, hactive, hqueued, hadd, Standing.woken]

/-- Pushing a key leaves the others as they stand. -/
theorem standing_push_of_ne (b : Bookkeeping κ) (h : j ≠ k) :
    (b.push k).standing j = b.standing j := by
  have hadd : ∀ s : SortedSet κ, (s.add k).contains j = s.contains j := by
    intro s
    rw [Bool.eq_iff_iff, SortedSet.contains_add_iff, or_iff_right h]
  rw [push]
  split
  · simp [standing, hadd]
  split
  · rfl
  · simp [standing, hadd]

/-- The key that becomes active has waited until then. -/
theorem standing_next_self (h : b.Consistent) (hd : b.next? = some (k, d)) :
    b.standing k = .waiting ∧ d.standing k = .running := by
  obtain ⟨rest, hready, rfl⟩ := next?_eq_some hd
  have hk : k ∈ b.ready := by simp [hready]
  have hdirty : b.dirty.contains k = false := by
    rw [Bool.eq_false_iff]
    intro hdirty
    have hactive := h.active_of_dirty hdirty
    rw [h.disjoint hk] at hactive
    cases hactive
  refine ⟨standing_of_waiting h hk, ?_⟩
  have hactive : (b.active.add k).contains k = true := SortedSet.contains_add_iff.mpr (.inl rfl)
  simp [standing, hactive, hdirty]

/-- The other keys stand as before when one becomes active. -/
theorem standing_next_of_ne (hd : b.next? = some (k, d)) (hj : j ≠ k) :
    d.standing j = b.standing j := by
  obtain ⟨rest, -, rfl⟩ := next?_eq_some hd
  have hadd : (b.active.add k).contains j = b.active.contains j := by
    rw [Bool.eq_iff_iff, SortedSet.contains_add_iff, or_iff_right hj]
  have herase : (SortedMap.erase b.queued k).contains j = b.queued.contains j := by
    rw [Bool.eq_iff_iff, SortedMap.contains_erase_iff, and_iff_right hj]
  simp [standing, hadd, herase]

/-- The key of a reconcile that is over rests, or waits once more. -/
theorem standing_finish_self (h : b.Consistent) (hk : b.active.contains k = true) :
    (b.finish k).standing k = (b.standing k).rested := by
  have herase : ∀ s : SortedSet κ, (s.erase k).contains k = false := by
    intro s
    rw [Bool.eq_false_iff, Ne, SortedMap.contains_erase_iff]
    exact fun hself => hself.1 rfl
  have hqueued : b.queued.contains k = false := by
    rw [Bool.eq_false_iff, Ne, h.queued_iff]
    exact h.not_mem_ready hk
  unfold finish
  simp only
  split
  · rename_i hdirty
    rw [standing_push_self]
    simp [standing, herase, hqueued, hk, hdirty, Standing.woken, Standing.rested]
  · rename_i hdirty
    simp [standing, herase, hqueued, hk, hdirty, Standing.rested]

/-- The other keys stand as before when the reconcile of one is over. -/
theorem standing_finish_of_ne (b : Bookkeeping κ) (hj : j ≠ k) :
    (b.finish k).standing j = b.standing j := by
  have herase : ∀ s : SortedSet κ, (s.erase k).contains j = s.contains j := by
    intro s
    rw [Bool.eq_iff_iff, SortedMap.contains_erase_iff, and_iff_right hj]
  unfold finish
  simp only
  split
  · rw [standing_push_of_ne _ hj]
    simp [standing, herase]
  · simp [standing, herase]

end Bookkeeping

/-! ### The standing in a history -/

namespace Controller

/-- The end of a reconcile waits to be taken up and does not touch the bookkeeping. -/
theorem book_endRun (c : Controller κ ε) (now : Instant) (k : κ) (outcome : Outcome ε) :
    (c.endRun now k outcome).book = c.book := by
  rw [endRun]
  split <;> rfl

/-- The end of a reconcile leaves the keys in the inbox. -/
theorem inbox_endRun (c : Controller κ ε) (now : Instant) (k : κ) (outcome : Outcome ε) :
    (c.endRun now k outcome).inbox = c.inbox := by
  rw [endRun]
  split <;> rfl

/-- The end of a reconcile is no matter of the stage, the alarms and the retries. -/
theorem endRun_frame (c : Controller κ ε) (now : Instant) (k : κ) (outcome : Outcome ε) :
    let d := c.endRun now k outcome
    d.stage = c.stage ∧ d.signalled = c.signalled ∧ d.alarms = c.alarms ∧
      d.metrics.requeues = c.metrics.requeues := by
  rw [endRun]
  split <;> exact ⟨rfl, rfl, rfl, rfl⟩

/-- Taking up the end of a reconcile leaves the keys in the inbox. -/
theorem inbox_complete (policy : QueuePolicy ε) (now : Instant) (c : Controller κ ε) (k : κ)
    (outcome : Outcome ε) : (c.complete policy now k outcome).inbox = c.inbox :=
  (complete_frame policy now c k outcome).1

end Controller

namespace History

open QueueLog (about about_cons_self about_cons_of_ne apply_about_cons)

variable {policy : QueuePolicy ε} {c : Controller κ ε} {log : QueueLog κ ε}

/-- The key of a reconcile whose end is to be taken up is active. -/
theorem active_of_ended {k : κ} {outcome : Outcome ε} (h : History policy c log)
    (hstage : c.stage = .serving) (hended : (k, outcome) ∈ c.ended) :
    c.book.active.contains k = true := by
  have hgoes : c.isOver = false := by simp [Controller.isOver, hstage]
  rw [h.orderly.active_iff hgoes, Controller.inFlightKeys, List.mem_append]
  exact .inr (List.mem_map_of_mem hended)

/-- The bookkeeping holds the standing that what happened to a key leads to. This is the invariant
on which every statement about a single key rests; each event of a history is one case of its
proof. -/
theorem standing_eq (h : History policy c log) (k : κ) :
    c.book.standing k = .ofEvents (about k log) := by
  induction h with
  | initial => rfl
  | begin _ ih | signal _ ih | roll _ _ _ ih | postpone _ _ _ _ _ ih | ignore _ _ _ _ ih
  | drain _ _ ih | collapse _ _ _ ih | stop _ _ ih => exact ih
  | enqueue _ _ ih => exact ih.trans (apply_about_cons (fun _ => rfl) _ _ _).symm
  | finish _ _ _ _ ih =>
    rw [Controller.book_endRun]
    exact ih.trans (apply_about_cons (fun _ => rfl) _ _ _).symm
  | @complete c log j outcome rest now hstage hended h ih =>
    have hsame := Controller.sameKeys_weigh policy now { c with ended := rest } j outcome
    have hbook := h.orderly.book.of_sameKeys hsame
    show (Bookkeeping.finish _ j).standing k = _
    by_cases hj : k = j
    · subst hj
      have hactive := h.active_of_ended hstage (hended ▸ List.mem_cons_self)
      rw [about_cons_self, Bookkeeping.standing_finish_self hbook (hsame.active ▸ hactive),
        Bookkeeping.standing_of_sameKeys hsame, ih]
      rfl
    · rw [about_cons_of_ne (Ne.symm hj), Bookkeeping.standing_finish_of_ne _ hj,
        Bookkeeping.standing_of_sameKeys hsame, ih]
  | @retry c log _ _ _ j _ _ _ _ _ ih =>
    show (Bookkeeping.push _ j).standing k = _
    by_cases hj : k = j
    · subst hj
      rw [about_cons_self, Bookkeeping.standing_push_self]
      exact congrArg Standing.woken ih
    · rw [about_cons_of_ne (Ne.symm hj), Bookkeeping.standing_push_of_ne _ hj]
      exact ih
  | @receive c log j _ _ _ _ ih =>
    show (c.book.push j).standing k = _
    by_cases hj : k = j
    · subst hj
      rw [about_cons_self, Bookkeeping.standing_push_self]
      exact congrArg Standing.woken ih
    · rw [about_cons_of_ne (Ne.symm hj), Bookkeeping.standing_push_of_ne _ hj]
      exact ih
  | @start c log j book now _ hnext _ h ih =>
    show book.standing k = _
    by_cases hj : k = j
    · subst hj
      obtain ⟨-, hrunning⟩ := Bookkeeping.standing_next_self h.orderly.book hnext
      rw [about_cons_self, hrunning]
      rfl
    · rw [about_cons_of_ne (Ne.symm hj), Bookkeeping.standing_next_of_ne hnext hj]
      exact ih

/-- A reconcile is only started when the key waits, in every history and for every key. -/
theorem startsWaiting (h : History policy c log) (k : κ) :
    QueueLog.Always QueueLog.StartsWaiting (about k log) := by
  induction h with
  | initial => exact QueueLog.always_nil
  | begin _ ih | signal _ ih | roll _ _ _ ih | postpone _ _ _ _ _ ih | ignore _ _ _ _ ih
  | drain _ _ ih | collapse _ _ _ ih | stop _ _ ih => exact ih
  | enqueue _ _ ih | finish _ _ _ _ ih | complete _ _ _ _ ih | retry _ _ _ _ _ ih
  | receive _ _ _ ih => exact QueueLog.always_about_cons ih fun _ => trivial
  | @start c log j book now _ hnext _ h ih =>
    refine QueueLog.always_about_cons ih ?_
    rintro rfl
    obtain ⟨hwaiting, -⟩ := Bookkeeping.standing_next_self h.orderly.book hnext
    exact (h.standing_eq j).symm.trans hwaiting

end History

end WorkspaceAccess
