import WorkspaceAccess.Proofs.Queue.Retry

/-!
# Failures in a Row

The delay before a retry grows with the number of failures in a row, and the bookkeeping keeps that
number for every key that has failed. The events of a key tell it as well: its reconciles that ended
without success, back to the newest success (`QueueLog.streak`). The two differ as long as an end
was not taken up: the events know of it, and the bookkeeping does not. `Tallies` says how they are
related in both cases, and a key has one such end at most, since it stays active until then.

The number that is kept is bounded by the largest that fits in 32 bits, and no number is kept for a
key that has not failed since its newest success (`Bookkeeping.kept`). So the number of failures in
a row is unbounded, and what is kept of it is the lesser of the two.

Almost nothing that a controller does changes the number: it is raised when a failure is weighed and
forgotten when a success is. The first half of the module says so for every operation, in the shape
that the induction on histories asks for.

## Main results

* `failures_push`, `failures_finish`, `failures_retry`, `failures_next`: the operations of the
  bookkeeping that move keys leave the failures alone.
* `retries_schedule?`, `Controller.retries_retryLater`: of two times for the retry of a key the
  earlier one is recorded.
* `Controller.failures_weigh_self`, `Controller.failures_weigh_of_ne`: what taking up an end does to
  the number of its key, and that it does nothing to those of others.
* `History.not_mem_ended`: a key that runs has no end that was not taken up.
* `History.tallies`: the number that is kept of a key is that of its events, by induction on the
  history.
-/

namespace WorkspaceAccess

namespace QueueLog

variable {ε : Type}

/-- How many reconciles failed or were cut short in a row, up to the newest one that ended. A
success breaks the row, and no other event matters. -/
def streak : List (QueueEvent ε) → Nat
  | [] => 0
  | .ended outcome :: earlier => if outcome.isFailure then streak earlier + 1 else 0
  | .enqueued :: earlier | .received :: earlier | .retried _ :: earlier | .started :: earlier
  | .completed .. :: earlier => streak earlier

end QueueLog

variable {κ ε : Type} [KeyOrder κ] {policy : QueuePolicy ε}

/-! ### The number that is kept -/

namespace Bookkeeping

variable {b d : Bookkeeping κ} {k : κ} {n : Nat}

/-- What is kept of so many failures in a row: nothing if there are none. -/
def kept (n : Nat) : Option Nat := if n = 0 then none else some (min n maxFailures)

/-- The number that is kept is that of the failures in a row, as far as they are counted. -/
theorem getD_kept (n : Nat) : (kept n).getD 0 = min n maxFailures := by
  cases n with
  | zero => rfl
  | succ n => rfl

/-- The number of a key that has failed once more. -/
theorem failuresOf_fail (h : b.failures.get? k = kept n) :
    (b.fail k).failuresOf k = min (n + 1) maxFailures := by
  have hold : b.failures.getD k 0 = min n maxFailures := by
    rw [SortedMap.getD, h, getD_kept]
  have hnew : (b.fail k).failuresOf k = min (b.failures.getD k 0 + 1) maxFailures := by
    rw [failuresOf, fail, SortedMap.getD, SortedMap.get?_insert_self]
    rfl
  rw [hnew, hold]
  omega

/-- Pushing a key leaves the failures of all keys alone. -/
theorem failures_push (b : Bookkeeping κ) (k : κ) : (b.push k).failures = b.failures := by
  rw [push]
  split
  · rfl
  split <;> rfl

/-- The end of a reconcile has been weighed by the time its key is done with, so that the failures
stay. -/
theorem failures_finish (b : Bookkeeping κ) (k : κ) : (b.finish k).failures = b.failures := by
  unfold finish
  simp only
  split
  · exact failures_push _ _
  · rfl

/-- A retry that has come does not count as a success, so that the failures in a row go on. -/
theorem failures_retry (b : Bookkeeping κ) (k : κ) : (b.retry k).failures = b.failures :=
  failures_push _ _

/-- Starting the reconcile of a key leaves the failures alone. -/
theorem failures_next (h : b.next? = some (k, d)) : d.failures = b.failures := by
  obtain ⟨rest, -, rfl⟩ := next?_eq_some h
  rfl

/-- Of two times for the retry of a key the earlier one is recorded. -/
theorem retries_schedule? (b : Bookkeeping κ) (k : κ) (time : Instant) :
    ((b.schedule? k time).getD b).retries.get? k =
      some ((b.retries.get? k).elim time (min time ·)) := by
  rw [schedule?]
  cases hpending : b.retries.get? k with
  | none => exact SortedMap.get?_insert_self _ _ _
  | some pending =>
    by_cases hearlier : pending ≤ time
    · simp [hearlier, hpending]
    · simp [hearlier, Nat.min_eq_left (Nat.le_of_not_le hearlier)]

end Bookkeeping

namespace Controller

open Bookkeeping (kept)

variable {c : Controller κ ε} {now : Instant} {k : κ} {n : Nat}

/-- Recording a retry leaves the failures alone, whether or not an earlier one is recorded. -/
theorem failures_retryLater (c : Controller κ ε) (now : Instant) (k : κ) (delay : Span) :
    (c.retryLater now k delay).book.failures = c.book.failures := by
  rcases retryLater_cases c now k delay with ⟨-, hsame⟩ | hanew
  · rw [hsame]
  · rw [hanew]

/-- The bookkeeping after a retry is the one in which it is scheduled, or the one from before when a
retry that is not later is recorded. -/
theorem book_retryLater (c : Controller κ ε) (now : Instant) (k : κ) (delay : Span) :
    (c.retryLater now k delay).book = (c.book.schedule? k (now + delay.toNanos)).getD c.book := by
  unfold retryLater
  simp only
  split
  · rename_i hnone
    rw [hnone]
    rfl
  · rename_i hsome
    rw [hsome]
    rfl

/-- The earlier one of the retry that was recorded and the one that is asked for is recorded. -/
theorem retries_retryLater (c : Controller κ ε) (now : Instant) (k : κ) (delay : Span) :
    (c.retryLater now k delay).book.retries.get? k =
      some ((c.book.retries.get? k).elim (now + delay.toNanos) (min (now + delay.toNanos) ·)) := by
  rw [book_retryLater]
  exact Bookkeeping.retries_schedule? _ _ _

/-- A success that asks for a retry has it recorded, whatever was before. -/
theorem retries_weigh_requeue (policy : QueuePolicy ε) (now : Instant) (c : Controller κ ε) (k : κ)
    (delay : Span) :
    (c.weigh policy now k (.success (.requeue delay))).book.retries.get? k =
      some (now + delay.toNanos) := by
  have hforgot : (c.book.settle k).retries.get? k = none := SortedMap.get?_erase_self _ _
  have hlater := retries_retryLater { c with book := c.book.settle k } now k delay
  rw [hforgot, Option.elim_none] at hlater
  exact hlater

/-- The retry that is asked for does not change what is kept of failures. -/
theorem failures_weigh (policy : QueuePolicy ε) (now : Instant) (c : Controller κ ε) (k : κ)
    (outcome : Outcome ε) :
    (c.weigh policy now k outcome).book.failures =
      if outcome.isFailure then (c.book.fail k).failures else (c.book.settle k).failures := by
  cases outcome with
  | success action =>
    cases action with
    | done => rfl
    | requeue delay => exact failures_retryLater _ _ _ _
  | failure error => exact failures_retryLater _ _ _ _
  | panic => exact failures_retryLater _ _ _ _

/-- What is kept of a key after one more reconcile of it. -/
theorem failures_weigh_self (policy : QueuePolicy ε) (now : Instant) (outcome : Outcome ε)
    (h : c.book.failures.get? k = kept n) :
    (c.weigh policy now k outcome).book.failures.get? k =
      kept (if outcome.isFailure then n + 1 else 0) := by
  have hfail : (c.book.fail k).failures.get? k = kept (n + 1) := by
    have hnumber := Bookkeeping.failuresOf_fail h
    rw [Bookkeeping.failuresOf, SortedMap.getD] at hnumber
    simpa [Bookkeeping.fail, kept] using hnumber
  have hsettle : (c.book.settle k).failures.get? k = kept 0 := SortedMap.get?_erase_self _ _
  rw [failures_weigh]
  cases outcome.isFailure with
  | true => exact hfail
  | false => exact hsettle

/-- What is kept of other keys does not change. -/
theorem failures_weigh_of_ne {j : κ} (policy : QueuePolicy ε) (now : Instant)
    (c : Controller κ ε) (outcome : Outcome ε) (hj : j ≠ k) :
    (c.weigh policy now k outcome).book.failures.get? j = c.book.failures.get? j := by
  have hfail : (c.book.fail k).failures.get? j = c.book.failures.get? j :=
    SortedMap.get?_insert_of_ne hj
  have hsettle : (c.book.settle k).failures.get? j = c.book.failures.get? j :=
    SortedMap.get?_erase_of_ne hj
  rw [failures_weigh]
  cases outcome.isFailure with
  | true => exact hfail
  | false => exact hsettle

/-- What is kept of a key are so many failures in a row, and the events tell of one end more if
that was not taken up. -/
structure Tallies (c : Controller κ ε) (log : QueueLog κ ε) (k : κ) (n : Nat) : Prop where
  /-- The number is kept, or none is if it is zero. -/
  kept : c.book.failures.get? k = kept n
  /-- It is the number that the events tell, unless an end was not taken up. -/
  settled : k ∉ c.ended.map (·.1) → QueueLog.streak (QueueLog.about k log) = n
  /-- An end that was not taken up is one failure more, or the success after them. -/
  pending {outcome : Outcome ε} : (k, outcome) ∈ c.ended →
    QueueLog.streak (QueueLog.about k log) = if outcome.isFailure then n + 1 else 0

/-- Numbers are about the failures and the ends that were not taken up, and about nothing else. -/
theorem Tallies.of_frame {d : Controller κ ε} {log log' : QueueLog κ ε} (h : c.Tallies log k n)
    (hfailures : d.book.failures = c.book.failures) (hended : d.ended = c.ended)
    (hlog : QueueLog.streak (QueueLog.about k log') = QueueLog.streak (QueueLog.about k log)) :
    d.Tallies log' k n := by
  refine ⟨?_, ?_, ?_⟩
  · rw [hfailures]
    exact h.kept
  · rw [hended, hlog]
    exact h.settled
  · rw [hended, hlog]
    exact h.pending

end Controller

/-! ### The number along a history -/

namespace History

open QueueLog (about about_cons_self about_cons_of_ne apply_about_cons streak)

variable {c : Controller κ ε} {log : QueueLog κ ε}

/-- A key has one end at most that was not taken up. -/
theorem not_mem_ended {run : Run κ} (h : History policy c log) (hrun : run ∈ c.running) :
    run.key ∉ c.ended.map (·.1) := by
  have hflight := h.orderly.nodup
  rw [Controller.inFlightKeys, List.nodup_append] at hflight
  obtain ⟨-, -, hapart⟩ := hflight
  exact fun hended => hapart _ (List.mem_map_of_mem hrun) _ hended rfl

/-- The number that is kept of a key is that of its events. The induction is on the history, and
only the end of a reconcile and its being taken up are cases with something to prove. -/
theorem tallies (h : History policy c log) (k : κ) : ∃ n, c.Tallies log k n := by
  induction h with
  | initial => exact ⟨0, rfl, fun _ => rfl, nofun⟩
  | begin _ ih | signal _ ih | roll _ _ _ ih | postpone _ _ _ _ _ ih | ignore _ _ _ _ ih
  | drain _ _ ih | collapse _ _ _ ih | stop _ _ ih =>
    obtain ⟨n, hn⟩ := ih
    exact ⟨n, hn.of_frame rfl rfl rfl⟩
  | enqueue _ _ ih =>
    obtain ⟨n, hn⟩ := ih
    exact ⟨n, hn.of_frame rfl rfl (apply_about_cons (fun _ => rfl) _ _ _)⟩
  | retry _ _ _ _ _ ih =>
    obtain ⟨n, hn⟩ := ih
    exact ⟨n, hn.of_frame (Bookkeeping.failures_retry _ _) rfl
      (apply_about_cons (fun _ => rfl) _ _ _)⟩
  | receive _ _ _ ih =>
    obtain ⟨n, hn⟩ := ih
    exact ⟨n, hn.of_frame (Bookkeeping.failures_push _ _) rfl
      (apply_about_cons (fun _ => rfl) _ _ _)⟩
  | start _ _ hnext _ _ ih =>
    obtain ⟨n, hn⟩ := ih
    exact ⟨n, hn.of_frame (Bookkeeping.failures_next hnext) rfl
      (apply_about_cons (fun _ => rfl) _ _ _)⟩
  | @finish c log run now outcome hrun h ih =>
    obtain ⟨n, hn⟩ := ih
    have hended := Controller.ended_endRun now outcome hrun
    refine ⟨n, ?_, ?_, ?_⟩
    · rw [Controller.book_endRun]
      exact hn.kept
    · intro hk
      simp only [hended, List.map_append, List.mem_append, not_or] at hk
      have hne : run.key ≠ k := fun hrunk => hk.2 (by simp [hrunk])
      rw [about_cons_of_ne hne]
      exact hn.settled hk.1
    · intro out hout
      rw [hended, List.mem_append, List.mem_singleton] at hout
      by_cases hk : run.key = k
      · subst hk
        have hnew : out = outcome := by
          rcases hout with hold | hnew
          · exact absurd (List.mem_map_of_mem hold) (h.not_mem_ended hrun)
          · exact (Prod.mk.inj hnew).2
        rw [about_cons_self, streak, hn.settled (h.not_mem_ended hrun), hnew]
      · rw [about_cons_of_ne hk]
        refine hn.pending (hout.resolve_right ?_)
        rintro ⟨⟩
        exact hk rfl
  | @complete c log j outcome rest now _ hended h ih =>
    obtain ⟨n, hn⟩ := ih
    have hrest : (Controller.complete policy now { c with ended := rest } j outcome).ended = rest :=
      (Controller.complete_frame policy now _ _ _).2.1
    by_cases hk : k = j
    · subst hk
      have hflight := h.orderly.nodup
      rw [Controller.inFlightKeys, hended] at hflight
      obtain ⟨hnone, -⟩ := List.nodup_cons.mp (List.nodup_append.mp hflight).2.1
      refine ⟨if outcome.isFailure then n + 1 else 0, ?_, fun _ => ?_, fun hout => ?_⟩
      · show (Bookkeeping.finish _ k).failures.get? k = _
        rw [Bookkeeping.failures_finish]
        exact Controller.failures_weigh_self policy now outcome hn.kept
      · rw [about_cons_self]
        exact hn.pending (hended ▸ List.mem_cons_self)
      · rw [hrest] at hout
        exact absurd (List.mem_map_of_mem hout) hnone
    · refine ⟨n, ?_, fun hnot => ?_, fun hout => ?_⟩
      · show (Bookkeeping.finish _ j).failures.get? k = _
        rw [Bookkeeping.failures_finish, Controller.failures_weigh_of_ne _ _ _ _ hk]
        exact hn.kept
      · rw [hrest] at hnot
        rw [about_cons_of_ne (Ne.symm hk)]
        refine hn.settled ?_
        rw [hended, List.map_cons, List.mem_cons, not_or]
        exact ⟨hk, hnot⟩
      · rw [hrest] at hout
        rw [about_cons_of_ne (Ne.symm hk)]
        exact hn.pending (hended ▸ List.mem_cons_of_mem _ hout)

end History

end WorkspaceAccess
