import WorkspaceAccess.Proofs.Queue.Retry
import WorkspaceAccess.Proofs.Queue.Wakeup

/-!
# Quiet Controllers

A controller is quiet when nothing is in its inbox, no key waits, none is active and none is to be
retried. Then it has done everything that it was asked for: every key that was enqueued was
reconciled since, and every reconcile that left something to do was followed by another one.

A key is active from the start of its reconcile until the end of it is taken up, so that nothing is
in flight in a quiet controller either. It need not be said in the definition.

Nothing is said about whether a controller becomes quiet: that depends on its keys, some of which
may fail for ever. But a program whose controllers are quiet has come to an end of what it was asked
for, and what it has left behind by then can be compared with what it was asked for. This is where
the state of the bookkeeping turns into a statement about the past: by `History.owed_of_enqueued` a
key that was enqueued lies in one of three places until its next start, and by
`QueueLog.looked_after` a key whose reconcile left something to do is never forgotten.

## Main results

* `History.looked_after`: a key whose newest reconcile left something to do waits, is active or is
  to be retried.
* `History.of_quiet`: in a quiet controller nothing runs, every key that was enqueued was reconciled
  since, and the newest reconcile of every key left nothing to do.
-/

namespace WorkspaceAccess

variable {κ ε : Type} [KeyOrder κ] {policy : QueuePolicy ε} {c : Controller κ ε}
  {log : QueueLog κ ε}

/-- Nothing is left to do for a controller, and nothing is on the way to it. -/
structure Controller.IsQuiet (c : Controller κ ε) : Prop where
  /-- Nothing was enqueued and not taken up. -/
  inbox : c.inbox = []
  /-- No key waits. -/
  ready : c.book.ready = []
  /-- No reconcile is in flight. -/
  active (k : κ) : c.book.active.contains k = false
  /-- No retry is recorded. -/
  retries (k : κ) : c.book.retries.get? k = none

namespace History

open QueueLog (about lately lastOutcome?)

/-- A key whose newest reconcile left something to do waits, is active or is to be retried. -/
theorem looked_after (h : History policy c log) {k : κ} {outcome : Outcome ε}
    (hlast : lastOutcome? (about k log) = some outcome) (hleft : outcome ≠ .success .done) :
    k ∈ c.book.ready ∨ c.book.active.contains k = true ∨
      (c.book.retries.get? k).isSome = true := by
  rcases QueueLog.looked_after (h.keepsRetries k) hlast hleft with hbusy | hrecorded
  · rw [← h.standing_eq] at hbusy
    rcases h.orderly.book.of_standing_ne_idle hbusy with hready | hactive
    · exact .inl hready
    · exact .inr (.inl hactive)
  · exact .inr (.inr (h.retries_eq k ▸ hrecorded))

/-- In a quiet controller nothing runs, every key that was enqueued was reconciled since, and the
newest reconcile of every key left nothing to do. -/
theorem of_quiet (h : History policy c log) (hquiet : c.IsQuiet) :
    c.running = [] ∧ ∀ k, lately QueueEvent.isEnqueued (about k log) = false ∧
      ∀ outcome, lastOutcome? (about k log) = some outcome → outcome = .success .done := by
  have hidle : ∀ k, c.book.active.contains k ≠ true := fun k =>
    Bool.eq_false_iff.mp (hquiet.active k)
  refine ⟨List.eq_nil_iff_forall_not_mem.mpr fun run hrun => ?_, fun k => ⟨?_, ?_⟩⟩
  · exact hidle run.key (h.orderly.active_of_running hrun)
  · rw [Bool.eq_false_iff]
    intro hsent
    rcases h.owed_of_enqueued k hsent with hinbox | hready | ⟨hactive, -⟩
    · rw [hquiet.inbox] at hinbox
      cases hinbox
    · rw [hquiet.ready] at hready
      cases hready
    · exact hidle k hactive
  · intro outcome hlast
    by_contra hleft
    rcases h.looked_after hlast hleft with hready | hactive | hretry
    · rw [hquiet.ready] at hready
      cases hready
    · exact hidle k hactive
    · rw [hquiet.retries] at hretry
      cases hretry

end History

end WorkspaceAccess
