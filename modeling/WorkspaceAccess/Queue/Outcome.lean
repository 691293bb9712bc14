import WorkspaceAccess.Time.Span

/-!
# Outcomes of a Reconcile

A reconcile of a key succeeds, and then says whether the key is to be looked at again after a delay,
or it fails with an error of its own, or it is cut short without any result.

The three are kept apart because they have different consequences. A success forgets the failures
before it, and a failure counts one more and is retried after a delay that depends on its error. A
reconcile that was cut short counts like a failure but has no error, so its delay is that of the
standard backoff. What is done for each of them is said in `Controller.weigh`.
-/

namespace WorkspaceAccess

/-- What a controller does with a key after a successful reconcile. -/
inductive Action where
  /-- Nothing until the key is enqueued again. -/
  | done
  /-- The key is reconciled again after a delay, though nothing has failed. -/
  | requeue (delay : Span)
  deriving DecidableEq

/-- How a reconcile ended, for errors of one type. -/
inductive Outcome (ε : Type) where
  /-- The reconcile succeeded, and says when to come back. -/
  | success (action : Action)
  /-- It failed with an error. -/
  | failure (error : ε)
  /-- The reconcile was cut short and has no result. -/
  | panic
  deriving DecidableEq

namespace Outcome

variable {ε : Type}

/-- The outcome of a reconcile that came to its result, whatever that is. -/
def ofResult : Except ε Action → Outcome ε
  | .ok action => success action
  | .error error => failure error

/-- The reconcile did not succeed, so it counts as a failure. -/
def isFailure : Outcome ε → Bool
  | success _ => false
  | _ => true

end Outcome

end WorkspaceAccess
