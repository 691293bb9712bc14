import WorkspaceAccess.Access.Roster
import WorkspaceAccess.Backoff
import WorkspaceAccess.Queue.Outcome
import WorkspaceAccess.Reconcile.Activity
import WorkspaceAccess.SyncStatus
import WorkspaceAccess.Trigger

/-!
# Sweeps

A sweep brings the access bindings of all workspaces up to date. It connects to the remote control
plane, reads the workspaces that are ready and the complete roster, and then writes the binding of
every one of these workspaces, one after the other, each from the same list of subjects.

The course of a sweep is an `Activity`, so everything it does to the world outside is one of the
calls of `WorkspaceAccess.Reconcile.Call`, and what the world answers is not fixed by its
definition. `reconcile` is made of three parts.

* `readBasis` makes the three reads. The first that fails ends the sweep; all three together have to
  end before the deadline. Nothing has been written up to here.
* `writeBindings` goes through the workspaces in the order of their listing. A workspace that fails
  does not keep the sweep from the others. Each write is given up when the deadline passes, and from
  then on the workspaces that are left are abandoned, with no request made for them.
* `recordStatus` writes the outcome onto the staff member that triggered the sweep, if it was
  triggered by one. A deadline does not bound this write.

The counts are reported for the metrics between the second part and the third. The result is that
everything is done, or a `Failure` that says why the sweep is to be tried again; `Config.retryAfter`
says how long after.

A sweep takes the roster once, at its beginning. Sweeps that overlap may therefore write the rosters
of different moments; `WorkspaceAccess.Proofs.Access.Snapshot` and
`WorkspaceAccess.Proofs.Access.Convergence` say what follows from this.
-/

namespace WorkspaceAccess

namespace Sweep

/-- The name under which the controller is known to servers and in its metrics. -/
def controllerName : String := "staff-access"

/-- When a failed sweep is tried again: failures that may pass by themselves are tried again soon
and then less and less often, the others at a fixed interval. -/
structure Config where
  /-- How the delay grows with the failures in a row that may pass by themselves. -/
  backoff : Backoff
  /-- The delay after a failure of the configuration, which needs an operator. -/
  configRetryInterval : Span
  deriving DecidableEq

/-- The standard backoff, and five minutes where an operator is needed. -/
def Config.standard : Config := ⟨Backoff.standard, Span.ofSeconds 300⟩

/-- Why the binding of a workspace was not written: because its write failed, or because there was
no time left for it. -/
inductive WorkspaceFailure where
  /-- The remote control plane refused the write or could not be reached. -/
  | remote (error : RemoteError)
  /-- The deadline passed before the workspace was updated. -/
  | abandoned
  deriving DecidableEq

/-- What is said about a workspace whose binding was not written. The error of a write that failed
speaks for itself. -/
def WorkspaceFailure.message : WorkspaceFailure → String
  | remote error => error.message
  | abandoned => "deadline exceeded before the workspace was updated"

/-- What came of writing the bindings. It is filled in workspace by workspace, and its numbers are
what the status, the metrics and the result of the sweep are computed from. -/
structure Outcome where
  /-- The number of subjects of the bindings, the same for every workspace. -/
  subjects : Nat
  /-- The number of workspaces whose bindings were written. -/
  updated : Nat
  /-- The workspaces whose bindings were not written and why, in the order of the listing. -/
  failures : List (String × WorkspaceFailure)
  deriving DecidableEq

namespace Outcome

/-- The workspaces that the sweep has come to, whatever became of them. -/
def total (o : Outcome) : Nat := o.updated + o.failures.length

/-- One more binding was written. -/
def succeed (o : Outcome) : Outcome := { o with updated := o.updated + 1 }

/-- One more binding was not written; the workspace goes to the end of the list of failures. -/
def fail (o : Outcome) (workspace : String) (failure : WorkspaceFailure) : Outcome :=
  { o with failures := o.failures ++ [(workspace, failure)] }

/-- The counts for the metrics, in which an abandoned workspace counts as one that failed. -/
def counts (o : Outcome) : SweepCounts := ⟨o.subjects, o.updated, o.failures.length⟩

/-- The status to be recorded: all, some or none of the workspaces were updated. -/
def status (o : Outcome) : SyncStatus := .ofCounts o.failures.length o.total

end Outcome

/-- Why a sweep failed. All of these lead to another sweep; they differ in what was done before and
in the delay. -/
inductive Failure where
  /-- The remote control plane could not be read. -/
  | remote (error : RemoteError)
  /-- The roster could not be listed. -/
  | list (error : ApiError)
  /-- The outcome could not be recorded. -/
  | status (error : ApiError)
  /-- Some workspaces could not be updated, all others were. -/
  | workspaces (total : Nat) (failures : List (String × WorkspaceFailure))
  /-- The deadline passed before everything was read. -/
  | timeout
  deriving DecidableEq

/-- What is said about a failure. Where one error is the reason, its own message follows the step
that failed. -/
def Failure.message : Failure → String
  | remote error => error.message
  | list error => "failed to list staff members: " ++ error.message
  | status error => "failed to record sync status: " ++ error.message
  | workspaces total failures =>
    "failed to update " ++ toString failures.length ++ " of " ++ toString total ++ " workspaces"
  | timeout => "reconcile deadline exceeded"

/-- The delay before a failed sweep is tried again, after so many failures in a row. Only an error
of the remote configuration waits for the longer, fixed interval; all other failures follow the
backoff. -/
def Config.retryAfter (config : Config) (failure : Failure) (failures : Nat) : Span :=
  match failure with
  | .remote error =>
    if error.isConfig then config.configRetryInterval else config.backoff.delay failures
  | _ => config.backoff.delay failures

/-- The annotations that record an outcome on a staff member: the time, the status in words, and the
number of workspaces that were updated. -/
def statusAnnotations (o : Outcome) (now : Timestamp) : Annotations :=
  .ofList [
    (Annotations.lastSynced, now.render),
    (Annotations.syncStatus, o.status.text),
    (Annotations.workspaceCount, toString o.updated)]

variable {σ : Type}

/-- What a sweep starts from: a session, the workspaces and the roster. It is read once, before the
first write, and not again. -/
structure Basis (σ : Type) where
  /-- The session with the remote control plane. -/
  session : σ
  /-- The workspaces that can receive a binding, in the order of the listing. -/
  workspaces : List WorkspaceInfo
  /-- The complete roster, the members without a usable email included. -/
  members : List StaffMember

/-- Reads what a sweep starts from: a session first, with it the workspaces, and the roster last.
The first of these calls that fails ends the reading with its error. -/
def readBasis : Activity σ (Except Failure (Basis σ)) :=
  .await .connect fun
    | .error e => .done (.error (.remote e))
    | .ok session =>
      .await (.listWorkspaces session) fun
        | .error e => .done (.error (.remote e))
        | .ok workspaces =>
          .await .listStaff fun
            | .error e => .done (.error (.list e))
            | .ok members => .done (.ok ⟨session, workspaces, members⟩)

/-- Writes the bindings of the workspaces that are left, until the deadline. Before each write the
clock is looked at: once the deadline has passed, the workspace is abandoned without a request. A
write that is under way when the deadline passes is given up and counts as abandoned too. -/
def writeBindings (session : σ) (subjects : List String) (deadline : Instant) :
    List WorkspaceInfo → Outcome → Activity σ Outcome
  | [], o => .done o
  | ws :: rest, o =>
    .look fun clock =>
      if deadline ≤ clock.instant then
        writeBindings session subjects deadline rest (o.fail ws.name .abandoned)
      else
        .awaitUntil deadline (.writeBinding session ws.name subjects)
          (fun
            | .ok _ => writeBindings session subjects deadline rest o.succeed
            | .error e => writeBindings session subjects deadline rest (o.fail ws.name (.remote e)))
          (writeBindings session subjects deadline rest (o.fail ws.name .abandoned))

/-- Rebuilds the bindings of all workspaces from the roster: reads the basis within the deadline,
then writes one binding after the other, all from the same subjects. -/
def rebuild (deadline : Instant) : Activity σ (Except Failure Outcome) :=
  (readBasis.within deadline).bind fun
    | none => .done (.error .timeout)
    | some (.error e) => .done (.error e)
    | some (.ok basis) =>
      let subjects := Roster.subjects basis.members
      (writeBindings basis.session subjects deadline basis.workspaces
        ⟨subjects.length, 0, []⟩).map .ok

/-- What a finished sweep ends with: nothing is left to be done if all workspaces were updated, and
otherwise a failure that lists the others. -/
def conclude (o : Outcome) : Except Failure Action :=
  if o.failures.isEmpty then .ok .done else .error (.workspaces o.total o.failures)

/-- Records an outcome on a staff member, with the time at which this is done and not the time at
which the sweep began. -/
def recordStatus (id : ResourceId) (o : Outcome) : Activity σ (Except Failure Unit) :=
  .look fun clock =>
    .await (.patchStaff id (statusAnnotations o clock.wall)) fun
      | .error e => .done (.error (.status e))
      | .ok _ => .done (.ok ())

/-- Makes the sweep that a trigger asks for, before a deadline. The sweep itself does not depend on
the trigger; the trigger only decides whether, and on whom, the outcome is recorded. -/
def reconcile (trigger : Trigger) (deadline : Instant) : Activity σ (Except Failure Action) :=
  (rebuild deadline).andThen fun o =>
    .report o.counts
      (match trigger with
        | .staffMember id => (recordStatus id o).andThen fun _ => .done (conclude o)
        | .workspaces => .done (conclude o))

end Sweep

end WorkspaceAccess
