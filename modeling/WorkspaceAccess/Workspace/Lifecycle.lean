import WorkspaceAccess.Queue.Outcome
import WorkspaceAccess.Reconcile.Activity
import WorkspaceAccess.Workspace.Name

/-!
# The Lifecycle of a Workspace

Every project is given a workspace, and the name, the address and the phase of the workspace are
recorded in the annotations of the project. A project without the record of a name asks for the
workspace under the name derived from its own; a recorded workspace is looked up, and asked for
again if it is gone. A workspace that belongs to another project is not taken over.

A reconcile is repeated until nothing is left to do, and each one starts from what is there: it
reads the project, obtains the workspace, and records what it finds. It keeps no state between two
runs, so one that is interrupted at any point is made good by the next. The three annotations are
written together, so that a ready phase is never recorded without an address, and only if one of
them is not there yet; a reconcile that finds everything as it should be writes nothing.

What is left to do is read off the recorded phase: a workspace that is ready or has failed for good
is left alone until the project changes, and any other one is looked at again after the poll
interval. The deadline bounds the whole reconcile, in contrast to that of a sweep.

The modules under `WorkspaceAccess.Proofs.Workspace` have the laws: which workspace a project
obtains and when it may not have one, that an interrupted run is made good by the next, and that a
second run changes nothing.
-/

namespace WorkspaceAccess

namespace Lifecycle

/-- The name under which the controller is known to servers and in its metrics. -/
def controllerName : String := "workspace-lifecycle"

/-- When a workspace is looked at again. These delays are fixed; they do not grow with failures. -/
structure Config where
  /-- How often a workspace that is not ready is looked at. -/
  pollInterval : Span
  /-- The delay after a failure that may pass. -/
  retryInterval : Span
  /-- The delay after a failure that needs an operator. -/
  configRetryInterval : Span
  deriving DecidableEq

/-- Ten seconds, and five minutes where an operator is needed. -/
def Config.standard : Config := ⟨Span.ofSeconds 10, Span.ofSeconds 10, Span.ofSeconds 300⟩

/-- Why a reconcile of a project failed. What it had done until then stays done. -/
inductive Failure where
  /-- The remote control plane refused a call or could not be reached. -/
  | remote (error : RemoteError)
  /-- The project could not be read or written. -/
  | store (error : ApiError)
  /-- The deadline passed before the reconcile came to its end. -/
  | timeout
  deriving DecidableEq

/-- What is said about a failure. The remote control plane speaks for itself. -/
def Failure.message : Failure → String
  | remote error => error.message
  | store error => "failed to update project: " ++ error.message
  | timeout => "reconcile deadline exceeded"

/-- The delay before a project whose reconcile failed is tried again. Errors of the configuration,
and workspaces of other projects, do not go away by themselves and wait longer. -/
def Config.retryAfter (config : Config) : Failure → Span
  | .remote error =>
    if error.isConfig || error.isCollision then config.configRetryInterval
    else config.retryInterval
  | _ => config.retryInterval

/-- The phase to be recorded for a workspace: ready only once its address is known. -/
def recordedPhase (ws : WorkspaceInfo) : Phase :=
  if ws.phase.isReady && ws.url.isNone then .initializing else ws.phase

/-- The annotations that describe a workspace on its project. An address that is not known is
recorded as the empty text. -/
def desiredAnnotations (ws : WorkspaceInfo) : Annotations :=
  .ofList [
    (Annotations.workspaceName, ws.name),
    (Annotations.workspaceUrl, ws.url.getD ""),
    (Annotations.workspacePhase, (recordedPhase ws).text)]

/-- Every desired annotation is there already, so that nothing has to be written. -/
def isRecorded (desired current : Annotations) : Bool :=
  desired.entries.all fun e => current.get? e.1 == some e.2

/-- What is left to do once the phase that is recorded reads this: nothing for a final phase, and
another look after the poll interval for all others. -/
def actionFor (config : Config) (phase : Phase) : Action :=
  if phase.isReady || phase.isTerminal then .done else .requeue config.pollInterval

variable {σ : Type}

/-- Asks for the workspace under the name derived from the project. One that is there already is
accepted or refused by the control plane's side of the call. -/
def create (session : σ) (id : ResourceId) : Activity σ (Except RemoteError WorkspaceInfo) :=
  .await (.createWorkspace session (workspaceName id.name) id.name) .done

/-- The workspace of a project with these annotations: the recorded one if it is there and not
another project's, and the one under the derived name otherwise. -/
def obtain (session : σ) (id : ResourceId) (current : Annotations) :
    Activity σ (Except RemoteError WorkspaceInfo) :=
  match current.get? Annotations.workspaceName with
  | none => create session id
  | some name =>
    .await (.getWorkspace session name) fun
      | .error e => .done (.error e)
      | .ok (some ws) => .done (ws.claim id.name)
      | .ok none => create session id

/-- Records a workspace on its project, unless it is recorded already. A project that has
disappeared in the meantime is left alone. -/
def record (config : Config) (id : ResourceId) (current : Annotations) (ws : WorkspaceInfo) :
    Activity σ (Except Failure Action) :=
  let desired := desiredAnnotations ws
  let action := actionFor config (Phase.ofText? (desired.get? Annotations.workspacePhase))
  if isRecorded desired current then .done (.ok action)
  else
    .await (.patchProject id desired) fun
      | .error e => .done (.error (.store e))
      | .ok false => .done (.ok .done)
      | .ok true => .done (.ok action)

/-- Brings the workspace of a project and the record of it up to date. A project that is gone is no
error, and its workspace stays. -/
def sync (config : Config) (id : ResourceId) : Activity σ (Except Failure Action) :=
  .await (.getProject id) fun
    | .error e => .done (.error (.store e))
    | .ok none => .done (.ok .done)
    | .ok (some project) =>
      .await .connect fun
        | .error e => .done (.error (.remote e))
        | .ok session =>
          (obtain session id project.annotations).bind fun
            | .error e => .done (.error (.remote e))
            | .ok ws => record config id project.annotations ws

/-- Reconciles a project before a deadline, which bounds every call that is made. -/
def reconcile (config : Config) (id : ResourceId) (deadline : Instant) :
    Activity σ (Except Failure Action) :=
  ((sync config id).within deadline).map fun
    | some result => result
    | none => .error .timeout

end Lifecycle

end WorkspaceAccess
