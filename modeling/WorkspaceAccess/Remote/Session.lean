import WorkspaceAccess.Access.Binding
import WorkspaceAccess.Api.Collection
import WorkspaceAccess.Object.Workspace
import WorkspaceAccess.Remote.Config

/-!
# Sessions with the Remote Control Plane

A session knows the address of the root workspace, in which project workspaces are created and
listed. Every workspace has an address of its own, where its access binding is kept; it is made from
the address of the root workspace, so a session needs no request to find it.

The binding is read and written back in the version that was read. When another writer comes in
between, the server refuses the write, and the binding is read again; after a few attempts the
session gives up. Only refusals that say that the binding has changed, has appeared or has
disappeared lead to another attempt, and every other error ends the call. So a call makes at most
`maxAttempts` reads and as many writes, and at most one write of it is accepted.

Creating a workspace has no attempts. If the name is taken, the workspace of that name is looked up
and claimed for the project, with the outcome that `WorkspaceInfo.claim` gives.

The modules under `WorkspaceAccess.Proofs.Remote` say which requests are sent for which replies, and
that no update of another writer is lost.
-/

namespace WorkspaceAccess

/-- A session with the remote control plane: what its requests depend on, and nothing that changes
while it lasts. -/
structure RemoteSession where
  /-- The path of the root workspace. -/
  rootPath : String
  /-- The type of new workspaces. -/
  workspaceType : String
  /-- The address of the root workspace. -/
  root : Uri
  /-- The namespace that the roster comes from. -/
  sourceNamespace : String
  deriving DecidableEq

namespace RemoteSession

/-- The session that settings lead to. -/
def ofConfig (config : RemoteConfig) (sourceNamespace : String) :
    Except ConfigError RemoteSession := do
  return ⟨config.rootPath, config.workspaceType, ← config.rootUrl, sourceNamespace⟩

/-- Opens the session that settings lead to, if a client can be built. No request is made for
this. -/
def establish (config : RemoteConfig) (sourceNamespace : String) (now : Timestamp) :
    Except RemoteError RemoteSession := do
  let session ← (ofConfig config sourceNamespace).mapError .config
  let target ← config.target.mapError .config
  (target.check now).mapError .api
  return session

/-! ### Workspaces -/

/-- The workspaces below the root workspace. -/
def workspaces (s : RemoteSession) : Collection Workspace :=
  ⟨.logicalCluster s.root, .workspace, none, Workspace.ofJson?⟩

/-- A workspace to be created for a project: marked as managed, with the project as its owner, and
of the type that is set. -/
def newWorkspace (s : RemoteSession) (name project : String) : Workspace where
  metadata := {
    name := some name
    labels := some Annotations.managedLabels
    annotations := some (.ofList [
      (Annotations.project, project), (Annotations.managedBy, Annotations.operatorId)]) }
  spec := { type := some ⟨s.workspaceType, some s.rootPath⟩ }
  status := none

/-- Looks a workspace up. -/
def getWorkspace (s : RemoteSession) (name : String) :
    Exchange (Except RemoteError (Option WorkspaceInfo)) :=
  (s.workspaces.get? name).map fun
    | .ok ws => .ok (ws.map Workspace.info)
    | .error e => .error (.api e)

/-- Creates a workspace for a project, or accepts the one that is there. Every refusal with the code
of a conflict is taken to mean that there is one. -/
def createWorkspace (s : RemoteSession) (name project : String) :
    Exchange (Except RemoteError WorkspaceInfo) :=
  ((s.workspaces.create (s.newWorkspace name project).toJson).bind fun
    | .error e => if e.isConflict then s.workspaces.get name else .done (.error e)
    | .ok ws => .done (.ok ws)).map fun
    | .ok ws => ws.info.claim project
    | .error e => .error (.api e)

/-- The labels by which managed workspaces are listed, so that the others need not be sent. -/
def managedSelector : String := Annotations.managedByLabel ++ "=" ++ Annotations.operatorId

/-- Lists the workspaces that can receive an access binding. -/
def listWorkspaces (s : RemoteSession) : Exchange (Except RemoteError (List WorkspaceInfo)) :=
  (s.workspaces.list (some managedSelector)).map fun
    | .ok l => .ok (WorkspaceInfo.targets (l.map Workspace.info))
    | .error e => .error (.api e)

/-! ### Access bindings -/

/-- The binding is read and written at most this often in one call. -/
def maxAttempts : Nat := 3

/-- The address of a workspace, made from that of the root workspace. -/
def workspaceUrl (s : RemoteSession) (workspace : String) : Except ConfigError Uri :=
  clusterUrl s.root (LogicalCluster.path s.rootPath workspace)

/-- The bindings in the workspace of an address. -/
def bindings (address : Uri) : Collection ClusterRoleBinding :=
  ⟨.logicalCluster address, .clusterRoleBinding, none, ClusterRoleBinding.ofJson?⟩

/-- Writes a binding: in place of the one that was read, in its version, or as a new one. -/
def storeBinding (c : Collection ClusterRoleBinding) (existing : Option ClusterRoleBinding)
    (desired : ClusterRoleBinding) : Exchange (Except ApiError ClusterRoleBinding) :=
  match existing with
  | some _ => c.replace AccessBinding.name desired.toJson
  | none => c.create desired.toJson

/-- Reads the binding of a workspace and writes it, at most so often. Another attempt starts with a
new read. -/
def attemptBinding (s : RemoteSession) (c : Collection ClusterRoleBinding) (workspace : String)
    (subjects : List String) : Nat → Exchange (Except RemoteError Unit)
  | 0 => .done (.error (.contended workspace))
  | n + 1 =>
    (c.get? AccessBinding.name).bind fun
      | .error e => .done (.error (.api e))
      | .ok existing => .look fun now =>
        (storeBinding c existing
          (AccessBinding.desired existing subjects s.sourceNamespace now)).bind fun
          | .ok _ => .done (.ok ())
          | .error e =>
            if e.isNotFound || e.isConflict then s.attemptBinding c workspace subjects n
            else .done (.error (.api e))

/-- Makes the binding of a workspace grant the role to exactly the subjects, in at most
`maxAttempts` attempts. -/
def writeBinding (s : RemoteSession) (workspace : String) (subjects : List String) :
    Exchange (Except RemoteError Unit) :=
  match s.workspaceUrl workspace with
  | .error e => .done (.error (.config e))
  | .ok address => s.attemptBinding (bindings address) workspace subjects maxAttempts

end RemoteSession

end WorkspaceAccess
