import WorkspaceAccess.Access.Binding
import WorkspaceAccess.Remote.Config

/-!
# A Remote Control Plane in Memory

A remote control plane that is a value: its workspaces and their access bindings, counts of what was
written, and the faults that it shows. It keeps the contract of the remote control plane, so that
controllers can be run against it and reasoned about.

The contract is that of the calls. Creating a workspace that is there answers with it, or with a
collision if it was requested for another project; listing answers with the managed and ready
workspaces, by name; writing a binding rebuilds it on the one that is there. A call that fails
changes nothing. `WorkspaceAccess.Proofs.Remote.FaultFree` and
`WorkspaceAccess.Proofs.Remote.PlainServer` show that a client that makes its requests to a server
of objects is answered as this control plane answers.

Faults are states: the control plane can be unreachable, its settings can be wrong, and single
workspaces can refuse their bindings. Workspaces are made ready, and changed by others, from
outside.
-/

namespace WorkspaceAccess

/-- A remote control plane in memory. -/
structure InMemory where
  /-- The namespace that the roster comes from. -/
  sourceNamespace : String
  /-- The workspaces, each kept by its name. -/
  workspaces : SortedMap String WorkspaceInfo := SortedMap.empty
  /-- The access bindings by workspace. -/
  bindings : SortedMap String ClusterRoleBinding := SortedMap.empty
  /-- How often the binding of a workspace was written. -/
  writes : SortedMap String Nat := SortedMap.empty
  /-- How many workspaces were created on request; accepting one that is there does not count. -/
  creates : Nat := 0
  /-- The workspaces whose bindings cannot be written, while all else works. -/
  failing : SortedSet String := SortedMap.empty
  /-- Every request fails, though connecting does not. -/
  unreachable : Bool := false
  /-- The settings do not make sense. -/
  misconfigured : Bool := false

namespace InMemory

/-- The server cannot answer for now. -/
def unavailable (message : String) : RemoteError :=
  .api (.refused ⟨"Failure", message, "ServiceUnavailable", 503⟩)

/-- What every request is refused with while the control plane is unreachable. -/
def unreachableError : RemoteError := unavailable "remote control plane is unreachable"

/-- What connecting is refused with while the settings do not make sense: one of them is missing. -/
def misconfiguredError : RemoteError :=
  .config (.missingKey .configMap "kdp-workspaces" RemoteConfig.workspaceTypeKey)

/-! ### Requests -/

/-- Opens a session. This reads the settings and reaches no server. -/
def connect (r : InMemory) : Except RemoteError Unit :=
  if r.misconfigured then .error misconfiguredError else .ok ()

/-- Looks a workspace up. -/
def getWorkspace (r : InMemory) (name : String) : Except RemoteError (Option WorkspaceInfo) :=
  if r.unreachable then .error unreachableError else .ok (r.workspaces.get? name)

/-- A workspace that was just requested for a project: managed, with an owner, and neither ready nor
anywhere yet. -/
def requested (name project : String) : WorkspaceInfo :=
  ⟨name, .scheduling, none, true, some project⟩

/-- Creates a workspace for a project, or accepts the one that is there if it may serve the
project. -/
def createWorkspace (r : InMemory) (name project : String) :
    Except RemoteError WorkspaceInfo × InMemory :=
  if r.unreachable then (.error unreachableError, r)
  else match r.workspaces.get? name with
    | some ws => (ws.claim project, r)
    | none =>
      let ws := requested name project
      (.ok ws, { r with workspaces := r.workspaces.insert name ws, creates := r.creates + 1 })

/-- Lists the workspaces that can receive an access binding, by name. -/
def listWorkspaces (r : InMemory) : Except RemoteError (List WorkspaceInfo) :=
  if r.unreachable then .error unreachableError
  else .ok (WorkspaceInfo.targets r.workspaces.values)

/-- The binding of a workspace, rebuilt for the subjects on the one that is there. -/
def rebuiltBinding (r : InMemory) (workspace : String) (subjects : List String)
    (now : Timestamp) : ClusterRoleBinding :=
  let b := AccessBinding.desired (r.bindings.get? workspace) subjects r.sourceNamespace now
  { b with metadata := { b.metadata with name := some AccessBinding.name } }

/-- Makes the binding of a workspace grant the role to exactly the subjects. Whether there is such a
workspace is not asked. -/
def writeBinding (r : InMemory) (workspace : String) (subjects : List String) (now : Timestamp) :
    Except RemoteError Unit × InMemory :=
  if r.unreachable then (.error unreachableError, r)
  else if r.failing.contains workspace then
    (.error (unavailable ("workspace " ++ workspace ++ " is unavailable")), r)
  else (.ok (), { r with
    bindings := r.bindings.insert workspace (r.rebuiltBinding workspace subjects now)
    writes := r.writes.insert workspace (r.writes.getD workspace 0 + 1) })

/-! ### Changes from outside -/

/-- The address of a workspace that was added from outside. -/
def urlOf (name : String) : String := "https://kcp.test/clusters/root:" ++ name

/-- Adds a workspace as if it had been created by someone else. -/
def addWorkspace (r : InMemory) (name : String) (phase : Phase) (managed : Bool) : InMemory :=
  { r with workspaces := r.workspaces.insert name ⟨name, phase, some (urlOf name), managed, none⟩ }

/-- Changes the phase and the address of a workspace that is there. -/
def setPhase (r : InMemory) (name : String) (phase : Phase) (url : Option String) : InMemory :=
  match r.workspaces.get? name with
  | some ws => { r with workspaces := r.workspaces.insert name { ws with phase, url } }
  | none => r

/-- Puts a binding into a workspace. -/
def setBinding (r : InMemory) (workspace : String) (b : ClusterRoleBinding) : InMemory :=
  { r with bindings := r.bindings.insert workspace b }

/-- Makes the binding of a workspace fail to be written, or not. -/
def setFailing (r : InMemory) (workspace : String) (fail : Bool) : InMemory :=
  { r with failing := if fail then r.failing.add workspace else r.failing.erase workspace }

end InMemory

end WorkspaceAccess
