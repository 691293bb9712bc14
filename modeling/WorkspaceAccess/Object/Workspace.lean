import WorkspaceAccess.Object.Kind
import WorkspaceAccess.Object.Meta
import WorkspaceAccess.Workspace.Info

/-!
# Workspace Objects

A workspace is a logical cluster of the remote control plane. It is an object of its parent
workspace, which the path of the client's address selects. Its type is chosen when it is created;
the address and the cluster that serves it are filled in by the control plane later, and the phase
is reported in the status.

`Workspace.info` is what the controllers see of all this: the name, the phase, the address, whether
the workspace is one of this controller's, and the project it was requested for. Nothing else of a
workspace influences what they do, so the laws of the lifecycle speak of `WorkspaceInfo` and hold
for every object with that information. An empty address counts as none, and a workspace without a
status is in the phase of one that has not reported yet.

The optional fields of its specification are left out when they are absent, the phase of its status
is written as `null`.
-/

namespace WorkspaceAccess

open Json (optional? required? objectOf)

/-- The type that a workspace is created from, which decides what is inside it at first. -/
structure WorkspaceType where
  /-- The name of the type. -/
  name : String
  /-- The workspace that defines the type. -/
  path : Option String
  deriving DecidableEq

namespace WorkspaceType

/-- The type that a value describes. -/
def ofJson? (j : Json) : Option WorkspaceType := do
  let field ← j.record? ["name", "path"] 2
  return {
    name := ← required? Json.string? (field "name")
    path := ← optional? Json.string? (field "path") }

/-- The type as a value. -/
def toJson (t : WorkspaceType) : Json :=
  objectOf [("name", some (.string t.name)), ("path", t.path.map .string)]

end WorkspaceType

/-- What is asked of a workspace, and where the control plane has put it. -/
structure WorkspaceSpec where
  /-- The type that it is created from. -/
  type : Option WorkspaceType := none
  /-- Its address, set by the control plane once the workspace has a place. -/
  url : Option String := none
  /-- The logical cluster that serves it. -/
  cluster : Option String := none
  deriving DecidableEq

namespace WorkspaceSpec

/-- The specification that a value describes. -/
def ofJson? (j : Json) : Option WorkspaceSpec := do
  let field ← j.record? ["type", "URL", "cluster"] 3
  return {
    type := ← optional? WorkspaceType.ofJson? (field "type")
    url := ← optional? Json.string? (field "URL")
    cluster := ← optional? Json.string? (field "cluster") }

/-- The specification as a value. -/
def toJson (s : WorkspaceSpec) : Json :=
  objectOf [
    ("type", s.type.map WorkspaceType.toJson),
    ("URL", s.url.map .string),
    ("cluster", s.cluster.map .string)]

end WorkspaceSpec

/-- What the control plane reports about a workspace; of this only the phase is used. -/
structure WorkspaceStatus where
  /-- The text of the phase. -/
  phase : Option String
  deriving DecidableEq

namespace WorkspaceStatus

/-- The status that a value describes. -/
def ofJson? (j : Json) : Option WorkspaceStatus := do
  let field ← j.record? ["phase"] 1
  return { phase := ← optional? Json.string? (field "phase") }

/-- The status as a value. -/
def toJson (s : WorkspaceStatus) : Json := .object [("phase", .ofOption s.phase)]

end WorkspaceStatus

/-- A workspace object. A new one has no status yet. -/
structure Workspace where
  /-- The metadata, with the label of managed workspaces and the annotation of the owner. -/
  metadata : ObjectMeta
  /-- What is asked of it. -/
  spec : WorkspaceSpec
  /-- What is reported about it. -/
  status : Option WorkspaceStatus

namespace Workspace

/-- The workspace that a value describes. -/
def ofJson? (j : Json) : Option Workspace := do
  let field ← j.record? ["metadata", "spec", "status"] 3
  return {
    metadata := ← required? ObjectMeta.ofJson? (field "metadata")
    spec := ← required? WorkspaceSpec.ofJson? (field "spec")
    status := ← optional? WorkspaceStatus.ofJson? (field "status") }

/-- The workspace as a value. -/
def toJson (ws : Workspace) : Json :=
  objectOf [
    ("apiVersion", some (.string ObjectKind.workspace.apiVersion)),
    ("kind", some (.string ObjectKind.workspace.name)),
    ("metadata", some ws.metadata.toJson),
    ("spec", some ws.spec.toJson),
    ("status", ws.status.map WorkspaceStatus.toJson)]

/-- The phase that the status reports; without a status it is that of an absent text. -/
def phase (ws : Workspace) : Phase := Phase.ofText? (ws.status.bind (·.phase))

/-- The address, if there is one; the empty text is none. -/
def url (ws : Workspace) : Option String := ws.spec.url.filter (· ≠ "")

/-- What the controllers see of the workspace, and all that their decisions depend on. -/
def info (ws : Workspace) : WorkspaceInfo where
  name := ws.metadata.nameAny
  phase := ws.phase
  url := ws.url
  managed := Annotations.isManaged ws.metadata.labelsD
  project := ws.metadata.annotationsD.get? Annotations.project

end Workspace

end WorkspaceAccess
