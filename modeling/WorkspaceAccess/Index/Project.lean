import WorkspaceAccess.Index.Watch
import WorkspaceAccess.Object.Project
import WorkspaceAccess.Trigger
import WorkspaceAccess.Workspace.Phase

/-!
# Changes of Projects

The index hands every change of a project to the lifecycle of its workspace, and the edges of
readiness to the sweeps. The lifecycle gets every event, since it looks at the project itself and
finds out whether there is something to do. A sweep goes over all workspaces and is expensive, so it
is asked for only when a workspace has become ready: when a project records a ready workspace that
the event before did not record as ready for the same project.

The memory of the index is the map `ReadyProjects`, from the projects that record a ready workspace
to the name of the workspace. It depends on nothing but the events that were handled, so a watch
that starts anew and repeats what is known asks for no sweep. When a project is removed, or records
no ready workspace any more, it is forgotten, and the next readiness is an edge again.

The laws of the index for one project among many are in `WorkspaceAccess.Proofs.Index.Project` and
`WorkspaceAccess.Proofs.Index.FanOut`; which object an event is about is defined in
`WorkspaceAccess.Proofs.Index.Identity`.
-/

namespace WorkspaceAccess

/-- The ready workspace that annotations of a project record. A phase that cannot be read is not
ready. -/
def readyWorkspace? (annotations : Annotations) : Option String :=
  if (Phase.ofText? (annotations.get? Annotations.workspacePhase)).isReady then
    annotations.get? Annotations.workspaceName
  else none

/-- The ready workspace that a project records. -/
def Project.readyWorkspace? (p : Project) : Option String :=
  WorkspaceAccess.readyWorkspace? p.annotations

/-- The projects that record a ready workspace, each with the name of the workspace. This is all
that the index remembers. -/
abbrev ReadyProjects := SortedMap ResourceId String

namespace ReadyProjects

/-- A project was added or changed: a trigger for a readiness that was not yet recorded. Another
name of the workspace is a readiness of its own. -/
def apply (ready : ReadyProjects) (id : ResourceId) (project : Project) :
    ReadyProjects × List Trigger :=
  match project.readyWorkspace? with
  | some workspace =>
    if ready.get? id = some workspace then (ready, [])
    else (ready.insert id workspace, [.workspaces])
  | none => (ready.erase id, [])

/-- A project was removed; if it comes back with a ready workspace, that is a new edge. -/
def delete (ready : ReadyProjects) (id : ResourceId) : ReadyProjects := ready.erase id

end ReadyProjects

/-- What an event of the project watch asks for, of the two controllers that it concerns. -/
structure ProjectDemand where
  /-- The projects whose workspaces are to be looked after. -/
  lifecycle : List ResourceId
  /-- The sweeps that are to be made. -/
  sweeps : List Trigger
  deriving DecidableEq

namespace ProjectIndex

/-- A project was added or changed. Every such event reaches the lifecycle of its workspace. -/
def apply (ready : ReadyProjects) (id : ResourceId) (project : Project) :
    ReadyProjects × ProjectDemand :=
  let (ready, triggers) := ready.apply id project
  (ready, ⟨[id], triggers⟩)

/-- A project was removed. Workspaces are not deleted with their projects. -/
def delete (ready : ReadyProjects) (id : ResourceId) : ReadyProjects × ProjectDemand :=
  (ready.delete id, ⟨[], []⟩)

/-- Handles an event of the watch. An object without a namespace or a name is an error, after which
the index is as it was. -/
def handle (ready : ReadyProjects) : WatchEvent Project →
    Except IdentityError (ReadyProjects × ProjectDemand)
  | .applied project => do
    let id ← project.metadata.identify .project
    return apply ready id project
  | .deleted id => .ok (delete ready id)

end ProjectIndex

end WorkspaceAccess
