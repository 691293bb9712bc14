import WorkspaceAccess.Workspace.Phase

/-!
# What the Controllers See of a Workspace

The controllers look at five facts of a remote workspace: its name, its phase, its address, whether
it carries the mark of this controller, and the project that it was requested for. Every decision
about a workspace is made from these, so a law that is stated for `WorkspaceInfo` holds for whatever
else the object contains.

A workspace takes part in sweeps when it is managed by this controller and ready. Workspaces of
others in the same parent are left alone, and one that is not ready yet is swept when it has become
so, which the index of the projects notices.
-/

namespace WorkspaceAccess

/-- A workspace as the controllers see it. -/
structure WorkspaceInfo where
  /-- The name of the workspace. -/
  name : String
  /-- The lifecycle phase that the workspace is in. -/
  phase : Phase
  /-- Its address, once it has one. -/
  url : Option String
  /-- It carries the mark of this controller, so that its binding may be written. -/
  managed : Bool
  /-- The project that it was requested for, if one is recorded. -/
  project : Option String
  deriving DecidableEq, Inhabited

namespace WorkspaceInfo

/-- The workspace can receive an access binding: it is managed by this controller, and ready. -/
def isTarget (ws : WorkspaceInfo) : Bool := ws.managed && ws.phase.isReady

/-- The listed workspaces that can receive an access binding, in the order of the listing. -/
def targets (workspaces : List WorkspaceInfo) : List WorkspaceInfo := workspaces.filter isTarget

end WorkspaceInfo

end WorkspaceAccess
