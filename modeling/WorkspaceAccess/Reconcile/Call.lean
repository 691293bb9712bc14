import WorkspaceAccess.Object.Project
import WorkspaceAccess.Object.StaffMember
import WorkspaceAccess.Remote.Error
import WorkspaceAccess.ResourceId
import WorkspaceAccess.Time.Instant

/-!
# Calls of the Outside World

A reconcile reaches the outside world by calls: of the remote control plane, within a session that
it opens first, and of the local cluster, which holds the projects and the staff. These nine calls
are all that the two controllers can do. Each has a type of its own for what it is answered with
(`Call.Answer`), so an activity cannot confuse the answers, and whoever answers calls, be it a
simulated world or an exchange of requests, has to say something about every one of them.

A call is atomic for those who make it, though behind it there may be several requests: writing a
binding, for one, reads the binding and tries again when somebody else has written in between. What
the requests are is said in `WorkspaceAccess.Reconcile.Exchange`, what they do to a control plane in
memory in `WorkspaceAccess.Reconcile.World`.
-/

namespace WorkspaceAccess

/-- What a sweep did, for its metrics. A sweep reports this once. -/
structure SweepCounts where
  /-- The subjects of the bindings. -/
  subjects : Nat
  /-- The workspaces whose bindings were written. -/
  updated : Nat
  /-- The workspaces whose bindings could not be written. -/
  failed : Nat
  deriving DecidableEq

/-- A call of the outside world. Calls of the remote control plane belong to a session, of type `σ`;
those of the local cluster need none. -/
inductive Call (σ : Type) where
  /-- Opens a session with the remote control plane. -/
  | connect
  /-- Looks a workspace up by its name. -/
  | getWorkspace (session : σ) (name : String)
  /-- Creates a workspace for a project, or accepts the one that is there. -/
  | createWorkspace (session : σ) (name project : String)
  /-- Lists the workspaces that can receive an access binding. -/
  | listWorkspaces (session : σ)
  /-- Makes the access binding of a workspace grant the role to exactly the subjects. -/
  | writeBinding (session : σ) (workspace : String) (subjects : List String)
  /-- Looks a project up by its namespace and name. -/
  | getProject (id : ResourceId)
  /-- Adds annotations to a project; the answer says whether it is there. -/
  | patchProject (id : ResourceId) (annotations : Annotations)
  /-- Lists the complete staff roster. -/
  | listStaff
  /-- Adds annotations to a staff member; the answer says whether it is there. -/
  | patchStaff (id : ResourceId) (annotations : Annotations)

/-- What a call is answered with: an error of the side that it goes to, or the answer to what was
asked. -/
@[reducible] def Call.Answer {σ : Type} : Call σ → Type
  | connect => Except RemoteError σ
  | getWorkspace .. => Except RemoteError (Option WorkspaceInfo)
  | createWorkspace .. => Except RemoteError WorkspaceInfo
  | listWorkspaces _ => Except RemoteError (List WorkspaceInfo)
  | writeBinding .. => Except RemoteError Unit
  | getProject _ => Except ApiError (Option Project)
  | patchProject .. => Except ApiError Bool
  | listStaff => Except ApiError (List StaffMember)
  | patchStaff .. => Except ApiError Bool

end WorkspaceAccess
