import WorkspaceAccess.ResourceId

/-!
# Reasons for a Sweep

A sweep is asked for by a change of one staff member or by a workspace becoming ready. All events of
the second kind are the same trigger, so that they coalesce in the work queue: a sweep goes over all
workspaces anyway, and one sweep serves any number of workspaces that became ready before it
started.

The triggers of different staff members stay apart, since the outcome of a sweep is recorded on the
member that triggered it. Triggers are the keys of the queue of sweeps, so they are ordered: staff
members by their identities, and the workspaces behind all of them.
-/

namespace WorkspaceAccess

/-- Why a sweep was requested. -/
inductive Trigger where
  /-- A staff member was added, changed or removed. -/
  | staffMember (id : ResourceId)
  /-- Some workspace became ready. -/
  | workspaces
  deriving DecidableEq

namespace Trigger

/-- What triggers are ordered by: staff members first, by their identities, then the one trigger for
workspaces. -/
def sortKey : Trigger → List UInt8 × ResourceId
  | staffMember id => ([], id)
  | workspaces => ([0], ⟨"", ""⟩)

instance : KeyOrder Trigger :=
  KeyOrder.ofInjective sortKey fun a b h => by
    cases a <;> cases b <;> simp_all [sortKey]

/-- The name of a trigger: that of the staff member, or one name for all workspaces. -/
def text : Trigger → String
  | staffMember id => id.text
  | workspaces => "workspace-trigger"

end Trigger

end WorkspaceAccess
