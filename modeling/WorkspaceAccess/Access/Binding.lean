import WorkspaceAccess.Object.ClusterRoleBinding

/-!
# The Access Binding of a Workspace

Every workspace has one cluster role binding, of the fixed name `AccessBinding.name`, that grants
the staff its role. The controller never edits this binding piece by piece: `AccessBinding.desired`
builds it anew from the complete list of subjects, on top of the binding that is there, if there is
one.

What is replaced and what is kept differs from part to part.

* The role and the subjects are replaced as wholes. A subject who is no longer on the list loses
  access with the next write, and a role or a subject that somebody else has put in does not survive
  it.
* The label and the four annotations of `marks` are written over whatever stands under the same
  keys, so that the binding can be recognized as one of this controller and says how many subjects
  it has, where they come from and when it was written.
* All other metadata is taken over: further labels and annotations, finalizers, and the resource
  version by which a server notices that somebody else has written in the meantime.

The binding that results depends on nothing but the subjects, the namespace of their roster, the
time and the metadata of the binding that was read. `WorkspaceAccess.Proofs.Access.Rebuild` and
`WorkspaceAccess.Proofs.Access.FullRebuild` say what this means for the writes of a whole sweep.
-/

namespace WorkspaceAccess

namespace AccessBinding

/-- The name of the binding in every workspace. It is the same in all of them: the binding is looked
up by this name, and there is never a second one. -/
def name : String := "cncf-staff-access"

/-- The cluster role that the binding grants: the staff may do everything inside a workspace. -/
def staffRole : String := "cluster-admin"

/-- The API group of roles and subjects, which a reference to either of them has to name. -/
def apiGroup : String := "rbac.authorization.k8s.io"

/-- The role that the binding grants, as the binding refers to it. It replaces whatever role a
binding had before. -/
def roleRef : RoleRef := ⟨apiGroup, "ClusterRole", staffRole⟩

/-- A user as a subject. Users do not live in a namespace, in contrast to service accounts. -/
def user (name : String) : Subject := ⟨some apiGroup, "User", name, none⟩

/-- What the annotations of the binding say about its subjects, their origin and the time. The
number of subjects is in decimal digits, the time as `Timestamp.render` writes it. -/
def marks (subjects : List String) (sourceNamespace : String) (now : Timestamp) :
    List (String × String) := [
  (Annotations.lastSynced, now.render),
  (Annotations.staffCount, toString subjects.length),
  (Annotations.managedBy, Annotations.operatorId),
  (Annotations.sourceNamespace, sourceNamespace)]

/-- A binding of the right name and no content: what is built on where a workspace has no binding
yet. -/
def blank : ClusterRoleBinding := { metadata := { name := some name } }

/-- The binding that grants the role to exactly the subjects, built on the existing one: role and
subjects are replaced, the marks are written over the labels and annotations that are there, and all
other metadata is kept. -/
def desired (existing : Option ClusterRoleBinding) (subjects : List String)
    (sourceNamespace : String) (now : Timestamp) : ClusterRoleBinding :=
  let old := (existing.getD blank).metadata
  { metadata := { old with
      labels := some (old.labelsD.merge Annotations.managedLabels)
      annotations := some (old.annotationsD.insertAll (marks subjects sourceNamespace now)) }
    roleRef := roleRef
    subjects := some (subjects.map user) }

end AccessBinding

end WorkspaceAccess
