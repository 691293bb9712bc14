import WorkspaceAccess.Object.Kind
import WorkspaceAccess.Object.Meta

/-!
# Cluster Role Bindings

A binding grants a role to its subjects in a whole cluster. The kind and the API version of a
binding have to be right where they are given; the metadata may be absent, and so may the role and
the subjects.

The structures are those of the API. They hold what any binding may hold, also one that somebody
else has written, since the controller has to read the binding that is there before it can replace
it; what the controller itself puts into a binding is said in `WorkspaceAccess.Access.Binding`. A
binding without subjects and one with an empty list are different on the wire and stay different
here, while `subjectNames` reads both alike.

`WorkspaceAccess.Proofs.Object.NormalForm` proves that what is written reads back as it was, and
that an object that is read and written is in normal form.
-/

namespace WorkspaceAccess

open Json (last? lastOr? objectOf)

/-- The role that a binding grants, by group, kind and name. Its texts are empty where they are
absent. -/
structure RoleRef where
  /-- The API group of the role. -/
  apiGroup : String := ""
  /-- The kind of the role. -/
  kind : String := ""
  /-- The name of the role. -/
  name : String := ""
  deriving DecidableEq, Inhabited

namespace RoleRef

/-- The role that a value describes. -/
def ofJson? (j : Json) : Option RoleRef := do
  let field ← j.object?
  return {
    apiGroup := ← lastOr? "" Json.string? (field "apiGroup")
    kind := ← lastOr? "" Json.string? (field "kind")
    name := ← lastOr? "" Json.string? (field "name") }

/-- The role as a value. -/
def toJson (r : RoleRef) : Json :=
  .object [
    ("apiGroup", .string r.apiGroup), ("kind", .string r.kind), ("name", .string r.name)]

end RoleRef

/-- Someone who is granted a role: a user, a group or a service account. -/
structure Subject where
  /-- The API group of the subject. -/
  apiGroup : Option String
  /-- The kind of the subject. -/
  kind : String
  /-- The name of the subject. -/
  name : String
  /-- The namespace of the subject, for the subjects that live in one. -/
  ns : Option String
  deriving DecidableEq

namespace Subject

/-- The subject that a value describes. -/
def ofJson? (j : Json) : Option Subject := do
  let field ← j.object?
  return {
    apiGroup := ← last? Json.string? (field "apiGroup")
    kind := ← lastOr? "" Json.string? (field "kind")
    name := ← lastOr? "" Json.string? (field "name")
    ns := ← last? Json.string? (field "namespace") }

/-- The subject as a value. -/
def toJson (s : Subject) : Json :=
  objectOf [
    ("apiGroup", s.apiGroup.map .string),
    ("kind", some (.string s.kind)),
    ("name", some (.string s.name)),
    ("namespace", s.ns.map .string)]

end Subject

/-- A role granted to subjects in a whole cluster. -/
structure ClusterRoleBinding where
  /-- The metadata of the binding. -/
  metadata : ObjectMeta := {}
  /-- The role that is granted. -/
  roleRef : RoleRef := {}
  /-- Whom it is granted to. -/
  subjects : Option (List Subject) := none
  deriving Inhabited

namespace ClusterRoleBinding

/-- The binding that a value describes. -/
def ofJson? (j : Json) : Option ClusterRoleBinding := do
  let field ← j.object?
  if ObjectKind.clusterRoleBinding.admits field then
    return {
      metadata := ← lastOr? {} ObjectMeta.ofJson? (field "metadata")
      roleRef := ← lastOr? {} RoleRef.ofJson? (field "roleRef")
      subjects := ← last? (Json.list? Subject.ofJson?) (field "subjects") }
  else none

/-- The binding as a value. -/
def toJson (b : ClusterRoleBinding) : Json :=
  objectOf [
    ("apiVersion", some (.string ObjectKind.clusterRoleBinding.apiVersion)),
    ("kind", some (.string ObjectKind.clusterRoleBinding.name)),
    ("metadata", some b.metadata.toJson),
    ("roleRef", some b.roleRef.toJson),
    ("subjects", b.subjects.map fun l => .array (l.map Subject.toJson))]

/-- The names of the subjects, in order; none where there is no list. -/
def subjectNames (b : ClusterRoleBinding) : List String := (b.subjects.getD []).map (·.name)

end ClusterRoleBinding

end WorkspaceAccess
