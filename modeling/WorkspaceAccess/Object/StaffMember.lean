import WorkspaceAccess.Object.Kind
import WorkspaceAccess.Object.Meta
import WorkspaceAccess.Text.Blank

/-!
# Staff Members

A member of the foundation's staff, who is granted access to every project workspace under the
primary email. Everything else in the specification is for people; it matters to the controllers
only because a change of it is a change of the member, and causes a sweep.

The email is used without the blanks around it, and a member whose email is blank has none that can
be used (`StaffMemberSpec.email`). Such a member stays on the roster and is granted nothing; it is
no reason to refuse a roster. Apart from the blanks an email is taken as it is: letters are not
folded, and its form is not checked.

Absent fields of the specification are written as `null`.
-/

namespace WorkspaceAccess

open Json (optional? orDefault? required?)

/-- What is known of a staff member, as it was entered by people. -/
structure StaffMemberSpec where
  /-- The name that people read. -/
  displayName : Option String := none
  /-- The email that the member signs in with, blanks around it included. -/
  primaryEmail : String := ""
  /-- The member's account on the code host. -/
  githubAccount : Option String := none
  deriving DecidableEq

namespace StaffMemberSpec

/-- The specification that a value describes. -/
def ofJson? (j : Json) : Option StaffMemberSpec := do
  let field ← j.record? ["displayName", "primaryEmail", "githubAccount"] 3
  return {
    displayName := ← optional? Json.string? (field "displayName")
    primaryEmail := ← orDefault? "" Json.string? (field "primaryEmail")
    githubAccount := ← optional? Json.string? (field "githubAccount") }

/-- The specification as a value. -/
def toJson (s : StaffMemberSpec) : Json :=
  .object [
    ("displayName", .ofOption s.displayName),
    ("primaryEmail", .string s.primaryEmail),
    ("githubAccount", .ofOption s.githubAccount)]

/-- The email without blanks around it, if anything is left. This is the form in which emails are
compared. -/
def email (s : StaffMemberSpec) : Option String :=
  let email := Text.trimBlank s.primaryEmail
  if email = "" then none else some email

end StaffMemberSpec

/-- A staff member: the metadata and the specification. -/
structure StaffMember where
  /-- The metadata of the object. -/
  metadata : ObjectMeta
  /-- What is known of the member. -/
  spec : StaffMemberSpec

namespace StaffMember

/-- The staff member that a value describes. -/
def ofJson? (j : Json) : Option StaffMember := do
  let field ← j.record? ["metadata", "spec"] 2
  return {
    metadata := ← required? ObjectMeta.ofJson? (field "metadata")
    spec := ← required? StaffMemberSpec.ofJson? (field "spec") }

/-- The staff member as a value. -/
def toJson (m : StaffMember) : Json :=
  .object [
    ("apiVersion", .string ObjectKind.staffMember.apiVersion),
    ("kind", .string ObjectKind.staffMember.name),
    ("metadata", m.metadata.toJson),
    ("spec", m.spec.toJson)]

/-- The annotations of the member, none for absent ones. -/
def annotations (m : StaffMember) : Annotations := m.metadata.annotationsD

/-- The member with annotations added to its own; under keys that it has already the new values
count. -/
def annotate (m : StaffMember) (annotations : Annotations) : StaffMember :=
  { m with metadata := { m.metadata with
      annotations := some (m.annotations.merge annotations) } }

/-- The email that the member is known under, if it can be used. -/
def email (m : StaffMember) : Option String := m.spec.email

end StaffMember

end WorkspaceAccess
