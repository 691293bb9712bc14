import WorkspaceAccess.Object.StaffMember

/-!
# The Staff Roster

The subjects that are granted access are computed from the complete roster of staff members. Every
member with an email that can be used has one subject, which is the email with the prefix of the
identity provider in front of it. Two members who share an email have one subject between them, and
a member without a usable email has none.

The list of subjects is canonical: it is sorted by the order of the names and free of repetitions,
so it depends only on which emails occur on the roster and not on the order in which the members
were listed. Two sweeps over the same roster therefore write the same subjects, in the same order,
and comparing two bindings amounts to comparing two lists. `WorkspaceAccess.Proofs.Access.Roster`
and `WorkspaceAccess.Proofs.Access.Canonical` prove this in both directions; which emails can be
used is decided by `StaffMember.email`.
-/

namespace WorkspaceAccess

namespace Roster

/-- What the name of a subject begins with: it names the identity provider that vouches for the
email. -/
def subjectPrefix : String := "oidc:"

/-- The subject of an email. Different emails have different subjects, since the prefix is the same
for all. -/
def subject (email : String) : String := subjectPrefix ++ email

/-- The subjects that the members of a roster are known under, sorted and each of them once,
whatever the order and the repetitions of the roster are. -/
def subjects (members : List StaffMember) : List String :=
  (SortedSet.ofList ((members.filterMap StaffMember.email).map subject)).toList

end Roster

end WorkspaceAccess
