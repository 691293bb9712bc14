import WorkspaceAccess.Index.Watch
import WorkspaceAccess.Object.StaffMember
import WorkspaceAccess.Trigger

/-!
# Changes of the Staff

The index turns changes of staff members into triggers of sweeps. A change counts when the member is
new, or when its generation, specification or annotations differ from the last ones, where the
annotations by which a sweep records its outcome do not count. So a sweep does not cause a sweep by
recording itself.

What is compared is the `Fingerprint` of a member. The index remembers the last fingerprint of every
member, by namespace and name, and asks for a sweep just when an event brings another one. A removed
member always causes a sweep, whether it was known or not: its subjects have to disappear from the
bindings.

The trigger carries the member, because the outcome of the sweep is recorded on it. Two members that
change ask for two triggers, and it is left to the queue to merge the ones that are alike.
`WorkspaceAccess.Proofs.Index.Staff` has the law of the index over whole histories and
`WorkspaceAccess.Proofs.Access.Suppression` shows that the records of sweeps, however many sweeps
overlap, never come back as triggers.
-/

namespace WorkspaceAccess

/-- The parts of a staff member that can affect access bindings. Members with one fingerprint are
the same to a sweep. -/
structure Fingerprint where
  /-- The generation of the object, which a server raises with every change of the specification. -/
  generation : Option Int
  /-- The specification of the member, the email included. -/
  spec : StaffMemberSpec
  /-- The annotations other than the record of a sweep. -/
  annotations : Annotations
  deriving DecidableEq

/-- The parts of a member that can affect access bindings. -/
def StaffMember.fingerprint (m : StaffMember) : Fingerprint :=
  ⟨m.metadata.generation, m.spec, Annotations.withoutSync m.annotations⟩

/-- Going from one state of a member to another warrants a sweep: the states differ in more than the
record of a sweep. -/
def StaffMember.isRelevantChange (old new : StaffMember) : Bool :=
  old.fingerprint != new.fingerprint

/-- What the index remembers of every member: the fingerprint that it had last. -/
abbrev StaffIndex := SortedMap ResourceId Fingerprint

namespace StaffIndex

/-- The index before any event. -/
def empty : StaffIndex := SortedMap.empty

/-- A member was added or changed: the index afterwards, and the triggers it asks for. -/
def apply (index : StaffIndex) (id : ResourceId) (member : StaffMember) :
    StaffIndex × List Trigger :=
  if index.get? id = some member.fingerprint then (index, [])
  else (index.insert id member.fingerprint, [.staffMember id])

/-- A member was removed, so that the next sweep no longer includes it. The trigger names a member
that is gone, and the sweep will have nowhere to record its outcome. -/
def delete (index : StaffIndex) (id : ResourceId) : StaffIndex × List Trigger :=
  (index.erase id, [.staffMember id])

/-- Handles an event of the watch. An object without a namespace or a name is an error, after which
the index is as it was. -/
def handle (index : StaffIndex) : WatchEvent StaffMember →
    Except IdentityError (StaffIndex × List Trigger)
  | .applied member => do
    let id ← member.metadata.identify .staffMember
    return index.apply id member
  | .deleted id => .ok (index.delete id)

end StaffIndex

end WorkspaceAccess
