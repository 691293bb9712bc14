import WorkspaceAccess.Object.Project
import WorkspaceAccess.Object.StaffMember
import WorkspaceAccess.Remote.Error
import WorkspaceAccess.ResourceId

/-!
# Objects of the Local Cluster

The local cluster holds the projects and the staff members. A `Store` holds the objects of one kind
in memory, by namespace and name, and is what the simulated world runs the controllers against.

A store can be made to fail in the ways a server can: to refuse its reads, to refuse its patches, or
to lose an object at the moment at which it is patched, which is what a deletion in the middle of a
reconcile looks like from outside. Faults are settings of the store and stay until they are changed,
so that a failure can be arranged for a stretch of time. A refused operation changes nothing. The
store remembers the patches that were made, because what a controller has written is what is asked
about it afterwards.

The edits at the end are what people do to projects and to the roster between the runs of the
controllers; the generation of a staff member grows as a server would make it grow.
-/

namespace WorkspaceAccess

/-- The objects of one kind, by namespace and name, with the faults that are arranged for them. -/
structure Store (α : Type) where
  /-- The objects, each kept by its namespace and name. -/
  objects : SortedMap ResourceId α := SortedMap.empty
  /-- What reads are refused with, if they are refused. -/
  readFault : Option Refusal := none
  /-- What patches are refused with, if they are refused. -/
  patchFault : Option Refusal := none
  /-- An object disappears when it is patched, as if it had been deleted a moment before. -/
  vanishing : Bool := false
  /-- The patches that were made, in order. -/
  patches : List (ResourceId × Annotations) := []

namespace Store

variable {α : Type}

/-- A store without objects. -/
def empty : Store α := {}

instance : Inhabited (Store α) := ⟨empty⟩

/-- Looks an object up. A read never changes the store. -/
def get (s : Store α) (id : ResourceId) : Except ApiError (Option α) :=
  match s.readFault with
  | some refusal => .error (.refused refusal)
  | none => .ok (s.objects.get? id)

/-- Lists the objects in the order of their namespaces and names. -/
def list (s : Store α) : Except ApiError (List α) :=
  match s.readFault with
  | some refusal => .error (.refused refusal)
  | none => .ok s.objects.values

/-- Adds annotations to an object; the answer says whether it is there. Only a patch that takes
effect is remembered. -/
def patch (annotate : α → Annotations → α) (s : Store α) (id : ResourceId)
    (annotations : Annotations) : Except ApiError Bool × Store α :=
  match s.patchFault with
  | some refusal => (.error (.refused refusal), s)
  | none =>
    if s.vanishing then (.ok false, { s with objects := s.objects.erase id })
    else match s.objects.get? id with
      | none => (.ok false, s)
      | some object =>
        (.ok true, { s with
          objects := s.objects.insert id (annotate object annotations)
          patches := s.patches ++ [(id, annotations)] })

/-- Puts an object in place of the one that is there, or adds it. -/
def put (s : Store α) (id : ResourceId) (object : α) : Store α :=
  { s with objects := s.objects.insert id object }

/-- Removes an object. -/
def remove (s : Store α) (id : ResourceId) : Store α :=
  { s with objects := s.objects.erase id }

/-- Forgets the patches that were made. -/
def forgetPatches (s : Store α) : Store α := { s with patches := [] }

end Store

/-! ### Edits of the projects and of the roster -/

/-- The metadata of a new object, which consist of its namespace and its name. -/
def newMeta (id : ResourceId) : ObjectMeta := { name := some id.name, ns := some id.ns }

namespace Project

/-- Adds a project, or annotations to the one that is there. -/
def edit (existing : Option Project) (id : ResourceId) (annotations : Annotations) : Project :=
  (existing.getD { metadata := newMeta id, spec := {} }).annotate annotations

end Project

namespace StaffMember

/-- Adds a member, or changes the email and adds annotations to the one that is there. A changed
email is a new generation; annotations alone are not. -/
def edit (existing : Option StaffMember) (id : ResourceId) (email : String)
    (annotations : Annotations) : StaffMember :=
  let member : StaffMember := match existing with
    | none =>
      { metadata := { newMeta id with generation := some 1 }, spec := { primaryEmail := email } }
    | some m =>
      if m.spec.primaryEmail = email then m
      else
        { metadata := { m.metadata with
            generation := some (m.metadata.generation.getD 0 + 1) }
          spec := { m.spec with primaryEmail := email } }
  member.annotate annotations

end StaffMember

end WorkspaceAccess
