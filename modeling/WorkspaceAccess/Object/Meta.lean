import WorkspaceAccess.Annotations
import WorkspaceAccess.Json.Decode
import WorkspaceAccess.Time.Timestamp

/-!
# Object Metadata

What every object of an API carries besides its own content: its name and namespace, labels and
annotations, and what the server keeps about its versions, owners and deletion. Fields that are
absent or `null` are not written; members that are no fields are dropped.

The controllers use few of these fields, but they write back objects that others have written, and
everything that a field of the API can hold must survive that. So all fields are here, each as an
option, and an absent map stays different from an empty one. What does not survive are members that
the API does not have, and the spelling of values, such as the digits of a time (`Timestamp`).

The encoder and the decoder list the fields once each, in the order in which they are written.
`WorkspaceAccess.Proofs.Object.NormalForm` proves that reading what was written gives the metadata
back, under the condition that its texts, numbers and times are ones that can be written.
-/

namespace WorkspaceAccess

open Json (last? lastOr? objectOf)

/-- The timestamp that a text value writes. -/
def Timestamp.ofJson? (j : Json) : Option Timestamp := j.string?.bind Timestamp.parse?

/-- The timestamp as a text value. -/
def Timestamp.toJson (t : Timestamp) : Json := .string t.render

/-- An object that another one belongs to, and what its deletion means for the other one. -/
structure OwnerReference where
  /-- The API version of the owner. -/
  apiVersion : String
  /-- Deleting the owner waits for this object. -/
  blockOwnerDeletion : Option Bool
  /-- The owner manages this object. -/
  controller : Option Bool
  /-- The kind of the owner. -/
  kind : String
  /-- The name of the owner. -/
  name : String
  /-- The unique identifier of the owner. -/
  uid : String
  deriving DecidableEq

namespace OwnerReference

/-- The reference that a value describes. -/
def ofJson? (j : Json) : Option OwnerReference := do
  let field ← j.object?
  let text (name : String) : Option String := lastOr? "" Json.string? (field name)
  return {
    apiVersion := ← text "apiVersion"
    blockOwnerDeletion := ← last? Json.bool? (field "blockOwnerDeletion")
    controller := ← last? Json.bool? (field "controller")
    kind := ← text "kind"
    name := ← text "name"
    uid := ← text "uid" }

/-- The reference as a value. -/
def toJson (r : OwnerReference) : Json :=
  objectOf [
    ("apiVersion", some (.string r.apiVersion)),
    ("blockOwnerDeletion", r.blockOwnerDeletion.map .bool),
    ("controller", r.controller.map .bool),
    ("kind", some (.string r.kind)),
    ("name", some (.string r.name)),
    ("uid", some (.string r.uid))]

end OwnerReference

/-- Which fields of an object a client manages, as the server keeps count of it. -/
structure ManagedFields where
  /-- The API version of the fields. -/
  apiVersion : Option String
  /-- The form of the field set. -/
  fieldsType : Option String
  /-- The field set, a value that is not looked into. -/
  fieldsV1 : Option Json
  /-- The client that manages these fields. -/
  manager : Option String
  /-- How the client wrote them. -/
  operation : Option String
  /-- The part of the object that was written. -/
  subresource : Option String
  /-- When the fields were written last. -/
  time : Option Timestamp

namespace ManagedFields

/-- The entry that a value describes. -/
def ofJson? (j : Json) : Option ManagedFields := do
  let field ← j.object?
  let text (name : String) : Option (Option String) := last? Json.string? (field name)
  return {
    apiVersion := ← text "apiVersion"
    fieldsType := ← text "fieldsType"
    fieldsV1 := ← last? Json.any? (field "fieldsV1")
    manager := ← text "manager"
    operation := ← text "operation"
    subresource := ← text "subresource"
    time := ← last? Timestamp.ofJson? (field "time") }

/-- The entry as a value. -/
def toJson (m : ManagedFields) : Json :=
  objectOf [
    ("apiVersion", m.apiVersion.map .string),
    ("fieldsType", m.fieldsType.map .string),
    ("fieldsV1", m.fieldsV1),
    ("manager", m.manager.map .string),
    ("operation", m.operation.map .string),
    ("subresource", m.subresource.map .string),
    ("time", m.time.map Timestamp.toJson)]

end ManagedFields

/-- What every object carries besides its own content. Every field may be absent. -/
structure ObjectMeta where
  /-- The annotations of the object, if it has a map of them. -/
  annotations : Option Annotations := none
  /-- When the object was created. -/
  creationTimestamp : Option Timestamp := none
  /-- How long the object stays after its deletion was asked for. -/
  deletionGracePeriodSeconds : Option Int := none
  /-- When the object is to be deleted. -/
  deletionTimestamp : Option Timestamp := none
  /-- What has to happen before the object is gone, each part removed when it has. -/
  finalizers : Option (List String) := none
  /-- What a name given by the server begins with. -/
  generateName : Option String := none
  /-- A number that grows with every change of the specification, and not with one of the
  metadata. -/
  generation : Option Int := none
  /-- The labels of the object, if it has a map of them. -/
  labels : Option Annotations := none
  /-- Which clients manage which of its fields. -/
  managedFields : Option (List ManagedFields) := none
  /-- The name of the object. -/
  name : Option String := none
  /-- The namespace that holds the object. -/
  ns : Option String := none
  /-- The objects that this one belongs to. -/
  ownerReferences : Option (List OwnerReference) := none
  /-- A text that changes with every write of the object, by which a server notices a write in
  between. -/
  resourceVersion : Option String := none
  /-- An address of the object. -/
  selfLink : Option String := none
  /-- The unique identifier of the object. -/
  uid : Option String := none
  deriving Inhabited

namespace ObjectMeta

/-- Metadata without any field. -/
def empty : ObjectMeta := {}

/-- The annotations, none for absent ones. Whoever only reads them need not tell the two apart. -/
def annotationsD (m : ObjectMeta) : Annotations := m.annotations.getD SortedMap.empty

/-- The labels, none for absent ones. -/
def labelsD (m : ObjectMeta) : Annotations := m.labels.getD SortedMap.empty

/-- The name, or what it is to begin with, or the empty text: a text for messages and for objects
that have just been read. -/
def nameAny (m : ObjectMeta) : String := (m.name <|> m.generateName).getD ""

/-- The metadata that a value describes. -/
def ofJson? (j : Json) : Option ObjectMeta := do
  let field ← j.object?
  let text (name : String) : Option (Option String) := last? Json.string? (field name)
  let time (name : String) : Option (Option Timestamp) :=
    last? Timestamp.ofJson? (field name)
  return {
    annotations := ← last? Json.stringMap? (field "annotations")
    creationTimestamp := ← time "creationTimestamp"
    deletionGracePeriodSeconds := ← last? Json.int64? (field "deletionGracePeriodSeconds")
    deletionTimestamp := ← time "deletionTimestamp"
    finalizers := ← last? (Json.list? Json.string?) (field "finalizers")
    generateName := ← text "generateName"
    generation := ← last? Json.int64? (field "generation")
    labels := ← last? Json.stringMap? (field "labels")
    managedFields := ← last? (Json.list? ManagedFields.ofJson?) (field "managedFields")
    name := ← text "name"
    ns := ← text "namespace"
    ownerReferences := ← last? (Json.list? OwnerReference.ofJson?) (field "ownerReferences")
    resourceVersion := ← text "resourceVersion"
    selfLink := ← text "selfLink"
    uid := ← text "uid" }

/-- The metadata as a value. -/
def toJson (m : ObjectMeta) : Json :=
  objectOf [
    ("annotations", m.annotations.map Json.ofStringMap),
    ("creationTimestamp", m.creationTimestamp.map Timestamp.toJson),
    ("deletionGracePeriodSeconds", m.deletionGracePeriodSeconds.map .integer),
    ("deletionTimestamp", m.deletionTimestamp.map Timestamp.toJson),
    ("finalizers", m.finalizers.map Json.ofStrings),
    ("generateName", m.generateName.map .string),
    ("generation", m.generation.map .integer),
    ("labels", m.labels.map Json.ofStringMap),
    ("managedFields", m.managedFields.map fun l => .array (l.map ManagedFields.toJson)),
    ("name", m.name.map .string),
    ("namespace", m.ns.map .string),
    ("ownerReferences", m.ownerReferences.map fun l => .array (l.map OwnerReference.toJson)),
    ("resourceVersion", m.resourceVersion.map .string),
    ("selfLink", m.selfLink.map .string),
    ("uid", m.uid.map .string)]

end ObjectMeta

end WorkspaceAccess
