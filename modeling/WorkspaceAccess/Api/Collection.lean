import WorkspaceAccess.Api.Exchange
import WorkspaceAccess.Object.Kind

/-!
# Collections of Objects

A server keeps the objects of one kind under one path, and under a longer one the objects of one
namespace. A `Collection` is such a path together with the way in which its objects are read. The
controllers do everything they do to a server through collections, of staff members, projects,
workspaces and bindings.

Every operation is one request and the reading of its reply, so it is an `Exchange` with at most one
step. Objects are created, replaced and patched by values and not by objects of the kind: what is
sent need not be readable, and it is the server that decides what it stores. The answer is the
object as the server has stored it.

Two operations turn a refusal into an ordinary answer. `get?` answers that there is no such object,
and `annotate` that the object to be annotated is gone; every other refusal stays an error. A name
may not be empty, since the path of the empty name would be that of the whole collection: `pathOf?`
has no path for it, and an operation on it sends no request at all.
-/

namespace WorkspaceAccess

open Json (last? orDefault?)

/-- The objects of one kind on a server: where they are, and how they are read. -/
structure Collection (α : Type) where
  /-- The server, which is the local cluster or a logical cluster of the remote one. -/
  server : Server
  /-- The kind of the objects. -/
  kind : ObjectKind
  /-- The namespace of the objects; all of them, if there is none. -/
  ns : Option String
  /-- How an object is read. What it does not read is an unreadable reply. -/
  decode : Json → Option α

namespace Collection

variable {α : Type}

/-- What a list says about itself is well-formed. Nothing of it is used, but a list of which this
part cannot be read is not read at all. -/
def listMeta? (j : Json) : Option Unit := do
  let field ← j.object?
  let _ ← last? Json.string? (field "continue")
  let _ ← last? Json.int64? (field "remainingItemCount")
  let _ ← last? Json.string? (field "resourceVersion")
  let _ ← last? Json.string? (field "selfLink")

/-- The objects of a list. The items have to be there, `null` for none. What else the list says
about itself may be of any shape, but has to be readable. -/
def objects? (decode : Json → Option α) : Json → Option (List α)
  | .object members => do
    let names := ["metadata", "items"]
    let field ← Json.record? names 0 (.object members)
    let _ ← (members.filter fun m => !names.contains m.1).mapM fun m => m.2.any?
    let _ ← orDefault? () listMeta? (field "metadata")
    match field "items" with
    | none => none
    | some .null => some []
    | some items => Json.list? decode items
  | _ => none

/-- The path of the collection, to which objects are added and under which they are listed. -/
def path (c : Collection α) : String := c.kind.path c.ns

/-- The path of the object of a name, which may not be empty: that would be the path of the
collection itself. -/
def pathOf? (c : Collection α) (name : String) : Option String :=
  if name = "" then none else some (c.path ++ "/" ++ name)

/-- A request about the object of a name. There is none for the empty name, nor where the path and
the parameters make up no address. -/
def requestOf? (c : Collection α) (method : Method) (name : String)
    (parameters : List (String × String)) (content : Option Content) : Option Request :=
  (c.pathOf? name).bind fun path => Request.ofPath? c.server method path parameters content

/-- The object of a name. That there is none is an error here; `get?` tells it apart. -/
def get (c : Collection α) (name : String) : Exchange (Except ApiError α) :=
  .request c.decode ((c.pathOf? name).bind fun path => Request.ofTarget? c.server .get path none)

/-- The object of a name, if the server does not say that there is none. Only a refusal that says so
counts; a reply that does not come leaves open whether there is one. -/
def get? (c : Collection α) (name : String) : Exchange (Except ApiError (Option α)) :=
  (c.get name).map fun
    | .ok a => .ok (some a)
    | .error e => if e.isAbsence then .ok none else .error e

/-- Creates an object; the answer is the object that is stored. -/
def create (c : Collection α) (object : Json) : Exchange (Except ApiError α) :=
  .request c.decode (Request.ofPath? c.server .post c.path [] (some (.object object)))

/-- Replaces the object of a name; the answer is the object that is stored. The server refuses if
the object has changed since the version that the new one names. -/
def replace (c : Collection α) (name : String) (object : Json) : Exchange (Except ApiError α) :=
  .request c.decode (c.requestOf? .put name [] (some (.object object)))

/-- Merges changes into the object of a name; the answer is the object that is stored. The manager
is the client on whose behalf the fields are changed. -/
def patch (c : Collection α) (name manager : String) (changes : Json) :
    Exchange (Except ApiError α) :=
  .request c.decode
    (c.requestOf? .patch name [("fieldManager", manager)] (some (.mergePatch changes)))

/-- The objects with these labels, all of them if none are given. -/
def list (c : Collection α) (labels : Option String) : Exchange (Except ApiError (List α)) :=
  .request (objects? c.decode) (Request.ofPath? c.server .get c.path
    (labels.map fun l => ("labelSelector", l)).toList none)

/-- Adds annotations to the object of a name; the answer says whether it is there. An object that
has been deleted in the meantime is no error. -/
def annotate (c : Collection α) (name manager : String) (annotations : Json) :
    Exchange (Except ApiError Bool) :=
  (c.patch name manager (.object [("metadata", .object [("annotations", annotations)])])).map fun
    | .ok _ => .ok true
    | .error e => if e.isNotFound then .ok false else .error e

end Collection

end WorkspaceAccess
