import WorkspaceAccess.KeyOrder

/-!
# Names of Namespaced Resources

A resource of the local cluster is identified by its namespace and its name, and ordered by the
namespace first. Both parts count: two namespaces may have a resource of the same name, and these
are different keys of the queues and of the indexes.

Identities are compared as pairs and not as texts. The text with a slash (`ResourceId.text`) is for
people; neither part of an identity can contain a slash in a cluster, but nothing here depends on
that.
-/

namespace WorkspaceAccess

/-- Identifies a namespaced resource in the local cluster. -/
structure ResourceId where
  /-- The namespace that holds the resource. -/
  ns : String
  /-- The name of the resource in its namespace. -/
  name : String
  deriving DecidableEq, Inhabited

namespace ResourceId

/-- Resources are ordered by namespace, then by name. -/
instance : KeyOrder ResourceId :=
  KeyOrder.ofInjective (fun id => (id.ns, id.name)) fun a b h => by
    cases a; cases b; simpa using h

/-- The namespace and the name, with a slash between them, as identities are shown. -/
def text (id : ResourceId) : String := id.ns ++ "/" ++ id.name

end ResourceId

end WorkspaceAccess
