import WorkspaceAccess.Object.Kind
import WorkspaceAccess.Object.Meta
import WorkspaceAccess.ResourceId

/-!
# Identity of Watched Objects

Objects that are watched in the local cluster have a namespace and a name, and these are what the
indexes and the queues know them by. An object without one of them cannot be told from others, and
an event about it ends the watch with an error that says what is missing.

A missing namespace is reported first, with the kind of the object in the message, since it hints at
an object that is registered for the whole cluster by mistake; a missing name is reported only for
an object that has a namespace.

What identifies an object is stated once more, apart from this function, in
`WorkspaceAccess.Proofs.Index.Identity`, where the two are proved to agree.
-/

namespace WorkspaceAccess

/-- Why an object cannot be identified. -/
inductive IdentityError where
  /-- An object of this kind has no namespace. -/
  | noNamespace (kind : ObjectKind)
  /-- The object has no name. -/
  | noName
  deriving DecidableEq

namespace IdentityError

/-- What is said about the object that cannot be identified. -/
def message : IdentityError → String
  | noNamespace kind => kind.name ++ " must have a namespace"
  | noName => ".metadata.name missing"

end IdentityError

/-- The namespace and the name of an object of this kind, if it has both. -/
def ObjectMeta.identify (m : ObjectMeta) (kind : ObjectKind) : Except IdentityError ResourceId :=
  match m.ns, m.name with
  | none, _ => .error (.noNamespace kind)
  | some _, none => .error .noName
  | some ns, some name => .ok ⟨ns, name⟩

end WorkspaceAccess
