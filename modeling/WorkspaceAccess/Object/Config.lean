import WorkspaceAccess.Object.ClusterRoleBinding
import WorkspaceAccess.Text.Base64

/-!
# Settings and Credentials

Settings are kept as texts in a config map, credentials as bytes in a secret. The bytes travel as
text to base 64, and a value that is `null` stands for no bytes.

Both objects are only ever read: the controllers look them up at the beginning of every connection
to the remote control plane (`WorkspaceAccess.Remote.Connector`), so that a change takes effect with
the next run. They are decoded in full, also the parts that are not used, because an object with a
part of the wrong shape is refused as a whole.
-/

namespace WorkspaceAccess

open Json (last? lastOr?)

/-- The bytes that a text value writes to base 64; `null` stands for none. -/
def Json.bytes? : Json → Option (List UInt8)
  | .null => some []
  | j => j.string?.bind fun s => Base64.decode s.toList

/-- Settings, as texts under keys. -/
structure ConfigMap where
  /-- The metadata of the object. -/
  metadata : ObjectMeta := {}
  /-- Settings that are no texts. They are not used, but have to be of the right form. -/
  binaryData : Option (SortedMap String (List UInt8)) := none
  /-- The settings, as texts under their keys. -/
  data : Option (SortedMap String String) := none
  /-- The settings cannot be changed. -/
  immutable : Option Bool := none

namespace ConfigMap

/-- The settings that a value describes. -/
def ofJson? (j : Json) : Option ConfigMap := do
  let field ← j.object?
  if ObjectKind.configMap.admits field then
    return {
      metadata := ← lastOr? {} ObjectMeta.ofJson? (field "metadata")
      binaryData := ← last? (Json.map? Json.bytes?) (field "binaryData")
      data := ← last? Json.stringMap? (field "data")
      immutable := ← last? Json.bool? (field "immutable") }
  else none

end ConfigMap

/-- Credentials, as bytes under keys. -/
structure Secret where
  /-- The metadata of the object. -/
  metadata : ObjectMeta := {}
  /-- The credentials, as bytes under their keys. -/
  data : Option (SortedMap String (List UInt8)) := none
  /-- The credentials cannot be changed. -/
  immutable : Option Bool := none
  /-- Credentials to be added, as texts; a server takes them in and does not show them again. -/
  stringData : Option (SortedMap String String) := none
  /-- What the credentials are for. -/
  type : Option String := none

namespace Secret

/-- The credentials that a value describes. -/
def ofJson? (j : Json) : Option Secret := do
  let field ← j.object?
  if ObjectKind.secret.admits field then
    return {
      metadata := ← lastOr? {} ObjectMeta.ofJson? (field "metadata")
      data := ← last? (Json.map? Json.bytes?) (field "data")
      immutable := ← last? Json.bool? (field "immutable")
      stringData := ← last? Json.stringMap? (field "stringData")
      type := ← last? Json.string? (field "type") }
  else none

end Secret

end WorkspaceAccess
