import WorkspaceAccess.Yaml.Node

/-!
# Records of a Document

A record is a mapping whose keys are texts, the names of its fields; nothing is a record without
fields. The combinators here say how a field is read: a *required* one must be there, an *optional*
one may be absent or `null`, and one with a *default* may be absent but not `null`. A field that
nobody reads may hold anything and occur more than once. A tag of a value is passed over.

The combinators have the names and the meaning of those for JSON (`WorkspaceAccess.Json.Decode`), so
that the decoders of both read alike. The differences are those of the two forms: here `null` is an
empty list and an empty record, and a record has no form as a list.
-/

namespace WorkspaceAccess.Yaml

universe u

variable {α : Type u}

namespace Node

/-- A truth value. -/
def bool? (node : Node) : Option Bool :=
  match node.untag with
  | bool b => some b
  | _ => none

/-- A list of values of one shape; nothing is an empty list. -/
def list? (decode : Node → Option α) (node : Node) : Option (List α) :=
  match node.untag with
  | sequence items => items.mapM decode
  | null => some []
  | _ => none

/-- The entries under texts of a mapping. -/
def textEntries? (node : Node) : Option (List (String × Node)) :=
  match node.untag with
  | mapping entries => entries.mapM fun e => e.1.text?.map (·, e.2)
  | null => some []
  | _ => none

/-- The fields of a record by name. Fields of the given names may not be repeated; others may. -/
def fields? (names : List String) (node : Node) : Option (String → Option Node) := do
  let entries ← node.textEntries?
  if names.any fun n => 1 < entries.countP (·.1 == n) then none
  else some fun name => entries.lookup name

/-- A record whose fields are all texts. -/
def textMap? (node : Node) : Option (List (String × String)) := do
  (← node.textEntries?).mapM fun e => e.2.text?.map (e.1, ·)

/-- One of several words, which may also be the tag of nothing, as an alternative of an enumeration
is written. -/
def word? (words : List String) (node : Node) : Option String :=
  (match node with
    | string s => some s
    | tagged tag null => some tag
    | _ => none).filter words.contains

end Node

/-- A required field. -/
def required? (decode : Node → Option α) (field : Option Node) : Option α := field.bind decode

/-- A field that may be absent or `null`; both mean that there is none. -/
def optional? (decode : Node → Option α) : Option Node → Option (Option α)
  | none | some .null => some none
  | some node => (decode node).map some

/-- A field that takes a default when it is absent. -/
def orDefault? (default : α) (decode : Node → Option α) : Option Node → Option α
  | none => some default
  | some node => decode node

end WorkspaceAccess.Yaml
