import WorkspaceAccess.Json.Basic
import WorkspaceAccess.SortedMap

/-!
# Values of a Given Shape

A decoder is a function `Json → Option α` that answers `none` for a value of another shape. The
combinators here say how the members of an object are read: a member that is *required* must be
there, an *optional* one may be absent or `null`, and one with a *default* may be absent but not
`null`.

Two families of objects are read in two ways. A record may also be written as an array of its fields
in order (`record?`), and in either form a field that is written twice is refused; the
specifications of the objects are such records. What belongs to the API itself, above all the
metadata, is an object only (`object?`), and of a field that is written more than once the last one
counts, though all of them have to be of the right shape (`last?`).

Members that no decoder asks for are passed over. An object that is read and written again has lost
them, which is the *normal form* of `WorkspaceAccess.Proofs.Object.NormalForm`.
-/

namespace WorkspaceAccess.Json

universe u

variable {α : Type u}

/-- A required member: it has to be there and of the shape. -/
def required? (decode : Json → Option α) : Option Json → Option α
  | none => none
  | some v => decode v

/-- A member that may be absent or `null`; both mean that there is none. -/
def optional? (decode : Json → Option α) : Option Json → Option (Option α)
  | none => some none
  | some .null => some none
  | some v => (decode v).map some

/-- A member that takes a default when it is absent, and only then. -/
def orDefault? (default : α) (decode : Json → Option α) : Option Json → Option α
  | none => some default
  | some v => decode v

/-- A list of values of one shape. One item of another shape spoils the list. -/
def list? (decode : Json → Option α) : Json → Option (List α)
  | .array items => items.mapM decode
  | _ => none

/-- An object whose members have values of one shape, read as a map. -/
def map? (decode : Json → Option α) : Json → Option (SortedMap String α)
  | .object members => (members.mapM fun m => (decode m.2).map (m.1, ·)).map SortedMap.ofList
  | _ => none

/-- An object of texts, read as a map. -/
def stringMap? : Json → Option (SortedMap String String) := map? string?

/-- A map of texts as an object, its members in the order of the keys. -/
def ofStringMap (m : SortedMap String String) : Json :=
  .object (m.entries.map fun e => (e.1, .string e.2))

/-- A list of texts as an array. -/
def ofStrings (l : List String) : Json := .array (l.map .string)

/-- A whole number of 64 bits with sign, the form of all counters of the API. -/
def int64? : Json → Option Int
  | .integer n => if -0x8000_0000_0000_0000 ≤ n ∧ n < 0x8000_0000_0000_0000 then some n else none
  | _ => none

/-- The fields of a record with the given field names: the members of an object, or the items
of an array in the order of the names. An array may end early, but not before the first
`least` fields. -/
def record? (names : List String) (least : Nat) : Json → Option (String → Option Json)
  | .object members =>
    if names.any fun n => 1 < members.countP (·.1 == n) then none
    else some fun n => lastOf? n members
  | .array items =>
    if least ≤ items.length ∧ items.length ≤ names.length then
      some fun n => lastOf? n (names.zip items)
    else none
  | _ => none

/-- What an object holds under each name, in order, for a record that has no array form and may
repeat its fields. -/
def object? : Json → Option (String → List Json)
  | .object members => some fun n => (members.filter (·.1 == n)).map (·.2)
  | _ => none

/-- A field that may be absent, `null` or repeated: each time it has to be of the shape, and the
last time counts. A `null` that comes last is none. -/
def last? (decode : Json → Option α) (values : List Json) : Option (Option α) :=
  (values.mapM fun v => optional? decode (some v)).map fun decoded => decoded.getLast?.join

/-- A field that may be absent, `null` or repeated, with a default. -/
def lastOr? (default : α) (decode : Json → Option α) (values : List Json) : Option α :=
  (last? decode values).map (·.getD default)

end WorkspaceAccess.Json
