import WorkspaceAccess.Number.Double

/-!
# JSON Values

The values that objects, requests and settings are written in. An object keeps its members in the
order in which they were written, a repeated name included; `Json.member?` answers with the last
member of a name, and `Json.distinct` keeps only that one. Nothing is lost when a text is read, so
it is for the decoders to say what a repetition or an unknown member means to them.

Numbers are of two sorts. A number without fraction and exponent is exact, and every other one has
double precision, so that what is counted is never rounded.

A text may write a value that cannot be held, such as half of a surrogate pair. Such a value stands
for itself as `Json.unreadable`: whoever has no use for it may pass over it, and whoever looks at it
finds no value of any shape. `Json.any?` is the test that nothing of the kind is inside a value.

## Main results

* `Json.objectOf_map_some`: an object that is put together from members some of which may be absent
  is the plain object of its members when all of them are there. The proofs about the written form
  of an object use it to forget that fields could be missing.
-/

namespace WorkspaceAccess

/-- A JSON value, as it was written. -/
inductive Json where
  /-- The value `null`, of which there is one. -/
  | null
  /-- A truth value, `true` or `false`. -/
  | bool (b : Bool)
  /-- A number without fraction or exponent. -/
  | integer (n : Int)
  /-- Any other number, with double precision. -/
  | float (negative : Bool) (magnitude : Double)
  /-- A text, with its characters and not their escapes. -/
  | string (s : String)
  /-- A list of values, in the order in which they stand. -/
  | array (items : List Json)
  /-- Named values, in the order in which they were written. -/
  | object (members : List (String × Json))
  /-- What is well written but cannot be held: a text or a name with half of a surrogate pair, a
  number beyond double precision, or a value inside too many others. -/
  | unreadable
  deriving Inhabited, BEq

namespace Json

/-- The value of the last member of that name in a list of members. Later members win. -/
def lastOf? (name : String) : List (String × Json) → Option Json
  | [] => none
  | m :: rest => (lastOf? name rest).or (if m.1 = name then some m.2 else none)

/-- The member of that name; a value that is no object has none. -/
def member? (j : Json) (name : String) : Option Json :=
  match j with
  | object members => lastOf? name members
  | _ => none

/-- The members of an object, and none for any other value. -/
def members : Json → List (String × Json)
  | object members => members
  | _ => []

/-- The items of an array, and none for any other value. -/
def items : Json → List Json
  | array items => items
  | _ => []

/-- The text, if the value is one. Like its siblings below, this is a decoder for one shape. -/
def string? : Json → Option String
  | string s => some s
  | _ => none

/-- The truth value, if the value is one. -/
def bool? : Json → Option Bool
  | bool b => some b
  | _ => none

/-- The number, if the value is one without fraction or exponent. -/
def integer? : Json → Option Int
  | integer n => some n
  | _ => none

/-- The number, if it is a whole one from zero up to, but not including, `bound`. -/
def natBelow? (bound : Nat) : Json → Option Nat
  | integer n => if 0 ≤ n ∧ n < bound then some n.toNat else none
  | _ => none

/-- The value is `null`. -/
def isNull : Json → Bool
  | null => true
  | _ => false

/-- An object of members some of which may be absent. The absent ones are left out, without a
trace. -/
def objectOf (members : List (String × Option Json)) : Json :=
  object (members.filterMap fun m => m.2.map (m.1, ·))

/-- An object is one whose members are all there, if none of them is absent. -/
theorem objectOf_map_some (members : List (String × Json)) :
    objectOf (members.map fun m => (m.1, some m.2)) = object members := by
  rw [objectOf, List.filterMap_map]
  exact congrArg _ List.filterMap_some

/-- The text, or `null` for none. -/
def ofOption : Option String → Json
  | some s => string s
  | none => null

/-- Puts a member in place of an earlier one of its name, or at the end: the place is that of the
first, the value that of the last. -/
def setMember (name : String) (v : Json) : List (String × Json) → List (String × Json)
  | [] => [(name, v)]
  | m :: rest => if m.1 = name then (name, v) :: rest else m :: setMember name v rest

mutual

/-- The value with, in every object, only the last member of each name. -/
def distinct : Json → Json
  | array items => array (distinctItems items)
  | object members => object (distinctMembers members [])
  | j => j

/-- The values with only the last member of each name. -/
def distinctItems : List Json → List Json
  | [] => []
  | j :: rest => distinct j :: distinctItems rest

/-- The members with only the last of each name, after the ones already kept. -/
def distinctMembers : List (String × Json) → List (String × Json) → List (String × Json)
  | [], kept => kept
  | (name, v) :: rest, kept => distinctMembers rest (setMember name (distinct v) kept)

end

mutual

/-- All inside the value can be held. -/
def isReadable : Json → Bool
  | unreadable => false
  | array items => areReadable items
  | object members => haveReadable members
  | _ => true

/-- All inside the values can be held. -/
def areReadable : List Json → Bool
  | [] => true
  | j :: rest => isReadable j && areReadable rest

/-- All inside the members can be held. -/
def haveReadable : List (String × Json) → Bool
  | [] => true
  | m :: rest => isReadable m.2 && haveReadable rest

end

/-- A value of any shape, unless there is something inside that cannot be held. -/
def any? (j : Json) : Option Json := if j.isReadable then some j else none

end Json

end WorkspaceAccess
