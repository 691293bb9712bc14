import WorkspaceAccess.KeyOrder
import WorkspaceAccess.Text.Hexadecimal
import WorkspaceAccess.Yaml.Node

/-!
# What Scalars Mean

A scalar between quotes is a text. What a plain scalar means depends on its text: it may be a truth
value, a number or nothing. A tag of the standard says what a scalar has to be, however it is
written; any other tag of a schema makes it a text. A tag of the writer's own leaves its meaning as
it is.

The forms of numbers are those of common use and not all that a standard lists: whole numbers to the
bases two, eight, ten and sixteen, and decimal numbers with a point or an exponent. Digits with a
zero in front are a text, so that a telephone number or an account keeps its zeros. A whole number
that 64 bits do not hold, but 128 bits would, is refused rather than rounded, while longer ones are
read with double precision.
-/

namespace WorkspaceAccess.Yaml

/-! ### Plain scalars -/

/-- Digits are a text and no number where more than one stands after a zero. -/
def isDigitText (s : List Char) : Bool :=
  let s := (Decimal.sign s).2
  1 < s.length && s.head? == some '0' && s.all Char.isDigit

/-- The number that digits to a base write, if there are any and all are below the base. -/
def digitsOf? (base : Nat) (s : List Char) : Option Nat := do
  let values ← s.mapM Text.hexValue?
  if s.isEmpty ∨ values.any (base ≤ ·) then none
  else some (values.foldl (fun n d => n * base + d) 0)

/-- The whole number that a text writes, to a base that it names or to base ten. -/
def integer? (s : List Char) : Option Int :=
  let (negative, digits) := Decimal.sign s
  let magnitude := match digits with
    | '0' :: 'x' :: ds => digitsOf? 16 ds
    | '0' :: 'o' :: ds => digitsOf? 8 ds
    | '0' :: 'b' :: ds => digitsOf? 2 ds
    | ds => if isDigitText ds then none else digitsOf? 10 ds
  magnitude.map fun n => if negative then -(n : Int) else n

/-- The words for a truth value, in three spellings each. -/
def bool? (text : String) : Option Bool :=
  if ["true", "True", "TRUE"].contains text then some true
  else if ["false", "False", "FALSE"].contains text then some false
  else none

/-- The words for nothing. -/
def isNull (text : String) : Bool := ["~", "null", "Null", "NULL"].contains text

/-- What a whole number means. One that 64 bits do not hold is refused. -/
def wholeNumber? (n : Int) : Option Node :=
  if -0x8000_0000_0000_0000 ≤ n ∧ n < 0x1_0000_0000_0000_0000 then some (.integer n) else none

/-- The whole number that a text writes, if 128 bits hold it. -/
def longInteger? (s : List Char) : Option Int :=
  (integer? s).filter fun n =>
    -0x8000_0000_0000_0000_0000_0000_0000_0000 ≤ n ∧
      n < 0x1_0000_0000_0000_0000_0000_0000_0000_0000

/-- What a plain scalar means: nothing, a truth value, a number, or else its text. -/
def resolve? (text : String) : Option Node :=
  let s := text.toList
  if text = "" ∨ isNull text then some .null
  else match bool? text, longInteger? s with
    | some b, _ => some (.bool b)
    | none, some n => wholeNumber? n
    | none, none =>
      match if isDigitText s then none else Float64.ofChars? s with
      | some x => some (.float x)
      | none => some (.string text)

/-- What a tag says about the scalar that it stands before. -/
inductive Tag where
  /-- The writer's own tag, which stays with the value. -/
  | own (name : String)
  /-- The value is what the scalar says. -/
  | plain
  /-- The value is a truth value. -/
  | bool
  /-- The value is a whole number. -/
  | integer
  /-- The value is a number of double precision. -/
  | float
  /-- The tag says that there is no value. -/
  | null
  /-- The value is something else, of which the scalar is the text. -/
  | other
  deriving DecidableEq

namespace Tag

/-- A text after the exclamation mark in front, if there is more. -/
def afterMark (s : String) : String :=
  match s.toList with
  | '!' :: c :: rest => String.ofList (c :: rest)
  | _ => s

/-- What a tag of these bytes says. The writer's own tags begin with an exclamation mark, and have
to be texts to say anything. -/
def ofBytes (bytes : List UInt8) : Tag :=
  let text := String.fromUTF8? ⟨bytes.toArray⟩
  if bytes.head? = some '!'.toNat.toUInt8 then
    match text with
    | some name => .own (afterMark (afterMark name))
    | none => .plain
  else
    let standard := [("bool", bool), ("int", integer), ("float", float), ("null", null)]
    ((text.bind fun name =>
      (standard.find? fun s => "tag:yaml.org,2002:" ++ s.1 == name).map (·.2))).getD .other

/-- The name, if the tag is the writer's own. -/
def own? : Tag → Option String
  | own name => some name
  | _ => none

end Tag

/-- What a scalar means that is plain or not and has a tag or none. A tag that does not fit the text
makes it unreadable. -/
def scalar? (tag : Option Tag) (plain : Bool) (text : String) : Option Node :=
  match tag with
  | none | some .plain | some (.own _) => if plain then resolve? text else some (.string text)
  | some .bool => (bool? text).map .bool
  | some .integer => (longInteger? text.toList).bind wholeNumber?
  | some .float => (Float64.ofChars? text.toList).map .float
  | some .null => if isNull text then some .null else none
  | some .other => some (.string text)

end WorkspaceAccess.Yaml
