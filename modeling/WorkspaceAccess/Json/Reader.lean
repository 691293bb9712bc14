import WorkspaceAccess.Json.Number
import WorkspaceAccess.Text.Hexadecimal

/-!
# Reading JSON

The reader takes the longest token at each place and leaves the rest of the text. It refuses what
the grammar does not have: leading zeros, control characters inside texts, and anything but blanks
after the value. What the grammar has but a value cannot hold is read as unreadable: single halves
of a surrogate pair, numbers beyond double precision, and lists and objects inside 127 others.

The distinction matters because a text with something unreadable in a member that nobody looks at is
still a good reply, while a text that is no JSON is none. So the functions for texts answer in two
layers: whether there is a text at all, and whether it can be held.

The recursion of values, items and members is bounded by a number of steps. `Json.parse?` gives
twice the length of the text and two more, and every step either uses up a character or is followed
by one that does, so the bound is not what makes a text unreadable.
-/

namespace WorkspaceAccess.Json

namespace Reader

/-- A character that may stand between tokens. -/
def isGap (c : Char) : Bool := c == ' ' || c == '\t' || c == '\n' || c == '\r'

/-- The text after the blanks in front. -/
def skipGap (s : List Char) : List Char := s.dropWhile isGap

/-- The character that a one-letter escape stands for; other letters may not be escaped. -/
def escape? : Char → Option Char
  | '"' => some '"'
  | '\\' => some '\\'
  | '/' => some '/'
  | 'b' => some '\x08'
  | 'f' => some '\x0c'
  | 'n' => some '\n'
  | 'r' => some '\r'
  | 't' => some '\t'
  | _ => none

/-- The character of a code unit, if it is no half of a surrogate pair. -/
def unit? (n : Nat) : Option Char :=
  if 0xD800 ≤ n ∧ n < 0xE000 then none else some (Char.ofNat n)

/-- The character of a surrogate pair, if the two code units are one: a high half first and a low
half after it. -/
def pair? (first second : Nat) : Option Char :=
  if 0xD800 ≤ first ∧ first < 0xDC00 ∧ 0xDC00 ≤ second ∧ second < 0xE000 then
    some (Char.ofNat (0x10000 + (first - 0xD800) * 0x400 + (second - 0xDC00)))
  else none

/-- The characters up to the closing quote, if all of them can be held, and the text after it. A
half of a pair that stands alone makes the text one that cannot be held, and the reading goes on
behind it. -/
def stringBody : List Char → Option (Option (List Char) × List Char)
  | [] => none
  | '"' :: rest => some (some [], rest)
  | '\\' :: 'u' :: a :: b :: c :: d :: '\\' :: 'u' :: e :: f :: g :: h :: rest => do
    let first ← Text.hexNumber? [a, b, c, d]
    let second ← Text.hexNumber? [e, f, g, h]
    match pair? first second with
    | some ch => before (some ch) (← stringBody rest)
    | none => before (unit? first) (← stringBody ('\\' :: 'u' :: e :: f :: g :: h :: rest))
  | '\\' :: 'u' :: a :: b :: c :: d :: rest => do
    let n ← Text.hexNumber? [a, b, c, d]
    before (unit? n) (← stringBody rest)
  | '\\' :: c :: rest => do
    let c ← escape? c
    before (some c) (← stringBody rest)
  | c :: rest =>
    if c.toNat < 0x20 ∨ c = '\\' then none
    else do before (some c) (← stringBody rest)
termination_by s => s.length
where
  /-- Puts a character in front of what was read. -/
  before (c : Option Char) (read : Option (List Char) × List Char) :
      Option (Option (List Char) × List Char) :=
    some (do some ((← c) :: (← read.1)), read.2)

/-- Lists and objects may be inside so many others; deeper ones cannot be held. -/
def depthLimit : Nat := 127

mutual

/-- The value in front of the text, inside so many others, read with a bound on the number of
steps. -/
def value? : Nat → Nat → List Char → Option (Json × List Char)
  | 0, _, _ => none
  | fuel + 1, depth, s =>
    let held (v : Json) : Json := if depth < depthLimit then v else .unreadable
    match skipGap s with
    | 'n' :: 'u' :: 'l' :: 'l' :: rest => some (.null, rest)
    | 't' :: 'r' :: 'u' :: 'e' :: rest => some (.bool true, rest)
    | 'f' :: 'a' :: 'l' :: 's' :: 'e' :: rest => some (.bool false, rest)
    | '"' :: rest => do
      let (text, rest) ← stringBody rest
      some ((text.map fun cs => .string (String.ofList cs)).getD .unreadable, rest)
    | '[' :: rest =>
      match skipGap rest with
      | ']' :: rest => some (held (.array []), rest)
      | rest => do
        let (items, rest) ← items? fuel (depth + 1) rest
        some (held (.array items), rest)
    | '{' :: rest =>
      match skipGap rest with
      | '}' :: rest => some (held (.object []), rest)
      | rest => do
        let (members, rest) ← members? fuel (depth + 1) rest
        some ((members.map fun ms => held (.object ms)).getD .unreadable, rest)
    | '-' :: rest => Number.read? true rest
    | rest => Number.read? false rest

/-- The items up to the closing bracket. -/
def items? : Nat → Nat → List Char → Option (List Json × List Char)
  | 0, _, _ => none
  | fuel + 1, depth, s => do
    let (v, rest) ← value? fuel depth s
    match skipGap rest with
    | ']' :: rest => some ([v], rest)
    | ',' :: rest =>
      let (vs, rest) ← items? fuel depth rest
      some (v :: vs, rest)
    | _ => none

/-- The members up to the closing brace, if all their names can be held. -/
def members? : Nat → Nat → List Char → Option (Option (List (String × Json)) × List Char)
  | 0, _, _ => none
  | fuel + 1, depth, s =>
    match skipGap s with
    | '"' :: rest => do
      let (name, rest) ← stringBody rest
      match skipGap rest with
      | ':' :: rest =>
        let (v, rest) ← value? fuel depth rest
        let member := name.map fun cs => (String.ofList cs, v)
        match skipGap rest with
        | '}' :: rest => some (member.map fun m => [m], rest)
        | ',' :: rest =>
          let (ms, rest) ← members? fuel depth rest
          some (do some ((← member) :: (← ms)), rest)
        | _ => none
      | _ => none
    | _ => none

end

end Reader

/-- The value that a whole text writes, if it writes one and nothing else. -/
def parse? (text : String) : Option Json :=
  let s := text.toList
  match Reader.value? (2 * s.length + 2) 0 s with
  | some (v, rest) => if (Reader.skipGap rest).isEmpty then some v else none
  | none => none

end WorkspaceAccess.Json
