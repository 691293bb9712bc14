import WorkspaceAccess.Json.Basic
import WorkspaceAccess.Number.Shortest

/-!
# Writing JSON

The compact form: no blanks between tokens, and inside texts only quotes, backslashes and control
characters are escaped. Numbers of double precision have the fewest digits that read back; they are
written with a point where that takes up to sixteen digits before it or four zeros after it, and
else with an exponent.

Every value has exactly one compact form. Requests carry it as their content, so two requests with
one body carry one value, and what the simulated server stores can be compared as text. A value that
could not be held when it was read is written as `null`.

The functions append to what is already written, so that a value is written in one pass from left to
right.
-/

namespace WorkspaceAccess.Json

namespace Printer

/-- A digit to base sixteen. -/
def hexDigit (n : Nat) : Char :=
  if n < 10 then Char.ofNat ('0'.toNat + n) else Char.ofNat ('a'.toNat + (n - 10))

/-- How a character is written inside a text. Characters beyond ASCII are written as they are. -/
def character (c : Char) : String :=
  match c with
  | '"' => "\\\""
  | '\\' => "\\\\"
  | '\n' => "\\n"
  | '\r' => "\\r"
  | '\t' => "\\t"
  | '\x08' => "\\b"
  | '\x0c' => "\\f"
  | c =>
    if c.toNat < 0x20 then
      "\\u00" ++ String.ofList [hexDigit (c.toNat / 16), hexDigit (c.toNat % 16)]
    else c.toString

/-- A text between quotes, appended to what is already written. -/
def text (acc : String) (s : String) : String :=
  (s.toList.foldl (fun acc c => acc ++ character c) (acc ++ "\"")) ++ "\""

/-- A number of digits and the power of ten it is multiplied with, with a point or with an
exponent. -/
def decimal (digits : List Char) (power : Int) : List Char :=
  let length : Int := digits.length
  let top := length + power
  if 0 ≤ power ∧ top ≤ 16 then digits ++ List.replicate power.toNat '0' ++ ['.', '0']
  else if 0 < top ∧ top ≤ 16 then digits.take top.toNat ++ '.' :: digits.drop top.toNat
  else if -5 < top ∧ top ≤ 0 then '0' :: '.' :: List.replicate top.natAbs '0' ++ digits
  else
    let exponent := 'e' :: (toString (top - 1)).toList
    match digits with
    | d :: d' :: rest => d :: '.' :: d' :: rest ++ exponent
    | digits => digits ++ exponent

/-- A number of double precision, by the fewest digits that read back. -/
def float (negative : Bool) (magnitude : Double) : String :=
  let (digits, power) := magnitude.shortest
  String.ofList ((if negative then ['-'] else []) ++ decimal (Nat.toDigits 10 digits) power)

mutual

/-- A value, appended to what is already written. -/
def value (acc : String) : Json → String
  | .null | .unreadable => acc ++ "null"
  | .bool true => acc ++ "true"
  | .bool false => acc ++ "false"
  | .integer n => acc ++ toString n
  | .float negative magnitude => acc ++ float negative magnitude
  | .string s => text acc s
  | .array [] => acc ++ "[]"
  | .array (j :: rest) => items (value (acc ++ "[") j) rest ++ "]"
  | .object [] => acc ++ "\x7b\x7d"
  | .object (m :: rest) => members (value (text (acc ++ "\x7b") m.1 ++ ":") m.2) rest ++ "\x7d"

/-- The further items of an array. -/
def items (acc : String) : List Json → String
  | [] => acc
  | j :: rest => items (value (acc ++ ",") j) rest

/-- The further members of an object. -/
def members (acc : String) : List (String × Json) → String
  | [] => acc
  | m :: rest => members (value (text (acc ++ ",") m.1 ++ ":") m.2) rest

end

end Printer

/-- The value as text, in its only compact form. -/
def compact (j : Json) : String := Printer.value "" j

end WorkspaceAccess.Json
