import WorkspaceAccess.KeyOrder
import WorkspaceAccess.Text.Hexadecimal
import WorkspaceAccess.Text.Utf8

/-!
# Parameters of a Query

Names and values are written as in a form: letters, digits and `*-._` as they are, a space as a plus
sign, and every other byte as a percent sign and two digits to base sixteen. Parameters are
separated by `&`; the reader passes over empty ones.

The client writes parameters and the simulated server reads them, so both directions are here.
Writing works on the bytes of a text and never fails. Reading takes whatever it finds: a percent
sign without digits stands for itself, and bytes that are no UTF-8 are read with replacements
(`WorkspaceAccess.Text.Utf8`).

Every parameter is written with the separator in front, also the first one, so that parameters can
be added to a query one by one.
-/

namespace WorkspaceAccess.Form

/-- The character is written as it is. -/
def isPlain (c : Char) : Bool := c.isAlphanum || c == '*' || c == '-' || c == '.' || c == '_'

/-- A digit to base sixteen. -/
def hexDigit (n : Nat) : Char :=
  if n < 10 then Char.ofNat ('0'.toNat + n) else Char.ofNat ('A'.toNat + (n - 10))

/-- How a byte is written. -/
def encodeByte (b : UInt8) : List Char :=
  let c := Char.ofNat b.toNat
  if b.toNat < 128 && isPlain c then [c]
  else if c = ' ' then ['+']
  else ['%', hexDigit (b.toNat / 16), hexDigit (b.toNat % 16)]

/-- A name or a value as it is written, byte by byte. -/
def encode (s : String) : String := String.ofList ((utf8Bytes s).flatMap encodeByte)

/-- The bytes that are written. A percent sign without two digits stands for itself. -/
def decodeBytes : List Char → List UInt8
  | [] => []
  | '+' :: rest => ' '.toNat.toUInt8 :: decodeBytes rest
  | '%' :: a :: b :: rest =>
    match Text.hexNumber? [a, b] with
    | some n => n.toUInt8 :: decodeBytes rest
    | none => '%'.toNat.toUInt8 :: decodeBytes (a :: b :: rest)
  | c :: rest => utf8Bytes c.toString ++ decodeBytes rest

/-- The name or the value that is written, with a replacement for bytes that write no character. -/
def decode (s : List Char) : String := String.ofList (Text.charsOfBytes (decodeBytes s))

/-- Parameters as they are added to a query, each with the separator in front. -/
def render (parameters : List (String × String)) : String :=
  String.join (parameters.map fun p => "&" ++ encode p.1 ++ "=" ++ encode p.2)

/-- The parameter that a part of a query writes. -/
def parameter (s : List Char) : String × String :=
  (decode (s.takeWhile (· ≠ '=')), decode ((s.dropWhile (· ≠ '=')).drop 1))

/-- The parameters of a query, in order. -/
def parse (query : List Char) : List (String × String) :=
  ((query.splitOn '&').filter (· ≠ [])).map parameter

end WorkspaceAccess.Form
