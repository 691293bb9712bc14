import WorkspaceAccess.Json.Basic
import WorkspaceAccess.Text.Decimal

/-!
# Reading Numbers in JSON

A whole number is exact if it fits in 64 bits. Every other number is read with double precision,
from a significand of 64 bits at most, which the power of ten is applied to by one multiplication or
division with double precision. So the number read may differ in its last bit from the nearest one;
that difference is part of what is modelled here. A number beyond double precision is well written
but cannot be held, and one that is too small is zero.

The significand takes up digits as long as they fit and then no more, also when a later one would be
a zero. The digits of the whole part that are left over count for the exponent, those of the
fraction do not.

Minus zero is no whole number here, since it would lose its sign; it is read with double precision.
-/

namespace WorkspaceAccess.Json.Number

/-- The first significand that does not fit into 64 bits. -/
def limit : Nat := 0x1_0000_0000_0000_0000

/-- The digits of a number, taken up as long as they fit. -/
structure Significand where
  /-- The number that the digits write. -/
  value : Nat
  /-- How many digits were taken. -/
  taken : Nat

/-- Takes up digits after a significand, up to the first that does not fit. -/
def Significand.extend (s : Significand) : List Char → Significand
  | [] => s
  | c :: rest =>
    let value := s.value * 10 + (c.toNat - '0'.toNat)
    if value < limit then extend ⟨value, s.taken + 1⟩ rest else s

/-- The magnitude of a power of ten with an exponent up to 308, beyond which there is none. -/
def powerOfTen (n : Nat) : Double := (Double.ofNat? (Nat.pow 10 n)).getD .zero

/-- A magnitude divided by a power of ten, in steps of at most 308 places, each of which rounds. -/
def shrink (x : Double) (n : Nat) : Double :=
  if n ≤ 308 then (x.div? (powerOfTen n)).getD .zero
  else if x.isZero then x
  else shrink ((x.div? (powerOfTen 308)).getD .zero) (n - 308)
termination_by n

/-- A significand times a power of ten, if that is not beyond double precision. A significand of
zero is zero with every power. -/
def magnitude? (significand : Nat) (power : Int) : Option Double := do
  let x ← Double.ofNat? significand
  if power < 0 then some (shrink x power.natAbs)
  else if power ≤ 308 then x.mul? (powerOfTen power.toNat)
  else if x.isZero then some x
  else none

/-- The value of a number with these digits before and after its point, and an exponent: of double
precision, or unreadable. -/
def value (negative : Bool) (whole fraction : List Char) (exponent : Int) : Json :=
  let start := Significand.extend ⟨0, 0⟩ whole
  let full := start.extend fraction
  match magnitude? full.value
      (exponent + (whole.length - start.taken : Nat) - (full.taken - start.taken : Nat)) with
  | some x => .float negative x
  | none => .unreadable

/-- The number in front of a text after its sign, and the text after it. Zeros may not stand in
front of other digits, and digits have to follow a point and the letter of an exponent. -/
def read? (negative : Bool) (s : List Char) : Option (Json × List Char) := do
  let whole := s.takeWhile Char.isDigit
  if whole.isEmpty || (1 < whole.length && whole.head? == some '0') then none
  else
    let (fraction, rest) ← fraction? (s.drop whole.length)
    let (exponent, rest) ← exponent? rest
    let n := Decimal.natOfDigits whole
    let exact := fraction.isNone && exponent.isNone
    if exact && !negative && n < limit then some (.integer n, rest)
    else if exact && negative && 0 < n && n ≤ limit / 2 then some (.integer (-(n : Int)), rest)
    else some (value negative whole (fraction.getD []) (exponent.getD 0), rest)
where
  /-- The digits after a point, if there is one. -/
  fraction? : List Char → Option (Option (List Char) × List Char)
    | '.' :: rest =>
      let digits := rest.takeWhile Char.isDigit
      if digits.isEmpty then none else some (some digits, rest.drop digits.length)
    | rest => some (none, rest)
  /-- The number after the letter of an exponent, if there is one. -/
  exponent? : List Char → Option (Option Int × List Char)
    | c :: rest =>
      if c = 'e' ∨ c = 'E' then
        let (negative, rest) := Decimal.sign rest
        let digits := rest.takeWhile Char.isDigit
        let n : Int := Decimal.natOfDigits digits
        if digits.isEmpty then none
        else some (some (if negative then -n else n), rest.drop digits.length)
      else some (none, c :: rest)
    | [] => some (none, [])

end WorkspaceAccess.Json.Number
