import WorkspaceAccess.Number.Double

/-!
# Decimal Numbers in Texts

A decimal number is written with an optional sign, digits with a point before, between or after
them, and an optional exponent. It is held exactly, as a whole coefficient and a power of ten, and
may be rounded to double precision.

Reading and rounding are apart, since some readers need the exact number and others the rounded one,
and a number that is too large is still a number. The exponent is an integer without bounds; before
a power of ten is formed, `Decimal.double?` settles the cases in which the result is zero or beyond
all magnitudes, so that no text makes the computation large.
-/

namespace WorkspaceAccess

/-- A decimal number, as exactly as it was written. -/
structure Decimal where
  /-- A minus sign stands in front. -/
  negative : Bool
  /-- The number that the digits write without their point. -/
  coefficient : Nat
  /-- The power of ten that the coefficient is multiplied with. -/
  exponent : Int
  deriving DecidableEq

namespace Decimal

/-- The number that digits write, from the first digit to the last. -/
def natOfDigits (ds : List Char) : Nat :=
  ds.foldl (fun n c => n * 10 + (c.toNat - '0'.toNat)) 0

/-- The sign in front of a text, as whether it is a minus, and the text after it. -/
def sign : List Char → Bool × List Char
  | '-' :: s => (true, s)
  | '+' :: s => (false, s)
  | s => (false, s)

/-- The number of an exponent, read after its letter. -/
def exponent? (s : List Char) : Option Int :=
  let (negative, digits) := sign s
  if digits.isEmpty || !digits.all Char.isDigit then none
  else some (if negative then -(natOfDigits digits : Int) else natOfDigits digits)

/-- The decimal number that a text writes, if all of the text is one. At least one digit has to be
there. -/
def read? (s : List Char) : Option Decimal := do
  let (negative, s) := sign s
  let whole := s.takeWhile Char.isDigit
  let (fraction, s) := match s.dropWhile Char.isDigit with
    | '.' :: r => (r.takeWhile Char.isDigit, r.dropWhile Char.isDigit)
    | r => ([], r)
  if whole.isEmpty && fraction.isEmpty then none
  else
    let exponent ← match s with
      | [] => some 0
      | c :: r => if c = 'e' ∨ c = 'E' then exponent? r else none
    return ⟨negative, natOfDigits (whole ++ fraction), exponent - fraction.length⟩

/-- The magnitude of double precision nearest to the number, if that is not beyond the largest one.
Where the number has far more or fewer places than any magnitude, that is settled at once. -/
def double? (d : Decimal) : Option Double :=
  let places := (Nat.toDigits 10 d.coefficient).length + d.exponent
  if d.coefficient = 0 ∨ places < -330 then some Double.zero
  else if 310 < places then none
  else if 0 ≤ d.exponent then
    Double.ofQuotient? (d.coefficient * Nat.pow 10 d.exponent.toNat) 1
  else Double.ofQuotient? d.coefficient (Nat.pow 10 d.exponent.natAbs)

example : read? "-12.50e3".toList = some ⟨true, 1250, 1⟩ := by decide +kernel
example : read? ".".toList = none := by decide +kernel
example : ((read? "1.7976931348623157e308".toList).bind double?).isSome = true := by
  decide +kernel
example : ((read? "1.7976931348623159e308".toList).bind double?).isSome = false := by
  decide +kernel

end Decimal

end WorkspaceAccess
