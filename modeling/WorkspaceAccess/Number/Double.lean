/-!
# Magnitudes of Double Precision

A magnitude is a whole coefficient below 2^53 times a power of two between 2^-1074 and 2^971, and
its coefficient is at least 2^52 wherever a smaller power would do, so that every magnitude is held
in one way. A quotient is rounded to the nearest magnitude, and to the even coefficient where two
are as near (`roundQuotient`). There is no magnitude for a quotient that rounds beyond the largest
one.

All arithmetic goes through `ofQuotient?`: the exact result is formed as a quotient of natural
numbers and rounded once, which is what the arithmetic of double precision is defined to do. Signs
are kept outside, where they are needed at all.

Two things depend on this precision and would come out differently with exact numbers: numbers with
a fraction in texts (`WorkspaceAccess.Json.Number`), and lengths of time on the command line, which
are read as seconds (`WorkspaceAccess.CommandLine.Length`).
-/

namespace WorkspaceAccess

/-- The whole number nearest to a quotient; of two as near, the even one. -/
def roundQuotient (n d : Nat) : Nat :=
  if 2 * (n % d) < d ∨ (2 * (n % d) = d ∧ n / d % 2 = 0) then n / d else n / d + 1

/-- A number of double precision without its sign. Numbers that are not finite have no place
here. -/
structure Double where
  /-- The whole coefficient, below 2^53. -/
  coefficient : Nat
  /-- The power of two that the coefficient is multiplied with. -/
  exponent : Int
  deriving DecidableEq, Inhabited

namespace Double

/-- No magnitude. -/
def zero : Double := ⟨0, -1074⟩

/-- The magnitude is zero. -/
def isZero (x : Double) : Bool := x.coefficient == 0

/-- A quotient times a power of two, as a quotient again: one of its two parts is shifted. -/
def scaled (n d : Nat) (power : Int) : Nat × Nat :=
  if 0 ≤ power then (n <<< power.toNat, d) else (n, d <<< power.natAbs)

/-- The first coefficient that is too large, which is 2^53. -/
def coefficientLimit : Nat := 0x20_0000_0000_0000

/-- The magnitude nearest to a quotient, if it is not beyond the largest one. The power is the least
with which the coefficient fits; a coefficient that is rounded up to the limit is halved. -/
def ofQuotient? (n d : Nat) : Option Double :=
  if n = 0 then some zero
  else
    let least := max ((n.log2 : Int) - d.log2 - 53) (-1074)
    let floor := let (n', d') := scaled n d (-least); n' / d'
    let power := if floor < coefficientLimit then least else least + 1
    let coefficient := let (n', d') := scaled n d (-power); roundQuotient n' d'
    let (coefficient, power) :=
      if coefficient = coefficientLimit then (coefficientLimit / 2, power + 1)
      else (coefficient, power)
    if power ≤ 971 then some ⟨coefficient, power⟩ else none

/-- The magnitude nearest to a whole number. -/
def ofNat? (n : Nat) : Option Double := ofQuotient? n 1

/-- The product of two magnitudes, rounded. -/
def mul? (x y : Double) : Option Double :=
  let (n, d) := scaled (x.coefficient * y.coefficient) 1 (x.exponent + y.exponent)
  ofQuotient? n d

/-- The quotient of two magnitudes of which the second is not zero, rounded. -/
def div? (x y : Double) : Option Double :=
  let (n, d) := scaled x.coefficient y.coefficient (x.exponent - y.exponent)
  ofQuotient? n d

/-- The magnitude as a quotient of whole numbers, exactly. -/
def quotient (x : Double) : Nat × Nat := scaled x.coefficient 1 x.exponent

example : ofQuotient? 1 3 = some ⟨0x15555555555555, -54⟩ := by decide +kernel
example : ofQuotient? (coefficientLimit + 1) 1 = some ⟨coefficientLimit / 2, 1⟩ := by
  decide +kernel
example : (ofQuotient? 1 10).bind (·.mul? ⟨3, 0⟩) = some ⟨0x13333333333334, -54⟩ := by
  decide +kernel

end Double

end WorkspaceAccess
