import WorkspaceAccess.Number.Double

/-!
# The Fewest Digits That Read Back

A magnitude of double precision is written with as few decimal digits as name no other magnitude,
and of the numbers with so many digits with the one nearest to it. The numbers that round to a
magnitude lie between its two halfway points; these count as well where the coefficient is even,
since a number in the middle rounds to the even side.

The search tries one digit, then two, and so on. Seventeen digits always suffice, so it goes no
further. With every number of digits only the two multiples beside the magnitude come into question,
the nearer one first, so each step of the search is a comparison of natural numbers and nothing is
rounded on the way.
-/

namespace WorkspaceAccess.Double

/-- The numbers that round to a magnitude, as quotients with one divisor. -/
structure Interval where
  /-- The dividend of the lower end. -/
  low : Nat
  /-- The dividend of the magnitude itself. -/
  value : Nat
  /-- The dividend of the upper end. -/
  high : Nat
  /-- The divisor of all three. -/
  divisor : Nat
  /-- The ends belong to it. -/
  closed : Bool

/-- The numbers that round to a magnitude. Below a power of two the magnitudes lie more closely, so
the lower end is nearer there. -/
def interval (x : Double) : Interval :=
  let c := x.coefficient
  let below := if c = coefficientLimit / 2 ∧ -1074 < x.exponent then 1 else 2
  let (value, divisor) := scaled (4 * c) 4 x.exponent
  let (step, _) := scaled 1 4 x.exponent
  ⟨value - below * step, value, value + 2 * step, divisor, c % 2 = 0⟩

/-- The number n · 10^k lies in the interval. -/
def Interval.holds (i : Interval) (n : Nat) (k : Int) : Bool :=
  let (a, b) := if 0 ≤ k then (n * Nat.pow 10 k.toNat * i.divisor, 1)
    else (n * i.divisor, Nat.pow 10 k.natAbs)
  (i.low * b < a && a < i.high * b) || (i.closed && (a = i.low * b || a = i.high * b))

/-- The whole number of units 10^k that is nearest to the value of an interval among the two beside
it that lie in the interval. -/
def Interval.nearest? (i : Interval) (k : Int) : Option Nat :=
  let (a, b) := if 0 ≤ k then (i.value, i.divisor * Nat.pow 10 k.toNat)
    else (i.value * Nat.pow 10 k.natAbs, i.divisor)
  let first := roundQuotient a b
  let second := if first = a / b then a / b + 1 else a / b
  [first, second].find? fun n => i.holds n k

/-- The power of ten at or below a quotient: 10^k ≤ n / d < 10^(k+1). -/
def magnitudeOf (n d : Nat) : Int :=
  if d ≤ n then ((Nat.toDigits 10 (n / d)).length : Int) - 1
  else
    let k := (Nat.toDigits 10 (d / n)).length
    -- 10^(k-1) ≤ d / n, so the quotient is at most 10^-(k-1)
    if d ≤ n * Nat.pow 10 (k - 1) then -((k : Int) - 1) else -(k : Int)

/-- The fewest digits of a magnitude, as a whole number, and the power of ten it is multiplied
with. -/
def shortest (x : Double) : Nat × Int :=
  if x.isZero then (0, 0)
  else
    let i := x.interval
    let top := magnitudeOf i.value i.divisor
    let found := (List.range 17).findSome? fun (further : Nat) =>
      let k := top - further
      (i.nearest? k).map fun n => if n = 10 then (1, k + 1) else (n, k)
    found.getD (x.coefficient, 0)

example : (ofQuotient? 3 10).map shortest = some (3, -1) := by decide +kernel
example : shortest ⟨1, -1074⟩ = (5, -324) := by decide +kernel
example : (ofQuotient? 1 3).map shortest = some (3333333333333333, -16) := by decide +kernel

end WorkspaceAccess.Double
