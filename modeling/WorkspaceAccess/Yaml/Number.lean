import WorkspaceAccess.Text.Decimal

/-!
# Numbers of a Document

A number of double precision may be infinite, or no number at all. Two of them are the same if they
are equal as numbers, and no number is the same as itself, so that each is held in one way and the
sign of zero is dropped.

Reading goes through exact decimal numbers (`WorkspaceAccess.Text.Decimal`) and rounds once. A text
whose number is beyond the largest magnitude is no number; infinity has words of its own.
-/

namespace WorkspaceAccess.Yaml

/-- A number of double precision, with the values that are not finite. -/
inductive Float64 where
  /-- A number with its sign; zero has none. -/
  | finite (negative : Bool) (magnitude : Double)
  /-- Infinity, with its sign. -/
  | infinite (negative : Bool)
  /-- What is not a number. -/
  | nan
  deriving DecidableEq

namespace Float64

/-- The number of a sign and a magnitude; zero loses its sign. -/
def ofMagnitude (negative : Bool) (magnitude : Double) : Float64 :=
  .finite (negative && !magnitude.isZero) magnitude

/-- The number that a text writes, if double precision can hold it. Infinity may have a sign. -/
def ofChars? (s : List Char) : Option Float64 :=
  let text := String.ofList s
  if [".inf", ".Inf", ".INF", "+.inf", "+.Inf", "+.INF"].contains text then some (.infinite false)
  else if ["-.inf", "-.Inf", "-.INF"].contains text then some (.infinite true)
  else if [".nan", ".NaN", ".NAN"].contains text then some .nan
  else do
    let d ← Decimal.read? s
    return ofMagnitude d.negative (← d.double?)

end Float64

end WorkspaceAccess.Yaml
