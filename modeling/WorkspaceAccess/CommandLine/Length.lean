import WorkspaceAccess.Text.Alphabetic
import WorkspaceAccess.Text.Decimal
import WorkspaceAccess.Time.Span

/-!
# Lengths of Time on the Command Line

A length of time is a sequence of measures, each a decimal number with a unit, such as `1h30m` or
`1.5s`; signs in front of the first one are passed over. A text of that form still is no length of
time where a later measure is below zero, or where a measure or the sum is more than a `Span` holds.
Letters are the letters of all scripts, so a unit ends where the next number begins and not at the
first letter that is no unit.

Numbers, units and their product are of double precision, one rounding after the other, because a
measure is a number of seconds before it becomes one of nanoseconds. `measure` keeps each of these
roundings: where a fraction cannot be written exactly, the nanoseconds are those of the rounded
product and not of the text. `WorkspaceAccess.Number.Double` has the arithmetic.

A text that is no sequence of measures is told apart from one that is, but writes a length that
there is not: the program says something else in the two cases (`LengthFault.message`).
-/

namespace WorkspaceAccess

/-- Why a text is no length of time. Only the first of these is about the form of the text. -/
inductive LengthFault where
  /-- The text is no sequence of measures. -/
  | malformed
  /-- A measure is below zero. -/
  | negative
  /-- A measure is too long. -/
  | excessive
  /-- The sum of the measures is too long. -/
  | excessiveSum
  deriving DecidableEq

namespace LengthFault

/-- What is said about the text, in the words of the step of the conversion that fails. -/
def message : LengthFault → String
  | malformed => "invalid duration"
  | negative => "cannot convert float seconds to Duration: value is negative"
  | excessive => "cannot convert float seconds to Duration: value is either too big or NaN"
  | excessiveSum => "overflow when adding durations"

end LengthFault

namespace SettingValue

/-- The units of time with their nanoseconds: nanoseconds, microseconds with either sign for micro,
milliseconds, seconds, minutes and hours. -/
def units : List (String × Nat) := [
  ("ns", 1), ("us", 1_000), ("\u00b5s", 1_000), ("\u03bcs", 1_000), ("ms", 1_000_000),
  ("s", 1_000_000_000), ("m", 60_000_000_000), ("h", 3_600_000_000_000)]

/-- The nanoseconds of so many units of a number of nanoseconds each. The number, the seconds of the
unit and their product have double precision each; the nanoseconds are those nearest to the
product. -/
def measure (d : Decimal) (unit : Nat) : Except LengthFault Nat :=
  match d.double?, Double.ofQuotient? unit 1_000_000_000 with
  | some number, some unit =>
    match number.mul? unit with
    | some seconds =>
      let (n, divisor) := seconds.quotient
      if d.negative && !seconds.isZero then .error .negative
      else if 0x1_0000_0000_0000_0000 * divisor ≤ n then .error .excessive
      else .ok (roundQuotient (n * 1_000_000_000) divisor)
    | none => .error (if d.negative then .negative else .excessive)
  | _, _ => .error (if d.negative then .negative else .excessive)

/-- The nanoseconds of the measures of a text, up to its end or to a zero that ends it, added to
those of the measures before. -/
def addMeasures : Nat → Nat → List Char → Except LengthFault Nat
  | _, nanos, [] | _, nanos, ['0'] => .ok nanos
  | 0, _, _ => .error .malformed
  | fuel + 1, nanos, s =>
    let amount := s.takeWhile fun c => !Text.isAlphabetic c
    let rest := s.drop amount.length
    let unit := rest.takeWhile Text.isAlphabetic
    match Decimal.read? amount, units.lookup (String.ofList unit) with
    | some d, some size => do
      let nanos := nanos + (← measure d size)
      if Span.limit ≤ nanos then .error .excessiveSum
      else addMeasures fuel nanos (rest.drop unit.length)
    | _, _ => .error .malformed

/-- The length of time that a text writes, if it writes one. Signs in front do not count. -/
def length (text : String) : Except LengthFault Span :=
  let measures := (text.toList.dropWhile (· = '+')).dropWhile (· = '-')
  (addMeasures text.length 0 measures).map Span.ofNanos

/-- A fraction of a measure counts down to the nanosecond. -/
example : (length "-1m1.5s").toOption.map Span.toMillis = some 61_500 := by decide +kernel

/-- Only the first measure may have a minus sign. -/
example : (length "1h-2s").isOk = false := by decide +kernel

end SettingValue

end WorkspaceAccess
