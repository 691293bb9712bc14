/-!
# Civil Dates

Days are numbered from the first of January 1970 in the proleptic Gregorian calendar, which extends
the rules for leap years to all years before and after. A year is counted from March, so that the
leap day is its last day and the lengths of the months before it follow one formula; 400 years have
146097 days, after which everything repeats.

Both directions are arithmetic on whole numbers, without tables or loops.
`WorkspaceAccess.Proofs.Time.Calendar` proves that they are inverse to each other on the dates of
the calendar, which is what the reading of a written time rests on.
-/

namespace WorkspaceAccess

/-- A date of the proleptic Gregorian calendar, or three numbers that are none. -/
structure CivilDate where
  /-- The year, with a year zero before the year one. -/
  year : Int
  /-- The month, from 1 to 12. -/
  month : Nat
  /-- The day of the month, from 1. -/
  day : Nat
  deriving DecidableEq

namespace CivilDate

/-- The date of a day: the era of 400 years first, then the year in it, counted from March, then
month and day. -/
def ofDay (days : Int) : CivilDate :=
  let z := days + 719468
  let era := z / 146097
  let doe := (z % 146097).toNat
  let yoe := (doe - doe / 1460 + doe / 36524 - doe / 146096) / 365
  let doy := doe - (365 * yoe + yoe / 4 - yoe / 100)
  let mp := (5 * doy + 2) / 153
  let day := doy - (153 * mp + 2) / 5 + 1
  let month := if mp < 10 then mp + 3 else mp - 9
  ⟨yoe + era * 400 + (if month ≤ 2 then 1 else 0), month, day⟩

/-- The day of a date, the other way round. -/
def toDay (d : CivilDate) : Int :=
  let y := d.year - (if d.month ≤ 2 then 1 else 0)
  let era := y / 400
  let yoe := (y % 400).toNat
  let mp := if 2 < d.month then d.month - 3 else d.month + 9
  let doy := (153 * mp + 2) / 5 + d.day - 1
  let doe := yoe * 365 + yoe / 4 - yoe / 100 + doy
  era * 146097 + doe - 719468

/-- The year has a leap day. -/
def isLeap (year : Int) : Bool := year % 4 == 0 && (year % 100 != 0 || year % 400 == 0)

/-- The number of days of a month. -/
def daysIn (year : Int) (month : Nat) : Nat :=
  match month with
  | 2 => if isLeap year then 29 else 28
  | 4 | 6 | 9 | 11 => 30
  | _ => 31

/-- The date is one of the calendar: there is such a month, and it has such a day. -/
def isValid (d : CivilDate) : Bool :=
  1 ≤ d.month && d.month ≤ 12 && 1 ≤ d.day && d.day ≤ daysIn d.year d.month

example : ofDay 0 = ⟨1970, 1, 1⟩ := by decide
example : ofDay 11016 = ⟨2000, 2, 29⟩ := by decide
example : toDay ⟨2000, 2, 29⟩ = 11016 := by decide

end CivilDate

end WorkspaceAccess
