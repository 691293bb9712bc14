import WorkspaceAccess.Text.Blank
import WorkspaceAccess.Text.Decimal
import WorkspaceAccess.Time.Civil

/-!
# Points on the Wall Clock

A timestamp counts seconds from the start of 1970 in UTC. Its nanoseconds may go beyond a second in
the last second of a minute only: that is how a leap second is held. Years run from -262143 to
262142. All of this is part of the type (`IsInstant`), so every timestamp can be written.

Timestamps are written as `YYYY-MM-DDTHH:MM:SSZ`, without a fraction; a year that does not have four
digits is written with a sign. The reader takes the same form with any offset, and allows a blank in
place of the `T`, blanks between the parts and at the end, and a fraction. The date must be one of
these years both as it is written and in UTC.

Writing loses the fraction, and reading and writing again may change the offset and the blanks.
`WorkspaceAccess.Proofs.Time.Timestamp` proves that what is written for a timestamp is read as that
timestamp to the second, leap seconds included.
-/

namespace WorkspaceAccess

/-- The seconds of the first instant that a timestamp can hold. -/
def earliestSecond : Int := -8334601228800

/-- The seconds of the last instant that a timestamp can hold. -/
def latestSecond : Int := 8210266876799

/-- The seconds and nanoseconds are those of an instant: in the range of the years, and with a
second too many only where a leap second can be. -/
def IsInstant (seconds : Int) (nanos : Nat) : Prop :=
  earliestSecond ≤ seconds ∧ seconds ≤ latestSecond ∧
    (nanos < 1000000000 ∨ (nanos < 2000000000 ∧ seconds % 60 = 59))

instance (seconds : Int) (nanos : Nat) : Decidable (IsInstant seconds nanos) :=
  inferInstanceAs (Decidable (_ ∧ _))

/-- A point on the wall clock, in UTC. Only numbers that are those of an instant make one up. -/
structure Timestamp where
  /-- Seconds since the start of 1970. -/
  seconds : Int
  /-- Nanoseconds beyond the second, a leap second counted on top. -/
  nanos : Nat
  /-- The fields are those of an instant. -/
  valid : IsInstant seconds nanos
  deriving DecidableEq

namespace Timestamp

/-- The instant of a number of seconds and nanoseconds, if there is one. -/
def ofUnix? (seconds : Int) (nanos : Nat) : Option Timestamp :=
  if h : IsInstant seconds nanos then some ⟨seconds, nanos, h⟩ else none

/-- The start of 1970. -/
def epoch : Timestamp := ⟨0, 0, by decide⟩

instance : Inhabited Timestamp := ⟨epoch⟩

/-- The last second that a timestamp can hold. -/
def latest : Timestamp := ⟨latestSecond, 0, by decide⟩

/-- A number with at least so many digits, filled up with zeros in front. Longer numbers are not
cut. -/
def padded (width n : Nat) : String :=
  let ds := Nat.toDigits 10 n
  String.ofList (List.replicate (width - ds.length) '0' ++ ds)

/-- A year: four digits, or a sign and at least four. -/
def yearText (year : Int) : String :=
  if 0 ≤ year ∧ year ≤ 9999 then padded 4 year.toNat
  else (if year < 0 then "-" else "+") ++ padded 4 year.natAbs

/-- The timestamp to the second, in UTC. A leap second is written as second 60. -/
def render (t : Timestamp) : String :=
  let date := CivilDate.ofDay (t.seconds / 86400)
  let ofDay := (t.seconds % 86400).toNat
  let second := ofDay % 60 + (if t.nanos < 1000000000 then 0 else 1)
  yearText date.year ++ "-" ++ padded 2 date.month ++ "-" ++ padded 2 date.day ++ "T" ++
    padded 2 (ofDay / 3600) ++ ":" ++ padded 2 (ofDay / 60 % 60) ++ ":" ++ padded 2 second ++ "Z"

/-! ### Reading -/

namespace Reader

/-- The text after the blanks in front. -/
def skipBlank (s : List Char) : List Char := s.dropWhile Text.isBlank

/-- A number of at least one and at most `width` digits in front of the text, after blanks. -/
def upTo? (width : Nat) (s : List Char) : Option (Nat × List Char) :=
  let s := skipBlank s
  let ds := (s.take width).takeWhile Char.isDigit
  if ds.isEmpty then none else some (Decimal.natOfDigits ds, s.drop ds.length)

/-- A year in front of the text: with a sign it may have any number of digits. -/
def year? (s : List Char) : Option (Int × List Char) :=
  let signed (sign : Int) (r : List Char) : Option (Int × List Char) :=
    let ds := r.takeWhile Char.isDigit
    if ds.isEmpty then none else some (sign * Decimal.natOfDigits ds, r.drop ds.length)
  match skipBlank s with
  | '-' :: r => signed (-1) r
  | '+' :: r => signed 1 r
  | r => (upTo? 4 r).map fun p => ((p.1 : Int), p.2)

/-- The text after a character, which blanks may precede. -/
def literal? (c : Char) (s : List Char) : Option (List Char) :=
  match skipBlank s with
  | d :: r => if c = d then some r else none
  | [] => none

/-- The nanoseconds of a fraction in front of the text; digits beyond the ninth are dropped. -/
def fraction? (s : List Char) : Option (Nat × List Char) :=
  match s with
  | '.' :: r =>
    let ds := r.takeWhile Char.isDigit
    if ds.isEmpty then none
    else
      let kept := ds.take 9
      some (Decimal.natOfDigits kept * Nat.pow 10 (9 - kept.length), r.drop ds.length)
  | _ => some (0, s)

/-- Two digits in front of the text. -/
def twoDigits? : List Char → Option (Nat × List Char)
  | a :: b :: r => if a.isDigit ∧ b.isDigit then some (Decimal.natOfDigits [a, b], r) else none
  | _ => none

/-- The seconds east of UTC of an offset in front of the text. UTC itself may be named, or written
as a letter. -/
def offset? (s : List Char) : Option (Int × List Char) := do
  let s := skipBlank s
  if (s.take 3).map Char.toUpper = ['U', 'T', 'C'] then some (0, s.drop 3)
  else match s with
    | 'Z' :: r | 'z' :: r => some (0, r)
    | sign :: r =>
      let sign ← if sign = '+' then some (1 : Int)
        else if sign = '-' ∨ sign = '−' then some (-1) else none
      let (hours, r) ← twoDigits? r
      let (minutes, r) ← twoDigits? (r.dropWhile fun c => c = ':' || Text.isBlank c)
      if minutes < 60 ∧ hours < 24 then
        some (sign * (hours * 3600 + minutes * 60 : Nat), r)
      else none
    | [] => none

end Reader

open Reader in
/-- The timestamp that a text writes, if the date is one of the calendar and the time one of a
day. -/
def parse? (text : String) : Option Timestamp := do
  let (year, s) ← year? text.toList
  let (month, s) ← upTo? 2 (← literal? '-' s)
  let (day, s) ← upTo? 2 (← literal? '-' s)
  let s ← match s with
    | 'T' :: r | 't' :: r | ' ' :: r => some r
    | _ => none
  let (hour, s) ← upTo? 2 s
  let (minute, s) ← upTo? 2 (← literal? ':' s)
  let (second, s) ← upTo? 2 (← literal? ':' s)
  let (nanos, s) ← fraction? s
  let (east, s) ← offset? s
  let date : CivilDate := ⟨year, month, day⟩
  if (skipBlank s).isEmpty ∧ date.isValid ∧ hour < 24 ∧ minute < 60 ∧ second ≤ 60 then
    let leap := if second = 60 then 1 else 0
    let wall := date.toDay * 86400 + (hour * 3600 + minute * 60 + (second - leap) : Nat)
    if earliestSecond ≤ wall ∧ wall ≤ latestSecond then
      ofUnix? (wall - east) (nanos + leap * 1000000000)
    else none
  else none

end Timestamp

end WorkspaceAccess
