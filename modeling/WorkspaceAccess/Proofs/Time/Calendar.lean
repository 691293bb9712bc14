import Mathlib.Algebra.GroupWithZero.Nat
import WorkspaceAccess.Time.Civil

/-!
# Days and Their Dates

Every day has a date of the calendar, and it is the day of that date. Counted from March, a year
starts `yearStart` days into its era of 400 years, and `yearOfDay` finds the year of a day by taking
the leap days out of the count first. That count never falls from a day to the next, so it is enough
to know it on the first and on the last day of every year (`count_yearStart`).

The conversions between days and dates are formulas with many divisions, made for being fast. They
are opened once, as a date of the calendar that is counted from March (`ofMarch`), in which a leap
day is the last day of its year. The months of such a year begin at fixed days, which a division by
153 finds; there are twelve of them, and what holds of each is checked one by one.

An era has 146097 days, which is a multiple of nothing that would be of use here. Days before the
epoch are in eras of negative number, so that the arithmetic is on integers as far as eras go and on
natural numbers within one.

## Main results

* `count_yearStart`, `count_le_count`: what the formula for the year relies on.
* `yearStart_yearOfDay_le`, `lt_yearStart_yearOfDay`, `day_of_year`: the year of a day, and the day
  of the year.
* `ofMarch_spec`, `monthFromMarch_spec`: the months of a year, and their lengths.
* `isValid_ofDay`: the dates of days are those of the calendar.
* `toDay_ofDay`: they are read back.
-/

namespace WorkspaceAccess.CivilDate

/-! ### The years of an era -/

/-- The first day of a year of an era. -/
def yearStart (year : Nat) : Nat := 365 * year + year / 4 - year / 100

/-- The days of an era up to a day, without the leap days. -/
def count (day : Nat) : Nat := day - day / 1460 + day / 36524 - day / 146096

/-- The year of an era that a day is in. -/
def yearOfDay (day : Nat) : Nat := count day / 365

/-- On the first day of a year the count has all the days of the earlier years, and on the day
before it has not. -/
theorem count_yearStart {year : Nat} (h : year < 400) :
    365 * year ≤ count (yearStart year) ∧
      (0 < year → count (yearStart year - 1) < 365 * year) := by
  revert year
  decide +kernel

/-- The count never falls from a day to a later one of the same era. -/
theorem count_le_count {day later : Nat} (h : day ≤ later) (hera : later < 146097) :
    count day ≤ count later := by
  unfold count
  omega

/-- The year that is found is one of the era. -/
theorem yearOfDay_lt {day : Nat} (h : day < 146097) : yearOfDay day < 400 := by
  unfold yearOfDay count
  omega

/-- A year has begun on the days that are counted to it. -/
theorem yearStart_yearOfDay_le {day : Nat} (h : day < 146097) :
    yearStart (yearOfDay day) ≤ day := by
  have hyear := yearOfDay_lt h
  have hcount : 365 * yearOfDay day ≤ count day := Nat.mul_div_le _ _
  rcases Nat.lt_or_ge day (yearStart (yearOfDay day)) with hbefore | hbegun
  · have hpositive : 0 < yearOfDay day := by
      refine Nat.pos_of_ne_zero fun hzero => ?_
      rw [hzero] at hbefore
      exact absurd hbefore (Nat.not_lt_zero _)
    have hlast := (count_yearStart hyear).2 hpositive
    have hera : yearStart (yearOfDay day) - 1 < 146097 := by
      unfold yearStart
      omega
    have hle := count_le_count (Nat.le_sub_one_of_lt hbefore) hera
    omega
  · exact hbegun

/-- The next year has not begun, if the era has one. -/
theorem lt_yearStart_yearOfDay {day : Nat} (h : day < 146097) (hlast : yearOfDay day < 399) :
    day < yearStart (yearOfDay day + 1) := by
  have hcount : count day < 365 * (yearOfDay day + 1) := Nat.lt_mul_div_succ _ (by decide)
  rcases Nat.lt_or_ge day (yearStart (yearOfDay day + 1)) with hbefore | hbegun
  · exact hbefore
  · have hnext := (count_yearStart (Nat.add_lt_add_right hlast 1)).1
    have hle := count_le_count hbegun h
    omega

/-- A year has a leap day at its end where the next one is a leap year. The era has one at its
end. -/
theorem yearEnd_eq {year : Nat} (h : year < 400) :
    (if year < 399 then yearStart (year + 1) else 146097) =
      yearStart year + if isLeap (year + 1) then 366 else 365 := by
  revert year
  decide +kernel

/-- Leap years are the same in every era, so one era is enough to be looked at. -/
theorem isLeap_add_eras (year era : Int) : isLeap (year + era * 400) = isLeap year := by
  have hfour : (year + era * 400) % 4 = year % 4 := by omega
  have hcentury : (year + era * 400) % 100 = year % 100 := by omega
  have hera : (year + era * 400) % 400 = year % 400 := by omega
  rw [isLeap, isLeap, hfour, hcentury, hera]

/-- The day of a year that a day is. -/
theorem day_of_year {day : Nat} (h : day < 146097) :
    day - yearStart (yearOfDay day) < if isLeap (yearOfDay day + 1) then 366 else 365 := by
  have hstart := yearStart_yearOfDay_le h
  have hend := yearEnd_eq (yearOfDay_lt h)
  have hnext := lt_yearStart_yearOfDay h
  split at hend <;> omega

/-! ### The months of a year -/

/-- A month that is counted from March, as it is counted from January. -/
def monthFromMarch (month : Nat) : Nat := if month < 10 then month + 3 else month - 9

/-- The date of a day of a year, both counted from March. -/
def ofMarch (year : Int) (day : Nat) : CivilDate :=
  let month := (5 * day + 2) / 153
  ⟨year + (if monthFromMarch month ≤ 2 then 1 else 0), monthFromMarch month,
    day - (153 * month + 2) / 5 + 1⟩

/-- The date of a day is that of its day of the year, counted from March, in its era. -/
theorem ofDay_eq (days : Int) :
    ofDay days =
      let day := ((days + 719468) % 146097).toNat
      ofMarch (yearOfDay day + (days + 719468) / 146097 * 400) (day - yearStart (yearOfDay day)) :=
  rfl

/-- The months from March on are told from their numbers, and so are the last two of a year. -/
theorem monthFromMarch_spec {month : Nat} (h : month < 12) :
    (if 2 < monthFromMarch month then monthFromMarch month - 3 else monthFromMarch month + 9) =
      month := by
  revert month
  decide

/-- The date of a day of a year, counted from March, is read back as that day. -/
theorem toDay_ofMarch {year day : Nat} (era : Int) (hyear : year < 400) (hday : day < 366) :
    toDay (ofMarch (year + era * 400) day) =
      era * 146097 + (yearStart year + day : Nat) - 719468 := by
  have hmonth : (5 * day + 2) / 153 < 12 := by omega
  have hbegun : (153 * ((5 * day + 2) / 153) + 2) / 5 ≤ day := by omega
  unfold toDay ofMarch yearStart
  simp only [monthFromMarch_spec hmonth, Int.add_sub_cancel]
  omega

/-- The length of a month other than February does not depend on the year. -/
theorem daysIn_congr {month : Nat} (h : month ≠ 2) (year other : Int) :
    daysIn year month = daysIn other month := by
  unfold daysIn
  split <;> trivial

/-- No month has more than 31 days, in any year. -/
theorem daysIn_le (year : Int) (month : Nat) : daysIn year month ≤ 31 := by
  unfold daysIn
  split
  · split <;> decide
  all_goals decide

/-- The months and days of a date have at most two digits. -/
theorem lt_of_isValid {date : CivilDate} (h : date.isValid = true) :
    date.month < 10 ^ 2 ∧ date.day < 10 ^ 2 := by
  have hlength := daysIn_le date.year date.month
  simp only [isValid, Bool.and_eq_true, decide_eq_true_eq] at h
  omega

/-- The days of a year from March on are those of its months, the last of which has 28 days but for
the leap day. -/
theorem ofMarch_spec {day : Nat} (h : day < 366) :
    let date := ofMarch 0 day
    (1 ≤ date.month ∧ date.month ≤ 12) ∧ 1 ≤ date.day ∧
      if date.month = 2 then date.day ≤ 28 ∨ (date.day = 29 ∧ day = 365)
      else date.day ≤ daysIn 0 date.month := by
  revert day
  decide +kernel

/-- A day of a year that is counted from March has a date of the calendar. -/
theorem isValid_ofMarch {year : Int} {day : Nat}
    (h : day < if isLeap (year + 1) then 366 else 365) : (ofMarch year day).isValid = true := by
  have hbound : day < 366 := by split at h <;> omega
  obtain ⟨⟨hfirst, hlast⟩, hpositive, hlength⟩ := ofMarch_spec hbound
  have hmonth : (ofMarch year day).month = (ofMarch 0 day).month := rfl
  have hday : (ofMarch year day).day = (ofMarch 0 day).day := rfl
  simp only [isValid, Bool.and_eq_true, decide_eq_true_eq, hmonth, hday]
  refine ⟨⟨⟨hfirst, hlast⟩, hpositive⟩, ?_⟩
  split at hlength
  next hfebruary =>
    have hnumber : monthFromMarch ((5 * day + 2) / 153) = 2 := hfebruary
    have hyear : (ofMarch year day).year = year + 1 := by simp [ofMarch, hnumber]
    rw [hfebruary, hyear, daysIn]
    split at h <;> simp_all <;> omega
  next hother => rwa [daysIn_congr hother _ 0]

/-! ### Dates -/

/-- The date of a day is that of no other day: it is read back as the day. -/
theorem toDay_ofDay (days : Int) : toDay (ofDay days) = days := by
  have hday : ((days + 719468) % 146097).toNat < 146097 := by omega
  have hstart := yearStart_yearOfDay_le hday
  have hlength := day_of_year hday
  rw [ofDay_eq]
  dsimp only
  rw [toDay_ofMarch _ (yearOfDay_lt hday) (by split at hlength <;> omega)]
  omega

/-- The date of a day is one of the calendar. -/
theorem isValid_ofDay (days : Int) : (ofDay days).isValid = true := by
  have hday : ((days + 719468) % 146097).toNat < 146097 := by omega
  rw [ofDay_eq]
  refine isValid_ofMarch ?_
  rw [Int.add_right_comm, isLeap_add_eras]
  exact day_of_year hday

end WorkspaceAccess.CivilDate
