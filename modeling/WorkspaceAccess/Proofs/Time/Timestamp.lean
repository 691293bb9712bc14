import WorkspaceAccess.Proofs.Time.Calendar
import WorkspaceAccess.Time.Timestamp

/-!
# Reading Written Timestamps

A timestamp is written to the second, so that its fraction is lost; a leap second is kept. All else
is read back: numbers that are filled up with zeros (`Reader.upTo?_padded`), years of any number of
digits (`Reader.year?_yearText`), and the date and the time of day.

The reader takes more than what is written: blanks in front of numbers, signs in front of years, and
fractions. So what is shown is that, on what was written, it does not go astray at any of these
points. A number of the expected width is read and no digit after it; a year of four digits has no
sign, and a longer one has one; and after the seconds no fraction begins.

A leap second is the one after the last of its minute. It is kept as the second before with more
than a second of nanoseconds, and written as the sixtieth second (`writtenSecond`); nothing else is
written so, as the time of day of any timestamp has at most fifty-nine.

## Main results

* `natOfDigits_padded`, `length_padded`: a number that is filled up with zeros.
* `upTo?_padded`, `year?_yearText`: numbers and years are read, whatever follows them.
* `ofUnix?_eq`: a timestamp is the one of its seconds and nanoseconds.
* `writtenSecond_cases`, `wall_eq`, `leap_eq`: a leap second, and all other seconds.
* `parse?_render`: what is written for a timestamp is read as the timestamp to the second.
-/

namespace WorkspaceAccess

/-- The number of some digits is the one that the library gives. -/
theorem Decimal.natOfDigits_eq (ds : List Char) : natOfDigits ds = Nat.ofDigitChars 10 ds 0 := by
  simp only [natOfDigits, Nat.ofDigitChars_eq_foldl, Nat.mul_comm 10]

/-- No digit is a blank, so the blanks in front of a number end where it begins. -/
theorem Text.isBlank_of_isDigit {c : Char} (h : c.isDigit = true) : isBlank c = false := by
  obtain ⟨hzero, hnine⟩ : 48 ≤ c.toNat ∧ c.toNat ≤ 57 := Char.isDigit_iff_toNat.mp h
  simp [isBlank, blankRanges]
  omega

namespace Timestamp

/-! ### Numbers -/

section

variable (width n : Nat)

/-- A number is written with zeros in front of its digits, as many as are missing. -/
theorem toList_padded :
    (padded width n).toList =
      List.replicate (width - (Nat.toDigits 10 n).length) '0' ++ Nat.toDigits 10 n :=
  String.toList_ofList

/-- All characters of a number that is filled up are digits, the zeros in front included. -/
theorem isDigit_padded : ∀ c ∈ (padded width n).toList, c.isDigit = true := by
  intro c hc
  rw [toList_padded, List.mem_append] at hc
  rcases hc with hzero | hdigit
  · rw [List.eq_of_mem_replicate hzero]
    decide
  · exact Nat.isDigit_of_mem_toDigits (by decide) (by decide) hdigit

/-- The zeros in front do not change the number that is read. -/
theorem natOfDigits_padded : Decimal.natOfDigits (padded width n).toList = n := by
  rw [toList_padded, Decimal.natOfDigits_eq, Nat.ofDigitChars_append,
    Nat.ofDigitChars_replicate_zero, Nat.mul_zero, Nat.ofDigitChars_ten_toDigits]

/-- Something is always written, also for the number zero. -/
theorem padded_ne_nil : (padded width n).toList ≠ [] := by
  rw [toList_padded]
  exact List.append_ne_nil_of_right_ne_nil _ Nat.toDigits_ne_nil

/-- A number that is not too large has the width that was asked for. -/
theorem length_padded {width n : Nat} (hwidth : 0 < width) (h : n < 10 ^ width) :
    (padded width n).toList.length = width := by
  have hdigits := (Nat.length_toDigits_le_iff (by decide) hwidth).mpr h
  rw [toList_padded, List.length_append, List.length_replicate, Nat.sub_add_cancel hdigits]

end

namespace Reader

variable {rest : List Char}

/-- No blank is skipped before a character that is none. -/
theorem skipBlank_cons {c : Char} (h : Text.isBlank c = false) :
    skipBlank (c :: rest) = c :: rest := by
  simp [skipBlank, h]

/-- A character that is called for is taken when it comes first. -/
theorem literal?_cons {c : Char} (h : Text.isBlank c = false) :
    literal? c (c :: rest) = some rest := by
  simp [literal?, skipBlank_cons h]

/-- No blanks are in front of a number, so none are skipped. -/
theorem skipBlank_padded (width n : Nat) :
    skipBlank ((padded width n).toList ++ rest) = (padded width n).toList ++ rest := by
  obtain ⟨c, ds, hds⟩ := List.exists_cons_of_ne_nil (padded_ne_nil width n)
  have hdigit := isDigit_padded width n c (hds ▸ List.mem_cons_self)
  rw [hds, List.cons_append, skipBlank_cons (Text.isBlank_of_isDigit hdigit)]

/-- The digits of a number end where no other digit follows. -/
theorem takeWhile_padded (width n : Nat) (hrest : rest.takeWhile Char.isDigit = []) :
    ((padded width n).toList ++ rest).takeWhile Char.isDigit = (padded width n).toList := by
  rw [List.takeWhile_append_of_pos (isDigit_padded width n), hrest, List.append_nil]

/-- A number that has the expected width is read, whatever follows it. -/
theorem upTo?_padded {width n : Nat} (hwidth : 0 < width) (h : n < 10 ^ width) :
    upTo? width ((padded width n).toList ++ rest) = some (n, rest) := by
  have htake : ((padded width n).toList ++ rest).take width = (padded width n).toList := by
    rw [List.take_left' (length_padded hwidth h)]
  have hdigits : (padded width n).toList.takeWhile Char.isDigit = (padded width n).toList := by
    simpa only [List.append_nil] using takeWhile_padded width n List.takeWhile_nil
  have hne : (padded width n).toList.isEmpty = false := by
    simpa using padded_ne_nil width n
  rw [upTo?]
  simp only [skipBlank_padded, htake, hdigits, hne, natOfDigits_padded, List.drop_left]
  rfl

/-- So is a number of two digits, of which most of a timestamp consists. -/
theorem upTo?_two {n : Nat} (h : n < 10 ^ 2) :
    upTo? 2 ((padded 2 n).toList ++ rest) = some (n, rest) :=
  upTo?_padded Nat.zero_lt_two h

/-- A number does not begin with a character that is no digit. -/
theorem padded_append_ne {width n : Nat} {c : Char} (h : c.isDigit = false) (r : List Char) :
    (padded width n).toList ++ rest ≠ c :: r := by
  obtain ⟨d, ds, hds⟩ := List.exists_cons_of_ne_nil (padded_ne_nil width n)
  have hdigit := isDigit_padded width n d (hds ▸ List.mem_cons_self)
  rw [hds, List.cons_append]
  rintro ⟨⟩
  simp_all

/-- A year is read, with or without a sign. -/
theorem year?_yearText (year : Int) :
    year? ((yearText year).toList ++ '-' :: rest) = some (year, '-' :: rest) := by
  rw [yearText]
  split
  next hplain =>
    have hwidth : year.toNat < 10 ^ 4 := by omega
    rw [year?, skipBlank_padded]
    split
    · rename_i heq
      exact absurd heq (padded_append_ne rfl _)
    · rename_i heq
      exact absurd heq (padded_append_ne rfl _)
    · rw [upTo?_padded (by decide) hwidth]
      simp
      omega
  next hsigned =>
    have hdigits : ((padded 4 year.natAbs).toList ++ '-' :: rest).takeWhile Char.isDigit =
        (padded 4 year.natAbs).toList := takeWhile_padded _ _ rfl
    have hne : (padded 4 year.natAbs).toList.isEmpty = false := by
      simpa using padded_ne_nil 4 year.natAbs
    have htext : ((if year < 0 then "-" else "+") ++ padded 4 year.natAbs).toList ++ '-' :: rest =
        (if year < 0 then '-' else '+') :: ((padded 4 year.natAbs).toList ++ '-' :: rest) := by
      split <;> simp
    by_cases hnegative : year < 0
    · have hsign : -1 * (year.natAbs : Int) = year := by omega
      rw [htext, if_pos hnegative, year?, skipBlank_cons (by decide)]
      simp only [hdigits, hne, natOfDigits_padded, List.drop_left, hsign]
      rfl
    · have hsign : 1 * (year.natAbs : Int) = year := by omega
      rw [htext, if_neg hnegative, year?, skipBlank_cons (by decide)]
      simp only [hdigits, hne, natOfDigits_padded, List.drop_left, hsign]
      rfl

end Reader

/-! ### Timestamps -/

/-- A timestamp is told by its seconds and nanoseconds. -/
theorem ofUnix?_eq (t : Timestamp) : ofUnix? t.seconds t.nanos = some t := by
  rw [ofUnix?, dif_pos t.valid]

/-- The timestamp without its fraction of a second, but with its leap second. -/
def toSecond (t : Timestamp) : Timestamp where
  seconds := t.seconds
  nanos := if t.nanos < 1000000000 then 0 else 1000000000
  valid := by
    obtain ⟨hearliest, hlatest, hnanos⟩ := t.valid
    refine ⟨hearliest, hlatest, ?_⟩
    split <;> omega

/-- The fraction is not written, so that a timestamp is written like the one without it. -/
theorem render_toSecond (t : Timestamp) : t.toSecond.render = t.render := by
  have hleap : t.toSecond.nanos < 1000000000 ↔ t.nanos < 1000000000 := by
    unfold toSecond
    dsimp only
    split <;> omega
  simp only [render, hleap]
  rfl

/-- The second that is written; a leap second is the one after the last. -/
def writtenSecond (t : Timestamp) : Nat :=
  (t.seconds % 86400).toNat % 60 + if t.nanos < 1000000000 then 0 else 1

/-- The characters that a timestamp is written with, part by part. -/
theorem toList_render (t : Timestamp) :
    t.render.toList =
      (yearText (CivilDate.ofDay (t.seconds / 86400)).year).toList ++ '-' ::
      ((padded 2 (CivilDate.ofDay (t.seconds / 86400)).month).toList ++ '-' ::
      ((padded 2 (CivilDate.ofDay (t.seconds / 86400)).day).toList ++ 'T' ::
      ((padded 2 ((t.seconds % 86400).toNat / 3600)).toList ++ ':' ::
      ((padded 2 ((t.seconds % 86400).toNat / 60 % 60)).toList ++ ':' ::
      ((padded 2 t.writtenSecond).toList ++ ['Z']))))) := by
  simp [render, writtenSecond]

/-- Only a leap second is written as the sixtieth. -/
theorem writtenSecond_cases (t : Timestamp) :
    (t.writtenSecond < 60 ∧ t.writtenSecond = (t.seconds % 86400).toNat % 60 ∧
      t.toSecond.nanos = 0) ∨
    (t.writtenSecond = 60 ∧ (t.seconds % 86400).toNat % 60 = 59 ∧
      t.toSecond.nanos = 1000000000) := by
  obtain ⟨-, -, hnanos⟩ := t.valid
  unfold writtenSecond toSecond
  dsimp only
  split <;> omega

/-- The day and the time of day that are written are those of the second, without a leap second. -/
theorem wall_eq (t : Timestamp) :
    t.seconds / 86400 * 86400 + ((t.seconds % 86400).toNat / 3600 * 3600 +
      (t.seconds % 86400).toNat / 60 % 60 * 60 +
      (t.writtenSecond - if t.writtenSecond = 60 then 1 else 0) : Nat) = t.seconds := by
  have hcases := t.writtenSecond_cases
  split <;> omega

/-- The leap second makes up what is left of the nanoseconds. -/
theorem leap_eq (t : Timestamp) :
    (if t.writtenSecond = 60 then 1 else 0) * 1000000000 = t.toSecond.nanos := by
  rcases t.writtenSecond_cases with ⟨hplain, -, hnanos⟩ | ⟨hsixtieth, -, hnanos⟩
  · rw [if_neg (Nat.ne_of_lt hplain), hnanos, Nat.zero_mul]
  · rw [if_pos hsixtieth, hnanos, Nat.one_mul]

/-- A written timestamp is read to the second, whatever its year, its time of day and its leap
second. -/
theorem parse?_render (t : Timestamp) : parse? t.render = some t.toSecond := by
  have hdash : Text.isBlank '-' = false := by decide
  have hcolon : Text.isBlank ':' = false := by decide
  have hfraction : Reader.fraction? ['Z'] = some (0, ['Z']) := rfl
  have hzone : Reader.offset? ['Z'] = some (0, []) := by decide
  have hend : (Reader.skipBlank []).isEmpty = true := rfl
  have hvalid := CivilDate.isValid_ofDay (t.seconds / 86400)
  have hday := CivilDate.toDay_ofDay (t.seconds / 86400)
  have hwall := t.wall_eq
  rw [parse?, toList_render]
  rw [← hday] at hwall
  generalize CivilDate.ofDay (t.seconds / 86400) = date at hvalid hwall ⊢
  obtain ⟨hmonth, hlength⟩ := CivilDate.lt_of_isValid hvalid
  have hhour : (t.seconds % 86400).toNat / 3600 < 24 := by omega
  have hminute : (t.seconds % 86400).toNat / 60 % 60 < 60 := by omega
  have hsecond : t.writtenSecond ≤ 60 := by
    have hcases := t.writtenSecond_cases
    omega
  have hrange : earliestSecond ≤ t.seconds ∧ t.seconds ≤ latestSecond :=
    ⟨t.valid.1, t.valid.2.1⟩
  -- One part is read after the other; what is left are the checks of the date and of the time.
  refine Option.bind_eq_some_iff.mpr ⟨_, Reader.year?_yearText _, ?_⟩
  refine Option.bind_eq_some_iff.mpr ⟨_, Reader.literal?_cons hdash, ?_⟩
  refine Option.bind_eq_some_iff.mpr ⟨_, Reader.upTo?_two hmonth, ?_⟩
  refine Option.bind_eq_some_iff.mpr ⟨_, Reader.literal?_cons hdash, ?_⟩
  refine Option.bind_eq_some_iff.mpr ⟨_, Reader.upTo?_two hlength, ?_⟩
  refine Option.bind_eq_some_iff.mpr ⟨_, rfl, ?_⟩
  refine Option.bind_eq_some_iff.mpr ⟨_, Reader.upTo?_two (by omega), ?_⟩
  refine Option.bind_eq_some_iff.mpr ⟨_, Reader.literal?_cons hcolon, ?_⟩
  refine Option.bind_eq_some_iff.mpr ⟨_, Reader.upTo?_two (by omega), ?_⟩
  refine Option.bind_eq_some_iff.mpr ⟨_, Reader.literal?_cons hcolon, ?_⟩
  refine Option.bind_eq_some_iff.mpr ⟨_, Reader.upTo?_two (by omega), ?_⟩
  refine Option.bind_eq_some_iff.mpr ⟨_, hfraction, ?_⟩
  refine Option.bind_eq_some_iff.mpr ⟨_, hzone, ?_⟩
  dsimp only
  rw [if_pos ⟨hend, hvalid, hhour, hminute, hsecond⟩, hwall, t.leap_eq, if_pos hrange,
    Int.sub_zero, Nat.zero_add]
  exact ofUnix?_eq t.toSecond

end Timestamp

end WorkspaceAccess
