import Mathlib.Algebra.Group.Nat.Defs
import Mathlib.Data.Int.Notation
import Mathlib.Data.List.Basic
import Mathlib.Order.Basic

/-!
# The UTC fields of a date

A `Date` of the runtime is a number of milliseconds since 1970-01-01.  These are its fields in UTC, as
the language defines them: days are counted in the proleptic Gregorian calendar, months from 0.

* `yearFromDay_spec`: the year of a day begins on or before the day, and the next one after it.
-/

namespace SuuqBackend.UtcDate

def msPerDay : ℤ := 86400000

/-- The day that a time falls on. -/
def day (t : ℤ) : ℤ := t / msPerDay

def dayFromYear (y : ℤ) : ℤ :=
  365 * (y - 1970) + (y - 1969) / 4 - (y - 1901) / 100 + (y - 1601) / 400

/-- The year that a day falls in: the estimate is at most one year off. -/
def yearFromDay (d : ℤ) : ℤ :=
  let y := 1970 + 400 * d / 146097
  if d < dayFromYear y then y - 1 else if d < dayFromYear (y + 1) then y else y + 1

/-- 1 in a leap year, otherwise 0. -/
def inLeapYear (y : ℤ) : ℤ :=
  if y % 4 = 0 ∧ (y % 100 ≠ 0 ∨ y % 400 = 0) then 1 else 0

def daysBeforeMonth (leap : ℤ) : ℕ → ℤ
  | 0 => 0
  | 1 => 31
  | 2 => 59 + leap
  | 3 => 90 + leap
  | 4 => 120 + leap
  | 5 => 151 + leap
  | 6 => 181 + leap
  | 7 => 212 + leap
  | 8 => 243 + leap
  | 9 => 273 + leap
  | 10 => 304 + leap
  | _ => 334 + leap

/-- `getUTCFullYear()`. -/
def fullYear (t : ℤ) : ℤ := yearFromDay (day t)

def dayWithinYear (t : ℤ) : ℤ := day t - dayFromYear (fullYear t)

/-- `getUTCMonth()`: how many later months begin on or before the day. -/
def month (t : ℤ) : ℕ :=
  ((List.range 12).tail.filter fun m =>
    daysBeforeMonth (inLeapYear (fullYear t)) m ≤ dayWithinYear t).length

/-- `getUTCDate()`. -/
def date (t : ℤ) : ℤ := dayWithinYear t - daysBeforeMonth (inLeapYear (fullYear t)) (month t) + 1

/-- `Date.UTC(year, month, date)`: the month and the date may be out of range, and a year below 100 is
one of the twentieth century. -/
def utc (year month date : ℤ) : ℤ :=
  let fullYear := if 0 ≤ year ∧ year ≤ 99 then 1900 + year else year
  let y := fullYear + month / 12
  (dayFromYear y + daysBeforeMonth (inLeapYear y) (month % 12).toNat + date - 1) * msPerDay

/-- The digits of a number, with zeros before them up to the width. -/
def padded (width n : ℕ) : String :=
  String.ofList (List.leftpad width '0' (toString n).toList)

/-- `toISOString().slice(0, 10)`. -/
def isoDate (t : ℤ) : String :=
  let year := fullYear t
  let yearText :=
    if 0 ≤ year ∧ year ≤ 9999 then padded 4 year.toNat
    else (if year < 0 then "-" else "+") ++ padded 6 year.natAbs
  String.ofList ((yearText ++ "-" ++ padded 2 (month t + 1) ++ "-" ++ padded 2 (date t).toNat).toList.take 10)

theorem yearFromDay_spec (d : ℤ) : dayFromYear (yearFromDay d) ≤ d ∧ d < dayFromYear (yearFromDay d + 1) := by
  have hbefore : ∀ y : ℤ, y = 1970 + 400 * d / 146097 → dayFromYear (y - 1) ≤ d := by
    intro y hy
    unfold dayFromYear
    omega
  have hafter : ∀ y : ℤ, y = 1970 + 400 * d / 146097 → d < dayFromYear (y + 1 + 1) := by
    intro y hy
    unfold dayFromYear
    omega
  unfold yearFromDay
  dsimp only
  generalize hy : 1970 + 400 * d / 146097 = y
  split_ifs with hearly hwithin
  · have hyear : y - 1 + 1 = y := by omega
    rw [hyear]
    exact ⟨hbefore y hy.symm, hearly⟩
  · exact ⟨Int.not_lt.mp hearly, hwithin⟩
  · exact ⟨Int.not_lt.mp hwithin, hafter y hy.symm⟩

example : isoDate 1769817600000 = "2026-01-31" := by decide

end SuuqBackend.UtcDate

/-!
## Dates without a time

A column `date`, and a text `YYYY-MM-DD` of a request: a day whose year has four digits.  The order of the texts
is that of the days.

* `dateText_inj`: a text stands for one day.
-/

namespace SuuqBackend

open UtcDate

/-- A date, as the number of days since 1970-01-01. -/
structure CalendarDate where
  day : ℤ
  year_nonneg : 0 ≤ yearFromDay day
  year_le : yearFromDay day ≤ 9999
deriving DecidableEq

/-- Noon of a day, `new Date(date + 'T12:00:00Z')`. -/
def noon (day : ℤ) : ℤ := day * msPerDay + 43200000

/-- The text of a day: `toISOString().slice(0, 10)` of its noon. -/
def dateText (day : ℤ) : String := isoDate (noon day)

/-- `getDay()` at noon: the day of the week, from Sunday. -/
def weekday (day : ℤ) : ℤ := (day + 4) % 7

theorem day_noon (day : ℤ) : UtcDate.day (noon day) = day := by
  unfold UtcDate.day noon msPerDay
  omega

/-! ### Digits -/

theorem toList_padded (width n : ℕ) : (padded width n).toList =
    List.replicate (width - (Nat.toDigits 10 n).length) '0' ++ Nat.toDigits 10 n := by
  unfold padded
  rw [String.toList_ofList, Nat.toString_eq_repr, Nat.toList_repr]
  rfl

theorem ofDigitChars_padded (width n : ℕ) : Nat.ofDigitChars 10 (padded width n).toList 0 = n := by
  rw [toList_padded, Nat.ofDigitChars_append, Nat.ofDigitChars_replicate_zero, Nat.mul_zero,
    Nat.ofDigitChars_ten_toDigits]

/-- A number is determined by its digits, with zeros before them or not. -/
theorem padded_inj {width n n' : ℕ} : padded width n = padded width n' ↔ n = n' := by
  constructor
  · intro h
    rw [← ofDigitChars_padded width n, h, ofDigitChars_padded]
  · intro h
    rw [h]

theorem length_padded {width n : ℕ} (hwidth : 0 < width) (h : n < 10 ^ width) :
    (padded width n).toList.length = width := by
  have hdigits := (Nat.length_toDigits_le_iff (by omega) hwidth).mpr h
  rw [toList_padded, List.length_append, List.length_replicate]
  omega

/-! ### Fields -/

theorem month_lt (t : ℤ) : month t < 12 := by
  unfold month
  have hlen := List.length_filter_le
    (fun m => decide (daysBeforeMonth (inLeapYear (fullYear t)) m ≤ dayWithinYear t)) (List.range 12).tail
  have htail : (List.range 12).tail.length = 11 := rfl
  omega

theorem date_bounds_aux : ∀ leap : Fin 2, ∀ x : Fin 366,
    let m := ((List.range 12).tail.filter fun m => daysBeforeMonth leap.val m ≤ (x.val : ℤ)).length
    0 ≤ (x.val : ℤ) - daysBeforeMonth leap.val m ∧ (x.val : ℤ) - daysBeforeMonth leap.val m < 99 := by
  decide +kernel

theorem inLeapYear_eq (y : ℤ) : inLeapYear y = 0 ∨ inLeapYear y = 1 := by
  unfold inLeapYear
  split_ifs
  · exact Or.inr rfl
  · exact Or.inl rfl

theorem dayWithinYear_bounds (t : ℤ) : 0 ≤ dayWithinYear t ∧ dayWithinYear t < 366 := by
  obtain ⟨hbegins, hends⟩ := yearFromDay_spec (UtcDate.day t)
  unfold dayWithinYear fullYear
  unfold dayFromYear at *
  omega

theorem date_bounds (t : ℤ) : 0 ≤ UtcDate.date t ∧ UtcDate.date t < 100 := by
  obtain ⟨hnonneg, hlt⟩ := dayWithinYear_bounds t
  obtain ⟨x, hx⟩ := Int.eq_ofNat_of_zero_le hnonneg
  have hx366 : x < 366 := by omega
  have hleap : ∃ leap : Fin 2, inLeapYear (fullYear t) = (leap.val : ℤ) := by
    rcases inLeapYear_eq (fullYear t) with h | h
    · exact ⟨0, h⟩
    · exact ⟨1, h⟩
  obtain ⟨leap, hleap⟩ := hleap
  have haux := date_bounds_aux leap ⟨x, hx366⟩
  unfold UtcDate.date month
  rw [hleap, hx]
  dsimp only at haux
  omega

theorem day_eq_fields (t : ℤ) : UtcDate.day t =
    dayFromYear (fullYear t) + daysBeforeMonth (inLeapYear (fullYear t)) (month t) + UtcDate.date t - 1 := by
  unfold UtcDate.date dayWithinYear
  omega

/-- A text with four digits for the year is not cut off. -/
theorem toList_isoDate {t : ℤ} (hnonneg : 0 ≤ fullYear t) (hle : fullYear t ≤ 9999) :
    (isoDate t).toList = (padded 4 (fullYear t).toNat).toList ++ '-' ::
      ((padded 2 (month t + 1)).toList ++ '-' :: (padded 2 (UtcDate.date t).toNat).toList) := by
  have hyear : (fullYear t).toNat < 10 ^ 4 := by omega
  have hmonth : month t + 1 < 10 ^ 2 := by
    have hlt := month_lt t
    omega
  have hdate : (UtcDate.date t).toNat < 10 ^ 2 := by
    obtain ⟨hnonneg, hlt⟩ := date_bounds t
    omega
  have hdash : "-".toList = ['-'] := by decide
  unfold isoDate
  dsimp only
  rw [if_pos ⟨hnonneg, hle⟩, String.toList_ofList]
  simp only [String.toList_append, hdash, List.append_assoc, List.singleton_append]
  refine List.take_of_length_le ?_
  simp only [List.length_append, List.length_cons, length_padded (by omega) hyear,
    length_padded (by omega) hmonth, length_padded (by omega) hdate]
  omega

theorem dateText_inj {d d' : CalendarDate} : dateText d.day = dateText d'.day ↔ d.day = d'.day := by
  constructor
  · intro h
    have hyear : ∀ d : CalendarDate, 0 ≤ fullYear (noon d.day) ∧ fullYear (noon d.day) ≤ 9999 := by
      intro d
      unfold fullYear
      rw [day_noon]
      exact ⟨d.year_nonneg, d.year_le⟩
    obtain ⟨hnonneg, hle⟩ := hyear d
    obtain ⟨hnonneg', hle'⟩ := hyear d'
    have hlist := congrArg String.toList h
    unfold dateText at hlist
    rw [toList_isoDate hnonneg hle, toList_isoDate hnonneg' hle'] at hlist
    -- the parts of both texts have the same lengths
    have hlength : (padded 4 (fullYear (noon d.day)).toNat).toList.length =
        (padded 4 (fullYear (noon d'.day)).toNat).toList.length := by
      rw [length_padded (by omega) (by omega), length_padded (by omega) (by omega)]
    obtain ⟨hy, hrest⟩ := List.append_inj hlist hlength
    have hmonths := month_lt (noon d.day)
    have hmonths' := month_lt (noon d'.day)
    have hlength' : (padded 2 (month (noon d.day) + 1)).toList.length =
        (padded 2 (month (noon d'.day) + 1)).toList.length := by
      rw [length_padded (by omega) (by omega), length_padded (by omega) (by omega)]
    obtain ⟨hm, hrest'⟩ := List.append_inj (List.cons.inj hrest).2 hlength'
    have hy' := padded_inj.mp (String.toList_inj.mp hy)
    have hm' := padded_inj.mp (String.toList_inj.mp hm)
    have hd' := padded_inj.mp (String.toList_inj.mp (List.cons.inj hrest').2)
    have hdates := date_bounds (noon d.day)
    have hdates' := date_bounds (noon d'.day)
    have hfullYear : fullYear (noon d.day) = fullYear (noon d'.day) := by omega
    have hmonth : month (noon d.day) = month (noon d'.day) := by omega
    have hdate : UtcDate.date (noon d.day) = UtcDate.date (noon d'.day) := by omega
    have hfields := day_eq_fields (noon d.day)
    rw [hfullYear, hmonth, hdate, ← day_eq_fields, day_noon, day_noon] at hfields
    exact hfields
  · intro h
    rw [h]

/-! ### Order -/

theorem dayFromYear_mono {y y' : ℤ} (h : y ≤ y') : dayFromYear y ≤ dayFromYear y' := by
  unfold dayFromYear
  omega

theorem yearFromDay_mono {day day' : ℤ} (h : day ≤ day') : yearFromDay day ≤ yearFromDay day' := by
  by_contra hlt
  have hyears : yearFromDay day' + 1 ≤ yearFromDay day := by omega
  have hmono := dayFromYear_mono hyears
  have hbegins := (yearFromDay_spec day).1
  have hends := (yearFromDay_spec day').2
  omega

def CalendarDate.between (d d' : CalendarDate) (day : ℤ) (h : d.day ≤ day) (h' : day ≤ d'.day) : CalendarDate where
  day
  year_nonneg := Int.le_trans d.year_nonneg (yearFromDay_mono h)
  year_le := Int.le_trans (yearFromDay_mono h') d'.year_le

example : dateText 20608 = "2026-06-04" := by decide

end SuuqBackend
