import Mathlib.Order.Monotone.Basic
import Mathlib.Algebra.Order.Group.Int
import SuuqBackend.Common.CalendarDate

/-!
# The months of the calendar

Months are numbered from January of the year 0, and the month with number `k` begins on the day `monthStart k`.

* `fields_eq_iff`: a day is a month and a date in it, in one way.
* `utc_eq`: `Date.UTC` of a year of three digits or more, with any month and date.
-/

namespace SuuqBackend.UtcDate

def monthStart (k : ℤ) : ℤ := dayFromYear (k / 12) + daysBeforeMonth (inLeapYear (k / 12)) (k % 12).toNat

def monthLength (k : ℤ) : ℤ := monthStart (k + 1) - monthStart k

/-- The number of the month that a time falls in. -/
def monthIndex (t : ℤ) : ℤ := 12 * fullYear t + month t

theorem dayFromYear_succ (y : ℤ) : dayFromYear (y + 1) = dayFromYear y + 365 + inLeapYear y := by
  unfold dayFromYear inLeapYear
  split_ifs <;> omega

theorem monthStart_of_year (y : ℤ) {m : ℕ} (hm : m < 12) :
    monthStart (12 * y + m) = dayFromYear y + daysBeforeMonth (inLeapYear y) m := by
  have hyear : (12 * y + m) / 12 = y := by omega
  have hmonth : ((12 * y + m) % 12).toNat = m := by omega
  rw [monthStart, hyear, hmonth]

/-- The days of a year up to the end of a month. -/
def daysToMonthEnd (leap : ℤ) (m : ℕ) : ℤ := if m = 11 then 365 + leap else daysBeforeMonth leap (m + 1)

theorem monthStart_succ (y : ℤ) {m : ℕ} (hm : m < 12) :
    monthStart (12 * y + m + 1) = dayFromYear y + daysToMonthEnd (inLeapYear y) m := by
  unfold daysToMonthEnd
  split_ifs with hlast
  · have hnext : 12 * y + m + 1 = 12 * (y + 1) + (0 : ℕ) := by omega
    rw [hnext, monthStart_of_year _ (by omega), dayFromYear_succ, daysBeforeMonth]
    omega
  · have hnext : 12 * y + m + 1 = 12 * y + (m + 1 : ℕ) := by omega
    rw [hnext, monthStart_of_year _ (by omega)]

theorem leap_cases (y : ℤ) : ∃ leap : Fin 2, inLeapYear y = (leap.val : ℤ) := by
  rcases inLeapYear_eq y with h | h
  · exact ⟨0, h⟩
  · exact ⟨1, h⟩

theorem monthLength_aux : ∀ leap : Fin 2, ∀ m : Fin 12,
    28 ≤ daysToMonthEnd leap.val m - daysBeforeMonth leap.val m ∧
      daysToMonthEnd leap.val m - daysBeforeMonth leap.val m ≤ 31 := by
  decide

theorem monthLength_bounds (k : ℤ) : 28 ≤ monthLength k ∧ monthLength k ≤ 31 := by
  obtain ⟨y, m, hm, rfl⟩ : ∃ (y : ℤ) (m : ℕ), m < 12 ∧ k = 12 * y + m :=
    ⟨k / 12, (k % 12).toNat, by omega, by omega⟩
  obtain ⟨leap, hleap⟩ := leap_cases y
  have haux := monthLength_aux leap ⟨m, hm⟩
  rw [monthLength, monthStart_succ y hm, monthStart_of_year y hm, hleap]
  dsimp only at haux
  omega

/-- **A later month begins later.** -/
theorem monthStart_lt_iff {k k' : ℤ} : monthStart k < monthStart k' ↔ k < k' := by
  refine (strictMono_int_of_lt_succ fun k => ?_).lt_iff_lt
  have hlength := (monthLength_bounds k).1
  unfold monthLength at hlength
  omega

/-! ### The month of a day -/

theorem month_aux : ∀ leap : Fin 2, ∀ x : Fin 366, (x.val : ℤ) < 365 + leap.val →
    let m := ((List.range 12).tail.filter fun m => daysBeforeMonth leap.val m ≤ (x.val : ℤ)).length
    daysBeforeMonth leap.val m ≤ x.val ∧ (x.val : ℤ) < daysToMonthEnd leap.val m := by
  decide +kernel

/-- The month of a day begins on or before the day, and the next one after it. -/
theorem monthStart_monthIndex (t : ℤ) :
    monthStart (monthIndex t) = day t - date t + 1 ∧ day t < monthStart (monthIndex t + 1) ∧ 1 ≤ date t := by
  obtain ⟨hbegins, hends⟩ := yearFromDay_spec (day t)
  have hlt := month_lt t
  have hstart := monthStart_of_year (fullYear t) hlt
  have hnext := monthStart_succ (fullYear t) hlt
  obtain ⟨leap, hleap⟩ := leap_cases (fullYear t)
  have hnonneg : 0 ≤ dayWithinYear t := by
    unfold dayWithinYear fullYear
    omega
  have hyear : dayWithinYear t < 365 + leap.val := by
    rw [dayFromYear_succ] at hends
    unfold fullYear at hleap
    unfold dayWithinYear fullYear
    omega
  obtain ⟨x, hx⟩ := Int.eq_ofNat_of_zero_le hnonneg
  have haux := month_aux leap ⟨x, by omega⟩ (by rw [← hx]; exact hyear)
  have hmonth : month t = ((List.range 12).tail.filter fun m => daysBeforeMonth leap.val m ≤ (x : ℤ)).length := by
    rw [month, hleap, hx]
  rw [← hmonth, ← hx, ← hleap] at haux
  have hfields := day_eq_fields t
  unfold dayWithinYear at haux
  unfold monthIndex
  omega

theorem fields_eq_iff {t k j : ℤ} : (monthIndex t = k ∧ date t = j) ↔
    day t = monthStart k + j - 1 ∧ 1 ≤ j ∧ j ≤ monthLength k := by
  obtain ⟨hstart, hends, hdate⟩ := monthStart_monthIndex t
  constructor
  · rintro ⟨rfl, rfl⟩
    unfold monthLength
    omega
  · rintro ⟨hday, hj, hlength⟩
    unfold monthLength at hlength
    have hle : monthIndex t ≤ k := by
      have hlt : monthStart (monthIndex t) < monthStart (k + 1) := by omega
      have hindex := monthStart_lt_iff.mp hlt
      omega
    have hge : k ≤ monthIndex t := by
      have hlt : monthStart k < monthStart (monthIndex t + 1) := by omega
      have hindex := monthStart_lt_iff.mp hlt
      omega
    have hsame : monthIndex t = k := by omega
    rw [hsame] at hstart
    omega

theorem utc_eq {year : ℤ} (hyear : 100 ≤ year) (month date : ℤ) :
    utc year month date = (monthStart (12 * year + month) + date - 1) * msPerDay := by
  have hdiv : (12 * year + month) / 12 = year + month / 12 := by omega
  have hmod : (12 * year + month) % 12 = month % 12 := by omega
  unfold utc monthStart
  rw [if_neg (by omega), hdiv, hmod]

theorem isoDate_congr {t t' : ℤ} (h : day t = day t') : isoDate t = isoDate t' := by
  unfold isoDate date month dayWithinYear fullYear
  rw [h]

theorem day_mul_msPerDay (d : ℤ) : day (d * msPerDay) = d := Int.mul_ediv_cancel d (by decide)

/-- The last date of a month, as the day before the first of the next one. -/
theorem date_utc_zero {year : ℤ} (hyear : 100 ≤ year) (month : ℤ) :
    date (utc year (month + 1) 0) = monthLength (12 * year + month) := by
  have hlength := monthLength_bounds (12 * year + month)
  refine (fields_eq_iff.mpr ⟨?_, by omega, le_refl _⟩).2
  rw [utc_eq hyear, day_mul_msPerDay, monthLength]
  have hnext : 12 * year + (month + 1) = 12 * year + month + 1 := by omega
  rw [hnext]
  omega

end SuuqBackend.UtcDate
