import SuuqBackend.Common.CalendarMonths
import SuuqBackend.Common.Laws.TextNumbers
import SuuqBackend.PropertyRental.PropertyRentalStore

/-!
# Billing periods are those of one calendar

`computeBillingPeriods` and `addBillingPeriods` are written independently: one leaves out a month whose day is not
reached, unless the end is the last of its month, the other one cuts the day to the length of the month.

* `sumDay_le_iff`: as many periods have elapsed as can be added without going past the end.
* `billing_periods_calendar`: so the count is the greatest such number, and adding and counting are inverse.
* `five_digit_year_not_counted`: from the year 10000 on, the sum is cut to a text that is read as another day.
-/

namespace SuuqBackend

open UtcDate PropertyRentalPeriods

/-! ### Reading a date -/

theorem isDigit_of_mem_padded {width n : ℕ} {c : Char} (hc : c ∈ (padded width n).toList) : c.isDigit := by
  rw [toList_padded, List.mem_append] at hc
  rcases hc with hzero | hdigit
  · rw [(List.mem_replicate.mp hzero).2]
    rfl
  · exact Nat.isDigit_of_mem_toDigits (by decide) (by decide) hdigit

theorem numberOf_padded (width n : ℕ) : PropertyRentalPeriods.numberOf (padded width n).toList = n := by
  have hfold : ∀ (cs : List Char) (init : ℕ), (∀ c ∈ cs, c.isDigit) →
      cs.foldl (fun n c => 10 * n + ((c.toNat : ℤ) - ('0'.toNat : ℤ))) (init : ℤ) = Nat.ofDigitChars 10 cs init := by
    intro cs
    induction cs with
    | nil =>
      intro init _
      rfl
    | cons c cs ih =>
      intro init hdigits
      have hc : 48 ≤ c.toNat := by
        have hdigit := hdigits c List.mem_cons_self
        unfold Char.isDigit at hdigit
        rw [Bool.and_eq_true, decide_eq_true_eq] at hdigit
        exact hdigit.1
      have hzero : '0'.toNat = 48 := rfl
      have hnext : 10 * (init : ℤ) + ((c.toNat : ℤ) - ('0'.toNat : ℤ)) = (10 * init + (c.toNat - '0'.toNat) : ℕ) := by
        omega
      rw [List.foldl_cons, hnext, ih _ fun c' hc' => hdigits c' (List.mem_cons_of_mem c hc'), Nat.ofDigitChars_cons]
  exact (hfold _ 0 fun c => isDigit_of_mem_padded).trans (congrArg _ (ofDigitChars_padded width n))

theorem matchDate_fields {ys ms ds : List Char} (hys : ys.length = 4) (hms : ms.length = 2) (hds : ds.length = 2)
    (hdigits : ∀ c ∈ ys ++ ms ++ ds, c.isDigit) :
    matchDate (ys ++ '-' :: (ms ++ '-' :: ds)) =
      some (PropertyRentalPeriods.numberOf ys, PropertyRentalPeriods.numberOf ms, PropertyRentalPeriods.numberOf ds) := by
  match ys, ms, ds, hys, hms, hds with
  | [y₁, y₂, y₃, y₄], [m₁, m₂], [d₁, d₂], _, _, _ => exact if_pos (List.all_eq_true.mpr hdigits)

theorem utc_fields {d year : ℤ} (hfull : fullYear (noon d) = year) (hyear : 100 ≤ year) :
    utc (fullYear (noon d)) ((month (noon d) : ℤ) + 1 - 1) (date (noon d)) = d * msPerDay := by
  obtain ⟨hstart, -, -⟩ := monthStart_monthIndex (noon d)
  rw [day_noon, monthIndex] at hstart
  rw [utc_eq (hfull ▸ hyear), add_sub_cancel_right, hstart]
  congr 1
  ring

variable (newDate : String → Option Date)

/-- **A date is read as its midnight**, if its year has three digits or more. -/
theorem parseDateOnly_dateText (d : CalendarDate) (hyear : 100 ≤ yearFromDay d.day) :
    parseDateOnly newDate (some (dateText d.day)) = some (d.day * msPerDay) := by
  have hfull : fullYear (noon d.day) = yearFromDay d.day := congrArg yearFromDay (day_noon d.day)
  have hle := d.year_le
  have hlist := toList_isoDate (t := noon d.day) (by omega) (by omega)
  have hmonth := month_lt (noon d.day)
  have hdate := date_bounds (noon d.day)
  have hys := @length_padded 4 (fullYear (noon d.day)).toNat (by omega) (by omega)
  have hms := @length_padded 2 (month (noon d.day) + 1) (by omega) (by omega)
  have hds := @length_padded 2 (UtcDate.date (noon d.day)).toNat (by omega) (by omega)
  have hlength : (dateText d.day).length = 10 := by
    rw [← String.length_toList, dateText, hlist]
    simp [hys, hms, hds]
  have htrim : trim (dateText d.day) = dateText d.day := by
    refine trim_of_forall fun c hc => ?_
    rw [dateText, hlist] at hc
    simp only [List.mem_append, List.mem_cons] at hc
    rcases hc with hc | rfl | hc | rfl | hc
    · exact isWhiteSpace_of_isDigit (isDigit_of_mem_padded hc)
    · rfl
    · exact isWhiteSpace_of_isDigit (isDigit_of_mem_padded hc)
    · rfl
    · exact isWhiteSpace_of_isDigit (isDigit_of_mem_padded hc)
  have hmatch : matchDate (dateText d.day).toList = some (fullYear (noon d.day), (month (noon d.day) : ℤ) + 1,
      UtcDate.date (noon d.day)) := by
    rw [dateText, hlist, matchDate_fields hys hms hds]
    · rw [numberOf_padded, numberOf_padded, numberOf_padded, Int.toNat_of_nonneg (by omega),
        Int.toNat_of_nonneg (by omega)]
      rfl
    · intro c hc
      simp only [List.mem_append] at hc
      rcases hc with (hc | hc) | hc <;> exact isDigit_of_mem_padded hc
  have hne : dateText d.day ≠ "" := by
    intro hempty
    rw [hempty] at hlength
    cases hlength
  unfold parseDateOnly
  rw [Option.map_some, htrim]
  split
  · rename_i hnone
    cases hnone
  · rename_i hempty
    exact absurd (Option.some.inj hempty) hne
  · rename_i text _ hsome
    obtain rfl := Option.some.inj hsome
    have htake : (dateText d.day).toList.take 10 = (dateText d.day).toList :=
      List.take_of_length_le (by rw [String.length_toList]; omega)
    dsimp only
    rw [if_pos (by omega), htake, hmatch]
    exact congrArg some (utc_fields hfull hyear)

/-! ### Elapsed periods -/

/-- The day that is reached by adding periods. -/
def sumDay (unit : BillingUnit) (first n : ℤ) : ℤ :=
  match unit with
  | .week => first + 7 * n
  | .month =>
    let k := monthIndex (first * msPerDay) + n
    monthStart k + min (date (first * msPerDay)) (monthLength k) - 1

/-- The whole periods from one day to another. -/
def elapsedPeriods (unit : BillingUnit) (first last : ℤ) : ℤ :=
  match unit with
  | .week => (last - first) / 7
  | .month => monthsBetween (first * msPerDay) (last * msPerDay)

theorem monthStart_add_le_iff {k k' j j' : ℤ} (hj : 1 ≤ j ∧ j ≤ monthLength k) (hj' : 1 ≤ j' ∧ j' ≤ monthLength k') :
    monthStart k + j ≤ monthStart k' + j' ↔ k < k' ∨ k = k' ∧ j ≤ j' := by
  unfold monthLength at hj hj'
  rcases lt_trichotomy k k' with hlt | rfl | hgt
  · have hmono := mt monthStart_lt_iff.mp (show ¬ k' < k + 1 by omega)
    omega
  · omega
  · have hmono := mt monthStart_lt_iff.mp (show ¬ k < k' + 1 by omega)
    omega

theorem sumDay_le_iff (unit : BillingUnit) {first last n : ℤ} (hyear : 100 ≤ yearFromDay last) :
    sumDay unit first n ≤ last ↔ n ≤ elapsedPeriods unit first last := by
  cases unit with
  | week =>
    unfold sumDay elapsedPeriods
    dsimp only
    omega
  | month =>
    obtain ⟨-, -, hfirst⟩ := monthStart_monthIndex (first * msPerDay)
    obtain ⟨hstart, hends, hlast⟩ := monthStart_monthIndex (last * msPerDay)
    rw [day_mul_msPerDay] at hstart hends
    have hlength := monthLength_bounds (monthIndex (first * msPerDay) + n)
    have hdate : date (last * msPerDay) ≤ monthLength (monthIndex (last * msPerDay)) := by
      unfold monthLength
      omega
    have horder := monthStart_add_le_iff (k := monthIndex (first * msPerDay) + n)
      (j := min (date (first * msPerDay)) (monthLength (monthIndex (first * msPerDay) + n)))
      (by omega) ⟨hlast, hdate⟩
    have hmonths : monthsBetween (first * msPerDay) (last * msPerDay) =
        if date (last * msPerDay) < date (first * msPerDay) ∧
          date (last * msPerDay) ≠ monthLength (monthIndex (last * msPerDay))
        then monthIndex (last * msPerDay) - monthIndex (first * msPerDay) - 1
        else monthIndex (last * msPerDay) - monthIndex (first * msPerDay) := by
      have hfull : 100 ≤ fullYear (last * msPerDay) := by rwa [fullYear, day_mul_msPerDay]
      have hindex : (fullYear (last * msPerDay) - fullYear (first * msPerDay)) * 12 +
          ((month (last * msPerDay) : ℤ) - month (first * msPerDay)) =
          monthIndex (last * msPerDay) - monthIndex (first * msPerDay) := by
        unfold monthIndex
        ring
      unfold monthsBetween
      rw [date_utc_zero hfull, hindex]
      rfl
    show monthStart _ + _ - 1 ≤ last ↔ n ≤ monthsBetween _ _
    rw [hmonths]
    by_cases hsame : monthIndex (first * msPerDay) + n = monthIndex (last * msPerDay)
    · rw [hsame] at horder ⊢
      split_ifs <;> omega
    · split_ifs <;> omega

theorem sumDay_le_sumDay_iff (unit : BillingUnit) (first n n' : ℤ) :
    sumDay unit first n ≤ sumDay unit first n' ↔ n ≤ n' := by
  cases unit with
  | week =>
    dsimp only [sumDay]
    omega
  | month =>
    obtain ⟨-, -, hfirst⟩ := monthStart_monthIndex (first * msPerDay)
    have hlength := monthLength_bounds (monthIndex (first * msPerDay) + n)
    have hlength' := monthLength_bounds (monthIndex (first * msPerDay) + n')
    have horder := @monthStart_add_le_iff (monthIndex (first * msPerDay) + n) (monthIndex (first * msPerDay) + n')
      (min (date (first * msPerDay)) (monthLength (monthIndex (first * msPerDay) + n)))
      (min (date (first * msPerDay)) (monthLength (monthIndex (first * msPerDay) + n'))) (by omega) (by omega)
    dsimp only [sumDay]
    rcases eq_or_ne n n' with rfl | hne
    · exact iff_of_true le_rfl le_rfl
    · omega

theorem sumDay_zero (unit : BillingUnit) (d : ℤ) : sumDay unit d 0 = d := by
  cases unit with
  | week => exact add_zero d
  | month =>
    obtain ⟨hstart, hends, -⟩ := monthStart_monthIndex (d * msPerDay)
    rw [day_mul_msPerDay] at hstart hends
    dsimp only [sumDay]
    rw [add_zero, min_eq_left (by unfold monthLength; omega)]
    omega

theorem isoDate_midnight (d : ℤ) : isoDate (d * msPerDay) = dateText d :=
  isoDate_congr ((day_mul_msPerDay d).trans (day_noon d).symm)

theorem dateText_ne {d : ℤ} (hyear : 9999 < yearFromDay d) (d' : CalendarDate) : dateText d ≠ dateText d'.day := by
  intro h
  have hfull : ∀ d, fullYear (noon d) = yearFromDay d := fun d => congrArg yearFromDay (day_noon d)
  have hsign : (dateText d).toList.head? = some '+' := by
    unfold dateText isoDate
    rw [hfull]
    dsimp only
    rw [if_neg (by omega), if_neg (by omega)]
    simp [String.toList_append]
  have hle := d'.year_le
  rw [h, dateText, toList_isoDate (by rw [hfull]; exact d'.year_nonneg) (by rw [hfull]; exact hle)] at hsign
  have hlength := @length_padded 4 (fullYear (noon d'.day)).toNat (by omega) (by rw [hfull]; omega)
  cases hdigits : (padded 4 (fullYear (noon d'.day)).toNat).toList with
  | nil =>
    rw [hdigits] at hlength
    cases hlength
  | cons c cs =>
    rw [hdigits] at hsign
    have hdigit : c.isDigit := isDigit_of_mem_padded (by rw [hdigits]; exact List.mem_cons_self)
    rw [Option.some.inj hsign] at hdigit
    cases hdigit

theorem addBillingPeriods_dateText (s : CalendarDate) (hs : 100 ≤ yearFromDay s.day) (n : ℕ) (unit : BillingUnit) :
    addBillingPeriods newDate (some (dateText s.day)) n unit = some (dateText (sumDay unit s.day n)) := by
  have hround : max 0 (round (n : ℚ)) = n := by
    rw [round_natCast]
    exact max_eq_right (Int.natCast_nonneg n)
  unfold addBillingPeriods
  rw [parseDateOnly_dateText newDate s hs, Option.map_some, hround]
  cases unit with
  | week =>
    dsimp only [sumDay]
    rw [← isoDate_midnight]
    congr 2
    ring
  | month =>
    have hfull : fullYear (s.day * msPerDay) = yearFromDay s.day := congrArg yearFromDay (day_mul_msPerDay s.day)
    have hyear : 100 ≤ fullYear (s.day * msPerDay) + ((month (s.day * msPerDay) : ℤ) + n) / 12 := by omega
    have hindex : 12 * (fullYear (s.day * msPerDay) + ((month (s.day * msPerDay) : ℤ) + n) / 12) +
        ((month (s.day * msPerDay) : ℤ) + n) % 12 = monthIndex (s.day * msPerDay) + n := by
      unfold monthIndex
      omega
    dsimp only [sumDay]
    rw [date_utc_zero hyear, utc_eq hyear, hindex, isoDate_midnight]

theorem computeBillingPeriods_dateText {s e : CalendarDate} (hs : 100 ≤ yearFromDay s.day) (hle : s.day ≤ e.day)
    (unit : BillingUnit) :
    computeBillingPeriods newDate (some (dateText s.day)) (some (dateText e.day)) unit =
      max 1 (elapsedPeriods unit s.day e.day) := by
  have he := hs.trans (yearFromDay_mono hle)
  unfold computeBillingPeriods
  rw [parseDateOnly_dateText newDate s hs, parseDateOnly_dateText newDate e he]
  dsimp only
  rw [if_neg (not_lt.mpr (Int.mul_le_mul_of_nonneg_right hle (by decide)))]
  cases unit with
  | week =>
    have hdays : daysBetween (s.day * msPerDay) (e.day * msPerDay) = e.day - s.day := by
      unfold daysBetween msPerDay
      omega
    dsimp only [elapsedPeriods]
    rw [hdays]
  | month => rfl

/-- **Counting and adding periods are one calendar**, as far as sums have a year of four digits: the count is the
greatest number that can be added without going past the end, and at least 1; it grows with the end; and what was added
is counted. -/
theorem billing_periods_calendar (newDate : String → Option Date) (s e : CalendarDate)
    (hs : 100 ≤ yearFromDay s.day) (hle : s.day ≤ e.day) (unit : BillingUnit) :
    let add := fun n : ℕ => addBillingPeriods newDate (some (dateText s.day)) n unit
    let count := fun finish => computeBillingPeriods newDate (some (dateText s.day)) finish unit
    (∃ N : ℕ, IsGreatest {n : ℕ | ∃ d : CalendarDate, add n = some (dateText d.day) ∧ d.day ≤ e.day} N ∧
      count (some (dateText e.day)) = max 1 (N : ℤ)) ∧
    (∀ e' : CalendarDate, e.day ≤ e'.day → count (some (dateText e.day)) ≤ count (some (dateText e'.day))) ∧
    ∀ n : ℕ, 1 ≤ n → (∃ d : CalendarDate, add n = some (dateText d.day)) → count (add n) = n := by
  intro add count
  have hadd : ∀ n : ℕ, add n = some (dateText (sumDay unit s.day n)) := fun n =>
    addBillingPeriods_dateText newDate s hs n unit
  have hcount : ∀ d : CalendarDate, s.day ≤ d.day →
      count (some (dateText d.day)) = max 1 (elapsedPeriods unit s.day d.day) := fun d hd =>
    computeBillingPeriods_dateText newDate hs hd unit
  have hiff : ∀ {n d}, s.day ≤ d → (sumDay unit s.day n ≤ d ↔ n ≤ elapsedPeriods unit s.day d) := fun hd =>
    sumDay_le_iff unit (hs.trans (yearFromDay_mono hd))
  have hstarts : ∀ n : ℕ, s.day ≤ sumDay unit s.day n := fun n => by
    conv_lhs => rw [← sumDay_zero unit s.day]
    exact (sumDay_le_sumDay_iff unit s.day 0 n).mpr (Int.natCast_nonneg n)
  have hday : ∀ (n : ℕ) (d : CalendarDate), add n = some (dateText d.day) → sumDay unit s.day n = d.day := by
    intro n d hd
    have htext : dateText (sumDay unit s.day n) = dateText d.day := Option.some.inj ((hadd n).symm.trans hd)
    by_cases hyear : yearFromDay (sumDay unit s.day n) ≤ 9999
    · have hpos := hs.trans (yearFromDay_mono (hstarts n))
      exact dateText_inj (d := ⟨_, (by omega), hyear⟩).mp htext
    · exact absurd htext (dateText_ne (not_le.mp hyear) d)
  have hnonneg : 0 ≤ elapsedPeriods unit s.day e.day := (hiff hle).mp ((sumDay_zero unit s.day).trans_le hle)
  refine ⟨⟨(elapsedPeriods unit s.day e.day).toNat, ⟨?_, ?_⟩, ?_⟩, fun e' he' => ?_, ?_⟩
  · -- as many periods as have elapsed do not go past the end
    have hsum : sumDay unit s.day (elapsedPeriods unit s.day e.day).toNat ≤ e.day :=
      (hiff hle).mpr (by omega)
    exact ⟨s.between e _ (hstarts _) hsum, hadd _, hsum⟩
  · rintro n ⟨d, hd, hend⟩
    have helapsed := (hiff hle).mp ((hday n d hd).trans_le hend)
    omega
  · rw [hcount e hle, Int.toNat_of_nonneg hnonneg]
  · have hmono : elapsedPeriods unit s.day e.day ≤ elapsedPeriods unit s.day e'.day :=
      (hiff (hle.trans he')).mp (((hiff hle).mpr le_rfl).trans he')
    rw [hcount e hle, hcount e' (hle.trans he')]
    exact max_le_max le_rfl hmono
  · rintro n hn ⟨d, hd⟩
    have hsum := hday n d hd
    have hsd : s.day ≤ d.day := hsum ▸ hstarts n
    have hall : ∀ m, m ≤ elapsedPeriods unit s.day d.day ↔ m ≤ (n : ℤ) := fun m => by
      rw [← hiff hsd, ← hsum, sumDay_le_sumDay_iff]
    have heq : elapsedPeriods unit s.day d.day = n := le_antisymm ((hall _).mp le_rfl) ((hall _).mpr le_rfl)
    rw [hd, hcount d hsd]
    omega

/-- A month after the last day of January is the last day of February. -/
theorem billing_periods_calendar_january :
    let start := some (dateText 20484)
    computeBillingPeriods (fun _ => none) start (addBillingPeriods (fun _ => none) start 1 .month) .month = 1 :=
  (billing_periods_calendar (fun _ => none) ⟨20484, by decide +kernel, by decide +kernel⟩
    ⟨20512, by decide +kernel, by decide +kernel⟩ (by decide +kernel) (by decide) .month).2.2 1 le_rfl
    ⟨⟨20512, by decide +kernel, by decide +kernel⟩, by decide +kernel⟩

/-- Two months after a day of December 9999 are read as no month at all. -/
theorem five_digit_year_not_counted :
    let newDate := fun text => if text = "+010000-02" then some (utc 10000 1 1) else none
    let sum := addBillingPeriods newDate (some "9999-12-15") 2 .month
    sum = some "+010000-02" ∧ computeBillingPeriods newDate (some "9999-12-15") sum .month = 1 := by
  decide +kernel

end SuuqBackend
