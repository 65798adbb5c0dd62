import SuuqBackend.Common.Numeric

/-!
# Rounding a balance and its transaction apart

A wallet stores its new balance and the amount of the transaction, each rounded to hundredths by its column.
These are the amounts for which the two agree.

* `debit_agrees_iff`: for `debitWallet`, which subtracts it and records its negated absolute value.
* `payment_agrees_iff`: for `payWithWallet`, which rounds the difference itself and records `-amount`.

A half cent is rounded up in a difference and away from zero in the amount, so that the two part.
-/

namespace SuuqBackend.Numeric2

theorem hundredths_of_nonneg {x : ℚ} (h : 0 ≤ x) : (ofRat x).hundredths = ⌊x * 100 + 1 / 2⌋ := by
  unfold ofRat
  rw [if_pos h]

theorem hundredths_of_neg {x : ℚ} (h : x < 0) : (ofRat x).hundredths = -⌊-x * 100 + 1 / 2⌋ := by
  unfold ofRat
  rw [if_neg (not_le.mpr h)]

theorem hundredths_neg (x : ℚ) : (ofRat (-x)).hundredths = -(ofRat x).hundredths := by
  have hzero : ⌊(0 : ℚ) * 100 + 1 / 2⌋ = 0 := by norm_num
  rcases lt_trichotomy x 0 with h | h | h
  · rw [hundredths_of_nonneg (by linarith), hundredths_of_neg h, neg_neg]
  · subst h
    rw [neg_zero, hundredths_of_nonneg le_rfl, hzero, neg_zero]
  · rw [hundredths_of_neg (by linarith), hundredths_of_nonneg h.le, neg_neg]

theorem ofRat_div (n : ℤ) : ofRat (n / 100) = ⟨n⟩ := by
  have hfloor : ∀ m : ℤ, ⌊(m : ℚ) / 100 * 100 + 1 / 2⌋ = m := by
    intro m
    norm_num
  unfold ofRat
  split_ifs
  · rw [hfloor]
  · have hneg : -((n : ℚ) / 100) = ((-n : ℤ) : ℚ) / 100 := by
      push_cast
      ring
    rw [hneg, hfloor, neg_neg]

theorem ofRat_value (b : Numeric2) : ofRat b.value = b := ofRat_div b.hundredths

theorem ofRat_add_value (b c : Numeric2) : ofRat (b.value + c.value) = ⟨b.hundredths + c.hundredths⟩ := by
  have hsum : b.value + c.value = ((b.hundredths + c.hundredths : ℤ) : ℚ) / 100 := by
    unfold value
    push_cast
    ring
  rw [hsum, ofRat_div]

theorem value_mul (b : Numeric2) : b.value * 100 = b.hundredths := by
  unfold value
  rw [div_mul_cancel₀ _ (by norm_num)]

variable {b : Numeric2} {a : ℚ}

theorem value_nonneg_iff : 0 ≤ b.value ↔ 0 ≤ b.hundredths := by
  unfold value
  rw [div_nonneg_iff]
  constructor
  · rintro (⟨h, -⟩ | ⟨-, h⟩)
    · exact_mod_cast h
    · norm_num at h
  · intro h
    exact Or.inl ⟨by exact_mod_cast h, by norm_num⟩

theorem add_value_mul (b : Numeric2) (x : ℚ) : (b.value + x) * 100 + 1 / 2 = b.hundredths + (x * 100 + 1 / 2) := by
  rw [add_mul, value_mul, add_assoc]

theorem floors_of_half {y : ℚ} (h : Int.fract y = 1 / 2) : ⌊y + 1 / 2⌋ = ⌊y⌋ + 1 ∧ ⌊1 / 2 - y⌋ = -⌊y⌋ := by
  have hsplit : (⌊y⌋ : ℚ) + Int.fract y = y := Int.floor_add_fract y
  constructor <;> exact Int.floor_eq_iff.mpr ⟨by push_cast; linarith, by push_cast; linarith⟩

theorem floor_half_sub_iff (y : ℚ) : ⌊1 / 2 - y⌋ = -⌊y + 1 / 2⌋ ↔ Int.fract y ≠ 1 / 2 := by
  have hsplit : (⌊y⌋ : ℚ) + Int.fract y = y := Int.floor_add_fract y
  have hlo : 0 ≤ Int.fract y := Int.fract_nonneg y
  have hhi : Int.fract y < 1 := Int.fract_lt_one y
  rcases lt_trichotomy (Int.fract y) (1 / 2) with h | h | h
  · have hup : ⌊y + 1 / 2⌋ = ⌊y⌋ := Int.floor_eq_iff.mpr ⟨by linarith, by linarith⟩
    have hdown : ⌊1 / 2 - y⌋ = -⌊y⌋ :=
      Int.floor_eq_iff.mpr ⟨by push_cast; linarith, by push_cast; linarith⟩
    rw [hup, hdown]
    exact iff_of_true rfl h.ne
  · obtain ⟨hup, hdown⟩ := floors_of_half h
    refine iff_of_false (fun heq => ?_) (not_not.mpr h)
    omega
  · have hup : ⌊y + 1 / 2⌋ = ⌊y⌋ + 1 :=
      Int.floor_eq_iff.mpr ⟨by push_cast; linarith, by push_cast; linarith⟩
    have hdown : ⌊1 / 2 - y⌋ = -⌊y⌋ - 1 :=
      Int.floor_eq_iff.mpr ⟨by push_cast; linarith, by push_cast; linarith⟩
    refine iff_of_true ?_ h.ne'
    omega

/-! ### Credit -/

theorem credit_small (hb : 0 ≤ b.hundredths) (hlo : -1 / 200 < a) (hhi : a < 0) :
    (ofRat (b.value + a)).hundredths = b.hundredths := by
  rcases lt_or_ge (b.value + a) 0 with hneg | hnonneg
  · -- The balance is zero: one cent would cover the amount.
    have hlt : (b.hundredths : ℚ) < 1 := by
      rw [← value_mul]
      linarith
    have hzero : b.hundredths = 0 := by
      have hlt' : b.hundredths < 1 := by exact_mod_cast hlt
      omega
    have hvalue : b.value = 0 := by
      unfold value
      rw [hzero]
      norm_num
    have hfloor : ⌊-(b.value + a) * 100 + 1 / 2⌋ = 0 :=
      Int.floor_eq_iff.mpr ⟨by push_cast; linarith, by push_cast; linarith⟩
    rw [hundredths_of_neg hneg, hfloor, hzero, neg_zero]
  · have hfloor : ⌊a * 100 + 1 / 2⌋ = 0 :=
      Int.floor_eq_iff.mpr ⟨by push_cast; linarith, by push_cast; linarith⟩
    rw [hundredths_of_nonneg hnonneg, add_value_mul, Int.floor_intCast_add, hfloor, add_zero]

theorem credit_le (hb : 0 ≤ b.hundredths) (ha : a ≤ -1 / 200) : (ofRat (b.value + a)).hundredths ≤ b.hundredths := by
  rcases lt_or_ge (b.value + a) 0 with hneg | hnonneg
  · have hfloor : 0 ≤ ⌊-(b.value + a) * 100 + 1 / 2⌋ := Int.floor_nonneg.mpr (by linarith)
    rw [hundredths_of_neg hneg]
    omega
  · have hfloor : ⌊a * 100 + 1 / 2⌋ ≤ 0 := by
      have hlt : ⌊a * 100 + 1 / 2⌋ < 1 := Int.floor_lt.mpr (by push_cast; linarith)
      omega
    rw [hundredths_of_nonneg hnonneg, add_value_mul, Int.floor_intCast_add]
    omega

/-- **When a credit and its record agree**, and the balance stays above zero. -/
theorem credit_agrees_iff (hb : 0 ≤ b.hundredths) (a : ℚ) :
    (ofRat (b.value + a)).hundredths = b.hundredths + (ofRat |a|).hundredths ∧
      0 ≤ (ofRat (b.value + a)).hundredths ↔ -1 / 200 < a := by
  rcases le_or_gt 0 a with ha | ha
  · have hfloor : 0 ≤ ⌊a * 100 + 1 / 2⌋ := Int.floor_nonneg.mpr (by linarith)
    have hvalue : 0 ≤ b.value := value_nonneg_iff.mpr hb
    rw [abs_of_nonneg ha, hundredths_of_nonneg ha, hundredths_of_nonneg (by linarith), add_value_mul,
      Int.floor_intCast_add]
    refine iff_of_true ⟨rfl, ?_⟩ (by linarith)
    omega
  · rw [abs_of_neg ha]
    rcases lt_or_ge (-1 / 200) a with hlo | hlo
    · have hrecord : (ofRat (-a)).hundredths = 0 := by
        rw [hundredths_of_nonneg (by linarith)]
        exact Int.floor_eq_iff.mpr ⟨by push_cast; linarith, by push_cast; linarith⟩
      rw [credit_small hb hlo ha, hrecord, add_zero]
      exact iff_of_true ⟨rfl, hb⟩ hlo
    · have hrecord : 1 ≤ (ofRat (-a)).hundredths := by
        rw [hundredths_of_nonneg (by linarith)]
        exact Int.le_floor.mpr (by push_cast; linarith)
      have hle := credit_le hb hlo
      refine iff_of_false (fun h => ?_) (not_lt.mpr hlo)
      omega

/-- **When an amount is added exactly**: a half cent needs the sign of the sum. -/
theorem hundredths_add_iff (b : Numeric2) (a : ℚ) :
    (ofRat (b.value + a)).hundredths = b.hundredths + (ofRat a).hundredths ↔
      (Int.fract (a * 100) = 1 / 2 → (0 ≤ a ↔ 0 ≤ b.value + a)) := by
  have hup : 0 ≤ b.value + a → (ofRat (b.value + a)).hundredths = b.hundredths + ⌊a * 100 + 1 / 2⌋ := by
    intro h
    rw [hundredths_of_nonneg h, add_value_mul, Int.floor_intCast_add]
  have hdown : b.value + a < 0 → (ofRat (b.value + a)).hundredths = b.hundredths + -⌊1 / 2 - a * 100⌋ := by
    intro h
    have hneg : -(b.value + a) * 100 + 1 / 2 = ((-b.hundredths : ℤ) : ℚ) + (1 / 2 - a * 100) := by
      push_cast
      rw [← value_mul]
      ring
    rw [hundredths_of_neg h, hneg, Int.floor_intCast_add, neg_add, neg_neg]
  have hamount : a < 0 → (ofRat a).hundredths = -⌊1 / 2 - a * 100⌋ := by
    intro h
    have hhalf : -a * 100 + 1 / 2 = 1 / 2 - a * 100 := by ring
    rw [hundredths_of_neg h, hhalf]
  rcases le_or_gt 0 a with ha | ha <;> rcases le_or_gt 0 (b.value + a) with hsum | hsum
  · rw [hup hsum, hundredths_of_nonneg ha]
    exact iff_of_true rfl fun _ => iff_of_true ha hsum
  · have hsigns : ¬ (0 ≤ a ↔ 0 ≤ b.value + a) := fun h => absurd (h.mp ha) (not_le.mpr hsum)
    rw [hdown hsum, hundredths_of_nonneg ha, add_right_inj, neg_eq_iff_eq_neg, floor_half_sub_iff]
    exact imp_congr_right fun _ => (iff_false_intro hsigns).symm
  · have hsigns : ¬ (0 ≤ a ↔ 0 ≤ b.value + a) := fun h => absurd (h.mpr hsum) (not_le.mpr ha)
    rw [hup hsum, hamount ha, add_right_inj, eq_comm, neg_eq_iff_eq_neg, floor_half_sub_iff]
    exact imp_congr_right fun _ => (iff_false_intro hsigns).symm
  · rw [hdown hsum, hamount ha]
    exact iff_of_true rfl fun _ => iff_of_false (not_le.mpr ha) (not_le.mpr hsum)

/-! ### Debit and payment -/

theorem hundredths_sub (h : a ≤ b.value) : (ofRat (b.value - a)).hundredths = b.hundredths + ⌊1 / 2 - a * 100⌋ := by
  have hhalf : -a * 100 + 1 / 2 = 1 / 2 - a * 100 := by ring
  rw [hundredths_of_nonneg (sub_nonneg.mpr h), sub_eq_add_neg, add_value_mul, Int.floor_intCast_add, hhalf]

theorem hundredths_sub_nonneg (h : a ≤ b.value) : 0 ≤ (ofRat (b.value - a)).hundredths := by
  rw [hundredths_of_nonneg (sub_nonneg.mpr h)]
  exact Int.floor_nonneg.mpr (by linarith)

theorem debit_agrees_iff (h : a ≤ b.value) :
    (ofRat (b.value - a)).hundredths = b.hundredths + (ofRat (-|a|)).hundredths ∧
      0 ≤ (ofRat (b.value - a)).hundredths ↔ -1 / 200 < a ∧ Int.fract (a * 100) ≠ 1 / 2 := by
  rw [and_iff_left (hundredths_sub_nonneg h), hundredths_sub h, add_right_inj]
  rcases le_or_gt 0 a with ha | ha
  · rw [abs_of_nonneg ha, hundredths_neg, hundredths_of_nonneg ha, floor_half_sub_iff]
    have hlo : -1 / 200 < a := by linarith
    exact (and_iff_right hlo).symm
  · have habs : -|a| = a := by rw [abs_of_neg ha, neg_neg]
    have hrecord : (ofRat a).hundredths = -⌊1 / 2 - a * 100⌋ := by
      rw [hundredths_of_neg ha]
      congr 2
      ring
    rw [habs, hrecord]
    rcases lt_or_ge (-1 / 200) a with hlo | hlo
    · have hzero : ⌊1 / 2 - a * 100⌋ = 0 :=
        Int.floor_eq_iff.mpr ⟨by push_cast; linarith, by push_cast; linarith⟩
      have hfract : Int.fract (a * 100) = a * 100 + 1 := by
        refine Int.fract_eq_iff.mpr ⟨by linarith, by linarith, -1, ?_⟩
        ring
      rw [hzero]
      refine iff_of_true rfl ⟨hlo, fun heq => ?_⟩
      linarith
    · have hone : 1 ≤ ⌊1 / 2 - a * 100⌋ := Int.le_floor.mpr (by push_cast; linarith)
      refine iff_of_false (fun heq => ?_) (fun hboth => absurd hboth.1 (not_lt.mpr hlo))
      omega

theorem payment_agrees_iff (h : a ≤ b.value) :
    (ofRat (round ((b.value - a) * 100) / 100)).hundredths = b.hundredths + (ofRat (-a)).hundredths ∧
      0 ≤ (ofRat (round ((b.value - a) * 100) / 100)).hundredths ↔ (0 ≤ a → Int.fract (a * 100) ≠ 1 / 2) := by
  have hround : (ofRat (round ((b.value - a) * 100) / 100)).hundredths = (ofRat (b.value - a)).hundredths := by
    rw [ofRat_div, round_eq, hundredths_of_nonneg (sub_nonneg.mpr h)]
  rw [hround, and_iff_left (hundredths_sub_nonneg h), hundredths_sub h, add_right_inj]
  rcases le_or_gt 0 a with ha | ha
  · rw [hundredths_neg, hundredths_of_nonneg ha, floor_half_sub_iff]
    exact ⟨fun hne _ => hne, fun hne => hne ha⟩
  · have hhalf : -a * 100 + 1 / 2 = 1 / 2 - a * 100 := by ring
    rw [hundredths_of_nonneg (by linarith), hhalf]
    exact iff_of_true rfl fun hle => absurd hle (not_le.mpr ha)

end SuuqBackend.Numeric2
