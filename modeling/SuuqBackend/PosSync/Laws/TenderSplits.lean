import SuuqBackend.Hospitality.Laws.NightAudits
import SuuqBackend.Hospitality.Laws.Settlements
import SuuqBackend.PosSync.Laws.CheckoutLedger

/-!
# When the parts of a payment are exact

`splitTenders` rounds cash and clearing one by one when the tenders already round to the amount, and rounds only cash
when it scales them.  How far the two sums lie above the points where they are rounded up (`overCent`) says when
nothing is lost.  `settleReceivable` has a copy of the code that does not round tenders that fit.

* `round2_add_round2_iff`: when two amounts round to their rounded sum.
* `tenders_split_iff`: when the parts are exact, that the entry of a folio always balances, and when the copy agrees.
-/

namespace SuuqBackend

open GeneralLedger HotelFolios PosCheckouts

/-- The fraction of a cent by which an amount lies above the point where it is rounded up. -/
def overCent (x : ℚ) : ℚ := Int.fract ((x + numberEpsilon) * 100 + 1 / 2)

theorem round2_add_round2_iff (x y : ℚ) : round2 x + round2 y = round2 (x + y) ↔
    1 / 2 + 100 * numberEpsilon ≤ overCent x + overCent y ∧ overCent x + overCent y < 3 / 2 + 100 * numberEpsilon := by
  have hfloors : round2 x + round2 y = round2 (x + y) ↔
      ⌊(x + y + numberEpsilon) * 100 + 1 / 2⌋ =
        ⌊(x + numberEpsilon) * 100 + 1 / 2⌋ + ⌊(y + numberEpsilon) * 100 + 1 / 2⌋ := by
    rw [round2, round2, round2, round_eq, round_eq, round_eq, ← add_div, div_left_inj' (by norm_num), eq_comm]
    norm_cast
  rw [hfloors, Int.floor_eq_iff, overCent, overCent, Int.fract, Int.fract]
  push_cast
  constructor <;> rintro ⟨hlow, hhigh⟩ <;> constructor <;> linarith

variable {settled : ℚ} {raw : TenderSplit}

theorem round2_le_iff {x : ℚ} (h : settled ∈ cents) : round2 x ≤ settled ↔ x < settled + 1 / 200 - numberEpsilon := by
  obtain ⟨n, rfl⟩ := mem_cents_iff.mp h
  have hfloor : round2 x ≤ n / 100 ↔ ⌊(x + numberEpsilon) * 100 + 1 / 2⌋ < n + 1 := by
    rw [round2, round_eq, div_le_div_iff_of_pos_right (by norm_num), Int.lt_add_one_iff]
    norm_cast
  rw [hfloor, Int.floor_lt]
  push_cast
  constructor <;> intro hlt <;> linarith

theorem round2_add_of_mem {x y : ℚ} (h : x ∈ cents) : round2 (x + y) = x + round2 y := by
  obtain ⟨n, rfl⟩ := mem_cents_iff.mp h
  have harg : ((n : ℚ) / 100 + y + numberEpsilon) * 100 = n + (y + numberEpsilon) * 100 := by ring
  rw [round2, round2, harg, round_intCast_add]
  push_cast
  ring

theorem eq_rounded_iff : raw = ⟨round2 raw.cash, round2 raw.clearing⟩ ↔ raw.cash ∈ cents ∧ raw.clearing ∈ cents := by
  have hself : ∀ x : ℚ, x = round2 x ↔ x ∈ cents := fun x =>
    ⟨fun h => h ▸ round2_mem x, fun h => (round2_of_mem h).symm⟩
  cases raw
  rw [TenderSplit.mk.injEq, hself, hself]

/-! ### The parts -/

/-- The tenders round to nothing; or they round to the amount, and what the sums of cash and clearing lie over a cent
makes up for the rounding; or the part in cash, when scaled to the amount, is less than half a cent above it. -/
def SplitsExactly (raw : TenderSplit) (settled : ℚ) : Prop :=
  raw.rounded ≤ 0 ∨
  (raw.rounded = settled ∧ 1 / 2 + 100 * numberEpsilon ≤ overCent raw.cash + overCent raw.clearing ∧
    overCent raw.cash + overCent raw.clearing < 3 / 2 + 100 * numberEpsilon) ∨
  (raw.rounded ≠ settled ∧ raw.cash * settled < (settled + 1 / 200 - numberEpsilon) * raw.rounded)
deriving Decidable

/-- There are no tenders but cash below half a cent; or they are scaled; or both sums are whole cents. -/
def SplitsAlike (raw : TenderSplit) (settled : ℚ) : Prop :=
  (raw.rounded ≤ 0 ∧ raw.clearing = 0) ∨
  (0 < raw.rounded ∧ (raw.rounded ≠ settled ∨ (raw.cash ∈ cents ∧ raw.clearing ∈ cents)))

theorem settles_iff (h : settled ∈ cents) : Settles raw settled ↔ SplitsExactly raw settled := by
  unfold Settles SplitsExactly
  rcases le_or_gt raw.rounded 0 with hnothing | hpos
  · simp only [hnothing, true_or]
  refine or_congr_right (or_congr (and_congr_right fun hsum => ?_) (and_congr_right fun _ => ?_))
  · rw [← hsum]
    exact round2_add_round2_iff raw.cash raw.clearing
  · rw [round2_le_iff h, ← mul_div_assoc, div_lt_iff₀ hpos]

theorem settlementSplit_eq_iff (env : PosCheckoutRuntime) {rows : List TenderRow}
    (hcents : settled ∈ cents) (h : ∀ row ∈ rows, 0 ≤ amountOf row.amount) :
    settlementSplit env settled rows = splitTenders env.toUpperCase rows settled ↔
      SplitsAlike (sumTenders env.toUpperCase rows) settled := by
  obtain ⟨hcash, hclearing⟩ := sumTenders_nonneg env.toUpperCase h
  unfold SplitsAlike
  rcases le_or_gt (sumTenders env.toUpperCase rows).rounded 0 with hnothing | hpos
  · -- what is left of clearing is too little to count
    have hsum : round2 (settled + (sumTenders env.toUpperCase rows).clearing) = settled := by
      have hle := round2_mono (le_add_of_nonneg_left (a := (sumTenders env.toUpperCase rows).clearing) hcash)
      rw [round2_add_of_mem hcents, le_antisymm (hle.trans hnothing) (round2_nonneg hclearing), add_zero]
    rw [splitTenders_of_nothing hcents hnothing]
    unfold settlementSplit
    simp only [hnothing, hsum, not_lt.mpr hnothing, if_true, ne_eq, not_true_eq_false, if_false, TenderSplit.mk.injEq,
      true_and, false_and, or_false]
  · have hsplit : settlementSplit env settled rows = scaleTenders settled (sumTenders env.toUpperCase rows) := by
      unfold settlementSplit scaleTenders
      dsimp only
      rw [if_neg (not_le.mpr hpos)]
    rw [hsplit]
    unfold scaleTenders
    dsimp only
    by_cases hsum : (sumTenders env.toUpperCase rows).rounded = settled
    · rw [splitTenders_of_eq hcents hpos hsum, if_neg (not_not.mpr hsum), eq_rounded_iff]
      simp only [hsum, hsum ▸ hpos, not_le.mpr (hsum ▸ hpos), ne_eq, not_true_eq_false, false_and, false_or, true_and]
    · rw [splitTenders_of_ne hcents hpos hsum, if_pos hsum, round2_of_mem (sub_mem hcents (round2_mem _))]
      simp only [hsum, hpos, ne_eq, not_false_eq_true, true_or, and_true, or_true]

/-- **When a split is exact.**  The two parts of a payment are not negative and add up to its amount in cents exactly
when the tenders split exactly; the entry that settles a folio has equal sides; and the split of a receivable is that
of `splitTenders` exactly when the tenders split alike. -/
theorem tenders_split_iff (env : PosCheckoutRuntime) (hotel : HotelRuntime) (dto : SettleFolioDto) (folio : HotelFolio)
    {rows : List TenderRow} {total : ℚ} (h : ∀ row ∈ rows, 0 ≤ amountOf row.amount) (htotal : 0 ≤ total) :
    (let split := splitTenders env.toUpperCase rows total
     0 ≤ split.cash ∧ 0 ≤ split.clearing ∧ split.cash + split.clearing = round2 total ↔
      SplitsExactly (sumTenders env.toUpperCase rows) (round2 total)) ∧
    (0 < recognisedOf (settledFolio hotel dto folio) →
      debits (settlementLines hotel dto (settledFolio hotel dto folio)) =
        credits (settlementLines hotel dto (settledFolio hotel dto folio))) ∧
    (0 < round2 total →
      (settlementSplit env (round2 total) rows = splitTenders env.toUpperCase rows total ↔
        SplitsAlike (sumTenders env.toUpperCase rows) (round2 total))) := by
  have hcents := round2_mem total
  have hround : splitTenders env.toUpperCase rows total = splitTenders env.toUpperCase rows (round2 total) := by
    unfold splitTenders
    rw [round2_round2]
  refine ⟨?_, fun hrecognised => ?_, fun _ => ?_⟩
  · rw [hround, ← settles_iff hcents, ← splitTenders_settles_iff hcents h]
    exact and_iff_right (splitTenders_cash_nonneg hcents (round2_nonneg htotal) h)
  · have hdebits := debited_settlementDebits hotel dto folio hrecognised.le
    rw [settlementLines_eq, debits_append, credits_append, hdebits.debits_eq, hdebits.credits_eq]
    simp [debits, credits, amountOf]
  · rw [hround]
    exact settlementSplit_eq_iff env hcents h

theorem five_split :
    let split := splitTenders plainCheckoutRuntime.toUpperCase [⟨some "CASH", some 3⟩, ⟨some "CARD", some 2⟩] 5
    0 ≤ split.cash ∧ 0 ≤ split.clearing ∧ split.cash + split.clearing = round2 5 :=
  (tenders_split_iff plainCheckoutRuntime hotelRuntime {} { branchId := 1, roomNumber := "4" }
    (by decide +kernel) (by norm_num)).1.mpr (by decide +kernel)

/-- The two halves of a cent round to nothing, each by itself. -/
theorem cent_lost :
    let split := splitTenders id [⟨some "CASH", some (1 / 250)⟩, ⟨some "CARD", some (1 / 250)⟩] (1 / 100)
    ¬ (0 ≤ split.cash ∧ 0 ≤ split.clearing ∧ split.cash + split.clearing = round2 (1 / 100)) := by
  decide +kernel

end SuuqBackend
