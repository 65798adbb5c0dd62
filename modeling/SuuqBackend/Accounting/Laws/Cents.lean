import Mathlib.Algebra.Group.Subgroup.ZPowers.Basic
import Mathlib.Algebra.Group.Submonoid.BigOperators
import SuuqBackend.Accounting.Laws.GeneralLedger

/-!
# Amounts in cents

The columns of the ledger hold whole cents.  Such amounts form a subgroup of the rational numbers, so
sums, differences and negations of them need no lemmas of their own; `round2` always yields one of
them (`round2_mem`) and leaves them alone (`round2_of_mem`).
-/

namespace SuuqBackend

open GeneralLedger

def cents : AddSubgroup ℚ := AddSubgroup.zmultiples (1 / 100)

variable {x : ℚ}

theorem mem_cents_iff : x ∈ cents ↔ ∃ n : ℤ, x = n / 100 := by
  unfold cents
  rw [AddSubgroup.mem_zmultiples_iff]
  constructor
  · rintro ⟨n, rfl⟩
    exact ⟨n, by rw [zsmul_eq_mul]; ring⟩
  · rintro ⟨n, rfl⟩
    exact ⟨n, by rw [zsmul_eq_mul]; ring⟩

theorem round2_mem (x : ℚ) : round2 x ∈ cents :=
  mem_cents_iff.mpr ⟨round ((x + numberEpsilon) * 100), rfl⟩

theorem round2_of_mem (h : x ∈ cents) : round2 x = x := by
  obtain ⟨n, rfl⟩ := mem_cents_iff.mp h
  have harg : ((n : ℚ) / 100 + numberEpsilon) * 100 = n + 100 * numberEpsilon := by ring
  -- the bias of `Number.EPSILON` is far below half a cent
  have hround : round ((n : ℚ) + 100 * numberEpsilon) = n := by
    rw [round_intCast_add, add_eq_left, round_eq_zero_iff]
    constructor <;> norm_num [numberEpsilon]
  rw [round2, harg, hround]

theorem round2_mono {y : ℚ} (h : x ≤ y) : round2 x ≤ round2 y := by
  have hfloor : round ((x + numberEpsilon) * 100) ≤ round ((y + numberEpsilon) * 100) := by
    rw [round_eq, round_eq]
    apply Int.floor_le_floor
    linarith
  have hcast : (round ((x + numberEpsilon) * 100) : ℚ) ≤ (round ((y + numberEpsilon) * 100) : ℚ) := by
    exact_mod_cast hfloor
  unfold round2
  linarith

theorem round2_round2 (x : ℚ) : round2 (round2 x) = round2 x := round2_of_mem (round2_mem x)

theorem sum_mem_cents {α : Type} {f : α → ℚ} {xs : List α} (h : ∀ x ∈ xs, f x ∈ cents) : (xs.map f).sum ∈ cents := by
  refine list_sum_mem fun y hy => ?_
  obtain ⟨x, hx, rfl⟩ := List.mem_map.mp hy
  exact h x hx

/-!
## What the parts of a payment add up to

`splitTenders` is documented to normalize cash and clearing "so they sum exactly" to the amount.  They do
when it has to scale them, and when there are no tenders.  When the tenders already round to the amount,
each part is rounded by itself, and a cent may be lost; and a part that is scaled up may exceed the
amount, which makes the other one negative.

* `splitTenders_cash_nonneg`: cash is never negative.
* `splitTenders_settles_iff`: exactly when the parts add up and neither is negative.
* `splitTenders_of_cents`: tenders in whole cents are split exactly.
-/

theorem round2_nonneg {x : ℚ} (h : 0 ≤ x) : 0 ≤ round2 x := by
  have hbias : 0 ≤ (x + numberEpsilon) * 100 + 1 / 2 := by
    have heps : 0 < numberEpsilon := by norm_num [numberEpsilon]
    linarith
  have hfloor : (0 : ℤ) ≤ ⌊(x + numberEpsilon) * 100 + 1 / 2⌋ := Int.floor_nonneg.mpr hbias
  rw [round2, round_eq]
  have hcast : (0 : ℚ) ≤ (⌊(x + numberEpsilon) * 100 + 1 / 2⌋ : ℚ) := by exact_mod_cast hfloor
  linarith

theorem max_zero_mem_cents {x : ℚ} (h : x ∈ cents) : max 0 x ∈ cents := by
  rcases max_choice 0 x with hmax | hmax <;> rw [hmax]
  · exact zero_mem cents
  · exact h

variable {rows : List TenderRow}

theorem sumTenders_nonneg (toUpperCase : String → String) (h : ∀ row ∈ rows, 0 ≤ amountOf row.amount) :
    0 ≤ (sumTenders toUpperCase rows).cash ∧ 0 ≤ (sumTenders toUpperCase rows).clearing := by
  suffices hfold : ∀ raw : TenderSplit, 0 ≤ raw.cash ∧ 0 ≤ raw.clearing →
      0 ≤ (rows.foldl (addTender toUpperCase) raw).cash ∧ 0 ≤ (rows.foldl (addTender toUpperCase) raw).clearing from
    hfold ⟨0, 0⟩ ⟨le_rfl, le_rfl⟩
  induction rows with
  | nil => exact fun raw hraw => hraw
  | cons row rows ih =>
    intro raw hraw
    have hrow := h row List.mem_cons_self
    apply ih fun r hr => h r (List.mem_cons_of_mem row hr)
    unfold addTender
    split_ifs
    · exact ⟨add_nonneg hraw.1 hrow, hraw.2⟩
    · exact ⟨hraw.1, add_nonneg hraw.2 hrow⟩

theorem sumTenders_mem_cents (toUpperCase : String → String) (h : ∀ row ∈ rows, amountOf row.amount ∈ cents) :
    (sumTenders toUpperCase rows).cash ∈ cents ∧ (sumTenders toUpperCase rows).clearing ∈ cents ∧
      (sumTenders toUpperCase rows).cash + (sumTenders toUpperCase rows).clearing =
        (rows.map fun row => amountOf row.amount).sum := by
  suffices hfold : ∀ raw : TenderSplit, raw.cash ∈ cents → raw.clearing ∈ cents →
      (rows.foldl (addTender toUpperCase) raw).cash ∈ cents ∧
        (rows.foldl (addTender toUpperCase) raw).clearing ∈ cents ∧
        (rows.foldl (addTender toUpperCase) raw).cash + (rows.foldl (addTender toUpperCase) raw).clearing =
          raw.cash + raw.clearing + (rows.map fun row => amountOf row.amount).sum by
    have hzero := hfold ⟨0, 0⟩ (zero_mem cents) (zero_mem cents)
    simp only [add_zero, zero_add] at hzero
    exact hzero
  induction rows with
  | nil => exact fun raw hcash hclearing => ⟨hcash, hclearing, by simp⟩
  | cons row rows ih =>
    intro raw hcash hclearing
    have hrow := h row List.mem_cons_self
    have hnext := ih (fun r hr => h r (List.mem_cons_of_mem row hr)) (addTender toUpperCase raw row)
    have hsum : (addTender toUpperCase raw row).cash + (addTender toUpperCase raw row).clearing =
        raw.cash + raw.clearing + amountOf row.amount := by
      unfold addTender
      split_ifs <;> ring
    obtain ⟨hcash', hclearing', hsum'⟩ := hnext (by
      unfold addTender
      split_ifs
      · exact add_mem hcash hrow
      · exact hcash) (by
      unfold addTender
      split_ifs
      · exact hclearing
      · exact add_mem hclearing hrow)
    refine ⟨hcash', hclearing', ?_⟩
    rw [List.foldl_cons, hsum', hsum, List.map_cons, List.sum_cons, add_assoc]

/-! ### The parts -/

abbrev TenderSplit.rounded (raw : TenderSplit) : ℚ := round2 (raw.cash + raw.clearing)

/-- The parts of tenders that round to nothing, that round to the amount each by itself, or that can be
scaled to it. -/
def Settles (raw : TenderSplit) (settled : ℚ) : Prop :=
  raw.rounded ≤ 0 ∨
  (raw.rounded = settled ∧ round2 raw.cash + round2 raw.clearing = settled) ∨
  (raw.rounded ≠ settled ∧ round2 (raw.cash * (settled / raw.rounded)) ≤ settled)
deriving Decidable

section Split

variable {toUpperCase : String → String} {rows : List TenderRow} {total : ℚ}

section

variable (htotal : total ∈ cents)

include htotal

theorem splitTenders_of_nothing (hsum : (sumTenders toUpperCase rows).rounded ≤ 0) :
    splitTenders toUpperCase rows total = ⟨total, 0⟩ := by
  unfold splitTenders
  rw [if_pos hsum, round2_of_mem htotal]

theorem splitTenders_of_eq (hpos : 0 < (sumTenders toUpperCase rows).rounded)
    (hsum : (sumTenders toUpperCase rows).rounded = total) :
    splitTenders toUpperCase rows total =
      ⟨round2 (sumTenders toUpperCase rows).cash, round2 (sumTenders toUpperCase rows).clearing⟩ := by
  unfold splitTenders scaleTenders
  rw [if_neg (not_le.mpr hpos), round2_of_mem htotal]
  simp only [hsum, ne_eq, not_true_eq_false, if_false]

theorem splitTenders_of_ne (hpos : 0 < (sumTenders toUpperCase rows).rounded)
    (hsum : (sumTenders toUpperCase rows).rounded ≠ total) :
    let raw := sumTenders toUpperCase rows
    let cash := round2 (raw.cash * (total / raw.rounded))
    splitTenders toUpperCase rows total = ⟨cash, total - cash⟩ := by
  intro raw cash
  have hrest : total - cash ∈ cents := sub_mem htotal (round2_mem _)
  unfold splitTenders scaleTenders
  rw [if_neg (not_le.mpr hpos), round2_of_mem htotal]
  simp only [hsum, ne_eq, not_false_eq_true, if_true]
  rw [round2_round2, round2_of_mem hrest, round2_of_mem hrest]

theorem splitTenders_cash_nonneg (hnonneg : 0 ≤ total)
    (h : ∀ row ∈ rows, 0 ≤ amountOf row.amount) : 0 ≤ (splitTenders toUpperCase rows total).cash := by
  have hraw := sumTenders_nonneg toUpperCase h
  rcases le_or_gt (sumTenders toUpperCase rows).rounded 0 with hnothing | hpos
  · rw [splitTenders_of_nothing htotal hnothing]
    exact hnonneg
  · by_cases hsum : (sumTenders toUpperCase rows).rounded = total
    · rw [splitTenders_of_eq htotal hpos hsum]
      exact round2_nonneg hraw.1
    · rw [splitTenders_of_ne htotal hpos hsum]
      exact round2_nonneg (mul_nonneg hraw.1 (div_nonneg hnonneg hpos.le))

theorem splitTenders_sum_of_ne (hsum : (sumTenders toUpperCase rows).rounded ≠ total ∨
      (sumTenders toUpperCase rows).rounded ≤ 0) :
    (splitTenders toUpperCase rows total).cash + (splitTenders toUpperCase rows total).clearing = total := by
  rcases le_or_gt (sumTenders toUpperCase rows).rounded 0 with hnothing | hpos
  · rw [splitTenders_of_nothing htotal hnothing, add_zero]
  · rw [splitTenders_of_ne htotal hpos (hsum.resolve_right (not_le.mpr hpos))]
    exact add_sub_cancel _ _

end

/-- **The parts add up to the amount and neither is negative** exactly when the tenders settle it. -/
theorem splitTenders_settles_iff (htotal : total ∈ cents) (h : ∀ row ∈ rows, 0 ≤ amountOf row.amount) :
    (0 ≤ (splitTenders toUpperCase rows total).clearing ∧
      (splitTenders toUpperCase rows total).cash + (splitTenders toUpperCase rows total).clearing =
        total) ↔ Settles (sumTenders toUpperCase rows) total := by
  have hraw := sumTenders_nonneg toUpperCase h
  unfold Settles
  rcases le_or_gt (sumTenders toUpperCase rows).rounded 0 with hnothing | hpos
  · rw [splitTenders_of_nothing htotal hnothing]
    exact ⟨fun _ => .inl hnothing, fun _ => ⟨le_rfl, add_zero total⟩⟩
  · by_cases hsum : (sumTenders toUpperCase rows).rounded = total
    · rw [splitTenders_of_eq htotal hpos hsum]
      simp only [hsum, ne_eq, not_true_eq_false, false_and, or_false, true_and, round2_nonneg hraw.2]
      rw [hsum] at hpos
      exact ⟨.inr, fun hsettles => hsettles.resolve_left (not_le.mpr hpos)⟩
    · rw [splitTenders_of_ne htotal hpos hsum]
      simp only [hsum, not_le.mpr hpos, ne_eq, not_false_eq_true, false_and, false_or, true_and,
        sub_nonneg, add_sub_cancel, and_true]

/-- **Tenders in whole cents are split exactly**: both parts of the amount are whole cents, neither is negative, and
they add up to it. -/
theorem splitTenders_of_cents (hcents : ∀ row ∈ rows, amountOf row.amount ∈ cents)
    (hnonneg : ∀ row ∈ rows, 0 ≤ amountOf row.amount) (htotal : total ∈ cents) (hpos : 0 ≤ total) :
    let split := splitTenders toUpperCase rows total
    (0 ≤ split.cash ∧ 0 ≤ split.clearing ∧ split.cash + split.clearing = total) ∧
      split.cash ∈ cents ∧ split.clearing ∈ cents := by
  intro split
  obtain ⟨hcash, hclearing, -⟩ := sumTenders_mem_cents toUpperCase hcents
  have hsettles : Settles (sumTenders toUpperCase rows) total := by
    rcases le_or_gt (sumTenders toUpperCase rows).rounded 0 with hnothing | hsome
    · exact .inl hnothing
    have hrounded : (sumTenders toUpperCase rows).rounded =
        (sumTenders toUpperCase rows).cash + (sumTenders toUpperCase rows).clearing :=
      round2_of_mem (add_mem hcash hclearing)
    by_cases hsum : (sumTenders toUpperCase rows).rounded = total
    · refine .inr (.inl ⟨hsum, ?_⟩)
      rw [round2_of_mem hcash, round2_of_mem hclearing, ← hrounded, hsum]
    · -- the part in cash does not exceed the tenders, so that its share does not exceed the amount
      refine .inr (.inr ⟨hsum, ?_⟩)
      have hle : (sumTenders toUpperCase rows).cash ≤ (sumTenders toUpperCase rows).rounded := by
        have hclear := (sumTenders_nonneg toUpperCase hnonneg).2
        linarith
      have hshare : (sumTenders toUpperCase rows).cash * (total / (sumTenders toUpperCase rows).rounded) ≤ total := by
        calc (sumTenders toUpperCase rows).cash * (total / (sumTenders toUpperCase rows).rounded)
            ≤ (sumTenders toUpperCase rows).rounded * (total / (sumTenders toUpperCase rows).rounded) :=
              mul_le_mul_of_nonneg_right hle (div_nonneg hpos hsome.le)
          _ = total := mul_div_cancel₀ total hsome.ne'
      have hround := round2_mono hshare
      rwa [round2_of_mem htotal] at hround
  obtain ⟨hclear, hadd⟩ := (splitTenders_settles_iff htotal hnonneg).mpr hsettles
  have hsplitCash : split.cash ∈ cents := by
    show (splitTenders toUpperCase rows total).cash ∈ cents
    unfold splitTenders
    dsimp only
    split_ifs <;> exact round2_mem _
  have hrest : split.clearing = total - split.cash := by linarith
  refine ⟨⟨splitTenders_cash_nonneg htotal hpos hnonneg, hclear, hadd⟩, hsplitCash, ?_⟩
  rw [hrest]
  exact sub_mem htotal hsplitCash

theorem splitTenders_exact (hcents : ∀ row ∈ rows, amountOf row.amount ∈ cents)
    (hnonneg : ∀ row ∈ rows, 0 ≤ amountOf row.amount)
    (htotal : total = (rows.map fun row => amountOf row.amount).sum) :
    let split := splitTenders toUpperCase rows total
    (0 ≤ split.cash ∧ 0 ≤ split.clearing ∧ split.cash + split.clearing = total) ∧
      split.cash ∈ cents ∧ split.clearing ∈ cents := by
  obtain ⟨hcash, hclearing, hsum⟩ := sumTenders_mem_cents toUpperCase hcents
  have hparts := sumTenders_nonneg toUpperCase hnonneg
  apply splitTenders_of_cents hcents hnonneg
  · rw [htotal, ← hsum]
    exact add_mem hcash hclearing
  · rw [htotal, ← hsum]
    exact add_nonneg hparts.1 hparts.2

end Split

end SuuqBackend
