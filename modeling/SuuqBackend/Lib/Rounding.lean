import Mathlib.Algebra.Order.Round

/-!
# What rounding leaves behind

Numbers are rounded to the nearest integer after a bias `β` has been added.  `residue β y` is what
the rounding of `y` drops, or adds when it is negative: the fractional part of `y`, less one when it
reaches `1/2 - β` (`round_add_eq`).

Two numbers that are rounded apart add up to their rounded sum unless their fractional parts lie on one side of the
half (`round_add_round_iff`).
-/

namespace SuuqBackend.Rounding

variable {K : Type*} [Field K] [LinearOrder K] [IsStrictOrderedRing K] [FloorRing K]

/-- What rounding with the bias `β` drops from `y`; negative when it rounds up. -/
def residue (β y : K) : K := if Int.fract y < 1 / 2 - β then Int.fract y else Int.fract y - 1

/-- Rounding with a bias takes away the residue. -/
theorem round_add_eq {β : K} (hnonneg : 0 ≤ β) (hhalf : β < 1 / 2) (y : K) : (round (y + β) : K) = y - residue β y := by
  have hsplit : (⌊y⌋ : K) + Int.fract y = y := Int.floor_add_fract y
  have hlo : 0 ≤ Int.fract y := Int.fract_nonneg y
  have hhi : Int.fract y < 1 := Int.fract_lt_one y
  rw [round_eq]
  unfold residue
  split_ifs with h
  · have hfloor : ⌊y + β + 1 / 2⌋ = ⌊y⌋ :=
      Int.floor_eq_iff.mpr ⟨by linarith, by linarith⟩
    rw [hfloor]
    linarith
  · have hfloor : ⌊y + β + 1 / 2⌋ = ⌊y⌋ + 1 :=
      Int.floor_eq_iff.mpr ⟨by push_cast; linarith, by push_cast; linarith⟩
    rw [hfloor]
    push_cast
    linarith

/-- **When two numbers are rounded as their sum is.** -/
theorem round_add_round_iff (x y : K) : round x + round y = round (x + y) ↔
    1 / 2 ≤ Int.fract (x + 1 / 2) + Int.fract (y + 1 / 2) ∧ Int.fract (x + 1 / 2) + Int.fract (y + 1 / 2) < 3 / 2 := by
  have hx : (⌊x + 1 / 2⌋ : K) + Int.fract (x + 1 / 2) = x + 1 / 2 := Int.floor_add_fract _
  have hy : (⌊y + 1 / 2⌋ : K) + Int.fract (y + 1 / 2) = y + 1 / 2 := Int.floor_add_fract _
  rw [round_eq, round_eq, round_eq, eq_comm, Int.floor_eq_iff]
  push_cast
  constructor
  · rintro ⟨hlo, hhi⟩
    exact ⟨by linarith, by linarith⟩
  · rintro ⟨hlo, hhi⟩
    exact ⟨by linarith, by linarith⟩

end SuuqBackend.Rounding
