import SuuqBackend.Accounting.Laws.SourceNets
import SuuqBackend.Hospitality.Laws.FolioCharges
import SuuqBackend.Lib.TextKeys

/-!
# The entry of a settlement

A settlement recognises the charges of the folio as revenue: what is paid, split into cash and clearing, and a
receivable for the rest.  All amounts are whole cents, so that the two sides always balance and the ledger takes the
entry.

* `assertBalanced_settlementEntry`: the entry is accepted whenever there is something to recognise.
* `revenueOf_entered_self`, `revenueOf_entered_of_ne`: the revenue of the folio and of the others after it.
-/

namespace SuuqBackend

open GeneralLedger HotelFolios TextKeys

/-! ### The amounts -/

section Amounts

variable (env : HotelRuntime) (folioId : ℕ) (dto : SettleFolioDto) (folio : HotelFolio)

theorem decimal2_value_mem (x : Decimal2) : x.value ∈ cents := mem_cents_iff.mpr ⟨x.hundredths, rfl⟩

theorem decimal2_value_nonneg (x : Decimal2) : 0 ≤ x.value := div_nonneg (Nat.cast_nonneg _) (by norm_num)

theorem paidOf_settledFolio_nonneg : 0 ≤ paidOf (settledFolio env dto folio) := by
  have hsum : 0 ≤ (dto.payments.map fun p => p.amount.value).sum := by
    refine List.sum_nonneg fun x hx => ?_
    obtain ⟨p, -, rfl⟩ := List.mem_map.mp hx
    exact decimal2_value_nonneg p.amount
  have hvalue : ∀ x : ℚ, 0 ≤ x → 0 ≤ (Numeric2.ofRat x).value := by
    intro x hx
    have hfloor : (0 : ℤ) ≤ ⌊x * 100 + 1 / 2⌋ := Int.floor_nonneg.mpr (by linarith)
    rw [Numeric2.value_nonneg_iff, Numeric2.hundredths_of_nonneg hx]
    exact hfloor
  unfold paidOf settledFolio paidAmountOf
  apply round2_nonneg
  split_ifs
  · exact hvalue _ hsum
  · cases dto.paidAmount with
    | none => exact le_refl 0
    | some amount => exact hvalue _ (decimal2_value_nonneg amount)

theorem recognisedOf_mem : recognisedOf folio ∈ cents := by
  unfold recognisedOf paidOf
  dsimp only
  split_ifs
  · exact round2_mem _
  · exact round2_mem _

theorem recognisedOf_of_pos (h : 0 < folio.chargesTotal.hundredths) : recognisedOf folio = folio.chargesTotal.value := by
  have hpos : 0 < folio.chargesTotal.value := div_pos (Int.cast_pos.mpr h) (by norm_num)
  unfold recognisedOf
  rw [round2_value, if_pos hpos]

theorem recognisedOf_of_le (h : folio.chargesTotal.hundredths ≤ 0) : recognisedOf folio = paidOf folio := by
  have hle : folio.chargesTotal.value ≤ 0 := div_nonpos_of_nonpos_of_nonneg (Int.cast_nonpos.mpr h) (by norm_num)
  unfold recognisedOf
  rw [round2_value, if_neg (not_lt.mpr hle)]

theorem splitTenders_settlement (h : 0 ≤ recognisedOf (settledFolio env dto folio)) :
    let saved := settledFolio env dto folio
    let split := splitTenders env.toUpperCase (settledTenders dto) (min (paidOf saved) (recognisedOf saved))
    let receivable := max 0 (round2 (recognisedOf saved - paidOf saved))
    ((0 ≤ split.cash ∧ 0 ≤ split.clearing ∧ 0 ≤ receivable) ∧
      split.cash + split.clearing + receivable = recognisedOf saved) ∧
        split.cash ∈ cents ∧ split.clearing ∈ cents ∧ receivable ∈ cents := by
  intro saved split receivable
  have hpaidMem : paidOf saved ∈ cents := round2_mem _
  have hrecognisedMem : recognisedOf saved ∈ cents := recognisedOf_mem saved
  have hpaid : 0 ≤ paidOf saved := paidOf_settledFolio_nonneg env dto folio
  have htotal : min (paidOf saved) (recognisedOf saved) ∈ cents := by
    rcases min_choice (paidOf saved) (recognisedOf saved) with hmin | hmin
    · rw [hmin]
      exact hpaidMem
    · rw [hmin]
      exact hrecognisedMem
  have hrows : ∀ row ∈ settledTenders dto, amountOf row.amount ∈ cents ∧ 0 ≤ amountOf row.amount := by
    intro row hrow
    obtain ⟨p, -, rfl⟩ := List.mem_map.mp hrow
    exact ⟨decimal2_value_mem p.amount, decimal2_value_nonneg p.amount⟩
  obtain ⟨⟨hcash, hclearing, hsum⟩, hcashMem, hclearingMem⟩ :=
    @splitTenders_of_cents env.toUpperCase (settledTenders dto) _ (fun row hrow => (hrows row hrow).1)
      (fun row hrow => (hrows row hrow).2) htotal (le_min hpaid h)
  have hrest : receivable = max 0 (recognisedOf saved - paidOf saved) := by
    show max 0 (round2 (recognisedOf saved - paidOf saved)) = _
    rw [round2_of_mem (sub_mem hrecognisedMem hpaidMem)]
  refine ⟨⟨⟨hcash, hclearing, le_max_left _ _⟩, ?_⟩, hcashMem, hclearingMem, max_zero_mem_cents (round2_mem _)⟩
  have hboth : min (paidOf saved) (recognisedOf saved) + max 0 (recognisedOf saved - paidOf saved) =
      recognisedOf saved := by
    rcases le_total (paidOf saved) (recognisedOf saved) with hle | hle
    · rw [min_eq_left hle, max_eq_right (sub_nonneg.mpr hle), add_sub_cancel]
    · rw [min_eq_right hle, max_eq_left (sub_nonpos.mpr hle), add_zero]
  have hsum : split.cash + split.clearing = min (paidOf saved) (recognisedOf saved) := hsum
  rw [hrest, hsum, hboth]

/-! ### The entry -/

def settlementDebits : List JournalLineInput :=
  let paid := paidOf folio
  let recognised := recognisedOf folio
  let split := splitTenders env.toUpperCase (settledTenders dto) (min paid recognised)
  debitLine .cash split.cash ++ debitLine .tenderClearing split.clearing ++
    debitLine .accountsReceivable (max 0 (round2 (recognised - paid)))

theorem settlementLines_eq : settlementLines env dto folio = settlementDebits env dto folio ++
    [{ accountCode := GlAccountCode.serviceRevenue.code, credit := some (recognisedOf folio) }] := rfl

theorem debited_settlementDebits (h : 0 ≤ recognisedOf (settledFolio env dto folio)) :
    Debited (settlementDebits env dto (settledFolio env dto folio)) (recognisedOf (settledFolio env dto folio)) := by
  obtain ⟨⟨⟨hcash, hclearing, hreceivable⟩, hsum⟩, -⟩ := splitTenders_settlement env dto folio h
  have hlines := ((debited_debitLine .cash hcash).append (debited_debitLine .tenderClearing hclearing)).append
    (debited_debitLine .accountsReceivable hreceivable)
  rwa [hsum] at hlines

def settleKey (folioId : ℕ) : String := s!"hotel-folio-settle-{folioId}"

theorem settleKey_ne_empty (folioId : ℕ) : settleKey folioId ≠ "" := by
  intro hempty
  have hprefix := (String.append_eq_empty_iff.mp hempty).1
  exact absurd hprefix (by decide)

theorem settleKey_inj {id id' : ℕ} (h : settleKey id = settleKey id') : id = id' :=
  toString_inj.mp ((String.append_right_inj _).mp h)

theorem assertBalanced_settlementEntry (h : 0 < recognisedOf (settledFolio env dto folio)) :
    assertBalanced (settlementEntry env folioId dto (settledFolio env dto folio)) = .ok () := by
  exact assertBalanced_ok_of_credit (settleKey_ne_empty folioId) (settlementLines_eq env dto _)
    (debited_settlementDebits env dto folio h.le) h

theorem inputEffect_settlementLines (h : 0 < recognisedOf (settledFolio env dto folio)) :
    inputEffect (settlementLines env dto (settledFolio env dto folio)) GlAccountCode.serviceRevenue.code =
      -recognisedOf (settledFolio env dto folio) := by
  obtain ⟨⟨⟨hcash, hclearing, hreceivable⟩, -⟩, hcashMem, hclearingMem, hreceivableMem⟩ :=
    splitTenders_settlement env dto folio h.le
  rw [settlementLines_eq, inputEffect_append]
  unfold settlementDebits
  rw [inputEffect_append, inputEffect_append, inputEffect_debitLine _ hcashMem hcash,
    inputEffect_debitLine _ hclearingMem hclearing, inputEffect_debitLine _ hreceivableMem hreceivable]
  simp [inputEffect_cons, amountOf, round2_zero, round2_of_mem (recognisedOf_mem (settledFolio env dto folio))]

end Amounts

/-! ### The revenue of a folio -/

/-- The entries of the settlement of a folio. -/
def ofFolio (folioId : ℕ) (sourceType : GlJournalSourceType) (sourceId : Option String) : Bool :=
  sourceType = .hospitalitySettlement ∧ sourceId = some s!"{folioId}"

def GlStore.revenueOf (J : GlStore) (folioId : ℕ) : ℚ :=
  -J.netWhere (ofFolio folioId) GlAccountCode.serviceRevenue.code

section Revenue

variable {J : GlStore} (hlinked : J.Linked) {env : HotelRuntime} {folioId : ℕ} {dto : SettleFolioDto}
  {folio : HotelFolio} (h : 0 < recognisedOf (settledFolio env dto folio))

include hlinked h

theorem revenueOf_entered_self (hnew : J.entryByKey folio.branchId (settleKey folioId) = none) :
    (J.entered env.now (settlementEntry env folioId dto (settledFolio env dto folio))).revenueOf folioId =
      J.revenueOf folioId + recognisedOf (settledFolio env dto folio) := by
  have hof : ofFolio folioId .hospitalitySettlement (some s!"{folioId}") = true := decide_eq_true ⟨rfl, rfl⟩
  have heffect := inputEffect_settlementLines env dto folio h
  unfold GlStore.revenueOf
  rw [netWhere_entered hlinked _ _ _ (assertBalanced_settlementEntry env folioId dto folio h), if_pos ⟨hnew, hof⟩]
  show -(_ + inputEffect (settlementLines env dto (settledFolio env dto folio)) _) = _
  rw [heffect]
  ring

theorem revenueOf_entered_of_ne {id : ℕ} (hne : id ≠ folioId) :
    (J.entered env.now (settlementEntry env folioId dto (settledFolio env dto folio))).revenueOf id =
      J.revenueOf id := by
  have hof : ofFolio id .hospitalitySettlement (some s!"{folioId}") = false := by
    refine decide_eq_false fun hboth => hne ?_
    exact (toString_inj.mp (Option.some.inj hboth.2)).symm
  unfold GlStore.revenueOf
  rw [netWhere_entered hlinked _ _ _ (assertBalanced_settlementEntry env folioId dto folio h), if_neg, add_zero]
  rintro ⟨-, hsource⟩
  exact absurd (hof.symm.trans hsource) Bool.false_ne_true

end Revenue

end SuuqBackend
