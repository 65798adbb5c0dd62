import SuuqBackend.Branches.Laws.PartialTransfers
import SuuqBackend.Branches.Laws.VariantRollup

/-!
# Reconciling and setting variants

A reconciliation and `setVariantOnHand` reach their targets by movements, which are refused below zero and for products
and variants that do not exist.  Neither is refused while no variant is negative and the product is the sum of its
variants.
-/

namespace SuuqBackend

open Proc InventoryLedger VariantInventory

variable {S S' : VariantStore} {now : Date} {b p : ℕ} {productOf : ℕ → ℕ}

/-- The variants are stored under their products, and none is negative. -/
structure VariantStore.OwnVariants (productOf : ℕ → ℕ) (S : VariantStore) : Prop where
  own : ∀ k r, S.variants.lookup k = some r → r.productId = productOf k.variantId
  nonneg : ∀ k r, S.variants.lookup k = some r → 0 ≤ r.quantityOnHand

theorem VariantStore.OwnVariants.variantSum_nonneg (h : S.OwnVariants productOf) (b p : ℕ) : 0 ≤ S.variantSum b p := by
  rw [variantSum_eq_total]
  refine Table.total_nonneg fun k r hk => ?_
  split_ifs
  · exact h.nonneg k r hk
  · exact le_rfl

theorem run_inTransaction_of_ok {α : Type} {q : VariantProc α} {a : α} (h : q.run S = (.ok a, S')) (manager : Bool) :
    (inTransaction manager q).run S = (.ok a, S') := by
  cases manager with
  | true => exact h
  | false => exact run_transaction_of_ok h

/-! ### Reconciliation -/

/-- **A reconciliation repairs any drift** of a product that exists, if its variants do not add up to less than nothing. -/
theorem reconcile_repairs (h : S.RolledUp b p ∨ S.inventory.Known ⟨b, p⟩ ∧ 0 ≤ S.variantSum b p) (now : Date)
    (manager : Bool) : ∃ S',
      (reconcileProductFromVariants now b p manager).run S = (.ok (S.variantSum b p), S') ∧
      S'.variants = S.variants ∧ S'.inventory.onHandAt ⟨b, p⟩ = S.variantSum b p ∧
      S'.inventory.movements = S.inventory.movements ++
        (if S.RolledUp b p then [] else
          [(reconcileParams b p (S.variantSum b p) (S.inventory.onHandAt ⟨b, p⟩)).movement]) ∧
      ∀ now' manager', (reconcileProductFromVariants now' b p manager').run S' = (.ok (S.variantSum b p), S') := by
  have hsettled : ∀ S : VariantStore, S.RolledUp b p → ∀ now manager,
      (reconcileProductFromVariants now b p manager).run S = (.ok (S.variantSum b p), S) := by
    intro S hrolled now manager
    refine run_inTransaction_of_ok ?_ manager
    rw [run_reconcileProductFromVariantsWithin, if_pos hrolled]
  by_cases hrolled : S.RolledUp b p
  · refine ⟨S, hsettled S hrolled now manager, rfl, hrolled, ?_, hsettled S hrolled⟩
    rw [if_pos hrolled, List.append_nil]
  · have hd : S.variantSum b p - S.inventory.onHandAt ⟨b, p⟩ ≠ 0 := fun hd => hrolled (sub_eq_zero.mp hd).symm
    have hcan : S.inventory.CanMove ⟨b, p⟩ (S.variantSum b p - S.inventory.onHandAt ⟨b, p⟩) :=
      ⟨(h.resolve_left hrolled).1, by rw [add_sub_cancel]; exact (h.resolve_left hrolled).2⟩
    have hmovement := run_recordMovement_of_can (p := reconcileParams b p _ _) hd hcan now true
    have hrun := run_bind_of_ok (run_onLedger hmovement) fun _ => (pure (S.variantSum b p) : VariantProc ℤ)
    have hwithin : (reconcileProductFromVariantsWithin now b p).run S = _ :=
      (run_reconcileProductFromVariantsWithin S now b p).trans ((if_neg hrolled).trans hrun)
    have hrolled' := reconcile_rolledUp hwithin b p (.inl ⟨rfl, rfl⟩)
    refine ⟨_, run_inTransaction_of_ok hwithin manager, rfl, hrolled', ?_, hsettled _ hrolled'⟩
    rw [if_neg hrolled]
    exact (recordMovement_moves hd hmovement).movements_eq

/-! ### Settings -/

/-- The call names the product that its variant belongs to, with a branch that exists, and that product is reconciled there. -/
structure Settable (productOf : ℕ → ℕ) (S : VariantStore) (q : SetVariantOnHandParams) : Prop where
  own : q.productId = productOf q.variantId
  variant : q.variantId ∈ S.productVariants
  known : S.inventory.Known ⟨q.branchId, q.productId⟩
  rolledUp : S.RolledUp q.branchId q.productId

def SetVariantOnHandParams.target (q : SetVariantOnHandParams) : ℤ := max 0 (trunc q.quantity)

/-- What a call of `setVariantOnHand` does that succeeds. -/
structure Sets (productOf : ℕ → ℕ) (S S' : VariantStore) (q : SetVariantOnHandParams)
    (row : BranchInventoryVariant) : Prop where
  target : row.quantityOnHand = q.target
  variants_eq : S'.variants = S.variants.insert ⟨q.branchId, q.variantId⟩ row
  rolledUp : ∀ b p, S.RolledUp b p → S'.RolledUp b p
  own : S'.OwnVariants productOf
  known : ∀ k, S.inventory.Known k → S'.inventory.Known k
  productVariants_eq : S'.productVariants = S.productVariants

variable {q : SetVariantOnHandParams}

theorem Sets.settable {q' : SetVariantOnHandParams} {row : BranchInventoryVariant} (h : Sets productOf S S' q row)
    (hq : Settable productOf S q') : Settable productOf S' q' where
  own := hq.own
  variant := h.productVariants_eq ▸ hq.variant
  known := h.known _ hq.known
  rolledUp := h.rolledUp _ _ hq.rolledUp

theorem VariantStore.OwnVariants.insert {k : VariantKey} {row : BranchInventoryVariant} (h : S.OwnVariants productOf)
    (hown : row.productId = productOf k.variantId) (hnonneg : 0 ≤ row.quantityOnHand)
    (hvariants : S'.variants = S.variants.insert k row) : S'.OwnVariants productOf := by
  have hrows : ∀ k' r, S'.variants.lookup k' = some r → k' = k ∧ r = row ∨ S.variants.lookup k' = some r := by
    intro k' r hlookup
    rw [hvariants] at hlookup
    by_cases hkey : k' = k
    · subst hkey
      rw [Finmap.lookup_insert] at hlookup
      exact .inl ⟨rfl, (Option.some.inj hlookup).symm⟩
    · rw [Finmap.lookup_insert_of_ne _ hkey] at hlookup
      exact .inr hlookup
  constructor
  · intro k' r hlookup
    rcases hrows k' r hlookup with ⟨rfl, rfl⟩ | hold
    · exact hown
    · exact h.own k' r hold
  · intro k' r hlookup
    rcases hrows k' r hlookup with ⟨rfl, rfl⟩ | hold
    · exact hnonneg
    · exact h.nonneg k' r hold

theorem run_setVariantOnHandWithin (S : VariantStore) (now : Date) (q : SetVariantOnHandParams) :
    (setVariantOnHandWithin now q).run S = (recordVariantMovementWithin now (setParams q
      (((S.variants.lookup ⟨q.branchId, q.variantId⟩).map BranchInventoryVariant.quantityOnHand).getD 0))).run S := by
  rw [setVariantOnHandWithin, findVariant, run_read_bind]

theorem run_recordVariantMovementWithin_of_can {p : RecordVariantMovementParams}
    (hnext : 0 ≤ (variantRow S p).quantityOnHand + p.quantityDelta)
    (hsave : p.branchId ∈ S.inventory.branches ∧ p.variantId ∈ S.productVariants)
    (hcan : S.inventory.CanMove ⟨p.branchId, p.productId⟩ p.quantityDelta) (now : Date) :
    ∃ row S', (recordVariantMovementWithin now p).run S = (.ok row, S') ∧ S'.productVariants = S.productVariants ∧
      ∀ k, S'.inventory.Known k ↔ S.inventory.Known k := by
  have herror : saveVariantError p.key (S.variants.lookup p.key).isSome S = none := by
    unfold saveVariantError
    split_ifs with hpersisted hmem hexists
    · rfl
    · exact absurd (Finmap.lookup_isSome.mpr hmem) hpersisted
    · rfl
    · exact absurd hsave hexists
  have hsaved : ∀ row, (saveVariant p.key (S.variants.lookup p.key).isSome row).run S =
      (.ok (), { S with variants := S.variants.insert p.key row }) := by
    intro row
    rw [saveVariant, run_step, herror]
    rfl
  unfold recordVariantMovementWithin findVariant
  rw [run_read_bind]
  simp only [run_throwIf_bind]
  split_ifs with hneg hd
  · exact absurd hneg (not_lt.mpr hnext)
  · have hmovement := run_recordMovement_of_can (p := cascadeParams p) hd hcan now true
    have hcascade : ∀ variants, (onLedger (recordMovement now (cascadeParams p) true)).run { S with variants } = _ :=
      fun variants => run_onLedger hmovement
    rw [run_bind_of_ok (hsaved _), run_bind_of_ok (hcascade _)]
    exact ⟨_, _, rfl, rfl, (recordMovement_moves hd hmovement).known_iff⟩
  · rw [run_bind_of_ok (hsaved _)]
    exact ⟨_, _, rfl, rfl, fun _ => Iff.rfl⟩

def setStep (S : VariantStore) (c : Date × SetVariantOnHandParams) : VariantStore :=
  ((setVariantOnHand c.1 c.2 false).run S).2

/-- **A call that names the product of its variant sets the variant**, and nothing else gets out of step. -/
theorem Settable.sets (hq : Settable productOf S q) (hS : S.OwnVariants productOf) (now : Date) (manager : Bool) :
    ∃ row S', (setVariantOnHand now q manager).run S = (.ok row, S') ∧ Sets productOf S S' q row := by
  let movement := setParams q
    (((S.variants.lookup ⟨q.branchId, q.variantId⟩).map BranchInventoryVariant.quantityOnHand).getD 0)
  have hrow : (variantRow S movement).quantityOnHand + movement.quantityDelta = q.target := by
    show ((S.variants.lookup ⟨q.branchId, q.variantId⟩).getD (newVariant q.productId)).quantityOnHand +
      (q.target - _) = q.target
    cases S.variants.lookup ⟨q.branchId, q.variantId⟩ with
    | none => exact add_sub_cancel _ _
    | some r => exact add_sub_cancel _ _
  have hproduct : (variantRow S movement).productId = productOf q.variantId := by
    show ((S.variants.lookup ⟨q.branchId, q.variantId⟩).getD (newVariant q.productId)).productId = _
    cases hlookup : S.variants.lookup ⟨q.branchId, q.variantId⟩ with
    | none => exact hq.own
    | some r => exact hS.own _ r hlookup
  have htarget : 0 ≤ q.target := le_max_left _ _
  have hcan : S.inventory.CanMove ⟨q.branchId, q.productId⟩ movement.quantityDelta := by
    -- the product has what its variants have, none of which becomes negative
    let settled : BranchInventoryVariant := { variantRow S movement with quantityOnHand := q.target }
    have hsame : settled.productId = (variantRow S movement).productId := rfl
    have hinsert := S.variantSum_insert movement.key hsame (lookup_variantRow S movement) q.branchId q.productId
    have hown : VariantStore.OwnVariants productOf { S with variants := S.variants.insert movement.key settled } :=
      hS.insert hproduct htarget rfl
    have hdelta : q.target - (variantRow S movement).quantityOnHand = movement.quantityDelta := by omega
    rw [if_pos ⟨rfl, hproduct.trans hq.own.symm⟩, hdelta, ← hq.rolledUp] at hinsert
    exact ⟨hq.known, hinsert ▸ hown.variantSum_nonneg q.branchId q.productId⟩
  obtain ⟨row, S', hrun, hproductVariants, hknown⟩ := run_recordVariantMovementWithin_of_can (p := movement)
    (hrow.symm ▸ htarget) ⟨hq.known.1, hq.variant⟩ hcan now
  obtain ⟨hproduct', hquantity, s', rfl, -⟩ := recordVariantMovementWithin_eq_ok hrun
  have hmoves := variant_eq_ok hrun
  have hwithin := (run_setVariantOnHandWithin S now q).trans hrun
  refine ⟨row, _, run_inTransaction_of_ok hwithin manager, hquantity.trans hrow, rfl, fun b p hrolled => ?_, ?_,
    fun k => (hknown k).mpr, rfl⟩
  · refine hmoves.rolledUp (fun hb r hr => ?_) hrolled
    rw [hS.own _ r hr, show movement.productId = productOf q.variantId from hq.own]
    rfl
  · exact hS.insert (hproduct'.trans hproduct) ((hquantity.trans hrow) ▸ htarget) rfl

/-- **Variants are reconciled and set.**  A reconciliation makes a product that exists the sum of its variants, with one
movement at most, unless they add up to less than nothing.  Once that is so, each call of a run sets its variant, leaves
the others alone and keeps the products the sum of their variants, as long as the calls name the products of their
variants. -/
theorem variants_reconciled (S : VariantStore) :
    (∀ now b p manager, S.RolledUp b p ∨ S.inventory.Known ⟨b, p⟩ ∧ 0 ≤ S.variantSum b p → ∃ S',
      (reconcileProductFromVariants now b p manager).run S = (.ok (S.variantSum b p), S') ∧
      S'.variants = S.variants ∧ S'.inventory.onHandAt ⟨b, p⟩ = S.variantSum b p ∧
      S'.inventory.movements = S.inventory.movements ++
        (if S.RolledUp b p then [] else
          [(reconcileParams b p (S.variantSum b p) (S.inventory.onHandAt ⟨b, p⟩)).movement]) ∧
      ∀ now' manager', (reconcileProductFromVariants now' b p manager').run S' = (.ok (S.variantSum b p), S')) ∧
    ∀ productOf : ℕ → ℕ, S.OwnVariants productOf → ∀ calls : List (Date × SetVariantOnHandParams),
      (∀ c ∈ calls, Settable productOf S c.2) →
      ∀ n (hn : n < calls.length), let before := Run.after setStep S (calls.take n); ∃ row after,
        (setVariantOnHand calls[n].1 calls[n].2 false).run before = (.ok row, after) ∧
        row.quantityOnHand = calls[n].2.target ∧
        after.variants = before.variants.insert ⟨calls[n].2.branchId, calls[n].2.variantId⟩ row ∧
        ∀ c ∈ calls, after.RolledUp c.2.branchId c.2.productId := by
  refine ⟨fun now b p manager h => reconcile_repairs h now manager, fun productOf hS => ?_⟩
  intro calls hcalls n hn before
  obtain ⟨hown, hsettable⟩ : before.OwnVariants productOf ∧ ∀ c ∈ calls, Settable productOf before c.2 := by
    refine Run.after_induction (P := fun S => S.OwnVariants productOf ∧ ∀ c ∈ calls, Settable productOf S c.2)
      (C := fun _ c => c ∈ calls) (fun S c hS hc => ?_) ⟨hS, hcalls⟩
      (Run.along_take (Run.along_of_forall (fun c hc => hc)) n)
    obtain ⟨row, S', hrun, hsets⟩ := (hS.2 c hc).sets hS.1 c.1 false
    rw [setStep, hrun]
    exact ⟨hsets.own, fun c' hc' => hsets.settable (hS.2 c' hc')⟩
  obtain ⟨row, after, hrun, hsets⟩ := (hsettable _ (List.getElem_mem hn)).sets hown calls[n].1 false
  exact ⟨row, after, hrun, hsets.target, hsets.variants_eq, fun c hc => hsets.rolledUp _ _ (hsettable c hc).rolledUp⟩

/-- Five of the variant 70 of the product 7, beside a product 8. -/
def fiveOfVariant : VariantStore :=
  let products := twoBranches.products.insert 8 ⟨some 0, true⟩
  VariantCall.step ⟨{ twoBranches with products }, {70}, ∅⟩ (.recordVariantMovement 0 (variantMovement 5))

def setNine (productId : ℕ) : SetVariantOnHandParams where
  branchId := 1
  productId
  variantId := 70
  quantity := 9
  sourceType := "SAMPLE"

theorem variants_reconciled_nine :
    ∃ row after, (setVariantOnHand 0 (setNine 7) false).run fiveOfVariant = (.ok row, after) ∧
      row.quantityOnHand = 9 ∧ after.RolledUp 1 7 := by
  have hown : fiveOfVariant.OwnVariants fun _ => 7 := by
    have hstart : VariantStore.OwnVariants (fun _ => 7) oneVariant := ⟨nofun, nofun⟩
    have hvariants : fiveOfVariant.variants = oneVariant.variants.insert ⟨1, 70⟩ ⟨7, 5, 0, 0, 5, 1⟩ := rfl
    exact hstart.insert rfl (by decide) hvariants
  obtain ⟨row, after, hrun, htarget, -, hrolled⟩ := (variants_reconciled fiveOfVariant).2 _ hown [(0, setNine 7)]
    (by simpa using ⟨rfl, by decide, by decide, by decide⟩) 0 Nat.one_pos
  exact ⟨row, after, hrun, htarget.trans (by decide +kernel), hrolled _ List.mem_cons_self⟩

/-- A call that names the other product moves that one, and leaves both different from their variants. -/
theorem set_of_other_product :
    fiveOfVariant.RolledUp 1 7 ∧ fiveOfVariant.RolledUp 1 8 ∧
    ((setVariantOnHand 0 (setNine 8) false).run fiveOfVariant).1.isOk ∧
    ¬ (setStep fiveOfVariant (0, setNine 8)).RolledUp 1 7 ∧ ¬ (setStep fiveOfVariant (0, setNine 8)).RolledUp 1 8 := by
  decide +kernel

end SuuqBackend
