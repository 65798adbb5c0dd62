import SuuqBackend.Branches.VariantInventory
import SuuqBackend.Branches.Laws.StockMoves

/-!
# The rollup of variant stock

A product is rolled up at a branch when its quantity on hand is the sum over its variants
(`RolledUp`).  A variant movement moves both by the same amount, if the variant belongs to the product
that the movement names; a movement of the product that does not come from the variant service moves
only one of them.
-/

namespace SuuqBackend

open Proc InventoryLedger InventoryRepository InventoryStore VariantInventory

namespace VariantStore

def variantSum (S : VariantStore) (branchId productId : ℕ) : ℤ :=
  ((S.variantRows branchId productId).map BranchInventoryVariant.quantityOnHand).sum

/-- The quantity on hand of the product is the sum of its variants. -/
def RolledUp (branchId productId : ℕ) (S : VariantStore) : Prop :=
  S.inventory.onHandAt ⟨branchId, productId⟩ = S.variantSum branchId productId
deriving Decidable

theorem variantSum_eq_total (S : VariantStore) (b p : ℕ) :
    S.variantSum b p =
      S.variants.total fun k r => if k.branchId = b ∧ r.productId = p then r.quantityOnHand else 0 := by
  rw [variantSum, variantRows, Table.total]
  generalize S.variants.entries = entries
  induction entries using Multiset.induction with
  | empty => rfl
  | cons e entries ih =>
    rw [Multiset.map_cons, Multiset.sum_cons, ← ih]
    by_cases he : e.1.branchId = b ∧ e.2.productId = p
    · simp [he]
    · simp [he]

theorem variantSum_insert (S : VariantStore) (k : VariantKey) {r r' : BranchInventoryVariant}
    (hproduct : r'.productId = r.productId)
    (hrow : S.variants.lookup k = some r ∨ S.variants.lookup k = none ∧ r.quantityOnHand = 0) (b p : ℕ) :
    { S with variants := S.variants.insert k r' }.variantSum b p = S.variantSum b p +
      if k.branchId = b ∧ r.productId = p then r'.quantityOnHand - r.quantityOnHand else 0 := by
  rw [variantSum_eq_total, variantSum_eq_total, Table.total_insert]
  rcases hrow with hrow | ⟨hrow, hzero⟩
  · rw [hrow, Option.elim_some]
    split_ifs <;> omega
  · rw [hrow, Option.elim_none]
    split_ifs <;> omega

end VariantStore

/-! ### Variant movements -/

section VariantMovement

variable {S S' : VariantStore} {now : Date} {p : RecordVariantMovementParams}

theorem run_onLedger {α : Type} {q : InventoryProc α} {o : Except HttpException α}
    {s' : InventoryStore} (h : q.run S.inventory = (o, s')) : (onLedger q).run S = (o, { S with inventory := s' }) :=
  run_zoom_of h

def variantRow (S : VariantStore) (p : RecordVariantMovementParams) : BranchInventoryVariant :=
  (S.variants.lookup p.key).getD (newVariant p.productId)

theorem lookup_variantRow (S : VariantStore) (p : RecordVariantMovementParams) :
    S.variants.lookup p.key = some (variantRow S p) ∨
      S.variants.lookup p.key = none ∧ (variantRow S p).quantityOnHand = 0 := by
  unfold variantRow
  cases S.variants.lookup p.key with
  | none => exact .inr ⟨rfl, rfl⟩
  | some r => exact .inl rfl

theorem saveVariant_eq_ok {k : VariantKey} {persisted : Bool} {r : BranchInventoryVariant}
    (h : (saveVariant k persisted r).run S = (.ok (), S')) : S' = { S with variants := S.variants.insert k r } := by
  unfold saveVariant at h
  rw [run_step] at h
  cases herror : saveVariantError k persisted S with
  | none =>
    rw [herror] at h
    cases h
    rfl
  | some e =>
    rw [herror] at h
    cases h

variable {a : BranchInventoryVariant}

theorem recordVariantMovementWithin_eq_ok (h : (recordVariantMovementWithin now p).run S = (.ok a, S')) :
    a.productId = (variantRow S p).productId ∧
    a.quantityOnHand = (variantRow S p).quantityOnHand + p.quantityDelta ∧
    ∃ s', S' = { S with inventory := s', variants := S.variants.insert p.key a } ∧
      (p.quantityDelta = 0 ∧ s' = S.inventory ∨ p.quantityDelta ≠ 0 ∧
        ∃ m, (recordMovement now (cascadeParams p) true).run S.inventory = (.ok m, s')) := by
  unfold recordVariantMovementWithin findVariant at h
  rw [run_read_bind] at h
  simp only [run_throwIf_bind] at h
  split_ifs at h with hneg hd
  · cases h
  · -- the movement of the product follows
    obtain ⟨_, S₁, hsave, h⟩ := run_bind_eq_ok.mp h
    obtain ⟨m, S₂, hcascade, hrest⟩ := run_bind_eq_ok.mp h
    obtain rfl := saveVariant_eq_ok hsave
    cases hrest
    obtain ⟨s', hmovement, rfl⟩ := run_zoom_eq.mp hcascade
    exact ⟨rfl, rfl, s', rfl, .inr ⟨hd, m, hmovement⟩⟩
  · obtain ⟨_, S₁, hsave, hrest⟩ := run_bind_eq_ok.mp h
    obtain rfl := saveVariant_eq_ok hsave
    cases hrest
    exact ⟨rfl, rfl, S.inventory, rfl, .inl ⟨not_not.mp hd, rfl⟩⟩

/-- What a movement of `d` of a variant does: the product at `k` moves by `d`, and so does the sum of
the product that the variant is stored under. -/
structure VariantMoves (S S' : VariantStore) (p : RecordVariantMovementParams) : Prop where
  onHandAt_eq : S'.inventory.onHandAt = S.inventory.onHandAt + atKey ⟨p.branchId, p.productId⟩ p.quantityDelta
  variantSum_eq : ∀ b q, S'.variantSum b q = S.variantSum b q +
    if p.branchId = b ∧ (variantRow S p).productId = q then p.quantityDelta else 0

/-- **What a successful variant movement did.** -/
theorem variant_eq_ok (h : (recordVariantMovementWithin now p).run S = (.ok a, S')) : VariantMoves S S' p := by
  obtain ⟨hproduct, hquantity, s', rfl, hmovement⟩ := recordVariantMovementWithin_eq_ok h
  refine ⟨?_, fun b q => ?_⟩
  · rcases hmovement with ⟨hzero, rfl⟩ | ⟨hd, m, hmovement⟩
    · -- a movement of nothing
      ext k
      show S.inventory.onHandAt k = S.inventory.onHandAt k + atKey ⟨p.branchId, p.productId⟩ p.quantityDelta k
      rw [hzero, atKey_apply, ite_self, add_zero]
    · exact (recordMovement_moves hd hmovement).onHandAt_eq
  · have hinsert := VariantStore.variantSum_insert S p.key hproduct (lookup_variantRow S p) b q
    rw [hquantity, add_sub_cancel_left] at hinsert
    exact hinsert

end VariantMovement

/-! ### Reconciliation -/

section Reconcile

variable {S S' : VariantStore} {now : Date} {b p : ℕ}

theorem run_reconcileProductFromVariantsWithin (S : VariantStore) (now : Date) (b p : ℕ) :
    (reconcileProductFromVariantsWithin now b p).run S =
      if S.RolledUp b p then (.ok (S.variantSum b p), S)
      else (onLedger (recordMovement now
        (reconcileParams b p (S.variantSum b p) (S.inventory.onHandAt ⟨b, p⟩)) true) >>=
          fun _ => pure (S.variantSum b p)).run S := by
  unfold reconcileProductFromVariantsWithin
  have hfind : (onLedger (findInventory ⟨b, p⟩)).run S =
      (.ok (S.inventory.inventory.lookup ⟨b, p⟩), S) := run_zoom_of rfl
  rw [run_read_bind, run_bind_of_ok hfind, onHandAt_eq_lookup]
  have hsum : ((S.variantRows b p).map BranchInventoryVariant.quantityOnHand).sum = S.variantSum b p := rfl
  simp only [hsum]
  have hiff : S.variantSum b p - S.inventory.onHandAt ⟨b, p⟩ ≠ 0 ↔ ¬ S.RolledUp b p :=
    not_congr (sub_eq_zero.trans eq_comm)
  by_cases hrolled : S.RolledUp b p
  · rw [if_pos hrolled, if_neg (not_not.mpr hrolled ∘ hiff.mp)]
    rfl
  · rw [if_neg hrolled, if_pos (hiff.mpr hrolled)]

theorem reconcile_eq_ok {a : ℤ} (h : (reconcileProductFromVariantsWithin now b p).run S = (.ok a, S')) :
    S'.variants = S.variants ∧ S'.inventory.onHandAt = S.inventory.onHandAt +
      atKey ⟨b, p⟩ (S.variantSum b p - S.inventory.onHandAt ⟨b, p⟩) := by
  rw [run_reconcileProductFromVariantsWithin] at h
  split_ifs at h with hrolled
  · cases h
    refine ⟨rfl, ?_⟩
    ext k
    rw [Pi.add_apply, sub_eq_zero.mpr hrolled.symm, atKey_apply, ite_self, add_zero]
  · obtain ⟨m, S₁, hledger, hrest⟩ := run_bind_eq_ok.mp h
    obtain ⟨s', hmovement, rfl⟩ := run_zoom_eq.mp hledger
    cases hrest
    have hd : S.variantSum b p - S.inventory.onHandAt ⟨b, p⟩ ≠ 0 := fun hd => hrolled (sub_eq_zero.mp hd).symm
    exact ⟨rfl, (recordMovement_moves hd hmovement).onHandAt_eq⟩

/-- **A reconciliation rolls its product up** and no other product down. -/
theorem reconcile_rolledUp {a : ℤ} (h : (reconcileProductFromVariantsWithin now b p).run S = (.ok a, S')) (b' p' : ℕ) :
    (b' = b ∧ p' = p) ∨ S.RolledUp b' p' → S'.RolledUp b' p' := by
  obtain ⟨hvariants, honHand⟩ := reconcile_eq_ok h
  have hsum : S'.variantSum b' p' = S.variantSum b' p' := by
    rw [VariantStore.variantSum_eq_total, VariantStore.variantSum_eq_total, hvariants]
  unfold VariantStore.RolledUp
  rw [honHand, Pi.add_apply, atKey_apply, hsum]
  intro hrolled
  by_cases hkey : (⟨b', p'⟩ : InventoryKey) = ⟨b, p⟩
  · obtain ⟨rfl, rfl⟩ := InventoryKey.mk.inj hkey
    rw [if_pos rfl]
    omega
  · rw [if_neg hkey, add_zero]
    rcases hrolled with ⟨rfl, rfl⟩ | hrolled
    · exact absurd rfl hkey
    · exact hrolled

end Reconcile

/-! ### Runs -/

section Runs

variable {S : VariantStore} {b p : ℕ}

/-- At the branch `b`, the variant is stored under the product `p` just if the call names `p`. -/
def NamesProduct (b p : ℕ) (S : VariantStore) (k : VariantKey) (productId : ℕ) : Prop :=
  k.branchId = b → ∀ r ∈ S.variants.lookup k, (r.productId = p ↔ productId = p)
deriving Decidable

/-- A call of the variant service names the product of its variant, and no movement of something that
comes from elsewhere goes through for the product at the branch. -/
def KeepsRollup (b p : ℕ) (S : VariantStore) : VariantCall → Prop
  | .recordVariantMovement _ q => NamesProduct b p S q.key q.productId
  | .setVariantOnHand _ q => NamesProduct b p S ⟨q.branchId, q.variantId⟩ q.productId
  | .reconcileProductFromVariants .. => True
  | .recordMovement _ q _ => q.key = ⟨b, p⟩ → q.quantityDelta = 0 ∨
      ¬ (S.inventory.Known q.key ∧ 0 ≤ S.inventory.onHandAt q.key + q.quantityDelta)

instance (S : VariantStore) (c : VariantCall) : Decidable (KeepsRollup b p S c) := by
  cases c <;> unfold KeepsRollup <;> infer_instance

theorem VariantMoves.rolledUp {S' : VariantStore} {q : RecordVariantMovementParams}
    (h : VariantMoves S S' q) (hnames : NamesProduct b p S q.key q.productId)
    (hrolled : S.RolledUp b p) : S'.RolledUp b p := by
  have hsame : q.branchId = b → ((variantRow S q).productId = p ↔ q.productId = p) := by
    intro hb
    unfold variantRow
    cases hrow : S.variants.lookup q.key with
    | none => exact Iff.rfl
    | some r => exact hnames hb r (Option.mem_def.mpr hrow)
  unfold VariantStore.RolledUp at hrolled ⊢
  rw [h.onHandAt_eq, h.variantSum_eq, Pi.add_apply, atKey_apply]
  congr 1
  by_cases hb : q.branchId = b
  · simp only [hb, InventoryKey.mk.injEq, true_and, hsame hb, eq_comm]
  · have hkey : (⟨b, p⟩ : InventoryKey) ≠ ⟨q.branchId, q.productId⟩ :=
      fun hkey => hb (congrArg InventoryKey.branchId hkey).symm
    rw [if_neg hkey, if_neg fun hboth => hb hboth.1]

theorem rolledUp_transaction {α : Type} {execute : VariantProc α}
    (h : ∀ a S', execute.run S = (.ok a, S') → S.RolledUp b p → S'.RolledUp b p) (hrolled : S.RolledUp b p) :
    (((transaction execute) >>= fun _ => pure ()).run S).2.RolledUp b p := by
  rcases hrun : (transaction execute).run S with ⟨e | a, S'⟩
  · rw [run_bind_of_error hrun, eq_of_run_transaction_eq_error hrun]
    exact hrolled
  · rw [run_bind_of_ok hrun]
    exact h a S' (run_transaction_eq_ok.mp hrun) hrolled

theorem step_recordMovement_rolledUp_iff (hrolled : S.RolledUp b p) (now : Date)
    (q : RecordMovementParams) (manager : Bool) :
    (VariantCall.step S (.recordMovement now q manager)).RolledUp b p ↔
      KeepsRollup b p S (.recordMovement now q manager) := by
  rcases hmovement : (recordMovement now q manager).run S.inventory with ⟨o, s'⟩
  have honHand := recordMovement_onHandAt hmovement
  have hstep : VariantCall.step S (.recordMovement now q manager) = { S with inventory := s' } := by
    unfold VariantCall.step VariantCall.handler
    rw [run_bind, run_onLedger hmovement]
    cases o <;> rfl
  have hiff : (VariantCall.step S (.recordMovement now q manager)).RolledUp b p ↔
      s'.onHandAt ⟨b, p⟩ = S.inventory.onHandAt ⟨b, p⟩ := by
    rw [hstep]
    rw [hrolled]
    rfl
  rw [hiff, honHand, Pi.add_apply, add_eq_left, atKey_apply]
  by_cases hkey : q.key = ⟨b, p⟩
  · rw [if_pos hkey.symm]
    split_ifs with hthrough
    · exact ⟨fun hd _ => .inl hd, fun h => (h hkey).resolve_right (not_not.mpr hthrough)⟩
    · exact ⟨fun _ _ => .inr hthrough, fun _ => rfl⟩
  · rw [if_neg fun h => hkey h.symm]
    exact ⟨fun _ h => absurd h hkey, fun _ => rfl⟩

theorem VariantCall.rolledUp (c : VariantCall) (hkeeps : KeepsRollup b p S c)
    (hrolled : S.RolledUp b p) : (c.step S).RolledUp b p := by
  cases c with
  | recordVariantMovement now q =>
    refine rolledUp_transaction (fun a S' hrun hrolled => ?_) hrolled
    exact (variant_eq_ok hrun).rolledUp hkeeps hrolled
  | setVariantOnHand now q =>
    refine rolledUp_transaction (fun a S' hrun hrolled => ?_) hrolled
    exact (variant_eq_ok hrun).rolledUp hkeeps hrolled
  | reconcileProductFromVariants now b' p' =>
    refine rolledUp_transaction (fun a S' hrun hrolled => ?_) hrolled
    exact reconcile_rolledUp hrun b p (.inr hrolled)
  | recordMovement now q manager =>
    exact (step_recordMovement_rolledUp_iff hrolled now q manager).mpr hkeeps

end Runs

/-- **Variant stock equals product stock** in every state that a run reaches after a reconciliation, if
the calls of the variant service name the product of their variant and no movement of the product
that comes from elsewhere goes through.  A movement from elsewhere after which the product is still
rolled up has met the condition. -/
theorem variant_runs (S₀ : VariantStore) (now : Date) (b p : ℕ)
    (hreconciled : (VariantCall.reconcileProductFromVariants now b p).Succeeds S₀)
    (calls : List VariantCall)
    (hkeeps : Run.Along VariantCall.step (KeepsRollup b p)
      (VariantCall.step S₀ (.reconcileProductFromVariants now b p)) calls) :
    let S := Run.after VariantCall.step
      (VariantCall.step S₀ (.reconcileProductFromVariants now b p)) calls
    S.inventory.onHandAt ⟨b, p⟩ = S.variantSum b p ∧
    ∀ now q manager, (VariantCall.step S (.recordMovement now q manager)).RolledUp b p →
      KeepsRollup b p S (.recordMovement now q manager) := by
  intro S
  have hstart : (VariantCall.step S₀ (.reconcileProductFromVariants now b p)).RolledUp b p := by
    unfold VariantCall.Succeeds at hreconciled
    rcases hrun : (VariantInventory.reconcileProductFromVariants now b p false).run S₀ with
      ⟨e | a, S'⟩
    · unfold VariantCall.handler at hreconciled
      rw [run_bind_of_error hrun] at hreconciled
      cases hreconciled
    · unfold VariantCall.step VariantCall.handler
      rw [run_bind_of_ok hrun]
      exact reconcile_rolledUp (run_transaction_eq_ok.mp hrun) b p (Or.inl ⟨rfl, rfl⟩)
  have hS : S.RolledUp b p :=
    Run.after_induction (fun S c hrolled hc => c.rolledUp hc hrolled) hstart hkeeps
  exact ⟨hS, fun now q manager => (step_recordMovement_rolledUp_iff hS now q manager).mp⟩

/-- The product of `twoBranches` with a variant, and nothing in stock. -/
def oneVariant : VariantStore := ⟨twoBranches, {70}, ∅⟩

def variantMovement (quantityDelta : ℤ) : RecordVariantMovementParams where
  branchId := 1
  productId := 7
  variantId := 70
  quantityDelta
  movementType := .adjustment
  sourceType := "SAMPLE"

/-- Five are seeded and two are sold, each as the variant. -/
theorem variant_runs_sale :
    (VariantCall.reconcileProductFromVariants 0 1 7).Succeeds oneVariant ∧
    Run.Along VariantCall.step (KeepsRollup 1 7)
      (VariantCall.step oneVariant (.reconcileProductFromVariants 0 1 7))
      [.recordVariantMovement 0 (variantMovement 5), .recordVariantMovement 0 (variantMovement (-2))] ∧
    (Run.after VariantCall.step (VariantCall.step oneVariant (.reconcileProductFromVariants 0 1 7))
      [.recordVariantMovement 0 (variantMovement 5),
        .recordVariantMovement 0 (variantMovement (-2))]).RolledUp 1 7 := by
  have hreconciled : (VariantCall.reconcileProductFromVariants 0 1 7).Succeeds oneVariant := by decide
  have hkeeps : Run.Along VariantCall.step (KeepsRollup 1 7)
      (VariantCall.step oneVariant (.reconcileProductFromVariants 0 1 7))
      [.recordVariantMovement 0 (variantMovement 5), .recordVariantMovement 0 (variantMovement (-2))] := by decide
  exact ⟨hreconciled, hkeeps, (variant_runs oneVariant 0 1 7 hreconciled _ hkeeps).1⟩

/-- A receipt of ten of the product, after its variants have been reconciled at five. -/
theorem receipt_not_rolledUp :
    let S₀ := VariantCall.step oneVariant (.recordVariantMovement 0 (variantMovement 5))
    let S := Run.after VariantCall.step S₀ [.reconcileProductFromVariants 0 1 7,
      .recordMovement 0 (sampleMovement 1 .purchaseReceipt 10) false]
    (VariantCall.reconcileProductFromVariants 0 1 7).Succeeds S₀ ∧
    S.inventory.onHandAt ⟨1, 7⟩ = 15 ∧ S.variantSum 1 7 = 5 := by
  decide

end SuuqBackend
