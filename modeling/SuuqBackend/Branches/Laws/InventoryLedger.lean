import SuuqBackend.Branches.InventoryLedger
import SuuqBackend.Branches.Laws.InventoryStore

/-!
# What the ledger operations do

One lemma for each part and each operation says what it does to the store, as a function of the
store; later proofs cite these and do not unfold the operations.

* `recordMovement_eq_ok`, `adjust_eq_ok`, `transferStock_eq_ok`: what a successful call did.
* `recordMovement_eq_error`, `adjust_eq_error`, `transferStock_eq_error`: a call that throws leaves
  the store as it was.
-/

namespace SuuqBackend

open Proc

namespace InventoryStore

variable (s : InventoryStore)

/-- What the catalogue should show for a product: the sum of what its rows have available. -/
def available (p : ℕ) : ℤ := s.productTotal p fun r => max 0 r.availableToSell

/-- The effect of `syncProductStockQuantity`. -/
def syncProduct (p : ℕ) : InventoryStore :=
  if (s.rowsOfProduct p).card = 0 then s else s.setStockQuantity p (s.available p)

variable (p : ℕ) (k : InventoryKey)

@[simp] theorem inventory_syncProduct : (s.syncProduct p).inventory = s.inventory := by
  unfold syncProduct
  split_ifs <;> simp

@[simp] theorem branches_syncProduct : (s.syncProduct p).branches = s.branches := by
  unfold syncProduct
  split_ifs <;> simp

@[simp] theorem movements_syncProduct : (s.syncProduct p).movements = s.movements := by
  unfold syncProduct
  split_ifs <;> simp

@[simp] theorem row_syncProduct : (s.syncProduct p).row k = s.row k := by
  rw [row, row, inventory_syncProduct]

theorem mem_products_syncProduct (q : ℕ) : q ∈ (s.syncProduct p).products ↔ q ∈ s.products := by
  unfold syncProduct
  split_ifs
  · rfl
  · exact mem_products_setStockQuantity ..

variable {s} in
theorem syncProduct_of_hasRows {p : ℕ} (h : s.HasRows p) : s.syncProduct p = s.setStockQuantity p (s.available p) := by
  rw [syncProduct, if_neg fun h0 => (card_rowsOfProduct_eq_zero s p).mp h0 h]

@[simp] theorem known_putRow (k' : InventoryKey) (r : BranchInventory) : (s.putRow k r).Known k' ↔ s.Known k' := Iff.rfl

@[simp] theorem known_syncProduct : (s.syncProduct p).Known k ↔ s.Known k := by
  rw [Known, Known, branches_syncProduct, mem_products_syncProduct]

end InventoryStore

namespace InventoryLedger

open InventoryRepository InventoryStore

/-! ### The rows that the operations write -/

def movedRow (now : Date) (p : RecordMovementParams) (r : BranchInventory) : BranchInventory :=
  applyAvailabilityProjection (applyMovement now p r)

def adjustedRow (bucket : ProjectionBucket) (d : ℤ) (r : BranchInventory) : BranchInventory :=
  let row := bucket.set r (bucket.get r + d)
  applyAvailabilityProjection { row with version := row.version + 1 }

/-- The row that a stock transfer takes from. -/
def debitedRow (q : ℤ) (r : BranchInventory) : BranchInventory :=
  applyAvailabilityProjection
    { r with
      quantityOnHand := r.quantityOnHand - q
      outboundTransfers := max (r.outboundTransfers + q - q) 0
      version := r.version + 1 }

def creditedRow (q : ℤ) (r : BranchInventory) : BranchInventory :=
  applyAvailabilityProjection { r with quantityOnHand := r.quantityOnHand + q, version := r.version + 1 }

def recorded (now : Date) (p : RecordMovementParams) (s : InventoryStore) : InventoryStore :=
  ((s.putRow p.key (movedRow now p (s.row p.key))).addMovement p.movement).syncProduct p.productId

def adjusted (bucket : ProjectionBucket) (p : AdjustProjectionParams) (s : InventoryStore) : InventoryStore :=
  (s.putRow p.key (adjustedRow bucket p.quantityDelta (s.row p.key))).syncProduct p.productId

def transferred (p : TransferMovementParams) (s : InventoryStore) : InventoryStore :=
  let debitKey : InventoryKey := ⟨p.fromBranchId, p.productId⟩
  let creditKey : InventoryKey := ⟨p.toBranchId, p.productId⟩
  (((((s.putRow debitKey (debitedRow p.quantity (s.row debitKey))).putRow creditKey
      (creditedRow p.quantity (s.row creditKey))).syncProduct p.productId).addMovement
    (transferMovement p p.fromBranchId (-p.quantity) "transfer-to" p.toBranchId)).addMovement
    (transferMovement p p.toBranchId p.quantity "transfer-from" p.fromBranchId))

/-! ### Parts -/

variable {s s' : InventoryStore} {k : InventoryKey} {e : HttpException}

/-- The entity that `loadOrCreateInventory` returns, with its columns replaced. -/
abbrev entity (s : InventoryStore) (k : InventoryKey) (r : BranchInventory) : InventoryEntity :=
  { persisted := decide (k ∈ s.inventory), row := r }

theorem run_loadOrCreateInventory (s : InventoryStore) (k : InventoryKey) :
    (loadOrCreateInventory k).run s = (.ok (entity s k (s.row k)), s) := by
  unfold loadOrCreateInventory findInventory entity
  rw [run_read_bind]
  cases h : s.inventory.lookup k with
  | none =>
    have hmem : k ∉ s.inventory := Finmap.lookup_eq_none.mp h
    rw [row_of_notMem hmem, decide_eq_false hmem]
    rfl
  | some r =>
    rw [row_of_lookup h, decide_eq_true (Finmap.mem_of_lookup_eq_some h)]
    rfl

theorem saveError_entity (h : s.Known k) (r : BranchInventory) : saveError k (entity s k r) s = none := by
  unfold saveError entity
  by_cases hk : k ∈ s.inventory
  · simp [hk]
  · simp [hk, h]

theorem run_saveInventory_of_eq_none {en : InventoryEntity} (h : saveError k en s = none) :
    (saveInventory k en).run s = (.ok { en with persisted := true }, s.putRow k en.row) := by
  unfold saveInventory
  rw [run_step, h]
  rfl

theorem run_saveInventory_of_eq_some {en : InventoryEntity} (h : saveError k en s = some e) :
    (saveInventory k en).run s = (.error e, s) := by
  unfold saveInventory
  rw [run_step, h]
  rfl

theorem run_saveInventory (h : s.Known k) (r : BranchInventory) :
    (saveInventory k (entity s k r)).run s = (.ok ⟨true, r⟩, s.putRow k r) :=
  run_saveInventory_of_eq_none (saveError_entity h r)

theorem run_saveInventory_persisted (s : InventoryStore) (k : InventoryKey) (r : BranchInventory) :
    (saveInventory k ⟨true, r⟩).run s = (.ok ⟨true, r⟩, s.putRow k r) :=
  run_saveInventory_of_eq_none rfl

theorem run_syncProductStockQuantity (s : InventoryStore) (p : ℕ) :
    (syncProductStockQuantity p).run s = (.ok (), s.syncProduct p) := by
  unfold syncProductStockQuantity findRowsOfProduct syncProduct
  rw [run_read_bind]
  split_ifs <;> rfl

variable {b p : ℕ}

theorem run_ensureBranchAndProduct (h : s.Known ⟨b, p⟩) :
    (ensureBranchAndProduct b p).run s = (.ok (), s) := by
  obtain ⟨hb, hp⟩ := h
  have hb : (s.branches.lookup b).isNone = false := by
    rw [← Option.not_isSome, Finmap.lookup_isSome.mpr hb, Bool.not_true]
  have hp : (s.products.lookup p).isNone = false := by
    rw [← Option.not_isSome, Finmap.lookup_isSome.mpr hp, Bool.not_true]
  unfold ensureBranchAndProduct findBranch findProduct
  simp only [run_read_bind, run_throwIf_bind, run_throwIf, hb, hp, Bool.false_eq_true, if_false]

theorem run_ensureBranchAndProduct_of_not (h : ¬ s.Known ⟨b, p⟩) :
    ∃ e : HttpException, e.IsNotFound ∧ (ensureBranchAndProduct b p).run s = (.error e, s) := by
  unfold ensureBranchAndProduct findBranch findProduct
  cases hb : s.branches.lookup b with
  | none => exact ⟨.branchNotFound b, trivial, by simp [hb]⟩
  | some branch =>
    cases hp : s.products.lookup p with
    | none => exact ⟨.productNotFound p, trivial, by simp [hb, hp]⟩
    | some product =>
      exact absurd ⟨Finmap.mem_of_lookup_eq_some hb, Finmap.mem_of_lookup_eq_some hp⟩ h

theorem ensureBranchAndProduct_eq_ok (h : (ensureBranchAndProduct b p).run s = (.ok (), s')) :
    s.Known ⟨b, p⟩ ∧ s' = s := by
  by_cases hk : s.Known ⟨b, p⟩
  · rw [run_ensureBranchAndProduct hk] at h
    cases h
    exact ⟨hk, rfl⟩
  · obtain ⟨e, -, hrun⟩ := run_ensureBranchAndProduct_of_not hk
    rw [hrun] at h
    cases h

theorem ensureBranchAndProduct_eq_error
    (h : (ensureBranchAndProduct b p).run s = (.error e, s')) : s' = s := by
  by_cases hk : s.Known ⟨b, p⟩
  · rw [run_ensureBranchAndProduct hk] at h
    cases h
  · obtain ⟨e', -, hrun⟩ := run_ensureBranchAndProduct_of_not hk
    rw [hrun] at h
    cases h
    rfl

theorem run_recordMovementWithManager {p : RecordMovementParams} (h : s.Known p.key) (now : Date) :
    (recordMovementWithManager now p).run s =
      if (s.row p.key).quantityOnHand + p.quantityDelta < 0 then
        (.error (onHandNegative p.branchId p.productId), s)
      else (.ok ⟨movedRow now p (s.row p.key), p.movement⟩, recorded now p s) := by
  unfold recordMovementWithManager
  rw [run_bind_of_ok (run_loadOrCreateInventory s p.key)]
  simp only [run_throwIf_bind]
  split_ifs with hneg
  · rfl
  · rw [run_bind_of_ok (run_saveInventory h _), saveMovement, run_write_bind,
      run_bind_of_ok (run_syncProductStockQuantity _ _)]
    rfl

theorem run_adjustProjectionBucket {p : AdjustProjectionParams} (h : s.Known p.key) (bucket : ProjectionBucket) :
    (adjustProjectionBucket bucket p).run s =
      if bucket.get (s.row p.key) + p.quantityDelta < 0 then
        (.error (bucketNegative bucket.name p.branchId p.productId), s)
      else (.ok (adjustedRow bucket p.quantityDelta (s.row p.key)), adjusted bucket p s) := by
  unfold adjustProjectionBucket
  rw [run_bind_of_ok (run_loadOrCreateInventory s p.key)]
  simp only [run_throwIf_bind]
  split_ifs with hneg
  · rfl
  · rw [run_bind_of_ok (run_saveInventory h _), run_bind_of_ok (run_syncProductStockQuantity _ _)]
    rfl

theorem run_saveInventory_putRow_of_ne {k k' : InventoryKey} (hne : k' ≠ k) (h : s.Known k') (r r' : BranchInventory) :
    (saveInventory k' (entity s k' r')).run (s.putRow k r) = (.ok ⟨true, r'⟩, (s.putRow k r).putRow k' r') := by
  have hentity : entity s k' r' = entity (s.putRow k r) k' r' := by
    simp [entity, Finmap.mem_insert, hne]
  rw [hentity]
  exact run_saveInventory ((known_putRow s k k' r).mpr h) r'

/-- `transferStockWithManager` refuses to take more than there is and otherwise moves the quantity. -/
theorem run_transferStockWithManager {p : TransferMovementParams}
    (hfrom : s.Known ⟨p.fromBranchId, p.productId⟩) (hto : s.Known ⟨p.toBranchId, p.productId⟩)
    (hne : p.fromBranchId ≠ p.toBranchId) :
    (transferStockWithManager p).run s =
      if (s.row ⟨p.fromBranchId, p.productId⟩).quantityOnHand < p.quantity then
        (.error (notEnoughStock p.fromBranchId p.quantity p.productId), s) else (.ok (), transferred p s) := by
  have hkey : (⟨p.toBranchId, p.productId⟩ : InventoryKey) ≠ ⟨p.fromBranchId, p.productId⟩ :=
    fun h => hne (congrArg InventoryKey.branchId h).symm
  unfold transferStockWithManager
  rw [run_bind_of_ok (run_loadOrCreateInventory s _), run_bind_of_ok (run_loadOrCreateInventory s _)]
  simp only [run_throwIf_bind]
  split_ifs with hless
  · rfl
  · rw [run_bind_of_ok (run_saveInventory hfrom _),
      run_bind_of_ok (run_saveInventory_persisted _ _ _), putRow_putRow,
      run_bind_of_ok (run_saveInventory_putRow_of_ne hkey hto _ _),
      run_bind_of_ok (run_syncProductStockQuantity _ _)]
    rfl

/-! ### Movements -/

variable {p : RecordMovementParams} {now : Date} {manager : Bool}

theorem run_recordNothing (s : InventoryStore) (p : RecordMovementParams) :
    (recordNothing p).run s =
      if p.key ∈ s.inventory then (.ok ⟨s.row p.key, p.movement⟩, s)
      else if s.Known p.key then (.ok ⟨.zero, p.movement⟩, s.putRow p.key .zero)
      else (.error (.queryFailed "insert or update on table violates foreign key constraint"), s) := by
  unfold recordNothing
  rw [run_bind_of_ok (run_loadOrCreateInventory s p.key)]
  by_cases hmem : p.key ∈ s.inventory
  · simp [hmem]
  · simp only [hmem, decide_false, if_false, Bool.false_eq_true, row_of_notMem hmem]
    by_cases hknown : s.Known p.key
    · have hsave : saveError p.key ⟨false, applyAvailabilityProjection .zero⟩ s = none := by
        simp [saveError, hmem, hknown]
      rw [if_pos hknown, run_bind_of_ok (run_saveInventory_of_eq_none hsave)]
      rfl
    · have hsave : saveError p.key ⟨false, applyAvailabilityProjection .zero⟩ s =
          some (.queryFailed "insert or update on table violates foreign key constraint") := by
        simp [saveError, hmem, hknown]
      rw [if_neg hknown, run_bind_of_error (run_saveInventory_of_eq_some hsave)]

theorem run_recordMovement (hd : p.quantityDelta ≠ 0) (hk : s.Known p.key) (now : Date) (manager : Bool) :
    (recordMovement now p manager).run s =
      if (s.row p.key).quantityOnHand + p.quantityDelta < 0 then
        (.error (onHandNegative p.branchId p.productId), s)
      else (.ok ⟨movedRow now p (s.row p.key), p.movement⟩, recorded now p s) := by
  unfold recordMovement
  rw [if_neg hd, run_bind_of_ok (run_ensureBranchAndProduct hk)]
  cases manager with
  | true => exact run_recordMovementWithManager hk now
  | false =>
    simp only [Bool.false_eq_true, if_false]
    rw [run_transaction, run_recordMovementWithManager hk now]
    split_ifs <;> rfl

theorem run_recordMovement_of_not_known (hd : p.quantityDelta ≠ 0) (hk : ¬ s.Known p.key)
    (now : Date) (manager : Bool) :
    ∃ e : HttpException, e.IsNotFound ∧ (recordMovement now p manager).run s = (.error e, s) := by
  obtain ⟨e, hnotFound, hrun⟩ := run_ensureBranchAndProduct_of_not hk
  refine ⟨e, hnotFound, ?_⟩
  unfold recordMovement
  rw [if_neg hd, run_bind_of_error hrun]

/-- What a successful movement did: a movement of nothing may have created the row, any other one
did not overdraw and is recorded. -/
theorem recordMovement_eq_ok {a : MovementResult} (h : (recordMovement now p manager).run s = (.ok a, s')) :
    (p.quantityDelta = 0 ∧ p.key ∈ s.inventory ∧ s' = s) ∨
    (p.quantityDelta = 0 ∧ p.key ∉ s.inventory ∧ s.Known p.key ∧ s' = s.putRow p.key .zero) ∨
    (p.quantityDelta ≠ 0 ∧ s.Known p.key ∧ 0 ≤ (s.row p.key).quantityOnHand + p.quantityDelta ∧
      s' = recorded now p s) := by
  by_cases hd : p.quantityDelta = 0
  · rw [recordMovement, if_pos hd, run_recordNothing] at h
    split_ifs at h with hmem hknown
    · cases h
      exact .inl ⟨hd, hmem, rfl⟩
    · cases h
      exact .inr (.inl ⟨hd, hmem, hknown, rfl⟩)
    · cases h
  · refine .inr (.inr ?_)
    by_cases hk : s.Known p.key
    · rw [run_recordMovement hd hk] at h
      split_ifs at h with hneg
      · cases h
      · cases h
        exact ⟨hd, hk, not_lt.mp hneg, rfl⟩
    · obtain ⟨e, -, hrun⟩ := run_recordMovement_of_not_known hd hk now manager
      rw [hrun] at h
      cases h

theorem recordMovement_eq_error (h : (recordMovement now p manager).run s = (.error e, s')) : s' = s := by
  by_cases hd : p.quantityDelta = 0
  · rw [recordMovement, if_pos hd, run_recordNothing] at h
    split_ifs at h <;> cases h
    rfl
  · by_cases hk : s.Known p.key
    · rw [run_recordMovement hd hk] at h
      split_ifs at h <;> cases h
      rfl
    · obtain ⟨e', -, hrun⟩ := run_recordMovement_of_not_known hd hk now manager
      rw [hrun] at h
      cases h
      rfl

/-! ### Projections -/

/-- The three adjustments are one operation, at their bucket. -/
def adjust (bucket : ProjectionBucket) (p : AdjustProjectionParams) : InventoryProc BranchInventory := do
  ensureBranchAndProduct p.branchId p.productId
  adjustProjectionBucket bucket p

variable {bucket : ProjectionBucket} {ap : AdjustProjectionParams}

theorem run_adjust (hk : s.Known ap.key) (bucket : ProjectionBucket) :
    (adjust bucket ap).run s =
      if bucket.get (s.row ap.key) + ap.quantityDelta < 0 then
        (.error (bucketNegative bucket.name ap.branchId ap.productId), s)
      else (.ok (adjustedRow bucket ap.quantityDelta (s.row ap.key)), adjusted bucket ap s) := by
  unfold adjust
  rw [run_bind_of_ok (run_ensureBranchAndProduct hk)]
  exact run_adjustProjectionBucket hk bucket

theorem run_adjust_of_not_known (hk : ¬ s.Known ap.key) (bucket : ProjectionBucket) :
    ∃ e : HttpException, e.IsNotFound ∧ (adjust bucket ap).run s = (.error e, s) := by
  obtain ⟨e, hnotFound, hrun⟩ := run_ensureBranchAndProduct_of_not hk
  exact ⟨e, hnotFound, run_bind_of_error hrun _⟩

theorem adjust_eq_ok {r : BranchInventory} (h : (adjust bucket ap).run s = (.ok r, s')) :
    s.Known ap.key ∧ 0 ≤ bucket.get (s.row ap.key) + ap.quantityDelta ∧
      r = adjustedRow bucket ap.quantityDelta (s.row ap.key) ∧ s' = adjusted bucket ap s := by
  by_cases hk : s.Known ap.key
  · rw [run_adjust hk] at h
    split_ifs at h with hneg
    · cases h
    · cases h
      exact ⟨hk, not_lt.mp hneg, rfl, rfl⟩
  · obtain ⟨e, -, hrun⟩ := run_adjust_of_not_known hk bucket
    rw [hrun] at h
    cases h

theorem adjust_eq_error (h : (adjust bucket ap).run s = (.error e, s')) : s' = s := by
  by_cases hk : s.Known ap.key
  · rw [run_adjust hk] at h
    split_ifs at h <;> cases h
    rfl
  · obtain ⟨e', -, hrun⟩ := run_adjust_of_not_known hk bucket
    rw [hrun] at h
    cases h
    rfl

theorem adjust_isNotFound (h : (adjust bucket ap).run s = (.error e, s'))
    (hstock : 0 ≤ bucket.get (s.row ap.key) + ap.quantityDelta) : e.IsNotFound := by
  by_cases hk : s.Known ap.key
  · rw [run_adjust hk, if_neg (not_lt.mpr hstock)] at h
    cases h
  · obtain ⟨e', hnotFound, hrun⟩ := run_adjust_of_not_known hk bucket
    rw [hrun] at h
    cases h
    exact hnotFound

/-! ### Stock transfers -/

variable {tp : TransferMovementParams}

theorem transferStock_eq_ok (h : (transferStock tp).run s = (.ok (), s')) :
    0 < tp.quantity ∧ tp.fromBranchId ≠ tp.toBranchId ∧
      s.Known ⟨tp.fromBranchId, tp.productId⟩ ∧ s.Known ⟨tp.toBranchId, tp.productId⟩ ∧
      tp.quantity ≤ (s.row ⟨tp.fromBranchId, tp.productId⟩).quantityOnHand ∧ s' = transferred tp s := by
  unfold transferStock at h
  simp only [run_throwIf_bind] at h
  split_ifs at h with hq hne
  · cases h
  · cases h
  · obtain ⟨_, s₁, hfromRun, hrest⟩ := run_bind_eq_ok.mp h
    obtain ⟨hfrom, rfl⟩ := ensureBranchAndProduct_eq_ok hfromRun
    obtain ⟨_, s₂, htoRun, hmove⟩ := run_bind_eq_ok.mp hrest
    obtain ⟨hto, rfl⟩ := ensureBranchAndProduct_eq_ok htoRun
    rw [run_transaction_eq_ok, run_transferStockWithManager hfrom hto hne] at hmove
    split_ifs at hmove with hless
    · cases hmove
    · cases hmove
      exact ⟨not_le.mp hq, hne, hfrom, hto, not_lt.mp hless, rfl⟩

theorem transferStock_eq_error (h : (transferStock tp).run s = (.error e, s')) : s' = s := by
  unfold transferStock at h
  simp only [run_throwIf_bind] at h
  split_ifs at h with hq hne
  · cases h
    rfl
  · cases h
    rfl
  · rcases run_bind_eq_error.mp h with hfromRun | ⟨_, s₁, hfromRun, hrest⟩
    · exact ensureBranchAndProduct_eq_error hfromRun
    · obtain ⟨-, rfl⟩ := ensureBranchAndProduct_eq_ok hfromRun
      rcases run_bind_eq_error.mp hrest with htoRun | ⟨_, s₂, htoRun, hmove⟩
      · exact ensureBranchAndProduct_eq_error htoRun
      · obtain ⟨-, rfl⟩ := ensureBranchAndProduct_eq_ok htoRun
        exact eq_of_run_transaction_eq_error hmove

end InventoryLedger

end SuuqBackend
