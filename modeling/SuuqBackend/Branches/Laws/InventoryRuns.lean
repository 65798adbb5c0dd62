import SuuqBackend.Branches.Laws.InventoryLedger
import SuuqBackend.Lib.Book

/-!
# The rows that the ledger writes

`BranchInventory.Valid` is the invariant of a row: no quantity is negative and what is available to
sell is the projection of the others.  Every row that an operation writes is valid when the row it
read was (`valid_movedRow`, `valid_adjustedRow`, `valid_debitedRow`, `valid_creditedRow`), and
`row_recorded`, `row_adjusted`, `row_transferred` say which rows an operation writes.
-/

namespace SuuqBackend

open InventoryLedger InventoryStore

/-! ### Valid rows -/

/-- A row whose quantities are not negative and whose availability is the projection. -/
structure BranchInventory.Valid (r : BranchInventory) : Prop where
  quantityOnHand_nonneg : 0 ≤ r.quantityOnHand
  reservedQuantity_nonneg : 0 ≤ r.reservedQuantity
  reservedOnline_nonneg : 0 ≤ r.reservedOnline
  reservedStoreOps_nonneg : 0 ≤ r.reservedStoreOps
  inboundOpenPo_nonneg : 0 ≤ r.inboundOpenPo
  outboundTransfers_nonneg : 0 ≤ r.outboundTransfers
  safetyStock_nonneg : 0 ≤ r.safetyStock
  availableToSell_eq : r.availableToSell =
    max 0 (r.quantityOnHand - r.reservedQuantity - r.reservedOnline - r.reservedStoreOps
      - r.outboundTransfers - r.safetyStock)

theorem BranchInventory.valid_zero : BranchInventory.zero.Valid := by
  constructor <;> decide

theorem valid_applyAvailabilityProjection {r : BranchInventory} (honHand : 0 ≤ r.quantityOnHand)
    (hreserved : 0 ≤ r.reservedQuantity) (honline : 0 ≤ r.reservedOnline)
    (hstoreOps : 0 ≤ r.reservedStoreOps) (hinbound : 0 ≤ r.inboundOpenPo)
    (houtbound : 0 ≤ r.outboundTransfers) (hsafety : 0 ≤ r.safetyStock) : (applyAvailabilityProjection r).Valid :=
  ⟨honHand, hreserved, honline, hstoreOps, hinbound, houtbound, hsafety, max_comm _ _⟩

variable (now : Date) (p : RecordMovementParams) (r : BranchInventory) (bucket : ProjectionBucket)

theorem movedRow_buckets : (movedRow now p r).quantityOnHand = r.quantityOnHand + p.quantityDelta ∧
    (movedRow now p r).reservedQuantity = r.reservedQuantity ∧
    (movedRow now p r).reservedOnline = r.reservedOnline ∧
    (movedRow now p r).reservedStoreOps = r.reservedStoreOps ∧
    (movedRow now p r).inboundOpenPo = r.inboundOpenPo ∧
    (movedRow now p r).outboundTransfers = r.outboundTransfers ∧ (movedRow now p r).safetyStock = r.safetyStock := by
  unfold movedRow applyMovement applyAvailabilityProjection
  split_ifs <;> exact ⟨rfl, rfl, rfl, rfl, rfl, rfl, rfl⟩

theorem valid_movedRow {r : BranchInventory} (h : r.Valid) {p : RecordMovementParams}
    (hneg : 0 ≤ r.quantityOnHand + p.quantityDelta) (now : Date) : (movedRow now p r).Valid := by
  obtain ⟨honHand, hreserved, honline, hstoreOps, hinbound, houtbound, hsafety⟩ :=
    movedRow_buckets now p r
  refine valid_applyAvailabilityProjection ?_ ?_ ?_ ?_ ?_ ?_ ?_
  · exact hneg.trans_eq honHand.symm
  · exact h.reservedQuantity_nonneg.trans_eq hreserved.symm
  · exact h.reservedOnline_nonneg.trans_eq honline.symm
  · exact h.reservedStoreOps_nonneg.trans_eq hstoreOps.symm
  · exact h.inboundOpenPo_nonneg.trans_eq hinbound.symm
  · exact h.outboundTransfers_nonneg.trans_eq houtbound.symm
  · exact h.safetyStock_nonneg.trans_eq hsafety.symm

theorem quantityOnHand_movedRow : (movedRow now p r).quantityOnHand = r.quantityOnHand + p.quantityDelta :=
  (movedRow_buckets now p r).1

theorem outboundTransfers_movedRow : (movedRow now p r).outboundTransfers = r.outboundTransfers :=
  (movedRow_buckets now p r).2.2.2.2.2.1

@[simp] theorem quantityOnHand_adjustedRow (d : ℤ) (r : BranchInventory) :
    (adjustedRow bucket d r).quantityOnHand = r.quantityOnHand := by
  cases bucket <;> rfl

/-- An adjustment of the outbound bucket adds its amount; one of another bucket leaves it alone. -/
theorem outboundTransfers_adjustedRow (d : ℤ) (r : BranchInventory) :
    (adjustedRow bucket d r).outboundTransfers =
      r.outboundTransfers + if bucket = .outboundTransfers then d else 0 := by
  cases bucket
  · exact (add_zero _).symm
  · exact (add_zero _).symm
  · rfl

theorem valid_adjustedRow {r : BranchInventory} (h : r.Valid) {bucket : ProjectionBucket} {d : ℤ}
    (hneg : 0 ≤ bucket.get r + d) : (adjustedRow bucket d r).Valid := by
  obtain ⟨h1, h2, h3, h4, h5, h6, h7, -⟩ := h
  cases bucket with
  | inboundOpenPo => exact valid_applyAvailabilityProjection h1 h2 h3 h4 hneg h6 h7
  | reservedOnline => exact valid_applyAvailabilityProjection h1 h2 hneg h4 h5 h6 h7
  | outboundTransfers => exact valid_applyAvailabilityProjection h1 h2 h3 h4 h5 hneg h7

theorem valid_debitedRow {r : BranchInventory} (h : r.Valid) {q : ℤ} (hq : q ≤ r.quantityOnHand) :
    (debitedRow q r).Valid := by
  obtain ⟨h1, h2, h3, h4, h5, h6, h7, -⟩ := h
  exact valid_applyAvailabilityProjection (sub_nonneg.mpr hq) h2 h3 h4 h5 (le_max_right _ _) h7

theorem valid_creditedRow {r : BranchInventory} (h : r.Valid) {q : ℤ} (hq : 0 ≤ q) : (creditedRow q r).Valid := by
  obtain ⟨h1, h2, h3, h4, h5, h6, h7, -⟩ := h
  exact valid_applyAvailabilityProjection (add_nonneg h1 hq) h2 h3 h4 h5 h6 h7

theorem outboundTransfers_debitedRow {r : BranchInventory} (h : 0 ≤ r.outboundTransfers) (q : ℤ) :
    (debitedRow q r).outboundTransfers = r.outboundTransfers := by
  show max (r.outboundTransfers + q - q) 0 = r.outboundTransfers
  rw [add_sub_cancel_right, max_eq_left h]

/-! ### Rows after an operation -/

section RowsAfter

variable (s : InventoryStore) (k : InventoryKey)

theorem row_recorded (now : Date) (p : RecordMovementParams) :
    (recorded now p s).row k = if k = p.key then movedRow now p (s.row p.key) else s.row k := by
  unfold recorded
  rw [row_syncProduct, row_addMovement]
  split_ifs with h
  · rw [h, row_putRow_self]
  · exact row_putRow_of_ne _ _ h

theorem row_adjusted (bucket : ProjectionBucket) (p : AdjustProjectionParams) :
    (adjusted bucket p s).row k = if k = p.key then adjustedRow bucket p.quantityDelta (s.row p.key) else s.row k := by
  unfold adjusted
  rw [row_syncProduct]
  split_ifs with h
  · rw [h, row_putRow_self]
  · exact row_putRow_of_ne _ _ h

variable {k} in
theorem row_putRow_zero (h : k ∉ s.inventory) (k' : InventoryKey) : (s.putRow k .zero).row k' = s.row k' := by
  by_cases hk : k' = k
  · rw [hk, row_putRow_self, row_of_notMem h]
  · exact row_putRow_of_ne _ _ hk

theorem row_transferred (p : TransferMovementParams) :
    (transferred p s).row k =
      if k = ⟨p.toBranchId, p.productId⟩ then creditedRow p.quantity (s.row ⟨p.toBranchId, p.productId⟩)
      else if k = ⟨p.fromBranchId, p.productId⟩ then
        debitedRow p.quantity (s.row ⟨p.fromBranchId, p.productId⟩) else s.row k := by
  unfold transferred
  rw [row_addMovement, row_addMovement, row_syncProduct]
  split_ifs with hto hfrom
  · rw [hto, row_putRow_self]
  · rw [row_putRow_of_ne _ _ hto, hfrom, row_putRow_self]
  · rw [row_putRow_of_ne _ _ hto, row_putRow_of_ne _ _ hfrom]

end RowsAfter

/-!
## Runs of ledger calls

Calls of the ledger executed one after another, each succeeding or throwing.  `LedgerChange s s'`
lists what one call can do to the store; each invariant is a case analysis over it.

* `LedgerCall.change`: every call is a `LedgerChange`.
* `LedgerChange.posts`: on hand quantities and movements behave as a `Book` does under postings that
  do not overdraw, so every quantity on hand is the sum of its movements.
* `ledger_runs`: what holds of every row after every run, and what a stock transfer conserves.
-/

open Proc

inductive LedgerChange (s : InventoryStore) : InventoryStore → Prop where
  | nothing : LedgerChange s s
  | create {k : InventoryKey} : k ∉ s.inventory → s.Known k → LedgerChange s (s.putRow k .zero)
  | move (now : Date) (p : RecordMovementParams) : s.Known p.key →
      0 ≤ (s.row p.key).quantityOnHand + p.quantityDelta → LedgerChange s (recorded now p s)
  | adjust (bucket : ProjectionBucket) (p : AdjustProjectionParams) : s.Known p.key →
      0 ≤ bucket.get (s.row p.key) + p.quantityDelta → LedgerChange s (adjusted bucket p s)
  | transfer (p : TransferMovementParams) : 0 < p.quantity → p.fromBranchId ≠ p.toBranchId →
      p.quantity ≤ (s.row ⟨p.fromBranchId, p.productId⟩).quantityOnHand →
      LedgerChange s (transferred p s)

variable {s s' : InventoryStore}

theorem adjust_change (bucket : ProjectionBucket) {p : AdjustProjectionParams}
    {o : Except HttpException BranchInventory}
    (h : (adjust bucket p).run s = (o, s')) : LedgerChange s s' := by
  cases o with
  | ok r =>
    obtain ⟨hk, hneg, -, rfl⟩ := adjust_eq_ok h
    exact .adjust bucket p hk hneg
  | error e =>
    rw [adjust_eq_error h]
    exact .nothing

theorem recordMovement_change {now : Date} {p : RecordMovementParams} {manager : Bool}
    {o : Except HttpException MovementResult}
    (h : (recordMovement now p manager).run s = (o, s')) : LedgerChange s s' := by
  cases o with
  | ok r =>
    rcases recordMovement_eq_ok h with ⟨-, -, rfl⟩ | ⟨-, hmem, hk, rfl⟩ | ⟨-, hk, hneg, rfl⟩
    · exact .nothing
    · exact .create hmem hk
    · exact .move now p hk hneg
  | error e =>
    rw [recordMovement_eq_error h]
    exact .nothing

theorem transferStock_change {p : TransferMovementParams}
    {o : Except HttpException Unit} (h : (transferStock p).run s = (o, s')) : LedgerChange s s' := by
  cases o with
  | ok r =>
    obtain ⟨hq, hne, -, -, hle, rfl⟩ := transferStock_eq_ok h
    exact .transfer p hq hne hle
  | error e =>
    rw [transferStock_eq_error h]
    exact .nothing

theorem run_discard {α : Type} (p : InventoryProc α) (s : InventoryStore) :
    (p >>= fun _ => pure ()).run s = ((p.run s).1.map fun _ => (), (p.run s).2) := by
  rw [run_bind]
  rcases p.run s with ⟨e | a, s'⟩ <;> rfl

theorem LedgerCall.change (s : InventoryStore) (c : LedgerCall) : LedgerChange s (c.step s) := by
  unfold LedgerCall.step
  cases c with
  | recordMovement now p manager =>
    rw [LedgerCall.handler, run_discard]
    exact recordMovement_change rfl
  | transferStock p => exact transferStock_change rfl
  | adjustInboundOpenPo p =>
    rw [LedgerCall.handler, run_discard]
    exact adjust_change .inboundOpenPo rfl
  | adjustReservedOnline p =>
    rw [LedgerCall.handler, run_discard]
    exact adjust_change .reservedOnline rfl
  | adjustOutboundTransfers p =>
    rw [LedgerCall.handler, run_discard]
    exact adjust_change .outboundTransfers rfl

/-! ### Rows -/

theorem LedgerChange.valid (h : LedgerChange s s')
    (hs : ∀ k, (s.row k).Valid) (k : InventoryKey) : (s'.row k).Valid := by
  cases h with
  | nothing => exact hs k
  | create hmem _ =>
    rw [row_putRow_zero s hmem]
    exact hs k
  | move now p _ hneg =>
    rw [row_recorded]
    split_ifs
    · exact valid_movedRow (hs _) hneg now
    · exact hs k
  | adjust bucket p _ hneg =>
    rw [row_adjusted]
    split_ifs
    · exact valid_adjustedRow (hs _) hneg
    · exact hs k
  | transfer p hq _ hle =>
    rw [row_transferred]
    split_ifs
    · exact valid_creditedRow (hs _) hq.le
    · exact valid_debitedRow (hs _) hle
    · exact hs k

/-! ### The ledger as a book -/

namespace InventoryStore

/-- The quantities on hand and the stored movements, as a book. -/
def book (s : InventoryStore) : Book InventoryKey where
  balance k := (s.row k).quantityOnHand
  journal := s.movements.map fun m => (m.key, m.quantityDelta)

theorem posted_book (s : InventoryStore) (k : InventoryKey) : Book.posted s.book.journal k = s.movementSum k := by
  rw [Book.posted, book, List.filter_map, List.map_map]
  rfl

theorem book_eq_post {s s' : InventoryStore} (m : StockMovement) {k : InventoryKey} {d : ℤ}
    (hkey : m.key = k) (hdelta : m.quantityDelta = d) (hself : (s'.row k).quantityOnHand = (s.row k).quantityOnHand + d)
    (hother : ∀ k', k' ≠ k → (s'.row k').quantityOnHand = (s.row k').quantityOnHand)
    (hmovements : s'.movements = s.movements ++ [m]) : s'.book = s.book.post k d := by
  refine Book.ext (funext fun k' => ?_) ?_
  · by_cases hk : k' = k
    · rw [hk, Book.balance_post_self]
      exact hself
    · rw [Book.balance_post_of_ne _ _ hk]
      exact hother k' hk
  · show s'.movements.map _ = _
    rw [hmovements, List.map_append, List.map_singleton, hkey, hdelta]
    rfl

theorem book_congr {s s' : InventoryStore} (hrow : ∀ k, (s'.row k).quantityOnHand = (s.row k).quantityOnHand)
    (hmovements : s'.movements = s.movements) : s'.book = s.book :=
  Book.ext (funext hrow) (congrArg (List.map _) hmovements)

end InventoryStore

variable (s : InventoryStore)

theorem book_recorded (now : Date) (p : RecordMovementParams) :
    (recorded now p s).book = s.book.post p.key p.quantityDelta := by
  refine book_eq_post p.movement rfl rfl ?_ (fun k hk => ?_) ?_
  · rw [row_recorded, if_pos rfl, quantityOnHand_movedRow]
  · rw [row_recorded, if_neg hk]
  · exact movements_syncProduct ..

theorem book_adjusted (bucket : ProjectionBucket) (p : AdjustProjectionParams) :
    (adjusted bucket p s).book = s.book := by
  refine book_congr (fun k => ?_) (movements_syncProduct ..)
  rw [row_adjusted]
  split_ifs with hk
  · rw [quantityOnHand_adjustedRow, hk]
  · rfl

theorem book_putRow_zero {s : InventoryStore} {k : InventoryKey} (h : k ∉ s.inventory) :
    (s.putRow k .zero).book = s.book :=
  book_congr (fun k' => by rw [row_putRow_zero s h]) rfl

variable {p : TransferMovementParams}

theorem transferKeys_ne (h : p.fromBranchId ≠ p.toBranchId) :
    (⟨p.toBranchId, p.productId⟩ : InventoryKey) ≠ ⟨p.fromBranchId, p.productId⟩ :=
  fun hkey => h (congrArg InventoryKey.branchId hkey).symm

theorem book_transferred (hne : p.fromBranchId ≠ p.toBranchId) :
    (transferred p s).book = (s.book.post ⟨p.fromBranchId, p.productId⟩ (-p.quantity)).post
      ⟨p.toBranchId, p.productId⟩ p.quantity := by
  have hkey := transferKeys_ne hne
  let debit : StockMovement :=
    transferMovement p p.fromBranchId (-p.quantity) "transfer-to" p.toBranchId
  let debited : InventoryStore := (s.putRow ⟨p.fromBranchId, p.productId⟩
    (debitedRow p.quantity (s.row ⟨p.fromBranchId, p.productId⟩))).addMovement debit
  have hself : debited.row ⟨p.fromBranchId, p.productId⟩ =
      debitedRow p.quantity (s.row ⟨p.fromBranchId, p.productId⟩) := row_putRow_self ..
  have hother : ∀ k, k ≠ ⟨p.fromBranchId, p.productId⟩ → debited.row k = s.row k :=
    fun k hk => row_putRow_of_ne _ _ hk
  have hdebit : debited.book = s.book.post ⟨p.fromBranchId, p.productId⟩ (-p.quantity) := by
    refine book_eq_post debit rfl rfl ?_ (fun k hk => ?_) rfl
    · rw [hself]
      rfl
    · rw [hother k hk]
  rw [← hdebit]
  refine book_eq_post (transferMovement p p.toBranchId p.quantity "transfer-from" p.fromBranchId)
    rfl rfl ?_ (fun k hk => ?_) ?_
  · rw [row_transferred, if_pos rfl, hother _ hkey]
    rfl
  · rw [row_transferred, if_neg hk]
    split_ifs with hfrom
    · rw [hfrom, hself]
    · rw [hother k hfrom]
  · unfold transferred
    rw [movements_addMovement, movements_addMovement, movements_syncProduct]
    rfl

theorem LedgerChange.posts (h : LedgerChange s s') : Book.Posts s.book s'.book := by
  cases h with
  | nothing => exact .none
  | create hmem _ =>
    rw [book_putRow_zero hmem]
    exact .none
  | move now p _ hneg =>
    rw [book_recorded]
    exact .single hneg
  | adjust bucket p _ _ =>
    rw [book_adjusted]
    exact .none
  | transfer p hq hne hle =>
    rw [book_transferred s hne]
    exact .transfer hle hq.le

/-! ### Totals of a product -/

theorem productTotal_transferred (hne : p.fromBranchId ≠ p.toBranchId) (q : ℕ) :
    (transferred p s).productTotal q (·.quantityOnHand) = s.productTotal q (·.quantityOnHand) := by
  have hinventory : (transferred p s).inventory =
      ((s.putRow ⟨p.fromBranchId, p.productId⟩
        (debitedRow p.quantity (s.row ⟨p.fromBranchId, p.productId⟩))).putRow
        ⟨p.toBranchId, p.productId⟩
        (creditedRow p.quantity (s.row ⟨p.toBranchId, p.productId⟩))).inventory :=
    inventory_syncProduct ..
  rw [productTotal_congr q _ hinventory, productTotal_putRow _ _ _ _ _ rfl,
    productTotal_putRow _ _ _ _ _ rfl, row_putRow_of_ne _ _ (transferKeys_ne hne)]
  have hdebit : (debitedRow p.quantity (s.row ⟨p.fromBranchId, p.productId⟩)).quantityOnHand =
    (s.row ⟨p.fromBranchId, p.productId⟩).quantityOnHand - p.quantity := rfl
  have hcredit : (creditedRow p.quantity (s.row ⟨p.toBranchId, p.productId⟩)).quantityOnHand =
    (s.row ⟨p.toBranchId, p.productId⟩).quantityOnHand + p.quantity := rfl
  split_ifs
  · omega
  · omega

theorem outboundTransfers_transferred {s : InventoryStore} (hs : ∀ k, (s.row k).Valid)
    (p : TransferMovementParams) (k : InventoryKey) :
    ((transferred p s).row k).outboundTransfers = (s.row k).outboundTransfers := by
  rw [row_transferred]
  split_ifs with hto hfrom
  · rw [hto]
    rfl
  · rw [hfrom, outboundTransfers_debitedRow (hs _).outboundTransfers_nonneg]
  · rfl

/-! ### Every run -/

/-- A settled ledger: every row is valid and every quantity on hand is the sum of its movements. -/
def LedgerInvariant (s : InventoryStore) : Prop := (∀ k, (s.row k).Valid) ∧ s.book.Settled

theorem LedgerInvariant.step {s : InventoryStore} (h : LedgerInvariant s) (c : LedgerCall) :
    LedgerInvariant (c.step s) :=
  ⟨(LedgerCall.change s c).valid h.1, (LedgerCall.change s c).posts.settled h.2⟩

theorem ledgerInvariant_of_empty {s : InventoryStore} (hrows : s.inventory = ∅)
    (hmovements : s.movements = []) : LedgerInvariant s := by
  have hrow : ∀ k, s.row k = .zero := fun k => row_of_notMem (by rw [hrows]; exact Finmap.notMem_empty)
  refine ⟨fun k => by rw [hrow k]; exact BranchInventory.valid_zero, fun k => ?_⟩
  show 0 ≤ (s.row k).quantityOnHand ∧ (s.row k).quantityOnHand = Book.posted _ k
  rw [hrow k, posted_book, movementSum, hmovements]
  exact ⟨le_rfl, rfl⟩

/-- **The inventory ledger over whole runs.**  From a store without rows and movements, after any
calls, every row is valid and holds the sum of its movements; and a stock transfer that then succeeds
conserves the quantity on hand of every product and everything set aside for transfers. -/
theorem ledger_runs (s₀ : InventoryStore) (hrows : s₀.inventory = ∅) (hmovements : s₀.movements = [])
    (calls : List LedgerCall) :
    let s := Run.after LedgerCall.step s₀ calls
    (∀ k, (s.row k).Valid ∧ (s.row k).quantityOnHand = s.movementSum k) ∧
    ∀ p, (LedgerCall.transferStock p).Succeeds s →
      (∀ q, (LedgerCall.step s (.transferStock p)).productTotal q (·.quantityOnHand) =
        s.productTotal q (·.quantityOnHand)) ∧
      ∀ k, ((LedgerCall.step s (.transferStock p)).row k).outboundTransfers = (s.row k).outboundTransfers := by
  intro s
  have hs : LedgerInvariant s := Run.after_invariant (fun s c h => h.step c)
    (ledgerInvariant_of_empty hrows hmovements) calls
  refine ⟨fun k => ⟨hs.1 k, ?_⟩, fun p hp => ?_⟩
  · rw [← posted_book]
    exact (hs.2 k).2
  · obtain ⟨-, hne, -, -, -, hstep⟩ := transferStock_eq_ok (Prod.ext hp rfl)
    rw [show LedgerCall.step s (.transferStock p) = transferred p s from hstep]
    exact ⟨productTotal_transferred s hne, outboundTransfers_transferred hs.1 p⟩

/-- Two branches and a product that no branch has a row of; its vendor entered a stock of 30. -/
def twoBranches : InventoryStore where
  branches := ((∅ : Table ℕ Branch).insert 1 ⟨some 1⟩).insert 2 ⟨some 1⟩
  products := (∅ : Table ℕ Product).insert 7 ⟨some 30, true⟩
  inventory := ∅
  movements := []

/-- A movement of the product of `twoBranches`. -/
def sampleMovement (branchId : ℕ) (movementType : StockMovementType) (quantityDelta : ℤ) : RecordMovementParams where
  branchId
  productId := 7
  movementType
  quantityDelta
  sourceType := "SAMPLE"

/-- `twoBranches` after a receipt of ten at the first branch. -/
def tenOnHand : InventoryStore :=
  LedgerCall.step twoBranches (.recordMovement 0 (sampleMovement 1 .purchaseReceipt 10) false)

/-- A receipt of ten, after which a transfer of four succeeds. -/
theorem ledger_runs_receipt :
    let s := Run.after LedgerCall.step twoBranches
      [.recordMovement 0 (sampleMovement 1 .purchaseReceipt 10) false]
    (∀ k, (s.row k).Valid ∧ (s.row k).quantityOnHand = s.movementSum k) ∧
    (LedgerCall.transferStock ⟨1, 2, 7, 4, "SAMPLE", none, none, none⟩).Succeeds s ∧
    ∀ q, (LedgerCall.step s
        (.transferStock ⟨1, 2, 7, 4, "SAMPLE", none, none, none⟩)).productTotal q (·.quantityOnHand) =
      s.productTotal q (·.quantityOnHand) := by
  have h := ledger_runs twoBranches rfl rfl [.recordMovement 0 (sampleMovement 1 .purchaseReceipt 10) false]
  have hok : (LedgerCall.transferStock ⟨1, 2, 7, 4, "SAMPLE", none, none, none⟩).Succeeds
      (Run.after LedgerCall.step twoBranches
        [.recordMovement 0 (sampleMovement 1 .purchaseReceipt 10) false]) := by decide
  exact ⟨h.1, hok, (h.2 _ hok).1⟩

end SuuqBackend
