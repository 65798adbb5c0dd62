import Mathlib.Algebra.Order.Group.Int
import Mathlib.Algebra.Order.Pi
import SuuqBackend.Branches.Laws.TransferRuns
import SuuqBackend.Branches.Laws.PartialTransfers

/-!
# Receiving what was dispatched

Transfers and movements of other sources on the same rows, one call after another.  A dispatched
transfer can be received as long as the rows hold what is set aside (`Covered`).  Dispatch, receive
and cancel keep that (`TransferCall.covered`); a movement only has to leave something on hand, so it
keeps it when it leaves what is set aside as well (`KeepsReserved`).

* `isNotFound_of_receiveItems`, `exists_unknown_of_receiveItems`: for items in stock the loop of
  `receive` fails only when one of their branches or products is unknown.
* `receivable_runs`: every run whose movements keep what is set aside reaches only states where each
  dispatched transfer can be received.
-/

namespace SuuqBackend

open Proc InventoryLedger InventoryStore BranchTransfers

/-- Every row holds what is set aside for transfers. -/
def InventoryStore.Covered (s : InventoryStore) : Prop := ∀ k, s.outboundAt k ≤ s.onHandAt k

/-! ### What the items of a transfer add up to -/

section Quantities

variable {t : BranchTransfer} {item : BranchTransferItem}

theorem quantities_nonneg (key : BranchTransferItem → InventoryKey) (items : List BranchTransferItem) :
    ∀ d ∈ items.map fun item => atKey (key item) item.quantity, 0 ≤ d := by
  intro d hd
  obtain ⟨item, -, rfl⟩ := List.mem_map.mp hd
  exact atKey_nonneg _ (le_of_lt item.quantity_pos)

theorem outgoing_nonneg (t : BranchTransfer) : 0 ≤ t.outgoing :=
  List.sum_nonneg (quantities_nonneg (originKey t) t.items)

theorem incoming_nonneg (t : BranchTransfer) : 0 ≤ t.incoming :=
  List.sum_nonneg (quantities_nonneg (destinationKey t) t.items)

theorem quantity_le_outgoing (hitem : item ∈ t.items) : item.quantity ≤ t.outgoing (originKey t item) := by
  have hle : atKey (originKey t item) item.quantity ≤ t.outgoing :=
    List.single_le_sum (quantities_nonneg (originKey t) t.items) _ (List.mem_map_of_mem hitem)
  have hkey := hle (originKey t item)
  rwa [atKey_self] at hkey

theorem reserved_eq_outgoing (hstatus : t.status = .dispatched) : t.reserved = t.outgoing :=
  if_pos hstatus

theorem reserved_nonneg (t : BranchTransfer) (k : InventoryKey) : 0 ≤ t.reserved k := by
  unfold BranchTransfer.reserved
  split_ifs
  · exact outgoing_nonneg t k
  · exact le_rfl

end Quantities

/-! ### The loop of `receive` -/

section Receive

variable {s s' : InventoryStore} {t : BranchTransfer} {item : BranchTransferItem}
  {now : Date} {id : ℕ} {actorId : Option ℕ} {note : Option String} {e : HttpException}

def KnownItem (s : InventoryStore) (t : BranchTransfer) (item : BranchTransferItem) : Prop :=
  s.Known (originKey t item) ∧ s.Known (destinationKey t item)

theorem receivableItem_iff_known (h : ItemInStock s t item) : ReceivableItem s t item ↔ KnownItem s t item :=
  receivableItem_iff.trans (and_iff_left h)

theorem isNotFound_of_receiveItems (items : List BranchTransferItem)
    (hnodup : (items.map BranchTransferItem.productId).Nodup) {s s' : InventoryStore}
    (hstock : ∀ item ∈ items, ItemInStock s t item)
    (h : (forEach items (receiveItem now id t actorId note)).run s = (.error e, s')) : e.IsNotFound := by
  induction items generalizing s with
  | nil => cases h
  | cons item items ih =>
    rw [List.map_cons, List.nodup_cons] at hnodup
    rw [List.forall_mem_cons] at hstock
    rcases receiveItem_cases s t item now id actorId note with
      ⟨-, s₁, hround⟩ | ⟨-, e', s₁, hround, hnotFound, -⟩
    · -- the other items, of other products, are still in stock
      rw [forEach_cons, run_bind_of_ok hround] at h
      refine ih hnodup.2 (fun item' hmem => ?_) h
      have hne : item'.productId ≠ item.productId := by
        intro heq
        exact hnodup.1 (heq ▸ List.mem_map_of_mem hmem)
      exact (itemInStock_iff_of_ne hne hround).mpr (hstock.2 item' hmem)
    · rw [forEach_cons, run_bind_of_error hround] at h
      cases h
      exact hnotFound hstock.1

theorem exists_unknown_of_receiveItems (hstock : ∀ item ∈ t.items, ItemInStock s t item)
    (h : (forEach t.items (receiveItem now id t actorId note)).run s = (.error e, s')) :
    ∃ item ∈ t.items, ¬ KnownItem s t item := by
  by_contra hall
  push Not at hall
  have hreceivable : ∀ item ∈ t.items, ReceivableItem s t item :=
    fun item hmem => (receivableItem_iff_known (hstock item hmem)).mpr (hall item hmem)
  obtain ⟨s'', hok⟩ :=
    (receiveItems_ok_iff t.items t.items_nodup s t now id actorId note).mpr hreceivable
  rw [hok] at h
  cases h

end Receive

/-! ### What the calls do to a covered store -/

section Changes

variable {c : TransferCall} {S S' : TransferStore}

theorem TransferChange.rowsValid (h : TransferChange c S S') (hvalid : S.inventory.RowsValid) :
    S'.inventory.RowsValid := by
  cases h with
  | nothing => exact hvalid
  | create => exact hvalid
  | advance _ _ _ hmoves => exact hmoves.valid hvalid

theorem covered_dispatchItems {s s' : InventoryStore} {replenish : Replenishment} {t : BranchTransfer}
    (hvalid : s.RowsValid) (hcovered : s.Covered)
    (h : (forEach t.items (dispatchItem replenish t)).run s = (.ok (), s')) : s'.Covered := by
  have hloop : ∀ (items : List BranchTransferItem) (s s' : InventoryStore),
      (forEach items (dispatchItem replenish t)).run s = (.ok (), s') →
      s.RowsValid → s.Covered → s'.Covered := by
    apply forEach_induction
    · intro s _ hcovered
      exact hcovered
    · intro item items s s₁ s₂ hround hrest hvalid hcovered
      obtain ⟨havailable, hmoves⟩ := dispatchItem_eq_ok hround
      apply hrest (hmoves.valid hvalid)
      intro k
      have hk := hcovered k
      rw [hmoves.onHandAt_apply, hmoves.outboundAt_apply, atKey_apply, Pi.zero_apply]
      split_ifs with hkey
      · -- the item is available beside everything that is set aside
        have hrow := hvalid (originKey t item)
        have hreserved := hrow.reservedQuantity_nonneg
        have honline := hrow.reservedOnline_nonneg
        have hstoreOps := hrow.reservedStoreOps_nonneg
        have hsafety := hrow.safetyStock_nonneg
        unfold availableForTransfer at havailable
        subst hkey
        unfold onHandAt outboundAt at hk ⊢
        omega
      · omega
  exact hloop t.items s s' h hvalid hcovered

/-- What is set aside only gets less, and a receipt takes from a row what it releases there. -/
theorem TransferChange.covered (h : TransferChange c S S') (hc : c.target ≠ .dispatched)
    (hcovered : S.inventory.Covered) : S'.inventory.Covered := by
  intro k
  have hk := hcovered k
  cases h with
  | nothing => exact hk
  | create => exact hk
  | @advance id t t' s' movements _ hsteps htarget hmoves =>
    have hnew : t'.reserved k = 0 := by
      unfold BranchTransfer.reserved
      rw [if_neg (by rw [htarget]; exact hc)]
      rfl
    have hold := reserved_nonneg t k
    rw [hmoves.onHandAt_apply, hmoves.outboundAt_apply, Pi.sub_apply]
    unfold BranchTransfer.shipped
    split_ifs with hreceived
    · have hincoming : 0 ≤ t.incoming k := incoming_nonneg t k
      have hdispatched : t.status = .dispatched := by
        have hnext := hsteps.next
        rw [hreceived] at hnext
        exact hnext.eq_dispatched
      rw [Pi.sub_apply, ← reserved_eq_outgoing hdispatched]
      omega
    · rw [Pi.zero_apply]
      omega

theorem TransferCall.covered {S : TransferStore} (c : TransferCall) (hvalid : S.inventory.RowsValid)
    (hcovered : S.inventory.Covered) : (c.step S).inventory.Covered := by
  by_cases hc : c.target = .dispatched
  · cases c with
    | dispatch now id actorId note replenish =>
      unfold TransferCall.step
      rcases hrun : (TransferCall.dispatch now id actorId note replenish).handler.run S with
        ⟨e | a, S'⟩
      · rw [TransferCall.eq_of_run_eq_error hrun]
        exact hcovered
      · obtain ⟨t, s', -, -, -, hloop, rfl⟩ := dispatchWithin_eq_ok (run_transaction_eq_ok.mp hrun)
        exact covered_dispatchItems hvalid hcovered hloop
    | create => cases hc
    | receive => cases hc
    | cancel => cases hc
  · exact (TransferCall.change S c).covered hc hcovered

end Changes

/-! ### Transfers and movements of other sources -/

/-- A call of the transfer service, or a movement of another source. -/
inductive StockCall where
  | transfer (c : TransferCall)
  | recordMovement (now : Date) (p : RecordMovementParams) (manager : Bool)

def StockCall.step (S : TransferStore) : StockCall → TransferStore
  | transfer c => c.step S
  | recordMovement now p manager =>
    ((onInventory (InventoryLedger.recordMovement now p manager)).run S).2

/-- A movement that goes through leaves what is set aside of its row. -/
def KeepsReserved (S : TransferStore) : StockCall → Prop
  | .transfer _ => True
  | .recordMovement _ p _ =>
    S.inventory.Known p.key → 0 ≤ S.inventory.onHandAt p.key + p.quantityDelta →
      S.inventory.outboundAt p.key ≤ S.inventory.onHandAt p.key + p.quantityDelta

instance (S : TransferStore) (c : StockCall) : Decidable (KeepsReserved S c) := by
  cases c <;> unfold KeepsReserved <;> infer_instance

section StockCalls

variable {S : TransferStore}

theorem step_recordMovement {now : Date} {p : RecordMovementParams} {manager : Bool}
    {o : Except HttpException MovementResult} {s' : InventoryStore}
    (h : (recordMovement now p manager).run S.inventory = (o, s')) :
    StockCall.step S (.recordMovement now p manager) = { S with inventory := s' } :=
  congrArg Prod.snd (run_onInventory h)

theorem covered_recordMovement_iff (hcovered : S.inventory.Covered) (now : Date)
    (p : RecordMovementParams) (manager : Bool) :
    (StockCall.step S (.recordMovement now p manager)).inventory.Covered ↔
      KeepsReserved S (.recordMovement now p manager) := by
  have hkey := hcovered p.key
  rcases hrun : (InventoryLedger.recordMovement now p manager).run S.inventory with ⟨e | a, s'⟩
  · rw [step_recordMovement hrun]
    obtain rfl := recordMovement_eq_error hrun
    refine ⟨fun _ hk hneg => ?_, fun _ => hcovered⟩
    by_cases hd : p.quantityDelta = 0
    · omega
    · rw [run_recordMovement_of_can hd ⟨hk, hneg⟩] at hrun
      cases hrun
  · rw [step_recordMovement hrun]
    rcases recordMovement_eq_ok hrun with ⟨hd, -, rfl⟩ | ⟨hd, hmem, -, rfl⟩ | ⟨-, hk, hneg, rfl⟩
    · exact ⟨fun _ _ _ => by omega, fun _ => hcovered⟩
    · refine ⟨fun _ _ _ => by omega, fun _ k => ?_⟩
      unfold outboundAt onHandAt
      rw [row_putRow_zero S.inventory hmem]
      exact hcovered k
    · have hmoves := recorded_moves now hneg hk
      constructor
      · intro hcovered' _ _
        have hk' := hcovered' p.key
        rw [hmoves.onHandAt_apply, hmoves.outboundAt_apply, atKey_self, Pi.zero_apply] at hk'
        omega
      · intro hkeeps k
        have hk' := hcovered k
        have hleft := hkeeps hk hneg
        rw [hmoves.onHandAt_apply, hmoves.outboundAt_apply, atKey_apply, Pi.zero_apply]
        split_ifs with heq
        · rw [heq]
          omega
        · omega

/-- The state of the run: the rows are valid and covered, and what is set aside is what dispatched
transfers take. -/
structure Receivable (S : TransferStore) : Prop where
  rowsValid : S.inventory.RowsValid
  covered : S.inventory.Covered
  reserves : S.Reserves

theorem Receivable.step (h : Receivable S) (c : StockCall) (hc : KeepsReserved S c) :
    Receivable (StockCall.step S c) := by
  cases c with
  | transfer c =>
    have hchange := TransferCall.change S c
    exact ⟨hchange.rowsValid h.rowsValid, c.covered h.rowsValid h.covered, hchange.reserves h.reserves⟩
  | recordMovement now p manager =>
    have hcovered := (covered_recordMovement_iff h.covered now p manager).mpr hc
    rcases hrun : (InventoryLedger.recordMovement now p manager).run S.inventory with ⟨o, s'⟩
    rw [step_recordMovement hrun] at hcovered ⊢
    obtain ⟨onHand, movements, hmoves⟩ := recordMovement_sets_nothing_aside hrun
    refine ⟨hmoves.valid h.rowsValid, hcovered, fun k => ?_⟩
    have hk := h.reserves k
    rw [hmoves.outboundAt_apply, hk]
    exact add_zero _

theorem TransferStore.Idle.receivable (hidle : S.Idle) (hvalid : S.inventory.RowsValid) : Receivable S where
  rowsValid := hvalid
  covered k := by
    rw [hidle.outboundAt_eq_zero]
    exact (hvalid k).quantityOnHand_nonneg
  reserves := hidle.reserves

theorem Receivable.itemInStock (h : Receivable S) {id : ℕ} {t : BranchTransfer}
    (hfind : S.transfers.find id = some t) (hstatus : t.status = .dispatched)
    {item : BranchTransferItem} (hitem : item ∈ t.items) : ItemInStock S.inventory t item := by
  have hpos := item.quantity_pos
  have hdispatched : ∀ k, t.reserved k ≤ S.inventory.outboundAt k := by
    intro k
    rw [h.reserves k, TransferStore.dispatched_eq_total]
    exact SerialTable.le_total (fun _ t' _ => reserved_nonneg t' k) hfind
  have hquantity : item.quantity ≤ t.reserved (originKey t item) := by
    rw [reserved_eq_outgoing hstatus]
    exact quantity_le_outgoing hitem
  have horigin := hdispatched (originKey t item)
  have hroom := (reserved_nonneg t _).trans (hdispatched (destinationKey t item))
  have hcovered := h.covered (originKey t item)
  have hcovered' := h.covered (destinationKey t item)
  constructor <;> omega

/-- From such a state a dispatched transfer can be received, unless one of its branches or products
does not exist. -/
theorem Receivable.receive (h : Receivable S) {id : ℕ} {t : BranchTransfer}
    (hfind : S.transfers.find id = some t) (hstatus : t.status = .dispatched) {now : Date}
    {actorId : Option ℕ} {note : Option String} {e : HttpException}
    (hrun : ((TransferCall.receive now id actorId note).handler.run S).1 = .error e) :
    e.IsNotFound ∧ ∃ item ∈ t.items, ¬ KnownItem S.inventory t item := by
  have hstock : ∀ item ∈ t.items, ItemInStock S.inventory t item :=
    fun item hitem => h.itemInStock hfind hstatus hitem
  rcases hloop : (forEach t.items (receiveItem now id t actorId note)).run S.inventory with
    ⟨e' | _, s'⟩
  · have hwithin : (receiveWithin now id actorId note).run S = (.error e', { S with inventory := s' }) := by
      unfold receiveWithin
      rw [run_transition hfind (if_neg (not_not.mpr hstatus)), hloop]
    have hreceive : (TransferCall.receive now id actorId note).handler.run S = (.error e', S) :=
      run_transaction_of_error hwithin
    rw [hreceive] at hrun
    cases hrun
    exact ⟨isNotFound_of_receiveItems t.items t.items_nodup hstock hloop, exists_unknown_of_receiveItems hstock hloop⟩
  · have hwithin : (receiveWithin now id actorId note).run S =
        (.ok (receivedTransfer now actorId note t),
          ⟨s', S.transfers.set id (receivedTransfer now actorId note t)⟩) := by
      unfold receiveWithin
      rw [run_transition hfind (if_neg (not_not.mpr hstatus)), hloop]
    have hreceive := run_transaction_of_ok hwithin
    rw [show (TransferCall.receive now id actorId note).handler.run S = _ from hreceive] at hrun
    cases hrun

end StockCalls

/-- **A dispatched transfer stays receivable** in every run whose movements keep what is set aside:
every row holds what is set aside, and a receipt of a dispatched transfer fails only for an unknown
branch or product.  From a covered state the condition is also necessary: a call after which the rows
are covered has met it. -/
theorem receivable_runs (S₀ : TransferStore) (hidle : S₀.Idle) (hvalid : S₀.inventory.RowsValid)
    (calls : List StockCall) (hkeeps : Run.Along StockCall.step KeepsReserved S₀ calls) :
    let S := Run.after StockCall.step S₀ calls
    (∀ k, S.inventory.outboundAt k ≤ S.inventory.onHandAt k) ∧
    (∀ id t, S.transfers.find id = some t → t.status = .dispatched →
      ∀ now actorId note e,
        ((TransferCall.receive now id actorId note).handler.run S).1 = .error e →
        e.IsNotFound ∧ ∃ item ∈ t.items, ¬ KnownItem S.inventory t item) ∧
    ∀ c, (StockCall.step S c).inventory.Covered → KeepsReserved S c := by
  intro S
  have hS : Receivable S :=
    Run.after_induction (fun S c h hc => h.step c hc) (hidle.receivable hvalid) hkeeps
  refine ⟨hS.covered, ?_, ?_⟩
  · intro id t hfind hstatus now actorId note e hrun
    exact hS.receive hfind hstatus hrun
  · intro c hcovered
    cases c with
    | transfer c => trivial
    | recordMovement now p manager =>
      exact (covered_recordMovement_iff hS.covered now p manager).mp hcovered

theorem noTransfers_rowsValid : noTransfers.inventory.RowsValid :=
  ((ledgerInvariant_of_empty rfl rfl).step _).1

/-- With eight of ten on their way, a sale of two keeps what is set aside. -/
theorem receivable_runs_sale :
    let calls : List StockCall :=
      [.transfer (.create 0 eightUnits none {}), .transfer (.dispatch 0 1 none none fun _ _ => []),
        .recordMovement 0 (sampleMovement 1 .sale (-2)) false]
    let S := Run.after StockCall.step noTransfers calls
    Run.Along StockCall.step KeepsReserved noTransfers calls ∧
    ∀ k, S.inventory.outboundAt k ≤ S.inventory.onHandAt k := by
  intro calls S
  have hkeeps : Run.Along StockCall.step KeepsReserved noTransfers calls := by decide
  exact ⟨hkeeps, (receivable_runs noTransfers noTransfers_idle noTransfers_rowsValid calls hkeeps).1⟩

/-- With eight of ten on their way, a sale of five goes through, and the transfer is stuck. -/
theorem unreceivable_transfer :
    let S := Run.after StockCall.step noTransfers
      [.transfer (.create 0 eightUnits none {}), .transfer (.dispatch 0 1 none none fun _ _ => []),
        .recordMovement 0 (sampleMovement 1 .sale (-5)) false]
    (S.transfers.find 1).map BranchTransfer.status = some .dispatched ∧
    S.inventory.onHandAt ⟨1, 7⟩ = 5 ∧ S.inventory.outboundAt ⟨1, 7⟩ = 8 ∧
    ((TransferCall.receive 0 1 none none).handler.run S).1 = .error (onHandNegative 1 7) := by
  refine ⟨by decide, by decide, by decide, ?_⟩
  rfl

end SuuqBackend
