import SuuqBackend.Branches.Laws.BranchTransfers

/-!
# Transfers that fail midway

In the caller's transaction nothing rolls a failed dispatch or receipt back.  `Dispatchable` and
`ReceivableItem` are the checks that the loops make for an item, on the store before the loop: the
products of a transfer differ, so no round changes what another one checks.

* `dispatchItem_ok_iff`, `receiveItems_ok_iff`: when the loops succeed.
* `receive_eq_of_error`, `receive_changes`: a failed receipt has changed the inventory exactly when it
  could release the first item.
-/

namespace SuuqBackend

open Proc InventoryLedger InventoryRepository InventoryStore BranchTransfers

/-! ### What the ledger accepts -/

namespace InventoryStore

def CanAdjust (s : InventoryStore) (bucket : ProjectionBucket) (p : AdjustProjectionParams) : Prop :=
  s.Known p.key ∧ 0 ≤ bucket.get (s.row p.key) + p.quantityDelta
deriving Decidable

/-- The ledger accepts a movement by `d`. -/
def CanMove (s : InventoryStore) (k : InventoryKey) (d : ℤ) : Prop :=
  s.Known k ∧ 0 ≤ s.onHandAt k + d
deriving Decidable

end InventoryStore

section Ledger

variable {s : InventoryStore} {bucket : ProjectionBucket} {ap : AdjustProjectionParams}
  {p : RecordMovementParams}

theorem run_adjust_of_can (h : s.CanAdjust bucket ap) : (adjust bucket ap).run s =
    (.ok (adjustedRow bucket ap.quantityDelta (s.row ap.key)), adjusted bucket ap s) := by
  rw [run_adjust h.1, if_neg (not_lt.mpr h.2)]

theorem run_adjust_of_not_can (h : ¬ s.CanAdjust bucket ap) :
    ∃ e : HttpException, (adjust bucket ap).run s = (.error e, s) ∧
      (0 ≤ bucket.get (s.row ap.key) + ap.quantityDelta → e.IsNotFound) := by
  by_cases hk : s.Known ap.key
  · have hneg : ¬ 0 ≤ bucket.get (s.row ap.key) + ap.quantityDelta := fun hneg => h ⟨hk, hneg⟩
    rw [run_adjust hk, if_pos (not_le.mp hneg)]
    exact ⟨_, rfl, fun hstock => absurd hstock hneg⟩
  · obtain ⟨e, hnotFound, hrun⟩ := run_adjust_of_not_known hk bucket
    exact ⟨e, hrun, fun _ => hnotFound⟩

theorem run_recordMovement_of_can (hd : p.quantityDelta ≠ 0) (h : s.CanMove p.key p.quantityDelta)
    (now : Date) (manager : Bool) : (recordMovement now p manager).run s =
      (.ok ⟨movedRow now p (s.row p.key), p.movement⟩, recorded now p s) := by
  have hneg : ¬ (s.row p.key).quantityOnHand + p.quantityDelta < 0 := not_lt.mpr h.2
  rw [run_recordMovement hd h.1, if_neg hneg]

theorem run_recordMovement_of_not_can (hd : p.quantityDelta ≠ 0)
    (h : ¬ s.CanMove p.key p.quantityDelta) (now : Date) (manager : Bool) :
    ∃ e : HttpException, (recordMovement now p manager).run s = (.error e, s) ∧
      (0 ≤ s.onHandAt p.key + p.quantityDelta → e.IsNotFound) := by
  by_cases hk : s.Known p.key
  · have hneg : ¬ 0 ≤ (s.row p.key).quantityOnHand + p.quantityDelta := fun hneg => h ⟨hk, hneg⟩
    rw [run_recordMovement hd hk, if_pos (not_le.mp hneg)]
    exact ⟨_, rfl, fun hstock => absurd hstock hneg⟩
  · obtain ⟨e, hnotFound, hrun⟩ := run_recordMovement_of_not_known hd hk now manager
    exact ⟨e, hrun, fun _ => hnotFound⟩

theorem Moves.canMove_iff {s' : InventoryStore} {onHand outbound : InventoryKey → ℤ}
    {movements : List StockMovement} (h : Moves s s' onHand outbound movements) {k : InventoryKey}
    (hk : onHand k = 0) (d : ℤ) : s'.CanMove k d ↔ s.CanMove k d := by
  unfold CanMove
  rw [h.known_iff, h.onHandAt_apply, hk, add_zero]

end Ledger

/-! ### Requesting a transfer -/

/-- The checks of a request: its branches differ and exist, and so do its products. -/
structure ValidRequest (s : InventoryStore) (dto : CreateBranchTransferDto) : Prop where
  branches_ne : dto.fromBranchId ≠ dto.toBranchId
  items_nodup : (distinctProductIds dto).length = dto.items.length
  mem_fromBranch : dto.fromBranchId ∈ s.branches
  mem_toBranch : dto.toBranchId ∈ s.branches
  mem_products : ∀ productId ∈ distinctProductIds dto, productId ∈ s.products

theorem assertTransferDraftIsValid_cases (dto : CreateBranchTransferDto) (S : TransferStore) :
    (ValidRequest S.inventory dto ∧ ∃ draft : TransferDraft,
      draft.toCreateBranchTransferDto = dto ∧
        (assertTransferDraftIsValid dto).run S = (.ok draft, S)) ∨
    (¬ ValidRequest S.inventory dto ∧ ∃ e, (assertTransferDraftIsValid dto).run S = (.error e, S)) := by
  have hbranch : ∀ b, (onInventory (findBranch b)).run S =
      (.ok (S.inventory.branches.lookup b), S) := fun b => run_onInventory rfl
  have hnone : ∀ b, (S.inventory.branches.lookup b).isNone ↔ b ∉ S.inventory.branches := by
    intro b
    rw [Option.isNone_iff_eq_none, Finmap.lookup_eq_none]
  have hproducts : ((distinctProductIds dto).filter
      fun productId => productId ∈ S.inventory.products).length = (distinctProductIds dto).length ↔
        ∀ productId ∈ distinctProductIds dto, productId ∈ S.inventory.products := by
    rw [List.length_filter_eq_length_iff]
    simp only [decide_eq_true_eq]
  unfold assertTransferDraftIsValid
  split_ifs with hne hnodup
  · exact .inr ⟨fun h => h.branches_ne hne, _, rfl⟩
  · exact .inr ⟨fun h => hnodup h.items_nodup, _, rfl⟩
  · rw [run_bind_of_ok (hbranch _), run_bind_of_ok (hbranch _), run_read_bind]
    simp only [run_throwIf_bind, hnone]
    by_cases hfrom : dto.fromBranchId ∈ S.inventory.branches
    · rw [if_neg (not_not.mpr hfrom)]
      by_cases hto : dto.toBranchId ∈ S.inventory.branches
      · rw [if_neg (not_not.mpr hto)]
        by_cases hall : ∀ productId ∈ distinctProductIds dto, productId ∈ S.inventory.products
        · rw [if_neg (not_not.mpr (hproducts.mpr hall))]
          exact .inl ⟨⟨hne, not_not.mp hnodup, hfrom, hto, hall⟩, _, rfl, rfl⟩
        · rw [if_pos fun h => hall (hproducts.mp h)]
          exact .inr ⟨fun h => hall h.mem_products, _, rfl⟩
      · rw [if_pos hto]
        exact .inr ⟨fun h => hto h.mem_toBranch, _, rfl⟩
    · rw [if_pos hfrom]
      exact .inr ⟨fun h => hfrom h.mem_fromBranch, _, rfl⟩

theorem createTransfer_cases (now : Date) (dto : CreateBranchTransferDto) (actorId : Option ℕ)
    (source : BranchTransferSource) (S : TransferStore) :
    (ValidRequest S.inventory dto ∧ ∃ draft : TransferDraft,
      draft.toCreateBranchTransferDto = dto ∧ (create now dto actorId source).run S =
        (.ok (S.transfers.next, requestedTransfer now draft actorId source),
          { S with transfers := S.transfers.add (requestedTransfer now draft actorId source) })) ∨
    (¬ ValidRequest S.inventory dto ∧ ∃ e, (create now dto actorId source).run S = (.error e, S)) := by
  rcases assertTransferDraftIsValid_cases dto S with ⟨hvalid, draft, hdto, hrun⟩ | ⟨hvalid, e, hrun⟩
  · exact .inl ⟨hvalid, draft, hdto, run_bind_of_ok hrun _⟩
  · exact .inr ⟨hvalid, e, run_bind_of_error hrun _⟩

/-! ### Dispatching an item -/

section Dispatch

variable {s : InventoryStore} {replenish : Replenishment} {k : InventoryKey} {r : BranchInventory}
  {t : BranchTransfer} {item : BranchTransferItem}

def orderParams (k : InventoryKey) (line : InboundLine) : AdjustProjectionParams where
  branchId := k.branchId
  productId := line.productId
  quantityDelta := line.quantity

/-- The ledger accepts what the replenishment of a low row puts on order, line after line. -/
def Replenishable (s : InventoryStore) (replenish : Replenishment) (k : InventoryKey) (r : BranchInventory) : Prop :=
  r.availableToSell ≤ r.safetyStock →
    Run.Along (fun s line => adjusted .inboundOpenPo (orderParams k line) s)
      (fun s line => s.CanAdjust .inboundOpenPo (orderParams k line)) s (replenish k r)

/-- What `dispatch` sets aside. -/
def reserveParams (k : InventoryKey) (quantity : ℤ) : AdjustProjectionParams where
  branchId := k.branchId
  productId := k.productId
  quantityDelta := quantity

/-- The quantity is available at the row and can be set aside there. -/
structure Dispatchable (s : InventoryStore) (replenish : Replenishment) (k : InventoryKey)
    (quantity : ℤ) : Prop where
  available : quantity ≤ availableForTransfer (s.row k)
  canReserve : s.CanAdjust .outboundTransfers (reserveParams k quantity)
  replenishable : Replenishable (adjusted .outboundTransfers (reserveParams k quantity) s) replenish k
    (adjustedRow .outboundTransfers quantity (s.row k))

theorem maybeCreateDraftPurchaseOrder_ok_iff :
    (∃ s', (maybeCreateDraftPurchaseOrder replenish k r).run s = (.ok (), s')) ↔ Replenishable s replenish k r := by
  unfold maybeCreateDraftPurchaseOrder Replenishable
  split_ifs with hlow
  · have hnot : ¬ r.availableToSell ≤ r.safetyStock := not_le.mpr hlow
    exact ⟨fun _ hle => absurd hle hnot, fun _ => ⟨s, rfl⟩⟩
  · have hle : r.availableToSell ≤ r.safetyStock := not_lt.mp hlow
    rw [run_forEach_ok_iff (C := fun s line => s.CanAdjust .inboundOpenPo (orderParams k line))]
    · exact ⟨fun h _ => h, fun h => h hle⟩
    · intro s line hline
      exact run_bind_of_ok (run_adjust_of_can hline) _
    · intro s line hline
      obtain ⟨e, hrun, -⟩ := run_adjust_of_not_can hline
      exact ⟨e, s, run_bind_of_error hrun _⟩

theorem dispatchItem_ok_iff :
    (∃ s', (dispatchItem replenish t item).run s = (.ok (), s')) ↔
      Dispatchable s replenish (originKey t item) item.quantity := by
  have hrun : (dispatchItem replenish t item).run s =
      if availableForTransfer (s.row (originKey t item)) < item.quantity then
        (.error (notEnoughAvailable t.fromBranchId (availableForTransfer (s.row (originKey t item))) item.productId), s)
      else (adjust .outboundTransfers (reserveParams (originKey t item) item.quantity) >>= fun projected =>
        maybeCreateDraftPurchaseOrder replenish (originKey t item) projected).run s := by
    unfold dispatchItem findInventory
    rw [run_read_bind, run_throwIf_bind]
    rfl
  rw [hrun]
  split_ifs with hless
  · constructor
    · rintro ⟨s', h⟩
      cases h
    · intro h
      exact absurd h.available (not_le.mpr hless)
  · by_cases hreserve : s.CanAdjust .outboundTransfers (reserveParams (originKey t item) item.quantity)
    · rw [run_bind_of_ok (run_adjust_of_can hreserve), maybeCreateDraftPurchaseOrder_ok_iff]
      exact ⟨fun h => ⟨not_lt.mp hless, hreserve, h⟩, fun h => h.replenishable⟩
    · obtain ⟨e, herror, -⟩ := run_adjust_of_not_can hreserve
      rw [run_bind_of_error herror]
      constructor
      · rintro ⟨s', h⟩
        cases h
      · intro h
        exact absurd h.canReserve hreserve

end Dispatch

/-! ### Receiving an item -/

section Receive

variable {s s' : InventoryStore} {t : BranchTransfer} {item : BranchTransferItem}
  {now : Date} {id : ℕ} {actorId : Option ℕ} {note : Option String} {e : HttpException}

def releaseParams (t : BranchTransfer) (item : BranchTransferItem) : AdjustProjectionParams where
  branchId := t.fromBranchId
  productId := item.productId
  quantityDelta := -item.quantity

/-- What is set aside for the item can be released. -/
def Releasable (s : InventoryStore) (t : BranchTransfer) (item : BranchTransferItem) : Prop :=
  s.CanAdjust .outboundTransfers (releaseParams t item)
deriving Decidable

/-- What is set aside for the item can be released, taken from the origin and brought to the
destination. -/
structure ReceivableItem (s : InventoryStore) (t : BranchTransfer) (item : BranchTransferItem) :
    Prop where
  releasable : Releasable s t item
  canTake : s.CanMove (originKey t item) (-item.quantity)
  canBring : s.CanMove (destinationKey t item) item.quantity

/-- The quantities that the item needs: the origin has it, set aside and on hand, and the destination
is not so far below zero that the item leaves it there. -/
structure ItemInStock (s : InventoryStore) (t : BranchTransfer) (item : BranchTransferItem) : Prop where
  setAside : 0 ≤ s.outboundAt (originKey t item) + -item.quantity
  onHand : 0 ≤ s.onHandAt (originKey t item) + -item.quantity
  room : 0 ≤ s.onHandAt (destinationKey t item) + item.quantity

theorem itemInStock_iff : ItemInStock s t item ↔
    0 ≤ s.outboundAt (originKey t item) + -item.quantity ∧
    0 ≤ s.onHandAt (originKey t item) + -item.quantity ∧ 0 ≤ s.onHandAt (destinationKey t item) + item.quantity :=
  ⟨fun h => ⟨h.setAside, h.onHand, h.room⟩, fun h => ⟨h.1, h.2.1, h.2.2⟩⟩

/-- An item can be received when its branches and product are known and it is in stock. -/
theorem receivableItem_iff : ReceivableItem s t item ↔
    (s.Known (originKey t item) ∧ s.Known (destinationKey t item)) ∧ ItemInStock s t item := by
  constructor
  · intro h
    exact ⟨⟨h.canTake.1, h.canBring.1⟩, h.releasable.2, h.canTake.2, h.canBring.2⟩
  · rintro ⟨⟨horigin, hdestination⟩, hstock⟩
    exact ⟨⟨horigin, hstock.setAside⟩, ⟨horigin, hstock.onHand⟩, hdestination, hstock.room⟩

theorem destinationKey_ne_originKey (t : BranchTransfer) (item item' : BranchTransferItem) :
    destinationKey t item ≠ originKey t item' :=
  fun h => t.branches_ne (congrArg InventoryKey.branchId h).symm

theorem run_releaseItem_of_releasable (h : Releasable s t item) : ∃ s₁, (releaseItem t item).run s = (.ok (), s₁) :=
  ⟨_, run_bind_of_ok (run_adjust_of_can h) _⟩

theorem run_releaseItem_of_not_releasable (h : ¬ Releasable s t item) :
    ∃ e : HttpException, (releaseItem t item).run s = (.error e, s) ∧ (ItemInStock s t item → e.IsNotFound) := by
  obtain ⟨e, hrun, hnotFound⟩ := run_adjust_of_not_can h
  exact ⟨e, run_bind_of_error hrun _, fun hstock => hnotFound hstock.setAside⟩

/-- The second part of a round: the two movements of the item. -/
def shipItem (now : Date) (id : ℕ) (t : BranchTransfer) (actorId : Option ℕ) (note : Option String)
    (item : BranchTransferItem) : InventoryProc Unit := do
  let _ ← recordMovement now (outParams id t actorId note item) true
  let _ ← recordMovement now (inParams id t actorId note item) true

/-- The item can be taken from the origin and brought to the destination. -/
def Shippable (s : InventoryStore) (t : BranchTransfer) (item : BranchTransferItem) : Prop :=
  s.CanMove (originKey t item) (-item.quantity) ∧ s.CanMove (destinationKey t item) item.quantity

theorem Moves.shippable_iff {outbound : InventoryKey → ℤ} {movements : List StockMovement}
    (h : Moves s s' 0 outbound movements) : Shippable s' t item ↔ Shippable s t item :=
  and_congr (h.canMove_iff rfl _) (h.canMove_iff rfl _)

/-- The movements succeed when the item can be taken and brought; they set nothing aside. -/
theorem shipItem_cases (s : InventoryStore) (t : BranchTransfer) (item : BranchTransferItem)
    (now : Date) (id : ℕ) (actorId : Option ℕ) (note : Option String) :
    (Shippable s t item ∧ ∃ s', (shipItem now id t actorId note item).run s = (.ok (), s')) ∨
    (¬ Shippable s t item ∧ ∃ (e : HttpException) (s' : InventoryStore),
      (shipItem now id t actorId note item).run s = (.error e, s') ∧
      (0 ≤ s.onHandAt (originKey t item) + -item.quantity →
        0 ≤ s.onHandAt (destinationKey t item) + item.quantity → e.IsNotFound) ∧ s'.outboundAt = s.outboundAt) := by
  have hd := outParams_quantityDelta_ne_zero id t actorId note item
  have hd' := inParams_quantityDelta_ne_zero id t actorId note item
  unfold Shippable shipItem
  by_cases hout : s.CanMove (originKey t item) (-item.quantity)
  · obtain ⟨out, s₁, hrun₁⟩ : ∃ out s₁,
        (recordMovement now (outParams id t actorId note item) true).run s = (.ok out, s₁) :=
      ⟨_, _, run_recordMovement_of_can hd hout now true⟩
    have hmoves := recordMovement_moves hd hrun₁
    -- the movement out does not touch the row of the destination
    have hother : atKey (originKey t item) (-item.quantity) (destinationKey t item) = 0 :=
      atKey_of_ne (destinationKey_ne_originKey t item item) _
    have hbring := hmoves.canMove_iff hother item.quantity
    by_cases hin : s₁.CanMove (destinationKey t item) item.quantity
    · obtain ⟨into, s₂, hrun₂⟩ : ∃ into s₂,
          (recordMovement now (inParams id t actorId note item) true).run s₁ = (.ok into, s₂) :=
        ⟨_, _, run_recordMovement_of_can hd' hin now true⟩
      refine .inl ⟨⟨hout, hbring.mp hin⟩, s₂, ?_⟩
      rw [run_bind_of_ok hrun₁, run_bind_of_ok hrun₂]
      rfl
    · obtain ⟨e, hrun₂, hnotFound⟩ := run_recordMovement_of_not_can hd' hin now true
      refine .inr ⟨fun h => hin (hbring.mpr h.2), e, s₁, ?_, fun _ hroom => hnotFound ?_, ?_⟩
      · rw [run_bind_of_ok hrun₁, run_bind_of_error hrun₂]
      · have hsame : s₁.onHandAt (destinationKey t item) = s.onHandAt (destinationKey t item) :=
          (hmoves.onHandAt_apply _).trans (add_eq_left.mpr hother)
        exact hsame.symm ▸ hroom
      · rw [hmoves.outboundAt_eq, add_zero]
  · obtain ⟨e, hrun₁, hnotFound⟩ := run_recordMovement_of_not_can hd hout now true
    exact .inr ⟨fun h => hout h.1, e, s, run_bind_of_error hrun₁ _, fun hstock _ => hnotFound hstock, rfl⟩

/-- **A round of the loop of `receive`**: it succeeds when its three checks do; a round that fails has
either changed nothing or released what was set aside.  For an item in stock it fails only because a
branch or the product is unknown. -/
theorem receiveItem_cases (s : InventoryStore) (t : BranchTransfer) (item : BranchTransferItem)
    (now : Date) (id : ℕ) (actorId : Option ℕ) (note : Option String) :
    (ReceivableItem s t item ∧
      ∃ s', (receiveItem now id t actorId note item).run s = (.ok (), s')) ∨
    (¬ ReceivableItem s t item ∧ ∃ (e : HttpException) (s' : InventoryStore),
      (receiveItem now id t actorId note item).run s = (.error e, s') ∧
      (ItemInStock s t item → e.IsNotFound) ∧
      if Releasable s t item then
        s'.outboundAt = s.outboundAt + -atKey (originKey t item) item.quantity else s' = s) := by
  have hround : receiveItem now id t actorId note item =
      releaseItem t item >>= fun _ => shipItem now id t actorId note item := rfl
  rw [hround]
  by_cases hrelease : Releasable s t item
  · obtain ⟨s₁, hrun⟩ := run_releaseItem_of_releasable hrelease
    obtain ⟨-, hmoves⟩ := releaseItem_eq_ok hrun
    have hsame : ∀ k, s₁.onHandAt k = s.onHandAt k := by
      intro k
      rw [hmoves.onHandAt_eq, add_zero]
    rw [run_bind_of_ok hrun]
    simp only [if_pos hrelease]
    rcases shipItem_cases s₁ t item now id actorId note with
      ⟨hship, hok⟩ | ⟨hship, e, s', herror, hnotFound, houtbound⟩
    · have hship' := hmoves.shippable_iff.mp hship
      exact .inl ⟨⟨hrelease, hship'.1, hship'.2⟩, hok⟩
    · rw [hsame, hsame] at hnotFound
      refine .inr ⟨fun h => hship (hmoves.shippable_iff.mpr ⟨h.canTake, h.canBring⟩), e, s', herror,
        fun hstock => hnotFound hstock.onHand hstock.room, ?_⟩
      rw [houtbound, hmoves.outboundAt_eq]
  · obtain ⟨e, hrun, hnotFound⟩ := run_releaseItem_of_not_releasable hrelease
    simp only [if_neg hrelease]
    exact .inr ⟨fun h => hrelease h.releasable, e, s, run_bind_of_error hrun _, hnotFound, rfl⟩

theorem receiveItem_outboundAt (s : InventoryStore) (t : BranchTransfer) (item : BranchTransferItem)
    (now : Date) (id : ℕ) (actorId : Option ℕ) (note : Option String) :
    ((receiveItem now id t actorId note item).run s).2.outboundAt = s.outboundAt +
      if Releasable s t item then -atKey (originKey t item) item.quantity else 0 := by
  rcases receiveItem_cases s t item now id actorId note with
    ⟨h, s', hrun⟩ | ⟨-, e, s', hrun, -, hleft⟩
  · rw [hrun, if_pos h.releasable]
    exact (receiveItem_eq_ok hrun).2.outboundAt_eq
  · rw [hrun]
    split_ifs at hleft ⊢
    · exact hleft
    · rw [hleft, add_zero]

theorem receiveItem_outboundAt_le (s : InventoryStore) (t : BranchTransfer)
    (item : BranchTransferItem) (now : Date) (id : ℕ) (actorId : Option ℕ) (note : Option String) (k : InventoryKey) :
    ((receiveItem now id t actorId note item).run s).2.outboundAt k ≤ s.outboundAt k := by
  have hpos := item.quantity_pos
  rw [receiveItem_outboundAt, Pi.add_apply]
  split_ifs
  · rw [Pi.neg_apply, atKey_apply]
    split_ifs <;> omega
  · exact (add_zero _).le

theorem receiveItem_outboundAt_lt (h : Releasable s t item) (now : Date) (id : ℕ)
    (actorId : Option ℕ) (note : Option String) :
    ((receiveItem now id t actorId note item).run s).2.outboundAt (originKey t item) <
      s.outboundAt (originKey t item) := by
  have hpos := item.quantity_pos
  rw [receiveItem_outboundAt, if_pos h, Pi.add_apply, Pi.neg_apply, atKey_self]
  omega

theorem receiveItem_frame (hrun : (receiveItem now id t actorId note item).run s = (.ok (), s'))
    {k : InventoryKey} (hne : k.productId ≠ item.productId) :
    s'.onHandAt k = s.onHandAt k ∧ s'.outboundAt k = s.outboundAt k := by
  obtain ⟨-, hmoves⟩ := receiveItem_eq_ok hrun
  have horigin : k ≠ originKey t item := fun h => hne (congrArg InventoryKey.productId h)
  have hdestination : k ≠ destinationKey t item := fun h => hne (congrArg InventoryKey.productId h)
  constructor
  · rw [hmoves.onHandAt_apply, Pi.sub_apply, atKey_of_ne hdestination, atKey_of_ne horigin, sub_zero, add_zero]
  · rw [hmoves.outboundAt_apply, Pi.neg_apply, atKey_of_ne horigin, neg_zero, add_zero]

theorem itemInStock_iff_of_ne {item' : BranchTransferItem} (hne : item'.productId ≠ item.productId)
    (hrun : (receiveItem now id t actorId note item).run s = (.ok (), s')) :
    ItemInStock s' t item' ↔ ItemInStock s t item' := by
  obtain ⟨honHand, houtbound⟩ := receiveItem_frame hrun (k := originKey t item') hne
  obtain ⟨hroom, -⟩ := receiveItem_frame hrun (k := destinationKey t item') hne
  rw [itemInStock_iff, itemInStock_iff, honHand, houtbound, hroom]

theorem receivableItem_iff_of_ne {item' : BranchTransferItem} (hne : item'.productId ≠ item.productId)
    (hrun : (receiveItem now id t actorId note item).run s = (.ok (), s')) :
    ReceivableItem s' t item' ↔ ReceivableItem s t item' := by
  have hknown := (receiveItem_eq_ok hrun).2.known_iff
  rw [receivableItem_iff, receivableItem_iff, itemInStock_iff_of_ne hne hrun, hknown, hknown]

/-- **The loop of `receive`** over items of different products succeeds when the checks of all items
hold at its start. -/
theorem receiveItems_ok_iff (items : List BranchTransferItem)
    (hnodup : (items.map BranchTransferItem.productId).Nodup) (s : InventoryStore)
    (t : BranchTransfer) (now : Date) (id : ℕ) (actorId : Option ℕ) (note : Option String) :
    (∃ s', (forEach items (receiveItem now id t actorId note)).run s = (.ok (), s')) ↔
      ∀ item ∈ items, ReceivableItem s t item := by
  induction items generalizing s with
  | nil => exact ⟨fun _ => nofun, fun _ => ⟨s, rfl⟩⟩
  | cons item items ih =>
    rw [List.map_cons, List.nodup_cons] at hnodup
    obtain ⟨hnotMem, hnodup⟩ := hnodup
    have hfails : ∀ {e s'}, (receiveItem now id t actorId note item).run s = (.error e, s') →
        ¬ ∃ s', (forEach (item :: items) (receiveItem now id t actorId note)).run s = (.ok (), s') := by
      rintro e s' hrun ⟨s'', h⟩
      rw [forEach_cons, run_bind_of_error hrun] at h
      cases h
    rcases receiveItem_cases s t item now id actorId note with ⟨h, s', hrun⟩ | ⟨h, e, s', hrun, -⟩
    · -- the other items are of other products
      have hsame : ∀ item' ∈ items, ReceivableItem s' t item' ↔ ReceivableItem s t item' := by
        intro item' hmem
        have hne : item'.productId ≠ item.productId := by
          intro heq
          exact hnotMem (heq ▸ List.mem_map_of_mem hmem)
        exact receivableItem_iff_of_ne hne hrun
      rw [forEach_cons, run_bind_of_ok hrun, ih hnodup, List.forall_mem_cons]
      constructor
      · intro hitems
        exact ⟨h, fun item' hmem => (hsame item' hmem).mp (hitems item' hmem)⟩
      · intro hitems item' hmem
        exact (hsame item' hmem).mpr (hitems.2 item' hmem)
    · exact iff_of_false (hfails hrun) fun hitems => h (hitems item List.mem_cons_self)

/-- A receipt that fails has no effect: it cannot even release its first item. -/
def ReceiptFeasible (s : InventoryStore) (t : BranchTransfer) : Prop :=
  ∀ first ∈ t.items.head?, Releasable s t first → ∀ item ∈ t.items, ReceivableItem s t item

theorem receiveItems_eq_of_error (h : ReceiptFeasible s t)
    (hrun : (forEach t.items (receiveItem now id t actorId note)).run s = (.error e, s')) : s' = s := by
  have hok := receiveItems_ok_iff t.items t.items_nodup s t now id actorId note
  unfold ReceiptFeasible at h
  rcases hitems : t.items with _ | ⟨first, rest⟩
  · rw [hitems] at hrun
    cases hrun
  · rw [hitems] at h
    rw [hitems] at hrun hok
    by_cases hfirst : Releasable s t first
    · obtain ⟨s'', hrun'⟩ := hok.mpr (h first rfl hfirst)
      rw [hrun'] at hrun
      cases hrun
    · rcases receiveItem_cases s t first now id actorId note with
        ⟨hreceivable, -⟩ | ⟨-, e', s₁, hround, -, hsame⟩
      · exact absurd hreceivable.releasable hfirst
      · rw [forEach_cons, run_bind_of_error hround] at hrun
        cases hrun
        rwa [if_neg hfirst] at hsame

theorem receiveItems_changes (h : ¬ ReceiptFeasible s t) (now : Date) (id : ℕ)
    (actorId : Option ℕ) (note : Option String) :
    ∃ e s', (forEach t.items (receiveItem now id t actorId note)).run s = (.error e, s') ∧
      s'.inventory ≠ s.inventory := by
  have hok := receiveItems_ok_iff t.items t.items_nodup s t now id actorId note
  unfold ReceiptFeasible at h
  push Not at h
  obtain ⟨first, hhead, hfirst, item, hmem, hitem⟩ := h
  obtain ⟨rest, hitems⟩ := List.head?_eq_some_iff.mp hhead
  rcases hrun : (forEach t.items (receiveItem now id t actorId note)).run s with ⟨e | _, s'⟩
  · refine ⟨e, s', rfl, fun hsame => ?_⟩
    have hrest : ∀ s₁, ((forEach rest (receiveItem now id t actorId note)).run s₁).2.outboundAt
        (originKey t first) ≤ s₁.outboundAt (originKey t first) := by
      intro s₁
      exact forEach_rel (R := fun s s' => s'.outboundAt (originKey t first) ≤
          s.outboundAt (originKey t first)) (fun _ => le_rfl) (fun _ _ _ h h' => h'.trans h)
        (fun item s => receiveItem_outboundAt_le s t item now id actorId note _) rest s₁
    have hround := receiveItem_outboundAt_lt hfirst now id actorId note
    have hless : s'.outboundAt (originKey t first) < s.outboundAt (originKey t first) := by
      rw [hitems, forEach_cons, run_bind] at hrun
      rcases hone : (receiveItem now id t actorId note first).run s with ⟨e' | _, s₁⟩
      · rw [hone] at hrun hround
        cases hrun
        exact hround
      · rw [hone] at hrun hround
        have hle := hrest s₁
        rw [show (forEach rest (receiveItem now id t actorId note)).run s₁ = _ from hrun] at hle
        exact hle.trans_lt hround
    have heq : s'.outboundAt (originKey t first) = s.outboundAt (originKey t first) := by
      unfold outboundAt row
      rw [hsame]
    omega
  · exact absurd (hok.mp ⟨s', hrun⟩ item hmem) hitem

/-! ### In the caller's transaction -/

variable {T T' : TransferStore}

theorem receive_eq_of_error
    (h : ∀ t, T.transfers.find id = some t → t.status = .dispatched → ReceiptFeasible T.inventory t)
    (hrun : (receive now id actorId note true).run T = (.error e, T')) : T' = T := by
  unfold receive at hrun
  rw [inTransaction_true] at hrun
  rcases transition_eq_error hrun with hsame | ⟨t, s', hfind, hstatus, hloop, rfl⟩
  · exact hsame
  · have hdispatched : t.status = .dispatched := by
      by_contra hne
      rw [if_pos hne] at hstatus
      cases hstatus
    rw [receiveItems_eq_of_error (h t hfind hdispatched) hloop]

/-- A receipt that throws after it has released something leaves the inventory changed. -/
theorem receive_changes (hfind : T.transfers.find id = some t) (hstatus : t.status = .dispatched)
    (h : ¬ ReceiptFeasible T.inventory t) (now : Date) (actorId : Option ℕ) (note : Option String) :
    ∃ e s', (receive now id actorId note true).run T = (.error e, { T with inventory := s' }) ∧
      s'.inventory ≠ T.inventory.inventory := by
  obtain ⟨e, s', hloop, hchanged⟩ := receiveItems_changes h now id actorId note
  refine ⟨e, s', ?_, hchanged⟩
  show (receiveWithin now id actorId note).run T = _
  unfold receiveWithin
  rw [run_transition hfind (if_neg (not_not.mpr hstatus)), hloop]

theorem dispatch_transfers_of_error {replenish : Replenishment}
    (hrun : (dispatch now id actorId note replenish true).run T = (.error e, T')) : T'.transfers = T.transfers := by
  unfold dispatch at hrun
  rw [inTransaction_true] at hrun
  rcases transition_eq_error hrun with rfl | ⟨t, s', -, -, -, rfl⟩
  · rfl
  · rfl

theorem dispatch_ok_iff (hfind : T.transfers.find id = some t) (hstatus : t.status = .requested)
    (hitems : t.items = [item]) (now : Date) (actorId : Option ℕ) (note : Option String) (replenish : Replenishment) :
    (∃ a T', (dispatch now id actorId note replenish true).run T = (.ok a, T')) ↔
      Dispatchable T.inventory replenish (originKey t item) item.quantity := by
  rw [← dispatchItem_ok_iff]
  show (∃ a T', (dispatchWithin now id actorId note replenish).run T = (.ok a, T')) ↔ _
  unfold dispatchWithin
  rw [run_transition hfind (if_neg (not_not.mpr hstatus)), hitems, forEach_cons]
  rcases hround : (dispatchItem replenish t item).run T.inventory with ⟨e | _, s'⟩
  · rw [run_bind_of_error hround]
    constructor
    · rintro ⟨a, T', h⟩
      cases h
    · rintro ⟨s'', h⟩
      cases h
  · rw [run_bind_of_ok hround]
    exact ⟨fun _ => ⟨s', rfl⟩, fun _ => ⟨_, _, rfl⟩⟩

end Receive

end SuuqBackend
