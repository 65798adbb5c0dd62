import SuuqBackend.PurchaseOrders.Laws.PurchaseOrders

/-!
# What is on order

`inboundOpenPo` of a row is kept by differences: each change of an order moves it by the projection of
the order after the change, less the one before it.

* `PurchaseOrderChange.tracks`: the invariant `Tracks`, that every row holds what is outstanding of the
  active orders of its branch, is kept by every call.
* `raisesFrom_handler`: under the invariant no adjustment of a call takes more than the bucket
  holds, since the bucket covers the projection that the order had.
* `inboundOpenPo_tracks`: both, in every state of every run.
-/

namespace SuuqBackend

open Proc InventoryLedger PurchaseOrders PurchaseOrderRepository PurchaseOrderStore SerialTable

namespace PurchaseOrderStore

/-- What is outstanding for a row: of the items with its product in the active orders of its branch,
what was ordered and is not accounted for. -/
def outstanding (s : PurchaseOrderStore) (k : InventoryKey) : ℤ :=
  s.orders.total fun order =>
    if order.branchId = k.branchId ∧
        order.status ∈ [PurchaseOrderStatus.submitted, .acknowledged, .shipped, .received] then
      (((order.items.filter fun item => item.productId = k.productId).map fun item =>
        item.orderedQuantity - item.receivedQuantity - item.shortageQuantity - item.damagedQuantity).sum : ℕ)
    else 0

/-- Every row holds what is outstanding for it. -/
def Tracks (s : PurchaseOrderStore) : Prop := ∀ k, s.inventory.inboundAt k = s.outstanding k

structure NothingOnOrder (s : PurchaseOrderStore) : Prop where
  inboundAt_eq_zero : ∀ k, s.inventory.inboundAt k = 0
  not_active : ∀ id order, s.orders.find id = some order → isActive order.status = false

theorem outstanding_eq_total (s : PurchaseOrderStore) (k : InventoryKey) :
    s.outstanding k = s.orders.total fun order => order.inbound k := by
  unfold outstanding
  congr 1
  funext order
  unfold PurchaseOrder.inbound inboundOpenPoOf
  by_cases hbranch : order.branchId = k.branchId
  · by_cases hactive : isActive order.status = true
    · have hmem : order.status ∈ [PurchaseOrderStatus.submitted, .acknowledged, .shipped, .received] :=
        of_decide_eq_true hactive
      rw [if_pos ⟨hbranch, hmem⟩, if_pos hbranch, if_pos hactive]
      rfl
    · have hmem : order.status ∉ [PurchaseOrderStatus.submitted, .acknowledged, .shipped, .received] :=
        fun hmem => hactive (decide_eq_true hmem)
      rw [if_neg fun h => hmem h.2, if_pos hbranch, if_neg hactive]
      rfl
  · rw [if_neg fun h => hbranch h.1, if_neg hbranch]

theorem inbound_nonneg (order : PurchaseOrder) (k : InventoryKey) : 0 ≤ order.inbound k := by
  unfold PurchaseOrder.inbound
  split_ifs <;> omega

theorem inbound_eq_zero {order : PurchaseOrder} (h : isActive order.status = false)
    (k : InventoryKey) : order.inbound k = 0 := by
  have hinactive : ¬ isActive order.status = true := by simp [h]
  unfold PurchaseOrder.inbound inboundOpenPoOf
  split_ifs <;> rfl

theorem NothingOnOrder.tracks {s : PurchaseOrderStore} (h : s.NothingOnOrder) : s.Tracks := by
  intro k
  rw [h.inboundAt_eq_zero, outstanding_eq_total]
  symm
  apply total_eq_zero
  intro id order hfind
  exact inbound_eq_zero (h.not_active id order hfind) k

theorem Tracks.inbound_le {s : PurchaseOrderStore} (h : s.Tracks) {id : ℕ} {order : PurchaseOrder}
    (hfind : s.orders.find id = some order) (k : InventoryKey) : order.inbound k ≤ s.inventory.inboundAt k := by
  rw [h k, outstanding_eq_total]
  exact le_total (f := fun order => order.inbound k) (fun _ order _ => inbound_nonneg order k) hfind

end PurchaseOrderStore

/-! ### The invariant -/

theorem PurchaseOrderChange.tracks {c : PurchaseOrderCall} {s s' : PurchaseOrderStore}
    (h : PurchaseOrderChange s c s') (hs : s.Tracks) : s'.Tracks := by
  intro k
  have hk := hs k
  rw [outstanding_eq_total] at hk ⊢
  cases h with
  | nothing => exact hk
  | created =>
    -- a draft is not active
    rw [total_add, inbound_eq_zero rfl, zero_add]
    exact hk
  | saved hfind _ _ hsaved =>
    rw [hsaved.orders_eq, total_set _ hfind, hsaved.inboundAt_eq]
    omega
  | eventSaved => exact hk
  | resolved => exact hk

/-! ### Adjustments that go negative -/

/-- The exception is not that of an adjustment of `inboundOpenPo` that goes negative. -/
def NotNegative (e : HttpException) : Prop :=
  ∀ branchId productId, e ≠ bucketNegative ProjectionBucket.inboundOpenPo.name branchId productId

theorem notNegative_notFound (m : String) : NotNegative (.notFound m) := by
  intro b p h
  cases h

theorem notNegative_forbidden (m : String) : NotNegative (.forbidden m) := by
  intro b p h
  cases h

variable {e : HttpException} {previous order : PurchaseOrder}

theorem notNegative_of_isNotFound (h : e.IsNotFound) : NotNegative e := by
  cases e with
  | notFound m => exact notNegative_notFound m
  | badRequest => cases h
  | forbidden => cases h
  | conflict => cases h
  | queryFailed => cases h
  | internal => cases h

theorem notNegative_badRequest {m : String} {c : Char} (hm : m.toList.head? = some c)
    (hne : c ≠ 'i') : NotNegative (.badRequest m) := by
  intro b p h
  have htext := HttpException.badRequest.inj h
  have hhead : m.toList.head? = some 'i' := by
    rw [htext]
    simp [toString, ProjectionBucket.name]
  rw [hm] at hhead
  exact hne (Option.some.inj hhead)

/-- When the bucket covers the projection before the change, only a missing branch or product stops a
round. -/
theorem syncInboundOpenPo_isNotFound {p : ℕ} {s s' : InventoryStore}
    (hcovered : (inboundOpenPoOf previous p : ℤ) ≤ s.inboundAt ⟨order.branchId, p⟩)
    (h : (syncInboundOpenPo previous order p).run s = (.error e, s')) : e.IsNotFound := by
  unfold syncInboundOpenPo at h
  dsimp only at h
  split_ifs at h with hzero
  · cases h
  rcases run_bind_eq_error.mp h with hadjust | ⟨r, s₁, -, hpure⟩
  · have hstock : 0 ≤ ProjectionBucket.inboundOpenPo.get (s.row ⟨order.branchId, p⟩) +
        ((inboundOpenPoOf order p : ℤ) - inboundOpenPoOf previous p) := by
      change 0 ≤ s.inboundAt ⟨order.branchId, p⟩ + _
      omega
    exact adjust_isNotFound hadjust hstock
  · cases hpure

/-- The same for the whole loop: a round leaves the buckets of the other products alone. -/
theorem forEach_syncInboundOpenPo_isNotFound {keys : List ℕ} (hnodup : keys.Nodup) {s s' : InventoryStore}
    (hcovered : ∀ p ∈ keys, (inboundOpenPoOf previous p : ℤ) ≤ s.inboundAt ⟨order.branchId, p⟩)
    (h : (Proc.forEach keys (syncInboundOpenPo previous order)).run s = (.error e, s')) : e.IsNotFound := by
  induction keys generalizing s with
  | nil => cases h
  | cons p keys ih =>
    obtain ⟨hnot, hrest⟩ := List.nodup_cons.mp hnodup
    rcases run_bind_eq_error.mp h with hround | ⟨⟨⟩, s₁, hround, htail⟩
    · exact syncInboundOpenPo_isNotFound (hcovered p (List.mem_cons_self ..)) hround
    · apply ih hrest _ htail
      intro q hq
      have hne : (⟨order.branchId, q⟩ : InventoryKey) ≠ ⟨order.branchId, p⟩ := by
        intro hkey
        have hqp : q = p := congrArg InventoryKey.productId hkey
        exact hnot (hqp ▸ hq)
      rw [(syncInboundOpenPo_receives hround).inboundAt_apply, atKey_of_ne hne, add_zero]
      exact hcovered q (List.mem_cons_of_mem _ hq)

theorem syncInboundOpenPoProjection_isNotFound {s : PurchaseOrderStore} (hs : s.Tracks) {id : ℕ}
    (hfind : s.orders.find id = some previous)
    (hbranch : order.branchId = previous.branchId) {inventory : InventoryStore}
    (h : (syncInboundOpenPoProjection previous order).run s.inventory = (.error e, inventory)) : e.IsNotFound := by
  apply forEach_syncInboundOpenPo_isNotFound (nodup_insertionOrder _) _ h
  intro p _
  have hle := hs.inbound_le hfind ⟨previous.branchId, p⟩
  unfold PurchaseOrder.inbound at hle
  rw [if_pos rfl, ← hbranch] at hle
  exact hle

/-! ### The exceptions of the handlers -/

variable (now : Date) (id : ℕ)

theorem raises_findOneById (branchId : Option ℕ) : Raises NotNegative (findOneById id branchId) := by
  refine Raises.bind (raises_read _) ?_
  intro found
  cases found with
  | none => exact raises_throw (notNegative_notFound _)
  | some order => exact (raises_throwIf (notNegative_notFound _)).bind fun _ => raises_pure _

theorem raises_findReceiptEventOrThrow (purchaseOrderId eventId : ℕ) (branchId : Option ℕ) :
    Raises NotNegative (findReceiptEventOrThrow purchaseOrderId eventId branchId) := by
  refine Raises.bind (raises_findOneById _ _) ?_
  intro order
  refine Raises.bind (raises_read _) ?_
  intro found
  cases found with
  | none => exact raises_throw (notNegative_notFound _)
  | some event => exact (raises_throwIf (notNegative_notFound _)).bind fun _ => raises_pure _

theorem notNegative_of_applyReceiptSideEffects {now : Date} {incremental : Bool} {dto : RecordPurchaseOrderReceiptDto}
    (h : applyReceiptSideEffects now incremental dto order = .error e) : NotNegative e := by
  unfold applyReceiptSideEffects at h
  dsimp only at h
  split at h
  · cases h
    exact notNegative_badRequest (c := 'R') (by simp [toString]) (by decide)
  · cases h

theorem notNegative_of_transitionedOrder {now : Date} {dto : UpdatePurchaseOrderStatusDto}
    {actor : PurchaseOrderActorContext} (h : transitionedOrder now dto actor order = .error e) : NotNegative e := by
  unfold transitionedOrder applyLifecycleSideEffects at h
  cases hnext : dto.status with
  | received =>
    rw [hnext] at h
    dsimp only at h
    split_ifs at h
    · cases h
    · rcases happly : applyReceiptSideEffects _ _ _ _ with e' | result <;> rw [happly] at h <;> cases h
      exact notNegative_of_applyReceiptSideEffects happly
  | shipped =>
    rw [hnext] at h
    split_ifs at h <;> cases h
  | _ =>
    rw [hnext] at h
    cases h

theorem raises_assertRoleAllowedForStatus (status : PurchaseOrderStatus) (roles : List UserRole) :
    Raises NotNegative (assertRoleAllowedForStatus status roles) :=
  raises_throwIf (notNegative_forbidden _)

theorem raises_assertReadyForReconciliation (order : PurchaseOrder) :
    Raises NotNegative (assertReadyForReconciliation id order) := by
  refine Raises.bind (raises_throwIf ?_) fun _ => Raises.bind (raises_read _) fun _ =>
    raises_throwIf ?_
  · exact notNegative_badRequest (c := 'P') (by simp) (by decide)
  · exact notNegative_badRequest (c := 'P') (by simp) (by decide)

theorem raises_prepareReceipt (order : PurchaseOrder)
    (dto : RecordPurchaseOrderReceiptDto) (actor : PurchaseOrderActorContext) :
    Raises NotNegative (prepareReceipt now order dto actor) := by
  refine Raises.bind (raises_throwIf ?_) fun _ =>
    Raises.bind (raises_assertRoleAllowedForStatus _ _) fun _ =>
      Raises.bind (raises_ofExcept ?_) fun _ => raises_pure _
  · exact notNegative_badRequest (c := 'R') (by simp) (by decide)
  · exact fun e => notNegative_of_applyReceiptSideEffects

theorem raises_prepareStatusUpdate (order : PurchaseOrder)
    (dto : UpdatePurchaseOrderStatusDto) (actor : PurchaseOrderActorContext) :
    Raises NotNegative (prepareStatusUpdate now id order dto actor) := by
  have hrest : Raises NotNegative (Proc.ofExcept (transitionedOrder now dto actor order) >>=
      fun next => pure (some next) : PurchaseOrderProc (Option PurchaseOrder)) :=
    Raises.bind (raises_ofExcept fun e => notNegative_of_transitionedOrder) fun _ => raises_pure _
  refine Raises.ite (raises_pure _) (Raises.bind (raises_throwIf ?_) fun _ =>
    Raises.bind (raises_assertRoleAllowedForStatus _ _) fun _ => Raises.ite ?_ hrest)
  · exact notNegative_badRequest (c := 'I') (by simp [toString]) (by decide)
  · exact Raises.bind (raises_assertReadyForReconciliation _ _) fun _ => hrest

theorem raises_recordReceiptLine (order : PurchaseOrder) (actorId : Option ℕ)
    (reason : Option String) (line : ReceiptLineSummary) :
    Raises NotNegative (recordReceiptLine now id order actorId reason line) := by
  unfold recordReceiptLine
  by_cases hzero : line.receivedQuantity = 0
  · rw [if_pos hzero]
    exact raises_pure _
  · rw [if_neg hzero]
    refine Raises.bind ?_ fun _ => raises_pure _
    intro s s' e h
    have hd : (receiptMovement now id order actorId reason line).quantityDelta ≠ 0 :=
      Int.natCast_ne_zero.mpr hzero
    by_cases hk : s.Known (receiptMovement now id order actorId reason line).key
    · rw [run_recordMovement hd hk] at h
      split_ifs at h <;> cases h
      exact notNegative_badRequest (c := 'I') (by simp [toString]) (by decide)
    · obtain ⟨e', hnotFound, hrun⟩ := run_recordMovement_of_not_known hd hk now true
      cases h.symm.trans hrun
      exact notNegative_of_isNotFound hnotFound

theorem raises_persistReceipt (order : PurchaseOrder)
    (lines : List ReceiptLineSummary) (actorId : Option ℕ) (reason metadata : Option String) :
    Raises NotNegative (persistReceipt now id order lines actorId reason metadata) := by
  refine Raises.bind (Raises.zoom (raises_forEach (raises_recordReceiptLine now id order actorId reason) _)) fun _ => ?_
  -- the event is inserted and its value posted, neither of which fails
  intro s s' e h
  have hrun := run_postReceiptEventToLedger now id order lines s.receiptEvents.next
    { s with
      receiptEvents := s.receiptEvents.add (newReceiptEvent now id lines actorId reason metadata) }
  have hsplit : (persistReceiptEvent now id order lines actorId reason metadata).run s = (.ok (), _) :=
    hrun
  rw [hsplit] at h
  cases h

section Calls

variable {s : PurchaseOrderStore} {id : ℕ} {previous order : PurchaseOrder}

theorem raisesFrom_saveOrder_sync {rest : Unit → PurchaseOrderProc Unit} (hs : s.Tracks)
    (hfind : s.orders.find id = some previous) (hbranch : order.branchId = previous.branchId)
    (hrest : Raises NotNegative (rest ())) :
    RaisesFrom NotNegative (saveOrder id order >>= fun _ =>
      Proc.zoom PurchaseOrderStore.inventoryLens (syncInboundOpenPoProjection previous order) >>= rest) s := by
  intro s' e h
  rcases run_bind_eq_error.mp h with hsave | ⟨_, s₁, hsave, h⟩
  · cases hsave
  · cases hsave
    rcases run_bind_eq_error.mp h with hsync | ⟨⟨⟩, s₂, -, h⟩
    · obtain ⟨inventory, hinventory, -⟩ := run_zoom_eq.mp hsync
      exact notNegative_of_isNotFound (syncInboundOpenPoProjection_isNotFound hs hfind hbranch hinventory)
    · exact hrest s₂ s' e h

variable (now : Date) (actor : PurchaseOrderActorContext)

section

variable (hs : s.Tracks)

include hs

theorem raisesFrom_persistReceiptUpdate (hfind : s.orders.find id = some previous)
    (hbranch : order.branchId = previous.branchId) (lines : List ReceiptLineSummary)
    (dto : RecordPurchaseOrderReceiptDto) :
    RaisesFrom NotNegative (persistReceiptUpdate now id previous order lines dto actor) s :=
  raisesFrom_saveOrder_sync hs hfind hbranch (raises_persistReceipt _ _ _ _ _ _ _)

theorem raisesFrom_persistStatusUpdate (hfind : s.orders.find id = some previous)
    (hbranch : order.branchId = previous.branchId) (dto : UpdatePurchaseOrderStatusDto) :
    RaisesFrom NotNegative (persistStatusUpdate now id previous order dto actor) s :=
  raisesFrom_saveOrder_sync hs hfind hbranch (Raises.ite (raises_persistReceipt _ _ _ _ _ _ _) (raises_pure _))

theorem raisesFrom_recordReceiptEvent (id : ℕ) (dto : RecordPurchaseOrderReceiptDto) :
    RaisesFrom NotNegative (recordReceiptEvent now id dto actor) s := by
  refine (readOnly_findOneById _ _).raisesFrom_bind (raises_findOneById _ _) fun previous hload => ?_
  refine (readOnly_prepareReceipt _ _ _ _).raisesFrom_bind (raises_prepareReceipt _ _ _ _) ?_
  rintro ⟨order, lines⟩ hprepare
  obtain ⟨-, hstep⟩ := prepareReceipt_eq_ok hprepare
  have hpersist := raisesFrom_persistReceiptUpdate now actor hs (findOneById_eq_ok hload).2.1
    hstep.branchId_eq lines dto
  exact hpersist.transaction.bind fun _ => raises_findOneById _ _

theorem raisesFrom_updateLoadedStatus (hfind : s.orders.find id = some previous)
    (dto : UpdatePurchaseOrderStatusDto) (manager : Bool) :
    RaisesFrom NotNegative (updateLoadedStatus now id previous dto actor manager) s := by
  refine (readOnly_prepareStatusUpdate _ _ _ _ _).raisesFrom_bind
    (raises_prepareStatusUpdate _ _ _ _ _) fun next hprepare => ?_
  cases next with
  | none => exact Raises.ite (raises_findOneById _ _) (raises_pure _) s
  | some order =>
    obtain ⟨-, hstep, -⟩ := prepareStatusUpdate_eq_ok hprepare
    have hpersist := raisesFrom_persistStatusUpdate now actor hs hfind hstep.branchId_eq dto
    cases manager with
    | true => exact hpersist.bind fun _ => raises_findOneById _ _
    | false => exact hpersist.transaction.bind fun _ => raises_findOneById _ _

theorem raisesFrom_updateStatus (id : ℕ) (dto : UpdatePurchaseOrderStatusDto) :
    RaisesFrom NotNegative (updateStatus now id dto actor) s := by
  refine (readOnly_findOneById _ _).raisesFrom_bind (raises_findOneById _ _) fun previous hload => ?_
  exact raisesFrom_updateLoadedStatus now actor hs (findOneById_eq_ok hload).2.1 dto false

theorem raisesFrom_updateSupplierStatus (id : ℕ) (dto : UpdatePurchaseOrderStatusDto) :
    RaisesFrom NotNegative (updateSupplierStatus now id dto actor) s := by
  refine (readOnly_throwIf _ _).raisesFrom_bind
    (raises_throwIf (notNegative_badRequest (c := 'S') (by simp) (by decide))) fun _ _ => ?_
  refine (readOnly_findOneById _ _).raisesFrom_bind (raises_findOneById _ _) fun order _ => ?_
  split_ifs
  · have hresolve : Raises NotNegative (resolveActorSupplierProfileId actor.id) := by
      unfold resolveActorSupplierProfileId
      split
      · exact raises_pure _
      · exact raises_pure _
      · exact Raises.bind (raises_read _) fun _ => raises_pure _
    refine (readOnly_resolveActorSupplierProfileId _).raisesFrom_bind hresolve fun _ _ => ?_
    refine (readOnly_throwIf _ _).raisesFrom_bind (raises_throwIf (notNegative_forbidden _)) fun _ _ => ?_
    exact raisesFrom_updateStatus now _ hs id dto
  · exact raisesFrom_updateStatus now _ hs id dto

end

theorem raises_checkItem (dto : CreatePurchaseOrderDto) (item : CreatePurchaseOrderItemDto) :
    Raises NotNegative (checkItem dto item) := by
  refine Raises.bind (Raises.zoom (raises_read _)) fun _ =>
    Raises.bind (raises_throwIf (notNegative_notFound _)) fun _ => ?_
  split
  · exact raises_pure _
  · refine Raises.bind (raises_read _) fun supplierOffer => ?_
    split
    · exact raises_throw (notNegative_notFound _)
    · refine Raises.bind (raises_throwIf ?_) fun _ => raises_throwIf ?_
      · exact notNegative_badRequest (c := 'S') (by simp [toString]) (by decide)
      · exact notNegative_badRequest (c := 'S') (by simp [toString]) (by decide)

theorem raises_create (dto : CreatePurchaseOrderDto) : Raises NotNegative (create now dto) := by
  refine Raises.bind (Raises.zoom (raises_read _)) fun _ =>
    Raises.bind (raises_throwIf (notNegative_notFound _)) fun _ =>
      Raises.bind (raises_read _) fun supplierProfile => ?_
  split
  · exact raises_throw (notNegative_notFound _)
  · refine Raises.bind (raises_throwIf (notNegative_badRequest (c := 'P') (by simp) (by decide)))
      fun _ => Raises.bind (raises_forEach (raises_checkItem dto) _) fun _ =>
        Raises.bind ?_ fun _ => raises_findOneById _ _
    refine Raises.bind (raises_read _) fun _ => Raises.bind (raises_throwIf ?_) fun _ => ?_
    · intro b p h
      cases h
    · intro s s' e h
      cases h

variable (purchaseOrderId eventId : ℕ)

theorem raises_saveReceiptEvent (event : PurchaseOrderReceiptEvent) :
    Raises NotNegative (saveReceiptEvent eventId event >>= fun _ =>
      (pure event : PurchaseOrderProc PurchaseOrderReceiptEvent)) :=
  Raises.bind (raises_write _) fun _ => raises_pure _

theorem raises_acknowledgeReceiptEvent (note : Option String) :
    Raises NotNegative (acknowledgeReceiptEvent now purchaseOrderId eventId note actor) :=
  Raises.bind (raises_throwIf (notNegative_forbidden _)) fun _ =>
    Raises.bind (raises_findReceiptEventOrThrow _ _ _) fun _ =>
      Raises.ite (raises_pure _) (raises_saveReceiptEvent _ _)

theorem raises_resolveReceiptEventDiscrepancy (note : String) (metadata : Option String) :
    Raises NotNegative (resolveReceiptEventDiscrepancy now purchaseOrderId eventId note metadata actor) :=
  Raises.bind (raises_throwIf (notNegative_forbidden _)) fun _ =>
    Raises.bind (raises_findReceiptEventOrThrow _ _ _) fun _ =>
      Raises.bind (raises_throwIf (notNegative_badRequest (c := 'T') (by simp) (by decide)))
        fun _ => raises_saveReceiptEvent _ _

theorem raises_approveReceiptEventDiscrepancy (note : Option String) :
    Raises NotNegative (approveReceiptEventDiscrepancy now purchaseOrderId eventId note actor) :=
  Raises.bind (raises_throwIf (notNegative_forbidden _)) fun _ =>
    Raises.bind (raises_findReceiptEventOrThrow _ _ _) fun _ =>
      Raises.bind (raises_throwIf (notNegative_badRequest (c := 'O') (by simp) (by decide)))
        fun _ => raises_saveReceiptEvent _ _

theorem raises_forceCloseReceiptEventDiscrepancy (note : String) :
    Raises NotNegative (forceCloseReceiptEventDiscrepancy now purchaseOrderId eventId note actor) :=
  Raises.bind (raises_throwIf (notNegative_forbidden _)) fun _ =>
    Raises.bind (raises_findReceiptEventOrThrow _ _ _) fun _ =>
      Raises.bind (raises_throwIf (notNegative_badRequest (c := 'T') (by simp) (by decide)))
        fun _ => Raises.ite (raises_pure _) (raises_saveReceiptEvent _ _)

theorem raisesFrom_handler (hs : s.Tracks) (c : PurchaseOrderCall) : RaisesFrom NotNegative c.handler s := by
  cases c with
  | create now dto => exact ((raises_create now dto) s).bind fun _ => raises_pure _
  | recordReceiptEvent now id dto actor =>
    exact (raisesFrom_recordReceiptEvent now actor hs id dto).bind fun _ => raises_pure _
  | acknowledgeReceiptEvent now purchaseOrderId eventId note actor =>
    exact ((raises_acknowledgeReceiptEvent now actor purchaseOrderId eventId note) s).bind fun _ => raises_pure _
  | resolveReceiptEventDiscrepancy now purchaseOrderId eventId note metadata actor =>
    exact ((raises_resolveReceiptEventDiscrepancy now actor purchaseOrderId eventId note metadata)
      s).bind fun _ => raises_pure _
  | approveReceiptEventDiscrepancy now purchaseOrderId eventId note actor =>
    exact ((raises_approveReceiptEventDiscrepancy now actor purchaseOrderId eventId note) s).bind fun _ => raises_pure _
  | forceCloseReceiptEventDiscrepancy now purchaseOrderId eventId note actor =>
    exact ((raises_forceCloseReceiptEventDiscrepancy now actor purchaseOrderId eventId note) s).bind
      fun _ => raises_pure _
  | updateStatus now id dto actor =>
    exact (raisesFrom_updateStatus now actor hs id dto).bind fun _ => raises_pure _
  | updateStatusWithManager now id dto actor =>
    have hupdate : RaisesFrom NotNegative (updateStatusWithManager now id dto actor) s :=
      (readOnly_findOneById _ _).raisesFrom_bind (raises_findOneById _ _) fun previous hload =>
        raisesFrom_updateLoadedStatus now actor hs (findOneById_eq_ok hload).2.1 dto true
    exact hupdate.transaction.bind fun _ => raises_pure _
  | updateSupplierStatus now id dto actor =>
    exact (raisesFrom_updateSupplierStatus now actor hs id dto).bind fun _ => raises_pure _

end Calls

/-! ### Runs -/

/-- **What is on order, over whole runs.**  After any calls from tables with nothing on order, every
row holds what is outstanding for it in the active orders of its branch, and the next call does not
fail because an adjustment of `inboundOpenPo` would go negative. -/
theorem inboundOpenPo_tracks (S₀ : PurchaseOrderStore) (hnothing : S₀.NothingOnOrder)
    (calls : List PurchaseOrderCall) (c : PurchaseOrderCall) :
    let S := Run.after PurchaseOrderCall.step S₀ calls
    (∀ k, S.inventory.inboundAt k = S.outstanding k) ∧
    ∀ branchId productId, (c.handler.run S).1 ≠
      .error (bucketNegative ProjectionBucket.inboundOpenPo.name branchId productId) := by
  intro S
  have htracks : S.Tracks :=
    Run.after_invariant (fun S c hS => (c.change S).tracks hS) hnothing.tracks calls
  refine ⟨htracks, fun branchId productId h => ?_⟩
  exact raisesFrom_handler htracks c _ _ (Prod.ext h rfl) branchId productId rfl

theorem noPurchaseOrders_nothingOnOrder : noPurchaseOrders.NothingOnOrder := by
  constructor
  · intro k
    rfl
  · intro id order hfind
    cases hfind

/-- Of ten units on order six are received; four are still to come. -/
theorem inboundOpenPo_tracks_receipt :
    let S := Run.after PurchaseOrderCall.step noPurchaseOrders
      (shippedOrder ++ [.recordReceiptEvent 0 1 (receiptOfUnits 6 0) administrator])
    S.inventory.inboundAt ⟨1, 7⟩ = S.outstanding ⟨1, 7⟩ ∧ S.inventory.inboundAt ⟨1, 7⟩ = 4 := by
  have h := inboundOpenPo_tracks noPurchaseOrders noPurchaseOrders_nothingOnOrder
    (shippedOrder ++ [.recordReceiptEvent 0 1 (receiptOfUnits 6 0) administrator])
    (moveTo .reconciled)
  exact ⟨h.1 ⟨1, 7⟩, by decide +kernel⟩

end SuuqBackend
