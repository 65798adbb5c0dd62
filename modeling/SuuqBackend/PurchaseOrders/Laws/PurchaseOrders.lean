import SuuqBackend.Accounting.Laws.GeneralLedger
import SuuqBackend.PurchaseOrders.Laws.InboundStock

/-!
# What the purchase order operations do

* `OrderStep`: which orders an order in memory can become, with the receipt that goes with it.
* `PurchaseOrderCall.change`: every call is one of the changes listed in `PurchaseOrderChange`; a call
  that throws leaves the tables as they were (`PurchaseOrderCall.step_eq_of_not_succeeds`).
-/

namespace SuuqBackend

open Proc PurchaseOrders PurchaseOrderRepository PurchaseOrderStore

/-! ### Steps of an order -/

inductive OrderStep (previous order : PurchaseOrder) : Option (List ReceiptLineSummary) → Prop where
  /-- A step to another status than `RECEIVED`. -/
  | advance : order.status ∈ purchaseOrderTransitions previous.status → order.status ≠ .received →
      order.items = previous.items → order.branchId = previous.branchId →
      order.receivedAt = previous.receivedAt → OrderStep previous order none
  /-- A receipt: an incremental one, or the first one. -/
  | receive {incremental : Bool} {lines : List PurchaseOrderReceiptLineDto} :
      (previous.status = .shipped ∨ previous.status = .received) →
      (incremental = false → previous.status = .shipped ∧ previous.receivedAt = none) →
      order.status = .received → order.branchId = previous.branchId →
      order.items = previous.items.map (fun item =>
        receivedItem incremental (receiptSummaryOf lines item) item) →
      (∀ item ∈ order.items, ¬ ExceedsOrdered item) →
      OrderStep previous order (some (previous.items.map (receiptSummaryOf lines)))
  /-- A step to `RECEIVED` of an order that has the date of a receipt repeats its latest receipt. -/
  | repeatReceipt {lines : List ReceiptLineSummary} : previous.status = .shipped →
      previous.receivedAt.isSome = true → order.status = .received →
      order.branchId = previous.branchId → order.items = previous.items →
      OrderStep previous order (some lines)

variable {order previous : PurchaseOrder} {now : Date} {actor : PurchaseOrderActorContext}
  {dto : UpdatePurchaseOrderStatusDto} {branchId : Option ℕ} {s s' : PurchaseOrderStore} {id : ℕ}

theorem OrderStep.branchId_eq {receipt : Option (List ReceiptLineSummary)} (h : OrderStep previous order receipt) :
    order.branchId = previous.branchId := by
  cases h with
  | advance _ _ _ hbranch => exact hbranch
  | receive _ _ _ hbranch => exact hbranch
  | repeatReceipt _ _ _ hbranch => exact hbranch

variable {received : PurchaseOrder} {receiptSummary lines : List ReceiptLineSummary}
  {eventId purchaseOrderId : ℕ} {event : PurchaseOrderReceiptEvent}

theorem applyReceiptSideEffects_eq_ok {incremental : Bool} {dto : RecordPurchaseOrderReceiptDto}
    (h : applyReceiptSideEffects now incremental dto order = .ok (received, receiptSummary)) :
    received = receivedOrder incremental now dto order ∧
      receiptSummary = order.items.map (receiptSummaryOf dto.receiptLines) ∧
      ∀ item ∈ received.items, ¬ ExceedsOrdered item := by
  unfold applyReceiptSideEffects at h
  dsimp only at h
  cases hfind : (receivedOrder incremental now dto order).items.find? fun item => ExceedsOrdered item with
  | some item =>
    rw [hfind] at h
    cases h
  | none =>
    rw [hfind] at h
    cases h
    refine ⟨rfl, rfl, fun item hitem => ?_⟩
    have hnot := List.find?_eq_none.mp hfind item hitem
    rwa [decide_eq_true_eq] at hnot

theorem transitionedOrder_of_ne_received
    (hstatus : dto.status ∈ purchaseOrderTransitions previous.status) (hne : dto.status ≠ .received)
    (h : transitionedOrder now dto actor previous = .ok order) :
    order.status = dto.status ∧ OrderStep previous order none := by
  have hsame : order.status = dto.status ∧ order.items = previous.items ∧
      order.branchId = previous.branchId ∧ order.receivedAt = previous.receivedAt := by
    unfold transitionedOrder applyLifecycleSideEffects at h
    cases hnext : dto.status with
    | received => exact absurd hnext hne
    | shipped =>
      rw [hnext] at h
      split_ifs at h <;> cases h <;> exact ⟨rfl, rfl, rfl, rfl⟩
    | _ =>
      rw [hnext] at h
      cases h
      exact ⟨rfl, rfl, rfl, rfl⟩
  obtain ⟨hstatus', hitems, hbranch, hreceivedAt⟩ := hsame
  rw [← hstatus'] at hstatus hne
  exact ⟨hstatus', .advance hstatus hne hitems hbranch hreceivedAt⟩

theorem shipped_of_received_mem {status : PurchaseOrderStatus}
    (h : .received ∈ purchaseOrderTransitions status) : status = .shipped := by
  cases status <;> simp_all [purchaseOrderTransitions]

theorem transitionedOrder_received (hshipped : previous.status = .shipped) (hdto : dto.status = .received)
    (h : transitionedOrder now dto actor previous = .ok order) :
    order.status = .received ∧ OrderStep previous order
      (some ((order.statusMeta.latestReceipt.map fun receipt => receipt.items).getD [])) := by
  unfold transitionedOrder applyLifecycleSideEffects at h
  rw [hdto] at h
  dsimp only at h
  split_ifs at h with hreceived
  · cases h
    exact ⟨rfl, .repeatReceipt hshipped hreceived rfl rfl rfl⟩
  · rw [Option.not_isSome_iff_eq_none] at hreceived
    cases happly : applyReceiptSideEffects now false dto.toRecordPurchaseOrderReceiptDto
        { previous with
          status := .received
          receivedAt := some now
          statusMeta := { previous.statusMeta with
            lastTransition := some
              { fromStatus := previous.status
                toStatus := .received
                actorId := actor.id
                actorEmail := actor.email
                reason := dto.reason
                trackingReference := dto.trackingReference
                metadata := dto.metadata
                changedAt := now } } } with
    | error e =>
      rw [happly] at h
      cases h
    | ok result =>
      rw [happly] at h
      cases h
      obtain ⟨hresult, -, hfits⟩ := applyReceiptSideEffects_eq_ok happly
      rw [hresult] at hfits ⊢
      exact ⟨rfl, @OrderStep.receive _ _ false dto.receiptLines (.inl hshipped)
        (fun _ => ⟨hshipped, hreceived⟩) rfl rfl rfl hfits⟩

/-! ### Loading and checking -/

theorem readOnly_findOneById (id : ℕ) (branchId : Option ℕ) : ReadOnly (findOneById id branchId) := by
  apply (readOnly_read _).bind
  intro found
  cases found with
  | none => exact readOnly_throw _
  | some order => exact (readOnly_throwIf _ _).bind fun _ => readOnly_pure _

theorem findOneById_eq_ok (h : (findOneById id branchId).run s = (.ok order, s')) :
    s' = s ∧ s.orders.find id = some order ∧ InScope branchId order := by
  have hs' := (readOnly_findOneById id branchId).eq_of_run h
  unfold findOneById at h
  rw [run_read_bind] at h
  cases hfind : s.orders.find id with
  | none =>
    rw [hfind] at h
    cases h
  | some found =>
    rw [hfind] at h
    rw [run_throwIf_bind] at h
    split_ifs at h with hscope <;> cases h
    exact ⟨hs', rfl, hscope⟩

theorem run_findOneById (h : s.orders.find id = some order) (hscope : InScope branchId order) :
    (findOneById id branchId).run s = (.ok order, s) := by
  unfold findOneById
  rw [run_read_bind, h]
  rw [run_throwIf_bind, if_neg (not_not.mpr hscope)]
  rfl

theorem run_findOneById_none (h : s.orders.find id = some order) : (findOneById id none).run s = (.ok order, s) :=
  run_findOneById h fun b hb => by cases hb

/-- The caller may load the event, which belongs to the order. -/
def Loads (s : PurchaseOrderStore) (purchaseOrderId eventId : ℕ) (branchId : Option ℕ)
    (event : PurchaseOrderReceiptEvent) : Prop :=
  (∃ order, s.orders.find purchaseOrderId = some order ∧ InScope branchId order) ∧
    s.receiptEvents.find eventId = some event ∧ event.purchaseOrderId = purchaseOrderId

theorem readOnly_findReceiptEventOrThrow (purchaseOrderId eventId : ℕ) (branchId : Option ℕ) :
    ReadOnly (findReceiptEventOrThrow purchaseOrderId eventId branchId) := by
  apply (readOnly_findOneById _ _).bind
  intro order
  apply (readOnly_read _).bind
  intro found
  cases found with
  | none => exact readOnly_throw _
  | some event => exact (readOnly_throwIf _ _).bind fun _ => readOnly_pure _

theorem findReceiptEventOrThrow_eq_ok
    (h : (findReceiptEventOrThrow purchaseOrderId eventId branchId).run s = (.ok event, s')) :
    s' = s ∧ Loads s purchaseOrderId eventId branchId event := by
  have hs' := (readOnly_findReceiptEventOrThrow purchaseOrderId eventId branchId).eq_of_run h
  subst hs'
  obtain ⟨order, s₁, hload, h⟩ := run_bind_eq_ok.mp h
  obtain ⟨rfl, horder⟩ := findOneById_eq_ok hload
  rw [run_read_bind] at h
  cases hfind : s₁.receiptEvents.find eventId with
  | none =>
    rw [hfind] at h
    cases h
  | some found =>
    rw [hfind] at h
    rw [run_throwIf_bind] at h
    split_ifs at h with hsame <;> cases h
    exact ⟨rfl, ⟨order, horder⟩, hfind, not_not.mp hsame⟩

theorem run_findReceiptEventOrThrow (h : Loads s purchaseOrderId eventId branchId event) :
    (findReceiptEventOrThrow purchaseOrderId eventId branchId).run s = (.ok event, s) := by
  obtain ⟨⟨order, horder, hscope⟩, hevent, hid⟩ := h
  unfold findReceiptEventOrThrow
  rw [run_bind_of_ok (run_findOneById horder hscope), run_read_bind, hevent]
  rw [run_throwIf_bind, if_neg (not_not.mpr hid)]
  rfl

theorem readOnly_assertReadyForReconciliation (id : ℕ) (order : PurchaseOrder) :
    ReadOnly (assertReadyForReconciliation id order) :=
  (readOnly_throwIf _ _).bind fun _ => (readOnly_read _).bind fun _ => readOnly_throwIf _ _

theorem assertReadyForReconciliation_eq_ok (h : (assertReadyForReconciliation id order).run s = (.ok (), s')) :
    ∀ event ∈ s.eventsOf id, ¬ Blocks event := by
  unfold assertReadyForReconciliation at h
  rw [run_throwIf_bind] at h
  split_ifs at h with houtstanding
  · cases h
  · rw [run_read_bind, run_throwIf] at h
    split_ifs at h with hblocks
    · cases h
    · intro event hevent hblock
      exact hblocks ⟨event, hevent, hblock⟩

theorem readOnly_prepareReceipt (now : Date) (order : PurchaseOrder)
    (dto : RecordPurchaseOrderReceiptDto) (actor : PurchaseOrderActorContext) :
    ReadOnly (prepareReceipt now order dto actor) :=
  (readOnly_throwIf _ _).bind fun _ => (readOnly_throwIf _ _).bind fun _ =>
    (readOnly_ofExcept _).bind fun _ => readOnly_pure _

/-- What `recordReceiptEvent` saves of an order, with its receipt summary. -/
def preparedReceipt (now : Date) (order : PurchaseOrder) (dto : RecordPurchaseOrderReceiptDto) :
    PurchaseOrder × List ReceiptLineSummary :=
  ({ receivedOrder true now dto order with
      status := .received, receivedAt := some (order.receivedAt.getD now) },
    order.items.map (receiptSummaryOf dto.receiptLines))

theorem eq_preparedReceipt {dto : RecordPurchaseOrderReceiptDto}
    (h : (prepareReceipt now order dto actor).run s = (.ok (received, receiptSummary), s')) :
    (received, receiptSummary) = preparedReceipt now order dto ∧
      OrderStep order received (some receiptSummary) := by
  obtain ⟨_, s₁, hcheck, h⟩ := run_bind_eq_ok.mp h
  obtain ⟨-, s₂, -, h⟩ := run_bind_eq_ok.mp h
  obtain ⟨⟨changed, summary⟩, s₃, happly, h⟩ := run_bind_eq_ok.mp h
  rw [run_ofExcept] at happly
  cases h
  obtain ⟨hchanged, hsummary, hfits⟩ := applyReceiptSideEffects_eq_ok (congrArg Prod.fst happly)
  have hstatus : order.status = .shipped ∨ order.status = .received := by
    rw [run_throwIf] at hcheck
    split_ifs at hcheck with hmem
    · simpa using hmem
    · cases hcheck
  subst hchanged hsummary
  exact ⟨rfl, @OrderStep.receive _ _ true _ hstatus (fun hfalse => absurd hfalse (by decide)) rfl rfl rfl hfits⟩

theorem prepareReceipt_eq_ok {dto : RecordPurchaseOrderReceiptDto}
    (h : (prepareReceipt now order dto actor).run s = (.ok (received, receiptSummary), s')) :
    received.status = .received ∧ OrderStep order received (some receiptSummary) := by
  obtain ⟨hprepared, hstep⟩ := eq_preparedReceipt h
  cases hprepared
  exact ⟨rfl, hstep⟩

theorem readOnly_prepareStatusUpdate (now : Date) (id : ℕ) (order : PurchaseOrder)
    (dto : UpdatePurchaseOrderStatusDto) (actor : PurchaseOrderActorContext) :
    ReadOnly (prepareStatusUpdate now id order dto actor) := by
  apply (readOnly_pure _).ite
  apply (readOnly_throwIf _ _).bind
  intro _
  apply (readOnly_throwIf _ _).bind
  intro _
  have hrest : ReadOnly (Proc.ofExcept (transitionedOrder now dto actor order) >>= fun next =>
      pure (some next) : PurchaseOrderProc (Option PurchaseOrder)) :=
    (readOnly_ofExcept _).bind fun _ => readOnly_pure _
  exact ((readOnly_assertReadyForReconciliation _ _).bind fun _ => hrest).ite hrest

theorem eq_ok_of_run_ofExcept_bind {x : Except HttpException PurchaseOrder}
    (h : (Proc.ofExcept x >>= fun next => pure (some next)).run s = (.ok (some order), s')) : x = .ok order := by
  obtain ⟨next, s₁, hnext, hrest⟩ := run_bind_eq_ok.mp h
  rw [run_ofExcept] at hnext
  cases hrest
  exact congrArg Prod.fst hnext

/-- The receipt that `persistStatusUpdate` writes. -/
def receiptOf (order : PurchaseOrder) : Option (List ReceiptLineSummary) :=
  if order.status = .received then
    some ((order.statusMeta.latestReceipt.map fun receipt => receipt.items).getD [])
  else none

theorem prepareStatusUpdate_eq_ok
    (h : (prepareStatusUpdate now id previous dto actor).run s = (.ok (some order), s')) :
    order.status = dto.status ∧ OrderStep previous order (receiptOf order) ∧
      (order.status = .reconciled → ∀ event ∈ s.eventsOf id, ¬ Blocks event) := by
  unfold prepareStatusUpdate at h
  by_cases hsame : previous.status = dto.status
  · rw [if_pos hsame] at h
    cases h
  rw [if_neg hsame] at h
  obtain ⟨_, s₁, hcheck, h⟩ := run_bind_eq_ok.mp h
  rw [run_throwIf] at hcheck
  have htransition : dto.status ∈ purchaseOrderTransitions previous.status := by
    by_contra hnot
    rw [if_pos hnot] at hcheck
    cases hcheck
  obtain rfl : s = s₁ := congrArg Prod.snd hcheck
  obtain ⟨_, s₂, hrole, hrest⟩ := run_bind_eq_ok.mp h
  obtain rfl := (readOnly_throwIf _ _).eq_of_run hrole
  have hready : dto.status = .reconciled → ∀ event ∈ s₂.eventsOf id, ¬ Blocks event := by
    intro hreconciled
    rw [if_pos hreconciled] at hrest
    obtain ⟨_, s₃, hready, -⟩ := run_bind_eq_ok.mp hrest
    exact assertReadyForReconciliation_eq_ok hready
  have hnext : transitionedOrder now dto actor previous = .ok order := by
    split_ifs at hrest
    · obtain ⟨_, s₃, -, hlast⟩ := run_bind_eq_ok.mp hrest
      exact eq_ok_of_run_ofExcept_bind hlast
    · exact eq_ok_of_run_ofExcept_bind hrest
  by_cases hreceived : dto.status = .received
  · have hshipped : previous.status = .shipped :=
      shipped_of_received_mem (hreceived ▸ htransition)
    obtain ⟨hstatus, hstep⟩ := transitionedOrder_received hshipped hreceived hnext
    rw [receiptOf, hstatus, hreceived]
    exact ⟨rfl, hstep, fun hreconciled => by cases hreconciled⟩
  · obtain ⟨hstatus, hstep⟩ := transitionedOrder_of_ne_received htransition hreceived hnext
    rw [receiptOf, hstatus, if_neg hreceived]
    exact ⟨rfl, hstep, hready⟩

/-! ### The value of the goods -/

theorem assertBalanced_receiptEntry {id eventId : ℕ} {order : PurchaseOrder} {value : ℚ}
    (hvalue : 0 < value) (occurredAt : Date) :
    GeneralLedger.assertBalanced (receiptEntry id order value (receiptEventKey eventId) occurredAt) = .ok () := by
  have hkey : receiptEventKey eventId ≠ "" := by
    intro hempty
    have hprefix := (String.append_eq_empty_iff.mp hempty).1
    exact absurd hprefix (by decide)
  exact GeneralLedger.assertBalanced_ok_of_pair hkey hvalue rfl

/-- The journal after goods of this value have been received. -/
def journalAfterReceipt (now : Date) (id : ℕ) (order : PurchaseOrder) (value : ℚ) (eventId : ℕ) (journal : GlStore) :
    GlStore :=
  if value ≤ 0 then journal
  else ((GeneralLedger.post now (receiptEntry id order value (receiptEventKey eventId) now) true).run journal).2

theorem run_postReceiptEventToLedger (now : Date) (id : ℕ) (order : PurchaseOrder)
    (receiptSummary : List ReceiptLineSummary) (eventId : ℕ) (s : PurchaseOrderStore) :
    (postReceiptEventToLedger now id order receiptSummary (receiptEventKey eventId) now).run s =
      (.ok (), { s with
        journal := journalAfterReceipt now id order (receivedValue order receiptSummary) eventId s.journal }) := by
  unfold postReceiptEventToLedger journalAfterReceipt
  dsimp only
  split_ifs with hvalue
  · rfl
  · have haccepted := @assertBalanced_receiptEntry id eventId order _ (not_le.mp hvalue) now
    have hpost : ∃ entry journal, (GeneralLedger.post now (receiptEntry id order
        (receivedValue order receiptSummary) (receiptEventKey eventId) now) true).run s.journal =
          (.ok entry, journal) := by
      rw [run_post, haccepted]
      dsimp only
      rw [run_postWithin]
      split
      · exact ⟨_, _, rfl⟩
      · exact ⟨_, _, rfl⟩
    obtain ⟨entry, journal, hrun⟩ := hpost
    rw [hrun]
    exact run_bind_of_ok (run_zoom_of (L := journalLens) hrun) _

/-! ### What a step writes -/

/-- What the transaction of a step writes: the order, what it moves on order, and with a receipt the
movements, the event and the value of the goods. -/
inductive SavedOrder (s : PurchaseOrderStore) (id : ℕ) (previous order : PurchaseOrder) :
    Option (List ReceiptLineSummary) → PurchaseOrderStore → Prop where
  | advanced {inventory : InventoryStore} :
      Receives s.inventory inventory (order.inbound - previous.inbound) [] →
      SavedOrder s id previous order none { s with inventory, orders := s.orders.set id order }
  | received {inventory : InventoryStore} {journal : GlStore} {now : Date} {actorId : Option ℕ}
      {reason metadata : Option String} {lines : List ReceiptLineSummary} :
      Receives s.inventory inventory (order.inbound - previous.inbound)
        (receiptMovements now id order actorId reason lines) →
      SavedOrder s id previous order (some lines)
        { s with
          inventory, journal
          orders := s.orders.set id order
          receiptEvents := s.receiptEvents.add (newReceiptEvent now id lines actorId reason metadata) }

theorem persistReceipt_eq_ok {actorId : Option ℕ} {reason metadata : Option String}
    (h : (persistReceipt now id order lines actorId reason metadata).run s = (.ok (), s')) :
    ∃ inventory, Receives s.inventory inventory 0
        (receiptMovements now id order actorId reason lines) ∧
      s' = { s with
        inventory
        journal := journalAfterReceipt now id order (receivedValue order lines) s.receiptEvents.next s.journal
        receiptEvents := s.receiptEvents.add (newReceiptEvent now id lines actorId reason metadata) } := by
  obtain ⟨_, s₁, hmovements, hevent⟩ := run_bind_eq_ok.mp h
  obtain ⟨inventory, hinventory, rfl⟩ := run_zoom_eq.mp hmovements
  have hreceives := persistReceiptSideEffects_receives hinventory
  have hjournal := run_postReceiptEventToLedger now id order lines s.receiptEvents.next
    { s with
      inventory
      receiptEvents := s.receiptEvents.add (newReceiptEvent now id lines actorId reason metadata) }
  have hs' : s' = _ := congrArg Prod.snd (hevent.symm.trans hjournal)
  exact ⟨inventory, hreceives, hs'⟩

theorem saveOrder_sync_eq_ok {rest : Unit → PurchaseOrderProc Unit} (hbranch : previous.branchId = order.branchId)
    (h : (saveOrder id order >>= fun _ =>
      Proc.zoom PurchaseOrderStore.inventoryLens
        (syncInboundOpenPoProjection previous order) >>= rest).run s =
        (.ok (), s')) :
    ∃ inventory, Receives s.inventory inventory (order.inbound - previous.inbound) [] ∧
      (rest ()).run { s with inventory, orders := s.orders.set id order } = (.ok (), s') := by
  obtain ⟨_, s₁, hsave, hrest⟩ := run_bind_eq_ok.mp h
  cases hsave
  obtain ⟨_, s₂, hsync, hrest⟩ := run_bind_eq_ok.mp hrest
  obtain ⟨inventory, hinventory, rfl⟩ := run_zoom_eq.mp hsync
  exact ⟨inventory, syncInboundOpenPoProjection_receives hbranch hinventory, hrest⟩

theorem persistReceiptUpdate_eq_ok {dto : RecordPurchaseOrderReceiptDto}
    (hbranch : order.branchId = previous.branchId)
    (h : (persistReceiptUpdate now id previous order lines dto actor).run s = (.ok (), s')) :
    SavedOrder s id previous order (some lines) s' := by
  obtain ⟨inventory, hsync, hrest⟩ := saveOrder_sync_eq_ok hbranch.symm h
  obtain ⟨inventory', hreceives, rfl⟩ := persistReceipt_eq_ok hrest
  have hboth := hsync.trans hreceives
  rw [add_zero] at hboth
  exact .received hboth

theorem persistStatusUpdate_eq_ok (hbranch : order.branchId = previous.branchId) (hstatus : order.status = dto.status)
    (h : (persistStatusUpdate now id previous order dto actor).run s = (.ok (), s')) :
    SavedOrder s id previous order (receiptOf order) s' := by
  obtain ⟨inventory, hsync, hrest⟩ := saveOrder_sync_eq_ok hbranch.symm h
  unfold receiptOf
  rw [hstatus]
  split_ifs at hrest ⊢ with hreceived
  · obtain ⟨inventory', hreceives, rfl⟩ := persistReceipt_eq_ok hrest
    have hboth := hsync.trans hreceives
    rw [add_zero] at hboth
    exact .received hboth
  · cases hrest
    exact .advanced hsync

namespace SavedOrder

variable {s s' : PurchaseOrderStore} {id : ℕ} {previous order : PurchaseOrder}
  {receipt : Option (List ReceiptLineSummary)}

theorem orders_eq (h : SavedOrder s id previous order receipt s') : s'.orders = s.orders.set id order := by
  cases h with
  | advanced => rfl
  | received => rfl

theorem find_eq (h : SavedOrder s id previous order receipt s') {stored : PurchaseOrder}
    (hfind : s.orders.find id = some stored) : s'.orders.find id = some order := by
  rw [h.orders_eq]
  exact SerialTable.find_set_self hfind order

theorem inboundAt_eq (h : SavedOrder s id previous order receipt s') (k : InventoryKey) :
    s'.inventory.inboundAt k = s.inventory.inboundAt k + (order.inbound k - previous.inbound k) := by
  cases h with
  | advanced hreceives => exact hreceives.inboundAt_apply k
  | received hreceives => exact hreceives.inboundAt_apply k

end SavedOrder

/-! ### What a call does -/

structure Resolves (s : PurchaseOrderStore) (purchaseOrderId eventId : ℕ)
    (actor : PurchaseOrderActorContext) (event : PurchaseOrderReceiptEvent) : Prop where
  role : hasAnyRole actor.roles [.supplierAccount, .posManager, .b2bBuyer, .superAdmin, .admin] = true
  loads : Loads s purchaseOrderId eventId actor.branchId event
  discrepancy : hasReceiptDiscrepancy event = true

inductive PurchaseOrderChange (s : PurchaseOrderStore) : PurchaseOrderCall → PurchaseOrderStore → Prop
  where
  | nothing {c : PurchaseOrderCall} : PurchaseOrderChange s c s
  | created {now : Date} {dto : CreatePurchaseOrderDto} :
      PurchaseOrderChange s (.create now dto)
        { s with
          orders := s.orders.add (newOrder now s.nextItemId dto)
          nextItemId := s.nextItemId + dto.items.length }
  | saved {c : PurchaseOrderCall} {id : ℕ} {previous order : PurchaseOrder}
      {receipt : Option (List ReceiptLineSummary)} {s' : PurchaseOrderStore} :
      s.orders.find id = some previous → OrderStep previous order receipt →
      (order.status = .reconciled → ∀ event ∈ s.eventsOf id, ¬ Blocks event) →
      SavedOrder s id previous order receipt s' → PurchaseOrderChange s c s'
  /-- An event is acknowledged or approved. -/
  | eventSaved {c : PurchaseOrderCall} {eventId : ℕ} {event event' : PurchaseOrderReceiptEvent} :
      s.receiptEvents.find eventId = some event →
      event'.purchaseOrderId = event.purchaseOrderId → event'.receiptLines = event.receiptLines →
      (Blocks event' → Blocks event) →
      PurchaseOrderChange s c { s with receiptEvents := s.receiptEvents.set eventId event' }
  | resolved {now : Date} {purchaseOrderId eventId : ℕ} {resolutionNote : String}
      {metadata : Option String} {actor : PurchaseOrderActorContext}
      {event : PurchaseOrderReceiptEvent} : Resolves s purchaseOrderId eventId actor event →
      PurchaseOrderChange s
        (.resolveReceiptEventDiscrepancy now purchaseOrderId eventId resolutionNote metadata actor)
        { s with
          receiptEvents := s.receiptEvents.set eventId (resolvedEvent now resolutionNote metadata actor event) }

/-- The end of a call: a change of the tables, or an exception and no change. -/
inductive Ends {α : Type} (c : PurchaseOrderCall) (s : PurchaseOrderStore) :
    Except HttpException α × PurchaseOrderStore → Prop where
  | ok {a : α} {s' : PurchaseOrderStore} : PurchaseOrderChange s c s' → Ends c s (.ok a, s')
  | error {e : HttpException} : Ends c s (.error e, s)

section Calls

variable {α β : Type} {c : PurchaseOrderCall} {s : PurchaseOrderStore} {p : PurchaseOrderProc α}

theorem ends_bind_of_readOnly {f : α → PurchaseOrderProc β}
    (hp : ReadOnly p) (hf : ∀ a, p.run s = (.ok a, s) → Ends c s ((f a).run s)) : Ends c s ((p >>= f).run s) := by
  rcases hrun : p.run s with ⟨e | a, s'⟩
  · obtain rfl := hp.eq_of_run hrun
    rw [run_bind_of_error hrun]
    exact .error
  · obtain rfl := hp.eq_of_run hrun
    rw [run_bind_of_ok hrun]
    exact hf a hrun

theorem ends_throwIf_bind {q : Prop} [Decidable q] {e : HttpException} {f : Unit → PurchaseOrderProc β}
    (hf : Ends c s ((f ()).run s)) : Ends c s ((throwIf q e >>= f).run s) :=
  ends_bind_of_readOnly (readOnly_throwIf _ _) fun _ _ => hf

theorem ends_transaction_reload {p : PurchaseOrderProc Unit} {id : ℕ} (hsaved : ∀ s', p.run s = (.ok (), s') →
      PurchaseOrderChange s c s' ∧ ∃ order, s'.orders.find id = some order) :
    Ends c s ((Proc.transaction p >>= fun _ => findOneById id none).run s) := by
  rcases hrun : p.run s with ⟨e | ⟨⟩, s'⟩
  · rw [run_bind_of_error (run_transaction_of_error hrun)]
    exact .error
  · obtain ⟨hchange, order, hfind⟩ := hsaved s' hrun
    rw [run_bind_of_ok (run_transaction_of_ok hrun), run_findOneById_none hfind]
    exact .ok hchange

theorem ends_discard (h : Ends c s (p.run s)) :
    Ends c s ((p >>= fun _ => pure ()).run s) := by
  rw [run_bind]
  rcases hrun : p.run s with ⟨o, s'⟩
  rw [hrun] at h
  cases h with
  | ok hchange => exact .ok hchange
  | error => exact .error

theorem ends_saveReceiptEvent {eventId : ℕ} {event event' : PurchaseOrderReceiptEvent}
    (hfind : s.receiptEvents.find eventId = some event) (hid : event'.purchaseOrderId = event.purchaseOrderId)
    (hlines : event'.receiptLines = event.receiptLines) (hblocks : Blocks event' → Blocks event) :
    Ends c s ((saveReceiptEvent eventId event' >>= fun _ =>
      (pure event' : PurchaseOrderProc PurchaseOrderReceiptEvent)).run s) :=
  .ok (.eventSaved hfind hid hlines hblocks)

variable (now : Date) (id purchaseOrderId eventId : ℕ) (actor : PurchaseOrderActorContext)

theorem recordReceiptEvent_ends (dto : RecordPurchaseOrderReceiptDto) :
    Ends c s ((recordReceiptEvent now id dto actor).run s) := by
  apply ends_bind_of_readOnly (readOnly_findOneById _ _)
  intro previous hload
  have hfind := (findOneById_eq_ok hload).2.1
  apply ends_bind_of_readOnly (readOnly_prepareReceipt _ _ _ _)
  rintro ⟨order, lines⟩ hprepare
  obtain ⟨hstatus, hstep⟩ := prepareReceipt_eq_ok hprepare
  apply ends_transaction_reload
  intro s' hrun
  have hsaved := persistReceiptUpdate_eq_ok hstep.branchId_eq hrun
  have hreconciled : order.status ≠ .reconciled := by
    rw [hstatus]
    decide
  exact ⟨.saved hfind hstep (fun h => absurd h hreconciled) hsaved, order, hsaved.find_eq hfind⟩

theorem updateLoadedStatus_ends {previous : PurchaseOrder} (dto : UpdatePurchaseOrderStatusDto)
    (hfind : s.orders.find id = some previous) :
    Ends c s ((updateLoadedStatus now id previous dto actor false).run s) := by
  apply ends_bind_of_readOnly (readOnly_prepareStatusUpdate _ _ _ _ _)
  intro next hprepare
  cases next with
  | none => exact .ok .nothing
  | some order =>
    obtain ⟨hstatus, hstep, hready⟩ := prepareStatusUpdate_eq_ok hprepare
    apply ends_transaction_reload
    intro s' hrun
    have hsaved := persistStatusUpdate_eq_ok hstep.branchId_eq hstatus hrun
    exact ⟨.saved hfind hstep hready hsaved, order, hsaved.find_eq hfind⟩

theorem updateStatus_ends (dto : UpdatePurchaseOrderStatusDto) :
    Ends c s ((updateStatus now id dto actor).run s) := by
  apply ends_bind_of_readOnly (readOnly_findOneById _ _)
  intro previous hload
  exact updateLoadedStatus_ends now id actor dto (findOneById_eq_ok hload).2.1

theorem updateStatusWithManager_ends (dto : UpdatePurchaseOrderStatusDto) :
    Ends c s ((Proc.transaction (updateStatusWithManager now id dto actor)).run s) := by
  rcases hrun : (updateStatusWithManager now id dto actor).run s with ⟨e | a, s'⟩
  · rw [run_transaction_of_error hrun]
    exact .error
  · rw [run_transaction_of_ok hrun]
    obtain ⟨previous, s₁, hload, hupdate⟩ := run_bind_eq_ok.mp hrun
    obtain ⟨rfl, hfind, -⟩ := findOneById_eq_ok hload
    obtain ⟨next, s₂, hprepare, hrest⟩ := run_bind_eq_ok.mp hupdate
    obtain rfl := (readOnly_prepareStatusUpdate _ _ _ _ _).eq_of_run hprepare
    cases next with
    | none =>
      obtain rfl := (readOnly_findOneById _ _).eq_of_run hrest
      exact .ok .nothing
    | some order =>
      obtain ⟨hstatus, hstep, hready⟩ := prepareStatusUpdate_eq_ok hprepare
      obtain ⟨_, s₃, hpersist, hreload⟩ := run_bind_eq_ok.mp hrest
      obtain rfl := (readOnly_findOneById _ _).eq_of_run hreload
      have hsaved := persistStatusUpdate_eq_ok hstep.branchId_eq hstatus hpersist
      exact .ok (.saved hfind hstep hready hsaved)

theorem readOnly_resolveActorSupplierProfileId (userId : Option ℕ) :
    ReadOnly (resolveActorSupplierProfileId userId) := by
  unfold resolveActorSupplierProfileId
  split
  · exact readOnly_pure _
  · exact readOnly_pure _
  · exact (readOnly_read _).bind fun _ => readOnly_pure _

theorem updateSupplierStatus_ends (dto : UpdatePurchaseOrderStatusDto) :
    Ends c s ((updateSupplierStatus now id dto actor).run s) := by
  apply ends_throwIf_bind
  apply ends_bind_of_readOnly (readOnly_findOneById _ _)
  intro order _
  split_ifs
  · apply ends_bind_of_readOnly (readOnly_resolveActorSupplierProfileId _)
    intro profileId _
    apply ends_throwIf_bind
    exact updateStatus_ends now id _ dto
  · exact updateStatus_ends now id _ dto

variable (note : Option String)

theorem acknowledgeReceiptEvent_ends :
    Ends c s ((acknowledgeReceiptEvent now purchaseOrderId eventId note actor).run s) := by
  apply ends_throwIf_bind
  apply ends_bind_of_readOnly (readOnly_findReceiptEventOrThrow _ _ _)
  intro event hload
  obtain ⟨-, -, hfind, -⟩ := findReceiptEventOrThrow_eq_ok hload
  split_ifs
  · exact .ok .nothing
  · exact ends_saveReceiptEvent hfind rfl rfl id

theorem resolveReceiptEventDiscrepancy_ends (note : String) (metadata : Option String) :
    Ends (.resolveReceiptEventDiscrepancy now purchaseOrderId eventId note metadata actor) s
      ((resolveReceiptEventDiscrepancy now purchaseOrderId eventId note metadata actor).run s) := by
  unfold resolveReceiptEventDiscrepancy assertReceiptAcknowledgementRole
  rw [run_throwIf_bind]
  split_ifs with hrole
  · exact .error
  · apply ends_bind_of_readOnly (readOnly_findReceiptEventOrThrow _ _ _)
    intro event hload
    have hloads := (findReceiptEventOrThrow_eq_ok hload).2
    rw [run_throwIf_bind]
    split_ifs with hdiscrepancy
    · exact .error
    · exact .ok (.resolved ⟨by simpa using hrole, hloads, by simpa using hdiscrepancy⟩)

theorem not_blocks_approvedEvent (event : PurchaseOrderReceiptEvent) :
    ¬ Blocks (approvedEvent now note actor event) := by
  rintro (h | h) <;> cases h

theorem approveReceiptEventDiscrepancy_ends :
    Ends c s ((approveReceiptEventDiscrepancy now purchaseOrderId eventId note actor).run s) := by
  apply ends_throwIf_bind
  apply ends_bind_of_readOnly (readOnly_findReceiptEventOrThrow _ _ _)
  intro event hload
  obtain ⟨-, -, hfind, -⟩ := findReceiptEventOrThrow_eq_ok hload
  apply ends_throwIf_bind
  exact ends_saveReceiptEvent hfind rfl rfl fun h => absurd h (not_blocks_approvedEvent now actor note event)

theorem forceCloseReceiptEventDiscrepancy_ends (note : String) :
    Ends c s ((forceCloseReceiptEventDiscrepancy now purchaseOrderId eventId note actor).run s) := by
  apply ends_throwIf_bind
  apply ends_bind_of_readOnly (readOnly_findReceiptEventOrThrow _ _ _)
  intro event hload
  obtain ⟨-, -, hfind, -⟩ := findReceiptEventOrThrow_eq_ok hload
  apply ends_throwIf_bind
  split_ifs
  · exact .ok .nothing
  · exact ends_saveReceiptEvent hfind rfl rfl fun h => absurd h (not_blocks_approvedEvent now actor (some note) event)

theorem readOnly_checkItem (dto : CreatePurchaseOrderDto) (item : CreatePurchaseOrderItemDto) :
    ReadOnly (checkItem dto item) := by
  apply ReadOnly.bind (readOnly_read _).zoom
  intro product
  apply (readOnly_throwIf _ _).bind
  intro _
  split
  · exact readOnly_pure _
  · apply (readOnly_read _).bind
    intro supplierOffer
    split
    · exact readOnly_throw _
    · exact (readOnly_throwIf _ _).bind fun _ => readOnly_throwIf _ _

theorem create_ends (dto : CreatePurchaseOrderDto) : Ends (.create now dto) s ((create now dto).run s) := by
  apply ends_bind_of_readOnly (readOnly_read _).zoom
  intro branch _
  apply ends_throwIf_bind
  apply ends_bind_of_readOnly (readOnly_read _)
  intro supplierProfile _
  split
  · exact .error
  · apply ends_throwIf_bind
    apply ends_bind_of_readOnly (readOnly_forEach (readOnly_checkItem dto) dto.items)
    intro _ _
    unfold insertOrder
    rw [bind_assoc]
    apply ends_bind_of_readOnly (readOnly_read _)
    intro taken _
    rw [bind_assoc]
    apply ends_throwIf_bind
    -- the order is inserted, and found again by its new id
    rw [step_bind, run_step, done_bind, run_findOneById_none (SerialTable.find_add_self _ _)]
    exact .ok .created

theorem PurchaseOrderCall.ends (c : PurchaseOrderCall) (s : PurchaseOrderStore) : Ends c s (c.handler.run s) := by
  cases c with
  | create now dto => exact ends_discard (create_ends now dto)
  | recordReceiptEvent now id dto actor => exact ends_discard (recordReceiptEvent_ends now id actor dto)
  | acknowledgeReceiptEvent now purchaseOrderId eventId note actor =>
    exact ends_discard (acknowledgeReceiptEvent_ends now purchaseOrderId eventId actor note)
  | resolveReceiptEventDiscrepancy now purchaseOrderId eventId note metadata actor =>
    exact ends_discard (resolveReceiptEventDiscrepancy_ends now purchaseOrderId eventId actor note metadata)
  | approveReceiptEventDiscrepancy now purchaseOrderId eventId note actor =>
    exact ends_discard (approveReceiptEventDiscrepancy_ends now purchaseOrderId eventId actor note)
  | forceCloseReceiptEventDiscrepancy now purchaseOrderId eventId note actor =>
    exact ends_discard (forceCloseReceiptEventDiscrepancy_ends now purchaseOrderId eventId actor note)
  | updateStatus now id dto actor => exact ends_discard (updateStatus_ends now id actor dto)
  | updateStatusWithManager now id dto actor =>
    exact ends_discard (updateStatusWithManager_ends now id actor dto)
  | updateSupplierStatus now id dto actor =>
    exact ends_discard (updateSupplierStatus_ends now id actor dto)

end Calls

theorem PurchaseOrderCall.change (s : PurchaseOrderStore) (c : PurchaseOrderCall) :
    PurchaseOrderChange s c (c.step s) := by
  unfold PurchaseOrderCall.step
  rcases hrun : c.handler.run s with ⟨o, s'⟩
  have hends := c.ends s
  rw [hrun] at hends
  cases hends with
  | ok hchange => exact hchange
  | error => exact .nothing

theorem PurchaseOrderCall.step_eq_of_not_succeeds {s : PurchaseOrderStore} {c : PurchaseOrderCall}
    (h : ¬ c.Succeeds s) : c.step s = s := by
  unfold PurchaseOrderCall.step
  unfold PurchaseOrderCall.Succeeds at h
  rcases hrun : c.handler.run s with ⟨o, s'⟩
  have hends := c.ends s
  rw [hrun] at hends h
  cases hends with
  | ok => exact absurd rfl h
  | error => rfl

/-! ### Sample calls -/

/-- No orders, and a supplier that is approved. -/
def noPurchaseOrders : PurchaseOrderStore where
  inventory := twoBranches
  journal := emptyJournal
  supplierProfiles := [⟨1, 5, .approved⟩]
  supplierOffers := []
  orders := SerialTable.empty
  nextItemId := 1
  receiptEvents := SerialTable.empty

def administrator : PurchaseOrderActorContext := { id := some 1, roles := [.admin] }

def tenUnits : CreatePurchaseOrderDto where
  branchId := 1
  supplierProfileId := 1
  items := [{ productId := 7, orderedQuantity := 10, unitPrice := 5 }]

/-- A receipt of some of the units of the first item, with some of them missing. -/
def receiptOfUnits (receivedQuantity shortageQuantity : ℕ) : RecordPurchaseOrderReceiptDto where
  receiptLines :=
    [{ itemId := 1, receivedQuantity, shortageQuantity := some shortageQuantity }]

def moveTo (status : PurchaseOrderStatus) : PurchaseOrderCall :=
  .updateStatus 0 1 { status } administrator

/-- An order of ten units that has been shipped. -/
def shippedOrder : List PurchaseOrderCall :=
  [.create 0 tenUnits, moveTo .submitted, moveTo .acknowledged, moveTo .shipped]

end SuuqBackend
