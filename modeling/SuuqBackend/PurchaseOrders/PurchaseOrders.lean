import SuuqBackend.Common.Numeric
import SuuqBackend.PurchaseOrders.PurchaseOrderStore

/-!
# Purchase orders

`PurchaseOrdersService`: an order is created as a draft, submitted, acknowledged, shipped, received in
one or several receipts, and reconciled; it can be cancelled until it is shipped.  What is outstanding
of the items of an active order is kept in `inboundOpenPo` of its branch, by the difference between the
projection of the order before and after each change.  A receipt adds to the counters of the items,
records a stock movement for each line, stores a receipt event and posts the value of the goods.

The handlers load an order, check and change it in memory, and write it in one transaction.  `now` is
`new Date()`.  Webhooks, mails, realtime notices and the audit log are left out: nothing reads them.
-/

namespace SuuqBackend

structure PurchaseOrderActorContext where
  id : Option ℕ := none
  email : Option String := none
  roles : List UserRole := []
  branchId : Option ℕ := none

structure CreatePurchaseOrderItemDto where
  productId : ℕ
  supplierOfferId : Option ℕ := none
  orderedQuantity : ℕ
  unitPrice : ℚ

structure CreatePurchaseOrderDto where
  branchId : ℕ
  supplierProfileId : ℕ
  currency : Option String := none
  expectedDeliveryDate : Option String := none
  items : List CreatePurchaseOrderItemDto

structure PurchaseOrderReceiptLineDto where
  itemId : ℕ
  receivedQuantity : ℕ
  shortageQuantity : Option ℕ := none
  damagedQuantity : Option ℕ := none
  note : Option String := none

structure RecordPurchaseOrderReceiptDto where
  reason : Option String := none
  metadata : Option String := none
  receiptLines : List PurchaseOrderReceiptLineDto := []

structure UpdatePurchaseOrderStatusDto extends RecordPurchaseOrderReceiptDto where
  status : PurchaseOrderStatus
  trackingReference : Option String := none

namespace PurchaseOrders

open PurchaseOrderRepository PurchaseOrderStore InventoryLedger

/-! ### Messages -/

variable (now : Date) (id : ℕ)

/-- There is no such order, or not at the branch of the caller. -/
def purchaseOrderNotFound : HttpException :=
  .notFound s!"Purchase order with ID {id} not found"

def receiptEventNotFound (eventId purchaseOrderId : ℕ) : HttpException :=
  .notFound s!"Receipt event {eventId} for purchase order {purchaseOrderId} not found"

/-- The status does not lead to the requested one. -/
def invalidTransition (status nextStatus : PurchaseOrderStatus) : HttpException :=
  .badRequest s!"Invalid purchase order transition from {status.text} to {nextStatus.text}"

def receiptExceedsOrdered (itemId : ℕ) : HttpException :=
  .badRequest s!"Receipt totals exceed ordered quantity for purchase order item {itemId}"

/-- The caller may not request this status. -/
def roleNotAllowed (status : PurchaseOrderStatus) : HttpException :=
  .forbidden s!"Your role is not allowed to move purchase orders to {status.text}"

/-! ### Roles -/

def hasAnyRole (roles allowedRoles : List UserRole) : Bool :=
  allowedRoles.any fun role => roles.contains role

/-- `assertRoleAllowedForStatus`, as the condition under which it returns. -/
def RoleAllowedForStatus (targetStatus : PurchaseOrderStatus) (roles : List UserRole) : Prop :=
  hasAnyRole roles [.superAdmin, .admin] ∨
    (targetStatus ∈ [PurchaseOrderStatus.submitted, .received, .reconciled] ∧
      hasAnyRole roles [.posManager, .b2bBuyer]) ∨
    (targetStatus ∈ [PurchaseOrderStatus.acknowledged, .shipped] ∧ hasAnyRole roles [.supplierAccount]) ∨
    (targetStatus = .cancelled ∧ hasAnyRole roles [.posManager, .b2bBuyer, .supplierAccount])
deriving Decidable

def assertRoleAllowedForStatus (targetStatus : PurchaseOrderStatus) (roles : List UserRole) : PurchaseOrderProc Unit :=
  .throwIf (¬ RoleAllowedForStatus targetStatus roles) (roleNotAllowed targetStatus)

def assertReceiptAcknowledgementRole (roles : List UserRole) : PurchaseOrderProc Unit :=
  .throwIf (!hasAnyRole roles [.supplierAccount, .posManager, .b2bBuyer, .superAdmin, .admin])
    (.forbidden "Your role is not allowed to manage receipt acknowledgements or discrepancy resolutions")

def assertBuyerReceiptApprovalRole (roles : List UserRole) : PurchaseOrderProc Unit :=
  .throwIf (!hasAnyRole roles [.posManager, .b2bBuyer, .superAdmin, .admin])
    (.forbidden "Your role is not allowed to approve supplier discrepancy resolutions")

def assertAdminReceiptOverrideRole (roles : List UserRole) : PurchaseOrderProc Unit :=
  .throwIf (!hasAnyRole roles [.superAdmin, .admin])
    (.forbidden "Your role is not allowed to force-close receipt discrepancies")

/-! ### Loading -/

/-- `where: scope.branchId ? { id, branchId: scope.branchId } : { id }`. -/
def InScope (branchId : Option ℕ) (order : PurchaseOrder) : Prop :=
  ∀ b ∈ branchId, b ≠ 0 → order.branchId = b
deriving Decidable

/-- `findOneById` and `findOneByIdUsingRepository`. -/
def findOneById (branchId : Option ℕ) : PurchaseOrderProc PurchaseOrder := do
  match ← Proc.read fun s : PurchaseOrderStore => s.orders.find id with
  | some order =>
    .throwIf (¬ InScope branchId order) (purchaseOrderNotFound id)
    return order
  | none => throw (purchaseOrderNotFound id)

def findReceiptEventOrThrow (purchaseOrderId eventId : ℕ) (branchId : Option ℕ) :
    PurchaseOrderProc PurchaseOrderReceiptEvent := do
  let _ ← findOneById purchaseOrderId branchId
  match ← Proc.read fun s : PurchaseOrderStore => s.receiptEvents.find eventId with
  | some event =>
    .throwIf (event.purchaseOrderId ≠ purchaseOrderId) (receiptEventNotFound eventId purchaseOrderId)
    return event
  | none => throw (receiptEventNotFound eventId purchaseOrderId)

def resolveActorSupplierProfileId (userId : Option ℕ) : PurchaseOrderProc (Option ℕ) := do
  match userId with
  | none | some 0 => return none
  | some userId =>
    let profile ← Proc.read fun s : PurchaseOrderStore =>
      s.supplierProfiles.find? fun p => p.userId = userId
    return profile.map SupplierProfile.id

/-! ### The inbound projection -/

/-- What is still to come of an item. -/
def outstandingQuantity (item : PurchaseOrderItem) : ℕ :=
  item.orderedQuantity - item.receivedQuantity - item.shortageQuantity - item.damagedQuantity

/-- `activeStatuses`. -/
def isActive (status : PurchaseOrderStatus) : Bool :=
  status ∈ [PurchaseOrderStatus.submitted, .acknowledged, .shipped, .received]

/-- `buildInboundOpenPoProjection(order).get(productId) ?? 0`: what is outstanding of the product. -/
def inboundOpenPoOf (order : PurchaseOrder) (productId : ℕ) : ℕ :=
  if isActive order.status then
    ((order.items.filter fun item => item.productId = productId).map outstandingQuantity).sum
  else 0

/-- The keys of a map or a set that is filled with these, in the order of their first insertion. -/
def insertionOrder (keys : List ℕ) : List ℕ := keys.reverse.dedup.reverse

/-- The keys of `buildInboundOpenPoProjection(order)`. -/
def inboundProductIds (order : PurchaseOrder) : List ℕ :=
  if isActive order.status then
    insertionOrder ((order.items.filter fun item => 0 < outstandingQuantity item).map PurchaseOrderItem.productId)
  else []

/-- One round of the loop of `syncInboundOpenPoProjection`. -/
def syncInboundOpenPo (previous order : PurchaseOrder) (productId : ℕ) : InventoryProc Unit := do
  let delta : ℤ := inboundOpenPoOf order productId - inboundOpenPoOf previous productId
  if delta = 0 then return
  let _ ← adjustInboundOpenPo
    { branchId := order.branchId, productId, quantityDelta := delta }

/-- `syncInboundOpenPoProjection`; the previous projection is that of the order as it was. -/
def syncInboundOpenPoProjection (previous order : PurchaseOrder) : InventoryProc Unit :=
  Proc.forEach (insertionOrder (inboundProductIds previous ++ inboundProductIds order))
    (syncInboundOpenPo previous order)

/-! ### Receipts -/

/-- `receiptLinesByItemId.get(itemId)`: of several lines for an item the last one counts. -/
def receiptLineOf (lines : List PurchaseOrderReceiptLineDto) (itemId : ℕ) : Option PurchaseOrderReceiptLineDto :=
  (lines.filter fun line => line.itemId = itemId).getLast?

/-- What a receipt says about an item; without a line everything that is outstanding has come. -/
def receiptSummaryOf (lines : List PurchaseOrderReceiptLineDto) (item : PurchaseOrderItem) : ReceiptLineSummary :=
  let receiptLine := receiptLineOf lines item.id
  { itemId := item.id
    productId := item.productId
    receivedQuantity := (receiptLine.map fun line => line.receivedQuantity).getD (outstandingQuantity item)
    shortageQuantity := (receiptLine.bind fun line => line.shortageQuantity).getD 0
    damagedQuantity := (receiptLine.bind fun line => line.damagedQuantity).getD 0
    note := (receiptLine.bind fun line => line.note) <|> item.note }

/-- The item after the receipt: an incremental one adds to the counters, the other one sets them. -/
def receivedItem (incremental : Bool) (line : ReceiptLineSummary) (item : PurchaseOrderItem) : PurchaseOrderItem :=
  { item with
    receivedQuantity :=
      if incremental then item.receivedQuantity + line.receivedQuantity else line.receivedQuantity
    shortageQuantity :=
      if incremental then item.shortageQuantity + line.shortageQuantity else line.shortageQuantity
    damagedQuantity :=
      if incremental then item.damagedQuantity + line.damagedQuantity else line.damagedQuantity
    note := line.note }

/-- More is accounted for than was ordered. -/
def ExceedsOrdered (item : PurchaseOrderItem) : Prop :=
  item.receivedQuantity + item.shortageQuantity + item.damagedQuantity > item.orderedQuantity
deriving Decidable

def receivedOrder (incremental : Bool) (now : Date) (dto : RecordPurchaseOrderReceiptDto)
    (order : PurchaseOrder) : PurchaseOrder :=
  { order with
    items := order.items.map fun item =>
      receivedItem incremental (receiptSummaryOf dto.receiptLines item) item
    statusMeta := { order.statusMeta with
      latestReceipt := some
        { receivedAt := now
          note := dto.reason
          items := order.items.map (receiptSummaryOf dto.receiptLines)
          metadata := dto.metadata } }
    items_nodup := by
      rw [List.map_map]
      exact order.items_nodup }

/-- `applyReceiptSideEffects`: the changed order and its receipt summary. -/
def applyReceiptSideEffects (incremental : Bool) (dto : RecordPurchaseOrderReceiptDto)
    (order : PurchaseOrder) : Except HttpException (PurchaseOrder × List ReceiptLineSummary) :=
  let received := receivedOrder incremental now dto order
  match received.items.find? fun item => ExceedsOrdered item with
  | some item => throw (receiptExceedsOrdered item.id)
  | none => return (received, order.items.map (receiptSummaryOf dto.receiptLines))

def receiptMovement (order : PurchaseOrder) (actorId : Option ℕ)
    (reason : Option String) (line : ReceiptLineSummary) : RecordMovementParams where
  branchId := order.branchId
  productId := line.productId
  movementType := .purchaseReceipt
  quantityDelta := line.receivedQuantity
  sourceType := "PURCHASE_ORDER"
  sourceReferenceId := some id
  actorUserId := actorId
  note := line.note <|> reason
  occurredAt := some (order.receivedAt.getD now)
  lastPurchaseOrderId := some id

/-- One round of the loop of `persistReceiptSideEffects`. -/
def recordReceiptLine (order : PurchaseOrder) (actorId : Option ℕ)
    (reason : Option String) (line : ReceiptLineSummary) : InventoryProc Unit := do
  if line.receivedQuantity = 0 then return
  let _ ← recordMovement now (receiptMovement now id order actorId reason line) true

def persistReceiptSideEffects (order : PurchaseOrder)
    (receiptSummary : List ReceiptLineSummary) (actorId : Option ℕ) (reason : Option String) : InventoryProc Unit :=
  Proc.forEach receiptSummary (recordReceiptLine now id order actorId reason)

def receivedValue (order : PurchaseOrder) (receiptSummary : List ReceiptLineSummary) : ℚ :=
  GeneralLedger.round2 (receiptSummary.map fun line =>
    ((order.items.find? fun item => item.id = line.itemId).map PurchaseOrderItem.unitPrice).getD 0 *
      line.receivedQuantity).sum

/-- The entry of `postReceiptEventToLedger`. -/
def receiptEntry (order : PurchaseOrder) (value : ℚ) (idempotencyKey : String)
    (occurredAt : Date) : PostJournalEntryInput where
  branchId := order.branchId
  occurredAt
  sourceType := .purchaseOrder
  sourceId := some s!"po-{id}"
  idempotencyKey
  currency := some (if order.currency = "" then "ETB" else order.currency)
  memo := some s!"Goods received — PO {id}"
  lines :=
    [{ accountCode := GlAccountCode.inventory.code, debit := some value },
      { accountCode := GlAccountCode.supplierPayables.code, credit := some value }]

/-- `postReceiptEventToLedger`, in the transaction of the caller. -/
def postReceiptEventToLedger (order : PurchaseOrder)
    (receiptSummary : List ReceiptLineSummary) (idempotencyKey : String) (occurredAt : Date) : PurchaseOrderProc Unit :=
  let value := receivedValue order receiptSummary
  if value ≤ 0 then return
  else do
    let _ ← Proc.zoom journalLens
      (GeneralLedger.post now (receiptEntry id order value idempotencyKey occurredAt) true)

/-- The new row of `persistReceiptEvent`. -/
def newReceiptEvent (receiptSummary : List ReceiptLineSummary)
    (actorId : Option ℕ) (reason metadata : Option String) : PurchaseOrderReceiptEvent where
  purchaseOrderId := id
  actorUserId := actorId
  note := reason
  receiptLines := receiptSummary
  metadata
  supplierAcknowledgedAt := none
  supplierAcknowledgedByUserId := none
  supplierAcknowledgementNote := none
  discrepancyStatus :=
    if receiptSummary.any fun line => line.shortageQuantity > 0 ∨ line.damagedQuantity > 0 then
      some .opened
    else none
  discrepancyResolutionNote := none
  discrepancyMetadata := none
  discrepancyResolvedAt := none
  discrepancyResolvedByUserId := none
  discrepancyApprovedAt := none
  discrepancyApprovedByUserId := none
  discrepancyApprovalNote := none
  createdAt := now

def receiptEventKey (eventId : ℕ) : String := s!"po-receipt-event-{eventId}"

def persistReceiptEvent (order : PurchaseOrder)
    (receiptSummary : List ReceiptLineSummary) (actorId : Option ℕ) (reason metadata : Option String) :
    PurchaseOrderProc Unit := do
  let eventId ← insertReceiptEvent (newReceiptEvent now id receiptSummary actorId reason metadata)
  postReceiptEventToLedger now id order receiptSummary (receiptEventKey eventId) now

/-- What a receipt writes, in the transaction of the caller. -/
def persistReceipt (order : PurchaseOrder)
    (receiptSummary : List ReceiptLineSummary) (actorId : Option ℕ) (reason metadata : Option String) :
    PurchaseOrderProc Unit := do
  Proc.zoom PurchaseOrderStore.inventoryLens (persistReceiptSideEffects now id order receiptSummary actorId reason)
  persistReceiptEvent now id order receiptSummary actorId reason metadata

/-! ### Status transitions -/

def purchaseOrderTransitions : PurchaseOrderStatus → List PurchaseOrderStatus
  | .draft => [.submitted, .cancelled]
  | .submitted => [.acknowledged, .cancelled]
  | .acknowledged => [.shipped, .cancelled]
  | .shipped => [.received]
  | .received => [.reconciled]
  | .reconciled => []
  | .cancelled => []

/-- The discrepancy of the event still blocks a reconciliation. -/
def Blocks (event : PurchaseOrderReceiptEvent) : Prop :=
  event.discrepancyStatus = some .opened ∨ event.discrepancyStatus = some .resolved
deriving Decidable

instance (events : Multiset PurchaseOrderReceiptEvent) : Decidable (∃ event ∈ events, Blocks event) :=
  Multiset.decidableExistsMultiset

def assertReadyForReconciliation (order : PurchaseOrder) : PurchaseOrderProc Unit := do
  .throwIf (∃ item ∈ order.items, item.receivedQuantity + item.shortageQuantity +
      item.damagedQuantity ≠ item.orderedQuantity)
    (.badRequest "Purchase order cannot be reconciled until every item quantity is fully accounted for")
  let discrepantEvents ← Proc.read fun s : PurchaseOrderStore => s.eventsOf id
  .throwIf (∃ event ∈ discrepantEvents, Blocks event)
    (.badRequest "Purchase order cannot be reconciled while receipt discrepancies are still open or awaiting approval")

/-- `applyLifecycleSideEffects` for the status that the order has been given. -/
def applyLifecycleSideEffects (dto : UpdatePurchaseOrderStatusDto)
    (order : PurchaseOrder) : Except HttpException PurchaseOrder :=
  match order.status with
  | .draft => return order
  | .submitted => return { order with submittedAt := some (order.submittedAt.getD now) }
  | .acknowledged => return { order with acknowledgedAt := some (order.acknowledgedAt.getD now) }
  | .shipped =>
    if order.shippedAt.isSome then return order
    else return { order with
      shippedAt := some now
      statusMeta := { order.statusMeta with
        shipping := some { trackingReference := dto.trackingReference, shippedAt := now } } }
  | .received =>
    if order.receivedAt.isSome then return order
    else do
      let (received, _) ← applyReceiptSideEffects now false dto.toRecordPurchaseOrderReceiptDto
        { order with receivedAt := some now }
      return received
  | .reconciled => return { order with reconciledAt := some (order.reconciledAt.getD now) }
  | .cancelled => return { order with cancelledAt := some (order.cancelledAt.getD now) }

def transitionedOrder (dto : UpdatePurchaseOrderStatusDto)
    (actor : PurchaseOrderActorContext) (order : PurchaseOrder) : Except HttpException PurchaseOrder :=
  applyLifecycleSideEffects now dto
    { order with
      status := dto.status
      statusMeta := { order.statusMeta with
        lastTransition := some
          { fromStatus := order.status
            toStatus := dto.status
            actorId := actor.id
            actorEmail := actor.email
            reason := dto.reason
            trackingReference := dto.trackingReference
            metadata := dto.metadata
            changedAt := now } } }

def persistStatusUpdate (previous order : PurchaseOrder)
    (dto : UpdatePurchaseOrderStatusDto) (actor : PurchaseOrderActorContext) : PurchaseOrderProc Unit := do
  saveOrder id order
  Proc.zoom PurchaseOrderStore.inventoryLens (syncInboundOpenPoProjection previous order)
  if dto.status = .received then
    let receiptSummary := (order.statusMeta.latestReceipt.map fun receipt => receipt.items).getD []
    persistReceipt now id order receiptSummary actor.id dto.reason dto.metadata

/-- The checks of `updateLoadedStatus`, and the order that it goes on to save; `none` when the order
has the status already. -/
def prepareStatusUpdate (order : PurchaseOrder)
    (dto : UpdatePurchaseOrderStatusDto) (actor : PurchaseOrderActorContext) :
    PurchaseOrderProc (Option PurchaseOrder) :=
  if order.status = dto.status then return none
  else do
    .throwIf (dto.status ∉ purchaseOrderTransitions order.status) (invalidTransition order.status dto.status)
    assertRoleAllowedForStatus dto.status actor.roles
    if dto.status = .reconciled then assertReadyForReconciliation id order
    let next ← .ofExcept (transitionedOrder now dto actor order)
    return some next

/-- `updateLoadedStatus`; `manager` says whether the caller passed its transaction. -/
def updateLoadedStatus (order : PurchaseOrder)
    (dto : UpdatePurchaseOrderStatusDto) (actor : PurchaseOrderActorContext) (manager : Bool) :
    PurchaseOrderProc PurchaseOrder := do
  match ← prepareStatusUpdate now id order dto actor with
  | none => if manager then findOneById id none else return order
  | some next =>
    Proc.inTransaction manager (persistStatusUpdate now id order next dto actor)
    findOneById id none

/-! ### Operations -/

/-- The check of one item of `create`. -/
def checkItem (dto : CreatePurchaseOrderDto) (item : CreatePurchaseOrderItemDto) : PurchaseOrderProc Unit := do
  let product ← Proc.zoom PurchaseOrderStore.inventoryLens
    (InventoryRepository.findProduct item.productId)
  .throwIf product.isNone (.productNotFound item.productId)
  match item.supplierOfferId with
  | none => return
  | some offerId =>
    let supplierOffer ← Proc.read fun s : PurchaseOrderStore =>
      s.supplierOffers.find? fun offer => offer.id = offerId
    match supplierOffer with
    | none => throw (.notFound s!"Supplier offer with ID {offerId} not found")
    | some offer =>
      .throwIf (offer.supplierProfileId ≠ dto.supplierProfileId) (.badRequest
        s!"Supplier offer {offerId} does not belong to supplier profile {dto.supplierProfileId}")
      .throwIf (offer.productId ≠ item.productId)
        (.badRequest s!"Supplier offer {offerId} does not match product {item.productId}")

/-- The items of a new order, with generated ids from `firstId` on. -/
def newItems (firstId : ℕ) (dto : CreatePurchaseOrderDto) : List PurchaseOrderItem :=
  dto.items.zipIdx.map fun (item, i) =>
    { id := firstId + i
      productId := item.productId
      supplierOfferId := item.supplierOfferId
      orderedQuantity := item.orderedQuantity
      receivedQuantity := 0
      shortageQuantity := 0
      damagedQuantity := 0
      note := none
      unitPrice := numeric2 item.unitPrice }

theorem nodup_newItems (firstId : ℕ) (dto : CreatePurchaseOrderDto) :
    ((newItems firstId dto).map PurchaseOrderItem.id).Nodup := by
  have hids : (newItems firstId dto).map PurchaseOrderItem.id =
      (dto.items.zipIdx.map Prod.snd).map fun i => firstId + i := by
    rw [newItems, List.map_map, List.map_map]
    rfl
  have hindices : (dto.items.zipIdx.map Prod.snd).Nodup := by
    rw [List.zipIdx_map_snd]
    exact List.nodup_range'
  rw [hids]
  exact hindices.map fun i j h => Nat.add_left_cancel h

/-- The new row of `create`. -/
def newOrder (firstItemId : ℕ) (dto : CreatePurchaseOrderDto) : PurchaseOrder :=
  let subtotal := (dto.items.map fun item => (item.orderedQuantity : ℚ) * item.unitPrice).sum
  { orderNumber := s!"PO-{now}"
    branchId := dto.branchId
    supplierProfileId := dto.supplierProfileId
    status := .draft
    currency := dto.currency.getD "USD"
    subtotal := numeric2 subtotal
    total := numeric2 subtotal
    expectedDeliveryDate := dto.expectedDeliveryDate
    submittedAt := none
    acknowledgedAt := none
    shippedAt := none
    receivedAt := none
    reconciledAt := none
    cancelledAt := none
    statusMeta := {}
    items := newItems firstItemId dto
    items_nodup := nodup_newItems firstItemId dto }

/-- `purchaseOrdersRepository.save` of a new order: its generated id.  The number of an order is
unique. -/
def insertOrder (dto : CreatePurchaseOrderDto) : PurchaseOrderProc ℕ := do
  let taken ← Proc.read fun s : PurchaseOrderStore => decide (s.HasOrderNumber s!"PO-{now}")
  .throwIf (taken = true) (.queryFailed "duplicate key value violates unique constraint")
  .step
    (fun s => { s with
      orders := s.orders.add (newOrder now s.nextItemId dto)
      nextItemId := s.nextItemId + dto.items.length })
    fun s => .done s.orders.next

def create (dto : CreatePurchaseOrderDto) : PurchaseOrderProc PurchaseOrder := do
  let branch ← Proc.zoom PurchaseOrderStore.inventoryLens
    (InventoryRepository.findBranch dto.branchId)
  .throwIf branch.isNone (.branchNotFound dto.branchId)
  let supplierProfile ← Proc.read fun s : PurchaseOrderStore =>
    s.supplierProfiles.find? fun p => p.id = dto.supplierProfileId
  match supplierProfile with
  | none => throw (.notFound s!"Supplier profile with ID {dto.supplierProfileId} not found")
  | some profile =>
    .throwIf (profile.onboardingStatus ≠ .approved)
      (.badRequest "Purchase orders can only target approved supplier profiles")
    Proc.forEach dto.items (checkItem dto)
    let id ← insertOrder now dto
    findOneById id none

/-- The checks of `recordReceiptEvent`, and the order that it goes on to save with its receipt
summary. -/
def prepareReceipt (order : PurchaseOrder) (dto : RecordPurchaseOrderReceiptDto)
    (actor : PurchaseOrderActorContext) : PurchaseOrderProc (PurchaseOrder × List ReceiptLineSummary) := do
  .throwIf (order.status ∉ [PurchaseOrderStatus.shipped, .received])
    (.badRequest "Receipt events can only be recorded for shipped or received purchase orders")
  assertRoleAllowedForStatus .received actor.roles
  let (received, receiptSummary) ← .ofExcept (applyReceiptSideEffects now true dto order)
  let received := { received with
    status := .received, receivedAt := some (received.receivedAt.getD now) }
  return (received, receiptSummary)

/-- The transaction of `recordReceiptEvent`. -/
def persistReceiptUpdate (previous order : PurchaseOrder)
    (receiptSummary : List ReceiptLineSummary) (dto : RecordPurchaseOrderReceiptDto)
    (actor : PurchaseOrderActorContext) : PurchaseOrderProc Unit := do
  saveOrder id order
  Proc.zoom PurchaseOrderStore.inventoryLens (syncInboundOpenPoProjection previous order)
  persistReceipt now id order receiptSummary actor.id dto.reason dto.metadata

def recordReceiptEvent (dto : RecordPurchaseOrderReceiptDto)
    (actor : PurchaseOrderActorContext) : PurchaseOrderProc PurchaseOrder := do
  let order ← findOneById id actor.branchId
  let (received, receiptSummary) ← prepareReceipt now order dto actor
  Proc.transaction (persistReceiptUpdate now id order received receiptSummary dto actor)
  findOneById id none

def updateStatus (dto : UpdatePurchaseOrderStatusDto)
    (actor : PurchaseOrderActorContext) : PurchaseOrderProc PurchaseOrder := do
  let order ← findOneById id actor.branchId
  updateLoadedStatus now id order dto actor false

def updateStatusWithManager (dto : UpdatePurchaseOrderStatusDto)
    (actor : PurchaseOrderActorContext) : PurchaseOrderProc PurchaseOrder := do
  let order ← findOneById id actor.branchId
  updateLoadedStatus now id order dto actor true

def updateSupplierStatus (dto : UpdatePurchaseOrderStatusDto)
    (actor : PurchaseOrderActorContext) : PurchaseOrderProc PurchaseOrder := do
  .throwIf (dto.status ≠ .acknowledged ∧ dto.status ≠ .shipped)
    (.badRequest "Suppliers can only acknowledge or mark purchase orders as shipped")
  let order ← findOneById id none
  if !hasAnyRole actor.roles [.superAdmin, .admin] then
    let supplierProfileId ← resolveActorSupplierProfileId actor.id
    .throwIf (supplierProfileId ≠ some order.supplierProfileId)
      (.forbidden "You can only update purchase orders addressed to your supplier account")
  updateStatus now id dto { actor with branchId := none }

def hasReceiptDiscrepancy (event : PurchaseOrderReceiptEvent) : Bool :=
  event.receiptLines.any fun line => line.shortageQuantity > 0 ∨ line.damagedQuantity > 0

def acknowledgeReceiptEvent (purchaseOrderId eventId : ℕ) (note : Option String)
    (actor : PurchaseOrderActorContext) : PurchaseOrderProc PurchaseOrderReceiptEvent := do
  assertReceiptAcknowledgementRole actor.roles
  let event ← findReceiptEventOrThrow purchaseOrderId eventId actor.branchId
  if event.supplierAcknowledgedAt.isSome then return event
  let event := { event with
    supplierAcknowledgedAt := some now
    supplierAcknowledgedByUserId := actor.id
    supplierAcknowledgementNote := note }
  saveReceiptEvent eventId event
  return event

def resolvedEvent (resolutionNote : String) (metadata : Option String)
    (actor : PurchaseOrderActorContext) (event : PurchaseOrderReceiptEvent) : PurchaseOrderReceiptEvent :=
  { event with
    discrepancyStatus := some .resolved
    discrepancyResolutionNote := some resolutionNote
    discrepancyMetadata := metadata
    discrepancyResolvedAt := some now
    discrepancyResolvedByUserId := actor.id }

def resolveReceiptEventDiscrepancy (purchaseOrderId eventId : ℕ)
    (resolutionNote : String) (metadata : Option String) (actor : PurchaseOrderActorContext) :
    PurchaseOrderProc PurchaseOrderReceiptEvent := do
  assertReceiptAcknowledgementRole actor.roles
  let event ← findReceiptEventOrThrow purchaseOrderId eventId actor.branchId
  .throwIf (!hasReceiptDiscrepancy event) (.badRequest
    "This receipt event does not contain a shortage or damaged quantity to resolve")
  let event := resolvedEvent now resolutionNote metadata actor event
  saveReceiptEvent eventId event
  return event

def approvedEvent (note : Option String) (actor : PurchaseOrderActorContext)
    (event : PurchaseOrderReceiptEvent) : PurchaseOrderReceiptEvent :=
  { event with
    discrepancyStatus := some .approved
    discrepancyApprovedAt := some now
    discrepancyApprovedByUserId := actor.id
    discrepancyApprovalNote := note }

def approveReceiptEventDiscrepancy (purchaseOrderId eventId : ℕ) (note : Option String)
    (actor : PurchaseOrderActorContext) : PurchaseOrderProc PurchaseOrderReceiptEvent := do
  assertBuyerReceiptApprovalRole actor.roles
  let event ← findReceiptEventOrThrow purchaseOrderId eventId actor.branchId
  .throwIf (event.discrepancyStatus ≠ some .resolved)
    (.badRequest "Only resolved receipt discrepancies can be approved")
  let event := approvedEvent now note actor event
  saveReceiptEvent eventId event
  return event

def forceCloseReceiptEventDiscrepancy (purchaseOrderId eventId : ℕ) (note : String)
    (actor : PurchaseOrderActorContext) : PurchaseOrderProc PurchaseOrderReceiptEvent := do
  assertAdminReceiptOverrideRole actor.roles
  let event ← findReceiptEventOrThrow purchaseOrderId eventId actor.branchId
  .throwIf (!hasReceiptDiscrepancy event) (.badRequest
    "This receipt event does not contain a shortage or damaged quantity to force-close")
  if event.discrepancyStatus = some .approved then return event
  let event := approvedEvent now (some note) actor event
  saveReceiptEvent eventId event
  return event

end PurchaseOrders

/-- A call of the service; one with the transaction of its caller runs in that transaction. -/
inductive PurchaseOrderCall where
  | create (now : Date) (dto : CreatePurchaseOrderDto)
  | recordReceiptEvent (now : Date) (id : ℕ) (dto : RecordPurchaseOrderReceiptDto)
      (actor : PurchaseOrderActorContext)
  | acknowledgeReceiptEvent (now : Date) (purchaseOrderId eventId : ℕ) (note : Option String)
      (actor : PurchaseOrderActorContext)
  | resolveReceiptEventDiscrepancy (now : Date) (purchaseOrderId eventId : ℕ)
      (resolutionNote : String) (metadata : Option String) (actor : PurchaseOrderActorContext)
  | approveReceiptEventDiscrepancy (now : Date) (purchaseOrderId eventId : ℕ) (note : Option String)
      (actor : PurchaseOrderActorContext)
  | forceCloseReceiptEventDiscrepancy (now : Date) (purchaseOrderId eventId : ℕ) (note : String)
      (actor : PurchaseOrderActorContext)
  | updateStatus (now : Date) (id : ℕ) (dto : UpdatePurchaseOrderStatusDto)
      (actor : PurchaseOrderActorContext)
  | updateStatusWithManager (now : Date) (id : ℕ) (dto : UpdatePurchaseOrderStatusDto)
      (actor : PurchaseOrderActorContext)
  | updateSupplierStatus (now : Date) (id : ℕ) (dto : UpdatePurchaseOrderStatusDto)
      (actor : PurchaseOrderActorContext)

namespace PurchaseOrderCall

def handler : PurchaseOrderCall → PurchaseOrderProc Unit
  | create now dto => do let _ ← PurchaseOrders.create now dto
  | recordReceiptEvent now id dto actor => do
    let _ ← PurchaseOrders.recordReceiptEvent now id dto actor
  | acknowledgeReceiptEvent now purchaseOrderId eventId note actor => do
    let _ ← PurchaseOrders.acknowledgeReceiptEvent now purchaseOrderId eventId note actor
  | resolveReceiptEventDiscrepancy now purchaseOrderId eventId resolutionNote metadata actor => do
    let _ ← PurchaseOrders.resolveReceiptEventDiscrepancy now purchaseOrderId eventId resolutionNote
      metadata actor
  | approveReceiptEventDiscrepancy now purchaseOrderId eventId note actor => do
    let _ ← PurchaseOrders.approveReceiptEventDiscrepancy now purchaseOrderId eventId note actor
  | forceCloseReceiptEventDiscrepancy now purchaseOrderId eventId note actor => do
    let _ ← PurchaseOrders.forceCloseReceiptEventDiscrepancy now purchaseOrderId eventId note actor
  | updateStatus now id dto actor => do let _ ← PurchaseOrders.updateStatus now id dto actor
  | updateStatusWithManager now id dto actor => do
    let _ ← Proc.transaction (PurchaseOrders.updateStatusWithManager now id dto actor)
  | updateSupplierStatus now id dto actor => do
    let _ ← PurchaseOrders.updateSupplierStatus now id dto actor

def step (s : PurchaseOrderStore) (c : PurchaseOrderCall) : PurchaseOrderStore := (c.handler.run s).2

def Succeeds (c : PurchaseOrderCall) (s : PurchaseOrderStore) : Prop := (c.handler.run s).1 = .ok ()
deriving Decidable

end PurchaseOrderCall

end SuuqBackend
