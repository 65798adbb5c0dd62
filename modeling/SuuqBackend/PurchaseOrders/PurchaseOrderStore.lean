import SuuqBackend.Accounting.GeneralLedger
import SuuqBackend.Branches.InventoryLedger
import SuuqBackend.Users.UserStore

/-!
# The tables under the purchase orders

`purchase_orders` with their items, `purchase_order_receipt_events`, and what the service reads of
`supplier_profiles` and `supplier_offers`, beside the tables of the inventory ledger and of the
general ledger.

The items of an order are loaded and saved with it.  Their quantities are natural numbers: the
requests do not let negative ones pass, and the columns are integers.
-/

namespace SuuqBackend

inductive PurchaseOrderStatus where
  | draft
  | submitted
  | acknowledged
  | shipped
  | received
  | reconciled
  | cancelled
deriving DecidableEq

def PurchaseOrderStatus.text : PurchaseOrderStatus → String
  | draft => "DRAFT"
  | submitted => "SUBMITTED"
  | acknowledged => "ACKNOWLEDGED"
  | shipped => "SHIPPED"
  | received => "RECEIVED"
  | reconciled => "RECONCILED"
  | cancelled => "CANCELLED"

/-- `PurchaseOrderReceiptDiscrepancyStatus`; `opened` is `OPEN`. -/
inductive PurchaseOrderReceiptDiscrepancyStatus where
  | opened
  | resolved
  | approved
deriving DecidableEq

structure PurchaseOrderItem where
  id : ℕ
  productId : ℕ
  supplierOfferId : Option ℕ
  orderedQuantity : ℕ
  receivedQuantity : ℕ
  shortageQuantity : ℕ
  damagedQuantity : ℕ
  note : Option String
  unitPrice : ℚ

structure ReceiptLineSummary where
  itemId : ℕ
  productId : ℕ
  receivedQuantity : ℕ
  shortageQuantity : ℕ
  damagedQuantity : ℕ
  note : Option String

/-- `statusMeta.lastTransition`. -/
structure PurchaseOrderTransition where
  fromStatus : PurchaseOrderStatus
  toStatus : PurchaseOrderStatus
  actorId : Option ℕ
  actorEmail : Option String
  reason : Option String
  trackingReference : Option String
  metadata : Option String
  changedAt : Date

/-- `statusMeta.shipping`. -/
structure ShippingMeta where
  trackingReference : Option String
  shippedAt : Date

/-- `statusMeta.latestReceipt`. -/
structure LatestReceipt where
  receivedAt : Date
  note : Option String
  items : List ReceiptLineSummary
  metadata : Option String

/-- `statusMeta`, as far as the service writes it. -/
structure PurchaseOrderStatusMeta where
  lastTransition : Option PurchaseOrderTransition := none
  shipping : Option ShippingMeta := none
  latestReceipt : Option LatestReceipt := none

/-- A row of `purchase_orders` with its items. -/
structure PurchaseOrder where
  orderNumber : String
  branchId : ℕ
  supplierProfileId : ℕ
  status : PurchaseOrderStatus
  currency : String
  subtotal : ℚ
  total : ℚ
  expectedDeliveryDate : Option String
  submittedAt : Option Date
  acknowledgedAt : Option Date
  shippedAt : Option Date
  receivedAt : Option Date
  reconciledAt : Option Date
  cancelledAt : Option Date
  statusMeta : PurchaseOrderStatusMeta
  items : List PurchaseOrderItem
  /-- The ids of items are generated. -/
  items_nodup : (items.map PurchaseOrderItem.id).Nodup

structure PurchaseOrderReceiptEvent where
  purchaseOrderId : ℕ
  actorUserId : Option ℕ
  note : Option String
  receiptLines : List ReceiptLineSummary
  metadata : Option String
  supplierAcknowledgedAt : Option Date
  supplierAcknowledgedByUserId : Option ℕ
  supplierAcknowledgementNote : Option String
  discrepancyStatus : Option PurchaseOrderReceiptDiscrepancyStatus
  discrepancyResolutionNote : Option String
  discrepancyMetadata : Option String
  discrepancyResolvedAt : Option Date
  discrepancyResolvedByUserId : Option ℕ
  discrepancyApprovedAt : Option Date
  discrepancyApprovedByUserId : Option ℕ
  discrepancyApprovalNote : Option String
  createdAt : Date

inductive SupplierOnboardingStatus where
  | draft
  | pendingReview
  | approved
  | rejected
deriving DecidableEq

structure SupplierProfile where
  id : ℕ
  userId : ℕ
  onboardingStatus : SupplierOnboardingStatus

structure SupplierOffer where
  id : ℕ
  supplierProfileId : ℕ
  productId : ℕ

/-- The tables that the service reads and writes. -/
structure PurchaseOrderStore where
  inventory : InventoryStore
  journal : GlStore
  supplierProfiles : List SupplierProfile
  supplierOffers : List SupplierOffer
  orders : SerialTable PurchaseOrder
  /-- The next generated id of an item. -/
  nextItemId : ℕ
  receiptEvents : SerialTable PurchaseOrderReceiptEvent

abbrev PurchaseOrderProc : Type → Type := Proc PurchaseOrderStore HttpException

namespace PurchaseOrderStore

def inventoryLens : Proc.Lens PurchaseOrderStore InventoryStore where
  get s := s.inventory
  set s inventory := { s with inventory }

def journalLens : Proc.Lens PurchaseOrderStore GlStore where
  get s := s.journal
  set s journal := { s with journal }

def eventsOf (s : PurchaseOrderStore) (purchaseOrderId : ℕ) : Multiset PurchaseOrderReceiptEvent :=
  (s.receiptEvents.rows.entries.map fun e => e.2).filter fun e => e.purchaseOrderId = purchaseOrderId

def HasOrderNumber (s : PurchaseOrderStore) (orderNumber : String) : Prop :=
  ∃ e ∈ s.orders.rows.entries, e.2.orderNumber = orderNumber

instance (s : PurchaseOrderStore) (orderNumber : String) : Decidable (s.HasOrderNumber orderNumber) :=
  Multiset.decidableExistsMultiset

end PurchaseOrderStore

namespace PurchaseOrderRepository

/-- `purchaseOrdersRepository.save` of an order that was loaded. -/
def saveOrder (id : ℕ) (order : PurchaseOrder) : PurchaseOrderProc Unit :=
  Proc.write fun s => { s with orders := s.orders.set id order }

/-- `receiptEventsRepository.save` of a new event: its generated id. -/
def insertReceiptEvent (event : PurchaseOrderReceiptEvent) : PurchaseOrderProc ℕ :=
  .step (fun s => { s with receiptEvents := s.receiptEvents.add event }) fun s => .done s.receiptEvents.next

/-- `purchaseOrderReceiptEventsRepository.save` of an event that was loaded. -/
def saveReceiptEvent (id : ℕ) (event : PurchaseOrderReceiptEvent) : PurchaseOrderProc Unit :=
  Proc.write fun s => { s with receiptEvents := s.receiptEvents.set id event }

end PurchaseOrderRepository

end SuuqBackend

/-!
## The cost of products

`ProductCostService`: the average unit price of a product over the purchase orders of a branch, weighted
by quantity; a product without such orders has the cost that was entered for it by hand.
-/

namespace SuuqBackend.ProductCost

def itemsOf (orders : SerialTable PurchaseOrder) (branchId productId : ℕ) : Multiset PurchaseOrderItem :=
  (orders.rows.entries.filter fun e => e.2.branchId = branchId).bind fun e =>
    (e.2.items.filter fun item => item.productId = productId : List PurchaseOrderItem)

/-- `GREATEST(item.receivedQuantity, item.orderedQuantity)`. -/
def costedQuantity (item : PurchaseOrderItem) : ℕ := max item.receivedQuantity item.orderedQuantity

/-- `weightedAverageCosts`: the cost of one of the products, if it has one; `costPrices` are the costs
entered by hand. -/
def weightedAverageCost (orders : SerialTable PurchaseOrder) (costPrices : Table ℕ ℚ)
    (branchId productId : ℕ) : Option ℚ :=
  let items := itemsOf orders branchId productId
  let totalCost := (items.map fun item => item.unitPrice * costedQuantity item).sum
  let totalQty := (items.map costedQuantity).sum
  if 0 < totalQty then some (totalCost / totalQty)
  else (costPrices.lookup productId).filter (0 < ·)

end SuuqBackend.ProductCost
