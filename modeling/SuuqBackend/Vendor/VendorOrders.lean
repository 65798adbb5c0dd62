import SuuqBackend.Orders.OrderItems

/-!
# Orders in the hands of a vendor

`VendorService`: a vendor moves an order or one of its items, ships items, or gives the order to a deliverer.  Three of
the four operations refuse to ship an order that is neither paid nor paid for in cash at its delivery.

The order that `updateOrderItemStatus` and `createShipment` save was loaded with the items, so that its items are those
before the update.  The tracking numbers, the notifications and what the responses add are left out.
-/

namespace SuuqBackend.VendorOrders

open Deliveries (orderNotFound)

/-! ### Statuses -/

/-- `allowedNext` of an order. -/
def allowedNextOfOrder : OrderStatus → List OrderStatus
  | .pending => [.processing, .cancelledBySeller]
  | .processing => [.shipped, .cancelledBySeller]
  | _ => []

/-- `allowedNext` of an item. -/
def allowedNextOfItem : OrderStatus → List OrderStatus
  | .pending => [.processing, .cancelledBySeller]
  | .processing => [.shipped, .cancelledBySeller]
  | .shipped => [.outForDelivery, .delivered]
  | .outForDelivery => [.delivered, .deliveryFailed]
  | _ => []

/-- `Invalid status transition`. -/
def invalidTransition (current status : OrderStatus) : HttpException :=
  .forbidden s!"Invalid status transition from {current.text} to {status.text}"

def computeAggregateStatus (items : List OrderItem) : OrderStatus :=
  let statuses := items.map (·.status)
  if .deliveryFailed ∈ statuses then .deliveryFailed
  else if items ≠ [] ∧ ∀ item ∈ items, item.status = .delivered then .delivered
  else if .outForDelivery ∈ statuses then .outForDelivery
  else if .shipped ∈ statuses then .shipped
  else if .processing ∈ statuses then .processing
  else .pending

/-! ### Operations -/

section Operations

variable (env : FulfillmentRuntime) (vendorId orderId : ℕ)

/-- The part of `updateOrderStatus` after the look at the order. -/
def moveOrder (order : Order) (owes : Bool) (status : OrderStatus) : FulfillmentProc Unit := do
  .throwIf (status ∉ allowedNextOfOrder order.status) (invalidTransition order.status status)
  .throwIf (status = .shipped ∧ owes = true) (.forbidden "Cannot ship unpaid order (non-COD)")
  Proc.write fun s => s.saveOrder orderId { order with status }
  .ofExcept env.notifyOrderStatusChange

def updateOrderStatus (status : OrderStatus) : FulfillmentProc Unit := do
  let some order ← Proc.read fun s : FulfillmentStore => s.order.orders.lookup orderId
    | throw orderNotFound
  let allFromVendor ← Proc.read fun s : FulfillmentStore =>
    decide (order.items ≠ [] ∧ ∀ item ∈ order.items, s.order.vendorIdOf item = some vendorId)
  .throwIf (allFromVendor = false) (.forbidden "Order contains items from other vendors; cannot update global status")
  let owes ← Proc.read fun s : FulfillmentStore => decide (s.Owes orderId order)
  moveOrder env orderId order owes status

/-- The order is given the status of its items, with the items that were loaded before. -/
def storeAggregate (order : Order) : FulfillmentProc OrderStatus := do
  let aggregate ← Proc.read fun s : FulfillmentStore => computeAggregateStatus (s.order.itemsOf orderId)
  if order.status ≠ aggregate then do
    Proc.write fun s => s.saveOrder orderId { order with status := aggregate }
    return aggregate
  else return aggregate

/-- The part of `updateOrderItemStatus` after the look at the item. -/
def moveItem (order : Order) (item : OrderItem) (owes : Bool) (next : OrderStatus) : FulfillmentProc Unit := do
  .throwIf (next ∉ allowedNextOfItem item.status) (invalidTransition item.status next)
  .throwIf (next.IsShippingLike ∧ owes = true)
    (.forbidden "Cannot progress to shipping/delivery on unpaid order (non-COD)")
  Proc.write fun s => { s with order := s.order.saveItem orderId { item with status := next } }
  let aggregate ← storeAggregate orderId order
  if order.status ≠ aggregate then .ofExcept env.notifyOrderStatusChange else pure ()

def updateOrderItemStatus (itemId : ℕ) (next : OrderStatus) : FulfillmentProc Unit := do
  let some (order, item) ← Proc.read fun s : FulfillmentStore => s.order.findItem orderId itemId
    | throw (.notFound "Order item not found")
  let itemVendor ← Proc.read fun s : FulfillmentStore => s.order.vendorIdOf item
  .throwIf (itemVendor ≠ some vendorId) (.forbidden "You cannot update this item")
  let owes ← Proc.read fun s : FulfillmentStore => decide (s.Owes orderId order)
  moveItem env orderId order item owes next

/-- The statuses of items that can be shipped. -/
def ShipsFrom (status : OrderStatus) : Prop := status = .pending ∨ status = .processing
deriving Decidable

def saveShipped (rows : List OrderItem) : FulfillmentProc Unit :=
  Proc.write fun s =>
    { s with order := rows.foldl (fun t item => t.saveItem orderId { item with status := .shipped }) s.order }

/-- The part of `createShipment` after the look at the items. -/
def shipItems (order : Order) (rows : List OrderItem) (owes : Bool) : FulfillmentProc Unit := do
  match rows.find? fun item => ¬ ShipsFrom item.status with
  | some item => throw (.forbidden s!"Item {item.id} cannot be shipped from status {item.status.text}")
  | none =>
    .throwIf (owes = true) (.forbidden "Cannot ship items on unpaid order (non-COD)")
    saveShipped orderId rows
    let _ ← storeAggregate orderId order

def rowsOf (items : List ℕ) (order : Order) : List OrderItem := order.items.filter fun item => item.id ∈ items

def createShipment (items : List ℕ) : FulfillmentProc Unit := do
  .throwIf (items = []) (.forbidden "At least one item is required")
  let some order ← Proc.read fun s : FulfillmentStore => s.order.orders.lookup orderId
    | throw (.notFound "One or more items were not found")
  let rows := rowsOf items order
  .throwIf (rows.length ≠ items.length) (.notFound "One or more items were not found")
  let ownItems ← Proc.read fun s : FulfillmentStore =>
    decide (∀ item ∈ rows, s.order.vendorIdOf item = some vendorId)
  .throwIf (ownItems = false) (.forbidden "You cannot update one or more items")
  let owes ← Proc.read fun s : FulfillmentStore => decide (s.Owes orderId order)
  shipItems orderId order rows owes

/-- The order as `assignDelivererByVendor` saves it. -/
def assignedOrder (delivererId : ℕ) (order : Order) : Order :=
  { order with
    delivererId := some delivererId
    status := .shipped
    deliveryAssignedAt := some env.now
    outForDeliveryAt := none
    deliveryResolvedAt := none
    deliveryAcceptanceStatus := some .pending }

/-- `assignDelivererByVendor`: a failure to notify the deliverer is ignored. -/
def assignDelivererByVendor (delivererId : ℕ) : FulfillmentProc Unit := do
  let some order ← Proc.read fun s : FulfillmentStore => s.order.orders.lookup orderId
    | throw orderNotFound
  let hasVendorItems ← Proc.read fun s : FulfillmentStore =>
    decide (∃ item ∈ order.items, s.order.vendorIdOf item = some vendorId)
  .throwIf (hasVendorItems = false) (.forbidden "Order does not contain any items from this vendor")
  let isDeliverer ← Proc.read fun s : FulfillmentStore => decide (s.HasRole delivererId .deliverer)
  .throwIf (isDeliverer = false) (.forbidden "Selected user is not a deliverer")
  Proc.write fun s => s.saveOrder orderId (assignedOrder env delivererId order)
  .ofExcept env.notifyOrderStatusChange

end Operations

end SuuqBackend.VendorOrders
