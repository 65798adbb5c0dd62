import SuuqBackend.Deliverer.Deliveries
import SuuqBackend.Orders.Placements

/-!
# The fulfillment of orders

What vendors and administrators use to bring orders on their way: the tables of the orders, what the placement of an
order wrote, and the roles of the users.

`save` of an order writes the items that were loaded with it (`cascade`), and `save` of an item only the item.
-/

namespace SuuqBackend

namespace OrderStatus

def text : OrderStatus → String
  | .pending => "PENDING"
  | .processing => "PROCESSING"
  | .shipped => "SHIPPED"
  | .outForDelivery => "OUT_FOR_DELIVERY"
  | .delivered => "DELIVERED"
  | .deliveryFailed => "DELIVERY_FAILED"
  | .cancelled => "CANCELLED"
  | .cancelledByBuyer => "CANCELLED_BY_BUYER"
  | .cancelledBySeller => "CANCELLED_BY_SELLER"
  | .disputed => "DISPUTED"

/-- `isShippingLike`. -/
def IsShippingLike (status : OrderStatus) : Prop :=
  status = .shipped ∨ status = .outForDelivery ∨ status = .delivered
deriving Decidable

end OrderStatus

structure FulfillmentStore where
  order : OrderStore
  placements : Table ℕ Placement
  roles : Table ℕ (List UserRole)

abbrev FulfillmentProc : Type → Type := Proc FulfillmentStore HttpException

structure FulfillmentRuntime where
  /-- `new Date()`. -/
  now : ℤ
  /-- The outcome of `notifyOrderStatusChange`. -/
  notifyOrderStatusChange : Except HttpException Unit
  /-- The outcome of the notification of the deliverer. -/
  notifyDeliverer : Except HttpException Unit

namespace Order

def withItem (order : Order) (item : OrderItem) : Order :=
  { order with items := order.items.map fun other => if other.id = item.id then item else other }

end Order

namespace OrderStore

def itemsOf (s : OrderStore) (orderId : ℕ) : List OrderItem := ((s.orders.lookup orderId).map (·.items)).getD []

def findItem (s : OrderStore) (orderId itemId : ℕ) : Option (Order × OrderItem) := do
  let order ← s.orders.lookup orderId
  let item ← order.items.find? fun item => item.id = itemId
  return (order, item)

/-- `save` of an item that was loaded. -/
def saveItem (s : OrderStore) (orderId : ℕ) (item : OrderItem) : OrderStore :=
  match s.orders.lookup orderId with
  | none => s
  | some order => s.saveOrder orderId (order.withItem item)

def vendorIdOf (s : OrderStore) (item : OrderItem) : Option ℕ := (s.loadItem item).vendor.map Prod.fst

end OrderStore

namespace FulfillmentStore

def orderLens : Proc.Lens FulfillmentStore OrderStore where
  get s := s.order
  set s order := { s with order }

/-- `save` of an order that was loaded. -/
def saveOrder (s : FulfillmentStore) (orderId : ℕ) (order : Order) : FulfillmentStore :=
  { s with order := s.order.saveOrder orderId order }

/-- The order is to be paid for in cash when it is delivered. -/
def IsCod (s : FulfillmentStore) (orderId : ℕ) : Prop :=
  (s.placements.lookup orderId).map (·.paymentMethod) = some .cod
deriving Decidable

/-- `order.paymentStatus !== PAID && order.paymentMethod !== COD`. -/
def Owes (s : FulfillmentStore) (orderId : ℕ) (order : Order) : Prop :=
  order.paymentStatus ≠ .paid ∧ ¬ s.IsCod orderId
deriving Decidable

/-- `(user.roles || []).includes(role)`. -/
def HasRole (s : FulfillmentStore) (userId : ℕ) (role : UserRole) : Prop :=
  role ∈ (s.roles.lookup userId).getD []
deriving Decidable

end FulfillmentStore

end SuuqBackend

/-!
## Orders and items in the hands of an administrator

`OrdersService.updateOrderItemStatus` gives an item any status and the order the status that `computeAggregateStatus`
makes of its items, and `assignDeliverer` gives an order to a deliverer.

The order that `updateOrderItemStatus` saves was loaded with the item, so that its items are those before the update.
-/

namespace SuuqBackend.OrderItems

open Deliveries (orderNotFound)

def computeAggregateStatus (items : List OrderItem) : OrderStatus :=
  let statuses := items.map (·.status)
  if items = [] then .pending
  else if .cancelled ∈ statuses then .cancelled
  else if .cancelledByBuyer ∈ statuses then .cancelledByBuyer
  else if .cancelledBySeller ∈ statuses then .cancelledBySeller
  else if .deliveryFailed ∈ statuses then .deliveryFailed
  else if ∀ item ∈ items, item.status = .delivered then .delivered
  else if .outForDelivery ∈ statuses then .outForDelivery
  else if .shipped ∈ statuses then .shipped
  else if .processing ∈ statuses then .processing
  else .pending

def EndsReservation (status : OrderStatus) : Prop :=
  status = .delivered ∨ status = .cancelled ∨ status = .cancelledByBuyer ∨ status = .cancelledBySeller
deriving Decidable

/-- The order without its reservation, if the status ends it. -/
def releaseFor (now : ℤ) (aggregate : OrderStatus) (order : Order) (items : List LoadedItem) : OrderProc Order :=
  if EndsReservation aggregate then OnlineReservations.releaseOnlineReservation now order items else pure order

section Updates

variable (env : FulfillmentRuntime)

def storeAggregate (orderId : ℕ) (order : Order) (items : List LoadedItem) (aggregate : OrderStatus) :
    OrderProc Unit := do
  let released ← releaseFor env.now aggregate order items
  Proc.write fun s => s.saveOrder orderId { released with status := aggregate }
  .ofExcept env.notifyOrderStatusChange

def updateOrderItemStatus (orderId itemId : ℕ) (next : OrderStatus) : OrderProc Unit := do
  let some (order, item) ← Proc.read fun s : OrderStore => s.findItem orderId itemId
    | throw (.notFound "Order item not found")
  let items ← Proc.read fun s : OrderStore => order.items.map s.loadItem
  Proc.write fun s => s.saveItem orderId { item with status := next }
  let aggregate ← Proc.read fun s : OrderStore => computeAggregateStatus (s.itemsOf orderId)
  if order.status ≠ aggregate then storeAggregate env orderId order items aggregate else pure ()

/-- The order as `assignDeliverer` saves it at first. -/
def requestedOrder (delivererId : ℕ) (order : Order) : Order :=
  { order with delivererId := some delivererId, deliveryAcceptanceStatus := some .pending }

def assignDeliverer (orderId delivererId : ℕ) : FulfillmentProc Unit := do
  let some order ← Proc.read fun s : FulfillmentStore => s.order.orders.lookup orderId
    | throw orderNotFound
  let isDeliverer ← Proc.read fun s : FulfillmentStore => decide (s.HasRole delivererId .deliverer)
  .throwIf (isDeliverer = false) (.badRequest "User is not a deliverer")
  let requested := requestedOrder delivererId order
  Proc.write fun s => s.saveOrder orderId requested
  Proc.write fun s => s.saveOrder orderId { requested with status := .shipped }
  .ofExcept env.notifyOrderStatusChange
  .ofExcept env.notifyDeliverer

end Updates

end SuuqBackend.OrderItems
