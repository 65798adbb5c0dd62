import SuuqBackend.Withdrawals.Withdrawals

/-!
# The tables of the orders

`order` with its items, `payout_log`, and what payments and deliveries use of `products`, of the wallets and of the
inventory.  `payouts` are the payments that Ebirr has made for order items, each with the id of its item.
`deliveries` is no table: it lists the orders that `onOrderDelivered` was called for, one entry a call.

Ids are never 0.  The rows of `payout_log` get their `createdAt` in the order of their ids.
-/

namespace SuuqBackend

inductive PaymentStatus where
  | unpaid
  | paid
  | failed
deriving DecidableEq

inductive OrderStatus where
  | pending
  | processing
  | shipped
  | outForDelivery
  | delivered
  | deliveryFailed
  | cancelled
  | cancelledByBuyer
  | cancelledBySeller
  | disputed
deriving DecidableEq

inductive DeliveryAcceptanceStatus where
  | pending
  | accepted
  | rejected
deriving DecidableEq

inductive PayoutProvider where
  | ebirr
  | mpesa
  | telebirr
deriving DecidableEq

structure OrderItem where
  id : ℕ
  productId : Option ℕ
  quantity : ℤ
  price : Numeric2
  vendorPayout : Numeric2
  status : OrderStatus

/-- What orders use of a row of `products`. -/
structure OrderedProduct where
  name : String
  vendorId : Option ℕ
  salesCount : ℤ

/-- A row of `order`, with its items. -/
structure Order where
  delivererId : Option ℕ := none
  items : List OrderItem
  paymentStatus : PaymentStatus
  status : OrderStatus
  deliveryAcceptanceStatus : Option DeliveryAcceptanceStatus := none
  fulfillmentBranchId : Option ℕ := none
  onlineReservationReleasedAt : Option ℤ := none
  currency : String
  deliveryAssignedAt : Option ℤ := none
  outForDeliveryAt : Option ℤ := none
  deliveryResolvedAt : Option ℤ := none
  deliveryCode : Option String := none
  deliveryAttemptCount : ℕ := 0
  proofOfDeliveryUrl : Option String := none
  deliveryFailureReasonCode : Option String := none
  deliveryFailureNotes : Option String := none

/-- A row of `payout_log`, of any provider. -/
structure OrderPayoutLog extends PayoutLog where
  provider : PayoutProvider
  orderId : Option ℕ
  orderItemId : Option ℕ

structure OrderStore where
  orders : Table ℕ Order
  products : Table ℕ OrderedProduct
  payoutLogs : SerialTable OrderPayoutLog
  wallet : WalletStore
  inventory : InventoryStore
  payouts : List (ℕ × Payout)
  deliveries : List ℕ

abbrev OrderProc : Type → Type := Proc OrderStore HttpException

/-- An item with its product and the vendor of that, as `relations` load them. -/
structure LoadedItem where
  item : OrderItem
  product : Option (ℕ × OrderedProduct)
  vendor : Option (ℕ × User)

namespace OrderStore

/-- The tables of the wallets among them. -/
def walletLens : Proc.Lens OrderStore WalletStore where
  get s := s.wallet
  set s wallet := { s with wallet }

/-- The tables of the inventory among them. -/
def inventoryLens : Proc.Lens OrderStore InventoryStore where
  get s := s.inventory
  set s inventory := { s with inventory }

def productOf (s : OrderStore) (item : OrderItem) : Option (ℕ × OrderedProduct) := do
  let productId ← item.productId
  let product ← s.products.lookup productId
  return (productId, product)

def vendorOf (s : OrderStore) (product : OrderedProduct) : Option (ℕ × User) := do
  let vendorId ← product.vendorId
  let user ← s.wallet.users.lookup vendorId
  return (vendorId, user)

/-- An item with the relations `product` and `product.vendor`. -/
def loadItem (s : OrderStore) (item : OrderItem) : LoadedItem where
  item
  product := s.productOf item
  vendor := (s.productOf item).bind fun found => s.vendorOf found.2

/-- An order with the relations `items`, `items.product` and `items.product.vendor`. -/
def loadOrder (s : OrderStore) (orderId : ℕ) : Option (Order × List LoadedItem) :=
  (s.orders.lookup orderId).map fun order => (order, order.items.map s.loadItem)

/-- `save` of an order that was loaded. -/
def saveOrder (s : OrderStore) (orderId : ℕ) (order : Order) : OrderStore :=
  { s with orders := s.orders.insert orderId order }

/-- Ebirr makes a payment for an item. -/
def pay (s : OrderStore) (itemId : ℕ) (payout : Payout) : OrderStore :=
  { s with payouts := s.payouts ++ [(itemId, payout)] }

/-- `findOne({ where: { orderItemId, provider: EBIRR }, order: { createdAt: 'DESC' } })`. -/
def latestPayout (s : OrderStore) (itemId : ℕ) : Option (ℕ × OrderPayoutLog) :=
  s.payoutLogs.last fun log => log.orderItemId = some itemId ∧ log.provider = .ebirr

end OrderStore

end SuuqBackend
