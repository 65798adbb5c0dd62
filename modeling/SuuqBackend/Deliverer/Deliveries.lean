import SuuqBackend.Orders.OrderPayments
import SuuqBackend.PurchaseOrders.PurchaseOrders

/-!
# Deliveries

`DelivererService`: a deliverer accepts or rejects an order, picks it up, and delivers it with the code of the
customer, or reports that the delivery failed; an administrator can mark any order as delivered.  The first time that
an order is marked as delivered, `onOrderDelivered` releases its reservation, counts its sales and credits its vendors
and its deliverer.

The outcomes of the notifications, the settings and the rates are given with each call; emails and what the responses
add to an order are left out.
-/

namespace SuuqBackend

structure DeliveryRuntime where
  /-- `new Date()`. -/
  now : ℤ
  /-- The random code of a pickup. -/
  code : String
  toUpperCase : String → String
  rates : String → Option ℚ
  /-- `new Date()` after thirty days. -/
  inThirtyDays : ℤ
  /-- `Number(getSetting('delivery_base_fee', 50))`; `none` is `NaN`. -/
  deliveryBaseFee : Option ℚ
  /-- `Number(getSystemSetting('VENDOR_COMMISSION_PERCENT'))`; `none` is `NaN`. -/
  vendorCommissionPercent : Option ℚ
  /-- The outcome of `notifyOrderStatusChange`. -/
  notifyOrderStatusChange : Except HttpException Unit
  /-- The outcome of the notifications of the vendors. -/
  notifyVendors : Except HttpException Unit
  /-- The outcome of `realtimeGateway.notifyOrderComplete`. -/
  notifyOrderComplete : Except HttpException Unit

def DeliveryRuntime.wallets (env : DeliveryRuntime) : WalletRuntime := ⟨env.toUpperCase, env.rates, env.inThirtyDays⟩

namespace Deliveries

open PurchaseOrders (insertionOrder)

/-! ### Errors -/

def orderNotFound : HttpException := .notFound "Order not found"

/-- The order has another deliverer, or none. -/
def notAssigned : HttpException := .forbidden "You are not assigned to this order"

/-! ### Assignments -/

section Assignments

variable (env : DeliveryRuntime) (delivererId orderId : ℕ)

/-- The order as `acceptAssignment` saves it. -/
def acceptedOrder (order : Order) : Order :=
  { order with
    delivererId := some delivererId
    deliveryAssignedAt := order.deliveryAssignedAt.or (some env.now)
    deliveryResolvedAt := none
    deliveryAcceptanceStatus := some .accepted
    status := if order.status = .pending then .processing else order.status }

/-- `findOne` of an order. -/
def findOrder : OrderProc Order := do
  let some order ← Proc.read fun s : OrderStore => s.orders.lookup orderId
    | throw orderNotFound
  return order

/-- `save` of an order that was loaded. -/
def saveOrder (order : Order) : OrderProc Unit := Proc.write fun s => s.saveOrder orderId order

def acceptAssignment : OrderProc Unit := do
  let order ← findOrder orderId
  .throwIf (order.delivererId.any fun id => id ≠ delivererId) (.forbidden "Order is already assigned to someone else")
  saveOrder orderId (acceptedOrder env delivererId order)

/-- The order as `rejectAssignment` updates it. -/
def rejectedOrder (order : Order) : Order :=
  { order with
    delivererId := none
    deliveryAssignedAt := none
    outForDeliveryAt := none
    deliveryResolvedAt := none
    deliveryAcceptanceStatus := some .rejected
    status := .processing }

/-- `rejectAssignment`: nothing is done about an order without a deliverer. -/
def rejectAssignment : OrderProc Unit := do
  let order ← findOrder orderId
  match order.delivererId with
  | none => return
  | some assignedId =>
    .throwIf (assignedId ≠ delivererId) (.forbidden "You cannot reject someone else's assigned order")
    saveOrder orderId (rejectedOrder order)
    .ofExcept env.notifyVendors

/-- The order as `confirmPickup` saves it. -/
def pickedUpOrder (order : Order) : Order :=
  { order with
    status := .outForDelivery
    outForDeliveryAt := some env.now
    deliveryCode := some env.code
    deliveryAttemptCount := 0 }

def confirmPickup : OrderProc Unit := do
  let order ← findOrder orderId
  .throwIf (order.delivererId ≠ some delivererId) notAssigned
  .throwIf (order.deliveryAcceptanceStatus ≠ some .accepted)
    (.forbidden "You must accept the assignment before picking up.")
  if order.status = .outForDelivery then return
  saveOrder orderId (pickedUpOrder env order)
  .ofExcept env.notifyOrderStatusChange
  .ofExcept env.notifyVendors

def deliveryFailureReasonCodes : List String :=
  ["CUSTOMER_UNREACHABLE", "CUSTOMER_REJECTED", "NO_SAFE_DROP_LOCATION", "ADDRESS_NOT_FOUND", "SAFETY_CONCERN",
    "VEHICLE_ISSUE", "OTHER"]

/-- The order as `failDelivery` saves it. -/
def failedOrder (reasonCode proofOfDeliveryUrl : String) (notes : Option String) (order : Order) : Order :=
  { order with
    proofOfDeliveryUrl := some proofOfDeliveryUrl
    deliveryFailureReasonCode := some reasonCode
    deliveryFailureNotes := (notes.map trim).filter (· ≠ "")
    status := .deliveryFailed
    deliveryResolvedAt := some env.now }

def failDelivery (reasonCode proofOfDeliveryUrl : String) (notes : Option String) : OrderProc Unit := do
  let normalizedReasonCode := env.toUpperCase (trim reasonCode)
  .throwIf (normalizedReasonCode ∉ deliveryFailureReasonCodes) (.badRequest "Invalid delivery failure reason code")
  let order ← findOrder orderId
  .throwIf (order.delivererId ≠ some delivererId) notAssigned
  .throwIf (order.status ≠ .outForDelivery)
    (.badRequest "Order must be out for delivery before it can be marked failed")
  saveOrder orderId (failedOrder env normalizedReasonCode proofOfDeliveryUrl notes order)
  .ofExcept env.notifyOrderStatusChange
  .ofExcept env.notifyVendors

end Assignments

/-! ### A delivered order -/

section Delivered

variable (env : DeliveryRuntime) (orderId : ℕ) (order : Order) (items : List LoadedItem)

/-- The reservation of an item is taken back. -/
def releaseItem (branchId : ℕ) (loaded : LoadedItem) : OrderProc Unit :=
  match loaded.product with
  | none => pure ()
  | some (productId, _) => do
    let _ ← Proc.zoom OrderStore.inventoryLens (InventoryLedger.adjustReservedOnline
      { branchId, productId, quantityDelta := -loaded.item.quantity })

def releaseOnlineReservation : OrderProc Unit :=
  match order.fulfillmentBranchId with
  | none => pure ()
  | some branchId =>
    if items = [] ∨ order.onlineReservationReleasedAt.isSome then pure ()
    else do
      Proc.forEach items (releaseItem branchId)
      saveOrder orderId { order with onlineReservationReleasedAt := some env.now }

def productIds : List ℕ := insertionOrder (items.filterMap fun loaded => loaded.product.map Prod.fst)

/-- `productQuantities.get(productId)`. -/
def quantityOf (productId : ℕ) : ℤ :=
  ((items.filter fun loaded => loaded.product.any fun found => found.1 = productId).map
    fun loaded => loaded.item.quantity).sum

/-- The product with more sales. -/
def soldProduct (quantity : ℤ) (product : OrderedProduct) : OrderedProduct :=
  { product with salesCount := product.salesCount + max 0 quantity }

def countSales (productId : ℕ) : OrderProc Unit :=
  Proc.write fun s => match s.products.lookup productId with
    | none => s
    | some product =>
      { s with products := s.products.insert productId (soldProduct (quantityOf items productId) product) }

def vendorIds : List ℕ := insertionOrder (items.filterMap fun loaded => loaded.vendor.map Prod.fst)

/-- `vendorEarnings.get(vendorId)`. -/
def grossOf (vendorId : ℕ) : ℚ :=
  ((items.filter fun loaded => loaded.vendor.any fun found => found.1 = vendorId).map
    fun loaded => loaded.item.price.value * (loaded.item.quantity : ℚ)).sum

/-- `commissionPercent`: `NaN` and 0 are replaced by 5. -/
def commissionPercent : ℚ := (env.vendorCommissionPercent.filter (· ≠ 0)).getD 5

def netOf (gross : ℚ) : ℚ := gross - gross * (commissionPercent env / 100)

/-- `text || other`. -/
def orDefault (text other : String) : String := if text = "" then other else text

def amountFor (amount : ℚ) (currency walletCurrency : String) : OrderProc ℚ :=
  if currency ≠ walletCurrency then
    Proc.mapError HttpException.internal
      (.ofExcept (CurrencyService.convert env.toUpperCase env.rates amount currency walletCurrency))
  else pure amount

def creditUser (userId : ℕ) (amount : ℚ) (currency description : String) : OrderProc Unit := do
  let wallet ← Proc.zoom OrderStore.walletLens (Wallets.getWallet env.wallets userId)
  let amountToCredit ← amountFor env amount currency (orDefault wallet.currency "KES")
  let _ ← Proc.zoom OrderStore.walletLens
    (Wallets.creditWallet userId amountToCredit .earning (some description) (some orderId) false)

/-- The credit of a vendor; a failure is logged and no more. -/
def creditVendor (vendorId : ℕ) : OrderProc Unit :=
  let net := netOf env (grossOf items vendorId)
  let currency := orDefault order.currency "ETB"
  if 0 < net then do
    let _ : Except HttpException Unit ← Proc.attempt (creditUser env orderId vendorId net currency
      s!"Earnings from Order #{orderId} ({currency} {(Numeric2.ofRat net).text})")
  else pure ()

/-- The credit of the deliverer; a failure is logged and no more. -/
def creditDeliverer : OrderProc Unit :=
  match order.delivererId, env.deliveryBaseFee with
  | some delivererId, some fee =>
    if 0 < fee then do
      let _ : Except HttpException Unit ← Proc.attempt (creditUser env orderId delivererId fee "ETB"
        s!"Delivery Fee for Order #{orderId}")
    else pure ()
  | _, _ => pure ()

def onOrderDelivered : OrderProc Unit := do
  Proc.write fun s => { s with deliveries := s.deliveries ++ [orderId] }
  releaseOnlineReservation env orderId order items
  .ofExcept env.notifyOrderComplete
  Proc.forEach (productIds items) (countSales items)
  Proc.forEach (vendorIds items) (creditVendor env orderId order items)
  creditDeliverer env orderId order

end Delivered

/-! ### Delivery -/

section Delivery

variable (env : DeliveryRuntime) (delivererId orderId : ℕ)

/-- The order as `updateDeliveryStatus` saves it. -/
def updatedOrder (newStatus : OrderStatus) (order : Order) : Order :=
  { order with
    status := newStatus
    outForDeliveryAt :=
      if newStatus = .outForDelivery then order.outForDeliveryAt.or (some env.now) else order.outForDeliveryAt
    deliveryResolvedAt :=
      if newStatus = .delivered ∨ newStatus = .deliveryFailed then some env.now else order.deliveryResolvedAt }

def completeDelivery (previous : OrderStatus) (order : Order) (items : List LoadedItem) : OrderProc Unit :=
  if previous ≠ .delivered ∧ order.status = .delivered then onOrderDelivered env orderId order items else pure ()

def updateDeliveryStatus (newStatus : OrderStatus) : OrderProc Unit := do
  let some (order, items) ← Proc.read fun s : OrderStore => s.loadOrder orderId
    | throw orderNotFound
  .throwIf (order.delivererId ≠ some delivererId) notAssigned
  saveOrder orderId (updatedOrder env newStatus order)
  .ofExcept env.notifyOrderStatusChange
  completeDelivery env orderId order.status (updatedOrder env newStatus order) items

/-- The order after a wrong code. -/
def attemptedOrder (order : Order) : Order :=
  { order with deliveryAttemptCount := order.deliveryAttemptCount + 1 }

/-- The rest of `verifyDelivery`, for the code of the order. -/
def verifyCode (order : Order) (code deliveryCode : String) : OrderProc Unit :=
  if code = deliveryCode then updateDeliveryStatus env delivererId orderId .delivered
  else do
    saveOrder orderId (attemptedOrder order)
    throw (.badRequest "Invalid delivery code")

def verifyDelivery (code : String) : OrderProc Unit := do
  let order ← findOrder orderId
  .throwIf (order.delivererId ≠ some delivererId) notAssigned
  if order.status = .delivered then return
  .throwIf (order.deliveryAttemptCount ≥ 5) (.badRequest "Too many failed attempts. Contact support.")
  match order.deliveryCode.filter (· ≠ "") with
  | none => throw (.badRequest "Delivery code not generated for this order.")
  | some deliveryCode => verifyCode env delivererId orderId order code deliveryCode

/-- The order as `adminForceDelivery` saves it. -/
def forcedOrder (order : Order) : Order :=
  { order with status := .delivered, deliveryResolvedAt := some env.now }

def adminForceDelivery : OrderProc Unit := do
  let some (order, items) ← Proc.read fun s : OrderStore => s.loadOrder orderId
    | throw orderNotFound
  if order.status = .delivered then return
  saveOrder orderId (forcedOrder env order)
  .ofExcept env.notifyOrderStatusChange
  onOrderDelivered env orderId (forcedOrder env order) items

end Delivery

end Deliveries

end SuuqBackend
