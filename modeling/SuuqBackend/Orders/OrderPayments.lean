import SuuqBackend.Orders.OrderStore

/-!
# Payments of orders

`OrdersService.triggerPostPaymentProcessing`, which every confirmation of a payment comes down to, credits the vendor
of each item, and when the deployment asks for it has Ebirr pay the vendor out at once
(`tryAutoEbirrPayoutForItem`).  A payout that failed can be retried.

What Ebirr answers and whether the debit after a payout meets a failure of the database are given with each call.
-/

namespace SuuqBackend

/-- What a payment takes from outside. -/
structure PaymentRuntime where
  /-- `Date.now()`. -/
  now : ℤ
  /-- `isAutoEbirrPayoutEnabled`. -/
  autoEbirrPayout : Bool
  /-- The answer of Ebirr to a request, or the message of its failure. -/
  sendPayout : Payout → Except String PayoutData
  /-- The message of the failure of the debit for an item, if it fails whatever the balance is. -/
  debitFails : ℕ → Option String

namespace OrderPayments

open Withdrawals (orElse)

/-! ### Automatic payouts -/

section AutoPayout

variable (env : PaymentRuntime) (orderId : ℕ) (loaded : LoadedItem) (vendorId : ℕ) (phone : String)

/-- `save` of a new payout log: its id. -/
def insertPayoutLog (log : OrderPayoutLog) : OrderProc ℕ :=
  .step (fun s => { s with payoutLogs := s.payoutLogs.add log }) fun s => pure s.payoutLogs.next

/-- `save` of a payout log that was loaded or inserted. -/
def savePayoutLog (logId : ℕ) (log : OrderPayoutLog) : OrderProc Unit :=
  Proc.write fun s => { s with payoutLogs := s.payoutLogs.set logId log }

/-- `resolveVendorPayoutPhone`: the empty text is `null`. -/
def resolveVendorPayoutPhone (vendor : User) : String :=
  trim (orElse vendor.vendorPhoneNumber (orElse vendor.phoneNumber ""))

/-- `referenceId`. -/
def referenceIdOf : String := s!"ORD-{orderId}-ITEM-{loaded.item.id}"

def payoutLogOf (transactionReference : String) (status : PayoutStatus) (failureReason : Option String) :
    OrderPayoutLog where
  vendorId
  amount := loaded.item.vendorPayout
  currency := "ETB"
  phoneNumber := phone
  provider := .ebirr
  transactionReference
  orderId := some orderId
  orderItemId := some loaded.item.id
  status
  failureReason

def pendingLogOf : OrderPayoutLog :=
  payoutLogOf orderId loaded vendorId phone s!"{referenceIdOf orderId loaded}-ATTEMPT-{env.now}" .pending none

/-- The payment that is asked for. -/
def payoutOf : Payout where
  phoneNumber := phone
  amount := loaded.item.vendorPayout.value
  referenceId := referenceIdOf orderId loaded
  remark := s!"Auto payout for Order #{orderId}, Item #{loaded.item.id}"

/-- `ebirrService.sendPayout`: the message of its failure. -/
def sendPayout : Proc OrderStore String PayoutData :=
  match env.sendPayout (payoutOf orderId loaded phone) with
  | .ok data =>
    Proc.write (fun s => s.pay loaded.item.id (payoutOf orderId loaded phone)) >>= fun _ => pure data
  | .error message => throw message

/-- `providerReference`. -/
def providerReferenceOf (data : PayoutData) : String :=
  orElse data.referenceId (orElse data.issuerTransactionId (orElse data.requestId (referenceIdOf orderId loaded)))

/-- `debitWallet` of the payout. -/
def debitVendor : OrderProc WalletTransaction :=
  match env.debitFails loaded.item.id with
  | some message => throw (.queryFailed message)
  | none => Proc.zoom OrderStore.walletLens (Wallets.debitWallet vendorId loaded.item.vendorPayout.value .payout
      (some s!"Auto Ebirr payout for Order #{orderId}, Item #{loaded.item.id}") (some orderId) false)

/-- The debit failed after the payment: the log is marked, and another one with the status `FAILED` is written. -/
def reconcileRequired (logId : ℕ) (paidLog : OrderPayoutLog) (message : String) : OrderProc Unit := do
  let debitFailureReason := orElse (some message) "Wallet debit failed after provider payout success"
  savePayoutLog logId { paidLog with failureReason := some s!"RECONCILE_REQUIRED: {debitFailureReason}" }
  let _ ← insertPayoutLog (payoutLogOf orderId loaded vendorId phone
    s!"{referenceIdOf orderId loaded}-WALLET-DEBIT" .failed
    (some s!"Wallet debit failed after successful provider payout. ProviderRef={paidLog.transactionReference} | {debitFailureReason}"))

/-- The payment was made. -/
def payoutSent (logId : ℕ) (data : PayoutData) : OrderProc Unit := do
  let paidLog := payoutLogOf orderId loaded vendorId phone (providerReferenceOf orderId loaded data) .success none
  savePayoutLog logId paidLog
  match ← Proc.attempt (debitVendor env orderId loaded vendorId) with
  | .ok _ => pure ()
  | .error debitError => reconcileRequired orderId loaded vendorId phone logId paidLog debitError.message

def payoutRefused (logId : ℕ) (message : String) : OrderProc Unit :=
  savePayoutLog logId { pendingLogOf env orderId loaded vendorId phone with
    status := .failed, failureReason := some (orElse (some message) "Auto Ebirr payout failed") }

/-- The part of `tryAutoEbirrPayoutForItem` that asks Ebirr for the payment. -/
def requestPayout : OrderProc Unit := do
  let logId ← insertPayoutLog (pendingLogOf env orderId loaded vendorId phone)
  match ← Proc.attempt (sendPayout env orderId loaded phone) with
  | .ok data => payoutSent env orderId loaded vendorId phone logId data
  | .error message => payoutRefused env orderId loaded vendorId phone logId message

/-- The part after the look at the newest log. -/
def payoutVendor (vendor : User) : OrderProc Unit :=
  let payoutPhone := resolveVendorPayoutPhone vendor
  if payoutPhone = "" then do
    let _ ← insertPayoutLog (payoutLogOf orderId loaded vendorId "" (referenceIdOf orderId loaded) .failed
      (some "Vendor payout phone is missing"))
  else requestPayout env orderId loaded vendorId payoutPhone

/-- A log that keeps another payout from being made. -/
def Holds (log : OrderPayoutLog) : Prop := log.status = .success ∨ log.status = .pending
deriving Decidable

def tryAutoEbirrPayoutForItem (force : Bool) : OrderProc Unit :=
  if ¬ force ∧ ¬ env.autoEbirrPayout then pure ()
  else match loaded.vendor with
  | none => pure ()
  | some (vendorId, vendor) =>
    if loaded.item.vendorPayout.value ≤ 0 then pure ()
    else do
      let existing ← Proc.read fun s : OrderStore => s.latestPayout loaded.item.id
      if existing.any fun found => Holds found.2 then pure ()
      else payoutVendor env orderId loaded vendorId vendor

end AutoPayout

variable (env : PaymentRuntime) (orderId : ℕ)

def retryFailedAutoPayout (payoutLogId : ℕ) : OrderProc (Option OrderPayoutLog) := do
  let some payout ← Proc.read fun s : OrderStore => s.payoutLogs.find payoutLogId
    | throw (.notFound "Payout log not found")
  .throwIf (payout.provider ≠ .ebirr) (.badRequest "Only EBIRR payouts can be retried here")
  .throwIf (payout.status ≠ .failed) (.badRequest "Only FAILED payouts can be retried")
  match payout.orderId, payout.orderItemId with
  | some orderId, some orderItemId =>
    let some (_, items) ← Proc.read fun s : OrderStore => s.loadOrder orderId
      | throw (.notFound "Order not found for payout retry")
    let some loaded := items.find? fun loaded => loaded.item.id = orderItemId
      | throw (.notFound "Order item not found for payout retry")
    tryAutoEbirrPayoutForItem env orderId loaded true
    let latestPayout ← Proc.read fun s : OrderStore => s.latestPayout orderItemId
    return latestPayout.map fun found => found.2
  | _, _ => throw (.badRequest "Payout log is missing order/orderItem linkage required for auto retry")

/-! ### Completion of a payment -/

def processedItem (item : OrderItem) : OrderItem :=
  if item.status = .pending then { item with status := .processing } else item

/-- The order as `triggerPostPaymentProcessing` saves it. -/
def paidOrder (order : Order) : Order :=
  { order with paymentStatus := .paid, status := .processing, items := order.items.map processedItem }

/-- The first characters of a text, as `substring` takes them. -/
def substring (text : String) (length : ℕ) : String := String.ofList (text.toList.take length)

def payoutDescription (product : OrderedProduct) : String :=
  s!"Payout for Order #{orderId} - {substring product.name 20}..."

/-- `creditWallet` of the payout of an item. -/
def creditVendor (loaded : LoadedItem) (product : OrderedProduct) (vendorId : ℕ) : OrderProc WalletTransaction :=
  Proc.zoom OrderStore.walletLens (Wallets.creditWallet vendorId loaded.item.vendorPayout.value .earning
    (some (payoutDescription orderId product)) (some orderId) false)

def creditAndPayOut (loaded : LoadedItem) (product : OrderedProduct) (vendorId : ℕ) : OrderProc Unit := do
  let _ ← creditVendor orderId loaded product vendorId
  tryAutoEbirrPayoutForItem env orderId loaded false

/-- What is done for an item; a failure is logged and no more. -/
def processItem (loaded : LoadedItem) : OrderProc Unit :=
  match loaded.product, loaded.vendor with
  | some (_, product), some (vendorId, _) =>
    if 0 < loaded.item.vendorPayout.value then do
      let _ : Except HttpException Unit ← Proc.attempt (creditAndPayOut env orderId loaded product vendorId)
    else pure ()
  | _, _ => pure ()

def triggerPostPaymentProcessing : OrderProc Order := do
  let some (order, items) ← Proc.read fun s : OrderStore => s.loadOrder orderId
    | throw (.notFound s!"Order {orderId} not found during processing.")
  if order.paymentStatus = .paid then return order
  Proc.write fun s => s.saveOrder orderId (paidOrder order)
  Proc.forEach items (processItem env orderId)
  return paidOrder order

def approveBankTransfer : OrderProc Unit := do
  let _ ← triggerPostPaymentProcessing env orderId

def completeOrderFromPaymentCallback : OrderProc Order :=
  triggerPostPaymentProcessing env orderId

/-- `verifyAndCompleteEbirrOrder`, with the order that the query names and a sign of success in it. -/
def verifyAndCompleteEbirrOrder : OrderProc (Option Order) := do
  let some order ← Proc.read fun s : OrderStore => s.orders.lookup orderId
    | return none
  if order.paymentStatus = .paid then return some order
  let completed ← triggerPostPaymentProcessing env orderId
  return some completed

/-- The part of `handleWebhook` of StarPay after its signature is verified, for a payload that names the order and
reports that it is paid. -/
def handleWebhook : OrderProc Unit := do
  let order ← Proc.read fun s : OrderStore => s.orders.lookup orderId
  if order.any fun order => order.paymentStatus = .paid then return
  let _ ← completeOrderFromPaymentCallback env orderId

end OrderPayments

end SuuqBackend
