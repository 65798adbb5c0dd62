import SuuqBackend.Orders.Placements
import SuuqBackend.Payments.PaymentCallbacks
import SuuqBackend.PosWorkspace.PosWorkspaceActivation

/-!
# Orders that are paid with Ebirr

`processEbirrPaymentAsync` asks Ebirr for the payment of an order, which is completed at once when Ebirr approves it,
and cancelled when the request fails.  `verifyAndCompleteEbirrOrder` completes the order that the return from Ebirr
names, when the return reports a success.

The notification of the buyer, and what a response shows of the reply of Ebirr, are left out.
-/

namespace SuuqBackend

open EbirrPayments

/-- What the orders take from outside when Ebirr pays for them. -/
structure EbirrOrderRuntime where
  ebirr : EbirrRuntime
  toLowerCase : String → String
  /-- `EBIRR_ALLOW_UNVERIFIED_RETURN` is `true`. -/
  allowUnverifiedReturn : Bool

namespace EbirrOrders

open PosWorkspaceActivation (ApprovedImmediately)

section Payment

variable (env : EbirrRuntime) (orderId : ℕ)

/-- A handler of the orders among the tables of Ebirr. -/
def inOrders {α : Type} (p : OrderProc α) : EbirrProc α :=
  Proc.mapError .refused (Proc.zoom EbirrStore.orderLens p)

def orderRequest (phoneNumber : String) : EbirrPaymentRequest :=
  ⟨some phoneNumber, s!"REF-{orderId}", s!"INV-{orderId}"⟩

/-- The order is completed when Ebirr has approved the payment: `paymentLifecycleState`. -/
def settleOrder (response : EbirrResponse) : EbirrProc String :=
  if ApprovedImmediately response then do
    let _ ← inOrders (OrderPayments.triggerPostPaymentProcessing env.payment orderId)
    return "PAID"
  else return "PENDING_PUSH_CONFIRMATION"

/-- The order that a failed request leaves, unless it is paid. -/
def cancelUnpaid (now : ℤ) : OrderProc Unit := do
  match ← Proc.read fun s : OrderStore => s.loadOrder orderId with
  | none => return
  | some (order, items) =>
    if order.paymentStatus = .paid then return
    else do
      let released ← OnlineReservations.releaseOnlineReservation now order items
      Proc.write fun s => s.saveOrder orderId { released with status := .cancelled, paymentStatus := .failed }

/-- `processEbirrPaymentAsync`: `paymentLifecycleState`. -/
def processEbirrPaymentAsync (phoneNumber : String) (exchange : EbirrExchange) : EbirrProc String := do
  let paid ← Proc.attempt (initiatePayment env (orderRequest orderId phoneNumber) exchange.reply
    exchange.requestedAt exchange.repliedAt >>= settleOrder env orderId)
  match paid with
  | .ok state => return state
  | .error failure =>
    inOrders (cancelUnpaid orderId exchange.repliedAt)
    throw failure

end Payment

/-! ### Returns -/

section Return

variable (env : EbirrOrderRuntime) (query : EbirrQuery)

/-- `refId`: the reference under one of the keys, or any value that begins as one. -/
def returnedReference (starts : List String) : Option QueryValue :=
  (queryReference query).or ((query.map Prod.snd).find? fun value => match value with
    | .text text => starts.any fun start => Texts.StartsWith text start
    | .nested _ => false)

/-- `String(query?.a ?? query?.b ?? '')`. -/
def writtenValue (keys : List String) : String :=
  match keys.findSome? fun key => query.lookup key with
  | none => ""
  | some (.text text) => text
  | some (.nested written) => written

/-- `hasExplicitSuccessSignal`. -/
def HasExplicitSuccessSignal : Prop :=
  trim (writtenValue query ["responseCode", "code", "errorCode"]) ∈ ["0", "200"] ∨
    env.toLowerCase (trim (writtenValue query ["status", "state"])) ∈ ["paid", "approved", "success"]
deriving Decidable

/-- The id of the order of a reference, unless it is `NaN` or 0. -/
def returnedOrderId (refId : String) : Option ℤ :=
  (Texts.parseDecimal (Texts.remove refId "REF-")).filter (· ≠ 0)

/-- `verifyAndCompleteEbirrOrder`: the order and its id. -/
def verifyAndCompleteEbirrOrder : OrderProc (Option (ℕ × Order)) :=
  match returnedReference query ["REF-"] with
  | none => pure none
  | some (.nested _) => throw (.internal "refId.replace is not a function")
  | some (.text refId) =>
    match returnedOrderId refId with
    | none => pure none
    | some orderId =>
      if ¬ HasExplicitSuccessSignal env query ∧ env.allowUnverifiedReturn = false then pure none
      else if orderId < 0 then pure none
      else do
        let order ← OrderPayments.verifyAndCompleteEbirrOrder env.ebirr.payment orderId.toNat
        return order.map fun order => (orderId.toNat, order)

end Return

end EbirrOrders

/-!
## The callbacks of Ebirr

`EbirrCallbackController`: the webhook of Ebirr settles a transaction, and the URL to which Ebirr sends a user back
completes what the reference in its query is for.

What the controller makes of the headers of a request is given with it.  The addresses that a user is sent to are left
out, and so are the encodings in them.
-/

structure EbirrCallbackStore where
  workspace : PosWorkspaceStore
  products : Table ℕ PromotedProduct
  telebirrTransactions : SerialTable TelebirrTransaction

/-- What the callbacks take from outside. -/
structure EbirrCallbackRuntime where
  workspace : PosWorkspaceRuntime
  promotions : PaymentsRuntime
  allowUnverifiedReturn : Bool

/-- Where a user is sent after the return: to the portal of the workspaces, or to the site. -/
inductive EbirrRedirect where
  | portal (activationStatus : String) (activationRef activationReason : Option String)
  | finish (status : String) (ref reason : Option String)

abbrev EbirrCallbackProc : Type → Type := Proc EbirrCallbackStore EbirrFailure

namespace EbirrCallbackStore

/-- The tables of the workspaces among them. -/
def workspaceLens : Proc.Lens EbirrCallbackStore PosWorkspaceStore where
  get s := s.workspace
  set s workspace := { s with workspace }

/-- The tables of Ebirr among them. -/
def ebirrLens : Proc.Lens EbirrCallbackStore EbirrStore where
  get s := s.workspace.ebirr
  set s ebirr := { s with workspace := { s.workspace with ebirr } }

/-- The tables of the payments among them. -/
def paymentLens : Proc.Lens EbirrCallbackStore PaymentStore where
  get s := ⟨s.workspace.ebirr.order.orders, s.products, s.telebirrTransactions⟩
  set s payments :=
    let order := { s.workspace.ebirr.order with orders := payments.orders }
    { workspace := { s.workspace with ebirr := { s.workspace.ebirr with order } }
      products := payments.products
      telebirrTransactions := payments.telebirrTransactions }

end EbirrCallbackStore

namespace EbirrCallbackRuntime

/-- What the orders take from outside. -/
def orders (env : EbirrCallbackRuntime) : EbirrOrderRuntime where
  ebirr := env.workspace.ebirr
  toLowerCase := env.workspace.toLowerCase
  allowUnverifiedReturn := env.allowUnverifiedReturn

end EbirrCallbackRuntime

namespace EbirrCallbacks

open PosWorkspaceActivation

section Callbacks

variable (env : EbirrCallbackRuntime) (now : ℤ)

def inWorkspace {α : Type} (p : WorkspaceProc α) : EbirrCallbackProc α :=
  Proc.zoom EbirrCallbackStore.workspaceLens p

def inEbirr {α : Type} (p : EbirrProc α) : EbirrCallbackProc α := Proc.zoom EbirrCallbackStore.ebirrLens p

def completeWorkspacePayment (referenceId : String) : EbirrCallbackProc Bool :=
  if IsPosWorkspaceActivationReference (some referenceId) then do
    let _ ← inWorkspace (completeEbirrActivationPayment env.workspace now referenceId none)
    return true
  else if IsBranchCreationPaymentReference (some referenceId) then do
    let _ ← inWorkspace (completeBranchCreationPayment env.workspace now referenceId)
    return true
  else return false

/-- The part of `handleEbirrWebhook` after the callback is processed. -/
def completeReported (result : EbirrCallbackResult) : EbirrCallbackProc Unit :=
  match result.referenceId with
  | none => pure ()
  | some referenceId =>
    if result.status = "COMPLETED" then do
      let _ ← completeWorkspacePayment env now referenceId
    else pure ()

/-- `handleEbirrWebhook`, with what `assertWebhookAuthorized` makes of the request. -/
def handleEbirrWebhook (authorized : Except HttpException Unit) (body : EbirrNotice) : EbirrCallbackProc Unit := do
  Proc.ofExcept (authorized.mapError .refused)
  let result ← inEbirr (processCallback env.workspace.ebirr now body)
  completeReported env now result

def boostProduct (referenceId : String) : EbirrCallbackProc Bool :=
  match if Texts.StartsWith referenceId "BOOST-" then Payments.boostOf referenceId else none with
  | none => pure false
  | some (productId, tier) => do
    match ← Proc.attempt (Proc.zoom EbirrCallbackStore.paymentLens
      (Payments.promoteAsVendor env.promotions now productId tier)) with
    | .ok _ => return true
    | .error (_ : HttpException) => return false

/-- The return of a user who has paid for an order: the page that shows it. -/
def finishOrder (query : EbirrQuery) : EbirrCallbackProc EbirrRedirect := do
  let found ← inEbirr (EbirrOrders.inOrders (EbirrOrders.verifyAndCompleteEbirrOrder env.orders query))
  return match found.filter fun found => found.2.paymentStatus = .paid with
    | some (orderId, _) => .finish "success" (some (toString orderId)) none
    | none => .finish "failed" none none

/-- The part of `handleEbirrReturn` for a return that is accepted. -/
def completeReturn (query : EbirrQuery) (referenceId : String) : EbirrCallbackProc EbirrRedirect := do
  if ← completeWorkspacePayment env now referenceId then return .portal "success" (some referenceId) none
  else if ← boostProduct env now referenceId then return .finish "success" (some referenceId) none
  else finishOrder env query

def refusedReturn (result : EbirrReturnResult) : EbirrRedirect :=
  if IsPosWorkspaceActivationReference result.referenceId then
    .portal "failed" result.referenceId (some (result.reason.getD "invalid_return"))
  else .finish "failed" none (some (result.reason.getD "invalid_return"))

def failedReturn (referenceId : Option String) (failure : EbirrFailure) : EbirrRedirect :=
  if IsPosWorkspaceActivationReference referenceId then
    .portal "failed" referenceId (some (if failure.message = "" then "callback_processing_failed" else failure.message))
  else .finish "error" none none

/-- The part of `handleEbirrReturn` after the return is verified. -/
def settleReturn (query : EbirrQuery) (result : EbirrReturnResult) : EbirrCallbackProc EbirrRedirect :=
  match result.referenceId.filter fun _ => result.accepted with
  | none => pure (refusedReturn result)
  | some referenceId => do
    match ← Proc.attempt (completeReturn env now query referenceId) with
    | .ok redirect => return redirect
    | .error (failure : EbirrFailure) => return failedReturn (some referenceId) failure

/-- `handleEbirrReturn`, with what `assertReturnOriginTrusted` makes of the request. -/
def handleEbirrReturn (trusted : Except HttpException Unit) (query : EbirrQuery) : EbirrCallbackProc EbirrRedirect := do
  Proc.ofExcept (trusted.mapError .refused)
  let verifiedReturn ← inEbirr (verifyReturnCallback now query)
  settleReturn env now query verifiedReturn

end Callbacks

end EbirrCallbacks

end SuuqBackend
