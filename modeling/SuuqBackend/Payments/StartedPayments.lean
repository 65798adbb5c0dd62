import SuuqBackend.Payments.PaymentCallbacks
import SuuqBackend.PosWorkspace.PosWorkspaceActivation

/-!
# The webhook of StarPay

`StarpayService.handleWebhook`: the order of a payload is the number under one of its keys, or the first number in its
reference, and it is completed when the status reports success.

What `verifyStarpaySignature` makes of the request is given with it, and the payment log is left out, as are values of
the payload that are no texts.
-/

namespace SuuqBackend

/-- What a payload has under `data`. -/
structure StarpayData where
  orderId : Option String := none
  referenceId : Option String := none
  orderReference : Option String := none
  status : Option String := none

/-- `StarpayWebhookDto`. -/
structure StarpayPayload where
  orderId : Option String := none
  referenceId : Option String := none
  status : Option String := none
  message : Option String := none
  data : StarpayData := {}

namespace Starpay

open EbirrPayments (orText)

/-- `String(a || b || …).trim()`. -/
def textOf (texts : List (Option String)) : String := trim ((texts.foldr orText none).getD "")

/-- `Number.parseInt(text, 10)`, if the text is `^\d+$`. -/
def digitsOf (text : String) : Option ℕ := Texts.numberAfter "" text

def extractOrderId (payload : StarpayPayload) : Option ℕ :=
  let fromRoot := textOf [payload.orderId]
  let fromData := textOf [payload.data.orderId, payload.data.referenceId]
  let refLike := textOf [payload.referenceId, payload.data.referenceId, payload.data.orderReference]
  ((digitsOf fromRoot).or (digitsOf fromData)).or (Texts.firstNumber refLike)

section Webhook

variable (toLowerCase : String → String) (env : PaymentRuntime)

def extractStatus (payload : StarpayPayload) : String :=
  toLowerCase (textOf [payload.status, payload.message, payload.data.status])

/-- `isSuccessfulStatus`. -/
def IsSuccessfulStatus (status : String) : Prop := status ∈ ["paid", "success", "successful", "verified", "completed"]
deriving Decidable

def tryCompleteOrderFromGatewayResponse (payload : StarpayPayload) : OrderProc Unit :=
  match (extractOrderId payload).filter (· ≠ 0) with
  | none => pure ()
  | some orderId =>
    if IsSuccessfulStatus (extractStatus toLowerCase payload) then do
      let _ ← OrderPayments.completeOrderFromPaymentCallback env orderId
    else pure ()

/-- `handleWebhook`, with the reason for which `verifyStarpaySignature` refuses the request, if it does. -/
def handleWebhook (refused : Option HttpException) (payload : StarpayPayload) : OrderProc Unit :=
  match refused with
  | some failure => throw failure
  | none => do
    let order ← Proc.read fun s : OrderStore =>
      ((extractOrderId payload).filter (· ≠ 0)).bind fun orderId => s.orders.lookup orderId
    if order.any fun order => order.paymentStatus = .paid then return
    tryCompleteOrderFromGatewayResponse toLowerCase env payload

end Webhook

end Starpay

/-!
## The payments that are started

Each payment is started with a provider under a reference (`reference`), most of them put together from the id of what is
paid for and the time, and the provider names the reference when it reports on the payment.  `extractedId` is the order
that the webhook of the provider finds in that.
-/

inductive PaymentProvider where
  | ebirr
  | telebirr
  | mpesa
  | starpay
deriving DecidableEq

inductive StartedPayment where
  /-- `processEbirrPaymentAsync`. -/
  | ebirrOrder (orderId : ℕ)
  /-- `createTelebirrOrder`. -/
  | telebirrOrder (orderId : ℕ)
  /-- `createFromCart` with M-Pesa. -/
  | mpesaOrder (orderId : ℕ)
  /-- `EbirrController.initiatePayment`, with a body of the client. -/
  | ebirrRequest (request : EbirrPaymentRequest)
  /-- `StarpayController`: `initiateBankPayment` and `initiateWalletPayment`, with a body of the client. -/
  | starpayRequest (orderId referenceId : String)
  /-- `initiateBoostPayment` with Telebirr. -/
  | telebirrBoost (productId tier : String) (now : ℤ)
  /-- `initiateBoostPayment` with Ebirr. -/
  | ebirrBoost (productId tier : String) (now : ℤ)
  /-- `startEbirrActivationPayment`. -/
  | activation (branchId : ℕ) (now : ℤ)
  /-- `startAdditionalBranchCreationPayment`. -/
  | branchCreation (tenantId userId : ℕ) (now invoicedAt : ℤ)
  /-- The settlement of a BNPL activation. -/
  | bnplSettlement (activationId : ℕ) (now : ℤ)
  /-- `HotelPrepaymentService.initiatePayment`. -/
  | hotelPrepayment (provider : PaymentProvider) (reservationId : ℕ) (now : ℤ)
  /-- `disburseVendor`. -/
  | disbursement (orderId : ℕ)

/-- Where a payload of StarPay names a payment. -/
inductive StarpayPlace where
  | root
  | data
  | orderReference
deriving DecidableEq

namespace StartedPayment

def provider : StartedPayment → PaymentProvider
  | ebirrOrder _ | ebirrRequest _ | ebirrBoost .. | activation .. | branchCreation .. | bnplSettlement .. => .ebirr
  | telebirrOrder _ | telebirrBoost .. | disbursement _ => .telebirr
  | mpesaOrder _ => .mpesa
  | starpayRequest .. => .starpay
  | hotelPrepayment provider _ _ => provider

/-- The reference of a hotel prepayment: `orderId` of `initiatePayment`. -/
def hotelReference (reservationId : ℕ) (now : ℤ) : String := s!"RES-{reservationId}-{now}"

/-- The reference of a boost: `merchOrderId`. -/
def boostReference (productId tier : String) (now : ℤ) : String := s!"BOOST-{productId}-{tier}-{now}"

/-- The reference that the provider is given. -/
def reference : StartedPayment → String
  | ebirrOrder orderId => s!"REF-{orderId}"
  | telebirrOrder orderId | mpesaOrder orderId => s!"ORDER-{orderId}"
  | ebirrRequest request => request.referenceId
  | starpayRequest _ referenceId => referenceId
  | telebirrBoost productId tier now | ebirrBoost productId tier now => boostReference productId tier now
  | activation branchId now => PosWorkspaceActivation.activationReference branchId now
  | branchCreation tenantId userId now _ => PosWorkspaceActivation.branchCreationReference tenantId userId now
  | bnplSettlement activationId now => s!"BNPLACT-{activationId}-{now}"
  -- `initiateStkPush` is given the id of the reservation for that of an order
  | hotelPrepayment .mpesa reservationId _ => s!"ORDER-{reservationId}"
  | hotelPrepayment _ reservationId now => hotelReference reservationId now
  | disbursement orderId => s!"DISB-{orderId}"

def invoice : StartedPayment → String
  | ebirrOrder orderId => s!"INV-{orderId}"
  | ebirrRequest request => request.invoiceId
  | activation branchId _ => s!"POSACTINV-{branchId}"
  | branchCreation tenantId _ _ invoicedAt => s!"POSBRANCHINV-{tenantId}-{invoicedAt}"
  | bnplSettlement activationId _ => s!"BNPLACTINV-{activationId}"
  | payment => payment.reference

def orderId : StartedPayment → Option ℕ
  | ebirrOrder orderId | telebirrOrder orderId | mpesaOrder orderId => some orderId
  | ebirrRequest request => EbirrPayments.requestedOrderId request
  | starpayRequest orderId _ => (Starpay.digitsOf (trim orderId)).filter (· ≠ 0)
  | _ => none

/-- The order id that StarPay is given. -/
def starpayOrderId : StartedPayment → Option String
  | starpayRequest orderId _ => some orderId
  | _ => none

/-- The payload of StarPay that names the payment. -/
def starpayPayload (payment : StartedPayment) : StarpayPlace → StarpayPayload
  | .root => { orderId := payment.starpayOrderId, referenceId := some payment.reference }
  | .data => { data := { orderId := payment.starpayOrderId, referenceId := some payment.reference } }
  | .orderReference => { data := { orderId := payment.starpayOrderId, orderReference := some payment.reference } }

def transaction (payment : StartedPayment) : EbirrTransaction :=
  EbirrPayments.createdTransaction ⟨none, payment.reference, payment.invoice⟩

/-- The order that the webhook of the provider finds in its report on the payment. -/
def extractedId (payment : StartedPayment) (place : StarpayPlace) : Option ℤ :=
  match payment.provider with
  | .ebirr => (EbirrPayments.orderIdOf payment.transaction payment.reference).map Nat.cast
  | .telebirr =>
    if Texts.StartsWith payment.reference "BOOST-" then none else Payments.orderIdOf payment.reference
  | .mpesa => Payments.orderIdOf payment.reference
  | .starpay => ((Starpay.extractOrderId (payment.starpayPayload place)).filter (· ≠ 0)).map Nat.cast

end StartedPayment

end SuuqBackend
