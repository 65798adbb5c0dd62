import SuuqBackend.Common.Texts
import SuuqBackend.Orders.OrderStore

/-!
# Callbacks of the payment providers

`PaymentsController`: Telebirr and M-Pesa report how a payment ended.  A notice names an order, and Telebirr's may name
the boost of a product instead, which `ProductsService.promoteProduct` applies.

A notice gives the texts that it has; the check of Telebirr's signature and `JSON.stringify` are taken as they are.
`findOne` of the products also counts a view, in the background, which is left out.
-/

namespace SuuqBackend

open Texts

structure TelebirrCallbackBody where
  sign : Option String := none
  outTradeNo : Option String := none
  tradeNo : Option String := none
  transactionId : Option String := none
  tradeStatus : Option String := none

/-- `stkCallback` of the body of an M-Pesa callback. -/
structure StkCallback where
  ResultCode : Option ℤ := none
  AccountReference : Option String := none

/-- What a callback takes from outside. -/
structure PaymentsRuntime where
  toUpperCase : String → String
  rates : String → Option ℚ
  /-- `telebirrService.verifySignature`. -/
  verifySignature : TelebirrCallbackBody → Bool
  /-- `JSON.stringify(body)`. -/
  stringify : TelebirrCallbackBody → String

structure TelebirrTransaction where
  merchOrderId : String
  transId : Option String := none
  paymentOrderId : Option String := none
  status : String
  rawResponse : Option String := none

/-- What promotions use of a row of `products`. -/
structure PromotedProduct where
  vendorId : Option ℕ
  deletedAt : Option ℤ := none
  currency : String
  featured : Bool := false
  featuredExpiresAt : Option ℤ := none
  featuredPaidAmount : Option Numeric2 := none
  featuredPaidCurrency : Option String := none
deriving DecidableEq

structure PaymentStore where
  orders : Table ℕ Order
  products : Table ℕ PromotedProduct
  telebirrTransactions : SerialTable TelebirrTransaction

abbrev PaymentProc : Type → Type := Proc PaymentStore HttpException

structure CallbackAnswer where
  status : String
  message : Option String := none

structure BoostOption where
  tier : String
  durationDays : ℕ
  basePriceETB : ℚ

namespace Payments

def boostOptions : List BoostOption :=
  [⟨"starter", 1, 50⟩, ⟨"popular", 3, 120⟩, ⟨"best_value", 7, 250⟩]

def BoostOption.durationMs (option : BoostOption) : ℤ := option.durationDays * 24 * 60 * 60 * 1000

/-! ### Promotions -/

section Promotions

variable (env : PaymentsRuntime) (now : ℤ)

/-- `save` of a product that was loaded. -/
def saveProduct (id : ℕ) (product : PromotedProduct) : PaymentProc Unit :=
  Proc.write fun s => { s with products := s.products.insert id product }

/-- `product.currency || 'ETB'`. -/
def currencyOf (product : PromotedProduct) : String := if product.currency = "" then "ETB" else product.currency

/-- The product as `promoteProduct` saves it. -/
def promotedProduct (option : BoostOption) (product : PromotedProduct) : PromotedProduct :=
  let currentExpiry := max now (product.featuredExpiresAt.getD now)
  let paid : ℚ × String :=
    match CurrencyService.convert env.toUpperCase env.rates option.basePriceETB "ETB" (currencyOf product) with
    | .ok amount => (amount, currencyOf product)
    | .error _ => (option.basePriceETB, "ETB")
  { product with
    featured := true
    featuredExpiresAt := some (currentExpiry + BoostOption.durationMs option)
    featuredPaidAmount := some (Numeric2.ofRat paid.1)
    featuredPaidCurrency := some paid.2 }

variable (id : Option ℤ)

/-- A product of a request; an id that is `NaN` is refused by the database. -/
def productsById : PaymentProc (Option (ℕ × PromotedProduct)) :=
  match id with
  | none => throw (.queryFailed "invalid input syntax for type integer: \"NaN\"")
  | some id =>
    if id < 0 then pure none
    else Proc.read fun s : PaymentStore => (s.products.lookup id.toNat).map fun product => (id.toNat, product)

/-- `Product with ID … not found`. -/
def productNotFound : HttpException :=
  let text := (id.map toString).getD "NaN"
  .notFound s!"Product with ID {text} not found"

/-- `findOne`. -/
def findProduct : PaymentProc (ℕ × PromotedProduct) := do
  let some (productId, product) := (← productsById id).filter fun found => found.2.deletedAt = none
    | throw (productNotFound id)
  return (productId, product)

/-- `promoteProduct`, for a user with the given id; a product without a vendor, or no user, is a `TypeError`. -/
def promoteProduct (tier : String) (user : Option ℕ) : PaymentProc Unit := do
  let some (productId, product) ← productsById id
    | throw (productNotFound id)
  match product.vendorId, user with
  | some vendorId, some userId =>
    .throwIf (vendorId ≠ userId) (.forbidden "You can only promote your own products.")
    let some option := boostOptions.find? fun option => option.tier = tier
      | throw (.badRequest "Invalid boost tier")
    saveProduct productId (promotedProduct env now option product)
  | _, _ => throw (.internal "Cannot read properties of null (reading 'id')")

/-- `findOne` of the product, then `promoteProduct` as its vendor. -/
def promoteAsVendor (tier : String) : PaymentProc Unit := do
  let (_, product) ← findProduct id
  promoteProduct env now id tier product.vendorId

end Promotions

/-! ### Telebirr -/

section Telebirr

variable (env : PaymentsRuntime) (now : ℤ) (body : TelebirrCallbackBody)

/-- The order number of the notice. -/
def outTradeNoOf : String := body.outTradeNo.getD ""

def ReportsSuccess : Prop :=
  env.toUpperCase (body.tradeStatus.getD "") = "SUCCESS" ∨ env.toUpperCase (body.tradeStatus.getD "") = "COMPLETED"
deriving Decidable

/-- `body.tradeNo || body.transactionId`. -/
def transIdOf : Option String := (body.tradeNo.filter (· ≠ "")).or body.transactionId

/-- The transaction as the callback saves it: what is `undefined` is not written. -/
def notedTransaction (tx : TelebirrTransaction) : TelebirrTransaction :=
  { tx with
    transId := (transIdOf body).or tx.transId
    paymentOrderId := body.tradeNo.or tx.paymentOrderId
    rawResponse := some (env.stringify body)
    status := body.tradeStatus.getD tx.status }

/-- The audit log; a number that is `undefined` is no condition of `findOne`. -/
def noteTransaction : PaymentProc Unit := do
  let tx ← Proc.read fun s : PaymentStore =>
    s.telebirrTransactions.first fun tx => body.outTradeNo.all (tx.merchOrderId = ·)
  match tx with
  | none => pure ()
  | some (txId, tx) => Proc.write fun s =>
      { s with telebirrTransactions := s.telebirrTransactions.set txId (notedTransaction env body tx) }

/-- The product and the tier of a boost. -/
def boostOf (outTradeNo : String) : Option (Option ℤ × String) :=
  match split outTradeNo '-' with
  | _ :: productId :: tier :: _ => some (parseInt productId, tier)
  | _ => none

def boostCallback : PaymentProc CallbackAnswer :=
  match boostOf (outTradeNoOf body) with
  | none => pure { status := "processed" }
  | some (productId, tier) =>
    if ReportsSuccess env body then do
      match ← Proc.attempt (promoteAsVendor env now productId tier) with
      | .ok _ => return { status := "success" }
      | .error _ => return { status := "failed_internal" }
    else pure { status := "processed" }

/-- `parseInt` of a reference without `ORDER-`, unless it is `NaN` or 0. -/
def orderIdOf (reference : String) : Option ℤ := (parseInt (remove reference "ORDER-")).filter (· ≠ 0)

/-- `findOne` of an order. -/
def orderById (s : PaymentStore) (id : ℤ) : Option (ℕ × Order) :=
  if id < 0 then none else (s.orders.lookup id.toNat).map fun order => (id.toNat, order)

/-- `save` of an order that was loaded. -/
def saveOrder (orderId : ℕ) (order : Order) : PaymentProc Unit :=
  Proc.write fun s => { s with orders := s.orders.insert orderId order }

/-- The part of a callback for an order, once it is known whether it reports success. -/
def orderCallback (reference : String) (succeeded : Prop) [Decidable succeeded] : PaymentProc CallbackAnswer :=
  match orderIdOf reference with
  | none => pure { status := "order not found" }
  | some id => do
    match ← Proc.read fun s : PaymentStore => orderById s id with
    | none => return { status := "order not found" }
    | some (orderId, order) =>
      if succeeded then do
        saveOrder orderId { order with paymentStatus := .paid }
        return { status := "success" }
      else do
        saveOrder orderId { order with paymentStatus := .failed }
        return { status := "failed" }

def telebirrCallback : PaymentProc CallbackAnswer :=
  if env.verifySignature body = false then pure { status := "failed", message := some "Invalid signature" }
  else do
    noteTransaction env body
    if Texts.StartsWith (outTradeNoOf body) "BOOST-" then boostCallback env now body
    else orderCallback (outTradeNoOf body) (ReportsSuccess env body)

end Telebirr

/-! ### M-Pesa -/

/-- `mpesaCallback`, with `body.Body?.stkCallback`. -/
def mpesaCallback (stkCallback : Option StkCallback) : PaymentProc CallbackAnswer :=
  match stkCallback with
  | none => pure { status := "ignored" }
  | some callback => orderCallback (callback.AccountReference.getD "") (callback.ResultCode.getD (-1) = 0)

end Payments

end SuuqBackend
