import SuuqBackend.Common.Texts
import SuuqBackend.Orders.OrderPayments

/-!
# The tables of the Ebirr payments

`ebirr_transaction`, beside the tables of the orders.  `merch_order_id` is unique.  Of `raw_response_payload` only the
`errorCode` is read.  A time is in milliseconds; `updatedAt` is the time of the last `save`.
-/

namespace SuuqBackend

open Texts

/-- The statuses that `EbirrService` stores. -/
inductive EbirrStatus where
  | pending
  | initiated
  | completed
  | failed
  | error
  | expired
deriving DecidableEq

def EbirrStatus.text : EbirrStatus → String
  | .pending => "PENDING"
  | .initiated => "INITIATED"
  | .completed => "COMPLETED"
  | .failed => "FAILED"
  | .error => "ERROR"
  | .expired => "EXPIRED"

structure EbirrTransaction where
  merchOrderId : String
  invoiceId : Option String
  transId : Option String := none
  issuerTransId : Option String := none
  status : EbirrStatus
  responseCode : Option String := none
  responseMsg : Option String := none
  /-- `raw_response_payload?.errorCode`. -/
  responseErrorCode : Option String := none
  updatedAt : ℤ

/-- The tables of the Ebirr payments. -/
structure EbirrStore where
  transactions : SerialTable EbirrTransaction
  order : OrderStore

/-- What `EbirrService` fails with: an exception, or the `Error` of a payment that Ebirr did not accept. -/
inductive EbirrFailure where
  | refused (exception : HttpException)
  | payment (message : String) (providerCode : Option String) (isEbirrTimeout : Bool)

/-- `error.message`. -/
def EbirrFailure.message : EbirrFailure → String
  | .refused exception => exception.message
  | .payment message _ _ => message

/-- `error.providerCode`. -/
def EbirrFailure.providerCode : EbirrFailure → Option String
  | .refused _ => none
  | .payment _ providerCode _ => providerCode

/-- `error.isEbirrTimeout`. -/
def EbirrFailure.isEbirrTimeout : EbirrFailure → Bool
  | .refused _ => false
  | .payment _ _ isEbirrTimeout => isEbirrTimeout

abbrev EbirrProc : Type → Type := Proc EbirrStore EbirrFailure

namespace EbirrStore

def orderLens : Proc.Lens EbirrStore OrderStore where
  get s := s.order
  set s order := { s with order }

def byReference (s : EbirrStore) (referenceId : String) : Option (ℕ × EbirrTransaction) :=
  s.transactions.first fun tx => tx.merchOrderId = referenceId

def statusOf (s : EbirrStore) (id : ℕ) : Option EbirrStatus := (s.transactions.find id).map (·.status)

/-- `save` of a transaction that was loaded. -/
def saveTransaction (s : EbirrStore) (id : ℕ) (tx : EbirrTransaction) : EbirrStore :=
  { s with transactions := s.transactions.set id tx }

end EbirrStore

/-!
## Payments through Ebirr

`EbirrService`: a payment is stored as `PENDING`, asked for, and stored again with what Ebirr replied; later the
callback of Ebirr completes it or a job lets it expire.  Every `save` writes the copy that was loaded or created before.

What Ebirr replies and the times are given with each call, and for the jobs whether they get their lock.  A value of a
notice that is no text is given as its text.  The request to Ebirr itself is left out.
-/

/-- What the payments take from outside. -/
structure EbirrRuntime where
  toUpperCase : String → String
  /-- `process.env.API_URL`. -/
  apiUrl : Option String
  payment : PaymentRuntime

/-- The parameters of `initiatePayment`. -/
structure EbirrPaymentRequest where
  phoneNumber : Option String
  referenceId : String
  invoiceId : String

/-- `response.data`. -/
structure EbirrResponse where
  errorCode : Option String := none
  responseCode : Option String := none
  responseMsg : Option String := none
  message : Option String := none
  /-- `params?.state`. -/
  paramsState : Option String := none

/-- How the request to Ebirr ends. -/
inductive EbirrReply where
  | data (response : EbirrResponse)
  /-- No answer in time, or the connection dropped. -/
  | noAnswer (networkDrop : Bool)
  /-- Another failure of the request, with its text and the `errorCode` of its data. -/
  | refused (text : String) (errorCode : Option String)
  /-- An error that is none of the request. -/
  | unexpected (message : String)

/-- What is read of a callback of Ebirr. -/
structure EbirrNotice where
  referenceId : Option String := none
  merchOrderId : Option String := none
  status : Option String := none
  state : Option String := none
  paramsState : Option String := none
  transactionStatus : Option String := none
  paramsTransactionStatus : Option String := none
  responseCode : Option String := none
  errorCode : Option String := none
  code : Option String := none
  responseMsg : Option String := none
  message : Option String := none
  paramsMessage : Option String := none
  transactionId : Option String := none
  issuerTransactionId : Option String := none

structure EbirrCallbackResult where
  referenceId : Option String
  status : String
  invoiceId : Option String

/-- A value of a query: a text, or a list or an object of them, as `String` writes it. -/
inductive QueryValue where
  | text (value : String)
  | nested (written : String)
deriving DecidableEq

abbrev EbirrQuery : Type := List (String × QueryValue)

structure EbirrReturnResult where
  accepted : Bool
  orderId : Option ℕ
  referenceId : Option String
  reason : Option String := none

structure EbirrReconciled where
  txId : ℕ
  referenceId : String
  invoiceId : Option String
  previousStatus : EbirrStatus
  nextStatus : EbirrStatus
  reason : String
  orderId : Option ℕ

structure EbirrReconciliation where
  olderThanMinutes : Option ℤ := none
  limit : Option ℤ := none
  dryRun : Bool := false

namespace EbirrPayments

open Withdrawals (orElse)

/-- `a || b`, for texts that may be missing. -/
def orText (a b : Option String) : Option String := (a.filter (· ≠ "")).or b

/-! ### Texts -/

section Texts

variable (env : EbirrRuntime)

/-- `String(text).trim().toUpperCase()`. -/
def upper (text : Option String) : String := env.toUpperCase (trim (text.getD ""))

/-- `isAsyncPosPaymentReference`. -/
def IsAsyncPosPaymentReference (referenceId : String) : Prop :=
  Texts.StartsWith (upper env (some referenceId)) "POSACT-" ∨
    Texts.StartsWith (upper env (some referenceId)) "POSBRANCH-"
deriving Decidable

/-- `shouldKeepPendingForProviderConfirmation`. -/
def ShouldKeepPendingForProviderConfirmation (now : ℤ) (tx : EbirrTransaction) : Prop :=
  let providerCode := upper env (orText tx.responseCode tx.responseErrorCode)
  IsAsyncPosPaymentReference env tx.merchOrderId ∧ (providerCode = "E102051" ∨ providerCode = "ECONNRESET") ∧
    now - 120 * 60000 ≤ tx.updatedAt
deriving Decidable

/-- `isSuccessfulCallbackPayload`. -/
def IsSuccessfulCallbackPayload (payload : EbirrNotice) : Prop :=
  let normalizedStatus := upper env (orText payload.status (orText payload.state (orText payload.paramsState
    (orText payload.transactionStatus payload.paramsTransactionStatus))))
  let responseCode := upper env payload.responseCode
  let errorCode := upper env payload.errorCode
  let code := upper env payload.code
  let responseMsg := upper env (payload.responseMsg.or (payload.message.or payload.paramsMessage))
  let hasApprovedState := normalizedStatus ∈ ["PAID", "APPROVED", "SUCCESS", "COMPLETED"]
  let hasSuccessfulEnvelope := errorCode = "0" ∧
    (hasApprovedState ∨ responseCode = "200" ∨ responseCode = "2001" ∨ responseMsg = "RCS_SUCCESS")
  hasApprovedState ∨ code = "0" ∨ responseCode = "0" ∨ hasSuccessfulEnvelope
deriving Decidable

def parseOrderIdFromReference (referenceId : String) : Option ℕ :=
  (numberAfter "REF-" (trim referenceId)).filter (0 < ·)

def parseOrderIdFromInvoice (invoiceId : Option String) : Option ℕ :=
  let value := trim (invoiceId.getD "")
  ((numberAfter "INV-" value).or (numberAfter "" value)).filter (0 < ·)

/-- `normalizeEthiopianMsisdn`, on the digits of the number. -/
def normalizeDigits (digits : String) : Option String :=
  let length := digits.toList.length
  let rest (n : ℕ) := String.ofList (digits.toList.drop n)
  if Texts.StartsWith digits "25109" ∧ length = 13 then some s!"2519{rest 5}"
  else if Texts.StartsWith digits "25107" ∧ length = 13 then some s!"2517{rest 5}"
  else if (Texts.StartsWith digits "2519" ∨ Texts.StartsWith digits "2517") ∧ length = 12 then some digits
  else if (Texts.StartsWith digits "09" ∨ Texts.StartsWith digits "07") ∧ length = 10 then some s!"251{rest 1}"
  else if (Texts.StartsWith digits "9" ∨ Texts.StartsWith digits "7") ∧ length = 9 then some s!"251{digits}"
  else none

def normalizeEthiopianMsisdn (phone : String) : Option String :=
  normalizeDigits (String.ofList (phone.toList.filter Char.isDigit))

example : normalizeEthiopianMsisdn "+251 09 12345678" = some "251912345678" := by decide

end Texts

/-! ### Writes -/

/-- `save` of a transaction that was loaded. -/
def saveTransaction (now : ℤ) (id : ℕ) (tx : EbirrTransaction) : EbirrProc Unit :=
  Proc.write fun s => s.saveTransaction id { tx with updatedAt := now }

/-- `save` of a new transaction: its id.  A reference that is taken is refused. -/
def insertTransaction (now : ℤ) (tx : EbirrTransaction) : EbirrProc ℕ :=
  .step (fun s => if (s.byReference tx.merchOrderId).isSome then s
      else { s with transactions := s.transactions.add { tx with updatedAt := now } })
    fun s => if (s.byReference tx.merchOrderId).isSome then
        .fail (.refused (.queryFailed "duplicate key value violates unique constraint"))
      else .done s.transactions.next

/-! ### Starting a payment -/

section Initiate

variable (env : EbirrRuntime) (request : EbirrPaymentRequest)

/-- `payer_account`. -/
def payerOf : Except EbirrFailure String :=
  match (request.phoneNumber.filter (· ≠ "")).bind normalizeEthiopianMsisdn with
  | none => .error (.refused (.badRequest "phoneNumber is required for Ebirr payments."))
  | some phone =>
    if Texts.StartsWith phone "2519" ∧ phone.toList.length = 12 then .ok phone
    else .error (.refused (.badRequest "Invalid Ebirr phone number; use 2519XXXXXXXX format."))

def requestedOrderId : Option ℕ :=
  (parseOrderIdFromReference request.referenceId).or (parseOrderIdFromInvoice (some request.invoiceId))

/-- `Order already paid`. -/
def refusePaid : EbirrProc Unit :=
  match requestedOrderId request with
  | none => pure ()
  | some orderId => do
    let order ← Proc.read fun s : EbirrStore => s.order.orders.lookup orderId
    .throwIf (order.any fun order => order.paymentStatus = .paid) (.refused (.badRequest "Order already paid"))

def createdTransaction : EbirrTransaction where
  merchOrderId := request.referenceId
  invoiceId := some request.invoiceId
  status := .pending
  updatedAt := 0

/-- `data.errorCode && String(data.errorCode) !== '0'`. -/
def EbirrResponse.softError (response : EbirrResponse) : Option String :=
  response.errorCode.filter fun code => code ≠ "" ∧ code ≠ "0"

def repliedTransaction (tx : EbirrTransaction) : EbirrReply → EbirrTransaction
  | .data response =>
    match EbirrResponse.softError response with
    | some code => { tx with
        status := if code = "E102051" then .pending else .failed
        responseErrorCode := some code
        responseCode := some code
        responseMsg := orText response.responseMsg response.message }
    | none =>
      let answered := { tx with status := .initiated, responseErrorCode := response.errorCode }
      match response.responseCode.filter (· ≠ "") with
      | none => answered
      | some code => { answered with responseCode := some code, responseMsg := response.responseMsg }
  | .noAnswer networkDrop => { tx with
      responseErrorCode := none
      responseCode := some (if networkDrop then "ECONNRESET" else "ECONNABORTED") }
  | .refused _ errorCode => { tx with status := .failed, responseErrorCode := errorCode }
  | .unexpected _ => { tx with status := .error, responseErrorCode := none }

def friendlyMsg (response : EbirrResponse) (code : String) : String :=
  if code = "5310" then "Payment declined. Ensure the SIM is in your device."
  else if code = "5309" ∨ code = "E10205" then "Insufficient balance in your Ebirr account."
  else orElse response.responseMsg "Unknown error"

/-- What `initiatePayment` returns or fails with after the reply. -/
def answerOf : EbirrReply → Except EbirrFailure EbirrResponse
  | .data response =>
    match EbirrResponse.softError response with
    | some code => .error (.payment s!"{friendlyMsg response code} (Code: {code})" (some code) (code = "E102051"))
    | none => .ok response
  | .noAnswer _ => .error (.payment
      ("Ebirr payment request timed out. " ++
        "If you received a payment notification, complete it and wait for provider confirmation.")
      none true)
  | .refused text _ => .error (.payment s!"Ebirr payment failed: {text}" none false)
  | .unexpected message => .error (.payment message none false)

/-- The part of `initiatePayment` after its checks. -/
def requestPayment (reply : EbirrReply) (requestedAt repliedAt : ℤ) : EbirrProc EbirrResponse := do
  let transaction := createdTransaction request
  match ← Proc.attempt (insertTransaction requestedAt transaction) with
  | .ok id =>
    saveTransaction repliedAt id (repliedTransaction transaction reply)
    Proc.ofExcept (answerOf reply)
  | .error failure =>
    let _ ← insertTransaction requestedAt { transaction with status := .error }
    throw failure

def initiatePayment (reply : EbirrReply) (requestedAt repliedAt : ℤ) : EbirrProc EbirrResponse := do
  let _ ← Proc.ofExcept (payerOf request)
  refusePaid request
  .throwIf (env.apiUrl.all (· = "")) (.refused (.internal
    "API_URL environment variable is not defined for Ebirr callback"))
  requestPayment request reply requestedAt repliedAt

end Initiate

/-! ### Callbacks -/

section Callbacks

variable (env : EbirrRuntime) (now : ℤ)

/-- The transaction as the callback saves it. -/
def noticedTransaction (payload : EbirrNotice) (tx : EbirrTransaction) : EbirrTransaction :=
  if IsSuccessfulCallbackPayload env payload then { tx with
    status := .completed
    transId := orText payload.transactionId tx.transId
    issuerTransId := orText payload.issuerTransactionId tx.issuerTransId }
  else { tx with status := .failed }

def orderIdOf (tx : EbirrTransaction) (refId : String) : Option ℕ :=
  (parseOrderIdFromInvoice tx.invoiceId).or (parseOrderIdFromReference refId)

/-- The order is completed; a failure is logged and no more. -/
def completeOrder (orderId : Option ℕ) : EbirrProc Unit :=
  match orderId with
  | none => pure ()
  | some orderId => do
    let _ : Except HttpException Order ← Proc.attempt (Proc.zoom EbirrStore.orderLens
      (OrderPayments.completeOrderFromPaymentCallback env.payment orderId))

/-- The part of `processCallback` for a transaction that is not completed. -/
def settleCallback (payload : EbirrNotice) (refId : String) (id : ℕ) (tx : EbirrTransaction) :
    EbirrProc EbirrCallbackResult := do
  let noticed := noticedTransaction env payload tx
  saveTransaction now id noticed
  completeOrder env (if noticed.status = .completed then orderIdOf tx refId else none)
  return { referenceId := some refId, status := noticed.status.text, invoiceId := tx.invoiceId }

def processCallback (payload : EbirrNotice) : EbirrProc EbirrCallbackResult :=
  match (orText payload.referenceId payload.merchOrderId).filter (· ≠ "") with
  | none => pure { referenceId := none, status := "IGNORED", invoiceId := none }
  | some refId => do
    match ← Proc.read fun s : EbirrStore => s.byReference refId with
    | none => return { referenceId := some refId, status := "NOT_FOUND", invoiceId := none }
    | some (id, tx) =>
      if tx.status = .completed then
        return { referenceId := some refId, status := EbirrStatus.completed.text, invoiceId := tx.invoiceId }
      else settleCallback env now payload refId id tx

/-- A value of a query under one of the keys, unless it is empty. -/
def queryValue (query : EbirrQuery) (keys : List String) : Option QueryValue :=
  keys.findSome? fun key => (query.lookup key).filter (· ≠ .text "")

/-- `query?.referenceId || query?.refId || query?.ReferenceId || query?.ref`. -/
def queryReference (query : EbirrQuery) : Option QueryValue :=
  queryValue query ["referenceId", "refId", "ReferenceId", "ref"]

/-- The part of `verifyReturnCallback` for a known transaction. -/
def acceptReturn (refId : String) (id : ℕ) (tx : EbirrTransaction) : EbirrProc EbirrReturnResult := do
  let refOrderId := parseOrderIdFromReference refId
  let invoiceOrderId := parseOrderIdFromInvoice tx.invoiceId
  if refOrderId.isSome ∧ invoiceOrderId.isSome ∧ refOrderId ≠ invoiceOrderId then
    return { accepted := false, orderId := invoiceOrderId.or refOrderId, referenceId := some refId,
             reason := some "reference_invoice_mismatch" }
  saveTransaction now id tx
  return { accepted := true, orderId := invoiceOrderId.or refOrderId, referenceId := some refId }

def verifyReturnCallback (query : EbirrQuery) : EbirrProc EbirrReturnResult :=
  match queryReference query with
  | some (.text refId) => do
    match ← Proc.read fun s : EbirrStore => s.byReference refId with
    | none => return { accepted := false, orderId := none, referenceId := some refId,
                       reason := some "transaction_not_found" }
    | some (id, tx) => acceptReturn now refId id tx
  | _ => pure { accepted := false, orderId := none, referenceId := none, reason := some "missing_reference_id" }

end Callbacks

/-! ### Transactions that expire -/

section Expiry

variable (env : EbirrRuntime) (now : ℤ)

/-- A pending transaction that the job lets expire. -/
def TimedOut (tx : EbirrTransaction) : Prop :=
  tx.updatedAt < now - 10 * 60000 ∧ ¬ ShouldKeepPendingForProviderConfirmation env now tx
deriving Decidable

/-- A pending transaction as the job saves it. -/
def timedOutTransaction (tx : EbirrTransaction) : EbirrTransaction :=
  { tx with status := .expired, responseMsg := some "Transaction timed out locally" }

/-- An initiated transaction as the job saves it. -/
def unconfirmedTransaction (tx : EbirrTransaction) : EbirrTransaction :=
  { tx with
    status := .expired
    responseMsg := some (orElse tx.responseMsg "Transaction initiated but not confirmed in time") }

def checkPendingTransactions (locked : Bool) : EbirrProc Unit :=
  if ¬ locked then pure ()
  else do
    let pendingTransactions ← Proc.read fun s : EbirrStore => s.transactions.list fun tx => tx.status = .pending
    let staleInitiatedTransactions ← Proc.read fun s : EbirrStore => s.transactions.list fun tx =>
      tx.status = .initiated ∧ tx.updatedAt < now - 30 * 60000
    Proc.forEach (pendingTransactions.filter fun row => TimedOut env now row.2) fun row =>
      saveTransaction now row.1 (timedOutTransaction row.2)
    Proc.forEach staleInitiatedTransactions fun row => saveTransaction now row.1 (unconfirmedTransaction row.2)

/-- A transaction that a newer payment supersedes, as it is saved. -/
def supersededTransaction (tx : EbirrTransaction) : EbirrTransaction :=
  { tx with
    status := .expired
    responseMsg := some (match tx.responseMsg.filter (· ≠ "") with
      | some message => s!"{message} (superseded by newer payment attempt)"
      | none => "Superseded by newer payment attempt") }

/-- `save` of several transactions, in one database transaction. -/
def saveAll (rows : List (ℕ × EbirrTransaction)) : EbirrProc Unit :=
  Proc.write fun s => rows.foldl (fun s row => s.saveTransaction row.1 { row.2 with updatedAt := now }) s

/-- `expireStalePendingTransactionsForPrefix`: the number of transactions. -/
def expireStalePendingTransactionsForPrefix (referencePrefix : String) : EbirrProc ℕ :=
  if trim referencePrefix = "" then pure 0
  else do
    let stale ← Proc.read fun s : EbirrStore => s.transactions.list fun tx =>
      (tx.status = .pending ∨ tx.status = .initiated) ∧
        likes ((trim referencePrefix).toList ++ ['%']) tx.merchOrderId.toList
    if stale = [] then return 0
    else do
      saveAll now (stale.map fun row => (row.1, supersededTransaction row.2))
      return stale.length

/-- `nextStatus` and `reason`. -/
def reconciledStatus (order : Option Order) : EbirrStatus × String :=
  if order.any fun order => order.paymentStatus = .paid then
    (.completed, "Admin reconciliation: linked order already PAID")
  else (.expired, "Admin reconciliation: payment not confirmed in time")

/-- The order that a transaction names, unless it is 0. -/
def linkedOrderId (tx : EbirrTransaction) : Option ℕ :=
  (firstNumber (tx.invoiceId.getD "")).filter (· ≠ 0)

/-- `findOne` of the linked order. -/
def linkedOrder (tx : EbirrTransaction) : EbirrProc (Option Order) :=
  match linkedOrderId tx with
  | none => pure none
  | some orderId => Proc.read fun s : EbirrStore => s.order.orders.lookup orderId

def reconciledTransaction (order : Option Order) (tx : EbirrTransaction) : EbirrTransaction :=
  { tx with status := (reconciledStatus order).1, responseMsg := some (reconciledStatus order).2 }

/-- The part of the reconciliation that writes. -/
def saveReconciled (dryRun : Bool) (id : ℕ) (tx : EbirrTransaction) : EbirrProc Unit :=
  if dryRun then pure () else saveTransaction now id tx

def reconcileAll (dryRun : Bool) : List (ℕ × EbirrTransaction) → EbirrProc (List EbirrReconciled)
  | [] => pure []
  | (id, tx) :: rows => do
    let order ← linkedOrder tx
    saveReconciled now dryRun id (reconciledTransaction order tx)
    let items ← reconcileAll dryRun rows
    return {
      txId := id
      referenceId := tx.merchOrderId
      invoiceId := tx.invoiceId
      previousStatus := tx.status
      nextStatus := (reconciledStatus order).1
      reason := (reconciledStatus order).2
      orderId := firstNumber (tx.invoiceId.getD "") } :: items

/-- The transactions that a reconciliation is about, those that were saved first before the others. -/
def stuckTransactions (params : EbirrReconciliation) (s : EbirrStore) : List (ℕ × EbirrTransaction) :=
  let olderThanMinutes := max 1 ((params.olderThanMinutes.filter (· ≠ 0)).getD 30)
  let limit := min 500 (max 1 ((params.limit.filter (· ≠ 0)).getD 100))
  let found := s.transactions.list fun tx => tx.status = .initiated ∧ tx.updatedAt < now - olderThanMinutes * 60000
  (found.mergeSort fun a b => a.2.updatedAt ≤ b.2.updatedAt).take limit.toNat

def reconcileStuckInitiatedTransactions (params : EbirrReconciliation) : EbirrProc (List EbirrReconciled) := do
  let transactions ← Proc.read (stuckTransactions now params)
  reconcileAll now params.dryRun transactions

end Expiry

end EbirrPayments

end SuuqBackend
