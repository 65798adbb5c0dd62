import SuuqBackend.Common.HttpException
import SuuqBackend.Lib.Proc
import SuuqBackend.Lib.Table

/-!
# Subscriptions to procurement events, and their deliveries

The rows of `ProcurementWebhooksService`, and the requests over HTTP made so far: `posts` is the history of what the
service has sent for its deliveries, with what it met.  A payload is kept as its JSON text.
-/

namespace SuuqBackend

inductive ProcurementWebhookEventType where
  | interventionUpdated
  | purchaseOrderUpdated
  | receiptDiscrepancyResolved
  | receiptDiscrepancyApproved
deriving DecidableEq

def ProcurementWebhookEventType.text : ProcurementWebhookEventType → String
  | .interventionUpdated => "PROCUREMENT_INTERVENTION_UPDATED"
  | .purchaseOrderUpdated => "PROCUREMENT_PURCHASE_ORDER_UPDATED"
  | .receiptDiscrepancyResolved => "PROCUREMENT_RECEIPT_DISCREPANCY_RESOLVED"
  | .receiptDiscrepancyApproved => "PROCUREMENT_RECEIPT_DISCREPANCY_APPROVED"

inductive ProcurementWebhookSubscriptionStatus where
  | active
  | paused
deriving DecidableEq

inductive ProcurementWebhookLastDeliveryStatus where
  | succeeded
  | failed
deriving DecidableEq

inductive ProcurementWebhookDeliveryStatus where
  | pending
  | succeeded
  | failed
deriving DecidableEq

structure ProcurementWebhookSubscription where
  name : String
  endpointUrl : String
  signingSecret : String
  eventTypes : List ProcurementWebhookEventType
  status : ProcurementWebhookSubscriptionStatus := .active
  branchId : Option ℕ := none
  supplierProfileId : Option ℕ := none
  lastDeliveredAt : Option ℤ := none
  lastDeliveryStatus : Option ProcurementWebhookLastDeliveryStatus := none
  updatedByUserId : Option ℕ := none

structure ProcurementWebhookDelivery where
  subscriptionId : ℕ
  eventType : ProcurementWebhookEventType
  eventKey : String
  requestUrl : String
  requestHeaders : List (String × String) := []
  requestBody : String
  branchId : Option ℕ := none
  supplierProfileId : Option ℕ := none
  purchaseOrderId : Option ℕ := none
  status : ProcurementWebhookDeliveryStatus := .pending
  attemptCount : ℕ := 1
  responseStatus : Option ℕ := none
  responseBody : Option String := none
  errorMessage : Option String := none
  durationMs : Option ℤ := none
  deliveredAt : Option ℤ := none
  nextRetryAt : Option ℤ := none
  finalFailureAt : Option ℤ := none
  replayedFromDeliveryId : Option ℕ := none

/-- What a request over HTTP meets: an answer, with the text of its body, or an error, with its message if it is an
`Error`. -/
inductive HttpOutcome where
  | answered (status : ℕ) (body : Option String)
  | failed (message : Option String)
deriving DecidableEq

/-- A request over HTTP, with the times that the service reads around it. -/
structure HttpExchange where
  /-- The time in its headers. -/
  sentAt : ℤ
  startedAt : ℤ
  outcome : HttpOutcome
  endedAt : ℤ
  deliveredAt : ℤ
  /-- The time from which the next retry is counted. -/
  retryFrom : ℤ
deriving DecidableEq

/-- The answer is one of those from 200 to 299. -/
def HttpExchange.IsSuccess (exchange : HttpExchange) : Prop :=
  match exchange.outcome with
  | .answered status _ => 200 ≤ status ∧ status < 300
  | .failed _ => False

instance (exchange : HttpExchange) : Decidable exchange.IsSuccess :=
  match exchange with
  | ⟨_, _, .answered _ _, _, _, _⟩ => inferInstanceAs (Decidable (_ ∧ _))
  | ⟨_, _, .failed _, _, _, _⟩ => inferInstanceAs (Decidable False)

/-- The tables of the subscriptions, and the requests made for deliveries. -/
structure WebhookStore where
  subscriptions : SerialTable ProcurementWebhookSubscription
  deliveries : SerialTable ProcurementWebhookDelivery
  /-- Each request with the delivery that it was made for. -/
  posts : List (ℕ × HttpExchange)

abbrev WebhookProc : Type → Type := Proc WebhookStore HttpException

namespace WebhookStore

def saveSubscription (s : WebhookStore) (id : ℕ) (subscription : ProcurementWebhookSubscription) : WebhookStore :=
  { s with subscriptions := s.subscriptions.set id subscription }

def saveDelivery (s : WebhookStore) (id : ℕ) (delivery : ProcurementWebhookDelivery) : WebhookStore :=
  { s with deliveries := s.deliveries.set id delivery }

/-- `countRecentTerminalFailuresForSubscription`. -/
def countRecentTerminalFailures (s : WebhookStore) (subscriptionId : ℕ) (thresholdWindowStart : ℤ) : ℤ :=
  s.deliveries.total fun delivery => if delivery.subscriptionId = subscriptionId ∧ delivery.status = .failed ∧
    delivery.finalFailureAt.any (thresholdWindowStart ≤ ·) then 1 else 0

end WebhookStore

/-- `ReplayTerminalFailureExecutionSignature`. -/
structure ReplaySignature where
  deliveryIds : Option (List ℕ)
  subscriptionId : Option ℕ
  eventType : Option ProcurementWebhookEventType
  cursor : Option String
  limit : ℤ
  totalMatchedTerminalFailureCount : ℕ
  cursorMatchedTerminalFailureCount : ℕ
deriving DecidableEq

/-- `ReplayTerminalFailureExecutionConfirmationPayload`. -/
structure ReplayConfirmation where
  signature : ReplaySignature
  issuedAtMs : ℤ
  expiresAtMs : ℤ

/-- What the service is given: the signature of a text, the text of a time, what the cursors and the confirmations of
a preview stand for (`none` for one that is not valid), and what the requests meet, in their order. -/
structure WebhookRuntime where
  /-- `createHmac('sha256', secret).update(text).digest('hex')`. -/
  hmac : String → String → String
  /-- `new Date(time).toISOString()`. -/
  isoText : ℤ → String
  /-- The time and the delivery of a cursor. -/
  parseCursor : String → Option (ℤ × ℕ)
  parseConfirmation : String → Option ReplayConfirmation
  exchange : ℕ → HttpExchange

/-!
## Deliveries of procurement events

`ProcurementWebhooksService`: an event is delivered to the subscriptions that match it (`dispatchProcurementEvent`);
what fails is retried (`retryFailedDeliveries`) until `MAX_ATTEMPTS`, and can be replayed as a delivery of its own
(`replayDelivery`, `replayTerminalFailures`).  Each of them ends in `executeDeliveryAttempt`, which saves the delivery
and then the subscription as it was loaded.

The deliveries of one event run beside each other and share no row; they are made one after another here.  Left out are
the audit log and the alerts, and what the calls return beyond the deliveries.
-/

structure DispatchProcurementWebhookInput where
  eventType : ProcurementWebhookEventType
  eventKey : String
  branchId : Option ℕ := none
  supplierProfileId : Option ℕ := none
  purchaseOrderId : Option ℕ := none
  payload : String

/-- `ReplayTerminalProcurementWebhookDeliveriesDto`. -/
structure ReplayTerminalFailuresDto where
  deliveryIds : Option (List ℕ) := none
  subscriptionId : Option ℕ := none
  eventType : Option ProcurementWebhookEventType := none
  cursor : Option String := none
  previewConfirmationToken : Option String := none
  limit : Option ℤ := none

/-- `UpdateProcurementWebhookSubscriptionStatusDto`. -/
structure UpdateSubscriptionStatusDto where
  status : ProcurementWebhookSubscriptionStatus
  forceResume : Bool := false

/-- The arguments of `executeDeliveryAttempt`: a delivery and its subscription, as they were loaded. -/
structure DeliveryAttempt where
  deliveryId : ℕ
  delivery : ProcurementWebhookDelivery
  subscription : ProcurementWebhookSubscription
  attemptCount : ℕ

namespace ProcurementWebhooks

variable (env : WebhookRuntime)

def retryBackoffMinutes : List ℤ := [5, 30, 120]

def maxAttempts : ℕ := retryBackoffMinutes.length + 1

def autoPauseTerminalFailureThreshold : ℤ := 3

/-- `AUTO_PAUSE_TERMINAL_FAILURE_WINDOW_HOURS`, in milliseconds. -/
def autoPauseTerminalFailureWindow : ℤ := 24 * 60 * 60 * 1000

def subscriptionDetailReplayRecommendedLimit : ℕ := 25

variable (now : ℤ)

def computeNextRetryAt (attemptCount : ℕ) : Option ℤ :=
  if maxAttempts ≤ attemptCount then none
  else
    let listed := match attemptCount with
      | 0 => none
      | n + 1 => retryBackoffMinutes[n]?
    ((listed.or retryBackoffMinutes.getLast?).filter (· ≠ 0)).map fun backoffMinutes => now + backoffMinutes * 60 * 1000

/-! ### An attempt -/

def headersOf (a : DeliveryAttempt) (exchange : HttpExchange) : List (String × String) :=
  let timestamp := env.isoText exchange.sentAt
  let signature := env.hmac a.subscription.signingSecret s!"{timestamp}.{a.delivery.requestBody}"
  [("content-type", "application/json"), ("user-agent", "suuq-procurement-webhooks/1.0"),
    ("x-suuq-event", a.delivery.eventType.text), ("x-suuq-event-key", a.delivery.eventKey),
    ("x-suuq-timestamp", timestamp), ("x-suuq-delivery-attempt", toString a.attemptCount),
    ("x-suuq-signature", s!"sha256={signature}")]

/-- The delivery with what the request met. -/
def answered (exchange : HttpExchange) (delivery : ProcurementWebhookDelivery) : ProcurementWebhookDelivery :=
  match exchange.outcome with
  | .answered status body => { delivery with
      status := if exchange.IsSuccess then .succeeded else .failed
      responseStatus := some status
      responseBody := body
      errorMessage := if exchange.IsSuccess then none else some s!"Webhook endpoint returned status {status}" }
  | .failed message => { delivery with
      status := .failed
      errorMessage := some (message.getD "Unknown webhook delivery error") }

/-- The delivery with its next retry, or as failed for good. -/
def scheduled (exchange : HttpExchange) (attemptCount : ℕ) (delivery : ProcurementWebhookDelivery) :
    ProcurementWebhookDelivery :=
  if delivery.status = .failed then
    match computeNextRetryAt exchange.retryFrom attemptCount with
    | some nextRetryAt => { delivery with nextRetryAt := some nextRetryAt }
    | none => { delivery with finalFailureAt := delivery.deliveredAt }
  else delivery

def attempted (a : DeliveryAttempt) (exchange : HttpExchange) : ProcurementWebhookDelivery :=
  let begun := { a.delivery with
    requestUrl := a.subscription.endpointUrl
    requestHeaders := headersOf env a exchange
    attemptCount := a.attemptCount
    nextRetryAt := none
    finalFailureAt := none }
  let ended := { answered exchange begun with
    durationMs := some (exchange.endedAt - exchange.startedAt)
    deliveredAt := some exchange.deliveredAt }
  scheduled exchange a.attemptCount ended

def delivered (saved : ProcurementWebhookDelivery) (subscription : ProcurementWebhookSubscription) :
    ProcurementWebhookSubscription :=
  { subscription with
    lastDeliveredAt := saved.deliveredAt
    lastDeliveryStatus := some (if saved.status = .succeeded then .succeeded else .failed) }

/-- `axios.post`. -/
def post (deliveryId : ℕ) : WebhookProc HttpExchange :=
  .step (fun s => { s with posts := s.posts ++ [(deliveryId, env.exchange s.posts.length)] })
    fun s => .done (env.exchange s.posts.length)

def maybeAutoPauseSubscription (delivery : ProcurementWebhookDelivery)
    (subscription : ProcurementWebhookSubscription) : WebhookProc Unit :=
  if subscription.status ≠ .active then pure ()
  else do
    let thresholdWindowStart := delivery.finalFailureAt.getD now - autoPauseTerminalFailureWindow
    let recentTerminalFailureCount ← Proc.read fun s : WebhookStore =>
      s.countRecentTerminalFailures delivery.subscriptionId thresholdWindowStart
    if recentTerminalFailureCount < autoPauseTerminalFailureThreshold then pure ()
    else Proc.write fun s => s.saveSubscription delivery.subscriptionId { subscription with status := .paused }

/-- What follows a delivery that has failed for good. -/
def afterAttempt (saved : ProcurementWebhookDelivery) (subscription : ProcurementWebhookSubscription) :
    WebhookProc Unit :=
  match saved.status, saved.finalFailureAt with
  | .failed, some finalFailureAt => maybeAutoPauseSubscription finalFailureAt saved (delivered saved subscription)
  | _, _ => pure ()

def executeDeliveryAttempt (a : DeliveryAttempt) : WebhookProc ProcurementWebhookDelivery := do
  let exchange ← post env a.deliveryId
  let saved := attempted env a exchange
  Proc.write fun s => s.saveDelivery a.deliveryId saved
  Proc.write fun s => s.saveSubscription saved.subscriptionId (delivered saved a.subscription)
  afterAttempt saved a.subscription
  return saved

/-! ### Deliveries, retries and replays -/

def newDelivery (subscriptionId : ℕ) (subscription : ProcurementWebhookSubscription)
    (input : DispatchProcurementWebhookInput) (replayedFromDeliveryId : Option ℕ) : ProcurementWebhookDelivery where
  subscriptionId
  eventType := input.eventType
  eventKey := input.eventKey
  requestUrl := subscription.endpointUrl
  requestBody := input.payload
  branchId := input.branchId
  supplierProfileId := input.supplierProfileId
  purchaseOrderId := input.purchaseOrderId
  status := .pending
  attemptCount := 1
  replayedFromDeliveryId

/-- The insertion of a delivery: its key has at most 255 characters. -/
def insertDelivery (subscriptionId : ℕ) (subscription : ProcurementWebhookSubscription)
    (input : DispatchProcurementWebhookInput) (replayedFromDeliveryId : Option ℕ) : WebhookProc DeliveryAttempt :=
  let delivery := newDelivery subscriptionId subscription input replayedFromDeliveryId
  if 255 < input.eventKey.length then throw (.queryFailed "value too long for type character varying(255)")
  else .step (fun s => { s with deliveries := s.deliveries.add delivery })
    fun s => .done ⟨s.deliveries.next, delivery, subscription, 1⟩

def deliverToSubscription (subscriptionId : ℕ) (subscription : ProcurementWebhookSubscription)
    (input : DispatchProcurementWebhookInput) (replayedFromDeliveryId : Option ℕ) :
    WebhookProc ProcurementWebhookDelivery := do
  let a ← insertDelivery subscriptionId subscription input replayedFromDeliveryId
  executeDeliveryAttempt env a

def Matches (input : DispatchProcurementWebhookInput) (subscription : ProcurementWebhookSubscription) : Prop :=
  input.eventType ∈ subscription.eventTypes ∧
    (subscription.branchId = none ∨ subscription.branchId = input.branchId) ∧
    (subscription.supplierProfileId = none ∨ subscription.supplierProfileId = input.supplierProfileId)
deriving Decidable

def dispatchProcurementEvent (input : DispatchProcurementWebhookInput) : WebhookProc Unit := do
  let subscriptions ← Proc.read fun s : WebhookStore =>
    (s.subscriptions.list fun subscription => subscription.status = .active ∧ Matches input subscription).reverse
  Proc.forEach subscriptions fun row => do
    let _ ← (deliverToSubscription env row.1 row.2 input none).attempt
    return ()

def IsDue (delivery : ProcurementWebhookDelivery) : Prop :=
  delivery.status = .failed ∧ delivery.nextRetryAt.any (· ≤ now)
deriving Decidable

abbrev LoadedDelivery : Type := ℕ × ProcurementWebhookDelivery × Option ProcurementWebhookSubscription

/-- `relations: { subscription: true }`. -/
def withSubscription (s : WebhookStore) (row : ℕ × ProcurementWebhookDelivery) : LoadedDelivery :=
  (row.1, row.2, s.subscriptions.find row.2.subscriptionId)

/-- The deliveries to retry, with their subscriptions. -/
def dueDeliveries (limit : ℤ) (s : WebhookStore) : List LoadedDelivery :=
  let due := s.deliveries.list (IsDue now ·)
  let ordered := due.mergeSort fun a b => a.2.nextRetryAt.getD 0 ≤ b.2.nextRetryAt.getD 0
  (ordered.take (min (max limit 1) 200).toNat).map (withSubscription s)

def retryExistingDelivery (deliveryId : ℕ) (delivery : ProcurementWebhookDelivery)
    (subscription : ProcurementWebhookSubscription) : WebhookProc ProcurementWebhookDelivery :=
  executeDeliveryAttempt env ⟨deliveryId, delivery, subscription, max delivery.attemptCount 1 + 1⟩

/-- The loop of `retryFailedDeliveries`, with the numbers of those that have succeeded and failed. -/
def retryEach : List LoadedDelivery → ℕ → ℕ → WebhookProc (ℕ × ℕ)
  | [], succeeded, failed => pure (succeeded, failed)
  | (deliveryId, delivery, found) :: rows, succeeded, failed =>
    match found.filter fun subscription => subscription.status = .active with
    | none => retryEach rows succeeded failed
    | some subscription => do
      let retried ← retryExistingDelivery env deliveryId delivery subscription
      if retried.status = .succeeded then retryEach rows (succeeded + 1) failed
      else retryEach rows succeeded (failed + 1)

/-- `retryFailedDeliveries`: how many were attempted, and how many of them succeeded and failed. -/
def retryFailedDeliveries (limit : ℤ) : WebhookProc (ℕ × ℕ × ℕ) := do
  let deliveries ← Proc.read (dueDeliveries now limit)
  let (succeeded, failed) ← retryEach env deliveries 0 0
  return (deliveries.length, succeeded, failed)

/-- The event of a delivery once more, under a key of its own. -/
def replayInput (replay : String) (now : ℤ) (delivery : ProcurementWebhookDelivery) :
    DispatchProcurementWebhookInput where
  eventType := delivery.eventType
  eventKey := s!"{delivery.eventKey}:{replay}:{now}"
  branchId := delivery.branchId
  supplierProfileId := delivery.supplierProfileId
  purchaseOrderId := delivery.purchaseOrderId
  payload := delivery.requestBody

def replayDelivery (id : ℕ) : WebhookProc ProcurementWebhookDelivery := do
  let some (delivery, found) ← Proc.read fun s : WebhookStore =>
      (s.deliveries.find id).map fun delivery => (delivery, s.subscriptions.find delivery.subscriptionId)
    | throw (.notFound s!"Procurement webhook delivery with ID {id} not found")
  match found with
  | none => throw (.internal "Cannot read properties of null (reading 'id')")
  | some subscription =>
    deliverToSubscription env delivery.subscriptionId subscription (replayInput "replay" now delivery) (some id)

/-! ### Replays of deliveries that have failed for good -/

/-- What `getReplayTerminalFailureCandidates` finds. -/
structure ReplayCandidates where
  requestedCount : ℤ
  replaySignature : ReplaySignature
  totalMatchedTerminalFailureCount : ℕ
  pagedDeliveries : List LoadedDelivery

/-- `dto.deliveryIds?.length ? Array.from(new Set(dto.deliveryIds)) : null`. -/
def explicitIds (dto : ReplayTerminalFailuresDto) : Option (List ℕ) :=
  (dto.deliveryIds.filter (· ≠ [])).map List.dedup

/-- The delivery has failed for good, and the request is for it. -/
def IsMatched (dto : ReplayTerminalFailuresDto) (id : ℕ) (delivery : ProcurementWebhookDelivery) : Prop :=
  delivery.status = .failed ∧ delivery.finalFailureAt.isSome ∧ (∀ ids ∈ explicitIds dto, id ∈ ids) ∧
    (∀ subscriptionId ∈ dto.subscriptionId, delivery.subscriptionId = subscriptionId) ∧
    ∀ eventType ∈ dto.eventType, delivery.eventType = eventType
deriving Decidable

/-- The later failure comes first, and of two at one time the one with the greater id. -/
def replayOrder (a b : ℕ × ProcurementWebhookDelivery) : Bool :=
  let aTime := a.2.finalFailureAt.getD 0
  let bTime := b.2.finalFailureAt.getD 0
  bTime < aTime ∨ (aTime = bTime ∧ b.1 ≤ a.1)

def IsAfter (cursor : ℤ × ℕ) (row : ℕ × ProcurementWebhookDelivery) : Prop :=
  let finalFailureAtMs := row.2.finalFailureAt.getD 0
  finalFailureAtMs < cursor.1 ∨ (finalFailureAtMs = cursor.1 ∧ row.1 < cursor.2)
deriving Decidable

/-- `parseReplayTerminalFailurePreviewCursor`. -/
def parseCursor (cursor : Option String) : WebhookProc (Option (ℤ × ℕ)) :=
  match cursor.filter (· ≠ "") with
  | none => pure none
  | some text => match env.parseCursor text with
    | none => throw (.badRequest "Invalid procurement webhook replay preview cursor")
    | some parsed => pure (some parsed)

def getReplayTerminalFailureCandidates (dto : ReplayTerminalFailuresDto) : WebhookProc ReplayCandidates := do
  let limit := min (max (dto.limit.getD 25) 1) 100
  let cursor ← parseCursor env dto.cursor
  Proc.read fun s : WebhookStore =>
    let matched := (s.deliveries.list fun _ => true).filter fun row => IsMatched dto row.1 row.2
    let terminal := matched.mergeSort replayOrder
    let paged := match cursor with
      | none => terminal
      | some cursor => terminal.filter fun row => IsAfter cursor row
    { requestedCount := ((explicitIds dto).map fun ids => (ids.length : ℤ)).getD limit
      replaySignature :=
        { deliveryIds := (explicitIds dto).map fun ids => ids.mergeSort
          subscriptionId := dto.subscriptionId
          eventType := dto.eventType
          cursor := dto.cursor
          limit
          totalMatchedTerminalFailureCount := terminal.length
          cursorMatchedTerminalFailureCount := paged.length }
      totalMatchedTerminalFailureCount := terminal.length
      pagedDeliveries := (paged.take limit.toNat).map (withSubscription s) }

def assertReplayTerminalFailureExecutionAllowed (dto : ReplayTerminalFailuresDto)
    (replaySignature : ReplaySignature) (totalMatchedTerminalFailureCount : ℕ) : WebhookProc Unit :=
  if totalMatchedTerminalFailureCount ≤ subscriptionDetailReplayRecommendedLimit ∨ (explicitIds dto).isSome then pure ()
  else match dto.previewConfirmationToken.filter (· ≠ "") with
    | none => throw (.badRequest (
        "High-volume procurement webhook replay requires explicit delivery IDs or a confirmed replay " ++
        "preview page."))
    | some token => match env.parseConfirmation token with
      | none => throw (.badRequest "Invalid procurement webhook replay preview confirmation token")
      | some confirmation => do
        .throwIf (confirmation.expiresAtMs < now) (.badRequest
          "Replay preview confirmation token has expired. Generate a fresh preview before executing replay.")
        .throwIf (confirmation.signature ≠ replaySignature) (.badRequest
          "Replay preview confirmation token does not match the requested replay page.")

/-- The loop of `replayTerminalFailures`; the deliveries without a subscription are skipped. -/
def replayEach (times : ℕ → ℤ) (rows : List LoadedDelivery) : WebhookProc Unit :=
  Proc.forEach rows fun (id, delivery, found) => match found with
    | none => pure ()
    | some subscription => do
      let _ ← deliverToSubscription env delivery.subscriptionId subscription
        (replayInput "bulk-replay" (times id) delivery) (some id)

/-- `replayTerminalFailures`; `times` is when each delivery is replayed. -/
def replayTerminalFailures (times : ℕ → ℤ) (dto : ReplayTerminalFailuresDto) : WebhookProc Unit := do
  let candidates ← getReplayTerminalFailureCandidates env dto
  assertReplayTerminalFailureExecutionAllowed env now dto candidates.replaySignature
    candidates.totalMatchedTerminalFailureCount
  replayEach env times candidates.pagedDeliveries

/-! ### Subscriptions -/

/-- A subscription that is resumed in spite of recent failures needs `forceResume`. -/
def checkResume (id : ℕ) (dto : UpdateSubscriptionStatusDto)
    (subscription : ProcurementWebhookSubscription) : WebhookProc Unit :=
  if dto.status = .active ∧ subscription.status ≠ .active then do
    let recentTerminalFailureCount ← Proc.read fun s : WebhookStore =>
      s.countRecentTerminalFailures id (now - autoPauseTerminalFailureWindow)
    .throwIf (autoPauseTerminalFailureThreshold ≤ recentTerminalFailureCount ∧ dto.forceResume = false) (.badRequest
      (s!"Subscription {id} still has {recentTerminalFailureCount} terminal failures in the last 24 hours. " ++
        "Set forceResume=true to resume anyway."))
  else pure ()

def updateSubscriptionStatus (actorId : Option ℕ) (id : ℕ) (dto : UpdateSubscriptionStatusDto) : WebhookProc Unit := do
  let some subscription ← Proc.read fun s : WebhookStore => s.subscriptions.find id
    | throw (.notFound s!"Procurement webhook subscription with ID {id} not found")
  checkResume now id dto subscription
  Proc.write fun s => s.saveSubscription id { subscription with status := dto.status, updatedByUserId := actorId }

end ProcurementWebhooks

/-!
## Previews of replays

`previewReplayTerminalFailures`: the page of deliveries that `replayTerminalFailures` would replay, with a cursor for
the next page and a token that confirms this one.  A token carries the request and the counts it was issued for
(`ReplaySignature`), not the deliveries.

The cursors and the tokens are what the runtime makes of them; `PreviewRuntime` states that they can be read back.
-/

/-- What the previews are given besides: the texts of cursors and tokens. -/
structure PreviewRuntime extends WebhookRuntime where
  /-- The cursor of a time and a delivery. -/
  encodeCursor : ℤ × ℕ → String
  encodeCursor_ne_empty : ∀ cursor, encodeCursor cursor ≠ ""
  parseCursor_encodeCursor : ∀ cursor : ℤ × ℕ, 0 < cursor.2 → parseCursor (encodeCursor cursor) = some cursor
  /-- The token of a confirmation. -/
  encodeConfirmation : ReplayConfirmation → String
  encodeConfirmation_ne_empty : ∀ confirmation, encodeConfirmation confirmation ≠ ""
  parseConfirmation_encodeConfirmation : ∀ confirmation : ReplayConfirmation, 0 < confirmation.signature.limit →
    parseConfirmation (encodeConfirmation confirmation) = some confirmation

/-- A candidate of a preview: the delivery, with the name of its subscription. -/
structure ReplayCandidate where
  id : ℕ
  delivery : ProcurementWebhookDelivery
  subscriptionName : String

/-- `ProcurementWebhookBulkReplayPreviewResponseDto`. -/
structure ReplayPreview where
  requestedCount : ℤ
  pageSize : ℤ
  appliedCursor : Option String
  totalMatchedTerminalFailureCount : ℕ
  previewedCount : ℕ
  skippedCount : ℕ
  skippedDeliveryIds : List ℕ
  remainingMatchedTerminalFailureCount : ℕ
  hasMoreMatchedDeliveries : Bool
  nextCursor : Option String
  executionConfirmationToken : Option String
  executionConfirmationExpiresAt : Option String
  candidateDeliveries : List ReplayCandidate

namespace ProcurementWebhooks

variable (env : PreviewRuntime)

/-- `REPLAY_PREVIEW_CONFIRMATION_TTL_MINUTES`, in milliseconds. -/
def replayPreviewConfirmationTtl : ℤ := 30 * 60 * 1000

/-- `encodeReplayTerminalFailurePreviewCursor`. -/
def encodeCursor (row : LoadedDelivery) : String := env.encodeCursor (row.2.1.finalFailureAt.getD 0, row.1)

/-- The confirmation of what is requested, from a time on. -/
def confirmationAt (issuedAtMs : ℤ) (signature : ReplaySignature) : ReplayConfirmation :=
  { signature, issuedAtMs, expiresAtMs := issuedAtMs + replayPreviewConfirmationTtl }

/-- `encodeReplayTerminalFailureExecutionConfirmationToken`. -/
def encodeConfirmationToken (now : ℤ) (signature : ReplaySignature) : String :=
  env.encodeConfirmation (confirmationAt now signature)

/-- The delivery of a row that was loaded with its subscription, if the subscription is there. -/
def candidateOf (row : LoadedDelivery) : Option ReplayCandidate :=
  row.2.2.map fun subscription => ⟨row.1, row.2.1, subscription.name⟩

/-- The id of a row without a subscription. -/
def skippedOf (row : LoadedDelivery) : Option ℕ := if row.2.2.isSome then none else some row.1

/-- `buildReplayTerminalFailurePreview`; the times are those at which the token and its expiry are made. -/
def buildReplayTerminalFailurePreview (now now' : ℤ) (requestedCount : ℤ) (appliedCursor : Option String)
    (replaySignature : ReplaySignature) (deliveries : List LoadedDelivery) : ReplayPreview :=
  let pageSize := min (max replaySignature.limit 1) 100
  let sorted := (deliveries.filter fun row => row.2.1.finalFailureAt.isSome).mergeSort fun a b =>
    replayOrder (a.1, a.2.1) (b.1, b.2.1)
  let page := sorted.take pageSize.toNat
  let candidateDeliveries := page.filterMap candidateOf
  let skippedDeliveryIds := page.filterMap skippedOf
  let cursorMatchedTerminalFailureCount := max replaySignature.cursorMatchedTerminalFailureCount sorted.length
  let remaining := cursorMatchedTerminalFailureCount - page.length
  { requestedCount
    pageSize
    appliedCursor
    totalMatchedTerminalFailureCount := max replaySignature.totalMatchedTerminalFailureCount sorted.length
    previewedCount := candidateDeliveries.length
    skippedCount := skippedDeliveryIds.length
    skippedDeliveryIds
    remainingMatchedTerminalFailureCount := remaining
    hasMoreMatchedDeliveries := 0 < remaining
    nextCursor := if 0 < remaining then page.getLast?.map (encodeCursor env) else none
    executionConfirmationToken :=
      if 0 < sorted.length then some (encodeConfirmationToken env now replaySignature) else none
    executionConfirmationExpiresAt :=
      if 0 < sorted.length then some (env.isoText (now' + replayPreviewConfirmationTtl)) else none
    candidateDeliveries }

def previewReplayTerminalFailures (now now' : ℤ) (dto : ReplayTerminalFailuresDto) : WebhookProc ReplayPreview := do
  let candidates ← getReplayTerminalFailureCandidates env.toWebhookRuntime dto
  return buildReplayTerminalFailurePreview env now now' candidates.requestedCount dto.cursor
    candidates.replaySignature candidates.pagedDeliveries

end ProcurementWebhooks

end SuuqBackend
