import SuuqBackend.Common.Numeric
import SuuqBackend.PosSync.PosCheckoutStore

/-!
# Checkouts

`PosCheckoutService`: `ingest` stores a sale or a return of a point of sale and moves the stock of
its lines in one transaction; when that fails, what is kept of the checkout is a row `FAILED`.  A
processed checkout is then posted to the general ledger, and `voidCheckout` reverses that entry;
neither fails when the ledger does.  `settleReceivable` posts a later payment.

A quantity may be a fraction in the request, but the columns of the stock are integers: the database
refuses it, after the service has made its own checks.  `now` is `new Date()`.
-/

namespace SuuqBackend

open VariantInventory GeneralLedger

namespace PosCheckouts

open InventoryRepository InventoryLedger PosCheckoutRepository
open PosSync (trimmed)
open GeneralLedger (round2)

/-- A call of the variant service. -/
def onVariants {α : Type} (p : VariantProc α) : PosCheckoutProc α :=
  Proc.zoom PosCheckoutStore.variantLens p

/-- A call of the inventory ledger. -/
def onInventory {α : Type} (p : InventoryProc α) : PosCheckoutProc α :=
  onVariants (onLedger p)

/-- A call of the general ledger. -/
def onJournal {α : Type} (p : GlProc α) : PosCheckoutProc α :=
  Proc.zoom PosCheckoutStore.journalLens p

/-! ### Checks -/

section Checks

variable (env : PosCheckoutRuntime) (dto : IngestPosCheckoutDto)

/-- A total of the pricing summary is there and differs from that of the checkout. -/
def Mismatch (quoted : Option ℚ) (amount : ℚ) : Prop :=
  ∃ q ∈ quoted, |round2 q - round2 amount| > 1 / 100
deriving Decidable

/-- `Number(amount ?? 0)`. -/
def amountOrZero (amount : Option ℚ≥0) : ℚ := ((amount.getD 0 : ℚ≥0) : ℚ)

def assertPricingSummary : PosCheckoutProc Unit :=
  match dto.pricingSummary with
  | none => pure ()
  | some summary => do
    .throwIf (Mismatch summary.grandTotal dto.total)
      (.badRequest "Checkout total does not match the supplied pricing summary")
    .throwIf (Mismatch summary.taxTotal (amountOrZero dto.taxAmount))
      (.badRequest "Checkout tax amount does not match the supplied pricing summary")
    .throwIf (Mismatch summary.discountTotal (amountOrZero dto.discountAmount))
      (.badRequest "Checkout discount amount does not match the supplied pricing summary")

/-- The checkout has the key of the request, or its external id when the request has no key. -/
def IsExisting (checkout : PosCheckout) : Prop :=
  match trimmed dto.idempotencyKey, trimmed dto.externalCheckoutId with
  | some key, _ => checkout.branchId = dto.branchId ∧ checkout.idempotencyKey = some key
  | none, some id => checkout.branchId = dto.branchId ∧ checkout.externalCheckoutId = some id
  | none, none => False

instance (checkout : PosCheckout) : Decidable (IsExisting dto checkout) := by
  unfold IsExisting
  cases trimmed dto.idempotencyKey <;> cases trimmed dto.externalCheckoutId <;> infer_instance

def findExistingForIdempotency : PosCheckoutProc (Option (ℕ × PosCheckout)) :=
  Proc.read fun s => s.firstCheckout fun checkout => IsExisting dto checkout

def assertScope (branchId : ℕ) (partnerCredentialId : Option ℕ) : PosCheckoutProc Unit := do
  let branch ← onInventory (findBranch branchId)
  .throwIf branch.isNone (.branchNotFound branchId)
  match partnerCredentialId with
  | none => pure ()
  | some id =>
    match ← Proc.read fun s : PosCheckoutStore => s.partnerCredentials.lookup id with
    | none => throw (.notFound s!"Partner credential with ID {id} not found")
    | some partnerCredential =>
      .throwIf (∃ b ∈ partnerCredential.branchId, b ≠ branchId)
        (.badRequest s!"Partner credential {id} is not bound to branch {branchId}")

/-- The request names a register, and the stored one is another. -/
def OtherRegister (registerId : Option String) (stored : String) : Prop :=
  ∃ r ∈ registerId, r ≠ "" ∧ stored ≠ trim r
deriving Decidable

def assertRegisterSession : PosCheckoutProc (Option (ℕ × PosRegisterSession)) :=
  match dto.registerSessionId with
  | none => pure none
  | some id => do
    match ← Proc.read fun s : PosCheckoutStore => s.registerSessions.lookup id with
    | none => throw (.notFound s!"Register session {id} not found")
    | some session =>
      .throwIf (session.branchId ≠ dto.branchId)
        (.badRequest s!"Register session {id} does not belong to branch {dto.branchId}")
      .throwIf (session.status ≠ .opened) (.badRequest s!"Register session {id} is not open")
      let registerId := dto.registerId.getD ""
      .throwIf (OtherRegister dto.registerId session.registerId)
        (.badRequest s!"Register session {id} is not bound to register {registerId}")
      return some (id, session)

def assertSuspendedCart (registerSession : Option (ℕ × PosRegisterSession)) :
    PosCheckoutProc (Option (ℕ × PosSuspendedCart)) :=
  match dto.suspendedCartId with
  | none => pure none
  | some id => do
    .throwIf (dto.transactionType ≠ .sale) (.badRequest "Suspended carts can only be consumed by sale checkouts")
    match ← Proc.read fun s : PosCheckoutStore => s.suspendedCarts.lookup id with
    | none => throw (.notFound s!"Suspended cart {id} not found")
    | some cart =>
      .throwIf (cart.branchId ≠ dto.branchId)
        (.badRequest s!"Suspended cart {id} does not belong to branch {dto.branchId}")
      .throwIf (cart.status ≠ .suspended) (.badRequest s!"Suspended cart {id} is not available for checkout")
      let sessionId := (registerSession.map Prod.fst).getD 0
      .throwIf (registerSession ≠ none ∧ ∃ s ∈ cart.registerSessionId, s ≠ sessionId)
        (.badRequest s!"Suspended cart {id} is not linked to register session {sessionId}")
      let registerId := dto.registerId.getD ""
      .throwIf (∃ r ∈ cart.registerId, OtherRegister dto.registerId r)
        (.badRequest s!"Suspended cart {id} is not linked to register {registerId}")
      return some (id, cart)

def assertReturnSourceSaleProcessed : PosCheckoutProc Unit :=
  match dto.transactionType, trimmed dto.sourceReceiptNumber with
  | .returned, some sourceReceiptNumber => do
    let isSource : PosCheckout → Bool := fun c =>
      c.branchId = dto.branchId ∧ c.receiptNumber = some sourceReceiptNumber ∧ c.transactionType = .sale
    let processedSourceSale ← Proc.read fun s : PosCheckoutStore =>
      s.firstCheckout fun c => isSource c ∧ c.status = .processed
    if processedSourceSale.isNone then
      match ← Proc.read fun s : PosCheckoutStore => s.firstCheckout isSource with
      | none =>
        throw (.badRequest s!"Return source sale {sourceReceiptNumber} was not found in checkout history")
      | some (_, sourceSale) =>
        throw (.badRequest
          s!"Return source sale {sourceReceiptNumber} is {sourceSale.status.text} and cannot be returned until it is PROCESSED")
  | _, _ => pure ()

end Checks

/-! ### Lines -/

section Lines

variable (env : PosCheckoutRuntime) (dto : IngestPosCheckoutDto) (item : PosCheckoutItemDto)

def resolveProductId : PosCheckoutProc ℕ :=
  match item.productId, item.aliasType, trimmed item.aliasValue with
  | some productId, _, _ => pure productId
  | none, some aliasType, some _ => do
    let aliasValue := item.aliasValue.getD ""
    let resolved ← Proc.read fun s : PosCheckoutStore =>
      ProductAliases.resolveProductIdForBranch env.toLowerCase
        (s.variant.inventory.branches.lookup dto.branchId) s.productAliases dto.branchId
        dto.partnerCredentialId aliasType aliasValue
    match resolved with
    | .error error => throw error
    | .ok none => throw (.badRequest s!"No product alias matched {aliasType.text}:{aliasValue}")
    | .ok (some productId) => return productId
  | none, _, _ =>
    throw (.badRequest "Each POS checkout item requires productId or aliasType plus aliasValue")

/-- `repo.findOne({ where: { id: rawId, productId } })` for a finite number above zero; the database
refuses to compare an id with a fraction. -/
def findVariantById (productId : ℕ) (rawId : Option ℚ) : PosCheckoutProc (Option ProductVariant) :=
  match rawId.filter (0 < ·) with
  | none => pure none
  | some id => do
    .throwIf (id.den ≠ 1) (.queryFailed "invalid input syntax for type integer")
    Proc.read fun s : PosCheckoutStore =>
      s.catalogueVariants.find? fun v => (v.id : ℤ) = id.num ∧ v.productId = productId

/-- `repo.findOne({ where: { productId, variantKey } })` for a key that is not blank. -/
def findVariantByKey (productId : ℕ) (variantKey : Option String) : PosCheckoutProc (Option ProductVariant) :=
  match trimmed variantKey with
  | none => pure none
  | some key =>
    Proc.read fun s : PosCheckoutStore =>
      s.catalogueVariants.find? fun v => v.productId = productId ∧ v.variantKey = key

def resolveCheckoutVariantId (productId : ℕ) (metadata : Option PosCheckoutItemMetadata) : PosCheckoutProc (Option ℕ) :=
  match metadata with
  | none => pure none
  | some metadata => do
    match ← findVariantById productId metadata.variantId with
    | some byId => return some byId.id
    | none =>
      let byKey ← findVariantByKey productId metadata.variantKey
      return byKey.map ProductVariant.id

def buildMovementNote : String :=
  let label := if dto.transactionType = .sale then "POS checkout sale" else "POS checkout return"
  match trimmed dto.receiptNumber, trimmed item.note with
  | some receiptNumber, some itemNote => s!"{label} {receiptNumber} | {itemNote}"
  | some receiptNumber, none => s!"{label} {receiptNumber}"
  | none, some itemNote => s!"{label} | {itemNote}"
  | none, none => label

/-- `quantityDelta`: a sale takes the quantity, a return gives it back. -/
def quantityDelta : ℚ := if dto.transactionType = .sale then -|item.quantity| else |item.quantity|

def movementType : StockMovementType :=
  if dto.transactionType = .sale then .sale else .adjustment

/-- A whole number, as the columns of the stock can hold it. -/
def whole (quantity : ℚ) : Option ℤ := if quantity.den = 1 then some quantity.num else none

def fractionRefused : HttpException := .queryFailed "invalid input syntax for type integer"

/-- `recordMovement` with the caller's transaction, for a quantity that may be a fraction. -/
def recordMovementOf (now : Date) (p : RecordMovementParams) (quantityDelta : ℚ) : InventoryProc Unit :=
  match whole quantityDelta with
  | some quantityDelta => do
    let _ ← recordMovement now { p with quantityDelta } true
  | none => do
    ensureBranchAndProduct p.branchId p.productId
    let inventory ← loadOrCreateInventory p.key
    .throwIf (inventory.row.quantityOnHand + quantityDelta < 0) (onHandNegative p.branchId p.productId)
    throw fractionRefused

/-- `recordVariantMovement` with the caller's transaction, for a quantity that may be a fraction. -/
def recordVariantMovementOf (now : Date) (p : RecordVariantMovementParams) (quantityDelta : ℚ) : VariantProc Unit :=
  match whole quantityDelta with
  | some quantityDelta => do
    let _ ← recordVariantMovement now { p with quantityDelta } true
  | none => do
    let found ← findVariant p.key
    let row := found.getD (newVariant p.productId)
    .throwIf (row.quantityOnHand + quantityDelta < 0) (variantNegative p.variantId p.branchId)
    throw fractionRefused

variable (checkoutId : ℕ) (occurredAt : Date) (actorId : Option ℕ) (productId : ℕ)

/-- The movement of a line of a product without variants, its quantity left open. -/
def productMovement : RecordMovementParams where
  branchId := dto.branchId
  productId
  movementType := movementType dto
  quantityDelta := 0
  sourceType := "POS_CHECKOUT"
  sourceReferenceId := some checkoutId
  actorUserId := actorId
  note := some (buildMovementNote dto item)
  occurredAt := some occurredAt

/-- The movement of a line of a variant, its quantity left open. -/
def variantMovement (variantId : ℕ) : RecordVariantMovementParams where
  branchId := dto.branchId
  productId
  variantId
  quantityDelta := 0
  movementType := movementType dto
  sourceType := "POS_CHECKOUT"
  sourceReferenceId := some checkoutId
  actorUserId := actorId
  note := some (buildMovementNote dto item)
  occurredAt := some occurredAt

/-- Whether sales draw on the stock of the product. -/
def managesStock : PosCheckoutProc Bool := do
  let product ← onInventory (findProduct productId)
  return (product.map Product.manageStock).getD false

/-- One round of the loop of `ingest`. -/
def processItem : PosCheckoutProc Unit := do
  let productId ← resolveProductId env dto item
  match ← resolveCheckoutVariantId productId item.metadata with
  | some variantId =>
    onVariants (recordVariantMovementOf env.now
      (variantMovement dto item checkoutId occurredAt actorId productId variantId)
      (quantityDelta dto item))
  | none =>
    if ← managesStock productId then
      onInventory (recordMovementOf env.now
        (productMovement dto item checkoutId occurredAt actorId productId)
        (quantityDelta dto item))

end Lines

/-! ### The general ledger -/

section Ledger

variable (env : PosCheckoutRuntime) (id : ℕ) (checkout : PosCheckout)
  (fc : FinancialClassification)

def ledgerKeyForCheckout : String :=
  match checkout.idempotencyKey with
  | none | some "" => s!"pos-checkout-{id}"
  | some key => s!"pos-checkout-{key}"

def resolveRevenueAccount (account : Option String) : GlAccountCode :=
  if account = some "RENTAL_REVENUE" then .rentalRevenue else .serviceRevenue

/-- The amounts that `postCheckoutToLedger` computes: three to debit and two to credit. -/
structure CheckoutLegs where
  cash : ℚ
  clearing : ℚ
  receivable : ℚ
  revenue : ℚ
  tax : ℚ
deriving DecidableEq

/-- `netCash`: what is kept of the payment after the change. -/
def netCash : ℚ := max 0 (round2 (round2 checkout.paidAmount - round2 checkout.changeDue))

def checkoutLegs : CheckoutLegs :=
  let total := round2 checkout.total
  let tax := round2 checkout.taxAmount
  let netCash := netCash checkout
  let split := splitTenders env.toUpperCase checkout.tenders netCash
  { cash := split.cash
    clearing := split.clearing
    receivable := max 0 (round2 (total - netCash))
    revenue := round2 (total - tax)
    tax }

/-- `if (amount > 0) debits.push({ accountCode, debit: amount })`. -/
def debitLine (account : GlAccountCode) (amount : ℚ) : List JournalLineInput :=
  if amount > 0 then [{ accountCode := account.code, debit := some amount }] else []

/-- `if (amount > 0) credits.push({ accountCode, credit: amount })`. -/
def creditLine (account : GlAccountCode) (amount : ℚ) : List JournalLineInput :=
  if amount > 0 then [{ accountCode := account.code, credit := some amount }] else []

def saleLines (legs : CheckoutLegs) : List JournalLineInput :=
  debitLine .cash legs.cash ++ debitLine .tenderClearing legs.clearing ++
    debitLine .accountsReceivable legs.receivable ++
    creditLine (resolveRevenueAccount fc.revenueAccount) legs.revenue ++
    creditLine .taxPayable legs.tax

/-- A return reverses the sale: every debit and credit is swapped. -/
def swapLine (line : JournalLineInput) : JournalLineInput where
  accountCode := line.accountCode
  debit := some (line.credit.getD 0)
  credit := some (line.debit.getD 0)

/-- The lines that `postCheckoutToLedger` posts. -/
def checkoutLines : List JournalLineInput :=
  let lines := saleLines fc (checkoutLegs env checkout)
  if checkout.transactionType = .returned then lines.map swapLine else lines

/-- `receiptNumber ?? id`; a stored receipt number is not empty. -/
def receiptLabel : String := checkout.receiptNumber.getD s!"{id}"

def ledgerSourceType : GlJournalSourceType :=
  if checkout.transactionType = .returned then .posReturn else .posCheckout

def checkoutEntry : PostJournalEntryInput where
  branchId := checkout.branchId
  occurredAt := checkout.occurredAt
  sourceType := ledgerSourceType checkout
  sourceId := some (receiptLabel id checkout)
  idempotencyKey := ledgerKeyForCheckout id checkout
  currency := some checkout.currency
  memo :=
    let label := if checkout.transactionType = .returned then "POS return" else "POS sale"
    some s!"{label} {receiptLabel id checkout}"
  createdByUserId := checkout.cashierUserId
  lines := checkoutLines env checkout fc

def itemCost (orders : SerialTable PurchaseOrder) (costPrices : Table ℕ ℚ) (item : PosCheckoutItem) : ℚ :=
  match item.productId.bind (ProductCost.weightedAverageCost orders costPrices checkout.branchId) with
  | none => 0
  | some unitCost => unitCost * |item.quantity|

/-- `totalCost` of `postCheckoutCogs`. -/
def totalCost (orders : SerialTable PurchaseOrder) (costPrices : Table ℕ ℚ) : ℚ :=
  round2 (checkout.items.map (itemCost checkout orders costPrices)).sum

/-- The lines of the cost of a sale; those of a return are the other way round. -/
def cogsLines (totalCost : ℚ) : List JournalLineInput :=
  if checkout.transactionType = .returned then
    [{ accountCode := GlAccountCode.inventory.code, debit := some totalCost },
      { accountCode := GlAccountCode.cogs.code, credit := some totalCost }]
  else
    [{ accountCode := GlAccountCode.cogs.code, debit := some totalCost },
      { accountCode := GlAccountCode.inventory.code, credit := some totalCost }]

def cogsEntry (totalCost : ℚ) : PostJournalEntryInput where
  branchId := checkout.branchId
  occurredAt := checkout.occurredAt
  sourceType := ledgerSourceType checkout
  sourceId := some (receiptLabel id checkout)
  idempotencyKey := s!"pos-cogs-{ledgerKeyForCheckout id checkout}"
  currency := some checkout.currency
  memo := some s!"COGS — {receiptLabel id checkout}"
  lines := cogsLines checkout totalCost

def postCheckoutCogs : PosCheckoutProc Unit := do
  let cost ← Proc.read fun s : PosCheckoutStore => totalCost checkout s.orders s.costPrices
  if cost > 0 then
    let _ ← onJournal (post env.now (cogsEntry id checkout cost) false)

/-- `String(text || '').toUpperCase() === value`. -/
def ReadsAs (text : Option String) (value : String) : Prop := env.toUpperCase (text.getD "") = value
deriving Decidable

def postCheckoutToLedger : PosCheckoutProc Unit :=
  match checkout.metadata.financialClassification with
  | none => pure ()
  | some fc => do
    -- accrual formats are posted by the services of the hospitality
    if ReadsAs env fc.recognitionBasis "ACCRUAL" then return
    if round2 checkout.total ≤ 0 then return
    if (checkoutLines env checkout fc).length < 2 then return
    let _ ← onJournal (post env.now (checkoutEntry env id checkout fc) false)
    if ReadsAs env fc.cogsSource "INVENTORY" then
      postCheckoutCogs env id checkout

end Ledger

/-! ### Operations -/

section Ingest

variable (env : PosCheckoutRuntime) (dto : IngestPosCheckoutDto) (actor : PosActor)

variable (now : Date) (id : ℕ)

/-- `resolveOccurredAt`: the time of the device, unless it is more than two minutes ahead. -/
def resolveOccurredAt (occurredAt : Option Date) : Date :=
  match occurredAt with
  | none => now
  | some parsed => if parsed > now + 120000 then now else parsed

def returnContextOf : ReturnContext where
  sourceReceiptId := trimmed dto.sourceReceiptId
  sourceReceiptNumber := trimmed dto.sourceReceiptNumber
  refundMethod := trimmed dto.refundMethod

/-- `buildCheckoutMetadata`: a block of the request replaces one in its metadata, unless it is empty. -/
def buildCheckoutMetadata : PosCheckoutMetadata where
  financialClassification := (dto.financialClassification.filter (· ≠ {})).or dto.metadata.financialClassification
  returnContext := if returnContextOf dto = {} then dto.metadata.returnContext else some (returnContextOf dto)

def storedItem (item : PosCheckoutItemDto) : PosCheckoutItem where
  productId := item.productId
  aliasType := item.aliasType
  aliasValue := trimmed item.aliasValue
  quantity := item.quantity
  taxRate := some (item.taxRate.map NNRat.cast)
  taxableBase := item.taxableBase.map NNRat.cast
  taxAmount := some (amountOrZero item.taxAmount)
  lineTotal := some item.lineTotal

def storedTender (tender : PosCheckoutTenderDto) : TenderRow where
  method := some tender.method
  amount := some tender.amount

def newCheckout : PosCheckout where
  branchId := dto.branchId
  partnerCredentialId := dto.partnerCredentialId
  externalCheckoutId := trimmed dto.externalCheckoutId
  idempotencyKey := trimmed dto.idempotencyKey
  registerId := trimmed dto.registerId
  registerSessionId := dto.registerSessionId
  suspendedCartId := dto.suspendedCartId
  receiptNumber := trimmed dto.receiptNumber
  transactionType := dto.transactionType
  status := .received
  currency := env.toUpperCase (trim dto.currency)
  subtotal := numeric2 dto.subtotal
  discountAmount := numeric2 (amountOrZero dto.discountAmount)
  taxAmount := numeric2 (amountOrZero dto.taxAmount)
  total := numeric2 dto.total
  paidAmount := numeric2 (amountOrZero dto.paidAmount)
  changeDue := numeric2 (amountOrZero dto.changeDue)
  tipAmount := numeric2 (amountOrZero dto.tipAmount)
  itemCount := dto.items.length
  occurredAt := resolveOccurredAt env.now dto.occurredAt
  processedAt := none
  cashierUserId := dto.cashierUserId <|> actor.id
  cashierName := trimmed dto.cashierName
  note := trimmed dto.note
  failureReason := none
  metadata := buildCheckoutMetadata dto
  tenders := dto.tenders.map storedTender
  items := dto.items.map storedItem
  voidedAt := none
  voidedByUserId := none
  voidReason := none

def linkedCheckout (checkout : PosCheckout) (registerSession : Option (ℕ × PosRegisterSession))
    (suspendedCart : Option (ℕ × PosSuspendedCart)) : PosCheckout :=
  { checkout with
    registerId := checkout.registerId <|> registerSession.map fun session => session.2.registerId
    registerSessionId := checkout.registerSessionId <|> registerSession.map Prod.fst
    suspendedCartId := checkout.suspendedCartId <|> suspendedCart.map Prod.fst }

/-- The row of a checkout that went through. -/
def processedCheckout (checkout : PosCheckout) : PosCheckout :=
  { checkout with status := .processed, processedAt := some now, failureReason := none }

/-- The row of a checkout that threw. -/
def failedCheckout (checkout : PosCheckout) (error : HttpException) : PosCheckout :=
  { checkout with
    status := .failed, processedAt := some now, failureReason := some error.message }

def resumedCart (checkoutId : ℕ) (cart : PosSuspendedCart) : PosSuspendedCart :=
  { cart with
    status := .resumed
    resumedAt := some now
    resumedByUserId := actor.id
    resumedByName := actor.email
    consumedByCheckoutId := some checkoutId }

def assertSources : PosCheckoutProc (Option (ℕ × PosRegisterSession) × Option (ℕ × PosSuspendedCart)) := do
  let registerSession ← assertRegisterSession dto
  let suspendedCart ← assertSuspendedCart dto registerSession
  assertReturnSourceSaleProcessed dto
  return (registerSession, suspendedCart)

/-- The writes of the transaction. -/
def processCheckout (checkout : PosCheckout)
    (suspendedCart : Option (ℕ × PosSuspendedCart)) : PosCheckoutProc Unit := do
  .forEach dto.items fun item => processItem env dto item id checkout.occurredAt actor.id
  match suspendedCart with
  | none => pure ()
  | some (cartId, cart) => saveSuspendedCart cartId (resumedCart actor env.now id cart)
  saveCheckout id (processedCheckout env.now checkout)

/-- The transaction of `ingest`.  It fails with the checkout as it is in memory, which is what `ingest`
stores then. -/
def ingestWithin (checkout : PosCheckout) : Proc PosCheckoutStore (HttpException × PosCheckout) Unit := do
  let (registerSession, suspendedCart) ← Proc.mapError (fun e => (e, checkout)) (assertSources dto)
  let checkout := linkedCheckout checkout registerSession suspendedCart
  Proc.mapError (fun e => (e, checkout)) (processCheckout env dto actor id checkout suspendedCart)

def findOneById : PosCheckoutProc (ℕ × PosCheckout) := do
  match ← findCheckout id with
  | some checkout => return (id, checkout)
  | none => throw (.notFound s!"POS checkout with ID {id} not found")

/-- `ingest` from where the checkout is stored. -/
def processNew (checkout : PosCheckout) : PosCheckoutProc (ℕ × PosCheckout) := do
  match ← Proc.attempt (Proc.transaction (ingestWithin env dto actor id checkout)) with
  | .error (error, checkout) =>
    saveCheckout id (failedCheckout env.now checkout error)
    match error with
    | .badRequest _ | .notFound _ => findOneById id
    | _ => throw error
  | .ok () =>
    let processed ← findOneById id
    -- a failure of the ledger is logged and no more
    let _ : Except HttpException Unit ←
      Proc.attempt (postCheckoutToLedger env processed.1 processed.2)
    return processed

/-- The checks before anything is stored. -/
def assertRequest : PosCheckoutProc Unit := do
  .throwIf (dto.items = []) (.badRequest "POS checkout ingestion requires at least one item")
  .throwIf (dto.transactionType = .returned ∧ trimmed dto.sourceReceiptNumber = none)
    (.badRequest "POS return ingestion requires sourceReceiptNumber")
  assertPricingSummary dto

/-- `ingest`: the id of the checkout and its row. -/
def ingest : PosCheckoutProc (ℕ × PosCheckout) := do
  assertRequest dto
  match ← findExistingForIdempotency dto with
  | some existing => return existing
  | none =>
    assertScope dto.branchId dto.partnerCredentialId
    let checkout := newCheckout env dto actor
    let id ← insertCheckout checkout
    processNew env dto actor id checkout

end Ingest

/-! ### Settlements and voids -/

variable (env : PosCheckoutRuntime)

/-- The parts of a settlement that go to cash and to clearing: those of its tenders, scaled to what is
settled. -/
def settlementSplit (settled : ℚ) (rows : List TenderRow) : TenderSplit :=
  let raw := sumTenders env.toUpperCase rows
  -- no tender detail: the whole settlement counts as cash
  let cash := if round2 (raw.cash + raw.clearing) ≤ 0 then settled else raw.cash
  let tenderSum := round2 (cash + raw.clearing)
  if tenderSum ≠ settled then
    let scale := settled / tenderSum
    let cash := round2 (cash * scale)
    { cash, clearing := round2 (settled - cash) }
  else { cash, clearing := raw.clearing }

def settlementEntry (dto : SettleReceivableDto) (actorId : Option ℕ) : PostJournalEntryInput where
  branchId := dto.branchId
  occurredAt := dto.settledAt.getD env.now
  sourceType := .arSettlement
  sourceId := if dto.originalReceiptNumber = "" then none else some dto.originalReceiptNumber
  idempotencyKey := dto.idempotencyKey
  currency := some (env.toUpperCase (trim (if dto.currency = "" then "ETB" else dto.currency)))
  memo := some (trim s!"Receivable settlement for {dto.originalReceiptNumber}")
  createdByUserId := actorId
  lines :=
    let settled := round2 dto.settledAmount
    let split := settlementSplit env settled (dto.tenders.map storedTender)
    debitLine .cash split.cash ++ debitLine .tenderClearing split.clearing ++
      [{ accountCode := GlAccountCode.accountsReceivable.code, credit := some settled }]

/-- What `settleReceivable` returns. -/
structure SettlementResponse where
  posted : Bool
  entryId : ℕ
  idempotencyKey : String

def settleReceivable (dto : SettleReceivableDto) (actorId : Option ℕ) : PosCheckoutProc SettlementResponse := do
  .throwIf (round2 dto.settledAmount ≤ 0) (.badRequest "settledAmount must be greater than zero.")
  let entry ← onJournal (post env.now (settlementEntry env dto actorId) false)
  return { posted := true, entryId := entry.id, idempotencyKey := dto.idempotencyKey }

/-- What `voidCheckout` returns. -/
structure VoidResponse where
  id : ℕ
  status : PosCheckoutStatus
  voidedAt : Date
  voidedByUserId : ℕ
deriving DecidableEq

def voidOptions (id : ℕ) (checkout : PosCheckout) (voidedAt : Date) (voidedByUserId : ℕ) :
    GeneralLedger.ReverseOptions where
  sourceType := .posVoidReversal
  idempotencyKey := s!"void-{ledgerKeyForCheckout id checkout}"
  occurredAt := some voidedAt
  memo := some s!"Void of checkout {receiptLabel id checkout}"
  createdByUserId := some voidedByUserId

def reverseCheckoutEntry (now : Date) (id : ℕ) (checkout : PosCheckout) (voidedByUserId : ℕ) : GlProc Unit := do
  match ← findEntryByKey checkout.branchId (ledgerKeyForCheckout id checkout) with
  | none => return
  | some entry =>
    let _ ← reverse now entry.id (voidOptions id checkout now voidedByUserId)

def voidCheckout (id : ℕ) (dto : VoidPosCheckoutDto) (actorId : ℕ)
    (actorBranchId : Option ℕ) : PosCheckoutProc VoidResponse := do
  match ← findCheckout id with
  | none => throw (.notFound s!"Checkout #{id} not found")
  | some checkout =>
    .throwIf (∃ b ∈ actorBranchId, checkout.branchId ≠ b)
      (.forbidden "You do not have permission to void checkouts on this branch")
    -- the three other statuses may all be voided
    .throwIf (checkout.status = .voided) (.badRequest "Checkout is already voided")
    let voidedByUserId := dto.authorisedByUserId.getD actorId
    saveCheckout id { checkout with
      status := .voided
      voidedAt := some env.now
      voidedByUserId := some voidedByUserId
      voidReason := dto.reason }
    -- a failure of the ledger is logged and no more
    let _ : Except HttpException Unit ←
      Proc.attempt (onJournal (reverseCheckoutEntry env.now id checkout voidedByUserId))
    return { id, status := .voided, voidedAt := env.now, voidedByUserId }

end PosCheckouts

end SuuqBackend
