import SuuqBackend.Branches.VariantInventory
import SuuqBackend.PosSync.PosSync
import SuuqBackend.PurchaseOrders.PurchaseOrderStore

/-!
# The tables under the checkouts

`pos_checkouts`, and what the checkout service reads and writes of the register sessions, the suspended
carts, the variants and their stock, the general ledger, the purchase orders and the costs of products.

The amounts of a request are not negative (`@Min(0)`); the columns of a checkout keep them to the cent.
The JSON columns hold what the service reads back: the method and the amount of a tender, the product,
the quantity and the tax of an item, and the blocks `financialClassification` and `returnContext` of the metadata.
-/

namespace SuuqBackend

/-- `PosCheckoutTransactionType`; `returned` is `RETURN`. -/
inductive PosCheckoutTransactionType where
  | sale
  | returned
deriving DecidableEq

inductive PosCheckoutStatus where
  | received
  | processed
  | failed
  | voided
deriving DecidableEq

def PosCheckoutStatus.text : PosCheckoutStatus → String
  | received => "RECEIVED"
  | processed => "PROCESSED"
  | failed => "FAILED"
  | voided => "VOIDED"

/-- `FinancialClassificationDto`: the keys that the ledger reads, and the others as one text if there
are any. -/
structure FinancialClassification where
  recognitionBasis : Option String := none
  /-- `revenue?.account`. -/
  revenueAccount : Option String := none
  cogsSource : Option String := none
  others : Option String := none
deriving DecidableEq

/-- `returnContext` of the metadata. -/
structure ReturnContext where
  sourceReceiptId : Option String := none
  sourceReceiptNumber : Option String := none
  refundMethod : Option String := none
deriving DecidableEq

structure PosCheckoutMetadata where
  financialClassification : Option FinancialClassification := none
  returnContext : Option ReturnContext := none
deriving DecidableEq

structure PosCheckoutItem where
  productId : Option ℕ
  aliasType : Option ProductAliasType
  aliasValue : Option String
  quantity : ℚ
  /-- A field that is `null` is there, and is no number. -/
  taxRate : Option (Option ℚ) := none
  taxableBase : Option ℚ := none
  taxAmount : Option ℚ := none
  lineTotal : Option ℚ := none
deriving DecidableEq

structure PosCheckout where
  branchId : ℕ
  partnerCredentialId : Option ℕ
  externalCheckoutId : Option String
  idempotencyKey : Option String
  registerId : Option String
  registerSessionId : Option ℕ
  suspendedCartId : Option ℕ
  receiptNumber : Option String
  transactionType : PosCheckoutTransactionType
  status : PosCheckoutStatus
  currency : String
  subtotal : ℚ
  discountAmount : ℚ
  taxAmount : ℚ
  total : ℚ
  paidAmount : ℚ
  changeDue : ℚ
  tipAmount : ℚ
  itemCount : ℕ
  occurredAt : Date
  processedAt : Option Date
  cashierUserId : Option ℕ
  cashierName : Option String
  note : Option String
  failureReason : Option String
  metadata : PosCheckoutMetadata
  tenders : List TenderRow
  items : List PosCheckoutItem
  voidedAt : Option Date
  voidedByUserId : Option ℕ
  voidReason : Option String
deriving DecidableEq

/-- `PosRegisterSessionStatus`; `opened` is `OPEN`. -/
inductive PosRegisterSessionStatus where
  | opened
  | closed
deriving DecidableEq

structure PosRegisterSession where
  branchId : ℕ
  registerId : String
  status : PosRegisterSessionStatus

inductive PosSuspendedCartStatus where
  | suspended
  | resumed
  | discarded
deriving DecidableEq

structure PosSuspendedCart where
  branchId : ℕ
  registerSessionId : Option ℕ
  registerId : Option String
  status : PosSuspendedCartStatus
  resumedAt : Option Date
  resumedByUserId : Option ℕ
  resumedByName : Option String
  /-- `metadata.consumedByCheckoutId`. -/
  consumedByCheckoutId : Option ℕ

structure ProductVariant where
  id : ℕ
  productId : ℕ
  variantKey : String

structure PartnerCredential where
  branchId : Option ℕ

/-! ### Requests -/

structure PosCheckoutTenderDto where
  method : String
  amount : ℚ≥0

/-- `item.metadata`: `Number(variantId)`, if it is finite, and `variantKey`, if it is a text. -/
structure PosCheckoutItemMetadata where
  variantId : Option ℚ := none
  variantKey : Option String := none

structure PosCheckoutItemDto where
  productId : Option ℕ := none
  aliasType : Option ProductAliasType := none
  aliasValue : Option String := none
  quantity : ℚ
  taxRate : Option ℚ≥0 := none
  taxableBase : Option ℚ≥0 := none
  taxAmount : Option ℚ≥0 := none
  lineTotal : ℚ≥0 := 0
  note : Option String := none
  metadata : Option PosCheckoutItemMetadata := none
  /-- `@Min(0.000001)`. -/
  quantity_min : 1 / 1000000 ≤ quantity

/-- `pricingSummary`: the numbers among its three totals. -/
structure PricingSummary where
  grandTotal : Option ℚ := none
  taxTotal : Option ℚ := none
  discountTotal : Option ℚ := none

/-- `IngestPosCheckoutDto`; `occurredAt` is the parsed date, if it is one. -/
structure IngestPosCheckoutDto where
  branchId : ℕ
  transactionType : PosCheckoutTransactionType
  partnerCredentialId : Option ℕ := none
  externalCheckoutId : Option String := none
  idempotencyKey : Option String := none
  registerId : Option String := none
  registerSessionId : Option ℕ := none
  suspendedCartId : Option ℕ := none
  receiptNumber : Option String := none
  currency : String
  subtotal : ℚ≥0
  discountAmount : Option ℚ≥0 := none
  taxAmount : Option ℚ≥0 := none
  total : ℚ≥0
  paidAmount : Option ℚ≥0 := none
  changeDue : Option ℚ≥0 := none
  tipAmount : Option ℚ≥0 := none
  occurredAt : Option Date := none
  cashierUserId : Option ℕ := none
  cashierName : Option String := none
  note : Option String := none
  metadata : PosCheckoutMetadata := {}
  sourceReceiptId : Option String := none
  sourceReceiptNumber : Option String := none
  refundMethod : Option String := none
  pricingSummary : Option PricingSummary := none
  items : List PosCheckoutItemDto
  tenders : List PosCheckoutTenderDto := []
  financialClassification : Option FinancialClassification := none

structure SettleReceivableDto where
  branchId : ℕ
  idempotencyKey : String
  currency : String
  originalReceiptNumber : String
  settledAmount : ℚ≥0
  settledAt : Option Date := none
  tenders : List PosCheckoutTenderDto := []

structure VoidPosCheckoutDto where
  reason : Option String := none
  authorisedByUserId : Option ℕ := none

/-- Who sends a request. -/
structure PosActor where
  id : Option ℕ := none
  email : Option String := none

structure PosCheckoutRuntime where
  now : Date
  toLowerCase : String → String
  toUpperCase : String → String

/-! ### Tables -/

/-- The tables that the checkout service reads and writes. -/
structure PosCheckoutStore where
  /-- The stock of products and variants. -/
  variant : VariantStore
  /-- The rows behind the ids in `variant.productVariants`, in the order of the ids. -/
  catalogueVariants : List ProductVariant
  /-- `product_aliases`, in the order of the ids. -/
  productAliases : List ProductAlias
  partnerCredentials : Table ℕ PartnerCredential
  registerSessions : Table ℕ PosRegisterSession
  suspendedCarts : Table ℕ PosSuspendedCart
  checkouts : SerialTable PosCheckout
  journal : GlStore
  orders : SerialTable PurchaseOrder
  /-- The costs of products that were entered by hand. -/
  costPrices : Table ℕ ℚ

abbrev PosCheckoutProc : Type → Type := Proc PosCheckoutStore HttpException

namespace PosCheckoutStore

/-- The tables of the variant service among them. -/
def variantLens : Proc.Lens PosCheckoutStore VariantStore where
  get s := s.variant
  set s variant := { s with variant }

def journalLens : Proc.Lens PosCheckoutStore GlStore where
  get s := s.journal
  set s journal := { s with journal }

/-- The first checkout by id that meets a condition. -/
def firstCheckout (s : PosCheckoutStore) (p : PosCheckout → Bool) : Option (ℕ × PosCheckout) :=
  (List.range s.checkouts.next).findSome? fun id =>
    ((s.checkouts.find id).filter p).map fun checkout => (id, checkout)

end PosCheckoutStore

/-- Both checkouts have the text in a column that is unique within their branch. -/
def SameText (text text' : Option String) : Prop := text ≠ none ∧ text = text'
deriving Decidable

/-- The unique indexes of `pos_checkouts` do not admit both rows. -/
def PosCheckout.Conflicts (c c' : PosCheckout) : Prop :=
  c.branchId = c'.branchId ∧ (SameText c.idempotencyKey c'.idempotencyKey ∨
    SameText c.externalCheckoutId c'.externalCheckoutId)
deriving Decidable

/-- The unique indexes do not admit the row beside those of the table. -/
def PosCheckoutStore.HasConflict (s : PosCheckoutStore) (checkout : PosCheckout) : Prop :=
  ∃ e ∈ s.checkouts.rows.entries, checkout.Conflicts e.2

instance (s : PosCheckoutStore) (checkout : PosCheckout) : Decidable (s.HasConflict checkout) :=
  Multiset.decidableExistsMultiset

namespace PosCheckoutRepository

/-- What the database objects to when a new checkout is saved. -/
def insertError (checkout : PosCheckout) (s : PosCheckoutStore) : Option HttpException :=
  if s.HasConflict checkout then
    some (.queryFailed "duplicate key value violates unique constraint")
  else if checkout.branchId ∈ s.variant.inventory.branches ∧
      (∀ id ∈ checkout.partnerCredentialId, id ∈ s.partnerCredentials) ∧
      (∀ id ∈ checkout.registerSessionId, id ∈ s.registerSessions) ∧
      (∀ id ∈ checkout.suspendedCartId, id ∈ s.suspendedCarts) then none
  else some (.queryFailed "insert or update on table violates foreign key constraint")

/-- `posCheckoutsRepository.save` of a new checkout: its generated id. -/
def insertCheckout (checkout : PosCheckout) : PosCheckoutProc ℕ :=
  .step
    (fun s => match insertError checkout s with
      | none => { s with checkouts := s.checkouts.add checkout }
      | some _ => s)
    fun s => match insertError checkout s with
      | none => .done s.checkouts.next
      | some error => .fail error

/-- `posCheckoutsRepository.save` of a checkout that was saved before. -/
def saveCheckout (id : ℕ) (checkout : PosCheckout) : PosCheckoutProc Unit :=
  Proc.write fun s => { s with checkouts := s.checkouts.set id checkout }

/-- `posCheckoutsRepository.findOne({ where: { id } })`. -/
def findCheckout (id : ℕ) : PosCheckoutProc (Option PosCheckout) :=
  Proc.read fun s => s.checkouts.find id

/-- `manager.getRepository(PosSuspendedCart).save` of a cart that was loaded. -/
def saveSuspendedCart (id : ℕ) (cart : PosSuspendedCart) : PosCheckoutProc Unit :=
  Proc.write fun s => { s with suspendedCarts := s.suspendedCarts.insert id cart }

end PosCheckoutRepository

end SuuqBackend
