import SuuqBackend.Common.Numeric
import SuuqBackend.Users.UserStore
import SuuqBackend.PosSync.ProductAliases

/-!
# Requests of buyers for a product, and the offers of sellers

`ProductRequestsService`: sellers offer a product for a request (`createOffer`, `withdrawOffer`), and its buyer answers
(`acceptOffer`, `rejectOffer`) or closes it (`updateStatusAsBuyer`).

The buyer's transactions hold the row lock of the request, and run as one action here.  `now` is `new Date()`, and
`toUpperCase` the one of the runtime.

Left out are the notifications and emails, the columns that describe what is requested, and of `metadata` all but the
two notes; requests are not deleted from the database while calls run.
-/

namespace SuuqBackend

/-- `ProductRequestStatus`; `opened` is `OPEN`. -/
inductive ProductRequestStatus where
  | opened
  | inProgress
  | fulfilled
  | cancelled
  | expired
deriving DecidableEq

inductive ProductRequestOfferStatus where
  | sent
  | seen
  | accepted
  | rejected
  | withdrawn
  | expired
deriving DecidableEq

namespace ProductRequestOfferStatus

/-- The statuses of an offer that awaits an answer. -/
def active : List ProductRequestOfferStatus := [.sent, .seen]

/-- The statuses of an offer that counts towards the limit of a request. -/
def counted : List ProductRequestOfferStatus := [.sent, .seen, .accepted]

end ProductRequestOfferStatus

structure ProductRequest where
  buyerId : ℕ
  currency : Option String := none
  status : ProductRequestStatus := .opened
  closedAt : Option ℤ := none
  acceptedOfferId : Option ℕ := none
  /-- `metadata.lastBuyerNote`. -/
  lastBuyerNote : Option String := none
  /-- `metadata.acceptanceNote`. -/
  acceptanceNote : Option String := none
  /-- `deletedAt` is set. -/
  deleted : Bool := false

structure ProductRequestOffer where
  requestId : ℕ
  sellerId : ℕ
  productId : Option ℕ := none
  price : Option Numeric2 := none
  currency : Option String := none
  message : Option String := none
  status : ProductRequestOfferStatus := .sent
  expiresAt : Option ℤ := none
  respondedAt : Option ℤ := none

structure OfferedProduct where
  vendorId : Option ℕ
  price : Option Numeric2
  currency : Option String

structure CreateProductRequestOfferDto where
  productId : Option ℕ := none
  price : Option Decimal2 := none
  currency : Option String := none
  message : Option String := none
  expiresAt : Option ℤ := none

structure UpdateProductRequestStatusDto where
  status : ProductRequestStatus
  note : Option String := none
  closedAt : Option ℤ := none

structure ProductRequestStore where
  requests : SerialTable ProductRequest
  offers : SerialTable ProductRequestOffer
  products : Table ℕ OfferedProduct

abbrev ProductRequestProc : Type → Type := Proc ProductRequestStore HttpException

namespace ProductRequestStore

def findRequest (s : ProductRequestStore) (requestId : ℕ) : Option ProductRequest :=
  (s.requests.find requestId).filter fun request => !request.deleted

/-- How many offers meet a condition. -/
def countOffers (s : ProductRequestStore) (p : ProductRequestOffer → Prop) [DecidablePred p] : ℤ :=
  s.offers.total fun offer => if p offer then 1 else 0

def saveRequest (s : ProductRequestStore) (requestId : ℕ) (request : ProductRequest) : ProductRequestStore :=
  { s with requests := s.requests.set requestId request }

def putInProgress (s : ProductRequestStore) (requestId : ℕ) : ProductRequestStore :=
  match s.requests.find requestId with
  | none => s
  | some request => s.saveRequest requestId { request with status := .inProgress }

def addOffer (s : ProductRequestStore) (offer : ProductRequestOffer) : ProductRequestStore :=
  { s with offers := s.offers.add offer }

def saveOffer (s : ProductRequestStore) (offerId : ℕ) (offer : ProductRequestOffer) : ProductRequestStore :=
  { s with offers := s.offers.set offerId offer }

end ProductRequestStore

def ProductRequestOffer.Counts (requestId : ℕ) (offer : ProductRequestOffer) : Prop :=
  offer.requestId = requestId ∧ offer.status ∈ ProductRequestOfferStatus.counted
deriving Decidable

/-- The offer is one of the seller's for the request, and awaits an answer. -/
def ProductRequestOffer.IsActiveOf (requestId sellerId : ℕ) (offer : ProductRequestOffer) : Prop :=
  offer.requestId = requestId ∧ offer.sellerId = sellerId ∧ offer.status ∈ ProductRequestOfferStatus.active
deriving Decidable

namespace ProductRequests

variable (toUpperCase : String → String) (now : ℤ)

/-- `value` if it is a text, and not an empty one. -/
def given (value : Option String) : Option String := value.filter (· ≠ "")

def normalizeCurrency (provided : Option String) (fallbacks : List (Option String)) : Option String :=
  (provided :: fallbacks).findSome? fun candidate => candidate.bind fun text =>
    let value := toUpperCase (trim text)
    if value.toList.length = 3 ∧ value.toList.all Char.isUpper then some value else none

def findRequestForBuyer (buyerId requestId : ℕ) : ProductRequestProc ProductRequest := do
  let some request ← Proc.read fun s : ProductRequestStore =>
      (s.findRequest requestId).filter fun request => request.buyerId = buyerId
    | throw (.notFound "Product request not found")
  return request

def respondedRequest (sellerId requestId : ℕ) : ProductRequestProc ProductRequest := do
  let some request ← Proc.read fun s : ProductRequestStore => s.findRequest requestId
    | throw (.notFound "Product request not found")
  .throwIf (request.status ≠ .opened ∧ request.status ≠ .inProgress)
    (.badRequest "This request is not accepting offers")
  .throwIf (request.buyerId = sellerId) (.badRequest "You cannot respond to your own request")
  return request

def offeredProduct (sellerId : ℕ) (productId : Option ℕ) : ProductRequestProc (Option (ℕ × OfferedProduct)) :=
  match productId with
  | none => pure none
  | some productId => do
    let some product ← Proc.read fun s : ProductRequestStore => s.products.lookup productId
      | throw (.notFound "Product not found")
    .throwIf (product.vendorId ≠ some sellerId) (.forbidden "You can only offer products you own")
    return some (productId, product)

/-- `offerRepo.create`. -/
def newOffer (sellerId requestId : ℕ) (dto : CreateProductRequestOfferDto) (request : ProductRequest)
    (product : Option (ℕ × OfferedProduct)) : ProductRequestOffer where
  requestId
  sellerId
  productId := product.map Prod.fst
  price := (dto.price.map fun price => ⟨price.hundredths⟩).or (product.bind fun row => row.2.price)
  currency := normalizeCurrency toUpperCase ((given request.currency).or dto.currency)
    [product.bind fun row => row.2.currency]
  message := dto.message
  expiresAt := dto.expiresAt
  status := .sent

def checkCurrency (requested offered : Option String) : ProductRequestProc Unit :=
  match given requested, given offered with
  | some requested, some offered => .throwIf (offered ≠ requested)
      (.badRequest s!"Offer currency ({offered}) must match the buyer's requested currency ({requested})")
  | _, _ => pure ()

/-- What `createOffer` checks before it writes: the request as it was read, and the new offer. -/
def prepareOffer (sellerId : ℕ) (sellerRoles : List UserRole) (requestId : ℕ) (dto : CreateProductRequestOfferDto) :
    ProductRequestProc (ProductRequest × ProductRequestOffer) := do
  .throwIf (¬ ∃ role ∈ sellerRoles, role = .vendor ∨ role = .admin ∨ role = .superAdmin)
    (.forbidden "Vendor role required")
  let request ← respondedRequest sellerId requestId
  let currentOfferCount ← Proc.read fun s : ProductRequestStore => s.countOffers (·.Counts requestId)
  .throwIf (10 ≤ currentOfferCount) (.badRequest "This request has reached the maximum limit of 10 offers.")
  let product ← offeredProduct sellerId (dto.productId.filter (· ≠ 0))
  let existingOffer ← Proc.read fun s : ProductRequestStore =>
    s.offers.first fun offer => offer.IsActiveOf requestId sellerId
  .throwIf (existingOffer.isSome) (.badRequest
    "You already have an active offer for this request. Update or withdraw it instead.")
  checkCurrency request.currency dto.currency
  return (request, newOffer toUpperCase sellerId requestId dto request product)

/-- The first offer puts an open request in progress. -/
def startProgress (requestId : ℕ) (status : ProductRequestStatus) : ProductRequestProc Unit :=
  if status = .opened then Proc.write fun s => s.putInProgress requestId else pure ()

def createOffer (sellerId : ℕ) (sellerRoles : List UserRole) (requestId : ℕ) (dto : CreateProductRequestOfferDto) :
    ProductRequestProc (Option ProductRequestOffer) := do
  let (request, offer) ← prepareOffer toUpperCase sellerId sellerRoles requestId dto
  let saved ← .step (fun s => s.addOffer offer) fun s => .done s.offers.next
  startProgress requestId request.status
  Proc.read fun s => s.offers.find saved

def withdrawOffer (sellerId requestId : ℕ) : ProductRequestProc ProductRequestOffer := do
  let some (offerId, existingOffer) ← Proc.read fun s : ProductRequestStore =>
      s.offers.first fun offer => offer.IsActiveOf requestId sellerId
    | throw (.notFound "No active offer found to withdraw")
  let withdrawn := { existingOffer with status := .withdrawn }
  Proc.write fun s => s.saveOffer offerId withdrawn
  return withdrawn

/-- An offer for the request is rejected if it awaits an answer and is not the accepted one. -/
def rejectActive (requestId : ℕ) (acceptedId : Option ℕ) (offerId : ℕ) (offer : ProductRequestOffer) :
    ProductRequestOffer :=
  if offer.requestId = requestId ∧ acceptedId ≠ some offerId ∧ offer.status ∈ ProductRequestOfferStatus.active then
    { offer with status := .rejected, respondedAt := offer.respondedAt.or (some now) }
  else offer

/-- The update of the offers that await an answer. -/
def rejectOffers (requestId : ℕ) (acceptedId : Option ℕ) (s : ProductRequestStore) : ProductRequestStore :=
  { s with offers := s.offers.mapRows (rejectActive now requestId acceptedId) }

def lockedRequest (buyerId requestId : ℕ) : ProductRequestProc ProductRequest := do
  let request ← Proc.read fun s : ProductRequestStore => s.findRequest requestId
  match request.filter fun request => request.buyerId = buyerId with
  | none => throw (.notFound "Product request not found")
  | some request => return request

/-- What `acceptOffer` finds: the request and the offer. -/
def acceptedPair (buyerId requestId offerId : ℕ) : ProductRequestProc (ProductRequest × ProductRequestOffer) := do
  let request ← lockedRequest buyerId requestId
  .throwIf (request.status = .cancelled) (.badRequest "Request is already cancelled")
  let some offer ← Proc.read fun s : ProductRequestStore =>
      (s.offers.find offerId).filter fun offer => offer.requestId = requestId
    | throw (.notFound "Offer not found")
  return (request, offer)

/-- A request as `acceptOffer` saves it. -/
def fulfilledRequest (offerId : ℕ) (note : Option String) (request : ProductRequest) : ProductRequest :=
  { request with
    status := .fulfilled
    acceptedOfferId := some offerId
    closedAt := some now
    acceptanceNote := (given note).or request.acceptanceNote }

def acceptOffer (buyerId requestId offerId : ℕ) (note : Option String) : ProductRequestProc ProductRequest :=
  Proc.transaction do
    let (request, offer) ← acceptedPair buyerId requestId offerId
    Proc.write fun s => s.saveOffer offerId { offer with status := .accepted, respondedAt := some now }
    Proc.write (rejectOffers now requestId (some offerId))
    Proc.write fun s => s.saveRequest requestId (fulfilledRequest now offerId note request)
    findRequestForBuyer buyerId requestId

def rejectionMessage (message note : Option String) : Option String :=
  match given note, given message with
  | none, _ => message
  | some note, none => some s!"Rejected: {note}"
  | some note, some message => some s!"{message}\nRejected: {note}"

/-- An offer as `rejectOffer` saves it. -/
def rejectedOffer (note : Option String) (offer : ProductRequestOffer) : ProductRequestOffer :=
  { offer with status := .rejected, respondedAt := some now, message := rejectionMessage offer.message note }

def rejectOffer (buyerId requestId offerId : ℕ) (note : Option String) : ProductRequestProc ProductRequestOffer := do
  let some offer ← Proc.read fun s : ProductRequestStore =>
      (s.offers.find offerId).filter fun offer => offer.requestId = requestId
    | throw (.notFound "Offer not found")
  let some request ← Proc.read fun s : ProductRequestStore => s.findRequest requestId
    | throw (.internal "Cannot read properties of null (reading 'buyerId')")
  .throwIf (request.buyerId ≠ buyerId) (.notFound "Offer not found")
  if offer.status = .accepted ∨ offer.status = .rejected then return offer
  else
    Proc.write fun s => s.saveOffer offerId (rejectedOffer now note offer)
    return rejectedOffer now note offer

/-- A request that is cancelled rejects the offers that await an answer. -/
def closeOffers (requestId : ℕ) (status : ProductRequestStatus) (s : ProductRequestStore) : ProductRequestStore :=
  if status = .cancelled then rejectOffers now requestId none s else s

def closedRequest (dto : UpdateProductRequestStatusDto) (request : ProductRequest) : ProductRequest :=
  { request with
    status := dto.status
    closedAt := some (dto.closedAt.getD now)
    acceptedOfferId := if dto.status = .cancelled then none else request.acceptedOfferId
    lastBuyerNote := (given dto.note).or request.lastBuyerNote }

def updateStatusAsBuyer (buyerId requestId : ℕ) (dto : UpdateProductRequestStatusDto) :
    ProductRequestProc ProductRequest := do
  .throwIf (dto.status ≠ .cancelled ∧ dto.status ≠ .fulfilled) (.badRequest "Status update not allowed")
  Proc.transaction do
    let request ← lockedRequest buyerId requestId
    if request.status = .cancelled ∨ request.status = .fulfilled then findRequestForBuyer buyerId requestId
    else
      Proc.write (closeOffers now requestId dto.status)
      Proc.write fun s => s.saveRequest requestId (closedRequest now dto request)
      findRequestForBuyer buyerId requestId

end ProductRequests

end SuuqBackend
