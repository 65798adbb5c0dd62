import SuuqBackend.Branches.InventoryLedger

/-!
# Branch transfers

`BranchTransfersService`: a transfer is requested, dispatched, and received or cancelled.  Dispatch
sets the quantities of its items aside in `outboundTransfers` of the origin; receive releases them and
moves the stock; cancel releases them if the transfer was dispatched.

`manager` says whether the caller passed its transaction; without one `dispatch`, `receive` and
`cancel` open their own.  A dispatch that leaves little to sell may lead to purchase orders: which
quantities the replenishment service puts on order is the parameter `replenish`, and they reach the
tables through `adjustInboundOpenPo`.
-/

namespace SuuqBackend

inductive BranchTransferStatus where
  | requested
  | dispatched
  | received
  | cancelled
deriving DecidableEq

structure BranchTransferItem where
  productId : ℕ
  quantity : ℤ
  note : Option String
  /-- Requests with a smaller quantity are not accepted. -/
  quantity_pos : 1 ≤ quantity
deriving DecidableEq

structure CreateBranchTransferDto where
  fromBranchId : ℕ
  toBranchId : ℕ
  note : Option String := none
  items : List BranchTransferItem

structure BranchTransferSource where
  sourceType : Option String := none
  sourceReferenceId : Option ℕ := none
  sourceEntryIndex : Option ℕ := none

/-- `statusMeta.lastTransition`. -/
structure StatusTransition where
  fromStatus : Option BranchTransferStatus
  toStatus : BranchTransferStatus
  actorId : Option ℕ
  note : Option String
  /-- `at`. -/
  date : Date
deriving DecidableEq

/-- A request that `assertTransferDraftIsValid` lets pass. -/
structure TransferDraft extends CreateBranchTransferDto where
  branches_ne : fromBranchId ≠ toBranchId
  items_nodup : (items.map BranchTransferItem.productId).Nodup

/-- A row of `branch_transfers` with its items, which are loaded and saved with it. -/
structure BranchTransfer where
  transferNumber : String
  fromBranchId : ℕ
  toBranchId : ℕ
  status : BranchTransferStatus
  note : Option String
  sourceType : Option String
  sourceReferenceId : Option ℕ
  sourceEntryIndex : Option ℕ
  requestedByUserId : Option ℕ
  requestedAt : Option Date
  dispatchedByUserId : Option ℕ
  dispatchedAt : Option Date
  receivedByUserId : Option ℕ
  receivedAt : Option Date
  cancelledByUserId : Option ℕ
  cancelledAt : Option Date
  statusMeta : StatusTransition
  items : List BranchTransferItem
  branches_ne : fromBranchId ≠ toBranchId
  items_nodup : (items.map BranchTransferItem.productId).Nodup
deriving DecidableEq

/-- The tables that the transfer service reads and writes. -/
structure TransferStore where
  inventory : InventoryStore
  transfers : SerialTable BranchTransfer

/-- A handler on the tables of the transfer service. -/
abbrev TransferProc : Type → Type := Proc TransferStore HttpException

def inventoryLens : Proc.Lens TransferStore InventoryStore where
  get s := s.inventory
  set s inventory := { s with inventory }

/-- A call of the inventory ledger. -/
def onInventory {α : Type} (p : InventoryProc α) : TransferProc α := Proc.zoom inventoryLens p

/-- A quantity of a product that a purchase order has on order. -/
structure InboundLine where
  productId : ℕ
  quantity : ℕ

/-- What the replenishment service puts on order for an inventory row that has become low. -/
abbrev Replenishment : Type := InventoryKey → BranchInventory → List InboundLine

namespace BranchTransfers

open InventoryRepository InventoryLedger

/-! ### Messages -/

variable (now : Date) (id : ℕ) (actorId : Option ℕ)

def transferNotFound : HttpException := .notFound s!"Branch transfer with ID {id} not found"

/-- The origin has less available than an item asks for. -/
def notEnoughAvailable (branchId : ℕ) (available : ℤ) (productId : ℕ) : HttpException :=
  .badRequest s!"Branch {branchId} has only {available} units available to transfer for product {productId}"

def newTransferNumber : String := s!"BT-{now}"

/-! ### Parts of the operations -/

/-- `branchTransfersRepository.findOne({ where: { id } })`, or the refusal. -/
def findOne : TransferProc BranchTransfer := do
  match ← Proc.read fun s : TransferStore => s.transfers.find id with
  | some transfer => return transfer
  | none => throw (transferNotFound id)

/-- `getRepository(BranchTransfer).save` of a transfer that was loaded. -/
def saveTransfer (transfer : BranchTransfer) : TransferProc Unit :=
  Proc.write fun s => { s with transfers := s.transfers.set id transfer }

def distinctProductIds (dto : CreateBranchTransferDto) : List ℕ :=
  (dto.items.map BranchTransferItem.productId).dedup

theorem items_nodup_of_length {dto : CreateBranchTransferDto} (h : (distinctProductIds dto).length = dto.items.length) :
    (dto.items.map BranchTransferItem.productId).Nodup := by
  have hsublist := List.dedup_sublist (dto.items.map BranchTransferItem.productId)
  have hlength : (dto.items.map BranchTransferItem.productId).dedup.length =
      (dto.items.map BranchTransferItem.productId).length := by
    rw [List.length_map]
    exact h
  rw [← hsublist.eq_of_length hlength]
  exact List.nodup_dedup _

def assertTransferDraftIsValid (dto : CreateBranchTransferDto) : TransferProc TransferDraft :=
  if hne : dto.fromBranchId = dto.toBranchId then
    throw (.badRequest "Branch transfer origin and destination must be different")
  else if hnodup : (distinctProductIds dto).length ≠ dto.items.length then
    throw (.badRequest "Branch transfer items must not contain duplicate productIds")
  else do
    let fromBranch ← onInventory (findBranch dto.fromBranchId)
    let toBranch ← onInventory (findBranch dto.toBranchId)
    let products ← Proc.read fun s : TransferStore =>
      (distinctProductIds dto).filter fun productId => productId ∈ s.inventory.products
    .throwIf fromBranch.isNone (.branchNotFound dto.fromBranchId)
    .throwIf toBranch.isNone (.branchNotFound dto.toBranchId)
    .throwIf (products.length ≠ (distinctProductIds dto).length)
      (.notFound "One or more branch transfer products were not found")
    return { dto with
      branches_ne := hne
      items_nodup := items_nodup_of_length (not_not.mp hnodup) }

def buildStatusMeta (fromStatus toStatus : BranchTransferStatus) (actorId : Option ℕ)
    (note : Option String) (now : Date) : StatusTransition where
  fromStatus := some fromStatus
  toStatus
  actorId
  note
  date := now

/-- The new row of `create`. -/
def requestedTransfer (draft : TransferDraft) (actorId : Option ℕ)
    (source : BranchTransferSource) : BranchTransfer where
  transferNumber := newTransferNumber now
  fromBranchId := draft.fromBranchId
  toBranchId := draft.toBranchId
  status := .requested
  note := draft.note
  sourceType := source.sourceType
  sourceReferenceId := source.sourceReferenceId
  sourceEntryIndex := source.sourceEntryIndex
  requestedByUserId := actorId
  requestedAt := some now
  dispatchedByUserId := none
  dispatchedAt := none
  receivedByUserId := none
  receivedAt := none
  cancelledByUserId := none
  cancelledAt := none
  statusMeta := { fromStatus := none, toStatus := .requested, actorId, note := none, date := now }
  items := draft.items
  branches_ne := draft.branches_ne
  items_nodup := draft.items_nodup

/-- `maybeCreateDraftPurchaseOrder`, as far as it reaches the inventory tables. -/
def maybeCreateDraftPurchaseOrder (replenish : Replenishment) (k : InventoryKey)
    (inventory : BranchInventory) : InventoryProc Unit :=
  if inventory.availableToSell > inventory.safetyStock then pure ()
  else Proc.forEach (replenish k inventory) fun line => do
    let _ ← adjustInboundOpenPo
      { branchId := k.branchId, productId := line.productId, quantityDelta := line.quantity }

def originKey (transfer : BranchTransfer) (item : BranchTransferItem) : InventoryKey :=
  ⟨transfer.fromBranchId, item.productId⟩

def destinationKey (transfer : BranchTransfer) (item : BranchTransferItem) : InventoryKey :=
  ⟨transfer.toBranchId, item.productId⟩

/-- What `dispatch` takes to be available, of the columns of the row. -/
def availableForTransfer (r : BranchInventory) : ℤ :=
  max (r.quantityOnHand - r.reservedQuantity - r.reservedOnline - r.reservedStoreOps
    - r.outboundTransfers - r.safetyStock) 0

/-- One round of the loop of `dispatch`. -/
def dispatchItem (replenish : Replenishment) (transfer : BranchTransfer) (item : BranchTransferItem) :
    InventoryProc Unit := do
  let inventory ← findInventory (originKey transfer item)
  let availableToSell := availableForTransfer (inventory.getD .zero)
  .throwIf (availableToSell < item.quantity) (notEnoughAvailable transfer.fromBranchId availableToSell item.productId)
  let projectedInventory ← adjustOutboundTransfers
    { branchId := transfer.fromBranchId
      productId := item.productId
      quantityDelta := item.quantity }
  maybeCreateDraftPurchaseOrder replenish (originKey transfer item) projectedInventory

def releaseItem (transfer : BranchTransfer) (item : BranchTransferItem) : InventoryProc Unit := do
  let _ ← adjustOutboundTransfers
    { branchId := transfer.fromBranchId
      productId := item.productId
      quantityDelta := -item.quantity }

/-- A movement of `receive`. -/
def transferMovementParams (branchId : ℕ) (item : BranchTransferItem) (quantityDelta : ℤ)
    (actorId : Option ℕ) (note : String) : RecordMovementParams where
  branchId
  productId := item.productId
  movementType := .transfer
  quantityDelta
  sourceType := "BRANCH_TRANSFER"
  sourceReferenceId := some id
  actorUserId := actorId
  note := some note

def outParams (transfer : BranchTransfer) (actorId : Option ℕ) (note : Option String)
    (item : BranchTransferItem) : RecordMovementParams :=
  transferMovementParams id transfer.fromBranchId item (-item.quantity) actorId
    (transferNote note "transfer-to" transfer.toBranchId)

def inParams (transfer : BranchTransfer) (actorId : Option ℕ) (note : Option String)
    (item : BranchTransferItem) : RecordMovementParams :=
  transferMovementParams id transfer.toBranchId item item.quantity actorId
    (transferNote note "transfer-from" transfer.fromBranchId)

/-- One round of the loop of `receive`. -/
def receiveItem (transfer : BranchTransfer) (actorId : Option ℕ)
    (note : Option String) (item : BranchTransferItem) : InventoryProc Unit := do
  releaseItem transfer item
  let _ ← recordMovement now (outParams id transfer actorId note item) true
  let _ ← recordMovement now (inParams id transfer actorId note item) true

/-! ### Operations -/

/-- `create`: the new id and the new row. -/
def create (dto : CreateBranchTransferDto) (actorId : Option ℕ)
    (source : BranchTransferSource) : TransferProc (ℕ × BranchTransfer) := do
  let draft ← assertTransferDraftIsValid dto
  let transfer := requestedTransfer now draft actorId source
  .step (fun s => { s with transfers := s.transfers.add transfer }) fun s => .done (s.transfers.next, transfer)

/-- The pattern of the three transitions: load the transfer, check its status, do what the transition
does to the inventory, save the new row. -/
def transition (refusal : BranchTransferStatus → Option HttpException)
    (execute : BranchTransfer → InventoryProc Unit) (next : BranchTransfer → BranchTransfer) :
    TransferProc BranchTransfer := do
  let transfer ← findOne id
  match refusal transfer.status with
  | some error => throw error
  | none =>
    onInventory (execute transfer)
    saveTransfer id (next transfer)
    return next transfer

def dispatchedTransfer (note : Option String) (transfer : BranchTransfer) : BranchTransfer :=
  { transfer with
    status := .dispatched
    dispatchedAt := some now
    dispatchedByUserId := actorId
    note := note <|> transfer.note
    statusMeta := buildStatusMeta .requested .dispatched actorId note now }

/-- The transaction of `dispatch`. -/
def dispatchWithin (note : Option String) (replenish : Replenishment) : TransferProc BranchTransfer :=
  transition id
    (fun status => if status ≠ .requested then
      some (.badRequest "Only requested branch transfers can be dispatched") else none)
    (fun transfer => Proc.forEach transfer.items (dispatchItem replenish transfer))
    (dispatchedTransfer now actorId note)

/-- The row after a receipt. -/
def receivedTransfer (note : Option String) (transfer : BranchTransfer) : BranchTransfer :=
  { transfer with
    status := .received
    receivedAt := some now
    receivedByUserId := actorId
    note := note <|> transfer.note
    statusMeta := buildStatusMeta .dispatched .received actorId note now }

/-- The transaction of `receive`. -/
def receiveWithin (note : Option String) : TransferProc BranchTransfer :=
  transition id
    (fun status => if status ≠ .dispatched then
      some (.badRequest "Only dispatched branch transfers can be received") else none)
    (fun transfer => Proc.forEach transfer.items (receiveItem now id transfer actorId note))
    (receivedTransfer now actorId note)

def cancelledTransfer (note : Option String) (transfer : BranchTransfer) : BranchTransfer :=
  { transfer with
    status := .cancelled
    cancelledAt := some now
    cancelledByUserId := actorId
    note := note <|> transfer.note
    statusMeta := buildStatusMeta transfer.status .cancelled actorId note now }

/-- The loop of `cancel`, which only a dispatched transfer needs. -/
def releaseItems (transfer : BranchTransfer) : InventoryProc Unit :=
  if transfer.status = .dispatched then Proc.forEach transfer.items (releaseItem transfer)
  else pure ()

/-- The transaction of `cancel`. -/
def cancelWithin (note : Option String) : TransferProc BranchTransfer :=
  transition id
    (fun status => if status ≠ .requested ∧ status ≠ .dispatched then
      some (.badRequest "Only requested or dispatched branch transfers can be cancelled") else none)
    releaseItems (cancelledTransfer now actorId note)

def dispatch (note : Option String) (replenish : Replenishment) (manager : Bool) : TransferProc BranchTransfer :=
  Proc.inTransaction manager (dispatchWithin now id actorId note replenish)

def receive (now : Date) (id : ℕ) (actorId : Option ℕ) (note : Option String) (manager : Bool) :
    TransferProc BranchTransfer :=
  Proc.inTransaction manager (receiveWithin now id actorId note)

def cancel (note : Option String) (manager : Bool) : TransferProc BranchTransfer :=
  Proc.inTransaction manager (cancelWithin now id actorId note)

end BranchTransfers

/-- A call of the transfer service, in a transaction of its own. -/
inductive TransferCall where
  | create (now : Date) (dto : CreateBranchTransferDto) (actorId : Option ℕ)
      (source : BranchTransferSource)
  | dispatch (now : Date) (id : ℕ) (actorId : Option ℕ) (note : Option String)
      (replenish : Replenishment)
  | receive (now : Date) (id : ℕ) (actorId : Option ℕ) (note : Option String)
  | cancel (now : Date) (id : ℕ) (actorId : Option ℕ) (note : Option String)

namespace TransferCall

/-- What the call does; of its result only the transfer is kept. -/
def handler : TransferCall → TransferProc BranchTransfer
  | create now dto actorId source => do
    let (_, transfer) ← BranchTransfers.create now dto actorId source
    return transfer
  | dispatch now id actorId note replenish =>
    BranchTransfers.dispatch now id actorId note replenish false
  | receive now id actorId note => BranchTransfers.receive now id actorId note false
  | cancel now id actorId note => BranchTransfers.cancel now id actorId note false

def step (s : TransferStore) (c : TransferCall) : TransferStore := (c.handler.run s).2

end TransferCall

end SuuqBackend
