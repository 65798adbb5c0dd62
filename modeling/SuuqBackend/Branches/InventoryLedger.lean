import SuuqBackend.Branches.InventoryStore

/-!
# The inventory ledger

`InventoryLedgerService`: every stock quantity of a branch is written here.  A movement changes the
quantity on hand and is kept in `stock_movements`; a projection adjustment changes one of the
buckets that are set aside; a stock transfer moves a quantity between two branches.  Each write
recomputes what the row has available to sell and then what the catalogue shows for the product.

`manager` says whether the caller passed its transaction; without one `recordMovement` opens its own
after it has checked that the branch and the product exist.  `now` is `new Date()`.
-/

namespace SuuqBackend

structure RecordMovementParams where
  branchId : ℕ
  productId : ℕ
  movementType : StockMovementType
  quantityDelta : ℤ
  sourceType : String
  sourceReferenceId : Option ℕ := none
  actorUserId : Option ℕ := none
  note : Option String := none
  occurredAt : Option Date := none
  lastPurchaseOrderId : Option ℕ := none

def RecordMovementParams.key (p : RecordMovementParams) : InventoryKey := ⟨p.branchId, p.productId⟩

/-- The stored form of the movement. -/
def RecordMovementParams.movement (p : RecordMovementParams) : StockMovement where
  branchId := p.branchId
  productId := p.productId
  movementType := p.movementType
  quantityDelta := p.quantityDelta
  sourceType := p.sourceType
  sourceReferenceId := p.sourceReferenceId
  actorUserId := p.actorUserId
  note := p.note

structure TransferMovementParams where
  fromBranchId : ℕ
  toBranchId : ℕ
  productId : ℕ
  quantity : ℤ
  sourceType : String
  sourceReferenceId : Option ℕ := none
  actorUserId : Option ℕ := none
  note : Option String := none

structure AdjustProjectionParams where
  branchId : ℕ
  productId : ℕ
  quantityDelta : ℤ

def AdjustProjectionParams.key (p : AdjustProjectionParams) : InventoryKey :=
  ⟨p.branchId, p.productId⟩

/-- The buckets that `adjustProjectionBucket` is called with. -/
inductive ProjectionBucket where
  | inboundOpenPo
  | reservedOnline
  | outboundTransfers
deriving DecidableEq

namespace ProjectionBucket

def name : ProjectionBucket → String
  | .inboundOpenPo => "inboundOpenPo"
  | .reservedOnline => "reservedOnline"
  | .outboundTransfers => "outboundTransfers"

/-- `inventory[bucket]`. -/
def get : ProjectionBucket → BranchInventory → ℤ
  | .inboundOpenPo, r => r.inboundOpenPo
  | .reservedOnline, r => r.reservedOnline
  | .outboundTransfers, r => r.outboundTransfers

/-- `inventory[bucket] = value`. -/
def set : ProjectionBucket → BranchInventory → ℤ → BranchInventory
  | .inboundOpenPo, r, v => { r with inboundOpenPo := v }
  | .reservedOnline, r, v => { r with reservedOnline := v }
  | .outboundTransfers, r, v => { r with outboundTransfers := v }

end ProjectionBucket

/-- What `recordMovement` returns. -/
structure MovementResult where
  inventory : BranchInventory
  movement : StockMovement

namespace InventoryLedger

open InventoryRepository

/-! ### Messages -/

variable (branchId : ℕ) (now : Date)

/-- A movement would take more than there is. -/
def onHandNegative (productId : ℕ) : HttpException :=
  .badRequest s!"Inventory for branch {branchId} and product {productId} cannot go negative"

/-- An adjustment would take more than the bucket holds. -/
def bucketNegative (bucket : String) (branchId productId : ℕ) : HttpException :=
  .badRequest s!"{bucket} for branch {branchId} and product {productId} cannot go negative"

/-- A stock transfer would take more than there is. -/
def notEnoughStock (quantity : ℤ) (productId : ℕ) : HttpException :=
  .badRequest s!"Branch {branchId} does not have enough stock to transfer {quantity} units of product {productId}"

/-- The note of the two movements of a transfer: the caller's note, if it is not empty, before the
direction. -/
def transferNote (note : Option String) (direction : String) (branchId : ℕ) : String :=
  let suffix := s!"{direction}:{branchId}"
  match note with
  | none | some "" => suffix
  | some text => s!"{text} | {suffix}"

/-! ### Parts of the operations -/

def applyAvailabilityProjection (r : BranchInventory) : BranchInventory :=
  { r with
    availableToSell :=
      max (r.quantityOnHand - r.reservedQuantity - r.reservedOnline - r.reservedStoreOps
        - r.outboundTransfers - r.safetyStock) 0 }

def ensureBranchAndProduct (productId : ℕ) : InventoryProc Unit := do
  let branch ← findBranch branchId
  let product ← findProduct productId
  .throwIf branch.isNone (.branchNotFound branchId)
  .throwIf product.isNone (.productNotFound productId)

def loadOrCreateInventory (k : InventoryKey) : InventoryProc InventoryEntity := do
  match ← findInventory k with
  | some row => return { persisted := true, row }
  | none => return { persisted := false, row := .zero }

def syncProductStockQuantity (productId : ℕ) : InventoryProc Unit := do
  let rows ← findRowsOfProduct productId
  if rows.card = 0 then return
  let totalAvailable := (rows.map fun r => max 0 r.availableToSell).sum
  updateStockQuantity productId totalAvailable

/-- The row after a movement, before its projection. -/
def applyMovement (p : RecordMovementParams) (r : BranchInventory) : BranchInventory :=
  let moved := { r with
    quantityOnHand := r.quantityOnHand + p.quantityDelta, version := r.version + 1 }
  if p.movementType = .purchaseReceipt then
    { moved with
      lastReceivedAt := some (p.occurredAt.getD now), lastPurchaseOrderId := p.lastPurchaseOrderId }
  else moved

def recordMovementWithManager (p : RecordMovementParams) : InventoryProc MovementResult := do
  let inventory ← loadOrCreateInventory p.key
  let nextOnHand := inventory.row.quantityOnHand + p.quantityDelta
  .throwIf (nextOnHand < 0) (onHandNegative p.branchId p.productId)
  let row := applyAvailabilityProjection (applyMovement now p inventory.row)
  let savedInventory ← saveInventory p.key { inventory with row }
  saveMovement p.movement
  syncProductStockQuantity p.productId
  return { inventory := savedInventory.row, movement := p.movement }

def adjustProjectionBucket (bucket : ProjectionBucket) (p : AdjustProjectionParams) :
    InventoryProc BranchInventory := do
  let inventory ← loadOrCreateInventory p.key
  let nextValue := bucket.get inventory.row + p.quantityDelta
  .throwIf (nextValue < 0) (bucketNegative bucket.name p.branchId p.productId)
  let row := bucket.set inventory.row nextValue
  let row := applyAvailabilityProjection { row with version := row.version + 1 }
  let saved ← saveInventory p.key { inventory with row }
  syncProductStockQuantity p.productId
  return saved.row

/-! ### Operations -/

/-- `getOnHand` and `getOnHandWithManager`. -/
def getOnHand (productId : ℕ) : InventoryProc ℤ := do
  let inventory ← findInventory ⟨branchId, productId⟩
  return (inventory.map BranchInventory.quantityOnHand).getD 0

def adjustInboundOpenPo (p : AdjustProjectionParams) : InventoryProc BranchInventory := do
  ensureBranchAndProduct p.branchId p.productId
  adjustProjectionBucket .inboundOpenPo p

def adjustReservedOnline (p : AdjustProjectionParams) : InventoryProc BranchInventory := do
  ensureBranchAndProduct p.branchId p.productId
  adjustProjectionBucket .reservedOnline p

def adjustOutboundTransfers (p : AdjustProjectionParams) : InventoryProc BranchInventory := do
  ensureBranchAndProduct p.branchId p.productId
  adjustProjectionBucket .outboundTransfers p

/-- The branch of `recordMovement` for a movement of nothing: the row is created when there is
none, and the movement is built but not stored. -/
def recordNothing (p : RecordMovementParams) : InventoryProc MovementResult := do
  let inventory ← loadOrCreateInventory p.key
  if inventory.persisted then
    return { inventory := inventory.row, movement := p.movement }
  let inventory ← saveInventory p.key
    { inventory with row := applyAvailabilityProjection inventory.row }
  return { inventory := inventory.row, movement := p.movement }

def recordMovement (p : RecordMovementParams) (manager : Bool) : InventoryProc MovementResult :=
  if p.quantityDelta = 0 then recordNothing p
  else do
    ensureBranchAndProduct p.branchId p.productId
    if manager then recordMovementWithManager now p
    else Proc.transaction (recordMovementWithManager now p)

def transferMovement (p : TransferMovementParams) (branchId : ℕ) (quantityDelta : ℤ)
    (direction : String) (otherBranchId : ℕ) : StockMovement where
  branchId
  productId := p.productId
  movementType := .transfer
  quantityDelta
  sourceType := p.sourceType
  sourceReferenceId := p.sourceReferenceId
  actorUserId := p.actorUserId
  note := transferNote p.note direction otherBranchId

/-- The transaction of `transferStock`. -/
def transferStockWithManager (p : TransferMovementParams) : InventoryProc Unit := do
  let debitKey : InventoryKey := ⟨p.fromBranchId, p.productId⟩
  let creditKey : InventoryKey := ⟨p.toBranchId, p.productId⟩
  let debitInventory ← loadOrCreateInventory debitKey
  let creditInventory ← loadOrCreateInventory creditKey
  let debit := debitInventory.row
  .throwIf (debit.quantityOnHand < p.quantity) (notEnoughStock p.fromBranchId p.quantity p.productId)
  let debit := applyAvailabilityProjection
    { debit with outboundTransfers := debit.outboundTransfers + p.quantity }
  let debitInventory ← saveInventory debitKey { debitInventory with row := debit }
  let debit := applyAvailabilityProjection
    { debit with
      quantityOnHand := debit.quantityOnHand - p.quantity
      outboundTransfers := max (debit.outboundTransfers - p.quantity) 0
      version := debit.version + 1 }
  let credit := creditInventory.row
  let credit := applyAvailabilityProjection
    { credit with
      quantityOnHand := credit.quantityOnHand + p.quantity
      version := credit.version + 1 }
  let _ ← saveInventory debitKey { debitInventory with row := debit }
  let _ ← saveInventory creditKey { creditInventory with row := credit }
  syncProductStockQuantity p.productId
  saveMovement (transferMovement p p.fromBranchId (-p.quantity) "transfer-to" p.toBranchId)
  saveMovement (transferMovement p p.toBranchId p.quantity "transfer-from" p.fromBranchId)

def transferStock (p : TransferMovementParams) : InventoryProc Unit := do
  .throwIf (p.quantity ≤ 0) (.badRequest "Transfer quantity must be greater than zero")
  .throwIf (p.fromBranchId = p.toBranchId) (.badRequest "Transfer branches must be different")
  ensureBranchAndProduct p.fromBranchId p.productId
  ensureBranchAndProduct p.toBranchId p.productId
  Proc.transaction (transferStockWithManager p)

end InventoryLedger

inductive LedgerCall where
  | recordMovement (now : Date) (p : RecordMovementParams) (manager : Bool)
  | transferStock (p : TransferMovementParams)
  | adjustInboundOpenPo (p : AdjustProjectionParams)
  | adjustReservedOnline (p : AdjustProjectionParams)
  | adjustOutboundTransfers (p : AdjustProjectionParams)

namespace LedgerCall

def handler : LedgerCall → InventoryProc Unit
  | recordMovement now p manager => do let _ ← InventoryLedger.recordMovement now p manager
  | transferStock p => InventoryLedger.transferStock p
  | adjustInboundOpenPo p => do let _ ← InventoryLedger.adjustInboundOpenPo p
  | adjustReservedOnline p => do let _ ← InventoryLedger.adjustReservedOnline p
  | adjustOutboundTransfers p => do let _ ← InventoryLedger.adjustOutboundTransfers p

/-- The store after the call, whether it succeeds or throws. -/
def step (s : InventoryStore) (c : LedgerCall) : InventoryStore := (c.handler.run s).2

def Succeeds (c : LedgerCall) (s : InventoryStore) : Prop := (c.handler.run s).1 = .ok ()
deriving Decidable

end LedgerCall

end SuuqBackend
