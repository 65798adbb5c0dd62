import SuuqBackend.Lib.Proc
import SuuqBackend.Lib.Table
import SuuqBackend.Common.HttpException

/-!
# The tables under the inventory ledger

`branches`, `products`, `branch_inventory` and `stock_movements` with the columns that the branch
services read or write, and the repository calls on them as atomic actions.

`branch_inventory` has a unique index on `(branchId, productId)`, so it is a table with that pair
as its key.  An entity that has been loaded or saved carries its row id and is saved by an update;
one from `create` is inserted, and the insert fails when a row of that key has appeared meanwhile.
`InventoryEntity.persisted` is that difference.
-/

namespace SuuqBackend

/-- A point in time, in milliseconds. -/
abbrev Date : Type := ℤ

structure Branch where
  retailTenantId : Option ℕ
deriving DecidableEq

/-- A row of `products`: its catalogue stock and whether sales draw on it. -/
structure Product where
  stockQuantity : Option ℤ
  manageStock : Bool
deriving DecidableEq

/-- The unique index of `branch_inventory`. -/
structure InventoryKey where
  branchId : ℕ
  productId : ℕ
deriving DecidableEq

/-- The columns of a row of `branch_inventory` beside its key. -/
structure BranchInventory where
  quantityOnHand : ℤ
  reservedQuantity : ℤ
  reservedOnline : ℤ
  reservedStoreOps : ℤ
  inboundOpenPo : ℤ
  outboundTransfers : ℤ
  safetyStock : ℤ
  availableToSell : ℤ
  version : ℤ
  lastReceivedAt : Option Date
  lastPurchaseOrderId : Option ℕ
deriving DecidableEq

/-- The values that the services give to `create`. -/
def BranchInventory.zero : BranchInventory where
  quantityOnHand := 0
  reservedQuantity := 0
  reservedOnline := 0
  reservedStoreOps := 0
  inboundOpenPo := 0
  outboundTransfers := 0
  safetyStock := 0
  availableToSell := 0
  version := 0
  lastReceivedAt := none
  lastPurchaseOrderId := none

inductive StockMovementType where
  | purchaseReceipt
  | transfer
  | sale
  | adjustment
deriving DecidableEq

structure StockMovement where
  branchId : ℕ
  productId : ℕ
  movementType : StockMovementType
  quantityDelta : ℤ
  sourceType : String
  sourceReferenceId : Option ℕ
  actorUserId : Option ℕ
  note : Option String
deriving DecidableEq

def StockMovement.key (m : StockMovement) : InventoryKey := ⟨m.branchId, m.productId⟩

/-- The tables that the inventory ledger reads and writes. -/
structure InventoryStore where
  branches : Table ℕ Branch
  products : Table ℕ Product
  inventory : Table InventoryKey BranchInventory
  movements : List StockMovement

namespace InventoryStore

/-- The row at `k`, as the services complete it when there is none. -/
def row (s : InventoryStore) (k : InventoryKey) : BranchInventory :=
  (s.inventory.lookup k).getD .zero

/-- Write the row at `k`. -/
def putRow (s : InventoryStore) (k : InventoryKey) (r : BranchInventory) : InventoryStore :=
  { s with inventory := s.inventory.insert k r }

def addMovement (s : InventoryStore) (m : StockMovement) : InventoryStore :=
  { s with movements := s.movements ++ [m] }

/-- `productRepo.update({ id }, { stockQuantity })`: without effect when the product is missing. -/
def setStockQuantity (s : InventoryStore) (productId : ℕ) (quantity : ℤ) : InventoryStore :=
  match s.products.lookup productId with
  | some p => { s with products := s.products.insert productId { p with stockQuantity := quantity } }
  | none => s

/-- The branch and the product of the key exist. -/
def Known (s : InventoryStore) (k : InventoryKey) : Prop :=
  k.branchId ∈ s.branches ∧ k.productId ∈ s.products
deriving Decidable

def HasRows (s : InventoryStore) (productId : ℕ) : Prop :=
  ∃ b, (⟨b, productId⟩ : InventoryKey) ∈ s.inventory

def rowsOfProduct (s : InventoryStore) (productId : ℕ) : Multiset BranchInventory :=
  (s.inventory.entries.filter fun e => e.1.productId = productId).map fun e => e.2

/-- The sum of `f` over the rows of a product. -/
def productTotal (s : InventoryStore) (productId : ℕ) (f : BranchInventory → ℤ) : ℤ :=
  ((s.rowsOfProduct productId).map f).sum

def movementSum (s : InventoryStore) (k : InventoryKey) : ℤ :=
  ((s.movements.filter fun m => m.key = k).map StockMovement.quantityDelta).sum

end InventoryStore

/-! ### Repository calls -/

/-- A handler on the tables of the inventory ledger. -/
abbrev InventoryProc : Type → Type := Proc InventoryStore HttpException

structure InventoryEntity where
  /-- The entity has a row id: it was loaded or saved. -/
  persisted : Bool
  row : BranchInventory

namespace InventoryRepository

/-- `branchesRepository.findOne({ where: { id } })`. -/
def findBranch (branchId : ℕ) : InventoryProc (Option Branch) :=
  Proc.read fun s => s.branches.lookup branchId

/-- `productsRepository.findOne({ where: { id } })`. -/
def findProduct (productId : ℕ) : InventoryProc (Option Product) :=
  Proc.read fun s => s.products.lookup productId

/-- `inventoryRepository.findOne({ where: { branchId, productId } })`. -/
def findInventory (k : InventoryKey) : InventoryProc (Option BranchInventory) :=
  Proc.read fun s => s.inventory.lookup k

/-- What the database objects to when the entity is saved: an insert must not repeat a key, and its
branch and product must exist. -/
def saveError (k : InventoryKey) (e : InventoryEntity) (s : InventoryStore) : Option HttpException :=
  if e.persisted then none
  else if k ∈ s.inventory then
    some (.queryFailed "duplicate key value violates unique constraint")
  else if s.Known k then none
  else some (.queryFailed "insert or update on table violates foreign key constraint")

/-- `inventoryRepository.save(entity)`. -/
def saveInventory (k : InventoryKey) (e : InventoryEntity) : InventoryProc InventoryEntity :=
  .step
    (fun s => match saveError k e s with
      | none => s.putRow k e.row
      | some _ => s)
    fun s => match saveError k e s with
      | none => .done { e with persisted := true }
      | some error => .fail error

/-- `stockMovementRepository.save(movement)`. -/
def saveMovement (m : StockMovement) : InventoryProc Unit := Proc.write fun s => s.addMovement m

/-- `inventoryRepo.find({ where: { productId } })`, in no particular order. -/
def findRowsOfProduct (productId : ℕ) : InventoryProc (Multiset BranchInventory) :=
  Proc.read fun s => s.rowsOfProduct productId

/-- `productRepo.update({ id }, { stockQuantity })`. -/
def updateStockQuantity (productId : ℕ) (quantity : ℤ) : InventoryProc Unit :=
  Proc.write fun s => s.setStockQuantity productId quantity

end InventoryRepository

end SuuqBackend
