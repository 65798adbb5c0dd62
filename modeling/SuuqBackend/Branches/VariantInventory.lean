import SuuqBackend.Branches.InventoryLedger
import Mathlib.Data.Rat.Floor

/-!
# The stock of variants

`VariantInventoryService`: a product with variants has a stock row for each variant and branch beside
its own row, which is to show the sum of them.  A variant movement writes the variant's row and then
records the same movement of the product in the inventory ledger; `reconcileProductFromVariants`
records whatever movement of the product makes up the difference.

The three operations open a transaction of their own unless the caller passes one (`manager`).
-/

namespace SuuqBackend

/-- The unique index of `branch_inventory_variant`. -/
structure VariantKey where
  branchId : ℕ
  variantId : ℕ
deriving DecidableEq

/-- The columns of a row of `branch_inventory_variant` beside its key. -/
structure BranchInventoryVariant where
  productId : ℕ
  quantityOnHand : ℤ
  reservedQuantity : ℤ
  safetyStock : ℤ
  availableToSell : ℤ
  version : ℤ

/-- The tables that the variant service reads and writes. -/
structure VariantStore where
  inventory : InventoryStore
  /-- The ids in `product_variant`, which the rows refer to. -/
  productVariants : Finset ℕ
  variants : Table VariantKey BranchInventoryVariant

/-- A handler on the tables of the variant service. -/
abbrev VariantProc : Type → Type := Proc VariantStore HttpException

structure RecordVariantMovementParams where
  branchId : ℕ
  productId : ℕ
  variantId : ℕ
  quantityDelta : ℤ
  movementType : StockMovementType
  sourceType : String
  sourceReferenceId : Option ℕ := none
  actorUserId : Option ℕ := none
  note : Option String := none
  occurredAt : Option Date := none

def RecordVariantMovementParams.key (p : RecordVariantMovementParams) : VariantKey :=
  ⟨p.branchId, p.variantId⟩

/-- The parameters of `setVariantOnHand`. -/
structure SetVariantOnHandParams where
  branchId : ℕ
  productId : ℕ
  variantId : ℕ
  quantity : ℚ
  sourceType : String
  actorUserId : Option ℕ := none
  note : Option String := none

namespace VariantInventory

open InventoryLedger

def ledgerLens : Proc.Lens VariantStore InventoryStore where
  get s := s.inventory
  set s inventory := { s with inventory }

def onLedger {α : Type} (p : InventoryProc α) : VariantProc α := Proc.zoom ledgerLens p

/-- A variant movement would take more than there is. -/
def variantNegative (variantId branchId : ℕ) : HttpException :=
  .badRequest s!"Variant {variantId} stock at branch {branchId} cannot go negative"

def applyVariantProjection (row : BranchInventoryVariant) : BranchInventoryVariant :=
  let available := row.quantityOnHand - row.reservedQuantity - row.safetyStock
  { row with availableToSell := if available > 0 then available else 0 }

/-- The row that `recordVariantMovement` completes when there is none. -/
def newVariant (productId : ℕ) : BranchInventoryVariant where
  productId
  quantityOnHand := 0
  reservedQuantity := 0
  safetyStock := 0
  availableToSell := 0
  version := 0

/-- `variantRepo.findOne({ where: { branchId, variantId } })`. -/
def findVariant (k : VariantKey) : VariantProc (Option BranchInventoryVariant) :=
  Proc.read fun s => s.variants.lookup k

/-- What the database objects to when the row is saved: a new row must refer to a branch and a variant
that exist. -/
def saveVariantError (k : VariantKey) (persisted : Bool) (s : VariantStore) : Option HttpException :=
  if persisted then none
  else if k ∈ s.variants then
    some (.queryFailed "duplicate key value violates unique constraint")
  else if k.branchId ∈ s.inventory.branches ∧ k.variantId ∈ s.productVariants then none
  else some (.queryFailed "insert or update on table violates foreign key constraint")

/-- `variantRepo.save(row)`. -/
def saveVariant (k : VariantKey) (persisted : Bool) (row : BranchInventoryVariant) : VariantProc Unit :=
  .step
    (fun s => match saveVariantError k persisted s with
      | none => { s with variants := s.variants.insert k row }
      | some _ => s)
    fun s => match saveVariantError k persisted s with
      | none => .done ()
      | some error => .fail error

/-- The movement of the product that goes with a movement of a variant. -/
def cascadeParams (p : RecordVariantMovementParams) : RecordMovementParams where
  branchId := p.branchId
  productId := p.productId
  movementType := p.movementType
  quantityDelta := p.quantityDelta
  sourceType := p.sourceType
  sourceReferenceId := p.sourceReferenceId
  actorUserId := p.actorUserId
  note := some (p.note.getD s!"variant:{p.variantId}")
  occurredAt := p.occurredAt

/-- `recordVariantMovement` with a manager. -/
def recordVariantMovementWithin (now : Date) (p : RecordVariantMovementParams) :
    VariantProc BranchInventoryVariant := do
  let found ← findVariant p.key
  let row := found.getD (newVariant p.productId)
  let nextOnHand := row.quantityOnHand + p.quantityDelta
  .throwIf (nextOnHand < 0) (variantNegative p.variantId p.branchId)
  let row := applyVariantProjection
    { row with quantityOnHand := nextOnHand, version := row.version + 1 }
  saveVariant p.key found.isSome row
  if p.quantityDelta ≠ 0 then
    let _ ← onLedger (recordMovement now (cascadeParams p) true)
  return row

/-- `Math.trunc`. -/
def trunc (q : ℚ) : ℤ := if 0 ≤ q then ⌊q⌋ else ⌈q⌉

/-- The movement of `setVariantOnHand`, from what the row holds. -/
def setParams (p : SetVariantOnHandParams) (current : ℤ) : RecordVariantMovementParams where
  branchId := p.branchId
  productId := p.productId
  variantId := p.variantId
  quantityDelta := max 0 (trunc p.quantity) - current
  movementType := .adjustment
  sourceType := p.sourceType
  actorUserId := p.actorUserId
  note := some (p.note.getD s!"variant-seed:{p.variantId}")

/-- `setVariantOnHand` with a manager. -/
def setVariantOnHandWithin (now : Date) (p : SetVariantOnHandParams) : VariantProc BranchInventoryVariant := do
  let existing ← findVariant ⟨p.branchId, p.variantId⟩
  let current := (existing.map BranchInventoryVariant.quantityOnHand).getD 0
  recordVariantMovementWithin now (setParams p current)

end VariantInventory

def VariantStore.variantRows (s : VariantStore) (branchId productId : ℕ) : Multiset BranchInventoryVariant :=
  (s.variants.entries.filter fun e => e.1.branchId = branchId ∧ e.2.productId = productId).map fun e => e.2

namespace VariantInventory

open InventoryRepository InventoryLedger

variable (now : Date) (branchId : ℕ)

/-- The movement that makes up the difference. -/
def reconcileParams (productId : ℕ) (variantSum current : ℤ) : RecordMovementParams where
  branchId
  productId
  movementType := .adjustment
  quantityDelta := variantSum - current
  sourceType := "VARIANT_RECONCILE"
  note := some s!"reconcile product on-hand to variant sum ({variantSum})"

/-- `reconcileProductFromVariants` with a manager. -/
def reconcileProductFromVariantsWithin (productId : ℕ) : VariantProc ℤ := do
  let variants ← Proc.read fun s : VariantStore => s.variantRows branchId productId
  let variantSum := (variants.map BranchInventoryVariant.quantityOnHand).sum
  let inventory ← onLedger (findInventory ⟨branchId, productId⟩)
  let current := (inventory.map BranchInventory.quantityOnHand).getD 0
  if variantSum - current ≠ 0 then
    let _ ← onLedger (recordMovement now (reconcileParams branchId productId variantSum current) true)
  return variantSum

def recordVariantMovement (p : RecordVariantMovementParams) (manager : Bool) : VariantProc BranchInventoryVariant :=
  Proc.inTransaction manager (recordVariantMovementWithin now p)

def setVariantOnHand (p : SetVariantOnHandParams) (manager : Bool) : VariantProc BranchInventoryVariant :=
  Proc.inTransaction manager (setVariantOnHandWithin now p)

def reconcileProductFromVariants (productId : ℕ) (manager : Bool) : VariantProc ℤ :=
  Proc.inTransaction manager (reconcileProductFromVariantsWithin now branchId productId)

end VariantInventory

/-- A call of the variant service, in a transaction of its own, or a movement of the product that does
not come from it. -/
inductive VariantCall where
  | recordVariantMovement (now : Date) (p : RecordVariantMovementParams)
  | setVariantOnHand (now : Date) (p : SetVariantOnHandParams)
  | reconcileProductFromVariants (now : Date) (branchId productId : ℕ)
  | recordMovement (now : Date) (p : RecordMovementParams) (manager : Bool)

namespace VariantCall

def handler : VariantCall → VariantProc Unit
  | recordVariantMovement now p => do
    let _ ← VariantInventory.recordVariantMovement now p false
  | setVariantOnHand now p => do
    let _ ← VariantInventory.setVariantOnHand now p false
  | reconcileProductFromVariants now branchId productId => do
    let _ ← VariantInventory.reconcileProductFromVariants now branchId productId false
  | recordMovement now p manager => do
    let _ ← VariantInventory.onLedger (InventoryLedger.recordMovement now p manager)

def step (s : VariantStore) (c : VariantCall) : VariantStore := (c.handler.run s).2

def Succeeds (c : VariantCall) (s : VariantStore) : Prop := (c.handler.run s).1 = .ok ()
deriving Decidable

end VariantCall

end SuuqBackend
