import SuuqBackend.Accounting.GeneralLedger
import SuuqBackend.Common.Numeric
import SuuqBackend.Lib.Table

/-!
# The tables of branch billing

`branch_expenses`, `branch_fixed_assets`, `branch_depreciation_entries`, `branch_accrued_liabilities` and
`branch_long_term_debts`, beside the general ledger.  The rows of depreciation refer to their asset with
`onDelete: 'CASCADE'`: the database deletes them with it.
-/

namespace SuuqBackend

inductive BranchExpenseCategory where
  | rent
  | utilities
  | payroll
  | supplies
  | marketing
  | maintenance
  | taxes
  | other
deriving DecidableEq

def BranchExpenseCategory.text : BranchExpenseCategory → String
  | rent => "RENT"
  | utilities => "UTILITIES"
  | payroll => "PAYROLL"
  | supplies => "SUPPLIES"
  | marketing => "MARKETING"
  | maintenance => "MAINTENANCE"
  | taxes => "TAXES"
  | other => "OTHER"

structure BranchExpense where
  branchId : ℕ
  category : BranchExpenseCategory
  amount : Numeric2
  currency : String
  occurredAt : ℤ
  note : Option String
  recordedByUserId : ℕ

inductive BranchFixedAssetCategory where
  | equipment
  | furniture
  | vehicle
  | leaseholdImprovement
  | technology
  | other
deriving DecidableEq

inductive BranchFixedAssetStatus where
  | active
  | disposed
deriving DecidableEq

structure BranchFixedAsset where
  branchId : ℕ
  name : String
  category : BranchFixedAssetCategory
  status : BranchFixedAssetStatus
  acquiredAt : ℤ
  capitalizationAmount : Numeric2
  salvageValue : Numeric2
  usefulLifeMonths : Option ℤ
  currency : String
  note : Option String

structure BranchDepreciationEntry where
  branchId : ℕ
  fixedAssetId : ℕ
  amount : Numeric2
  occurredAt : ℤ
  note : Option String
  recordedByUserId : ℕ

inductive BranchAccruedLiabilityCategory where
  | payroll
  | rent
  | utilities
  | tax
  | interest
  | other
deriving DecidableEq

def BranchAccruedLiabilityCategory.text : BranchAccruedLiabilityCategory → String
  | payroll => "PAYROLL"
  | rent => "RENT"
  | utilities => "UTILITIES"
  | tax => "TAX"
  | interest => "INTEREST"
  | other => "OTHER"

inductive BranchAccruedLiabilityStatus where
  | opened
  | settled
deriving DecidableEq

structure BranchAccruedLiability where
  branchId : ℕ
  label : String
  category : BranchAccruedLiabilityCategory
  status : BranchAccruedLiabilityStatus
  amount : Numeric2
  accruedAt : ℤ
  dueAt : Option ℤ
  settledAt : Option ℤ := none
  currency : String
  note : Option String

inductive BranchLongTermDebtStatus where
  | active
  | settled
deriving DecidableEq

structure BranchLongTermDebt where
  branchId : ℕ
  lenderName : String
  status : BranchLongTermDebtStatus
  principalAmount : Numeric2
  outstandingPrincipal : Numeric2
  currentPortionAmount : Numeric2
  interestRate : Option ℚ
  issuedAt : ℤ
  maturityAt : Option ℤ
  currency : String
  note : Option String

/-- The tables of branch billing, with the general ledger. -/
structure BillingStore where
  expenses : SerialTable BranchExpense
  fixedAssets : SerialTable BranchFixedAsset
  depreciationEntries : SerialTable BranchDepreciationEntry
  accruedLiabilities : SerialTable BranchAccruedLiability
  longTermDebts : SerialTable BranchLongTermDebt
  ledger : GlStore

abbrev BillingProc : Type → Type := Proc BillingStore HttpException

namespace BillingStore

/-- The general ledger among the tables. -/
def ledgerLens : Proc.Lens BillingStore GlStore where
  get S := S.ledger
  set S ledger := { S with ledger }

/-- No records yet, beside a general ledger. -/
def start (ledger : GlStore) : BillingStore where
  expenses := .empty
  fixedAssets := .empty
  depreciationEntries := .empty
  accruedLiabilities := .empty
  longTermDebts := .empty
  ledger

/-- `fixedAssetsRepo.remove`: the depreciation of the asset goes with it. -/
def removeFixedAsset (S : BillingStore) (assetId : ℕ) : BillingStore :=
  { S with
    fixedAssets := S.fixedAssets.remove assetId
    depreciationEntries := S.depreciationEntries.filter fun entry => entry.fixedAssetId ≠ assetId }

end BillingStore

end SuuqBackend

/-!
## The records of branch billing

`BranchBillingService`: the expenses, fixed assets, accrued liabilities and long-term debts of a branch, and the
depreciation of its assets.  Creating a record posts a pair of lines to the general ledger, settling a liability
another one, and deleting a record reverses the entry that its creation has posted.  The ledger is the second
place: none of its failures reaches the caller.

`now` is `new Date()`, in milliseconds.
-/

namespace SuuqBackend.BranchBilling

open GeneralLedger

/-! ### The general ledger -/

def expenseAccountFor (category : String) : GlAccountCode :=
  match category.toUpper with
  | "RENT" => .expenseRent
  | "UTILITIES" => .expenseUtilities
  | "PAYROLL" => .expensePayroll
  | "SUPPLIES" => .expenseSupplies
  | "MARKETING" => .expenseMarketing
  | "MAINTENANCE" => .expenseMaintenance
  | "TAX" | "TAXES" => .expenseTaxes
  | "INTEREST" => .expenseInterest
  | _ => .expenseOther

/-- `dto.currency || 'ETB'`. -/
def currencyOr (currency : Option String) : String :=
  match currency with
  | none | some "" => "ETB"
  | some currency => currency

/-- The argument of `postLedger`. -/
structure LedgerPosting where
  branchId : ℕ
  occurredAt : ℤ
  sourceType : GlJournalSourceType
  sourceId : String
  idempotencyKey : String
  currency : String
  memo : String
  debit : GlAccountCode
  credit : GlAccountCode
  amount : ℚ

def LedgerPosting.entry (input : LedgerPosting) : PostJournalEntryInput where
  branchId := input.branchId
  occurredAt := input.occurredAt
  sourceType := input.sourceType
  sourceId := some input.sourceId
  idempotencyKey := input.idempotencyKey
  currency := some (currencyOr (some input.currency))
  memo := some input.memo
  lines :=
    [{ accountCode := input.debit.code, debit := some (round2 input.amount) },
      { accountCode := input.credit.code, credit := some (round2 input.amount) }]

variable (now : ℤ) (branchId userId : ℕ)

def postLedger (input : LedgerPosting) : BillingProc Unit := do
  if round2 input.amount ≤ 0 then return
  let _ : Except HttpException GlJournalEntry ←
    Proc.attempt (Proc.zoom BillingStore.ledgerLens (post now input.entry false))

def reversalOptions (idempotencyKey : String) (occurredAt : Option ℤ) : ReverseOptions where
  sourceType := .manual
  idempotencyKey := s!"reverse-{idempotencyKey}"
  occurredAt := some (occurredAt.getD now)
  memo := some s!"Reversal of {idempotencyKey}"

/-- What `reverseLedger` tries. -/
def reverseEntry (idempotencyKey : String) (occurredAt : Option ℤ) : GlProc Unit := do
  match ← findEntryByKey branchId idempotencyKey with
  | none => return
  | some entry =>
    let _ ← reverse now entry.id (reversalOptions now idempotencyKey occurredAt)

/-- `reverseLedger`: "Reverse a previously-posted entry when its source row is deleted." -/
def reverseLedger (idempotencyKey : String) (occurredAt : Option ℤ) : BillingProc Unit := do
  let _ : Except HttpException Unit ←
    Proc.attempt (Proc.zoom BillingStore.ledgerLens (reverseEntry now branchId idempotencyKey occurredAt))

def recordNotFound (record : String) (id branchId : ℕ) : HttpException :=
  .notFound s!"{record} #{id} not found for branch #{branchId}."

/-! ### Expenses -/

/-- The `dto` of `createBranchExpense`. -/
structure BranchExpenseDto where
  category : BranchExpenseCategory
  amount : ℚ
  currency : Option String := none
  occurredAt : Option ℤ := none
  note : Option String := none

def newExpense (dto : BranchExpenseDto) : BranchExpense where
  branchId
  category := dto.category
  amount := .ofRat dto.amount
  currency := currencyOr dto.currency
  occurredAt := dto.occurredAt.getD now
  note := dto.note
  recordedByUserId := userId

def expensePosting (expenseId : ℕ) (expense : BranchExpense) (amount : ℚ) : LedgerPosting where
  branchId := expense.branchId
  occurredAt := expense.occurredAt
  sourceType := .expense
  sourceId := s!"expense-{expenseId}"
  idempotencyKey := s!"expense-{expenseId}"
  currency := expense.currency
  memo := s!"Expense — {expense.category.text}"
  debit := expenseAccountFor expense.category.text
  credit := .cash
  amount

/-- `createBranchExpense`: the entity in memory still has the amount of the request. -/
def createBranchExpense (dto : BranchExpenseDto) : BillingProc ℕ := do
  let expense := newExpense now branchId userId dto
  let expenseId ← .step (fun S => { S with expenses := S.expenses.add expense }) fun S => .done S.expenses.next
  postLedger now (expensePosting expenseId expense dto.amount)
  return expenseId

def deleteBranchExpense (expenseId : ℕ) : BillingProc Unit := do
  let some expense ← Proc.read fun S : BillingStore =>
      (S.expenses.find expenseId).filter fun row => row.branchId = branchId
    | throw (recordNotFound "Expense" expenseId branchId)
  reverseLedger now branchId s!"expense-{expenseId}" (some expense.occurredAt)
  Proc.write fun S => { S with expenses := S.expenses.remove expenseId }

/-! ### Fixed assets -/

/-- The `dto` of `createBranchFixedAsset`. -/
structure BranchFixedAssetDto where
  name : String
  category : BranchFixedAssetCategory
  status : Option BranchFixedAssetStatus := none
  acquiredAt : ℤ
  capitalizationAmount : ℚ
  salvageValue : Option ℚ := none
  usefulLifeMonths : Option ℤ := none
  currency : Option String := none
  note : Option String := none

def newFixedAsset (dto : BranchFixedAssetDto) : BranchFixedAsset where
  branchId
  name := dto.name
  category := dto.category
  status := dto.status.getD .active
  acquiredAt := dto.acquiredAt
  capitalizationAmount := .ofRat dto.capitalizationAmount
  salvageValue := .ofRat (dto.salvageValue.getD 0)
  usefulLifeMonths := dto.usefulLifeMonths
  currency := currencyOr dto.currency
  note := dto.note

def fixedAssetPosting (assetId : ℕ) (asset : BranchFixedAsset) (amount : ℚ) : LedgerPosting where
  branchId := asset.branchId
  occurredAt := asset.acquiredAt
  sourceType := .fixedAsset
  sourceId := s!"fixed-asset-{assetId}"
  idempotencyKey := s!"fixed-asset-{assetId}"
  currency := asset.currency
  memo := s!"Fixed asset — {asset.name}"
  debit := .fixedAssets
  credit := .cash
  amount

def createBranchFixedAsset (dto : BranchFixedAssetDto) : BillingProc ℕ := do
  let asset := newFixedAsset branchId dto
  let assetId ← .step (fun S => { S with fixedAssets := S.fixedAssets.add asset }) fun S => .done S.fixedAssets.next
  postLedger now (fixedAssetPosting assetId asset dto.capitalizationAmount)
  return assetId

/-- `fixedAssetsRepo.findOne({ where: { id, branchId } })`, or the exception without one. -/
def findFixedAsset (assetId : ℕ) : BillingProc BranchFixedAsset := do
  let some asset ← Proc.read fun S : BillingStore =>
      (S.fixedAssets.find assetId).filter fun row => row.branchId = branchId
    | throw (recordNotFound "Fixed asset" assetId branchId)
  return asset

def deleteBranchFixedAsset (assetId : ℕ) : BillingProc Unit := do
  let asset ← findFixedAsset branchId assetId
  reverseLedger now branchId s!"fixed-asset-{assetId}" (some asset.acquiredAt)
  Proc.write fun S => S.removeFixedAsset assetId

/-! ### Depreciation -/

/-- The `dto` of `createBranchDepreciationEntry`. -/
structure BranchDepreciationEntryDto where
  fixedAssetId : ℕ
  amount : ℚ
  occurredAt : ℤ
  note : Option String := none

def newDepreciationEntry (dto : BranchDepreciationEntryDto) : BranchDepreciationEntry where
  branchId
  fixedAssetId := dto.fixedAssetId
  amount := .ofRat dto.amount
  occurredAt := dto.occurredAt
  note := dto.note
  recordedByUserId := userId

def depreciationPosting (entryId : ℕ) (entry : BranchDepreciationEntry) (asset : BranchFixedAsset)
    (amount : ℚ) : LedgerPosting where
  branchId := entry.branchId
  occurredAt := entry.occurredAt
  sourceType := .depreciation
  sourceId := s!"depreciation-{entryId}"
  idempotencyKey := s!"depreciation-{entryId}"
  currency := asset.currency
  memo := s!"Depreciation — asset {entry.fixedAssetId}"
  debit := .expenseDepreciation
  credit := .accumulatedDepreciation
  amount

def createBranchDepreciationEntry (dto : BranchDepreciationEntryDto) : BillingProc ℕ := do
  let asset ← findFixedAsset branchId dto.fixedAssetId
  let entry := newDepreciationEntry branchId userId dto
  let entryId ← .step (fun S => { S with depreciationEntries := S.depreciationEntries.add entry })
    fun S => .done S.depreciationEntries.next
  postLedger now (depreciationPosting entryId entry asset dto.amount)
  return entryId

def deleteBranchDepreciationEntry (entryId : ℕ) : BillingProc Unit := do
  let some entry ← Proc.read fun S : BillingStore =>
      (S.depreciationEntries.find entryId).filter fun row => row.branchId = branchId
    | throw (recordNotFound "Depreciation entry" entryId branchId)
  reverseLedger now branchId s!"depreciation-{entryId}" (some entry.occurredAt)
  Proc.write fun S => { S with depreciationEntries := S.depreciationEntries.remove entryId }

/-! ### Accrued liabilities -/

/-- The `dto` of `createBranchAccruedLiability`. -/
structure BranchAccruedLiabilityDto where
  label : String
  category : BranchAccruedLiabilityCategory
  status : Option BranchAccruedLiabilityStatus := none
  amount : ℚ
  accruedAt : ℤ
  dueAt : Option ℤ := none
  currency : Option String := none
  note : Option String := none

def newAccruedLiability (dto : BranchAccruedLiabilityDto) : BranchAccruedLiability where
  branchId
  label := dto.label
  category := dto.category
  status := dto.status.getD .opened
  amount := .ofRat dto.amount
  accruedAt := dto.accruedAt
  dueAt := dto.dueAt
  currency := currencyOr dto.currency
  note := dto.note

def accruedPosting (liabilityId : ℕ) (liability : BranchAccruedLiability) (amount : ℚ) : LedgerPosting where
  branchId := liability.branchId
  occurredAt := liability.accruedAt
  sourceType := .accruedLiability
  sourceId := s!"accrued-{liabilityId}"
  idempotencyKey := s!"accrued-{liabilityId}"
  currency := liability.currency
  memo := s!"Accrued liability — {liability.label}"
  debit := expenseAccountFor liability.category.text
  credit := .accruedLiabilities
  amount

def createBranchAccruedLiability (dto : BranchAccruedLiabilityDto) : BillingProc ℕ := do
  let liability := newAccruedLiability branchId dto
  let liabilityId ← .step (fun S => { S with accruedLiabilities := S.accruedLiabilities.add liability })
    fun S => .done S.accruedLiabilities.next
  postLedger now (accruedPosting liabilityId liability dto.amount)
  return liabilityId

/-- `accruedLiabilitiesRepo.findOne({ where: { id, branchId } })`, or the exception without one. -/
def findAccruedLiability (liabilityId : ℕ) : BillingProc BranchAccruedLiability := do
  let some liability ← Proc.read fun S : BillingStore =>
      (S.accruedLiabilities.find liabilityId).filter fun row => row.branchId = branchId
    | throw (recordNotFound "Accrued liability" liabilityId branchId)
  return liability

def deleteBranchAccruedLiability (liabilityId : ℕ) : BillingProc Unit := do
  let liability ← findAccruedLiability branchId liabilityId
  reverseLedger now branchId s!"accrued-{liabilityId}" (some liability.accruedAt)
  Proc.write fun S => { S with accruedLiabilities := S.accruedLiabilities.remove liabilityId }

def settledLiability (settledAt : Option ℤ) (liability : BranchAccruedLiability) : BranchAccruedLiability :=
  { liability with status := .settled, settledAt := some (settledAt.getD now) }

def settlementPosting (liabilityId : ℕ) (liability : BranchAccruedLiability) : LedgerPosting where
  branchId := liability.branchId
  occurredAt := liability.settledAt.getD now
  sourceType := .accruedSettlement
  sourceId := s!"accrued-settle-{liabilityId}"
  idempotencyKey := s!"accrued-settle-{liabilityId}"
  currency := liability.currency
  memo := s!"Accrued liability settled — {liability.label}"
  debit := .accruedLiabilities
  credit := .cash
  amount := liability.amount.value

def settleBranchAccruedLiability (liabilityId : ℕ) (settledAt : Option ℤ) : BillingProc BranchAccruedLiability := do
  let liability ← findAccruedLiability branchId liabilityId
  let saved := settledLiability now settledAt liability
  Proc.write fun S => { S with accruedLiabilities := S.accruedLiabilities.set liabilityId saved }
  postLedger now (settlementPosting now liabilityId saved)
  return saved

/-! ### Long-term debts -/

/-- The `dto` of `createBranchLongTermDebt`. -/
structure BranchLongTermDebtDto where
  lenderName : String
  status : Option BranchLongTermDebtStatus := none
  principalAmount : ℚ
  outstandingPrincipal : ℚ
  currentPortionAmount : Option ℚ := none
  interestRate : Option ℚ := none
  issuedAt : ℤ
  maturityAt : Option ℤ := none
  currency : Option String := none
  note : Option String := none

def newLongTermDebt (dto : BranchLongTermDebtDto) : BranchLongTermDebt where
  branchId
  lenderName := dto.lenderName
  status := dto.status.getD .active
  principalAmount := .ofRat dto.principalAmount
  outstandingPrincipal := .ofRat dto.outstandingPrincipal
  currentPortionAmount := .ofRat (dto.currentPortionAmount.getD 0)
  interestRate := dto.interestRate.map numeric4
  issuedAt := dto.issuedAt
  maturityAt := dto.maturityAt
  currency := currencyOr dto.currency
  note := dto.note

def longTermDebtPosting (debtId : ℕ) (debt : BranchLongTermDebt) (amount : ℚ) : LedgerPosting where
  branchId := debt.branchId
  occurredAt := debt.issuedAt
  sourceType := .longTermDebt
  sourceId := s!"ltdebt-{debtId}"
  idempotencyKey := s!"ltdebt-{debtId}"
  currency := debt.currency
  memo := s!"Long-term debt — {debt.lenderName}"
  debit := .cash
  credit := .longTermDebt
  amount

def createBranchLongTermDebt (dto : BranchLongTermDebtDto) : BillingProc ℕ := do
  let debt := newLongTermDebt branchId dto
  let debtId ← .step (fun S => { S with longTermDebts := S.longTermDebts.add debt })
    fun S => .done S.longTermDebts.next
  postLedger now (longTermDebtPosting debtId debt dto.principalAmount)
  return debtId

def deleteBranchLongTermDebt (debtId : ℕ) : BillingProc Unit := do
  let some debt ← Proc.read fun S : BillingStore =>
      (S.longTermDebts.find debtId).filter fun row => row.branchId = branchId
    | throw (recordNotFound "Long-term debt" debtId branchId)
  reverseLedger now branchId s!"ltdebt-{debtId}" (some debt.issuedAt)
  Proc.write fun S => { S with longTermDebts := S.longTermDebts.remove debtId }

end BranchBilling

inductive BillingCall where
  | createBranchExpense (now : ℤ) (branchId userId : ℕ) (dto : BranchBilling.BranchExpenseDto)
  | deleteBranchExpense (now : ℤ) (branchId expenseId : ℕ)
  | createBranchFixedAsset (now : ℤ) (branchId : ℕ) (dto : BranchBilling.BranchFixedAssetDto)
  | deleteBranchFixedAsset (now : ℤ) (branchId assetId : ℕ)
  | createBranchDepreciationEntry (now : ℤ) (branchId userId : ℕ) (dto : BranchBilling.BranchDepreciationEntryDto)
  | deleteBranchDepreciationEntry (now : ℤ) (branchId entryId : ℕ)
  | createBranchAccruedLiability (now : ℤ) (branchId : ℕ) (dto : BranchBilling.BranchAccruedLiabilityDto)
  | settleBranchAccruedLiability (now : ℤ) (branchId liabilityId : ℕ) (settledAt : Option ℤ)
  | deleteBranchAccruedLiability (now : ℤ) (branchId liabilityId : ℕ)
  | createBranchLongTermDebt (now : ℤ) (branchId : ℕ) (dto : BranchBilling.BranchLongTermDebtDto)
  | deleteBranchLongTermDebt (now : ℤ) (branchId debtId : ℕ)

def BillingCall.step (S : BillingStore) : BillingCall → BillingStore
  | createBranchExpense now branchId userId dto =>
    ((BranchBilling.createBranchExpense now branchId userId dto).run S).2
  | deleteBranchExpense now branchId expenseId =>
    ((BranchBilling.deleteBranchExpense now branchId expenseId).run S).2
  | createBranchFixedAsset now branchId dto => ((BranchBilling.createBranchFixedAsset now branchId dto).run S).2
  | deleteBranchFixedAsset now branchId assetId =>
    ((BranchBilling.deleteBranchFixedAsset now branchId assetId).run S).2
  | createBranchDepreciationEntry now branchId userId dto =>
    ((BranchBilling.createBranchDepreciationEntry now branchId userId dto).run S).2
  | deleteBranchDepreciationEntry now branchId entryId =>
    ((BranchBilling.deleteBranchDepreciationEntry now branchId entryId).run S).2
  | createBranchAccruedLiability now branchId dto =>
    ((BranchBilling.createBranchAccruedLiability now branchId dto).run S).2
  | settleBranchAccruedLiability now branchId liabilityId settledAt =>
    ((BranchBilling.settleBranchAccruedLiability now branchId liabilityId settledAt).run S).2
  | deleteBranchAccruedLiability now branchId liabilityId =>
    ((BranchBilling.deleteBranchAccruedLiability now branchId liabilityId).run S).2
  | createBranchLongTermDebt now branchId dto =>
    ((BranchBilling.createBranchLongTermDebt now branchId dto).run S).2
  | deleteBranchLongTermDebt now branchId debtId =>
    ((BranchBilling.deleteBranchLongTermDebt now branchId debtId).run S).2

end SuuqBackend
