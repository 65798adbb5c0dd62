import Mathlib.Data.Rat.Floor
import SuuqBackend.Common.HttpException
import SuuqBackend.Lib.Proc

/-!
# The chart of accounts

The accounts of the branch general ledger: their codes, what kind each is and which side it grows on,
and the test whether a text is one of the codes.
-/

namespace SuuqBackend

inductive GlAccountCode where
  | cash
  | tenderClearing
  | accountsReceivable
  | inventory
  | fixedAssets
  | accumulatedDepreciation
  | supplierPayables
  | taxPayable
  | tipsPayable
  | customerDeposits
  | deferredRevenue
  | accruedLiabilities
  | longTermDebt
  | ownerEquity
  | serviceRevenue
  | rentalRevenue
  | cogs
  | costOfServices
  | expenseRent
  | expenseUtilities
  | expensePayroll
  | expenseSupplies
  | expenseMarketing
  | expenseMaintenance
  | expenseTaxes
  | expenseDepreciation
  | expenseInterest
  | expenseOther
deriving DecidableEq

namespace GlAccountCode

/-- The stable text of the code. -/
def code : GlAccountCode → String
  | cash => "1000"
  | tenderClearing => "1010"
  | accountsReceivable => "1100"
  | inventory => "1200"
  | fixedAssets => "1500"
  | accumulatedDepreciation => "1510"
  | supplierPayables => "2000"
  | taxPayable => "2100"
  | tipsPayable => "2200"
  | customerDeposits => "2300"
  | deferredRevenue => "2400"
  | accruedLiabilities => "2500"
  | longTermDebt => "2600"
  | ownerEquity => "3000"
  | serviceRevenue => "4000"
  | rentalRevenue => "4100"
  | cogs => "5000"
  | costOfServices => "5100"
  | expenseRent => "6000"
  | expenseUtilities => "6010"
  | expensePayroll => "6020"
  | expenseSupplies => "6030"
  | expenseMarketing => "6040"
  | expenseMaintenance => "6050"
  | expenseTaxes => "6060"
  | expenseDepreciation => "6070"
  | expenseInterest => "6080"
  | expenseOther => "6090"

/-- The codes of `GL_ACCOUNT_SEED`, in its order. -/
def seed : List GlAccountCode :=
  [cash, tenderClearing, accountsReceivable, inventory, fixedAssets, accumulatedDepreciation,
    supplierPayables, taxPayable, tipsPayable, customerDeposits, deferredRevenue,
    accruedLiabilities, longTermDebt, ownerEquity, serviceRevenue, rentalRevenue, cogs,
    costOfServices, expenseRent, expenseUtilities, expensePayroll, expenseSupplies,
    expenseMarketing, expenseMaintenance, expenseTaxes, expenseDepreciation, expenseInterest,
    expenseOther]

end GlAccountCode

inductive GlAccountType where
  | asset
  | liability
  | equity
  | revenue
  | expense
deriving DecidableEq

inductive GlNormalBalance where
  | debit
  | credit
deriving DecidableEq

namespace GlAccountCode

/-- `name` in `GL_ACCOUNT_SEED`. -/
def name : GlAccountCode → String
  | cash => "Cash"
  | tenderClearing => "Tender clearing"
  | accountsReceivable => "Accounts receivable"
  | inventory => "Inventory"
  | fixedAssets => "Fixed assets"
  | accumulatedDepreciation => "Accumulated depreciation"
  | supplierPayables => "Supplier payables"
  | taxPayable => "Tax payable"
  | tipsPayable => "Tips payable"
  | customerDeposits => "Customer deposits"
  | deferredRevenue => "Deferred revenue"
  | accruedLiabilities => "Accrued liabilities"
  | longTermDebt => "Long-term debt"
  | ownerEquity => "Owner equity"
  | serviceRevenue => "Service revenue"
  | rentalRevenue => "Rental revenue"
  | cogs => "Cost of goods sold"
  | costOfServices => "Cost of services"
  | expenseRent => "Expense — rent"
  | expenseUtilities => "Expense — utilities"
  | expensePayroll => "Expense — payroll"
  | expenseSupplies => "Expense — supplies"
  | expenseMarketing => "Expense — marketing"
  | expenseMaintenance => "Expense — maintenance"
  | expenseTaxes => "Expense — taxes"
  | expenseDepreciation => "Expense — depreciation"
  | expenseInterest => "Expense — interest"
  | expenseOther => "Expense — other"

/-- `type` in `GL_ACCOUNT_SEED`. -/
def type : GlAccountCode → GlAccountType
  | cash | tenderClearing | accountsReceivable | inventory | fixedAssets
  | accumulatedDepreciation => .asset
  | supplierPayables | taxPayable | tipsPayable | customerDeposits | deferredRevenue
  | accruedLiabilities | longTermDebt => .liability
  | ownerEquity => .equity
  | serviceRevenue | rentalRevenue => .revenue
  | cogs | costOfServices | expenseRent | expenseUtilities | expensePayroll | expenseSupplies
  | expenseMarketing | expenseMaintenance | expenseTaxes | expenseDepreciation | expenseInterest
  | expenseOther => .expense

/-- `normalBalance` in `GL_ACCOUNT_SEED`. -/
def normalBalance : GlAccountCode → GlNormalBalance
  | cash | tenderClearing | accountsReceivable | inventory | fixedAssets => .debit
  -- the one contra account of the chart: an asset that grows on the credit side
  | accumulatedDepreciation => .credit
  | supplierPayables | taxPayable | tipsPayable | customerDeposits | deferredRevenue
  | accruedLiabilities | longTermDebt | ownerEquity | serviceRevenue | rentalRevenue => .credit
  | cogs | costOfServices | expenseRent | expenseUtilities | expensePayroll | expenseSupplies
  | expenseMarketing | expenseMaintenance | expenseTaxes | expenseDepreciation | expenseInterest
  | expenseOther => .debit

end GlAccountCode

def isGlAccountCode (code : String) : Bool := GlAccountCode.seed.any fun account => account.code == code

def getGlAccountMeta (code : String) : Option GlAccountCode :=
  GlAccountCode.seed.find? fun account => account.code == code

/-- `normalBalanceSign`: an unknown code counts as debit-normal. -/
def normalBalanceSign (code : String) : ℤ :=
  if (getGlAccountMeta code).map GlAccountCode.normalBalance = some .credit then -1 else 1

/-!
## The general ledger

`GeneralLedgerService.post` and `reverse` on the tables `gl_journal_entries` and `gl_journal_lines`.
`post` tests the balance of an entry on the raw amounts, with half a cent of tolerance; the lines
that it stores are rounded to cents one by one, and lines without an amount are dropped.  `balance`
and `accountTotals` are the queries that the statements are built from.

Amounts are rational numbers.  `now` is `new Date()`, in milliseconds.
-/

inductive GlJournalSourceType where
  | posCheckout
  | posReturn
  | posVoidReversal
  | arSettlement
  | hospitalityPayment
  | hospitalitySettlement
  | depositOpen
  | depositRefund
  | depositForfeit
  | revenueAccrual
  | expense
  | fixedAsset
  | depreciation
  | accruedLiability
  | accruedSettlement
  | longTermDebt
  | purchaseOrder
  | openingBalance
  | manual
deriving DecidableEq

/-- `JournalLineInput`; the metadata are kept as text. -/
structure JournalLineInput where
  accountCode : String
  debit : Option ℚ := none
  credit : Option ℚ := none
  metadata : Option String := none

structure PostJournalEntryInput where
  branchId : ℕ
  occurredAt : ℤ
  sourceType : GlJournalSourceType
  sourceId : Option String := none
  idempotencyKey : String
  currency : Option String := none
  memo : Option String := none
  createdByUserId : Option ℕ := none
  lines : List JournalLineInput

structure GlJournalEntry where
  id : ℕ
  branchId : ℕ
  occurredAt : ℤ
  postedAt : ℤ
  sourceType : GlJournalSourceType
  sourceId : Option String
  idempotencyKey : String
  currency : String
  memo : Option String
  createdByUserId : Option ℕ
  reversesEntryId : Option ℕ
  reversedByEntryId : Option ℕ
deriving DecidableEq

structure GlJournalLine where
  entryId : ℕ
  branchId : ℕ
  accountCode : String
  debit : ℚ
  credit : ℚ
  occurredAt : ℤ
  currency : String
  metadata : Option String
deriving DecidableEq

/-- The two tables, with the next generated entry id. -/
structure GlStore where
  entries : List GlJournalEntry
  lines : List GlJournalLine
  nextEntryId : ℕ
deriving DecidableEq

/-- A handler on the tables of the general ledger. -/
abbrev GlProc : Type → Type := Proc GlStore HttpException

namespace GeneralLedger

/-! ### Checks -/

def balanceTolerance : ℚ := 5 / 1000

/-- `Number.EPSILON`. -/
def numberEpsilon : ℚ := 1 / 2 ^ 52

/-- `round2`: to the nearest cent, a half up. -/
def round2 (value : ℚ) : ℚ := round ((value + numberEpsilon) * 100) / 100

/-- `Number(amount || 0)`. -/
def amountOf (amount : Option ℚ) : ℚ := amount.getD 0

/-- The account code of a line is not in the chart of accounts. -/
def unknownAccount (code : String) : HttpException := .badRequest s!"Unknown GL account code: {code}"

/-- The totals of an entry differ by more than the tolerance. -/
def unbalancedEntry (totalDebit totalCredit : ℚ) : HttpException :=
  .badRequest s!"Unbalanced journal entry: debit {totalDebit} != credit {totalCredit}."

/-- One round of the loop of `assertBalanced`. -/
def addLine (totals : ℚ × ℚ) (line : JournalLineInput) : Except HttpException (ℚ × ℚ) := do
  if !isGlAccountCode line.accountCode then throw (unknownAccount line.accountCode)
  let debit := amountOf line.debit
  let credit := amountOf line.credit
  if debit < 0 ∨ credit < 0 then
    throw (.badRequest "Journal line debit/credit must be non-negative.")
  if debit > 0 ∧ credit > 0 then
    throw (.badRequest "A journal line cannot carry both a debit and a credit.")
  return (totals.1 + debit, totals.2 + credit)

def assertBalanced (input : PostJournalEntryInput) : Except HttpException Unit := do
  if input.idempotencyKey = "" then
    throw (.badRequest "Journal entry requires an idempotencyKey.")
  if input.lines.length < 2 then throw (.badRequest "A journal entry needs at least two lines.")
  let (totalDebit, totalCredit) ← input.lines.foldlM addLine (0, 0)
  if |totalDebit - totalCredit| > balanceTolerance then
    throw (unbalancedEntry totalDebit totalCredit)
  if totalDebit = 0 then throw (.badRequest "Journal entry total cannot be zero.")

/-! ### Tables -/

/-- `entryRepo.findOne({ where: { branchId, idempotencyKey } })`. -/
def findEntryByKey (branchId : ℕ) (idempotencyKey : String) : GlProc (Option GlJournalEntry) :=
  Proc.read fun s =>
    s.entries.find? fun e => e.branchId = branchId ∧ e.idempotencyKey = idempotencyKey

/-- `entryRepo.findOne({ where: { id } })`. -/
def findEntryById (id : ℕ) : GlProc (Option GlJournalEntry) :=
  Proc.read fun s => s.entries.find? fun e => e.id = id

/-- `lineRepo.find({ where: { entryId } })`. -/
def findLinesOfEntry (entryId : ℕ) : GlProc (List GlJournalLine) :=
  Proc.read fun s => s.lines.filter fun l => l.entryId = entryId

/-- `entryRepo.save` of a new entry, given its generated id. -/
def insertEntry (entry : ℕ → GlJournalEntry) : GlProc GlJournalEntry :=
  .step
    (fun s => { s with
      entries := s.entries ++ [entry s.nextEntryId], nextEntryId := s.nextEntryId + 1 })
    fun s => .done (entry s.nextEntryId)

/-- `entryRepo.save` of an entry that was loaded. -/
def updateEntry (entry : GlJournalEntry) : GlProc Unit :=
  Proc.write fun s =>
    { s with entries := s.entries.map fun e => if e.id = entry.id then entry else e }

/-- `lineRepo.save(lines)`. -/
def insertLines (lines : List GlJournalLine) : GlProc Unit :=
  Proc.write fun s => { s with lines := s.lines ++ lines }

/-! ### Operations -/

/-- The currency of an entry: the caller's, or `ETB`. -/
def currencyOf (input : PostJournalEntryInput) : String :=
  match input.currency with
  | none | some "" => "ETB"
  | some currency => currency

/-- The lines that `postWithin` stores: those with an amount, each rounded to cents. -/
def storedLines (entryId : ℕ) (input : PostJournalEntryInput) : List GlJournalLine :=
  (input.lines.filter fun line => amountOf line.debit > 0 ∨ amountOf line.credit > 0).map
    fun line =>
      { entryId
        branchId := input.branchId
        accountCode := line.accountCode
        debit := round2 (amountOf line.debit)
        credit := round2 (amountOf line.credit)
        occurredAt := input.occurredAt
        currency := currencyOf input
        metadata := line.metadata }

def postWithin (now : ℤ) (input : PostJournalEntryInput) : GlProc GlJournalEntry := do
  match ← findEntryByKey input.branchId input.idempotencyKey with
  | some existing => return existing
  | none =>
    let entry ← insertEntry fun id =>
      { id
        branchId := input.branchId
        occurredAt := input.occurredAt
        postedAt := now
        sourceType := input.sourceType
        sourceId := input.sourceId
        idempotencyKey := input.idempotencyKey
        currency := currencyOf input
        memo := input.memo
        createdByUserId := input.createdByUserId
        reversesEntryId := none
        reversedByEntryId := none }
    insertLines (storedLines entry.id input)
    return entry

/-- `post`; `manager` says whether the caller passed its transaction. -/
def post (now : ℤ) (input : PostJournalEntryInput) (manager : Bool) : GlProc GlJournalEntry :=
  match assertBalanced input with
  | .error e => throw e
  | .ok () => if manager then postWithin now input else Proc.transaction (postWithin now input)

/-- The options of `reverse`. -/
structure ReverseOptions where
  sourceType : GlJournalSourceType
  idempotencyKey : String
  occurredAt : Option ℤ := none
  memo : Option String := none
  createdByUserId : Option ℕ := none

def reversalMemo (entryId : ℕ) : String := s!"Reversal of entry {entryId}"

/-- The mirror of the lines of an entry. -/
def swappedLines (reversalId : ℕ) (occurredAt : ℤ) (lines : List GlJournalLine) : List GlJournalLine :=
  lines.map fun line =>
    { line with
      entryId := reversalId, debit := line.credit, credit := line.debit, occurredAt }

/-- The transaction of `reverse`. -/
def reverseWithin (now : ℤ) (entryId : ℕ) (opts : ReverseOptions) : GlProc (Option GlJournalEntry) := do
  match ← findEntryById entryId with
  | none => return none
  | some original =>
    match ← findEntryByKey original.branchId opts.idempotencyKey with
    | some alreadyReversed => return some alreadyReversed
    | none =>
      let originalLines ← findLinesOfEntry entryId
      let occurredAt := opts.occurredAt.getD now
      let reversal ← insertEntry fun id =>
        { id
          branchId := original.branchId
          occurredAt
          postedAt := now
          sourceType := opts.sourceType
          sourceId := original.sourceId
          idempotencyKey := opts.idempotencyKey
          currency := original.currency
          memo := some (opts.memo.getD (reversalMemo entryId))
          createdByUserId := opts.createdByUserId
          reversesEntryId := some entryId
          reversedByEntryId := none }
      insertLines (swappedLines reversal.id occurredAt originalLines)
      updateEntry { original with reversedByEntryId := some reversal.id }
      return some reversal

def reverse (now : ℤ) (entryId : ℕ) (opts : ReverseOptions) : GlProc (Option GlJournalEntry) :=
  Proc.transaction (reverseWithin now entryId opts)

/-! ### Balances -/

/-- `BalanceRange`: the first and the last instant that count. -/
structure BalanceRange where
  fromDate : Option ℤ := none
  toDate : Option ℤ := none

/-- The conditions of a query on `occurredAt`. -/
def BalanceRange.Holds (range : BalanceRange) (occurredAt : ℤ) : Prop :=
  (∀ fromDate ∈ range.fromDate, fromDate ≤ occurredAt) ∧ ∀ toDate ∈ range.toDate, occurredAt ≤ toDate
deriving Decidable

/-- `SUM(l.debit)` of the lines of a query. -/
def sumDebit (lines : List GlJournalLine) : ℚ := (lines.map GlJournalLine.debit).sum

/-- `SUM(l.credit)` of the lines of a query. -/
def sumCredit (lines : List GlJournalLine) : ℚ := (lines.map GlJournalLine.credit).sum

def balance (s : GlStore) (branchId : ℕ) (accountCode : String) (range : BalanceRange) : ℚ :=
  let rows := s.lines.filter fun l =>
    l.branchId = branchId ∧ l.accountCode = accountCode ∧ range.Holds l.occurredAt
  round2 ((sumDebit rows - sumCredit rows) * normalBalanceSign accountCode)

/-- `accountTotals`: the debits and credits of each account that has a line in the range. -/
def accountTotals (s : GlStore) (branchId : ℕ) (range : BalanceRange) : List (String × ℚ × ℚ) :=
  let rows := s.lines.filter fun l => l.branchId = branchId ∧ range.Holds l.occurredAt
  (rows.map GlJournalLine.accountCode).dedup.map fun code =>
    (code, sumDebit (rows.filter fun l => l.accountCode = code), sumCredit (rows.filter fun l => l.accountCode = code))

end GeneralLedger

/-- A call of the general ledger. -/
inductive GlCall where
  | post (now : ℤ) (input : PostJournalEntryInput) (manager : Bool)
  | reverse (now : ℤ) (entryId : ℕ) (opts : GeneralLedger.ReverseOptions)

def GlCall.step (s : GlStore) : GlCall → GlStore
  | post now input manager => ((GeneralLedger.post now input manager).run s).2
  | reverse now entryId opts => ((GeneralLedger.reverse now entryId opts).run s).2

/-!
## Splitting tenders

`splitTenders` divides a payment into what goes to cash and what goes to clearing (cards, mobile money,
bank), and makes the two add up to the amount that is recognized.  Every service that posts a payment
uses it.  `round2` is the one of the general ledger; `toUpperCase` is the upper case of the runtime.
-/

structure TenderRow where
  method : Option String := none
  amount : Option ℚ := none
deriving DecidableEq

structure TenderSplit where
  cash : ℚ
  clearing : ℚ

open GeneralLedger

def TenderRow.IsCash (toUpperCase : String → String) (row : TenderRow) : Prop :=
  toUpperCase (row.method.getD "") = "CASH"
deriving Decidable

/-- One round of the loop of `splitTenders`. -/
def addTender (toUpperCase : String → String) (split : TenderSplit) (row : TenderRow) : TenderSplit :=
  if row.IsCash toUpperCase then { split with cash := split.cash + amountOf row.amount }
  else { split with clearing := split.clearing + amountOf row.amount }

/-- The raw amounts of the rows: what the loop leaves in `cash` and `clearing`. -/
def sumTenders (toUpperCase : String → String) (rows : List TenderRow) : TenderSplit :=
  rows.foldl (addTender toUpperCase) ⟨0, 0⟩

/-- The two parts of the rows, scaled to `settled` when they do not add up to it. -/
def scaleTenders (settled : ℚ) (raw : TenderSplit) : TenderSplit :=
  let sum := round2 (raw.cash + raw.clearing)
  if sum ≠ settled then
    let scale := settled / sum
    let cash := round2 (raw.cash * scale)
    { cash, clearing := round2 (settled - cash) }
  else raw

def splitTenders (toUpperCase : String → String) (rows : List TenderRow) (total : ℚ) : TenderSplit :=
  let settled := round2 total
  let raw := sumTenders toUpperCase rows
  -- no tender detail: the whole amount counts as cash
  if round2 (raw.cash + raw.clearing) ≤ 0 then { cash := settled, clearing := 0 }
  else
    let split := scaleTenders settled raw
    { cash := round2 split.cash, clearing := round2 split.clearing }

end SuuqBackend
