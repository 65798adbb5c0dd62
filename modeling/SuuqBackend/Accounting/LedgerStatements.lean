import SuuqBackend.Accounting.GeneralLedger

/-!
# The financial statements

`LedgerStatementsService`: the profit and loss account, the trial balance and the balance sheet of a
branch, each computed from the lines of the general ledger.  The statements only read, so they are
functions of the tables.

Each enumerates the accounts of the chart on its own: the trial balance walks `GL_ACCOUNT_SEED`, the
other two name the accounts one by one.
-/

namespace SuuqBackend.LedgerStatements

open GeneralLedger

/-- `EXPENSE_ACCOUNTS`: the accounts of the operating expenses with their labels. -/
def expenseAccounts : List (GlAccountCode × String) :=
  [(.expenseRent, "RENT"), (.expenseUtilities, "UTILITIES"), (.expensePayroll, "PAYROLL"),
    (.expenseSupplies, "SUPPLIES"), (.expenseMarketing, "MARKETING"),
    (.expenseMaintenance, "MAINTENANCE"), (.expenseTaxes, "TAXES"),
    (.expenseDepreciation, "DEPRECIATION"), (.expenseInterest, "INTEREST"), (.expenseOther, "OTHER")]

def revenueAccounts : List GlAccountCode := [.serviceRevenue, .rentalRevenue]

def cogsAccounts : List GlAccountCode := [.cogs, .costOfServices]

structure LedgerProfitAndLoss where
  revenueNet : ℚ
  tax : ℚ
  cogs : ℚ
  grossProfit : ℚ
  expensesByCategory : List (String × ℚ)
  totalExpenses : ℚ
  netProfit : ℚ

structure LedgerTrialBalanceLine where
  account : String
  debit : ℚ
  credit : ℚ

/-- `LedgerTrialBalance`; `totals` is the pair of the total debit and the total credit. -/
structure LedgerTrialBalance where
  lines : List LedgerTrialBalanceLine
  totals : ℚ × ℚ
  balanced : Bool

/-- `assets` of `LedgerBalanceSheet`. -/
structure LedgerAssets where
  cash : ℚ
  tenderClearing : ℚ
  accountsReceivable : ℚ
  inventoryValue : ℚ
  fixedAssetsGross : ℚ
  accumulatedDepreciation : ℚ
  fixedAssetsNet : ℚ
  total : ℚ

/-- `liabilities` of `LedgerBalanceSheet`. -/
structure LedgerLiabilities where
  supplierPayables : ℚ
  taxPayable : ℚ
  tipsPayable : ℚ
  customerDeposits : ℚ
  deferredRevenue : ℚ
  accruedLiabilities : ℚ
  longTermDebt : ℚ
  total : ℚ

structure LedgerBalanceSheet where
  assets : LedgerAssets
  liabilities : LedgerLiabilities
  equity : ℚ

/-- One round of the loop over the expense accounts. -/
def addExpense (s : GlStore) (branchId : ℕ) (period : BalanceRange)
    (acc : List (String × ℚ) × ℚ) (account : GlAccountCode × String) : List (String × ℚ) × ℚ :=
  let amount := round2 (balance s branchId account.1.code period)
  if amount ≠ 0 then (acc.1 ++ [(account.2, amount)], acc.2 + amount) else acc

def getProfitAndLoss (s : GlStore) (branchId : ℕ) (period : BalanceRange) : LedgerProfitAndLoss :=
  let addBalance (sum : ℚ) (account : GlAccountCode) := sum + balance s branchId account.code period
  let revenue := revenueAccounts.foldl addBalance 0
  let cost := cogsAccounts.foldl addBalance 0
  let tax := balance s branchId GlAccountCode.taxPayable.code period
  let expenses := expenseAccounts.foldl (addExpense s branchId period) ([], 0)
  let revenueNet := round2 revenue
  let cogs := round2 cost
  let totalExpenses := round2 expenses.2
  let grossProfit := round2 (revenueNet - cogs)
  { revenueNet
    tax := round2 tax
    cogs
    grossProfit
    expensesByCategory := expenses.1
    totalExpenses
    netProfit := round2 (grossProfit - totalExpenses) }

/-- One round of the loop of `getTrialBalance` over the accounts. -/
def addAccount (totals : List (String × ℚ × ℚ)) (acc : List LedgerTrialBalanceLine × ℚ × ℚ)
    (account : GlAccountCode) : List LedgerTrialBalanceLine × ℚ × ℚ :=
  let t := (totals.lookup account.code).getD (0, 0)
  let net := round2 (t.1 - t.2)
  if net = 0 then acc
  else
    let debit := if net > 0 then net else 0
    let credit := if net < 0 then round2 (-net) else 0
    (acc.1 ++ [⟨account.name, debit, credit⟩], round2 (acc.2.1 + debit), round2 (acc.2.2 + credit))

def getTrialBalance (s : GlStore) (branchId : ℕ) (asOfAt : ℤ) : LedgerTrialBalance :=
  let totals := accountTotals s branchId { toDate := some asOfAt }
  let acc := GlAccountCode.seed.foldl (addAccount totals) ([], 0, 0)
  { lines := acc.1
    totals := acc.2
    balanced := |acc.2.1 - acc.2.2| < 1 / 100 }

/-- `retainedEarnings` in `getBalanceSheet`. -/
def retainedEarnings (s : GlStore) (branchId : ℕ) (asOfAt : ℤ) : ℚ :=
  let addBalance (sum : ℚ) (account : GlAccountCode) :=
    sum + balance s branchId account.code { toDate := some asOfAt }
  let revenueToDate := revenueAccounts.foldl addBalance 0
  let costToDate := (expenseAccounts.map Prod.fst).foldl addBalance (cogsAccounts.foldl addBalance 0)
  round2 (revenueToDate - costToDate)

def getBalanceSheet (s : GlStore) (branchId : ℕ) (asOfAt : ℤ) : LedgerBalanceSheet :=
  let bal (account : GlAccountCode) := balance s branchId account.code { toDate := some asOfAt }
  let cash := round2 (bal .cash)
  let tenderClearing := round2 (bal .tenderClearing)
  let accountsReceivable := round2 (bal .accountsReceivable)
  let inventoryValue := round2 (bal .inventory)
  let fixedAssetsGross := round2 (bal .fixedAssets)
  let accumulatedDepreciation := round2 (bal .accumulatedDepreciation)
  let fixedAssetsNet := round2 (fixedAssetsGross - accumulatedDepreciation)
  let assetsTotal :=
    round2 (cash + tenderClearing + accountsReceivable + inventoryValue + fixedAssetsNet)
  let supplierPayables := round2 (bal .supplierPayables)
  let taxPayable := round2 (bal .taxPayable)
  let tipsPayable := round2 (bal .tipsPayable)
  let customerDeposits := round2 (bal .customerDeposits)
  let deferredRevenue := round2 (bal .deferredRevenue)
  let accruedLiabilities := round2 (bal .accruedLiabilities)
  let longTermDebt := round2 (bal .longTermDebt)
  let liabilitiesTotal :=
    round2 (supplierPayables + taxPayable + tipsPayable + customerDeposits + deferredRevenue +
      accruedLiabilities + longTermDebt)
  let ownerEquity := round2 (bal .ownerEquity)
  { assets :=
      { cash
        tenderClearing
        accountsReceivable
        inventoryValue
        fixedAssetsGross
        accumulatedDepreciation
        fixedAssetsNet
        total := assetsTotal }
    liabilities :=
      { supplierPayables
        taxPayable
        tipsPayable
        customerDeposits
        deferredRevenue
        accruedLiabilities
        longTermDebt
        total := liabilitiesTotal }
    equity := round2 (ownerEquity + retainedEarnings s branchId asOfAt) }

end SuuqBackend.LedgerStatements
