import SuuqBackend.Accounting.GeneralLedger

/-!
# The opening balances of a branch

`getBalanceSheet` derives a balance sheet from the records of a branch, with the equity as what the assets exceed the
liabilities by.  `buildOpeningBalanceLines` turns it into the lines of one entry, and `seedOpeningBalance` posts it.
`BranchPosition` holds what the queries of the report sum up.
-/

namespace SuuqBackend

open GeneralLedger

/-- A fixed asset, with the sum of its depreciation entries. -/
structure DepreciatedAsset where
  capitalizationAmount : ℚ
  salvageValue : ℚ
  postedDepreciation : ℚ

structure BranchPosition where
  cashOnHand : ℚ := 0
  cashOut : ℚ := 0
  tenderClearing : ℚ := 0
  inventoryValue : ℚ := 0
  fixedAssets : List DepreciatedAsset := []
  supplierPayables : ℚ := 0
  taxPayable : ℚ := 0
  accruedCurrent : ℚ := 0
  accruedNonCurrent : ℚ := 0
  currentPortion : ℚ := 0
  nonCurrentDebt : ℚ := 0
  currency : String := "ETB"

/-- `LegacyBalanceSheet`. -/
structure LegacyBalanceSheet where
  cash : ℚ
  tenderClearing : ℚ
  inventoryValue : ℚ
  fixedAssetsGross : ℚ
  accumulatedDepreciation : ℚ
  supplierPayables : ℚ
  taxPayable : ℚ
  accruedLiabilities : ℚ
  currentPortionLongTermDebt : ℚ
  /-- The part that is not current. -/
  longTermDebt : ℚ
  equity : ℚ

namespace OpeningBalances

def effectiveDepreciation (asset : DepreciatedAsset) : ℚ :=
  min (max 0 (asset.capitalizationAmount - asset.salvageValue)) asset.postedDepreciation

def netBookValue (asset : DepreciatedAsset) : ℚ :=
  max asset.salvageValue (asset.capitalizationAmount - effectiveDepreciation asset)

def getBalanceSheet (position : BranchPosition) : LegacyBalanceSheet :=
  let cash := max 0 (position.cashOnHand - position.cashOut)
  let fixedAssetsNet := (position.fixedAssets.map netBookValue).sum
  let totalAssets := cash + position.tenderClearing + position.inventoryValue + fixedAssetsNet
  let taxPayable := max 0 position.taxPayable
  let currentLiabilities :=
    position.supplierPayables + taxPayable + position.accruedCurrent + position.currentPortion
  let totalLiabilities := currentLiabilities + (position.accruedNonCurrent + position.nonCurrentDebt)
  { cash
    tenderClearing := position.tenderClearing
    inventoryValue := position.inventoryValue
    fixedAssetsGross := (position.fixedAssets.map DepreciatedAsset.capitalizationAmount).sum
    accumulatedDepreciation := (position.fixedAssets.map effectiveDepreciation).sum
    supplierPayables := position.supplierPayables
    taxPayable
    accruedLiabilities := position.accruedCurrent + position.accruedNonCurrent
    currentPortionLongTermDebt := position.currentPortion
    longTermDebt := position.nonCurrentDebt
    equity := totalAssets - totalLiabilities }

def buildOpeningBalanceLines (bs : LegacyBalanceSheet) : List JournalLineInput :=
  let accruedTotal := round2 bs.accruedLiabilities
  let longTermTotal := round2 (bs.currentPortionLongTermDebt + bs.longTermDebt)
  [{ accountCode := GlAccountCode.cash.code, debit := some (round2 bs.cash) },
    { accountCode := GlAccountCode.tenderClearing.code, debit := some (round2 bs.tenderClearing) },
    { accountCode := GlAccountCode.inventory.code, debit := some (round2 bs.inventoryValue) },
    { accountCode := GlAccountCode.fixedAssets.code, debit := some (round2 bs.fixedAssetsGross) },
    { accountCode := GlAccountCode.accumulatedDepreciation.code, credit := some (round2 bs.accumulatedDepreciation) },
    { accountCode := GlAccountCode.supplierPayables.code, credit := some (round2 bs.supplierPayables) },
    { accountCode := GlAccountCode.taxPayable.code, credit := some (round2 bs.taxPayable) },
    { accountCode := GlAccountCode.accruedLiabilities.code, credit := some accruedTotal },
    { accountCode := GlAccountCode.longTermDebt.code, credit := some longTermTotal },
    { accountCode := GlAccountCode.ownerEquity.code, credit := some (round2 bs.equity) }].filter fun line =>
      amountOf line.debit > 0 ∨ amountOf line.credit > 0

/-- The entry of `seedOpeningBalance`; `toISOString` is that of the runtime. -/
def openingEntry (toISOString : ℤ → String) (branchId : ℕ) (asOfAt : ℤ) (position : BranchPosition) :
    PostJournalEntryInput where
  branchId
  occurredAt := asOfAt
  sourceType := .openingBalance
  sourceId := some s!"opening-{branchId}"
  idempotencyKey := s!"opening-balance-{branchId}"
  currency := some position.currency
  memo := some s!"Opening balances as of {toISOString asOfAt}"
  lines := buildOpeningBalanceLines (getBalanceSheet position)

/-- The id of the entry, or nothing when there was none to post. -/
def seedOpeningBalance (toISOString : ℤ → String) (now : ℤ) (branchId : ℕ) (asOfAt : ℤ)
    (position : BranchPosition) : GlProc (Option ℕ) := do
  let input := openingEntry toISOString branchId asOfAt position
  if input.lines.length = 0 then return none
  else
    let entry ← post now input false
    return some entry.id

end OpeningBalances

end SuuqBackend
