import SuuqBackend.PosSync.PosCheckouts
import Mathlib.Data.List.Sort

/-!
# Tax summaries

`getTaxSummary` of the checkouts: the tax of the processed checkouts of a branch, by rate and by shift; and
`getCheckoutTaxAmount`, the tax of a checkout in the financial reports.  The labels of the rates are left out.
-/

namespace SuuqBackend

structure TaxSummaryQuery where
  branchId : ℕ
  fromAt : Option Date := none
  toAt : Option Date := none
  registerSessionId : Option ℕ := none

structure RateBucket where
  rate : ℚ
  taxableBase : ℚ := 0
  taxAmount : ℚ := 0
  lineCount : ℕ := 0

structure ShiftBucket where
  registerSessionId : Option ℕ
  registerId : Option String
  taxableBase : ℚ := 0
  zeroRatedBase : ℚ := 0
  taxAmount : ℚ := 0

/-- The variables of the loop; the maps list their entries in the order of insertion. -/
structure TaxTally where
  rateMap : List (ℚ × RateBucket) := []
  shiftMap : List (String × ShiftBucket) := []
  currency : String := "ETB"
  taxableBase : ℚ := 0
  zeroRatedBase : ℚ := 0
  taxAmount : ℚ := 0
  settledCount : ℕ := 0
  returnCount : ℕ := 0

structure TaxSummaryShift extends ShiftBucket where
  effectiveRate : ℚ

structure TaxSummary where
  currency : String
  taxableBase : ℚ
  zeroRatedBase : ℚ
  taxAmount : ℚ
  effectiveRate : ℚ
  settledCount : ℕ
  returnCount : ℕ
  breakdown : List RateBucket
  shifts : List TaxSummaryShift

namespace TaxSummaries

open GeneralLedger (amountOf)

/-- The entry of a key is changed; if there is none, it is made first. -/
def upsert {κ β : Type} [DecidableEq κ] (key : κ) (initial : β) (f : β → β) : List (κ × β) → List (κ × β)
  | [] => [(key, f initial)]
  | (k, b) :: rest => if k = key then (k, f b) :: rest else (k, b) :: upsert key initial f rest

def getCheckoutSign (checkout : PosCheckout) : ℚ := if checkout.transactionType = .returned then -1 else 1

/-! ### The tax of a line -/

def lineTax (line : PosCheckoutItem) : ℚ := amountOf line.taxAmount

def lineTaxableBase (line : PosCheckoutItem) : ℚ := line.taxableBase.getD (amountOf line.lineTotal - lineTax line)

/-- `Number(null)` is 0. -/
def lineRate (line : PosCheckoutItem) : ℚ :=
  match line.taxRate with
  | some rate => rate.getD 0
  | none => if lineTaxableBase line > 0 then lineTax line / lineTaxableBase line else 0

def linesTax (checkout : PosCheckout) : ℚ := (checkout.items.map lineTax).sum

def getCheckoutTaxAmount (checkout : PosCheckout) : ℚ :=
  if checkout.taxAmount > 0 then checkout.taxAmount else linesTax checkout

/-! ### The loop -/

section Loop

variable (checkout : PosCheckout)

def shiftKey : String :=
  match checkout.registerSessionId, checkout.registerId.filter (· ≠ "") with
  | some id, _ => s!"session-{id}"
  | none, some registerId => s!"register-{registerId}"
  | none, none => "unassigned"

def newShift : ShiftBucket where
  registerSessionId := checkout.registerSessionId
  registerId := checkout.registerId

/-- What the loop does with the tax of a line, and of a checkout without lines. -/
def addTax (rate base tax : ℚ) (s : TaxTally) : TaxTally :=
  let sign := getCheckoutSign checkout
  let rateKey := (round (rate * 10000) : ℚ) / 10000
  let taxed := if rateKey = 0 then 0 else sign * base
  let zeroRated := if rateKey = 0 then sign * base else 0
  { s with
    rateMap := upsert rateKey { rate := rateKey } (fun bucket => { bucket with
      taxableBase := bucket.taxableBase + sign * base
      taxAmount := bucket.taxAmount + sign * tax
      lineCount := bucket.lineCount + 1 }) s.rateMap
    shiftMap := upsert (shiftKey checkout) (newShift checkout) (fun shift => { shift with
      taxableBase := shift.taxableBase + taxed
      zeroRatedBase := shift.zeroRatedBase + zeroRated
      taxAmount := shift.taxAmount + sign * tax }) s.shiftMap
    taxableBase := s.taxableBase + taxed
    zeroRatedBase := s.zeroRatedBase + zeroRated
    taxAmount := s.taxAmount + sign * tax }

def addLine (s : TaxTally) (line : PosCheckoutItem) : TaxTally :=
  addTax checkout (lineRate line) (lineTaxableBase line) (lineTax line) s

/-- The fallback to the totals of a checkout whose lines were not recorded. -/
def addTotals (s : TaxTally) : TaxTally :=
  if checkout.taxAmount = 0 then s
  else
    let taxable := max 0 (checkout.total - checkout.taxAmount)
    addTax checkout (if taxable > 0 then checkout.taxAmount / taxable else 0) taxable checkout.taxAmount s

end Loop

/-- The body of the loop before the lines. -/
def countCheckout (s : TaxTally) (checkout : PosCheckout) : TaxTally :=
  let returns := if checkout.transactionType = .returned then 1 else 0
  { s with
    currency := if checkout.currency = "" then s.currency else checkout.currency
    settledCount := s.settledCount + (1 - returns)
    returnCount := s.returnCount + returns
    shiftMap := upsert (shiftKey checkout) (newShift checkout) id s.shiftMap }

def addCheckout (s : TaxTally) (checkout : PosCheckout) : TaxTally :=
  if checkout.items = [] then addTotals checkout (countCheckout s checkout)
  else checkout.items.foldl (addLine checkout) (countCheckout s checkout)

/-! ### The response -/

def toCents (value : ℚ) : ℚ := round (value * 100) / 100

def breakdown (s : TaxTally) : List RateBucket :=
  (s.rateMap.map fun entry => { entry.2 with
    taxableBase := toCents entry.2.taxableBase
    taxAmount := toCents entry.2.taxAmount }).insertionSort fun left right => right.rate ≤ left.rate

def effectiveRate (taxAmount taxableBase : ℚ) : ℚ := if taxableBase > 0 then taxAmount / taxableBase else 0

def shifts (s : TaxTally) : List TaxSummaryShift :=
  (s.shiftMap.map fun entry => ({
    registerSessionId := entry.2.registerSessionId
    registerId := entry.2.registerId
    taxableBase := toCents entry.2.taxableBase
    zeroRatedBase := toCents entry.2.zeroRatedBase
    taxAmount := toCents entry.2.taxAmount
    effectiveRate := effectiveRate entry.2.taxAmount entry.2.taxableBase } : TaxSummaryShift)).insertionSort
      fun left right => right.taxAmount ≤ left.taxAmount

def summarize (checkouts : List PosCheckout) : TaxSummary :=
  let s := checkouts.foldl addCheckout {}
  { currency := s.currency
    taxableBase := toCents s.taxableBase
    zeroRatedBase := toCents s.zeroRatedBase
    taxAmount := toCents s.taxAmount
    effectiveRate := effectiveRate s.taxAmount s.taxableBase
    settledCount := s.settledCount
    returnCount := s.returnCount
    breakdown := TaxSummaries.breakdown s
    shifts := TaxSummaries.shifts s }

def Matches (query : TaxSummaryQuery) (checkout : PosCheckout) : Prop :=
  checkout.branchId = query.branchId ∧ checkout.status = .processed ∧
    (∀ fromAt ∈ query.fromAt, checkout.occurredAt ≥ fromAt) ∧ (∀ toAt ∈ query.toAt, checkout.occurredAt ≤ toAt) ∧
    ∀ id ∈ query.registerSessionId, id ≠ 0 → checkout.registerSessionId = some id
deriving Decidable

def getTaxSummary (query : TaxSummaryQuery) : PosCheckoutProc TaxSummary := do
  let checkouts ← Proc.read fun S : PosCheckoutStore => S.checkouts.list fun checkout => Matches query checkout
  return summarize (checkouts.map Prod.snd)

end TaxSummaries

end SuuqBackend
