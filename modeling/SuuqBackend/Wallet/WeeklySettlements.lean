import SuuqBackend.Wallet.Wallets

/-!
# The weekly settlements

`processWeeklySettlements` settles what vendors earned in the week before the present one, from Monday to Sunday.  Dates
hold milliseconds, the columns of the database microseconds; the clock of the server is in UTC.
-/

namespace SuuqBackend

/-- A row of `wallet_transaction`, with the user of its wallet and whether its order is disputed.  A user has one
wallet, so the groups of the query are those of the users. -/
structure DatedTransaction where
  vendorId : Option ℕ
  type : TransactionType
  amount : ℚ
  disputed : Bool := false
  /-- In microseconds. -/
  createdAt : ℤ

/-- A row of `settlements`, with the two ends of its week. -/
structure Settlement where
  vendorId : ℕ
  amount : ℚ
  grossSales : ℚ
  platformFee : ℚ
  gatewayFee : ℚ
  periodStart : ℤ
  periodEnd : ℤ

structure SettlementStore where
  users : List ℕ
  transactions : List DatedTransaction
  settlements : List Settlement := []

namespace WeeklySettlements

def msPerWeek : ℤ := 604800000

/-- From a Monday to 1970-01-01, a Thursday. -/
def mondayOffset : ℤ := 259200000

/-- The weeks that begin on a Monday, counted from that of 1970-01-01. -/
def weekOf (t : ℤ) : ℤ := (t + mondayOffset) / msPerWeek

def startOfWeek (t : ℤ) : ℤ := weekOf t * msPerWeek - mondayOffset

def endOfWeek (t : ℤ) : ℤ := startOfWeek t + msPerWeek - 1

/-- The conditions of the query. -/
def Earned (lastWeekStart lastWeekEnd : ℤ) (tx : DatedTransaction) : Prop :=
  tx.type = .earning ∧ lastWeekStart * 1000 ≤ tx.createdAt ∧ tx.createdAt ≤ lastWeekEnd * 1000 ∧ tx.disputed = false
deriving Decidable

/-- `SUM(tx.amount)` of the group of a vendor. -/
def totalNet (earnings : List DatedTransaction) (vendorId : Option ℕ) : ℚ :=
  ((earnings.filter fun tx => tx.vendorId = vendorId).map DatedTransaction.amount).sum

/-- One round of the loop of `processWeeklySettlements`. -/
def settlementOf (users : List ℕ) (lastWeekStart lastWeekEnd : ℤ) (earnings : List DatedTransaction)
    (vendorId : Option ℕ) : Option Settlement :=
  let netAmount := totalNet earnings vendorId
  match vendorId with
  | none => none
  | some id =>
    if netAmount ≤ 0 then none
    else if id ∉ users then none
    else
      let commissionRate := 0
      let gatewayRate := 1 / 100
      let grossEstimated := netAmount / (1 - (commissionRate + gatewayRate))
      some
        { vendorId := id
          amount := netAmount
          grossSales := grossEstimated
          platformFee := grossEstimated * commissionRate
          gatewayFee := grossEstimated * gatewayRate
          periodStart := lastWeekStart
          periodEnd := lastWeekEnd }

/-- The settlements that a run makes. -/
def weeklySettlements (s : SettlementStore) (now : ℤ) : List Settlement :=
  let lastWeekEnd := endOfWeek (now - msPerWeek)
  let lastWeekStart := startOfWeek (now - msPerWeek)
  let earnings := s.transactions.filter (Earned lastWeekStart lastWeekEnd)
  (earnings.map DatedTransaction.vendorId).dedup.filterMap (settlementOf s.users lastWeekStart lastWeekEnd earnings)

def processWeeklySettlements (s : SettlementStore) (now : ℤ) : SettlementStore :=
  { s with settlements := s.settlements ++ weeklySettlements s now }

end WeeklySettlements

end SuuqBackend
