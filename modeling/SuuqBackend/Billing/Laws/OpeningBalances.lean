import SuuqBackend.Accounting.Laws.LedgerStatements
import SuuqBackend.Accounting.Laws.SourceNets
import SuuqBackend.Billing.OpeningBalances
import Mathlib.Algebra.Order.BigOperators.Group.List

/-!
# When the opening balances carry a branch over

Owner equity is what makes the entry balance, but it is rounded like the other nine amounts, it is dropped when it is
negative, and it was computed from the book values of the fixed assets, of which the lines hold the cost and the
depreciation.

* `balance_seeded`: what each account stands at after an entry that was accepted.
* `opening_balances_iff`: when the entry is accepted and every account stands at its figure, in cents.
-/

namespace SuuqBackend

open GeneralLedger OpeningBalances

/-! ### Lines that carry amounts over -/

/-- What an account stands at on the balance sheet of a branch. -/
def BranchPosition.figure (position : BranchPosition) (account : GlAccountCode) : ℚ :=
  let bs := getBalanceSheet position
  match account with
  | .cash => bs.cash
  | .tenderClearing => bs.tenderClearing
  | .inventory => bs.inventoryValue
  | .fixedAssets => bs.fixedAssetsGross
  | .accumulatedDepreciation => bs.accumulatedDepreciation
  | .supplierPayables => bs.supplierPayables
  | .taxPayable => bs.taxPayable
  | .accruedLiabilities => bs.accruedLiabilities
  | .longTermDebt => bs.currentPortionLongTermDebt + bs.longTermDebt
  | .ownerEquity => bs.equity
  | _ => 0

/-- The figure of an account in cents. -/
abbrev BranchPosition.opening (position : BranchPosition) (account : GlAccountCode) : ℚ :=
  round2 (position.figure account)

def openingAccounts : List GlAccountCode :=
  [.cash, .tenderClearing, .inventory, .fixedAssets, .accumulatedDepreciation, .supplierPayables, .taxPayable,
    .accruedLiabilities, .longTermDebt, .ownerEquity]

/-- 1 for an account that normally has a debit balance, otherwise -1. -/
def sideOf (account : GlAccountCode) : ℚ := if account.normalBalance = .credit then -1 else 1

/-- The line that carries an amount over, on the side where its account normally stands. -/
def carriedLine (f : GlAccountCode → ℚ) (account : GlAccountCode) : JournalLineInput :=
  if account.normalBalance = .credit then { accountCode := account.code, credit := some (f account) }
  else { accountCode := account.code, debit := some (f account) }

def carriedLines (f : GlAccountCode → ℚ) (accounts : List GlAccountCode) : List JournalLineInput :=
  (accounts.map (carriedLine f)).filter fun line => amountOf line.debit > 0 ∨ amountOf line.credit > 0

section Lines

variable (f : GlAccountCode → ℚ) (account : GlAccountCode) (accounts : List GlAccountCode)

theorem carriedLine_spec : (carriedLine f account).accountCode = account.code ∧
    amountOf (carriedLine f account).debit - amountOf (carriedLine f account).credit =
      sideOf account * f account ∧
    ((amountOf (carriedLine f account).debit > 0 ∨ amountOf (carriedLine f account).credit > 0) ↔ 0 < f account) := by
  unfold carriedLine sideOf
  split_ifs <;> simp [amountOf]

theorem carriedLines_cons : carriedLines f (account :: accounts) =
    (if 0 < f account then [carriedLine f account] else []) ++ carriedLines f accounts := by
  have hkept := (carriedLine_spec f account).2.2
  unfold carriedLines
  split_ifs with hpos
  · rw [List.map_cons, List.filter_cons_of_pos (by simpa using hkept.mpr hpos)]
    rfl
  · rw [List.map_cons, List.filter_cons_of_neg (by simpa using mt hkept.mp hpos)]
    rfl

theorem lineAccepted_carriedLines : ∀ line ∈ carriedLines f accounts, LineAccepted line := by
  intro line hline
  obtain ⟨hline, hkept⟩ := List.mem_filter.mp hline
  obtain ⟨account, -, rfl⟩ := List.mem_map.mp hline
  have hpos := (carriedLine_spec f account).2.2.mp (by simpa using hkept)
  unfold carriedLine
  split_ifs
  · exact lineAccepted_credit account hpos.le
  · exact lineAccepted_debit account hpos.le

theorem debits_sub_credits_carriedLines : debits (carriedLines f accounts) - credits (carriedLines f accounts) =
    (accounts.map fun account => sideOf account * max 0 (f account)).sum := by
  induction accounts with
  | nil => exact sub_self 0
  | cons account accounts ih =>
    rw [carriedLines_cons, debits_append, credits_append, add_sub_add_comm, List.map_cons]
    congr 1
    split_ifs with hpos
    · rw [max_eq_right hpos.le, ← (carriedLine_spec f account).2.1]
      simp [debits, credits]
    · rw [max_eq_left (not_lt.mp hpos), mul_zero]
      exact sub_self 0

theorem inputEffect_carriedLines (hcents : ∀ account, round2 (f account) = f account) (hnodup : accounts.Nodup) :
    inputEffect (carriedLines f accounts) account.code =
      if account ∈ accounts then sideOf account * max 0 (f account) else 0 := by
  induction accounts with
  | nil => rfl
  | cons account' accounts ih =>
    obtain ⟨hnew, hnodup⟩ := List.nodup_cons.mp hnodup
    obtain ⟨hcode, -, -⟩ := carriedLine_spec f account'
    have hone : inputEffect (if 0 < f account' then [carriedLine f account'] else []) account.code =
        if account' = account then sideOf account' * max 0 (f account') else 0 := by
      split_ifs with hpos hsame hsame
      · rw [max_eq_right hpos.le, inputEffect_cons, hcode, if_pos (by rw [hsame])]
        unfold carriedLine sideOf
        split_ifs <;> simp [amountOf, hcents, round2_zero]
      · rw [inputEffect_cons, inputEffect_nil, hcode, if_neg (mt code_inj.mp hsame), add_zero]
      · rw [max_eq_left (not_lt.mp hpos), mul_zero]
        rfl
      · rfl
    rw [carriedLines_cons, inputEffect_append, ih hnodup, hone]
    by_cases hsame : account' = account
    · subst hsame
      simp [hnew]
    · simp [hsame, Ne.symm hsame]

end Lines

/-! ### The fixed assets -/

/-- By how much the salvage value of an asset exceeds its cost less depreciation. -/
def overBook (asset : DepreciatedAsset) : ℚ :=
  max 0 (asset.salvageValue - (asset.capitalizationAmount - effectiveDepreciation asset))

theorem sum_netBookValue (assets : List DepreciatedAsset) : (assets.map netBookValue).sum =
    (assets.map DepreciatedAsset.capitalizationAmount).sum - (assets.map effectiveDepreciation).sum +
      (assets.map overBook).sum := by
  have hbook : ∀ asset, netBookValue asset =
      asset.capitalizationAmount - effectiveDepreciation asset + overBook asset := by
    intro asset
    rw [netBookValue, overBook, ← max_add_add_left, add_zero, add_sub_cancel, max_comm]
  induction assets with
  | nil => simp
  | cons asset assets ih =>
    simp only [List.map_cons, List.sum_cons, ih, hbook]
    ring

theorem sum_figures (position : BranchPosition) :
    (openingAccounts.map fun account => sideOf account * position.figure account).sum =
      -(position.fixedAssets.map overBook).sum := by
  simp only [openingAccounts, List.map_cons, List.map_nil, List.sum_cons, List.sum_nil, sideOf,
    GlAccountCode.normalBalance, BranchPosition.figure, getBalanceSheet, sum_netBookValue, reduceCtorEq, if_true,
    if_false]
  ring

/-! ### The entry -/

section Entry

variable (toISOString : ℤ → String) (now : ℤ) (branchId : ℕ) (asOfAt : ℤ) (position : BranchPosition)

theorem lines_openingEntry : (openingEntry toISOString branchId asOfAt position).lines =
    carriedLines position.opening openingAccounts := rfl

theorem figure_of_not_mem {account : GlAccountCode} (h : account ∉ openingAccounts) : position.figure account = 0 := by
  cases account <;> first | rfl | exact absurd (by decide) h

theorem balance_seeded (hok : assertBalanced (openingEntry toISOString branchId asOfAt position) = .ok ())
    (account : GlAccountCode) :
    balance ((seedOpeningBalance toISOString now branchId asOfAt position).run emptyJournal).2 branchId account.code {} =
      max 0 (position.opening account) := by
  have hlength := (assertBalanced_ok_iff.mp hok).2.1
  obtain ⟨entry, hrun⟩ := run_post_of_ok hok now false emptyJournal
  have hstate : ((seedOpeningBalance toISOString now branchId asOfAt position).run emptyJournal).2 =
      emptyJournal.posted now (openingEntry toISOString branchId asOfAt position) := by
    unfold seedOpeningBalance
    rw [if_neg (by omega), Proc.run_bind, hrun]
    show emptyJournal.entered now _ = _
    exact if_pos rfl
  have hrows : (emptyJournal.posted now (openingEntry toISOString branchId asOfAt position)).lines.filter
      (fun l => l.branchId = branchId ∧ l.accountCode = account.code ∧ BalanceRange.Holds {} l.occurredAt) =
        (storedLines 1 (openingEntry toISOString branchId asOfAt position)).filter fun l =>
          l.accountCode = account.code := by
    refine List.filter_congr fun l hl => ?_
    obtain ⟨line, -, rfl⟩ := List.mem_map.mp hl
    simp [openingEntry, BalanceRange.Holds]
  rw [hstate, balance, hrows, sumDebit, sumCredit, ← net_eq_sub, net_filter_storedLines (assertBalanced_eq_ok hok),
    GlAccountCode.normalBalanceSign_code, lines_openingEntry,
    inputEffect_carriedLines _ _ _ (fun _ => round2_round2 _) (by decide)]
  split_ifs with hmem hcredit hcredit
  · rw [sideOf, if_pos hcredit]
    push_cast
    rw [neg_one_mul, neg_mul_neg, mul_one, round2_of_mem (max_zero_mem_cents (round2_mem _))]
  · rw [sideOf, if_neg hcredit]
    push_cast
    rw [one_mul, mul_one, round2_of_mem (max_zero_mem_cents (round2_mem _))]
  all_goals rw [zero_mul, BranchPosition.opening, figure_of_not_mem _ hmem, round2_zero, max_self]

theorem eq_zero_of_tolerated {x : ℚ} (hcents : x ∈ cents) (h : |x| ≤ balanceTolerance) : x = 0 := by
  obtain ⟨n, rfl⟩ := mem_cents_iff.mp hcents
  obtain ⟨hlow, hhigh⟩ := abs_le.mp h
  unfold balanceTolerance at hlow hhigh
  have hlt : n < 1 := by exact_mod_cast (by linarith : (n : ℚ) < 1)
  have hgt : -1 < n := by exact_mod_cast (by linarith : (-1 : ℚ) < n)
  rw [show n = 0 by omega, Int.cast_zero, zero_div]

theorem assertBalanced_openingEntry_iff :
    assertBalanced (openingEntry toISOString branchId asOfAt position) = .ok () ↔
      (∃ account ∈ openingAccounts, 0 < position.opening account) ∧
        (openingAccounts.map fun account => sideOf account * max 0 (position.opening account)).sum = 0 := by
  have hkey : (openingEntry toISOString branchId asOfAt position).idempotencyKey ≠ "" := fun hempty =>
    absurd (String.append_eq_empty_iff.mp hempty).1 (by decide)
  have haccepted := lineAccepted_carriedLines position.opening openingAccounts
  rw [← debits_sub_credits_carriedLines]
  constructor
  · intro hok
    obtain ⟨-, hlength, -, htolerance, -⟩ := assertBalanced_ok_iff.mp hok
    rw [lines_openingEntry] at hlength htolerance
    refine ⟨?_, eq_zero_of_tolerated ?_ htolerance⟩
    · obtain ⟨line, hline⟩ := List.exists_mem_of_length_pos (Nat.lt_of_lt_of_le Nat.zero_lt_two hlength)
      obtain ⟨hline, hkept⟩ := List.mem_filter.mp hline
      obtain ⟨account, haccount, rfl⟩ := List.mem_map.mp hline
      exact ⟨account, haccount, (carriedLine_spec _ account).2.2.mp (by simpa using hkept)⟩
    · rw [debits_sub_credits_carriedLines]
      refine sum_mem_cents fun account _ => ?_
      unfold sideOf
      split_ifs
      · rw [neg_one_mul]
        exact neg_mem (max_zero_mem_cents (round2_mem _))
      · rw [one_mul]
        exact max_zero_mem_cents (round2_mem _)
  · rintro ⟨⟨account, haccount, hpos⟩, hbalanced⟩
    have hbalanced := sub_eq_zero.mp hbalanced
    refine assertBalanced_ok_of_balanced hkey ?_ ?_ ?_ <;> rw [lines_openingEntry]
    · exact haccepted
    · -- the line of the account stands on one side, and both are equal
      have hsides := (carriedLine_spec position.opening account).2.2.mpr hpos
      have hline : carriedLine position.opening account ∈ carriedLines position.opening openingAccounts :=
        List.mem_filter.mpr ⟨List.mem_map_of_mem haccount, by simpa using hsides⟩
      rcases hsides with hside | hside
      · refine lt_of_lt_of_le hside (List.single_le_sum ?_ _ (List.mem_map_of_mem hline))
        simpa using fun line hline => (haccepted line hline).2.1
      · rw [hbalanced]
        refine lt_of_lt_of_le hside (List.single_le_sum ?_ _ (List.mem_map_of_mem hline))
        simpa using fun line hline => (haccepted line hline).2.2.1
    · exact hbalanced

/-- The equity is not negative in cents, there is something to carry over, and what the roundings add to the sides of
the entry makes up for assets whose salvage value exceeds their book value. -/
def CarriesOver (position : BranchPosition) : Prop :=
  0 ≤ position.opening .ownerEquity ∧ (∃ account ∈ openingAccounts, 0 < position.opening account) ∧
    (openingAccounts.map fun account => sideOf account * (position.opening account - position.figure account)).sum =
      (position.fixedAssets.map overBook).sum

/-- **When the books open in balance.**  On a balance sheet without negative assets or liabilities, the entry is
accepted and leaves every account at its figure in cents exactly when the sheet carries over. -/
theorem opening_balances_iff (h : ∀ account, account ≠ .ownerEquity → 0 ≤ position.figure account) :
    (assertBalanced (openingEntry toISOString branchId asOfAt position) = .ok () ∧ ∀ account,
      balance ((seedOpeningBalance toISOString now branchId asOfAt position).run emptyJournal).2 branchId account.code {} =
        position.opening account) ↔ CarriesOver position := by
  have hsides (hmax : ∀ account, max 0 (position.opening account) = position.opening account) :
      (openingAccounts.map fun account => sideOf account * max 0 (position.opening account)).sum =
        (openingAccounts.map fun account => sideOf account * (position.opening account - position.figure account)).sum -
          (position.fixedAssets.map overBook).sum := by
    have hfigures := sum_figures position
    simp only [hmax, openingAccounts, List.map_cons, List.map_nil, List.sum_cons, List.sum_nil] at hfigures ⊢
    linarith
  constructor
  · rintro ⟨hok, hbalances⟩
    have hmax := fun account =>
      (balance_seeded toISOString now branchId asOfAt position hok account).symm.trans (hbalances account)
    obtain ⟨hsome, hbalanced⟩ := (assertBalanced_openingEntry_iff ..).mp hok
    rw [hsides hmax] at hbalanced
    exact ⟨max_eq_right_iff.mp (hmax .ownerEquity), hsome, sub_eq_zero.mp hbalanced⟩
  · rintro ⟨hequity, hsome, hdrift⟩
    have hmax : ∀ account, max 0 (position.opening account) = position.opening account := by
      intro account
      by_cases howner : account = .ownerEquity
      · rw [howner]
        exact max_eq_right hequity
      · exact max_eq_right (round2_nonneg (h account howner))
    have hok := (assertBalanced_openingEntry_iff toISOString branchId asOfAt position).mpr
      ⟨hsome, by rw [hsides hmax, hdrift, sub_self]⟩
    exact ⟨hok, fun account => (balance_seeded toISOString now branchId asOfAt position hok account).trans (hmax account)⟩

end Entry

/-- A branch with stock for 150 and an unpaid order of 30. -/
def soundPosition : BranchPosition := { cashOnHand := 100, inventoryValue := 50, supplierPayables := 30 }

theorem soundPosition_opens : assertBalanced (openingEntry toString 1 0 soundPosition) = .ok () :=
  ((opening_balances_iff toString 0 1 0 soundPosition fun account _ => by
    cases account <;> decide +kernel).mpr ⟨by decide +kernel, ⟨.cash, by decide, by decide +kernel⟩, by decide +kernel⟩).1

/-- A branch that owes more than it has: its negative equity is dropped. -/
theorem insolvent_not_opened : assertBalanced
    (openingEntry toString 1 0 { cashOnHand := 50, supplierPayables := 80 }) ≠ .ok () := by
  intro hok
  have hbalanced := (assertBalanced_ok_iff.mp hok).2.2.2.1
  exact absurd hbalanced (by decide +kernel)

end SuuqBackend
