import SuuqBackend.Lib.Lists
import SuuqBackend.Accounting.LedgerStatements
import SuuqBackend.Accounting.Laws.Cents
import Mathlib.Algebra.Order.Group.MinMax

/-!
# The statements agree with each other

Every statement is a sum over accounts of `accountNet`, the debits less the credits of one account at
a branch.  Over all accounts of the chart these sum to zero (`sum_accountNet`), because the lines of
one entry lie at one branch and one instant and balance.  The statements divide that sum among
themselves: the trial balance by its sign, the balance sheet and the profit and loss account by the
type of the account.

* `getTrialBalance_eq`, `getBalanceSheet_eq`, `netProfit_eq`: what each statement reports.
* `statements_agree`: the statements of a branch agree, and count every account once.
* `sheets_articulate`: two balance sheets differ by what was earned and paid in between.
* `closed_periods_kept`: what is dated later leaves a statement as it is.
-/

namespace SuuqBackend

open GeneralLedger LedgerStatements

/-! ### The chart -/

namespace GlAccountCode

variable (account : GlAccountCode)

theorem mem_seed : account ∈ seed := by
  cases account <;> decide

theorem nodup_seed : seed.Nodup := by decide

theorem nodup_codes : (seed.map code).Nodup := by decide

theorem getGlAccountMeta_code : getGlAccountMeta account.code = some account := by
  cases account <;> rfl

theorem normalBalanceSign_code :
    normalBalanceSign account.code = if account.normalBalance = .credit then -1 else 1 := by
  rw [normalBalanceSign, getGlAccountMeta_code, Option.map_some]
  simp only [Option.some.injEq]

theorem exists_of_isGlAccountCode {code : String} (h : isGlAccountCode code = true) :
    ∃ account : GlAccountCode, account.code = code := by
  obtain ⟨account, -, heq⟩ := List.any_eq_true.mp h
  exact ⟨account, eq_of_beq heq⟩

end GlAccountCode

/-! ### What the lines satisfy -/

/-- The lines name accounts of the chart and hold whole cents; those of one entry lie at one branch and
one instant, and balance. -/
structure GlStore.WellKept (s : GlStore) : Prop where
  inChart : ∀ l ∈ s.lines, isGlAccountCode l.accountCode = true
  inCents : ∀ l ∈ s.lines, l.debit ∈ cents ∧ l.credit ∈ cents
  denormalized : ∀ l ∈ s.lines, ∀ l' ∈ s.lines, l.entryId = l'.entryId →
    l.branchId = l'.branchId ∧ l.occurredAt = l'.occurredAt
  entryBalanced : ∀ entryId, s.entryNet entryId = 0

def GlStore.rowsIn (s : GlStore) (branchId : ℕ) (range : BalanceRange) : List GlJournalLine :=
  s.lines.filter fun l => l.branchId = branchId ∧ range.Holds l.occurredAt

/-- The debits less the credits of an account at a branch in a range. -/
def GlStore.accountNet (s : GlStore) (branchId : ℕ) (range : BalanceRange) (account : GlAccountCode) : ℚ :=
  net ((s.rowsIn branchId range).filter fun l => l.accountCode = account.code)

/-- The debits less the credits of the accounts of one type. -/
def GlStore.typeNet (s : GlStore) (branchId : ℕ) (range : BalanceRange) (type : GlAccountType) : ℚ :=
  ((GlAccountCode.seed.filter fun account => account.type = type).map (s.accountNet branchId range)).sum

section Nets

variable {s : GlStore} (h : s.WellKept) (branchId : ℕ) (range : BalanceRange)

include h

theorem accountNet_mem (account : GlAccountCode) : s.accountNet branchId range account ∈ cents := by
  refine sum_mem_cents fun l hl => ?_
  have hmem : l ∈ s.lines := (List.mem_filter.mp (List.mem_filter.mp hl).1).1
  exact sub_mem (h.inCents l hmem).1 (h.inCents l hmem).2

theorem balance_eq (account : GlAccountCode) :
    balance s branchId account.code range =
      s.accountNet branchId range account * if account.normalBalance = .credit then -1 else 1 := by
  have hrows : s.lines.filter (fun l => l.branchId = branchId ∧ l.accountCode = account.code ∧
      range.Holds l.occurredAt) = (s.rowsIn branchId range).filter fun l => l.accountCode = account.code := by
    rw [GlStore.rowsIn, List.filter_filter]
    refine List.filter_congr fun l _ => ?_
    rw [← Bool.decide_and, decide_eq_decide]
    tauto
  have hnet := net_eq_sub ((s.rowsIn branchId range).filter fun l => l.accountCode = account.code)
  have hmem := accountNet_mem h branchId range account
  rw [balance, hrows, GlAccountCode.normalBalanceSign_code, sumDebit, sumCredit, ← hnet, GlStore.accountNet]
  split_ifs
  · push_cast
    rw [mul_neg_one]
    exact round2_of_mem (neg_mem hmem)
  · push_cast
    rw [mul_one]
    exact round2_of_mem hmem

theorem groupSum_entry_rowsIn (entryId : ℕ) :
    groupSum GlJournalLine.entryId (fun l => l.debit - l.credit) (s.rowsIn branchId range) entryId = 0 := by
  unfold groupSum GlStore.rowsIn
  rw [List.filter_filter]
  by_cases hin : ∃ l ∈ s.lines, l.entryId = entryId ∧ l.branchId = branchId ∧ range.Holds l.occurredAt
  · obtain ⟨l, hl, hid, hbranch, hrange⟩ := hin
    have hall : s.lines.filter (fun l => decide (l.entryId = entryId) &&
        decide (l.branchId = branchId ∧ range.Holds l.occurredAt)) = s.lines.filter fun l => l.entryId = entryId := by
      refine List.filter_congr fun l' hl' => ?_
      rw [← Bool.decide_and, decide_eq_decide]
      refine ⟨fun hl' => hl'.1, fun hid' => ⟨hid', ?_⟩⟩
      obtain ⟨hb, ht⟩ := h.denormalized l hl l' hl' (hid.trans hid'.symm)
      rw [← hb, ← ht]
      exact ⟨hbranch, hrange⟩
    rw [hall]
    exact h.entryBalanced entryId
  · have hnone : s.lines.filter (fun l => decide (l.entryId = entryId) &&
        decide (l.branchId = branchId ∧ range.Holds l.occurredAt)) = [] := by
      refine List.filter_eq_nil_iff.mpr fun l hl => ?_
      rw [← Bool.decide_and, decide_eq_true_eq]
      exact fun hl' => hin ⟨l, hl, hl'⟩
    rw [hnone]
    rfl

theorem sum_accountNet : (GlAccountCode.seed.map (s.accountNet branchId range)).sum = 0 := by
  have hcover : ∀ l ∈ s.rowsIn branchId range, l.accountCode ∈ GlAccountCode.seed.map GlAccountCode.code := by
    intro l hl
    obtain ⟨account, heq⟩ :=
      GlAccountCode.exists_of_isGlAccountCode (h.inChart l (List.mem_filter.mp hl).1)
    exact List.mem_map.mpr ⟨account, account.mem_seed, heq⟩
  have hgroups := sum_groups (v := fun l : GlJournalLine => l.debit - l.credit) GlAccountCode.nodup_codes hcover
  exact hgroups.trans (sum_eq_zero_of_groups (groupSum_entry_rowsIn h branchId range))

theorem sum_typeNet : s.typeNet branchId range .asset + s.typeNet branchId range .liability +
    s.typeNet branchId range .equity + s.typeNet branchId range .revenue + s.typeNet branchId range .expense = 0 := by
  have hsplit := sum_accountNet h branchId range
  have hseed : GlAccountCode.seed =
      (GlAccountCode.seed.filter fun account => account.type = .asset) ++
      (GlAccountCode.seed.filter fun account => account.type = .liability) ++
      (GlAccountCode.seed.filter fun account => account.type = .equity) ++
      (GlAccountCode.seed.filter fun account => account.type = .revenue) ++
      (GlAccountCode.seed.filter fun account => account.type = .expense) := by decide
  rw [hseed] at hsplit
  simp only [List.map_append, List.sum_append] at hsplit
  exact hsplit

end Nets

/-! ### The trial balance -/

theorem getD_lookup_accountTotals (s : GlStore) (branchId : ℕ) (range : BalanceRange)
    (account : GlAccountCode) :
    let t := ((accountTotals s branchId range).lookup account.code).getD (0, 0)
    t.1 - t.2 = s.accountNet branchId range account := by
  intro t
  have ht : t = ((accountTotals s branchId range).lookup account.code).getD (0, 0) := rfl
  rw [accountTotals, lookup_map_mk] at ht
  rw [GlStore.accountNet, net_eq_sub]
  split_ifs at ht with hmem
  · rw [ht]
    rfl
  · -- an account without a line in the range
    have hnone : (s.rowsIn branchId range).filter (fun l => l.accountCode = account.code) = [] := by
      refine List.filter_eq_nil_iff.mpr fun l hl => ?_
      rw [decide_eq_true_eq]
      intro heq
      exact hmem (List.mem_dedup.mpr (List.mem_map.mpr ⟨l, hl, heq⟩))
    rw [ht, hnone]
    rfl

def trialLine (nets : GlAccountCode → ℚ) (account : GlAccountCode) : LedgerTrialBalanceLine :=
  ⟨account.name, max (nets account) 0, max (-nets account) 0⟩

/-- The loop of `getTrialBalance`: each account with a net goes to the side of its sign. -/
theorem foldl_addAccount {totals : List (String × ℚ × ℚ)} {nets : GlAccountCode → ℚ}
    (hnets : ∀ account : GlAccountCode, ((totals.lookup account.code).getD (0, 0)).1 -
      ((totals.lookup account.code).getD (0, 0)).2 = nets account)
    (hcents : ∀ account, nets account ∈ cents) (accounts : List GlAccountCode)
    (lines : List LedgerTrialBalanceLine) {debit credit : ℚ} (hdebit : debit ∈ cents) (hcredit : credit ∈ cents) :
    accounts.foldl (addAccount totals) (lines, debit, credit) =
      (lines ++ (accounts.filter fun account => nets account ≠ 0).map (trialLine nets),
        debit + (accounts.map fun account => max (nets account) 0).sum,
        credit + (accounts.map fun account => max (-nets account) 0).sum) := by
  induction accounts generalizing lines debit credit with
  | nil => simp
  | cons account accounts ih =>
    have hmem := hcents account
    have hadd : addAccount totals (lines, debit, credit) account =
        (lines ++ ([account].filter fun account => nets account ≠ 0).map (trialLine nets),
          debit + max (nets account) 0, credit + max (-nets account) 0) := by
      unfold addAccount
      simp only [hnets, round2_of_mem hmem, round2_of_mem (neg_mem hmem)]
      rcases lt_trichotomy (nets account) 0 with hneg | hzero | hpos
      · have hmax : max (nets account) 0 = 0 := max_eq_right hneg.le
        have hmax' : max (-nets account) 0 = -nets account := max_eq_left (neg_nonneg.mpr hneg.le)
        simp [hneg.ne, hneg, not_lt.mpr hneg.le, trialLine, hmax, hmax', round2_of_mem hdebit,
          round2_of_mem (add_mem hcredit (neg_mem hmem))]
      · simp [hzero]
      · have hmax : max (nets account) 0 = nets account := max_eq_left hpos.le
        have hmax' : max (-nets account) 0 = 0 := max_eq_right (neg_nonpos.mpr hpos.le)
        simp [hpos.ne', hpos, not_lt.mpr hpos.le, trialLine, hmax, hmax', round2_of_mem hcredit,
          round2_of_mem (add_mem hdebit hmem)]
    have hside : ∀ x ∈ cents, max x 0 ∈ cents := fun x hx => by
      rcases max_choice x 0 with h | h <;> rw [h]
      exacts [hx, zero_mem _]
    rw [List.foldl_cons, hadd, ih _ (add_mem hdebit (hside _ hmem)) (add_mem hcredit (hside _ (neg_mem hmem)))]
    simp only [List.map_cons, List.sum_cons, add_assoc, List.append_assoc, ← List.map_append,
      ← List.filter_append, List.singleton_append]

theorem sum_trialLines (nets : GlAccountCode → ℚ) (accounts : List GlAccountCode) :
    let lines := (accounts.filter fun account => nets account ≠ 0).map (trialLine nets)
    (lines.map fun l => l.debit).sum = (accounts.map fun account => max (nets account) 0).sum ∧
    (lines.map fun l => l.credit).sum = (accounts.map fun account => max (-nets account) 0).sum := by
  induction accounts with
  | nil => exact ⟨rfl, rfl⟩
  | cons account accounts ih =>
    obtain ⟨hdebit, hcredit⟩ := ih
    by_cases hzero : nets account = 0
    · simp only [List.filter_cons, hzero, ne_eq, not_true, decide_false, Bool.false_eq_true, if_false,
        List.map_cons, List.sum_cons, max_self, neg_zero, zero_add]
      exact ⟨hdebit, hcredit⟩
    · simp only [List.filter_cons, hzero, ne_eq, not_false_eq_true, decide_true, if_true, List.map_cons, List.sum_cons]
      exact ⟨congrArg _ hdebit, congrArg _ hcredit⟩

/-- **The trial balance** lists each account with a net once, on its side, and its sides are equal. -/
theorem getTrialBalance_eq {s : GlStore} (h : s.WellKept) (branchId : ℕ) (asOfAt : ℤ) :
    let nets := s.accountNet branchId { toDate := some asOfAt }
    let trial := getTrialBalance s branchId asOfAt
    trial.lines = (GlAccountCode.seed.filter fun account => nets account ≠ 0).map (trialLine nets) ∧
    trial.totals.1 = (GlAccountCode.seed.map fun account => max (nets account) 0).sum ∧
    trial.totals.2 = (GlAccountCode.seed.map fun account => max (-nets account) 0).sum := by
  intro nets trial
  have hfold := foldl_addAccount (getD_lookup_accountTotals s branchId { toDate := some asOfAt })
    (accountNet_mem h branchId { toDate := some asOfAt }) GlAccountCode.seed [] (zero_mem _)
    (zero_mem _)
  simp only [List.nil_append, zero_add] at hfold
  have hlines : trial.lines = (GlAccountCode.seed.foldl (addAccount (accountTotals s branchId
    { toDate := some asOfAt })) ([], 0, 0)).1 := rfl
  have htotals : trial.totals = (GlAccountCode.seed.foldl (addAccount (accountTotals s branchId
    { toDate := some asOfAt })) ([], 0, 0)).2 := rfl
  rw [hlines, htotals, hfold]
  exact ⟨rfl, rfl, rfl⟩

theorem trial_totals_eq {s : GlStore} (h : s.WellKept) (branchId : ℕ) (asOfAt : ℤ) :
    (getTrialBalance s branchId asOfAt).totals.1 = (getTrialBalance s branchId asOfAt).totals.2 := by
  obtain ⟨-, hdebit, hcredit⟩ := getTrialBalance_eq h branchId asOfAt
  rw [hdebit, hcredit, ← sub_eq_zero, ← sum_map_sub]
  refine Eq.trans ?_ (sum_accountNet h branchId { toDate := some asOfAt })
  refine congrArg List.sum (List.map_congr_left fun account _ => ?_)
  exact max_zero_sub_max_neg_zero_eq_self (s.accountNet branchId { toDate := some asOfAt } account)

/-! ### The balance sheet and the profit and loss account -/

section Types

variable {s : GlStore} (h : s.WellKept) (branchId : ℕ) (range : BalanceRange)

include h

variable (accounts : List GlAccountCode)

theorem sum_balance_of_credit (hcredit : ∀ account ∈ accounts, account.normalBalance = .credit) :
    (accounts.map fun account => balance s branchId account.code range).sum =
      -(accounts.map (s.accountNet branchId range)).sum := by
  rw [← sum_map_neg]
  refine congrArg List.sum (List.map_congr_left fun account haccount => ?_)
  rw [balance_eq h, if_pos (hcredit account haccount), mul_neg_one]

theorem sum_balance_of_debit (hdebit : ∀ account ∈ accounts, account.normalBalance = .debit) :
    (accounts.map fun account => balance s branchId account.code range).sum =
      (accounts.map (s.accountNet branchId range)).sum := by
  refine congrArg List.sum (List.map_congr_left fun account haccount => ?_)
  have hne : account.normalBalance ≠ .credit := by
    rw [hdebit account haccount]
    decide
  rw [balance_eq h, if_neg hne, mul_one]

end Types

theorem revenueAccounts_eq : revenueAccounts = GlAccountCode.seed.filter fun account => account.type = .revenue := by
  decide

theorem expenseAccounts_eq : cogsAccounts ++ expenseAccounts.map Prod.fst =
    GlAccountCode.seed.filter fun account => account.type = .expense := by
  decide

variable (s : GlStore) (branchId : ℕ)

theorem balance_mem (range : BalanceRange) (account : GlAccountCode) : balance s branchId account.code range ∈ cents :=
  round2_mem _

theorem sum_balance_mem (range : BalanceRange) (accounts : List GlAccountCode) :
    (accounts.map fun account => balance s branchId account.code range).sum ∈ cents :=
  sum_mem_cents fun account _ => balance_mem s branchId range account

theorem foldl_addBalance (f : GlAccountCode → ℚ) (accounts : List GlAccountCode) (x : ℚ) :
    accounts.foldl (fun sum account => sum + f account) x = x + (accounts.map f).sum := by
  induction accounts generalizing x with
  | nil => rw [List.foldl_nil, List.map_nil, List.sum_nil, add_zero]
  | cons account accounts ih => rw [List.foldl_cons, ih, List.map_cons, List.sum_cons, add_assoc]

/-- The loop over the expense accounts adds them up; leaving out the zeros changes no sum. -/
theorem foldl_addExpense_snd (period : BalanceRange)
    (accounts : List (GlAccountCode × String)) (acc : List (String × ℚ) × ℚ) :
    (accounts.foldl (addExpense s branchId period) acc).2 =
      acc.2 + ((accounts.map Prod.fst).map fun account => balance s branchId account.code period).sum := by
  induction accounts generalizing acc with
  | nil => rw [List.foldl_nil, List.map_nil, List.map_nil, List.sum_nil, add_zero]
  | cons account accounts ih =>
    have hadd : (addExpense s branchId period acc account).2 = acc.2 + balance s branchId account.1.code period := by
      rw [addExpense, round2_of_mem (balance_mem s branchId period account.1)]
      split_ifs with hzero
      · rfl
      · rw [not_not.mp hzero, add_zero]
    rw [List.foldl_cons, ih, hadd, List.map_cons, List.map_cons, List.sum_cons, add_assoc]

section Earnings

variable {s : GlStore} (h : s.WellKept) (branchId : ℕ)

include h

variable (range : BalanceRange) (asOfAt : ℤ)

theorem earnings_eq : (revenueAccounts.map fun account => balance s branchId account.code range).sum
      - ((cogsAccounts.map fun account => balance s branchId account.code range).sum
        + ((expenseAccounts.map Prod.fst).map fun account =>
          balance s branchId account.code range).sum) =
      -(s.typeNet branchId range .revenue + s.typeNet branchId range .expense) := by
  have hrevenue := sum_balance_of_credit h branchId range revenueAccounts (by decide)
  have hexpense := sum_balance_of_debit h branchId range (cogsAccounts ++ expenseAccounts.map Prod.fst) (by decide)
  rw [List.map_append, List.sum_append, expenseAccounts_eq] at hexpense
  rw [hexpense, hrevenue, revenueAccounts_eq, GlStore.typeNet, GlStore.typeNet]
  ring

theorem netProfit_eq : (getProfitAndLoss s branchId range).netProfit =
    -(s.typeNet branchId range .revenue + s.typeNet branchId range .expense) := by
  have hrevenue := sum_balance_mem s branchId range revenueAccounts
  have hcogs := sum_balance_mem s branchId range cogsAccounts
  have hexpense := sum_balance_mem s branchId range (expenseAccounts.map Prod.fst)
  rw [← earnings_eq h branchId range]
  unfold getProfitAndLoss
  simp only [foldl_addBalance, foldl_addExpense_snd, zero_add]
  rw [round2_of_mem hrevenue, round2_of_mem hcogs, round2_of_mem hexpense,
    round2_of_mem (sub_mem hrevenue hcogs), round2_of_mem (sub_mem (sub_mem hrevenue hcogs) hexpense)]
  ring

theorem retainedEarnings_eq : retainedEarnings s branchId asOfAt =
    -(s.typeNet branchId { toDate := some asOfAt } .revenue
      + s.typeNet branchId { toDate := some asOfAt } .expense) := by
  rw [← earnings_eq h branchId]
  unfold retainedEarnings
  simp only [foldl_addBalance, zero_add]
  exact round2_of_mem (sub_mem (sum_balance_mem s branchId _ _)
    (add_mem (sum_balance_mem s branchId _ _) (sum_balance_mem s branchId _ _)))

/-- **The balance sheet** divides the accounts among its three parts by their types. -/
theorem getBalanceSheet_eq :
    let sheet := getBalanceSheet s branchId asOfAt
    let typeNet := s.typeNet branchId { toDate := some asOfAt }
    sheet.assets.total = typeNet .asset ∧ sheet.liabilities.total = -typeNet .liability ∧
      sheet.equity = -(typeNet .equity + typeNet .revenue + typeNet .expense) := by
  intro sheet typeNet
  have hmem := balance_mem s branchId { toDate := some asOfAt }
  refine ⟨?_, ?_, ?_⟩
  · have hfixed := sub_mem (hmem .fixedAssets) (hmem .accumulatedDepreciation)
    have htotal := add_mem (add_mem (add_mem (add_mem (hmem .cash) (hmem .tenderClearing))
      (hmem .accountsReceivable)) (hmem .inventory)) hfixed
    -- the contra account enters the assets with its sign turned
    have hsplit : typeNet .asset =
        ([.cash, .tenderClearing, .accountsReceivable, .inventory, .fixedAssets,
          .accumulatedDepreciation].map (s.accountNet branchId { toDate := some asOfAt })).sum := rfl
    simp only [sheet, getBalanceSheet, round2_of_mem (hmem _), round2_of_mem hfixed, round2_of_mem htotal]
    rw [hsplit]
    simp only [balance_eq h, GlAccountCode.normalBalance, reduceCtorEq, if_true, if_false,
      List.map_cons, List.map_nil, List.sum_cons, List.sum_nil]
    ring
  · have hsum := sum_balance_of_credit h branchId { toDate := some asOfAt }
      (GlAccountCode.seed.filter fun account => account.type = .liability) (by decide)
    have htotal := add_mem (add_mem (add_mem (add_mem (add_mem (add_mem (hmem .supplierPayables)
      (hmem .taxPayable)) (hmem .tipsPayable)) (hmem .customerDeposits)) (hmem .deferredRevenue))
      (hmem .accruedLiabilities)) (hmem .longTermDebt)
    simp only [sheet, getBalanceSheet, round2_of_mem (hmem _), round2_of_mem htotal]
    refine Eq.trans ?_ hsum
    have hlist : (GlAccountCode.seed.filter fun account => account.type = .liability) =
        [.supplierPayables, .taxPayable, .tipsPayable, .customerDeposits, .deferredRevenue,
          .accruedLiabilities, .longTermDebt] := by decide
    rw [hlist]
    simp only [List.map_cons, List.map_nil, List.sum_cons, List.sum_nil]
    ring
  · have hequity : typeNet .equity = s.accountNet branchId { toDate := some asOfAt } .ownerEquity :=
      add_zero _
    have hretained : retainedEarnings s branchId asOfAt ∈ cents := round2_mem _
    simp only [sheet, getBalanceSheet, round2_of_mem (hmem _), round2_of_mem (add_mem (hmem .ownerEquity) hretained)]
    rw [hequity, retainedEarnings_eq h, balance_eq h]
    simp only [GlAccountCode.normalBalance, if_true, typeNet]
    ring

end Earnings

/-! ### Runs of the ledger -/

theorem GlStore.WellKept.append {s : GlStore} (h : s.WellKept) (hfresh : ∀ l ∈ s.lines,
    l.entryId < s.nextEntryId) {entries : List GlJournalEntry} {lines : List GlJournalLine}
    (hchart : ∀ l ∈ lines, isGlAccountCode l.accountCode = true)
    (hcents : ∀ l ∈ lines, l.debit ∈ cents ∧ l.credit ∈ cents) (hentry : ∀ l ∈ lines, l.entryId = s.nextEntryId)
    (halike : ∀ l ∈ lines, ∀ l' ∈ lines, l.branchId = l'.branchId ∧ l.occurredAt = l'.occurredAt)
    (hbalanced : ∀ entryId,
      (⟨entries, s.lines ++ lines, s.nextEntryId + 1⟩ : GlStore).entryNet entryId = 0) :
    (⟨entries, s.lines ++ lines, s.nextEntryId + 1⟩ : GlStore).WellKept where
  inChart l hl := (List.mem_append.mp hl).elim (h.inChart l) (hchart l)
  inCents l hl := (List.mem_append.mp hl).elim (h.inCents l) (hcents l)
  denormalized l hl l' hl' heq := by
    rcases List.mem_append.mp hl with hold | hnew
    · rcases List.mem_append.mp hl' with hold' | hnew'
      · exact h.denormalized l hold l' hold' heq
      · have hlt := hfresh l hold
        rw [heq, hentry l' hnew'] at hlt
        exact absurd hlt (Nat.lt_irrefl _)
    · rcases List.mem_append.mp hl' with hold' | hnew'
      · have hlt := hfresh l' hold'
        rw [← heq, hentry l hnew] at hlt
        exact absurd hlt (Nat.lt_irrefl _)
      · exact halike l hnew l' hnew'
  entryBalanced := hbalanced

theorem GlStore.WellKept.step {s : GlStore} (h : s.WellKept) (hb : s.Balanced) {c : GlCall}
    (hc : PostsRounded s c) : (c.step s).WellKept := by
  have hbalanced := (hb.step hc).entry
  have hstep := GlCall.step_cases s c
  generalize c.step s = s' at hstep hbalanced
  cases hstep with
  | nothing => exact h
  | @posted now input manager hok hnew =>
    have haccepted := (assertBalanced_ok_iff.mp hok).2.2.1
    have hof : ∀ l ∈ storedLines s.nextEntryId input, l.entryId = s.nextEntryId ∧
        l.branchId = input.branchId ∧ l.occurredAt = input.occurredAt ∧
        isGlAccountCode l.accountCode = true ∧ l.debit ∈ cents ∧ l.credit ∈ cents := by
      intro l hl
      obtain ⟨line, hline, rfl⟩ := List.mem_map.mp hl
      have hchart := (haccepted line (List.mem_filter.mp hline).1).1
      exact ⟨rfl, rfl, rfl, hchart, round2_mem _, round2_mem _⟩
    refine h.append hb.fresh (fun l hl => (hof l hl).2.2.2.1) (fun l hl => (hof l hl).2.2.2.2)
      (fun l hl => (hof l hl).1) (fun l hl l' hl' => ?_) hbalanced
    obtain ⟨-, hbranch, htime, -⟩ := hof l hl
    obtain ⟨-, hbranch', htime', -⟩ := hof l' hl'
    exact ⟨hbranch.trans hbranch'.symm, htime.trans htime'.symm⟩
  | @reversed now opts original hid hkey =>
    have hof : ∀ l ∈ swappedLines s.nextEntryId (opts.occurredAt.getD now) (s.linesOf original.id),
        ∃ line ∈ s.lines, line.entryId = original.id ∧
        l = { line with
          entryId := s.nextEntryId
          debit := line.credit
          credit := line.debit
          occurredAt := opts.occurredAt.getD now } := by
      intro l hl
      obtain ⟨line, hline, rfl⟩ := List.mem_map.mp hl
      obtain ⟨hmem, hid⟩ := List.mem_filter.mp hline
      exact ⟨line, hmem, of_decide_eq_true hid, rfl⟩
    refine h.append hb.fresh (fun l hl => ?_) (fun l hl => ?_) (fun l hl => ?_) (fun l hl l' hl' => ?_)
      hbalanced
    · obtain ⟨line, hmem, -, rfl⟩ := hof l hl
      exact h.inChart line hmem
    · obtain ⟨line, hmem, -, rfl⟩ := hof l hl
      exact (h.inCents line hmem).symm
    · obtain ⟨line, -, -, rfl⟩ := hof l hl
      rfl
    · obtain ⟨line, hmem, hid, rfl⟩ := hof l hl
      obtain ⟨line', hmem', hid', rfl⟩ := hof l' hl'
      exact ⟨(h.denormalized line hmem line' hmem' (hid.trans hid'.symm)).1, rfl⟩

theorem wellKept_emptyJournal : emptyJournal.WellKept where
  inChart l hl := by cases hl
  inCents l hl := by cases hl
  denormalized l hl := by cases hl
  entryBalanced _ := rfl

/-- **Runs of `post` and `reverse` keep the tables as the statements need them**, as far as the
roundings of each posted entry cancel. -/
theorem wellKept_runs {calls : List GlCall} (h : Run.Along GlCall.step PostsRounded emptyJournal calls) :
    (Run.after GlCall.step emptyJournal calls).WellKept := by
  have hboth := Run.after_induction (P := fun s : GlStore => s.Balanced ∧ s.WellKept)
    (fun s c hs hc => ⟨hs.1.step hc, hs.2.step hs.1 hc⟩)
    ⟨balanced_emptyJournal, wellKept_emptyJournal⟩ h
  exact hboth.2

/-! ### The statements -/

/-- **The statements agree with each other.**  At every branch and every date the trial balance has
equal totals, the assets are the liabilities and the equity, and the retained earnings are the net
profit of the period that ends there.  Each statement counts every account of the chart once: the
trial balance has one line for each account with a net, and the totals of the other two are the sums
over the accounts of a type. -/
theorem statements_agree {s : GlStore} (h : s.WellKept) (branchId : ℕ) (asOfAt : ℤ) :
    let trial := getTrialBalance s branchId asOfAt
    let sheet := getBalanceSheet s branchId asOfAt
    let profit := getProfitAndLoss s branchId { toDate := some asOfAt }
    let nets := s.accountNet branchId { toDate := some asOfAt }
    let typeNet := s.typeNet branchId { toDate := some asOfAt }
    (trial.totals.1 = trial.totals.2 ∧
      sheet.assets.total = sheet.liabilities.total + sheet.equity ∧
      retainedEarnings s branchId asOfAt = profit.netProfit) ∧
    (GlAccountCode.seed.Nodup ∧ (∀ account, account ∈ GlAccountCode.seed) ∧
      trial.lines = (GlAccountCode.seed.filter fun account => nets account ≠ 0).map (trialLine nets) ∧
      trial.totals = ((trial.lines.map fun l => l.debit).sum, (trial.lines.map fun l => l.credit).sum) ∧
      sheet.assets.total = typeNet .asset ∧ sheet.liabilities.total = -typeNet .liability ∧
      sheet.equity = -(typeNet .equity + typeNet .revenue + typeNet .expense) ∧
      profit.netProfit = -(typeNet .revenue + typeNet .expense)) := by
  intro trial sheet profit nets typeNet
  obtain ⟨hassets, hliabilities, hequity⟩ := getBalanceSheet_eq h branchId asOfAt
  obtain ⟨hlines, hdebit, hcredit⟩ := getTrialBalance_eq h branchId asOfAt
  have hprofit := netProfit_eq h branchId { toDate := some asOfAt }
  have htypes := sum_typeNet h branchId { toDate := some asOfAt }
  refine ⟨⟨trial_totals_eq h branchId asOfAt, ?_, ?_⟩, GlAccountCode.nodup_seed,
    GlAccountCode.mem_seed, hlines, ?_, hassets, hliabilities, hequity, hprofit⟩
  · linarith
  · rw [hprofit, retainedEarnings_eq h]
  · obtain ⟨hsumDebit, hsumCredit⟩ := sum_trialLines nets GlAccountCode.seed
    rw [hlines, hsumDebit, hsumCredit, ← hdebit, ← hcredit]

/-- A sale of ten with a fixed asset bought on account: the statements of its branch. -/
theorem statements_agree_sale :
    let purchase : PostJournalEntryInput :=
      { branchId := 1, occurredAt := 0, sourceType := .fixedAsset, idempotencyKey := "asset",
        lines := [{ accountCode := "1500", debit := some 7 }, { accountCode := "2000", credit := some 7 }] }
    let s := Run.after GlCall.step emptyJournal
      [.post 0 (saleOf [10] [9, 1]) false, .post 0 purchase false]
    (getTrialBalance s 1 5).totals.1 = (getTrialBalance s 1 5).totals.2 ∧
    (getTrialBalance s 1 5).totals.1 = 17 ∧
    (getBalanceSheet s 1 5).assets.total = (getBalanceSheet s 1 5).liabilities.total + (getBalanceSheet s 1 5).equity ∧
    retainedEarnings s 1 5 = (getProfitAndLoss s 1 { toDate := some 5 }).netProfit := by
  intro purchase s
  have hkept : s.WellKept := wellKept_runs ⟨fun _ _ => by decide +kernel, fun _ _ => by decide +kernel, trivial⟩
  obtain ⟨⟨htrial, hsheet, hprofit⟩, -⟩ := statements_agree hkept 1 5
  exact ⟨htrial, by decide +kernel, hsheet, hprofit⟩

/-! ### Adjacent periods -/

section Periods

variable (s : GlStore) (branchId : ℕ) {a b : ℤ} (hab : a ≤ b)

include hab

/-- The lines up to `b` are those up to `a` and those of the period after it. -/
theorem accountNet_add (account : GlAccountCode) :
    s.accountNet branchId { toDate := some b } account = s.accountNet branchId { toDate := some a } account +
      s.accountNet branchId { fromDate := some (a + 1), toDate := some b } account := by
  unfold GlStore.accountNet GlStore.rowsIn
  have hsum := ((List.filter_append_perm (fun l => l.occurredAt ≤ a) ((s.lines.filter fun l => l.branchId = branchId ∧
    BalanceRange.Holds { toDate := some b } l.occurredAt).filter fun l => l.accountCode = account.code)).map
    fun l => l.debit - l.credit).sum_eq
  rw [net, ← hsum, List.map_append, List.sum_append]
  refine congrArg₂ (fun x y => net x + net y) ?_ ?_ <;>
  · simp only [List.filter_filter, BalanceRange.Holds, Option.mem_def]
    refine List.filter_congr fun l _ => ?_
    grind

theorem typeNet_add (type : GlAccountType) :
    s.typeNet branchId { toDate := some b } type = s.typeNet branchId { toDate := some a } type +
      s.typeNet branchId { fromDate := some (a + 1), toDate := some b } type := by
  unfold GlStore.typeNet
  rw [← List.sum_map_add]
  exact congrArg List.sum (List.map_congr_left fun account _ => accountNet_add s branchId hab account)

end Periods

/-- **Two balance sheets and the account of the period between them.** -/
theorem sheets_articulate {calls : List GlCall} (h : Run.Along GlCall.step PostsRounded emptyJournal calls)
    (branchId : ℕ) {a b : ℤ} (hab : a ≤ b) :
    let s := Run.after GlCall.step emptyJournal calls
    let opening := getBalanceSheet s branchId a
    let closing := getBalanceSheet s branchId b
    let period : BalanceRange := { fromDate := some (a + 1), toDate := some b }
    let earned := (getProfitAndLoss s branchId period).netProfit +
      balance s branchId GlAccountCode.ownerEquity.code period
    closing.equity = opening.equity + earned ∧
      closing.assets.total - closing.liabilities.total = opening.assets.total - opening.liabilities.total + earned := by
  intro s opening closing period earned
  have hs : s.WellKept := wellKept_runs h
  have hearned : earned = -(s.typeNet branchId period .revenue + s.typeNet branchId period .expense)
      - s.typeNet branchId period .equity := by
    have hequity : s.typeNet branchId period .equity = s.accountNet branchId period .ownerEquity := add_zero _
    rw [hequity, ← netProfit_eq hs, sub_eq_add_neg, ← mul_neg_one]
    exact congrArg _ (balance_eq hs branchId period .ownerEquity)
  have hsplit := typeNet_add s branchId hab
  have hequity : closing.equity = opening.equity + earned := by
    rw [(getBalanceSheet_eq hs branchId b).2.2, (getBalanceSheet_eq hs branchId a).2.2, hearned,
      hsplit, hsplit, hsplit]
    ring
  obtain ⟨hassets, hliabilities, -⟩ := getBalanceSheet_eq hs branchId a
  obtain ⟨hassets', hliabilities', -⟩ := getBalanceSheet_eq hs branchId b
  have htypes := sum_typeNet hs branchId { toDate := some a }
  have htypes' := sum_typeNet hs branchId { toDate := some b }
  have hsum := (getBalanceSheet_eq hs branchId a).2.2
  have hsum' := (getBalanceSheet_eq hs branchId b).2.2
  exact ⟨hequity, by linarith⟩

theorem sheets_articulate_sale :
    let s := Run.after GlCall.step emptyJournal [.post 0 (saleOf [10] [9, 1]) false]
    (getBalanceSheet s 1 5).equity = 10 ∧ (getBalanceSheet s 1 5).equity = (getBalanceSheet s 1 (-1)).equity +
      ((getProfitAndLoss s 1 { fromDate := some 0, toDate := some 5 }).netProfit +
        balance s 1 GlAccountCode.ownerEquity.code { fromDate := some 0, toDate := some 5 }) :=
  ⟨by decide +kernel, (@sheets_articulate [.post 0 (saleOf [10] [9, 1]) false]
    ⟨fun _ _ => by decide +kernel, trivial⟩ 1 (-1) 5 (by decide)).1⟩

/-! ### Closed periods -/

/-- What the call enters is dated after `closing`. -/
def GlCall.DatedAfter (closing : ℤ) : GlCall → Prop
  | .post _ input _ => closing < input.occurredAt
  | .reverse now _ opts => closing < opts.occurredAt.getD now

theorem filter_step {closing : ℤ} {c : GlCall} (h : c.DatedAfter closing) {P : GlJournalLine → Bool}
    (hP : ∀ l, P l → l.occurredAt ≤ closing) (s : GlStore) : (c.step s).lines.filter P = s.lines.filter P := by
  have hlater : ∀ lines : List GlJournalLine, (∀ l ∈ lines, closing < l.occurredAt) →
      (s.lines ++ lines).filter P = s.lines.filter P := by
    intro lines hlines
    have hnone : lines.filter P = [] := List.filter_eq_nil_iff.mpr fun l hl hmem => (hP l hmem).not_gt (hlines l hl)
    rw [List.filter_append, hnone, List.append_nil]
  have hcases := GlCall.step_cases s c
  generalize c.step s = s' at hcases
  cases hcases with
  | nothing => rfl
  | posted | reversed =>
    refine hlater _ fun l hl => ?_
    obtain ⟨line, -, rfl⟩ := List.mem_map.mp hl
    exact h

/-- **Closed periods stay closed**: whatever is posted and reversed after the closing date, every statement up to
this date stays as it is. -/
theorem closed_periods_kept (s : GlStore) {closing : ℤ} {calls : List GlCall}
    (h : ∀ c ∈ calls, c.DatedAfter closing) (branchId : ℕ) {asOfAt : ℤ} (hclosed : asOfAt ≤ closing) :
    let s' := Run.after GlCall.step s calls
    getTrialBalance s' branchId asOfAt = getTrialBalance s branchId asOfAt ∧
    getBalanceSheet s' branchId asOfAt = getBalanceSheet s branchId asOfAt ∧
    ∀ fromDate, getProfitAndLoss s' branchId { fromDate, toDate := some asOfAt } =
      getProfitAndLoss s branchId { fromDate, toDate := some asOfAt } := by
  intro s'
  have hrows : ∀ P : GlJournalLine → Bool, (∀ l, P l → l.occurredAt ≤ asOfAt) → s'.lines.filter P = s.lines.filter P := by
    intro P hP
    have hstep : ∀ (t : GlStore) c, t.lines.filter P = s.lines.filter P → c.DatedAfter closing →
        (GlCall.step t c).lines.filter P = s.lines.filter P :=
      fun t c ht hc => (filter_step hc (fun l hl => (hP l hl).trans hclosed) t).trans ht
    exact Run.after_induction (P := fun t : GlStore => t.lines.filter P = s.lines.filter P) hstep rfl
      (Run.along_of_forall h)
  have hbalance : ∀ code fromDate, balance s' branchId code { fromDate, toDate := some asOfAt } =
      balance s branchId code { fromDate, toDate := some asOfAt } := fun code fromDate => by
    unfold balance
    rw [hrows _ fun l hl => (of_decide_eq_true hl).2.2.2 _ rfl]
  have htotals : accountTotals s' branchId { toDate := some asOfAt } =
      accountTotals s branchId { toDate := some asOfAt } := by
    unfold accountTotals
    rw [hrows _ fun l hl => (of_decide_eq_true hl).2.2 _ rfl]
  refine ⟨?_, ?_, fun fromDate => ?_⟩
  · unfold getTrialBalance
    rw [htotals]
  · unfold getBalanceSheet retainedEarnings
    simp only [hbalance]
  · unfold getProfitAndLoss addExpense
    simp only [hbalance]

/-- A sale that is voided five days later. -/
theorem closed_periods_kept_void :
    let void : ReverseOptions := { sourceType := .posVoidReversal, idempotencyKey := "void" }
    let s := Run.after GlCall.step emptyJournal [.post 0 (saleOf [10] [9, 1]) false]
    getBalanceSheet (Run.after GlCall.step s [.reverse 5 1 void]) 1 4 = getBalanceSheet s 1 4 := by
  intro void s
  have hlater : ∀ c ∈ [GlCall.reverse 5 1 void], c.DatedAfter 4 :=
    List.forall_mem_singleton.mpr (show (4 : ℤ) < 5 by decide)
  exact (closed_periods_kept s hlater 1 le_rfl).2.1

end SuuqBackend
