import SuuqBackend.Billing.Laws.RecordBooks

/-!
# The books of deleted records

When a row is deleted, `reverseLedger` is to undo what was posted for it.  It looks up one key, that of the
creation: the settlement of a liability keeps its entry, and so does the depreciation of an asset, whose rows the
database deletes.

* `step_cases`: every call adds a record, settles one, deletes some, or changes nothing.
* `Sound.step`: whatever is called, the keys of stored records are unused or booked.
* `books_removed_iff`: the entries of every deleted record add up to nothing exactly in the runs that delete no
  settled liability and no depreciated asset.
* `books_left`: a liability that is settled and deleted, and an asset that is depreciated and deleted.
-/

namespace SuuqBackend

open Proc BranchBilling SerialTable

namespace BillingStore

def next (S : BillingStore) : RecordTable → ℕ
  | .expenses => S.expenses.next
  | .fixedAssets => S.fixedAssets.next
  | .depreciationEntries => S.depreciationEntries.next
  | .accruedLiabilities => S.accruedLiabilities.next
  | .longTermDebts => S.longTermDebts.next

def branchOf (S : BillingStore) (r : BillingRecord) : Option ℕ :=
  match r.table with
  | .expenses => (S.expenses.find r.id).map BranchExpense.branchId
  | .fixedAssets => (S.fixedAssets.find r.id).map BranchFixedAsset.branchId
  | .depreciationEntries => (S.depreciationEntries.find r.id).map BranchDepreciationEntry.branchId
  | .accruedLiabilities => (S.accruedLiabilities.find r.id).map BranchAccruedLiability.branchId
  | .longTermDebts => (S.longTermDebts.find r.id).map BranchLongTermDebt.branchId

/-- The record was stored once, and is not any more. -/
def Deleted (S : BillingStore) (r : BillingRecord) : Prop := r.id < S.next r.table ∧ S.branchOf r = none

theorem lt_next_of_branchOf {S : BillingStore} {r : BillingRecord} {branchId : ℕ}
    (h : S.branchOf r = some branchId) : r.id < S.next r.table := by
  obtain ⟨table, id⟩ := r
  cases table <;>
    obtain ⟨row, hrow, -⟩ := Option.map_eq_some_iff.mp h <;> exact lt_next_of_find hrow

end BillingStore

/-! ### What a call does -/

/-- Entries of depreciation have an asset, in their branch. -/
def AssetsStored (S : BillingStore) : Prop :=
  ∀ id entry, S.depreciationEntries.find id = some entry →
    ∃ asset, S.fixedAssets.find entry.fixedAssetId = some asset ∧ asset.branchId = entry.branchId

/-- The call does not delete an asset with depreciation that was posted, nor a liability whose settlement was. -/
def NothingElsePosted (S : BillingStore) : BillingCall → Prop
  | .deleteBranchFixedAsset _ branchId assetId =>
    ∀ asset ∈ S.fixedAssets.find assetId, asset.branchId = branchId →
      ∀ id < S.depreciationEntries.next, ∀ entry ∈ S.depreciationEntries.find id, entry.fixedAssetId = assetId →
        S.ledger.entryByKey branchId (RecordKey.text ⟨.depreciation, id⟩) = none
  | .deleteBranchAccruedLiability _ branchId liabilityId =>
    ∀ liability ∈ S.accruedLiabilities.find liabilityId, liability.branchId = branchId →
      S.ledger.entryByKey branchId (RecordKey.text ⟨.accruedSettle, liabilityId⟩) = none
  | _ => True

instance (S : BillingStore) : (c : BillingCall) → Decidable (NothingElsePosted S c)
  | .createBranchExpense .. | .deleteBranchExpense .. | .createBranchFixedAsset ..
  | .createBranchDepreciationEntry .. | .deleteBranchDepreciationEntry .. | .createBranchAccruedLiability ..
  | .settleBranchAccruedLiability .. | .createBranchLongTermDebt .. | .deleteBranchLongTermDebt .. =>
    .isTrue trivial
  | .deleteBranchFixedAsset .. => inferInstanceAs (Decidable (∀ asset ∈ _, _ → ∀ id < _, ∀ entry ∈ _, _ → _))
  | .deleteBranchAccruedLiability .. => inferInstanceAs (Decidable (∀ liability ∈ _, _ → _))

inductive BillingStep (S : BillingStore) : BillingCall → BillingStore → Prop
  | nothing {c : BillingCall} : NothingElsePosted S c → BillingStep S c S
  | createdExpense (now : ℤ) (branchId userId : ℕ) (dto : BranchExpenseDto) :
    BillingStep S (.createBranchExpense now branchId userId dto)
      { S with
        expenses := S.expenses.add (newExpense now branchId userId dto)
        ledger := postedLedger now (expensePosting S.expenses.next (newExpense now branchId userId dto) dto.amount)
          S.ledger }
  | deletedExpense (now : ℤ) {expenseId : ℕ} {row : BranchExpense} : S.expenses.find expenseId = some row →
    BillingStep S (.deleteBranchExpense now row.branchId expenseId)
      { S with
        expenses := S.expenses.remove expenseId
        ledger := reversedLedger now row.branchId (RecordKey.text ⟨.expense, expenseId⟩) (some row.occurredAt)
          S.ledger }
  | createdFixedAsset (now : ℤ) (branchId : ℕ) (dto : BranchFixedAssetDto) :
    BillingStep S (.createBranchFixedAsset now branchId dto)
      { S with
        fixedAssets := S.fixedAssets.add (newFixedAsset branchId dto)
        ledger := postedLedger now
          (fixedAssetPosting S.fixedAssets.next (newFixedAsset branchId dto) dto.capitalizationAmount) S.ledger }
  | deletedFixedAsset (now : ℤ) {assetId : ℕ} {row : BranchFixedAsset} : S.fixedAssets.find assetId = some row →
    BillingStep S (.deleteBranchFixedAsset now row.branchId assetId)
      { S.removeFixedAsset assetId with
        ledger := reversedLedger now row.branchId (RecordKey.text ⟨.fixedAsset, assetId⟩) (some row.acquiredAt)
          S.ledger }
  | createdDepreciation (now : ℤ) (userId : ℕ) (dto : BranchDepreciationEntryDto) {asset : BranchFixedAsset} :
    S.fixedAssets.find dto.fixedAssetId = some asset →
    BillingStep S (.createBranchDepreciationEntry now asset.branchId userId dto)
      { S with
        depreciationEntries := S.depreciationEntries.add (newDepreciationEntry asset.branchId userId dto)
        ledger := postedLedger now (depreciationPosting S.depreciationEntries.next
          (newDepreciationEntry asset.branchId userId dto) asset dto.amount) S.ledger }
  | deletedDepreciation (now : ℤ) {entryId : ℕ} {row : BranchDepreciationEntry} :
    S.depreciationEntries.find entryId = some row →
    BillingStep S (.deleteBranchDepreciationEntry now row.branchId entryId)
      { S with
        depreciationEntries := S.depreciationEntries.remove entryId
        ledger := reversedLedger now row.branchId (RecordKey.text ⟨.depreciation, entryId⟩) (some row.occurredAt)
          S.ledger }
  | createdLiability (now : ℤ) (branchId : ℕ) (dto : BranchAccruedLiabilityDto) :
    BillingStep S (.createBranchAccruedLiability now branchId dto)
      { S with
        accruedLiabilities := S.accruedLiabilities.add (newAccruedLiability branchId dto)
        ledger := postedLedger now
          (accruedPosting S.accruedLiabilities.next (newAccruedLiability branchId dto) dto.amount) S.ledger }
  | settledLiability (now : ℤ) {liabilityId : ℕ} (settledAt : Option ℤ) {row : BranchAccruedLiability} :
    S.accruedLiabilities.find liabilityId = some row →
    BillingStep S (.settleBranchAccruedLiability now row.branchId liabilityId settledAt)
      { S with
        accruedLiabilities := S.accruedLiabilities.set liabilityId (settledLiability now settledAt row)
        ledger := postedLedger now (settlementPosting now liabilityId (settledLiability now settledAt row)) S.ledger }
  | deletedLiability (now : ℤ) {liabilityId : ℕ} {row : BranchAccruedLiability} :
    S.accruedLiabilities.find liabilityId = some row →
    BillingStep S (.deleteBranchAccruedLiability now row.branchId liabilityId)
      { S with
        accruedLiabilities := S.accruedLiabilities.remove liabilityId
        ledger := reversedLedger now row.branchId (RecordKey.text ⟨.accrued, liabilityId⟩) (some row.accruedAt)
          S.ledger }
  | createdDebt (now : ℤ) (branchId : ℕ) (dto : BranchLongTermDebtDto) :
    BillingStep S (.createBranchLongTermDebt now branchId dto)
      { S with
        longTermDebts := S.longTermDebts.add (newLongTermDebt branchId dto)
        ledger := postedLedger now
          (longTermDebtPosting S.longTermDebts.next (newLongTermDebt branchId dto) dto.principalAmount) S.ledger }
  | deletedDebt (now : ℤ) {debtId : ℕ} {row : BranchLongTermDebt} : S.longTermDebts.find debtId = some row →
    BillingStep S (.deleteBranchLongTermDebt now row.branchId debtId)
      { S with
        longTermDebts := S.longTermDebts.remove debtId
        ledger := reversedLedger now row.branchId (RecordKey.text ⟨.longTermDebt, debtId⟩) (some row.issuedAt)
          S.ledger }

/-! ### The postings -/

theorem expenseAccountFor_ne_cash (category : String) : expenseAccountFor category ≠ .cash := by
  unfold expenseAccountFor
  split <;> decide

theorem expenseAccountFor_ne_accruedLiabilities (category : String) :
    expenseAccountFor category ≠ .accruedLiabilities := by
  unfold expenseAccountFor
  split <;> decide

variable (now : ℤ) (id branchId : ℕ)

theorem isFor_expense (row : BranchExpense) (amount : ℚ) :
    IsFor (expensePosting id row amount) row.branchId ⟨.expense, id⟩ :=
  ⟨rfl, rfl, rfl, expenseAccountFor_ne_cash _⟩

theorem isFor_fixedAsset (row : BranchFixedAsset) (amount : ℚ) :
    IsFor (fixedAssetPosting id row amount) row.branchId ⟨.fixedAsset, id⟩ :=
  ⟨rfl, rfl, rfl, fun h => GlAccountCode.noConfusion h⟩

theorem isFor_depreciation (row : BranchDepreciationEntry) (asset : BranchFixedAsset) (amount : ℚ) :
    IsFor (depreciationPosting id row asset amount) row.branchId ⟨.depreciation, id⟩ :=
  ⟨rfl, rfl, rfl, fun h => GlAccountCode.noConfusion h⟩

theorem isFor_accrued (row : BranchAccruedLiability) (amount : ℚ) :
    IsFor (accruedPosting id row amount) row.branchId ⟨.accrued, id⟩ :=
  ⟨rfl, rfl, rfl, expenseAccountFor_ne_accruedLiabilities _⟩

theorem isFor_settlement (row : BranchAccruedLiability) :
    IsFor (settlementPosting now id row) row.branchId ⟨.accruedSettle, id⟩ :=
  ⟨rfl, rfl, rfl, fun h => GlAccountCode.noConfusion h⟩

theorem isFor_longTermDebt (row : BranchLongTermDebt) (amount : ℚ) :
    IsFor (longTermDebtPosting id row amount) row.branchId ⟨.longTermDebt, id⟩ :=
  ⟨rfl, rfl, rfl, fun h => GlAccountCode.noConfusion h⟩

/-! ### The calls -/

theorem find_filter_branch {ν : Type} (t : SerialTable ν) (branch : ν → ℕ) (id branchId : ℕ) :
    (∃ row, t.find id = some row ∧ branch row = branchId ∧
      ((t.find id).filter fun row => branch row = branchId) = some row) ∨
    ((t.find id).filter fun row => branch row = branchId) = none ∧ ∀ row ∈ t.find id, branch row ≠ branchId := by
  cases hfind : t.find id with
  | none => exact .inr ⟨rfl, fun row hrow => by cases hrow⟩
  | some row =>
    by_cases hbranch : branch row = branchId
    · exact .inl ⟨row, rfl, hbranch, by simp [hbranch]⟩
    · refine .inr ⟨by simp [hbranch], fun row' hrow' => ?_⟩
      rwa [← Option.some.inj hrow']

theorem snd_run_post {α : Type} {input : LedgerPosting} {branchId : ℕ} {k : RecordKey}
    (hfor : IsFor input branchId k) (a : α) (S : BillingStore) :
    ((do postLedger now input; return a : BillingProc α).run S).2 =
      { S with ledger := postedLedger now input S.ledger } :=
  congrArg Prod.snd (run_bind_of_ok (run_postLedger now hfor S) fun _ => pure a)

theorem snd_run_reverse (idempotencyKey : String) (occurredAt : Option ℤ)
    (f : BillingStore → BillingStore) (S : BillingStore) :
    ((do reverseLedger now branchId idempotencyKey occurredAt; Proc.write f : BillingProc Unit).run S).2 =
      f { S with ledger := reversedLedger now branchId idempotencyKey occurredAt S.ledger } :=
  congrArg Prod.snd (run_bind_of_ok (run_reverseLedger now branchId idempotencyKey occurredAt S) fun _ => Proc.write f)

theorem run_findFixedAsset (assetId : ℕ) (S : BillingStore) :
    (∃ row, S.fixedAssets.find assetId = some row ∧ row.branchId = branchId ∧
      (findFixedAsset branchId assetId).run S = (.ok row, S)) ∨
    (∃ e, (findFixedAsset branchId assetId).run S = (.error e, S)) ∧
      ∀ row ∈ S.fixedAssets.find assetId, row.branchId ≠ branchId := by
  unfold findFixedAsset
  rw [run_read_bind]
  rcases find_filter_branch S.fixedAssets BranchFixedAsset.branchId assetId branchId with
    ⟨row, hfind, hbranch, hfilter⟩ | ⟨hfilter, hother⟩
  · rw [hfilter]
    exact .inl ⟨row, hfind, hbranch, rfl⟩
  · rw [hfilter]
    exact .inr ⟨⟨_, rfl⟩, hother⟩

theorem run_findAccruedLiability (liabilityId : ℕ) (S : BillingStore) :
    (∃ row, S.accruedLiabilities.find liabilityId = some row ∧ row.branchId = branchId ∧
      (findAccruedLiability branchId liabilityId).run S = (.ok row, S)) ∨
    (∃ e, (findAccruedLiability branchId liabilityId).run S = (.error e, S)) ∧
      ∀ row ∈ S.accruedLiabilities.find liabilityId, row.branchId ≠ branchId := by
  unfold findAccruedLiability
  rw [run_read_bind]
  rcases find_filter_branch S.accruedLiabilities BranchAccruedLiability.branchId liabilityId branchId with
    ⟨row, hfind, hbranch, hfilter⟩ | ⟨hfilter, hother⟩
  · rw [hfilter]
    exact .inl ⟨row, hfind, hbranch, rfl⟩
  · rw [hfilter]
    exact .inr ⟨⟨_, rfl⟩, hother⟩

theorem BillingCall.step_cases (S : BillingStore) (c : BillingCall) : BillingStep S c (c.step S) := by
  cases c with
  | createBranchExpense now branchId userId dto =>
    have hstep : BillingCall.step S (.createBranchExpense now branchId userId dto) = _ :=
      snd_run_post now (isFor_expense S.expenses.next (newExpense now branchId userId dto) dto.amount)
        S.expenses.next { S with expenses := S.expenses.add (newExpense now branchId userId dto) }
    rw [hstep]
    exact .createdExpense now branchId userId dto
  | deleteBranchExpense now branchId expenseId =>
    show BillingStep S _ ((BranchBilling.deleteBranchExpense now branchId expenseId).run S).2
    unfold BranchBilling.deleteBranchExpense
    rw [run_read_bind]
    rcases find_filter_branch S.expenses BranchExpense.branchId expenseId branchId with
      ⟨row, hfind, rfl, hfilter⟩ | ⟨hfilter, -⟩
    · rw [hfilter]
      rw [snd_run_reverse]
      exact .deletedExpense now hfind
    · rw [hfilter]
      exact .nothing trivial
  | createBranchFixedAsset now branchId dto =>
    have hstep : BillingCall.step S (.createBranchFixedAsset now branchId dto) = _ :=
      snd_run_post now (isFor_fixedAsset S.fixedAssets.next (newFixedAsset branchId dto) dto.capitalizationAmount)
        S.fixedAssets.next { S with fixedAssets := S.fixedAssets.add (newFixedAsset branchId dto) }
    rw [hstep]
    exact .createdFixedAsset now branchId dto
  | deleteBranchFixedAsset now branchId assetId =>
    show BillingStep S _ ((BranchBilling.deleteBranchFixedAsset now branchId assetId).run S).2
    unfold BranchBilling.deleteBranchFixedAsset
    rcases run_findFixedAsset branchId assetId S with ⟨row, hfind, rfl, hrun⟩ | ⟨⟨e, hrun⟩, hother⟩
    · rw [run_bind_of_ok hrun, snd_run_reverse]
      exact .deletedFixedAsset now hfind
    · rw [run_bind_of_error hrun]
      exact .nothing fun asset hasset hbranch => absurd hbranch (hother asset hasset)
  | createBranchDepreciationEntry now branchId userId dto =>
    show BillingStep S _ ((BranchBilling.createBranchDepreciationEntry now branchId userId dto).run S).2
    unfold BranchBilling.createBranchDepreciationEntry
    rcases run_findFixedAsset branchId dto.fixedAssetId S with ⟨asset, hfind, rfl, hrun⟩ | ⟨⟨e, hrun⟩, -⟩
    · rw [run_bind_of_ok hrun]
      let row := newDepreciationEntry asset.branchId userId dto
      have hpost := snd_run_post now (isFor_depreciation S.depreciationEntries.next row asset dto.amount)
        S.depreciationEntries.next { S with depreciationEntries := S.depreciationEntries.add row }
      exact hpost ▸ .createdDepreciation now userId dto hfind
    · rw [run_bind_of_error hrun]
      exact .nothing trivial
  | deleteBranchDepreciationEntry now branchId entryId =>
    show BillingStep S _ ((BranchBilling.deleteBranchDepreciationEntry now branchId entryId).run S).2
    unfold BranchBilling.deleteBranchDepreciationEntry
    rw [run_read_bind]
    rcases find_filter_branch S.depreciationEntries BranchDepreciationEntry.branchId entryId branchId with
      ⟨row, hfind, rfl, hfilter⟩ | ⟨hfilter, -⟩
    · rw [hfilter]
      rw [snd_run_reverse]
      exact .deletedDepreciation now hfind
    · rw [hfilter]
      exact .nothing trivial
  | createBranchAccruedLiability now branchId dto =>
    have hstep : BillingCall.step S (.createBranchAccruedLiability now branchId dto) = _ :=
      snd_run_post now (isFor_accrued S.accruedLiabilities.next (newAccruedLiability branchId dto) dto.amount)
        S.accruedLiabilities.next
        { S with accruedLiabilities := S.accruedLiabilities.add (newAccruedLiability branchId dto) }
    rw [hstep]
    exact .createdLiability now branchId dto
  | settleBranchAccruedLiability now branchId liabilityId settledAt =>
    show BillingStep S _ ((BranchBilling.settleBranchAccruedLiability now branchId liabilityId settledAt).run S).2
    unfold BranchBilling.settleBranchAccruedLiability
    rcases run_findAccruedLiability branchId liabilityId S with ⟨row, hfind, rfl, hrun⟩ | ⟨⟨e, hrun⟩, -⟩
    · rw [run_bind_of_ok hrun]
      let saved := settledLiability now settledAt row
      have hpost := snd_run_post now (isFor_settlement now liabilityId saved) saved
        { S with accruedLiabilities := S.accruedLiabilities.set liabilityId saved }
      exact hpost ▸ .settledLiability now settledAt hfind
    · rw [run_bind_of_error hrun]
      exact .nothing trivial
  | deleteBranchAccruedLiability now branchId liabilityId =>
    show BillingStep S _ ((BranchBilling.deleteBranchAccruedLiability now branchId liabilityId).run S).2
    unfold BranchBilling.deleteBranchAccruedLiability
    rcases run_findAccruedLiability branchId liabilityId S with ⟨row, hfind, rfl, hrun⟩ | ⟨⟨e, hrun⟩, hother⟩
    · rw [run_bind_of_ok hrun, snd_run_reverse]
      exact .deletedLiability now hfind
    · rw [run_bind_of_error hrun]
      exact .nothing fun row hrow hbranch => absurd hbranch (hother row hrow)
  | createBranchLongTermDebt now branchId dto =>
    have hstep : BillingCall.step S (.createBranchLongTermDebt now branchId dto) = _ :=
      snd_run_post now (isFor_longTermDebt S.longTermDebts.next (newLongTermDebt branchId dto) dto.principalAmount)
        S.longTermDebts.next { S with longTermDebts := S.longTermDebts.add (newLongTermDebt branchId dto) }
    rw [hstep]
    exact .createdDebt now branchId dto
  | deleteBranchLongTermDebt now branchId debtId =>
    show BillingStep S _ ((BranchBilling.deleteBranchLongTermDebt now branchId debtId).run S).2
    unfold BranchBilling.deleteBranchLongTermDebt
    rw [run_read_bind]
    rcases find_filter_branch S.longTermDebts BranchLongTermDebt.branchId debtId branchId with
      ⟨row, hfind, rfl, hfilter⟩ | ⟨hfilter, -⟩
    · rw [hfilter]
      rw [snd_run_reverse]
      exact .deletedDebt now hfind
    · rw [hfilter]
      exact .nothing trivial

/-! ### Records and keys -/

structure StoresRecord (S S' : BillingStore) (branchId : ℕ) (k : RecordKey) : Prop where
  id_eq : k.id = S.next k.record.table
  next : ∀ table, S'.next table = if table = k.record.table then S.next table + 1 else S.next table
  branch : ∀ r, S'.branchOf r = if r = k.record then some branchId else S.branchOf r
  ledger : ∃ now input, IsFor input branchId k ∧ S'.ledger = postedLedger now input S.ledger

/-- Something is posted under a key of a stored record. -/
structure Charges (S S' : BillingStore) (branchId : ℕ) (k : RecordKey) : Prop where
  stored : S.branchOf k.record = some branchId
  next : ∀ table, S'.next table = S.next table
  branch : ∀ r, S'.branchOf r = S.branchOf r
  ledger : ∃ now input, IsFor input branchId k ∧ S'.ledger = postedLedger now input S.ledger

/-- Records are deleted, among them that of the key, whose entry is reversed. -/
structure Removes (S S' : BillingStore) (branchId : ℕ) (k : RecordKey) (Gone : BillingRecord → Prop) : Prop where
  stored : S.branchOf k.record = some branchId
  self : Gone k.record
  next : ∀ table, S'.next table = S.next table
  branch : ∀ r, Gone r → S'.branchOf r = none
  branch_of_not : ∀ r, ¬ Gone r → S'.branchOf r = S.branchOf r
  lone : ∀ k' ≠ k, Gone k'.record → ∀ k'', k''.record = k'.record → k'' = k' ∨ k'' = k
  ledger : ∃ now occurredAt, S'.ledger = reversedLedger now branchId k.text occurredAt S.ledger

/-- No other key of the records that are deleted has an entry. -/
def OnlyKey (S : BillingStore) (k : RecordKey) (Gone : BillingRecord → Prop) : Prop :=
  ∀ k' ≠ k, ∀ branchId, S.branchOf k'.record = some branchId → Gone k'.record →
    S.ledger.entryByKey branchId k'.text = none

inductive RecordStep (S S' : BillingStore) (c : BillingCall) : Prop
  | nothing : S' = S → NothingElsePosted S c → RecordStep S S' c
  | adds (branchId : ℕ) (k : RecordKey) : StoresRecord S S' branchId k → NothingElsePosted S c → RecordStep S S' c
  | charges (branchId : ℕ) (k : RecordKey) : Charges S S' branchId k → NothingElsePosted S c → RecordStep S S' c
  | removes (branchId : ℕ) (k : RecordKey) (Gone : BillingRecord → Prop) : Removes S S' branchId k Gone →
    (NothingElsePosted S c ↔ OnlyKey S k Gone) → RecordStep S S' c

section Tables

variable {ν : Type} (t : SerialTable ν) (branch : ν → ℕ) (id : ℕ)

theorem map_find_add (row : ν) : ((t.add row).find id).map branch =
    if id = t.next then some (branch row) else (t.find id).map branch := by
  split_ifs with h
  · rw [h, find_add_self, Option.map_some]
  · rw [find_add_of_ne t row h]

theorem map_find_remove (id' : ℕ) : ((t.remove id').find id).map branch =
    if id = id' then none else (t.find id).map branch := by
  split_ifs with h
  · rw [h, find_remove_self, Option.map_none]
  · rw [find_remove_of_ne t h]

theorem map_find_set {id' : ℕ} {row row' : ν} (h : t.find id' = some row) (hbranch : branch row' = branch row) :
    ((t.set id' row').find id).map branch = (t.find id).map branch := by
  by_cases heq : id = id'
  · rw [heq, find_set_self h, h, Option.map_some, Option.map_some, hbranch]
  · rw [find_set_of_ne t row' heq]

end Tables

variable {S S' : BillingStore} {k : RecordKey}

theorem onlyKey_self_iff : OnlyKey S k (· = k.record) ↔
    ∀ k' ≠ k, k'.record = k.record → ∀ branchId, S.branchOf k.record = some branchId →
      S.ledger.entryByKey branchId k'.text = none := by
  constructor
  · intro h k' hne hrecord branchId hbranch
    exact h k' hne branchId (by rw [hrecord, hbranch]) hrecord
  · intro h k' hne branchId hbranch hrecord
    exact h k' hne hrecord branchId (by rw [← hrecord, hbranch])

theorem onlyKey_self (h : k.record.keys = [k]) : OnlyKey S k (· = k.record) := by
  refine onlyKey_self_iff.mpr fun k' hne hrecord => ?_
  have hmem : k' ∈ k.record.keys := BillingRecord.mem_keys.mpr hrecord
  rw [h, List.mem_singleton] at hmem
  exact absurd hmem hne

section Smart

variable {now : ℤ} {branchId : ℕ} {c : BillingCall}

theorem RecordStep.stored {input : LedgerPosting} (hfor : IsFor input branchId k)
    (hid : k.id = S.next k.record.table) (hledger : S'.ledger = postedLedger now input S.ledger)
    (hc : NothingElsePosted S c)
    (hnext : ∀ table, S'.next table = if table = k.record.table then S.next table + 1 else S.next table := by
      intro table
      cases table <;> rfl)
    (hbranch : ∀ r, S'.branchOf r = if r = k.record then some branchId else S.branchOf r := by
      rintro ⟨table, id⟩
      cases table <;> simp [BillingStore.branchOf, RecordKey.record, RecordPosting.table, map_find_add, newExpense,
        newFixedAsset, newDepreciationEntry, newAccruedLiability, newLongTermDebt]) :
    RecordStep S S' c :=
  .adds branchId k ⟨hid, hnext, hbranch, now, input, hfor, hledger⟩ hc

theorem RecordStep.removed {occurredAt : Option ℤ} (hstored : S.branchOf k.record = some branchId)
    (hledger : S'.ledger = reversedLedger now branchId k.text occurredAt S.ledger)
    (hiff : NothingElsePosted S c ↔ OnlyKey S k (· = k.record)) (hnext : ∀ table, S'.next table = S.next table := by
      intro table
      cases table <;> rfl)
    (hbranch : ∀ r, S'.branchOf r = if r = k.record then none else S.branchOf r := by
      rintro ⟨table, id⟩
      cases table <;> simp [BillingStore.branchOf, RecordKey.record, RecordPosting.table, map_find_remove]) :
    RecordStep S S' c :=
  .removes branchId k (· = k.record) ⟨hstored, rfl, hnext, fun r hr => (hbranch r).trans (if_pos hr),
    fun r hr => (hbranch r).trans (if_neg hr),
    fun _ hne hrecord _ hrecord' => RecordKey.eq_or_eq_of_record hne hrecord hrecord', now, _, hledger⟩ hiff

end Smart

theorem BillingStep.recordStep {c : BillingCall} (hassets : AssetsStored S)
    (h : BillingStep S c S') : RecordStep S S' c := by
  cases h with
  | nothing h => exact .nothing rfl h
  | createdExpense now branchId userId dto =>
    exact .stored (k := ⟨.expense, S.expenses.next⟩) (isFor_expense _ _ _) rfl rfl trivial
  | deletedExpense now hfind =>
    exact .removed (k := ⟨.expense, _⟩) (congrArg (Option.map BranchExpense.branchId) hfind) rfl
      (iff_of_true trivial (onlyKey_self rfl))
  | createdFixedAsset now branchId dto =>
    exact .stored (k := ⟨.fixedAsset, S.fixedAssets.next⟩) (isFor_fixedAsset _ _ _) rfl rfl trivial
  | @deletedFixedAsset now assetId row hfind =>
    have hstored : S.branchOf ⟨.fixedAssets, assetId⟩ = some row.branchId :=
      congrArg (Option.map BranchFixedAsset.branchId) hfind
    let Gone (r : BillingRecord) : Prop := r = ⟨.fixedAssets, assetId⟩ ∨ r.table = .depreciationEntries ∧
      ∃ entry, S.depreciationEntries.find r.id = some entry ∧ entry.fixedAssetId = assetId
    refine .removes row.branchId ⟨.fixedAsset, assetId⟩ Gone
      ⟨hstored, .inl rfl, ?_, ?_, ?_, ?_, now, _, rfl⟩ ?_
    · intro table
      cases table <;> rfl
    · rintro r (rfl | ⟨htable, entry, hentry, hasset⟩)
      · simp [BillingStore.branchOf, BillingStore.removeFixedAsset]
      · simp [BillingStore.branchOf, BillingStore.removeFixedAsset, htable, find_filter, hentry, hasset]
    · rintro ⟨table, id⟩ hnot
      cases table with
      | fixedAssets =>
        have hne : id ≠ assetId := fun heq => hnot (.inl (by rw [heq]))
        exact congrArg (Option.map BranchFixedAsset.branchId) (find_remove_of_ne S.fixedAssets hne)
      | depreciationEntries =>
        refine congrArg (Option.map BranchDepreciationEntry.branchId) ((find_filter _ _ id).trans ?_)
        cases hentry : S.depreciationEntries.find id with
        | none => rfl
        | some entry =>
          have hasset : entry.fixedAssetId ≠ assetId := fun heq => hnot (.inr ⟨rfl, entry, hentry, heq⟩)
          simp [hasset]
      | _ => rfl
    · rintro k' hne (hrecord | ⟨htable, -⟩) k'' hrecord'
      · exact RecordKey.eq_or_eq_of_record hne hrecord hrecord'
      · exact .inl (RecordKey.eq_of_depreciation htable hrecord')
    · constructor
      · rintro hnone ⟨posting, id⟩ hne branchId hbranch (hrecord | ⟨htable, entry, hentry, hasset⟩)
        · have hmem : (⟨posting, id⟩ : RecordKey) ∈ (⟨.fixedAssets, assetId⟩ : BillingRecord).keys :=
            BillingRecord.mem_keys.mpr hrecord
          exact absurd (List.mem_singleton.mp hmem) hne
        · have hposting : posting = .depreciation := by
            cases posting <;> first | rfl | cases htable
          subst hposting
          obtain ⟨asset, hfound, hsame⟩ := hassets id entry hentry
          -- the entry is of the branch of the asset
          have hrow : row = asset := by
            rw [hasset] at hfound
            exact Option.mem_unique hfind hfound
          have hmap : S.branchOf ⟨.depreciationEntries, id⟩ = some entry.branchId :=
            congrArg (Option.map BranchDepreciationEntry.branchId) hentry
          have hbranchId : entry.branchId = branchId := Option.mem_unique hmap hbranch
          rw [← hbranchId, ← hsame, ← hrow]
          exact hnone row hfind rfl id (lt_next_of_find hentry) entry hentry hasset
      · intro honly asset hmem hbranch id hid entry hentry hasset
        obtain ⟨asset', hfound, hsame⟩ := hassets id entry hentry
        have hrow : row = asset' := by
          rw [hasset] at hfound
          exact Option.mem_unique hfind hfound
        have hmap : S.branchOf ⟨.depreciationEntries, id⟩ = some entry.branchId :=
          congrArg (Option.map BranchDepreciationEntry.branchId) hentry
        rw [hrow, hsame]
        exact honly ⟨.depreciation, id⟩ (by simp) entry.branchId hmap (.inr ⟨rfl, entry, hentry, hasset⟩)
  | createdDepreciation now userId dto hfind =>
    exact .stored (k := ⟨.depreciation, S.depreciationEntries.next⟩) (isFor_depreciation _ _ _ _) rfl rfl trivial
  | deletedDepreciation now hfind =>
    exact .removed (k := ⟨.depreciation, _⟩) (congrArg (Option.map BranchDepreciationEntry.branchId) hfind) rfl
      (iff_of_true trivial (onlyKey_self rfl))
  | createdLiability now branchId dto =>
    exact .stored (k := ⟨.accrued, S.accruedLiabilities.next⟩) (isFor_accrued _ _ _) rfl rfl trivial
  | settledLiability now settledAt hfind =>
    refine .charges _ ⟨.accruedSettle, _⟩
      ⟨congrArg (Option.map BranchAccruedLiability.branchId) hfind, ?_, ?_, now, _,
        isFor_settlement now _ (BranchBilling.settledLiability now settledAt _), rfl⟩ trivial
    · intro table
      cases table <;> rfl
    · rintro ⟨table, id⟩
      cases table with
      | accruedLiabilities => exact map_find_set _ _ _ hfind rfl
      | _ => rfl
  | @deletedLiability now liabilityId row hfind =>
    have hstored : S.branchOf ⟨.accruedLiabilities, liabilityId⟩ = some row.branchId :=
      congrArg (Option.map BranchAccruedLiability.branchId) hfind
    refine .removed (k := ⟨.accrued, liabilityId⟩) hstored rfl ?_
    rw [onlyKey_self_iff]
    constructor
    · intro hnone k' hne hrecord branchId hbranch
      have hmem : k' ∈ (⟨.accruedLiabilities, liabilityId⟩ : BillingRecord).keys := BillingRecord.mem_keys.mpr hrecord
      have hkey : k' = ⟨.accruedSettle, liabilityId⟩ := (List.mem_pair.mp hmem).resolve_left hne
      have hsame : row.branchId = branchId := Option.mem_unique hstored hbranch
      rw [hkey, ← hsame]
      exact hnone row hfind rfl
    · intro hnone liability hliability hbranch
      refine hnone ⟨.accruedSettle, liabilityId⟩ (by simp) rfl row.branchId hstored
  | createdDebt now branchId dto =>
    exact .stored (k := ⟨.longTermDebt, S.longTermDebts.next⟩) (isFor_longTermDebt _ _ _) rfl rfl trivial
  | deletedDebt now hfind =>
    exact .removed (k := ⟨.longTermDebt, _⟩) (congrArg (Option.map BranchLongTermDebt.branchId) hfind) rfl
      (iff_of_true trivial (onlyKey_self rfl))

/-! ### One call -/

/-- The keys of records that are not there yet are unused; those of stored records are unused or booked. -/
structure SoundKeys (S : BillingStore) : Prop where
  linked : S.ledger.Linked
  unused : ∀ k, S.next k.record.table ≤ k.id → Unused S.ledger k
  stored : ∀ k branchId, S.branchOf k.record = some branchId → UnusedOrBooked S.ledger branchId k

/-- No key of a deleted record makes up anything. -/
def ClearedKeys (S : BillingStore) : Prop :=
  ∀ k, S.Deleted k.record → ∀ accountCode, S.ledger.netOfKey k accountCode = 0

section Step

variable {S S' : BillingStore} {c : BillingCall} (h : SoundKeys S)

include h

variable {branchId : ℕ} {k : RecordKey}

theorem StoresRecord.keeps (hadds : StoresRecord S S' branchId k) :
    KeepsOthers k S.ledger S'.ledger ∧ UnusedOrBooked S'.ledger branchId k := by
  obtain ⟨now, input, hfor, hledger⟩ := hadds.ledger
  rw [hledger]
  exact posts_ledger now hfor h.linked (.inl (h.unused k hadds.id_eq.ge))

theorem Charges.keeps (hcharges : Charges S S' branchId k) :
    KeepsOthers k S.ledger S'.ledger ∧ UnusedOrBooked S'.ledger branchId k := by
  obtain ⟨now, input, hfor, hledger⟩ := hcharges.ledger
  rw [hledger]
  exact posts_ledger now hfor h.linked (h.stored k branchId hcharges.stored)

theorem Removes.keeps {Gone : BillingRecord → Prop}
    (hremoves : Removes S S' branchId k Gone) :
    KeepsOthers k S.ledger S'.ledger ∧ ∀ accountCode, S'.ledger.netOfKey k accountCode = 0 := by
  obtain ⟨now, occurredAt, hledger⟩ := hremoves.ledger
  rw [hledger]
  exact reverses_ledger now occurredAt h.linked (h.stored k branchId hremoves.stored)

theorem SoundKeys.step (hstep : RecordStep S S' c) : SoundKeys S' := by
  cases hstep with
  | nothing hsame _ => rwa [hsame]
  | adds branchId k hadds _ =>
    obtain ⟨hkeeps, hself⟩ := hadds.keeps h
    refine ⟨hkeeps.linked, fun k' hle => ?_, fun k' branchId' hbranch => ?_⟩
    · have hid := hadds.id_eq
      have hne : k' ≠ k := by
        rintro rfl
        rw [hadds.next, if_pos rfl] at hle
        omega
      refine hkeeps.unused k' hne (h.unused k' ?_)
      rw [hadds.next] at hle
      split_ifs at hle <;> omega
    · rw [hadds.branch] at hbranch
      split_ifs at hbranch with hrecord
      · cases hbranch
        by_cases hkey : k' = k
        · rwa [hkey]
        · have hid : k'.id = k.id := congrArg BillingRecord.id hrecord
          have hle : S.next k'.record.table ≤ k'.id := by
            rw [hrecord, hid]
            exact hadds.id_eq.ge
          exact .inl (hkeeps.unused k' hkey (h.unused k' hle))
      · have hne : k' ≠ k := fun hkey => hrecord (congrArg RecordKey.record hkey)
        exact hkeeps.unusedOrBooked hne (h.stored k' branchId' hbranch)
  | charges branchId k hcharges _ =>
    obtain ⟨hkeeps, hself⟩ := hcharges.keeps h
    have hlt := BillingStore.lt_next_of_branchOf hcharges.stored
    refine ⟨hkeeps.linked, fun k' hle => ?_, fun k' branchId' hbranch => ?_⟩
    · rw [hcharges.next] at hle
      have hne : k' ≠ k := by
        rintro rfl
        exact absurd hlt (not_lt.mpr hle)
      exact hkeeps.unused k' hne (h.unused k' hle)
    · rw [hcharges.branch] at hbranch
      by_cases hkey : k' = k
      · have hsame : branchId = branchId' := by
          rw [hkey] at hbranch
          exact Option.mem_unique hcharges.stored hbranch
        rwa [hkey, ← hsame]
      · exact hkeeps.unusedOrBooked hkey (h.stored k' branchId' hbranch)
  | removes branchId k Gone hremoves _ =>
    obtain ⟨hkeeps, -⟩ := hremoves.keeps h
    have hlt := BillingStore.lt_next_of_branchOf hremoves.stored
    refine ⟨hkeeps.linked, fun k' hle => ?_, fun k' branchId' hbranch => ?_⟩
    · rw [hremoves.next] at hle
      have hne : k' ≠ k := by
        rintro rfl
        exact absurd hlt (not_lt.mpr hle)
      exact hkeeps.unused k' hne (h.unused k' hle)
    · have hstays : ¬ Gone k'.record := by
        intro hgone
        rw [hremoves.branch _ hgone] at hbranch
        cases hbranch
      have hne : k' ≠ k := by
        rintro rfl
        exact hstays hremoves.self
      rw [hremoves.branch_of_not _ hstays] at hbranch
      exact hkeeps.unusedOrBooked hne (h.stored k' branchId' hbranch)

theorem ClearedKeys.step (hcleared : ClearedKeys S) (hstep : RecordStep S S' c) (hc : NothingElsePosted S c) :
    ClearedKeys S' := by
  cases hstep with
  | nothing hsame _ => rwa [hsame]
  | adds branchId k hadds _ =>
    rintro k' ⟨hlt, hnone⟩ accountCode
    rw [hadds.branch] at hnone
    split_ifs at hnone with hrecord
    have hne : k' ≠ k := fun hkey => hrecord (congrArg RecordKey.record hkey)
    have hdeleted : S.Deleted k'.record := by
      refine ⟨?_, hnone⟩
      rw [hadds.next] at hlt
      split_ifs at hlt with htable
      · have hid : k'.record.id ≠ k.record.id := fun hid => hrecord (BillingRecord.ext htable hid)
        have hnext : k.record.id = S.next k.record.table := hadds.id_eq
        rw [htable] at hlt ⊢
        omega
      · exact hlt
    rw [(hadds.keeps h).1.net k' hne, hcleared k' hdeleted]
  | charges branchId k hcharges _ =>
    rintro k' ⟨hlt, hnone⟩ accountCode
    rw [hcharges.next] at hlt
    rw [hcharges.branch] at hnone
    have hne : k' ≠ k := by
      rintro rfl
      rw [hcharges.stored] at hnone
      cases hnone
    rw [(hcharges.keeps h).1.net k' hne, hcleared k' ⟨hlt, hnone⟩]
  | removes branchId k Gone hremoves hiff =>
    rintro k' ⟨hlt, hnone⟩ accountCode
    obtain ⟨hkeeps, hzero⟩ := hremoves.keeps h
    rw [hremoves.next] at hlt
    by_cases hkey : k' = k
    · rw [hkey]
      exact hzero accountCode
    rw [hkeeps.net k' hkey]
    by_cases hgone : Gone k'.record
    · cases hbranch : S.branchOf k'.record with
      | none => exact hcleared k' ⟨hlt, hbranch⟩ accountCode
      | some branchId' =>
        have hentry := hiff.mp hc k' hkey branchId' hbranch hgone
        exact ((h.stored k' branchId' hbranch).unused_iff.1.mpr hentry) accountCode
    · rw [hremoves.branch_of_not _ hgone] at hnone
      exact hcleared k' ⟨hlt, hnone⟩ accountCode

/-- The entries of no deleted record, taken together, make up anything. -/
def ClearedRecords (S : BillingStore) : Prop :=
  ∀ r, S.Deleted r → ∀ accountCode, S.ledger.netOfKeys r.keys accountCode = 0

omit h in
theorem ClearedKeys.records (hcleared : ClearedKeys S) : ClearedRecords S := by
  intro r hr accountCode
  rw [netOfKeys_eq_sum _ r.nodup_keys]
  refine List.sum_eq_zero fun x hx => ?_
  obtain ⟨k, hk, rfl⟩ := List.mem_map.mp hx
  have hrecord : k.record = r := BillingRecord.mem_keys.mp hk
  exact hcleared k (by rwa [hrecord]) accountCode

theorem nothingElsePosted_of_cleared (hstep : RecordStep S S' c) (hcleared : ClearedRecords S') :
    NothingElsePosted S c := by
  cases hstep with
  | nothing _ hc => exact hc
  | adds _ _ _ hc => exact hc
  | charges _ _ _ hc => exact hc
  | removes branchId k Gone hremoves hiff =>
    obtain ⟨hkeeps, hzero⟩ := hremoves.keeps h
    refine hiff.mpr fun k' hne branchId' hbranch hgone => ?_
    have hdeleted : S'.Deleted k'.record := by
      refine ⟨?_, hremoves.branch _ hgone⟩
      rw [hremoves.next]
      exact BillingStore.lt_next_of_branchOf hbranch
    refine (h.stored k' branchId' hbranch).unused_iff.1.mp fun accountCode => ?_
    -- the only other key of the record was reversed
    have hsum := hcleared k'.record hdeleted accountCode
    have hmap : (k'.record.keys.map fun k'' => S'.ledger.netOfKey k'' accountCode) =
        k'.record.keys.map fun k'' => if k' = k'' then S'.ledger.netOfKey k' accountCode else 0 := by
      refine List.map_congr_left fun k'' hk'' => ?_
      split_ifs with hsame
      · rw [hsame]
      · have hlone := hremoves.lone k' hne hgone k'' (BillingRecord.mem_keys.mp hk'')
        have hk : k'' = k := hlone.resolve_left fun heq => hsame heq.symm
        rw [hk, hzero]
    rw [netOfKeys_eq_sum _ (BillingRecord.nodup_keys _), hmap,
      sum_map_ite_eq (BillingRecord.nodup_keys _) (BillingRecord.mem_keys.mpr rfl), hkeeps.net k' hne] at hsum
    exact hsum

end Step

/-! ### Depreciation -/

/-- Entries of depreciation stay as they are until they are deleted. -/
structure KeepsEntries (S S' : BillingStore) : Prop where
  next : S.depreciationEntries.next ≤ S'.depreciationEntries.next
  kept : ∀ id < S.depreciationEntries.next, ∀ entry, S'.depreciationEntries.find id = some entry →
    S.depreciationEntries.find id = some entry

theorem KeepsEntries.refl (S : BillingStore) : KeepsEntries S S := ⟨le_refl _, fun _ _ _ hentry => hentry⟩

theorem KeepsEntries.trans {S₁ S₂ S₃ : BillingStore} (h : KeepsEntries S₁ S₂) (h' : KeepsEntries S₂ S₃) :
    KeepsEntries S₁ S₃ :=
  ⟨h.next.trans h'.next, fun id hid entry hentry =>
    h.kept id hid entry (h'.kept id (hid.trans_le h.next) entry hentry)⟩

theorem BillingStep.assets {S S' : BillingStore} {c : BillingCall} (hassets : AssetsStored S)
    (h : BillingStep S c S') : AssetsStored S' ∧ KeepsEntries S S' := by
  cases h with
  | createdFixedAsset now branchId dto =>
    refine ⟨fun id entry hentry => ?_, le_refl _, fun _ _ _ => id⟩
    obtain ⟨asset, hfind, hbranch⟩ := hassets id entry hentry
    exact ⟨asset, find_add_of_find hfind _, hbranch⟩
  | @deletedFixedAsset now assetId row hrow =>
    have hkept : ∀ id entry, (S.removeFixedAsset assetId).depreciationEntries.find id = some entry →
        S.depreciationEntries.find id = some entry ∧ entry.fixedAssetId ≠ assetId := by
      intro id entry hentry
      have hfilter := (find_filter _ _ id).symm.trans hentry
      obtain ⟨hfind, hne⟩ := Option.filter_eq_some_iff.mp hfilter
      exact ⟨hfind, of_decide_eq_true hne⟩
    refine ⟨fun id entry hentry => ?_, le_refl _, fun id _ entry hentry => (hkept id entry hentry).1⟩
    obtain ⟨hfind, hne⟩ := hkept id entry hentry
    obtain ⟨asset, hfound, hbranch⟩ := hassets id entry hfind
    exact ⟨asset, (find_remove_of_ne S.fixedAssets hne).trans hfound, hbranch⟩
  | @createdDepreciation now userId dto asset hfind =>
    exact ⟨forall_find_add hassets ⟨asset, hfind, rfl⟩, Nat.le_succ _,
      fun id hid entry hentry => (find_add_of_ne _ _ hid.ne).symm.trans hentry⟩
  | @deletedDepreciation now entryId row hrow =>
    have hkept : ∀ id entry, (S.depreciationEntries.remove entryId).find id = some entry →
        S.depreciationEntries.find id = some entry := by
      intro id entry hentry
      by_cases hid : id = entryId
      · rw [hid, find_remove_self] at hentry
        cases hentry
      · exact (find_remove_of_ne _ hid).symm.trans hentry
    exact ⟨fun id entry hentry => hassets id entry (hkept id entry hentry), le_refl _,
      fun id _ entry hentry => hkept id entry hentry⟩
  | _ => exact ⟨hassets, le_refl _, fun _ _ _ => id⟩

/-! ### Every run -/

/-- The entries of depreciation that were recorded for an asset, deleted or not. -/
def depreciationIds (J : GlStore) (calls : List BillingCall) (assetId : ℕ) : List ℕ :=
  (List.range (Run.after BillingCall.step (.start J) calls).depreciationEntries.next).filter fun id =>
    (List.range (calls.length + 1)).any fun n =>
      ((Run.after BillingCall.step (.start J) (calls.take n)).depreciationEntries.find id).any fun entry =>
        entry.fixedAssetId = assetId

/-- The keys of all that can be posted for a record: for an asset, those of its depreciation too. -/
def postedKeys (J : GlStore) (calls : List BillingCall) (r : BillingRecord) : List RecordKey :=
  r.keys ++ if r.table = .fixedAssets then
    (depreciationIds J calls r.id).map fun id => ⟨.depreciation, id⟩ else []

/-- The entries that were posted for a deleted record, with their reversals, make up nothing on any account. -/
def BooksRemoved (J : GlStore) (calls : List BillingCall) : Prop :=
  let S := Run.after BillingCall.step (.start J) calls
  ∀ r, S.Deleted r → ∀ accountCode, S.ledger.netOfKeys (postedKeys J calls r) accountCode = 0

theorem nodup_postedKeys (J : GlStore) (calls : List BillingCall) (r : BillingRecord) : (postedKeys J calls r).Nodup := by
  unfold postedKeys
  split_ifs with htable
  · have hids : (depreciationIds J calls r.id).Nodup := List.Nodup.filter _ List.nodup_range
    refine r.nodup_keys.append (hids.map fun id id' heq => congrArg RecordKey.id heq) fun k hk hk' => ?_
    obtain ⟨id, -, rfl⟩ := List.mem_map.mp hk'
    have hrecord : r = ⟨.depreciationEntries, id⟩ := (BillingRecord.mem_keys.mp hk).symm
    rw [hrecord] at htable
    cases htable
  · rw [List.append_nil]
    exact r.nodup_keys

section Runs

variable {J : GlStore}

theorem soundKeys_start (hlinked : J.Linked) (hunused : ∀ k, Unused J k) : SoundKeys (.start J) where
  linked := hlinked
  unused k _ := hunused k
  stored k branchId hbranch := by
    have hnone : (BillingStore.start J).branchOf k.record = none := by
      obtain ⟨posting, id⟩ := k
      cases posting <;> rfl
    rw [hnone] at hbranch
    cases hbranch

theorem clearedKeys_start (hunused : ∀ k, Unused J k) : ClearedKeys (.start J) := fun k _ => (hunused k).netOfKey

theorem assetsStored_start : AssetsStored (.start J) := fun _ _ hentry => by cases hentry

variable (calls : List BillingCall)

theorem assetsStored_after : AssetsStored (Run.after BillingCall.step (.start J) calls) := by
  have hstep : ∀ S c, AssetsStored S → AssetsStored (BillingCall.step S c) :=
    fun S c hS => ((BillingCall.step_cases S c).assets hS).1
  exact Run.after_invariant hstep assetsStored_start calls

theorem keepsEntries_take {n m : ℕ} (hnm : n ≤ m) :
    KeepsEntries (Run.after BillingCall.step (.start J) (calls.take n))
      (Run.after BillingCall.step (.start J) (calls.take m)) := by
  have hstep : ∀ S c, AssetsStored S → True →
      AssetsStored (BillingCall.step S c) ∧ KeepsEntries S (BillingCall.step S c) :=
    fun S c hS _ => (BillingCall.step_cases S c).assets hS
  have halong : Run.Along BillingCall.step (fun _ _ => True) (.start J) calls :=
    Run.along_of_forall fun _ _ => trivial
  exact Run.rel_take KeepsEntries.refl (fun _ _ _ => KeepsEntries.trans) hstep assetsStored_start halong hnm

/-- The store after the calls. -/
abbrev billedAfter (J : GlStore) (calls : List BillingCall) : BillingStore := Run.after BillingCall.step (.start J) calls

theorem deleted_of_mem_depreciationIds {calls : List BillingCall} {assetId id : ℕ}
    (hdeleted : (billedAfter J calls).Deleted ⟨.fixedAssets, assetId⟩)
    (hid : id ∈ depreciationIds J calls assetId) :
    (billedAfter J calls).Deleted ⟨.depreciationEntries, id⟩ := by
  obtain ⟨hrange, hany⟩ := List.mem_filter.mp hid
  obtain ⟨n, hn, hfound⟩ := List.any_eq_true.mp hany
  refine ⟨List.mem_range.mp hrange, ?_⟩
  by_contra hbranch
  obtain ⟨branchId, hbranch⟩ := Option.ne_none_iff_exists'.mp hbranch
  obtain ⟨entry, hentry, -⟩ := Option.map_eq_some_iff.mp hbranch
  have hentry : (billedAfter J calls).depreciationEntries.find id = some entry := hentry
  have hkeeps := keepsEntries_take (J := J) calls (Nat.le_of_lt_succ (List.mem_range.mp hn))
  rw [List.take_length] at hkeeps
  -- it would be the entry that was recorded for the asset, so that the asset would be there
  cases hrow : (Run.after BillingCall.step (.start J) (calls.take n)).depreciationEntries.find id with
  | none =>
    rw [hrow] at hfound
    cases hfound
  | some entry' =>
    have hsame := hkeeps.kept id (lt_next_of_find hrow) entry hentry
    rw [hsame, Option.any_some, decide_eq_true_eq] at hfound
    obtain ⟨asset, hasset, -⟩ := assetsStored_after calls id entry hentry
    rw [hfound] at hasset
    have hstored := congrArg (Option.map BranchFixedAsset.branchId) hasset
    have hnone : ((billedAfter J calls).fixedAssets.find assetId).map
        BranchFixedAsset.branchId = none := hdeleted.2
    rw [hnone] at hstored
    cases hstored

/-- When no entry of deleted depreciation makes up anything, an asset comes to what its own entries do. -/
theorem netOfKeys_postedKeys {calls : List BillingCall}
    (hdepreciation : ∀ id, (billedAfter J calls).Deleted ⟨.depreciationEntries, id⟩ →
      ∀ accountCode, (billedAfter J calls).ledger.netOfKey ⟨.depreciation, id⟩ accountCode = 0)
    {r : BillingRecord} (hr : (billedAfter J calls).Deleted r) (accountCode : String) :
    (billedAfter J calls).ledger.netOfKeys (postedKeys J calls r) accountCode =
      (billedAfter J calls).ledger.netOfKeys r.keys accountCode := by
  rw [netOfKeys_eq_sum _ (nodup_postedKeys J calls r), netOfKeys_eq_sum _ r.nodup_keys]
  unfold postedKeys
  rw [List.map_append, List.sum_append]
  refine add_eq_left.mpr (List.sum_eq_zero fun x hx => ?_)
  obtain ⟨k, hk, rfl⟩ := List.mem_map.mp hx
  split_ifs at hk with htable
  · obtain ⟨id, hid, rfl⟩ := List.mem_map.mp hk
    have hrecord : r = ⟨.fixedAssets, r.id⟩ := BillingRecord.ext htable rfl
    rw [hrecord] at hr
    exact hdepreciation id (deleted_of_mem_depreciationIds hr hid) accountCode
  · cases hk

theorem booksRemoved_iff : BooksRemoved J calls ↔ ClearedRecords (billedAfter J calls) := by
  have hkeys : ∀ (ledger : GlStore) id accountCode,
      ledger.netOfKeys (BillingRecord.keys ⟨.depreciationEntries, id⟩) accountCode =
        ledger.netOfKey ⟨.depreciation, id⟩ accountCode := by
    intro ledger id accountCode
    rw [netOfKeys_eq_sum _ (BillingRecord.nodup_keys _)]
    exact List.sum_singleton
  constructor
  · intro h r hr accountCode
    have hdepreciation : ∀ id, (billedAfter J calls).Deleted ⟨.depreciationEntries, id⟩ →
        ∀ accountCode,
          (billedAfter J calls).ledger.netOfKey ⟨.depreciation, id⟩ accountCode = 0 := by
      intro id hid accountCode
      have hbooks := h ⟨.depreciationEntries, id⟩ hid accountCode
      have hposted : postedKeys J calls ⟨.depreciationEntries, id⟩ =
          BillingRecord.keys ⟨.depreciationEntries, id⟩ := List.append_nil _
      rwa [hposted, hkeys] at hbooks
    rw [← netOfKeys_postedKeys hdepreciation hr]
    exact h r hr accountCode
  · intro h r hr accountCode
    rw [netOfKeys_postedKeys _ hr]
    · exact h r hr accountCode
    · intro id hid accountCode
      rw [← hkeys]
      exact h _ hid accountCode

end Runs

/-- **The books of deleted records are removed exactly in the runs that delete no settled liability and no
depreciated asset.**  In every state of these runs, and only of these, the entries that were posted for a deleted
record add up to nothing on every account. -/
theorem books_removed_iff {J : GlStore} (hlinked : J.Linked) (hunused : ∀ k, Unused J k) (calls : List BillingCall) :
    (∀ n, BooksRemoved J (calls.take n)) ↔ Run.Along BillingCall.step NothingElsePosted (.start J) calls := by
  have hstart : AssetsStored (.start J) ∧ SoundKeys (.start J) ∧ ClearedKeys (.start J) :=
    ⟨assetsStored_start, soundKeys_start hlinked hunused, clearedKeys_start hunused⟩
  have hrecords : ∀ S, AssetsStored S ∧ SoundKeys S ∧ ClearedKeys S → ClearedRecords S :=
    fun S hS => hS.2.2.records
  have hstep : ∀ S c, AssetsStored S ∧ SoundKeys S ∧ ClearedKeys S → NothingElsePosted S c →
      AssetsStored (BillingCall.step S c) ∧ SoundKeys (BillingCall.step S c) ∧ ClearedKeys (BillingCall.step S c) := by
    rintro S c ⟨hassets, hsound, hcleared⟩ hc
    have hcases := BillingCall.step_cases S c
    have hrecord := hcases.recordStep hassets
    exact ⟨(hcases.assets hassets).1, hsound.step hrecord, hcleared.step hsound hrecord hc⟩
  have hmeets : ∀ S c, AssetsStored S ∧ SoundKeys S ∧ ClearedKeys S → ClearedRecords (BillingCall.step S c) →
      NothingElsePosted S c := by
    rintro S c ⟨hassets, hsound, -⟩ hcleared
    exact nothingElsePosted_of_cleared hsound ((BillingCall.step_cases S c).recordStep hassets) hcleared
  rw [← Run.forall_take_iff_along hrecords hstep hmeets hstart]
  exact forall_congr' fun n => booksRemoved_iff (calls.take n)

theorem unused_emptyJournal (k : RecordKey) : Unused emptyJournal k := fun _ he => by cases he

def van : BranchFixedAssetDto := { name := "Van", category := .vehicle, acquiredAt := 0, capitalizationAmount := 900 }

def rentDue : BranchAccruedLiabilityDto := { label := "Rent", category := .rent, amount := 500, accruedAt := 0 }

/-- A van whose depreciation is deleted before it, and a rent that is deleted before it is paid. -/
def orderlyDeletions : List BillingCall :=
  [.createBranchFixedAsset 0 1 van,
    .createBranchDepreciationEntry 1 1 7 { fixedAssetId := 1, amount := 75, occurredAt := 1 },
    .deleteBranchDepreciationEntry 2 1 1, .deleteBranchFixedAsset 3 1 1,
    .createBranchAccruedLiability 4 1 rentDue, .deleteBranchAccruedLiability 5 1 1]

/-- Their books are removed, in three reversals. -/
theorem books_removed_iff_orderlyDeletions :
    (Run.after BillingCall.step (.start emptyJournal) orderlyDeletions).ledger.entries.length = 6 ∧
      ∀ n, BooksRemoved emptyJournal (orderlyDeletions.take n) :=
  ⟨by decide +kernel, (books_removed_iff linked_emptyJournal unused_emptyJournal orderlyDeletions).mpr
    (by decide +kernel)⟩

/-- **A rent that is paid and then deleted** leaves 500 less in cash, and **a van that is depreciated and then
deleted** leaves the expense of 75. -/
theorem books_left :
    ¬ BooksRemoved emptyJournal [.createBranchAccruedLiability 0 1 rentDue,
      .settleBranchAccruedLiability 1 1 1 none, .deleteBranchAccruedLiability 2 1 1] ∧
    ¬ BooksRemoved emptyJournal [.createBranchFixedAsset 0 1 van,
      .createBranchDepreciationEntry 1 1 7 { fixedAssetId := 1, amount := 75, occurredAt := 1 },
      .deleteBranchFixedAsset 2 1 1] := by
  constructor
  · intro h
    have hcash : (Run.after BillingCall.step (.start emptyJournal) [.createBranchAccruedLiability 0 1 rentDue,
        .settleBranchAccruedLiability 1 1 1 none, .deleteBranchAccruedLiability 2 1 1]).ledger.netOfKeys
          [⟨.accrued, 1⟩, ⟨.accruedSettle, 1⟩] GlAccountCode.cash.code = -500 := by decide +kernel
    have hzero := h ⟨.accruedLiabilities, 1⟩ ⟨by decide +kernel, by decide +kernel⟩ GlAccountCode.cash.code
    have hcontra : (-500 : ℚ) = 0 := hcash.symm.trans hzero
    exact absurd hcontra (by decide +kernel)
  · intro h
    have hexpense : (Run.after BillingCall.step (.start emptyJournal) [.createBranchFixedAsset 0 1 van,
        .createBranchDepreciationEntry 1 1 7 { fixedAssetId := 1, amount := 75, occurredAt := 1 },
        .deleteBranchFixedAsset 2 1 1]).ledger.netOfKeys [⟨.fixedAsset, 1⟩, ⟨.depreciation, 1⟩]
          GlAccountCode.expenseDepreciation.code = 75 := by decide +kernel
    have hkeys : postedKeys emptyJournal [.createBranchFixedAsset 0 1 van,
        .createBranchDepreciationEntry 1 1 7 { fixedAssetId := 1, amount := 75, occurredAt := 1 },
        .deleteBranchFixedAsset 2 1 1] ⟨.fixedAssets, 1⟩ = [⟨.fixedAsset, 1⟩, ⟨.depreciation, 1⟩] := by
      decide +kernel
    have hzero := h ⟨.fixedAssets, 1⟩ ⟨by decide +kernel, by decide +kernel⟩ GlAccountCode.expenseDepreciation.code
    rw [hkeys] at hzero
    have hcontra : (75 : ℚ) = 0 := hexpense.symm.trans hzero
    exact absurd hcontra (by decide +kernel)

end SuuqBackend
