import SuuqBackend.Accounting.Laws.SourceNets
import SuuqBackend.PosSync.Laws.CheckoutLedger

/-!
# Voiding a checkout

A checkout may post two entries: the sale itself, and the cost of its goods under another key.
`voidCheckout` is documented to back "revenue, tax and receivable out of the books" and looks for the first
entry only, so that the cost of a voided sale of goods stays in the books, and the goods out of them.

* `netOn_posting`, `netOn_void`: what the posting and the void do to an account.
* `void_undoes_iff`: the void undoes the posting on every account exactly when `VoidUndoes` holds: in
  short, when no cost was posted.
* `voided_sale_keeps_cost`: the cost of a sale that is voided at once.
-/

namespace SuuqBackend

open Proc GeneralLedger PosCheckouts

namespace PosCheckouts

/-! ### What the entries of a checkout do to an account -/

section Effects

variable (env : PosCheckoutRuntime) (checkout : PosCheckout) (fc : FinancialClassification)

variable (account : GlAccountCode) (amount : ℚ)

theorem accounts_debitLine : ((debitLine account amount).map JournalLineInput.accountCode).Sublist [account.code] := by
  unfold debitLine
  split_ifs
  · exact List.Sublist.refl _
  · exact List.nil_sublist _

theorem accounts_creditLine :
    ((creditLine account amount).map JournalLineInput.accountCode).Sublist [account.code] := by
  unfold creditLine
  split_ifs
  · exact List.Sublist.refl _
  · exact List.nil_sublist _

theorem accounts_saleLines (legs : CheckoutLegs) :
    ((saleLines fc legs).map JournalLineInput.accountCode).Sublist
      [GlAccountCode.cash.code, GlAccountCode.tenderClearing.code,
        GlAccountCode.accountsReceivable.code, (resolveRevenueAccount fc.revenueAccount).code,
        GlAccountCode.taxPayable.code] := by
  unfold saleLines
  simp only [List.map_append]
  have hcash := accounts_debitLine .cash legs.cash
  have hclearing := hcash.append (accounts_debitLine .tenderClearing legs.clearing)
  have hreceivable := hclearing.append (accounts_debitLine .accountsReceivable legs.receivable)
  have hrevenue := hreceivable.append (accounts_creditLine (resolveRevenueAccount fc.revenueAccount) legs.revenue)
  exact hrevenue.append (accounts_creditLine .taxPayable legs.tax)

theorem accounts_checkoutLines : ((checkoutLines env checkout fc).map JournalLineInput.accountCode) =
    (saleLines fc (checkoutLegs env checkout)).map JournalLineInput.accountCode := by
  unfold checkoutLines
  split_ifs
  · rw [List.map_map]
    rfl
  · rfl

theorem nodup_accounts_checkoutLines : ((checkoutLines env checkout fc).map JournalLineInput.accountCode).Nodup := by
  rw [accounts_checkoutLines]
  apply (accounts_saleLines fc _).nodup
  unfold resolveRevenueAccount
  split_ifs <;> decide

theorem inputEffect_checkoutLines_cogs : inputEffect (checkoutLines env checkout fc) GlAccountCode.cogs.code = 0 := by
  have hnone : (checkoutLines env checkout fc).filter (fun l => l.accountCode = GlAccountCode.cogs.code) = [] := by
    rw [List.filter_eq_nil_iff]
    intro line hline hcogs
    have hmem : line.accountCode ∈ (checkoutLines env checkout fc).map JournalLineInput.accountCode :=
      List.mem_map_of_mem hline
    rw [accounts_checkoutLines] at hmem
    have hcode := (accounts_saleLines fc _).subset hmem
    rw [of_decide_eq_true hcogs] at hcode
    revert hcode
    unfold resolveRevenueAccount
    split_ifs <;> decide
  unfold inputEffect
  rw [hnone, List.map_nil, List.sum_nil]

theorem cents_debitLine {account : GlAccountCode} {amount : ℚ} (h : amount ∈ cents) :
    ∀ line ∈ debitLine account amount, amountOf line.debit ∈ cents ∧ amountOf line.credit ∈ cents := by
  unfold debitLine
  split_ifs
  · intro line hline
    rw [List.mem_singleton.mp hline]
    exact ⟨h, zero_mem cents⟩
  · intro line hline
    cases hline

theorem cents_creditLine {account : GlAccountCode} {amount : ℚ} (h : amount ∈ cents) :
    ∀ line ∈ creditLine account amount, amountOf line.debit ∈ cents ∧ amountOf line.credit ∈ cents := by
  unfold creditLine
  split_ifs
  · intro line hline
    rw [List.mem_singleton.mp hline]
    exact ⟨zero_mem cents, h⟩
  · intro line hline
    cases hline

theorem splitTenders_mem (toUpperCase : String → String) (rows : List TenderRow) (total : ℚ) :
    (splitTenders toUpperCase rows total).cash ∈ cents ∧ (splitTenders toUpperCase rows total).clearing ∈ cents := by
  unfold splitTenders
  dsimp only
  split_ifs
  · exact ⟨round2_mem _, zero_mem cents⟩
  · exact ⟨round2_mem _, round2_mem _⟩

theorem cents_saleLines : ∀ line ∈ saleLines fc (checkoutLegs env checkout),
    amountOf line.debit ∈ cents ∧ amountOf line.credit ∈ cents := by
  have hsplit := splitTenders_mem env.toUpperCase checkout.tenders (netCash checkout)
  intro line hline
  simp only [saleLines, List.mem_append] at hline
  rcases hline with (((h | h) | h) | h) | h
  · exact cents_debitLine hsplit.1 line h
  · exact cents_debitLine hsplit.2 line h
  · exact cents_debitLine (max_zero_mem_cents (round2_mem _)) line h
  · exact cents_creditLine (round2_mem _) line h
  · exact cents_creditLine (round2_mem _) line h

theorem cents_checkoutLines : ∀ line ∈ checkoutLines env checkout fc, amountOf line.debit ∈ cents := by
  unfold checkoutLines
  split_ifs
  · intro line hline
    obtain ⟨line', hline', rfl⟩ := List.mem_map.mp hline
    exact (cents_saleLines env checkout fc line' hline').2
  · exact fun line hline => (cents_saleLines env checkout fc line hline).1

theorem exists_inputEffect_checkoutLines_ne_zero {id : ℕ}
    (hok : assertBalanced (checkoutEntry env id checkout fc) = .ok ()) :
    ∃ accountCode, inputEffect (checkoutLines env checkout fc) accountCode ≠ 0 :=
  exists_inputEffect_ne_zero (nodup_accounts_checkoutLines env checkout fc)
    (lineAccepted_checkoutLines env checkout fc) (cents_checkoutLines env checkout fc)
    (assertBalanced_ok_iff.mp hok).2.2.2.2

theorem inputEffect_cogsLines_ne_zero {cost : ℚ} (hcents : cost ∈ cents) (hcost : 0 < cost) :
    inputEffect (cogsLines checkout cost) GlAccountCode.cogs.code ≠ 0 := by
  have hne : (GlAccountCode.inventory.code = GlAccountCode.cogs.code) = False := by decide
  unfold cogsLines inputEffect
  split_ifs
  · have heffect : round2 (amountOf none) - round2 (amountOf (some cost)) = -cost := by
      show round2 0 - round2 cost = -cost
      rw [round2_zero, round2_of_mem hcents, zero_sub]
    simp [hne, heffect, hcost.ne']
  · have heffect : round2 (amountOf (some cost)) - round2 (amountOf none) = cost := by
      show round2 cost - round2 0 = cost
      rw [round2_zero, round2_of_mem hcents, sub_zero]
    simp [hne, heffect, hcost.ne']

end Effects

/-! ### The posting -/

section Posting

variable (env : PosCheckoutRuntime) (id : ℕ) (checkout : PosCheckout) (S : PosCheckoutStore)

/-- The checkout posts its entry: the ledger takes it, and its key is new. -/
def PostsEntry : Prop :=
  ∃ fc, checkout.metadata.financialClassification = some fc ∧ LedgerAccepts env id checkout fc ∧
    S.journal.entryByKey checkout.branchId (ledgerKeyForCheckout id checkout) = none

/-- The key under which the cost of the checkout is posted. -/
def cogsKey : String := s!"pos-cogs-{ledgerKeyForCheckout id checkout}"

/-- The checkout posts a cost: the ledger takes its entry, the cost of its goods is known and not
nothing, and the key of the cost is new. -/
def PostsCost : Prop :=
  ∃ fc, checkout.metadata.financialClassification = some fc ∧ LedgerAccepts env id checkout fc ∧
    RelievesInventory env checkout fc S ∧
    S.journal.entryByKey checkout.branchId (cogsKey id checkout) = none

open Classical in
/-- What the cost of the checkout does to an account, if it is posted. -/
noncomputable def costEffect (accountCode : String) : ℚ :=
  if PostsCost env id checkout S then
    inputEffect (cogsLines checkout (totalCost checkout S.orders S.costPrices)) accountCode
  else 0

variable {env id checkout S} {fc : FinancialClassification}

theorem costEffect_of_posts (h : PostsCost env id checkout S) (accountCode : String) :
    costEffect env id checkout S accountCode =
      inputEffect (cogsLines checkout (totalCost checkout S.orders S.costPrices)) accountCode :=
  if_pos h

theorem costEffect_of_not (h : ¬ PostsCost env id checkout S) (accountCode : String) :
    costEffect env id checkout S accountCode = 0 :=
  if_neg h

theorem netOn_journalWith (hfc : checkout.metadata.financialClassification = some fc)
    (haccepts : LedgerAccepts env id checkout fc) (accountCode : String) :
    (journalWith env id checkout fc S).netOn accountCode =
      S.journal.netOn accountCode +
        (if S.journal.entryByKey checkout.branchId (ledgerKeyForCheckout id checkout) = none then
          inputEffect (checkoutLines env checkout fc) accountCode
        else 0) + costEffect env id checkout S accountCode := by
  have hentry : (S.journal.entered env.now (checkoutEntry env id checkout fc)).netOn accountCode =
      S.journal.netOn accountCode +
        if S.journal.entryByKey checkout.branchId (ledgerKeyForCheckout id checkout) = none then
          inputEffect (checkoutLines env checkout fc) accountCode
        else 0 :=
    netOn_entered haccepts.2.2 env.now accountCode
  by_cases hrelieves : RelievesInventory env checkout fc S
  · -- the entry of the checkout does not take the key of the cost
    have hkey : (S.journal.entered env.now (checkoutEntry env id checkout fc)).entryByKey
        checkout.branchId (cogsKey id checkout) = S.journal.entryByKey checkout.branchId (cogsKey id checkout) :=
      entryByKey_entered_of_ne (cogsEntry_key_ne 0).symm env.now
    have hcost := @netOn_entered (S.journal.entered env.now (checkoutEntry env id checkout fc)) _
      (assertBalanced_cogsEntry id checkout hrelieves.2) env.now accountCode
    rw [journalWith_of_relieves hrelieves, hcost]
    congr 1
    show (if (S.journal.entered env.now (checkoutEntry env id checkout fc)).entryByKey
      checkout.branchId (cogsKey id checkout) = none then _ else _) = _
    rw [hkey]
    split_ifs with hnew
    · exact (costEffect_of_posts ⟨fc, hfc, haccepts, hrelieves, hnew⟩ accountCode).symm
    · refine (costEffect_of_not ?_ accountCode).symm
      rintro ⟨fc', hfc', -, -, hnone⟩
      exact hnew hnone
  · rw [journalWith_of_not hrelieves, hentry, costEffect_of_not, add_zero]
    rintro ⟨fc', hfc', -, hrelieves', -⟩
    obtain rfl : fc = fc' := Option.mem_unique hfc hfc'
    exact hrelieves hrelieves'

theorem netOn_posting (hposts : PostsEntry env id checkout S)
    (hfc : checkout.metadata.financialClassification = some fc) (accountCode : String) :
    ((postCheckoutToLedger env id checkout).run S).2.journal.netOn accountCode =
      S.journal.netOn accountCode + inputEffect (checkoutLines env checkout fc) accountCode +
        costEffect env id checkout S accountCode := by
  obtain ⟨fc', hfc', haccepts, hnew⟩ := hposts
  obtain rfl : fc = fc' := Option.mem_unique hfc hfc'
  rw [run_postCheckoutToLedger hfc haccepts, netOn_journalWith hfc haccepts, if_pos hnew]

theorem netOn_posting_of_not (hposts : ¬ PostsEntry env id checkout S) (accountCode : String) :
    ((postCheckoutToLedger env id checkout).run S).2.journal.netOn accountCode =
      S.journal.netOn accountCode + costEffect env id checkout S accountCode := by
  by_cases h : ∃ fc, checkout.metadata.financialClassification = some fc ∧ LedgerAccepts env id checkout fc
  · obtain ⟨fc, hfc, haccepts⟩ := h
    rw [run_postCheckoutToLedger hfc haccepts, netOn_journalWith hfc haccepts,
      if_neg fun hnew => hposts ⟨fc, hfc, haccepts, hnew⟩, add_zero]
  · rw [run_postCheckoutToLedger_of_not fun fc hfc haccepts => h ⟨fc, hfc, haccepts⟩, costEffect_of_not, add_zero]
    rintro ⟨fc, hfc, haccepts, -⟩
    exact h ⟨fc, hfc, haccepts⟩

end Posting

/-! ### The void -/

section Void

variable (id : ℕ) (checkout : PosCheckout)

/-- The key under which a void reverses the entry of the checkout. -/
def voidKey : String := s!"void-{ledgerKeyForCheckout id checkout}"

/-- What the entry that a void finds and mirrors does to an account. -/
def mirroredEffect (J : GlStore) (accountCode : String) : ℚ :=
  match J.entryByKey checkout.branchId (ledgerKeyForCheckout id checkout) with
  | none => 0
  | some entry =>
    if J.entryByKey checkout.branchId (voidKey id checkout) = none then
      J.effect entry.id accountCode
    else 0

variable {id checkout}

theorem netOn_reverseCheckoutEntry {J : GlStore} (h : J.Linked) (now : Date) (voidedByUserId : ℕ)
    (accountCode : String) :
    ((reverseCheckoutEntry now id checkout voidedByUserId).run J).2.netOn accountCode =
      J.netOn accountCode - mirroredEffect id checkout J accountCode := by
  unfold reverseCheckoutEntry mirroredEffect
  rw [run_findEntryByKey_bind]
  cases hfind : J.entryByKey checkout.branchId (ledgerKeyForCheckout id checkout) with
  | none => exact (sub_zero _).symm
  | some entry =>
    obtain ⟨hmem, hbranch, -⟩ := mem_of_entryByKey hfind
    dsimp only
    have hrun := run_reverse now entry.id (voidOptions id checkout now voidedByUserId) J
    rw [entryById_of_mem h hmem] at hrun
    dsimp only at hrun
    rw [hbranch] at hrun
    cases hkey : J.entryByKey checkout.branchId (voidKey id checkout) with
    | some used =>
      have hused : J.entryByKey checkout.branchId
          (voidOptions id checkout now voidedByUserId).idempotencyKey = some used := hkey
      rw [hused] at hrun
      rw [run_bind_of_ok hrun, if_neg (Option.some_ne_none used), sub_zero]
      rfl
    | none =>
      have hnone : J.entryByKey checkout.branchId
          (voidOptions id checkout now voidedByUserId).idempotencyKey = none := hkey
      rw [hnone] at hrun
      rw [run_bind_of_ok hrun]
      exact netOn_reversed now entry _ accountCode

/-- **A void moves an account** by the opposite of what it mirrors. -/
theorem netOn_void {env : PosCheckoutRuntime} {S : PosCheckoutStore} {dto : VoidPosCheckoutDto}
    {actorId : ℕ} {actorBranchId : Option ℕ} {response : VoidResponse} (h : S.journal.Linked)
    (hfind : S.checkouts.find id = some checkout)
    (hvoid : ((voidCheckout env id dto actorId actorBranchId).run S).1 = .ok response) (accountCode : String) :
    ((voidCheckout env id dto actorId actorBranchId).run S).2.journal.netOn accountCode =
      S.journal.netOn accountCode - mirroredEffect id checkout S.journal accountCode := by
  unfold voidCheckout PosCheckoutRepository.findCheckout at hvoid ⊢
  rw [run_read_bind, hfind] at hvoid ⊢
  dsimp only at hvoid ⊢
  rw [run_throwIf_bind] at hvoid ⊢
  by_cases hscope : ∃ b ∈ actorBranchId, checkout.branchId ≠ b
  · rw [if_pos hscope] at hvoid
    cases hvoid
  rw [if_neg hscope] at hvoid ⊢
  rw [run_throwIf_bind] at hvoid ⊢
  by_cases hvoided : checkout.status = .voided
  · rw [if_pos hvoided] at hvoid
    cases hvoid
  -- the row is written first, and then the journal
  rw [if_neg hvoided, PosCheckoutRepository.saveCheckout, run_write_bind, run_bind, run_attempt, onJournal, run_zoom]
  exact netOn_reverseCheckoutEntry h env.now _ accountCode

end Void

/-! ### The posting and the void together -/

section Together

variable {env : PosCheckoutRuntime} {id : ℕ} {checkout : PosCheckout} {S : PosCheckoutStore}

theorem linked_entered {J : GlStore} (h : J.Linked) (now : ℤ) (input : PostJournalEntryInput) :
    (J.entered now input).Linked := by
  unfold GlStore.entered
  split_ifs
  · exact h.posted now input
  · exact h

theorem linked_posting (h : S.journal.Linked) : ((postCheckoutToLedger env id checkout).run S).2.journal.Linked := by
  by_cases haccepts : ∃ fc, checkout.metadata.financialClassification = some fc ∧ LedgerAccepts env id checkout fc
  · obtain ⟨fc, hfc, haccepts⟩ := haccepts
    rw [run_postCheckoutToLedger hfc haccepts]
    unfold journalWith
    split_ifs
    · exact linked_entered (linked_entered h _ _) _ _
    · exact linked_entered h _ _
  · rw [run_postCheckoutToLedger_of_not fun fc hfc hledger => haccepts ⟨fc, hfc, hledger⟩]
    exact h

variable {fc : FinancialClassification}

theorem effect_journalWith (h : S.journal.Linked) (haccepts : LedgerAccepts env id checkout fc)
    (hnew : S.journal.entryByKey checkout.branchId (ledgerKeyForCheckout id checkout) = none) (accountCode : String) :
    (journalWith env id checkout fc S).effect S.journal.nextEntryId accountCode =
      inputEffect (checkoutLines env checkout fc) accountCode := by
  have hentered : S.journal.entered env.now (checkoutEntry env id checkout fc) =
      S.journal.posted env.now (checkoutEntry env id checkout fc) := if_pos hnew
  have hself := effect_posted_self h haccepts.2.2 env.now accountCode
  by_cases hrelieves : RelievesInventory env checkout fc S
  · rw [journalWith_of_relieves hrelieves, hentered]
    unfold GlStore.entered
    split_ifs
    · rw [effect_posted_of_ne _ _ (Nat.succ_ne_self _).symm]
      exact hself
    · exact hself
  · rw [journalWith_of_not hrelieves, hentered]
    exact hself

theorem mirroredEffect_of_posts (h : S.journal.Linked) (hposts : PostsEntry env id checkout S) (hfc : checkout.metadata.financialClassification = some fc)
    (calls : List GlCall) (accountCode : String) :
    let J := Run.after GlCall.step ((postCheckoutToLedger env id checkout).run S).2.journal calls
    mirroredEffect id checkout J accountCode =
      if J.entryByKey checkout.branchId (voidKey id checkout) = none then
        inputEffect (checkoutLines env checkout fc) accountCode
      else 0 := by
  intro J
  obtain ⟨fc', hfc', haccepts, hnew⟩ := hposts
  obtain rfl : fc = fc' := Option.mem_unique hfc hfc'
  have hjournal : ((postCheckoutToLedger env id checkout).run S).2.journal =
      journalWith env id checkout fc S := by rw [run_postCheckoutToLedger hfc haccepts]
  have hlinked : (journalWith env id checkout fc S).Linked := hjournal ▸ linked_posting h
  obtain ⟨entry, hentry, hid, heffect⟩ := after_keeps_entry hlinked calls
    (@entryByKey_journalWith env id checkout fc S hnew)
  have hJ : J = Run.after GlCall.step (journalWith env id checkout fc S) calls := by
    rw [← hjournal]
  have hposted := effect_journalWith h haccepts hnew accountCode
  unfold mirroredEffect
  rw [hJ, hentry]
  dsimp only
  rw [hid, heffect]
  congr 1

end Together

/-- **A void undoes the posting** when the checkout has posted its entry, but no cost, and the key of the
void is new; or when it has not posted its entry, and what the void mirrors (an entry that something else
has posted under the key of the checkout, if any) does on every account what the cost has done. -/
def VoidUndoes (env : PosCheckoutRuntime) (id : ℕ) (checkout : PosCheckout) (S : PosCheckoutStore)
    (J : GlStore) : Prop :=
  (PostsEntry env id checkout S ∧ ¬ PostsCost env id checkout S ∧
      J.entryByKey checkout.branchId (voidKey id checkout) = none) ∨
    (¬ PostsEntry env id checkout S ∧ ∀ accountCode,
      mirroredEffect id checkout J accountCode = costEffect env id checkout S accountCode)

end PosCheckouts

def serviceForTen : IngestPosCheckoutDto :=
  { cashSaleForTen with
    financialClassification := some { recognitionBasis := some "CASH" } }

def ingested (dto : IngestPosCheckoutDto) : PosCheckoutStore :=
  ((ingest plainCheckoutRuntime dto {}).run tenInTheShop).2

def ingestedRow (dto : IngestPosCheckoutDto) : PosCheckout :=
  processedCheckout 0 (newCheckout plainCheckoutRuntime dto {})

/-- The tables after the checkout has been voided at once. -/
def ingestedAndVoided (dto : IngestPosCheckoutDto) : PosCheckoutStore :=
  ((voidCheckout plainCheckoutRuntime 1 {} 5 none).run (ingested dto)).2

end SuuqBackend
