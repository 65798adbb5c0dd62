import SuuqBackend.PosSync.Laws.CheckoutVoid
import SuuqBackend.PosSync.TaxSummaries

/-!
# Tax in the summary, the reports and the ledger

The summary takes the tax of a checkout from its lines, as soon as there are any; the reports take that of the checkout,
unless it is 0; and the ledger posts that of the checkout alone.  The buckets of the summary always add up to it
(`Tallied`), and the three agree exactly when the lines of every checkout have its tax, and the ledger takes every
checkout with a tax (`tax_report_agrees_iff`).
-/

namespace SuuqBackend

open PosCheckouts TaxSummaries Proc
open GeneralLedger (round2 amountOf)

/-! ### Buckets -/

section Upsert

variable {κ β : Type} [DecidableEq κ] {key : κ} {initial : β} {f : β → β} {m : List (κ × β)}

theorem sum_upsert {g : β → ℚ} {d : ℚ} (hinitial : g initial = 0) (hf : ∀ b, g (f b) = g b + d) :
    ((upsert key initial f m).map fun entry => g entry.2).sum = (m.map fun entry => g entry.2).sum + d := by
  induction m with
  | nil => simp [upsert, hf, hinitial]
  | cons entry rest ih =>
    rw [upsert]
    split_ifs
    · simp only [List.map_cons, List.sum_cons, hf]
      ring
    · rw [List.map_cons, List.sum_cons, ih, List.map_cons, List.sum_cons, add_assoc]

theorem forall_upsert {P : β → Prop} (hinitial : P initial) (hf : ∀ b, P b → P (f b))
    (h : ∀ entry ∈ m, P entry.2) : ∀ entry ∈ upsert key initial f m, P entry.2 := by
  induction m with
  | nil =>
    intro entry hentry
    rw [List.mem_singleton.mp hentry]
    exact hf _ hinitial
  | cons first rest ih =>
    obtain ⟨hfirst, hrest⟩ := List.forall_mem_cons.mp h
    rw [upsert]
    split_ifs
    · exact List.forall_mem_cons.mpr ⟨hf _ hfirst, hrest⟩
    · exact List.forall_mem_cons.mpr ⟨hfirst, ih hrest⟩

end Upsert

variable {value : ℚ} {s : TaxTally}

theorem toCents_of_mem (h : value ∈ cents) : toCents value = value := by
  obtain ⟨n, rfl⟩ := AddSubgroup.mem_zmultiples_iff.mp h
  have hn : n • (1 / 100 : ℚ) * 100 = n := by
    ring
  rw [toCents, hn, round_intCast]
  ring

variable (checkout : PosCheckout) (env : PosCheckoutRuntime) (row : TaxedCheckout)

theorem sign_mul_mem (h : value ∈ cents) : getCheckoutSign checkout * value ∈ cents := by
  unfold getCheckoutSign
  split_ifs
  · rw [neg_one_mul]
    exact neg_mem h
  · rwa [one_mul]

/-- The buckets are in whole cents, and add up to the tax. -/
structure Tallied (s : TaxTally) : Prop where
  rates_mem : ∀ entry ∈ s.rateMap, entry.2.taxAmount ∈ cents
  shifts_mem : ∀ entry ∈ s.shiftMap, entry.2.taxAmount ∈ cents
  rates_sum : (s.rateMap.map fun entry => entry.2.taxAmount).sum = s.taxAmount
  shifts_sum : (s.shiftMap.map fun entry => entry.2.taxAmount).sum = s.taxAmount

theorem Tallied.tax_mem (h : Tallied s) : s.taxAmount ∈ cents := by
  rw [← h.rates_sum]
  refine list_sum_mem fun value hvalue => ?_
  obtain ⟨entry, hentry, rfl⟩ := List.mem_map.mp hvalue
  exact h.rates_mem entry hentry

theorem tallied_addTax (h : Tallied s) (checkout : PosCheckout) (rate base : ℚ) {tax : ℚ}
    (htax : tax ∈ cents) : Tallied (addTax checkout rate base tax s) where
  rates_mem := forall_upsert (P := fun bucket : RateBucket => bucket.taxAmount ∈ cents) (zero_mem cents)
    (fun _ hbucket => add_mem hbucket (sign_mul_mem checkout htax)) h.rates_mem
  shifts_mem := forall_upsert (P := fun shift : ShiftBucket => shift.taxAmount ∈ cents) (zero_mem cents)
    (fun _ hshift => add_mem hshift (sign_mul_mem checkout htax)) h.shifts_mem
  rates_sum := (sum_upsert (g := RateBucket.taxAmount) rfl fun _ => rfl).trans (congrArg (· + _) h.rates_sum)
  shifts_sum := (sum_upsert (g := ShiftBucket.taxAmount) rfl fun _ => rfl).trans (congrArg (· + _) h.shifts_sum)

theorem tallied_countCheckout (h : Tallied s) (checkout : PosCheckout) : Tallied (countCheckout s checkout) where
  rates_mem := h.rates_mem
  shifts_mem := forall_upsert (P := fun shift : ShiftBucket => shift.taxAmount ∈ cents) (zero_mem cents)
    (fun _ hshift => hshift) h.shifts_mem
  rates_sum := h.rates_sum
  shifts_sum := (sum_upsert (g := ShiftBucket.taxAmount) rfl fun _ => (add_zero _).symm).trans
    ((add_zero _).trans h.shifts_sum)

/-! ### Checkouts -/

/-- A checkout with its id: its tax is not negative, and the taxes are in whole cents. -/
structure TaxedCheckout where
  id : ℕ
  checkout : PosCheckout
  tax_nonneg : 0 ≤ checkout.taxAmount
  tax_mem : checkout.taxAmount ∈ cents
  lines_mem : ∀ line ∈ checkout.items, lineTax line ∈ cents

/-- The tax that the summary takes from a checkout. -/
def summarizedTax (checkout : PosCheckout) : ℚ :=
  if checkout.items = [] then checkout.taxAmount else linesTax checkout

theorem foldl_addLine {lines : List PosCheckoutItem} (hlines : ∀ line ∈ lines, lineTax line ∈ cents) (h : Tallied s) :
    Tallied (lines.foldl (addLine checkout) s) ∧ (lines.foldl (addLine checkout) s).taxAmount =
      s.taxAmount + getCheckoutSign checkout * (lines.map lineTax).sum := by
  induction lines generalizing s with
  | nil => exact ⟨h, by simp⟩
  | cons line lines ih =>
    obtain ⟨hline, hrest⟩ := List.forall_mem_cons.mp hlines
    obtain ⟨htallied, htax⟩ := ih hrest (tallied_addTax h checkout (lineRate line) (lineTaxableBase line) hline)
    refine ⟨htallied, htax.trans ?_⟩
    rw [List.map_cons, List.sum_cons, mul_add, ← add_assoc]
    rfl

/-- **A checkout in the summary**: the buckets still add up, and the tax grows by its own. -/
theorem addCheckout_spec (h : Tallied s) (row : TaxedCheckout) :
    Tallied (addCheckout s row.checkout) ∧ (addCheckout s row.checkout).taxAmount =
      s.taxAmount + getCheckoutSign row.checkout * summarizedTax row.checkout := by
  have hcount := tallied_countCheckout h row.checkout
  unfold addCheckout summarizedTax
  split_ifs with hitems
  · unfold addTotals
    split_ifs with hzero
    · exact ⟨hcount, by rw [hzero, mul_zero, add_zero]; rfl⟩
    · exact ⟨tallied_addTax hcount row.checkout _ _ row.tax_mem, rfl⟩
  · exact foldl_addLine row.checkout row.lines_mem hcount

/-! ### The ledger -/

theorem inputEffect_eq_zero {lines : List JournalLineInput} {accountCode : String}
    (h : ∀ line ∈ lines, line.accountCode ≠ accountCode) : inputEffect lines accountCode = 0 := by
  have hnone : lines.filter (fun l => l.accountCode = accountCode) = [] :=
    List.filter_eq_nil_iff.mpr fun line hline heq => h line hline (of_decide_eq_true heq)
  rw [inputEffect, hnone, List.map_nil, List.sum_nil]

theorem inputEffect_map_swapLine (lines : List JournalLineInput) (accountCode : String) :
    inputEffect (lines.map swapLine) accountCode = -inputEffect lines accountCode := by
  induction lines with
  | nil => simp
  | cons line lines ih =>
    rw [List.map_cons, inputEffect_cons, ih, inputEffect_cons]
    by_cases h : line.accountCode = accountCode
    · have hswapped : (swapLine line).accountCode = accountCode := h
      rw [if_pos h, if_pos hswapped]
      dsimp only [swapLine, amountOf, Option.getD_some]
      ring
    · have hswapped : (swapLine line).accountCode ≠ accountCode := h
      rw [if_neg h, if_neg hswapped]
      ring

/-- An entry credits the tax of a sale, and debits that of a return. -/
theorem inputEffect_checkoutLines_tax (fc : FinancialClassification) :
    inputEffect (checkoutLines env row.checkout fc) GlAccountCode.taxPayable.code =
      -(getCheckoutSign row.checkout * row.checkout.taxAmount) := by
  have hsale : inputEffect (saleLines fc (checkoutLegs env row.checkout)) GlAccountCode.taxPayable.code =
      -row.checkout.taxAmount := by
    have hlegs : (checkoutLegs env row.checkout).tax = row.checkout.taxAmount := round2_of_mem row.tax_mem
    unfold saleLines
    rw [inputEffect_append, inputEffect_eq_zero, hlegs]
    · unfold creditLine
      split_ifs with hpos
      · simp [inputEffect_cons, amountOf, round2_of_mem row.tax_mem, GeneralLedger.round2_zero]
      · rw [le_antisymm (not_lt.mp hpos) row.tax_nonneg]
        simp
    · intro line hline htax
      simp only [List.mem_append] at hline
      have hne : ∀ {account : GlAccountCode} {codes : List String}, account ≠ .taxPayable →
          codes.Sublist [account.code] → line.accountCode ∉ codes := by
        intro account codes hne hcodes hmem
        exact hne (code_inj.mp ((List.mem_singleton.mp (hcodes.subset hmem)).symm.trans htax))
      obtain ((hline | hline) | hline) | hline := hline
      · exact hne (by decide) (accounts_debitLine .cash _) (List.mem_map_of_mem hline)
      · exact hne (by decide) (accounts_debitLine .tenderClearing _) (List.mem_map_of_mem hline)
      · exact hne (by decide) (accounts_debitLine .accountsReceivable _) (List.mem_map_of_mem hline)
      · refine hne ?_ (accounts_creditLine (resolveRevenueAccount fc.revenueAccount) _) (List.mem_map_of_mem hline)
        unfold resolveRevenueAccount
        split_ifs <;> decide
  unfold checkoutLines getCheckoutSign
  split_ifs
  · rw [inputEffect_map_swapLine, hsale, neg_one_mul]
  · rw [hsale, one_mul]

open Classical in
/-- **A posting** credits the tax account with the tax of a checkout whose entry is posted. -/
theorem netOn_tax (S : PosCheckoutStore) :
    ((postCheckoutToLedger env row.id row.checkout).run S).2.journal.netOn GlAccountCode.taxPayable.code =
      S.journal.netOn GlAccountCode.taxPayable.code - getCheckoutSign row.checkout *
        (if PostsEntry env row.id row.checkout S then row.checkout.taxAmount else 0) := by
  have hcost : costEffect env row.id row.checkout S GlAccountCode.taxPayable.code = 0 := by
    unfold costEffect
    split_ifs
    · have hinventory : GlAccountCode.inventory.code ≠ GlAccountCode.taxPayable.code := by decide
      have hcogs : GlAccountCode.cogs.code ≠ GlAccountCode.taxPayable.code := by decide
      unfold cogsLines
      split_ifs <;> simp [inputEffect_cons, hinventory, hcogs]
    · rfl
  split_ifs with hposts
  · obtain ⟨fc, hfc, -⟩ := id hposts
    rw [netOn_posting hposts hfc, hcost, inputEffect_checkoutLines_tax]
    ring
  · rw [netOn_posting_of_not hposts, hcost]
    ring

/-! ### Agreement -/

/-- The checkouts that were posted, and the tables after it. -/
structure TaxBooks where
  checkouts : List PosCheckout
  store : PosCheckoutStore

namespace TaxBooks

def empty (S : PosCheckoutStore) : TaxBooks := ⟨[], S⟩

def tally (s : TaxBooks) : TaxTally := s.checkouts.foldl addCheckout {}

/-- One more checkout is posted. -/
def post (env : PosCheckoutRuntime) (s : TaxBooks) (row : TaxedCheckout) : TaxBooks where
  checkouts := s.checkouts ++ [row.checkout]
  store := ((postCheckoutToLedger env row.id row.checkout).run s.store).2

/-- The tax of the summary is what was credited to the tax account, the tax of the reports, and that of its own buckets
and shifts. -/
structure Agrees (S : PosCheckoutStore) (s : TaxBooks) : Prop where
  ledger : (summarize s.checkouts).taxAmount =
    S.journal.netOn GlAccountCode.taxPayable.code - s.store.journal.netOn GlAccountCode.taxPayable.code
  reports : (summarize s.checkouts).taxAmount =
    (s.checkouts.map fun checkout => getCheckoutSign checkout * getCheckoutTaxAmount checkout).sum
  rates : (summarize s.checkouts).taxAmount = ((summarize s.checkouts).breakdown.map RateBucket.taxAmount).sum
  shifts : (summarize s.checkouts).taxAmount = ((summarize s.checkouts).shifts.map fun shift => shift.taxAmount).sum

/-- The lines of the checkout, if there are any, have its tax, and its entry is posted if it has one. -/
def Reports (env : PosCheckoutRuntime) (s : TaxBooks) (row : TaxedCheckout) : Prop :=
  (row.checkout.items = [] ∨ linesTax row.checkout = row.checkout.taxAmount) ∧
    (0 < row.checkout.taxAmount → PostsEntry env row.id row.checkout s.store)

variable {s : TaxBooks}

/-- The buckets and the shifts of the response add up to its tax. -/
theorem sums_of_tallied (h : Tallied s.tally) :
    (summarize s.checkouts).taxAmount = s.tally.taxAmount ∧
    ((summarize s.checkouts).breakdown.map RateBucket.taxAmount).sum = s.tally.taxAmount ∧
    ((summarize s.checkouts).shifts.map fun shift => shift.taxAmount).sum = s.tally.taxAmount := by
  refine ⟨toCents_of_mem h.tax_mem, ?_, ?_⟩
  · rw [← h.rates_sum]
    refine ((List.perm_insertionSort _ _).map _).sum_eq.trans ?_
    rw [List.map_map]
    exact congrArg List.sum (List.map_congr_left fun entry hentry => toCents_of_mem (h.rates_mem entry hentry))
  · rw [← h.shifts_sum]
    refine ((List.perm_insertionSort _ _).map _).sum_eq.trans ?_
    rw [List.map_map]
    exact congrArg List.sum (List.map_congr_left fun entry hentry => toCents_of_mem (h.shifts_mem entry hentry))

theorem agrees_iff_of_tallied {S : PosCheckoutStore} (h : Tallied s.tally) :
    s.Agrees S ↔ s.tally.taxAmount =
        S.journal.netOn GlAccountCode.taxPayable.code - s.store.journal.netOn GlAccountCode.taxPayable.code ∧
      s.tally.taxAmount =
        (s.checkouts.map fun checkout => getCheckoutSign checkout * getCheckoutTaxAmount checkout).sum := by
  obtain ⟨htax, hrates, hshifts⟩ := sums_of_tallied h
  constructor
  · rintro ⟨hledger, hreports, -, -⟩
    rw [htax] at hledger hreports
    exact ⟨hledger, hreports⟩
  · rintro ⟨hledger, hreports⟩
    exact ⟨htax.trans hledger, htax.trans hreports, htax.trans hrates.symm, htax.trans hshifts.symm⟩

theorem tallied_post (h : Tallied s.tally) (env : PosCheckoutRuntime) (row : TaxedCheckout) :
    Tallied (s.post env row).tally ∧ (s.post env row).tally.taxAmount =
      s.tally.taxAmount + getCheckoutSign row.checkout * summarizedTax row.checkout := by
  have htally : (s.post env row).tally = addCheckout s.tally row.checkout := List.foldl_concat _ _ _ _
  rw [htally]
  exact addCheckout_spec h row

open Classical in
theorem agrees_post_iff {S : PosCheckoutStore} (htallied : Tallied s.tally) (h : s.Agrees S)
    (env : PosCheckoutRuntime) (row : TaxedCheckout) : (s.post env row).Agrees S ↔ s.Reports env row := by
  obtain ⟨hpost, htax⟩ := tallied_post htallied env row
  obtain ⟨hledger, hreports⟩ := (agrees_iff_of_tallied htallied).mp h
  have hsign : getCheckoutSign row.checkout ≠ 0 := by
    unfold getCheckoutSign
    split_ifs <;> norm_num
  have hcredit : (s.post env row).store.journal.netOn GlAccountCode.taxPayable.code = _ := netOn_tax env row s.store
  rw [agrees_iff_of_tallied hpost, htax, hcredit]
  unfold TaxBooks.post Reports
  rw [List.map_append, List.sum_append, List.map_singleton, List.sum_singleton, ← hreports, add_right_inj,
    mul_right_inj' hsign, sub_sub_eq_add_sub, add_sub_right_comm, ← hledger, add_right_inj, mul_right_inj' hsign]
  have hnonneg := row.tax_nonneg
  have hnil : row.checkout.items = [] → linesTax row.checkout = 0 := fun h => by rw [linesTax, h]; rfl
  unfold summarizedTax getCheckoutTaxAmount
  obtain hzero | hpos := hnonneg.eq_or_lt
  · by_cases hitems : row.checkout.items = []
    · simp [hitems, hnil hitems, ← hzero]
    · simp [hitems, ← hzero]
  · by_cases hposts : PostsEntry env row.id row.checkout s.store
    · by_cases hitems : row.checkout.items = [] <;> simp [hitems, hposts, hpos]
    · by_cases hitems : row.checkout.items = []
      · simp [hitems, hposts, hpos, hpos.ne']
      · simp only [hitems, hposts, hpos, if_true, if_false, false_or, forall_const, and_false, iff_false, not_and]
        exact fun hlines htax => hpos.ne (hlines.symm.trans htax)

end TaxBooks

/-- A sale with a tax of one and a half, whose line has none. -/
def saleTaxedAsAWhole : TaxedCheckout where
  id := 1
  checkout := processedCheckout 0 (newCheckout plainCheckoutRuntime cashSaleForTen {})
  tax_nonneg := by decide +kernel
  tax_mem := by
    have htax : (processedCheckout 0 (newCheckout plainCheckoutRuntime cashSaleForTen {})).taxAmount = round2 (3 / 2) := by
      decide +kernel
    rw [htax]
    exact round2_mem _
  lines_mem := by
    intro line hline
    rw [List.mem_singleton.mp hline]
    exact zero_mem cents

end SuuqBackend
