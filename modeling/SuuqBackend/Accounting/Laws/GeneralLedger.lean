import SuuqBackend.Lib.Rounding
import SuuqBackend.Accounting.Laws.Postings

/-!
# The balance of the journal

`post` tests that the raw debits and credits of an entry agree within half a cent, and then rounds
each line to cents by itself.  The stored lines balance exactly when the roundings do
(`RoundingsCancel`): what they drop on the debit side, less what they drop on the credit side, is the
difference of the raw totals.
-/

namespace SuuqBackend

open GeneralLedger

namespace GeneralLedger

/-! ### What an accepted entry satisfies -/

def debits (lines : List JournalLineInput) : ℚ := (lines.map fun l => amountOf l.debit).sum

def credits (lines : List JournalLineInput) : ℚ := (lines.map fun l => amountOf l.credit).sum

variable (ls ls' : List JournalLineInput) (totals : ℚ × ℚ)

theorem debits_append : debits (ls ++ ls') = debits ls + debits ls' := by
  rw [debits, debits, debits, List.map_append, List.sum_append]

theorem credits_append : credits (ls ++ ls') = credits ls + credits ls' := by
  rw [credits, credits, credits, List.map_append, List.sum_append]

/-- A line that `assertBalanced` lets pass: its account is in the chart, and it has a debit or a credit
but not both. -/
def LineAccepted (line : JournalLineInput) : Prop :=
  isGlAccountCode line.accountCode = true ∧ 0 ≤ amountOf line.debit ∧ 0 ≤ amountOf line.credit ∧
    ¬ (0 < amountOf line.debit ∧ 0 < amountOf line.credit)
deriving Decidable

theorem addLine_of_accepted {line : JournalLineInput} (h : LineAccepted line) :
    addLine totals line = .ok (totals.1 + amountOf line.debit, totals.2 + amountOf line.credit) := by
  obtain ⟨hcode, hdebit, hcredit, hboth⟩ := h
  have hneg : ¬ (amountOf line.debit < 0 ∨ amountOf line.credit < 0) := by
    rw [not_or, not_lt, not_lt]
    exact ⟨hdebit, hcredit⟩
  unfold addLine
  simp only [hcode, hneg, gt_iff_lt, hboth, Bool.not_true, Bool.false_eq_true, if_false]
  rfl

theorem addLine_of_not_accepted {line : JournalLineInput} (h : ¬ LineAccepted line) :
    ∃ e, addLine totals line = .error e := by
  unfold addLine
  by_cases hcode : isGlAccountCode line.accountCode = true
  · by_cases hneg : amountOf line.debit < 0 ∨ amountOf line.credit < 0
    · exact ⟨_, by simp only [hcode, hneg, Bool.not_true, Bool.false_eq_true, if_false, if_true]; rfl⟩
    · have hsign := hneg
      rw [not_or, not_lt, not_lt] at hsign
      -- the line is refused, so it has both a debit and a credit
      have hboth : 0 < amountOf line.debit ∧ 0 < amountOf line.credit := by
        by_contra hnot
        exact h ⟨hcode, hsign.1, hsign.2, hnot⟩
      refine ⟨.badRequest "A journal line cannot carry both a debit and a credit.", ?_⟩
      simp only [hcode, hneg, gt_iff_lt, hboth, Bool.not_true, Bool.false_eq_true, if_false, and_self, if_true]
      rfl
  · exact ⟨_, by simp only [hcode, Bool.not_false, if_true]; rfl⟩

theorem foldlM_addLine_eq_ok {lines : List JournalLineInput} {totals totals' : ℚ × ℚ} :
    lines.foldlM addLine totals = .ok totals' ↔ (∀ line ∈ lines, LineAccepted line) ∧
      totals' = (totals.1 + debits lines, totals.2 + credits lines) := by
  induction lines generalizing totals with
  | nil =>
    simp only [List.foldlM_nil, List.not_mem_nil, false_implies, implies_true, true_and, debits,
      credits, List.map_nil, List.sum_nil, add_zero]
    exact ⟨fun h => (Except.ok.inj h).symm, fun h => congrArg Except.ok h.symm⟩
  | cons line lines ih =>
    rw [List.foldlM_cons, List.forall_mem_cons]
    by_cases hline : LineAccepted line
    · rw [addLine_of_accepted totals hline]
      have hstep := @ih (totals.1 + amountOf line.debit, totals.2 + amountOf line.credit)
      simp only [debits, credits, List.map_cons, List.sum_cons, ← add_assoc, hline, true_and] at hstep ⊢
      exact hstep
    · obtain ⟨e, herror⟩ := addLine_of_not_accepted totals hline
      rw [herror]
      constructor
      · intro h
        cases h
      · intro h
        exact absurd h.1.1 hline

variable {input : PostJournalEntryInput} {amount : ℚ}

/-- **Which entries `assertBalanced` accepts.** -/
theorem assertBalanced_ok_iff :
    assertBalanced input = .ok () ↔ input.idempotencyKey ≠ "" ∧ 2 ≤ input.lines.length ∧
      (∀ line ∈ input.lines, LineAccepted line) ∧
      |debits input.lines - credits input.lines| ≤ balanceTolerance ∧ debits input.lines ≠ 0 := by
  unfold assertBalanced
  by_cases hkey : input.idempotencyKey = ""
  · simp only [hkey, if_true, ne_eq, not_true, false_and, iff_false]
    intro h
    cases h
  by_cases hlen : input.lines.length < 2
  · simp only [hkey, hlen, if_true, if_false, ne_eq, not_false_eq_true, true_and, not_le.mpr hlen, false_and, iff_false]
    intro h
    cases h
  have hfold := @foldlM_addLine_eq_ok input.lines (0, 0)
  simp only [zero_add] at hfold
  rcases hrun : input.lines.foldlM addLine (0, 0) with e | totals
  · have hlines : ¬ ∀ line ∈ input.lines, LineAccepted line := by
      intro hall
      have hok := hfold.mpr ⟨hall, rfl⟩
      rw [hrun] at hok
      cases hok
    simp only [hkey, hlen, if_false, ne_eq, not_false_eq_true, hlines, false_and, and_false, iff_false]
    intro h
    cases h
  · obtain ⟨hlines, rfl⟩ := hfold.mp hrun
    have hiff : (∀ line ∈ input.lines, LineAccepted line) ↔ True := iff_true_intro hlines
    simp only [hkey, hlen, if_false, ne_eq, not_false_eq_true, true_and, not_lt.mp hlen, hiff]
    rw [show (Except.ok (debits input.lines, credits input.lines) : Except HttpException (ℚ × ℚ)) =
      pure (debits input.lines, credits input.lines) from rfl, pure_bind]
    by_cases htol : |debits input.lines - credits input.lines| ≤ balanceTolerance
    · rw [if_neg (not_lt.mpr htol)]
      by_cases hzero : debits input.lines = 0
      · rw [if_pos hzero]
        refine ⟨fun h => ?_, fun h => absurd hzero h.2⟩
        cases h
      · rw [if_neg hzero]
        exact ⟨fun _ => ⟨htol, hzero⟩, fun _ => rfl⟩
    · rw [if_pos (not_le.mp htol)]
      refine ⟨fun h => ?_, fun h => absurd h.1 htol⟩
      cases h

variable (account : GlAccountCode)

theorem isGlAccountCode_code : isGlAccountCode account.code = true := by
  cases account <;> rfl

theorem lineAccepted_debit (h : 0 ≤ amount) : LineAccepted { accountCode := account.code, debit := some amount } :=
  ⟨isGlAccountCode_code account, h, le_rfl, fun hboth => absurd hboth.2 (lt_irrefl 0)⟩

theorem lineAccepted_credit (h : 0 ≤ amount) : LineAccepted { accountCode := account.code, credit := some amount } :=
  ⟨isGlAccountCode_code account, le_rfl, h, fun hboth => absurd hboth.1 (lt_irrefl 0)⟩

theorem two_le_length_of_accepted {lines : List JournalLineInput}
    (hlines : ∀ line ∈ lines, LineAccepted line) (hdebits : 0 < debits lines)
    (hcredits : 0 < credits lines) : 2 ≤ lines.length := by
  match lines, hlines, hdebits, hcredits with
  | [], _, hdebits, _ => exact absurd hdebits (lt_irrefl 0)
  | [line], hlines, hdebits, hcredits =>
    -- one line would carry both
    have hline := (hlines line List.mem_cons_self).2.2.2
    have hboth : 0 < amountOf line.debit ∧ 0 < amountOf line.credit := by
      simpa [debits, credits] using And.intro hdebits hcredits
    exact absurd hboth hline
  | _ :: _ :: rest, _, _, _ => exact Nat.le_add_left 2 rest.length

/-- Lines that pass and have equal debits and credits, not zero, make an entry that is accepted. -/
theorem assertBalanced_ok_of_balanced
    (hkey : input.idempotencyKey ≠ "") (hlines : ∀ line ∈ input.lines, LineAccepted line)
    (hdebits : 0 < debits input.lines) (hbalanced : debits input.lines = credits input.lines) :
    assertBalanced input = .ok () := by
  have hlength := two_le_length_of_accepted hlines hdebits (hbalanced ▸ hdebits)
  have htolerance : |debits input.lines - credits input.lines| ≤ balanceTolerance := by
    rw [hbalanced]
    norm_num [balanceTolerance]
  exact assertBalanced_ok_iff.mpr ⟨hkey, hlength, hlines, htolerance, hdebits.ne'⟩

theorem assertBalanced_ok_of_pair {debited credited : GlAccountCode}
    (hkey : input.idempotencyKey ≠ "") (hamount : 0 < amount)
    (hlines : input.lines = [{ accountCode := debited.code, debit := some amount },
      { accountCode := credited.code, credit := some amount }]) :
    assertBalanced input = .ok () := by
  have hdebits : debits input.lines = amount := by simp [hlines, debits, amountOf]
  have hcredits : credits input.lines = amount := by simp [hlines, credits, amountOf]
  apply assertBalanced_ok_of_balanced hkey
  · intro line hline
    rw [hlines] at hline
    rcases List.mem_pair.mp hline with rfl | rfl
    · exact lineAccepted_debit debited hamount.le
    · exact lineAccepted_credit credited hamount.le
  · rwa [hdebits]
  · rw [hdebits, hcredits]

theorem assertBalanced_eq_ok (h : assertBalanced input = .ok ()) :
    ∀ line ∈ input.lines, 0 ≤ amountOf line.debit ∧ 0 ≤ amountOf line.credit := by
  intro line hline
  have haccepted := (assertBalanced_ok_iff.mp h).2.2.1 line hline
  exact ⟨haccepted.2.1, haccepted.2.2.1⟩

/-! ### What is stored of an accepted entry -/

def centResidue (amount : ℚ) : ℚ := Rounding.residue (100 * numberEpsilon) (100 * amount)

/-- The roundings of the lines cancel: in cents, what they drop from the debits, less what they drop
from the credits, is the difference of the raw totals. -/
def RoundingsCancel (lines : List JournalLineInput) : Prop :=
  (lines.map fun l => centResidue (amountOf l.debit)).sum
    - (lines.map fun l => centResidue (amountOf l.credit)).sum
    = 100 * (debits lines - credits lines)
deriving Decidable

/-- `debit - credit` over stored lines. -/
def net (lines : List GlJournalLine) : ℚ := (lines.map fun l => l.debit - l.credit).sum

@[simp] theorem net_nil : net [] = 0 := rfl

theorem net_append (ls ls' : List GlJournalLine) : net (ls ++ ls') = net ls + net ls' := by
  rw [net, net, net, List.map_append, List.sum_append]

theorem net_eq_sub (ls : List GlJournalLine) :
    net ls = (ls.map GlJournalLine.debit).sum - (ls.map GlJournalLine.credit).sum := by
  unfold net
  induction ls with
  | nil => simp
  | cons l ls ih =>
    simp only [List.map_cons, List.sum_cons]
    rw [ih]
    ring

theorem round2_eq (x : ℚ) : round2 x = x - centResidue x / 100 := by
  have hround : (round (100 * x + 100 * numberEpsilon) : ℚ) = 100 * x - centResidue x :=
    Rounding.round_add_eq (by norm_num [numberEpsilon]) (by norm_num [numberEpsilon]) _
  have harg : (x + numberEpsilon) * 100 = 100 * x + 100 * numberEpsilon := by ring
  rw [round2, harg, hround]
  ring

theorem round2_zero : round2 0 = 0 := by
  have hresidue : centResidue 0 = 0 := by
    rw [centResidue, Rounding.residue]
    norm_num [numberEpsilon]
  rw [round2_eq, hresidue]
  norm_num

theorem net_storedLines (hnonneg : ∀ line ∈ input.lines, 0 ≤ amountOf line.debit ∧ 0 ≤ amountOf line.credit)
    (entryId : ℕ) : net (storedLines entryId input) =
      (input.lines.map fun l => round2 (amountOf l.debit) - round2 (amountOf l.credit)).sum := by
  unfold net storedLines
  rw [List.map_map]
  generalize input.lines = lines at hnonneg
  induction lines with
  | nil => rfl
  | cons line lines ih =>
    have hrest := ih fun l hl => hnonneg l (List.mem_cons_of_mem _ hl)
    obtain ⟨hdebit, hcredit⟩ := hnonneg line List.mem_cons_self
    by_cases hkept : amountOf line.debit > 0 ∨ amountOf line.credit > 0
    · rw [List.filter_cons_of_pos (by simpa using hkept), List.map_cons, List.sum_cons, hrest]
      rfl
    · rw [List.filter_cons_of_neg (by simpa using hkept), hrest, List.map_cons, List.sum_cons]
      rw [not_or, not_lt, not_lt] at hkept
      rw [le_antisymm hkept.1 hdebit, le_antisymm hkept.2 hcredit, sub_self, zero_add]

theorem net_storedLines_eq (hnonneg : ∀ line ∈ input.lines, 0 ≤ amountOf line.debit ∧ 0 ≤ amountOf line.credit)
    (entryId : ℕ) : net (storedLines entryId input) =
      debits input.lines - credits input.lines
        - ((input.lines.map fun l => centResidue (amountOf l.debit)).sum
          - (input.lines.map fun l => centResidue (amountOf l.credit)).sum) / 100 := by
  rw [net_storedLines hnonneg, debits, credits]
  generalize input.lines = lines
  induction lines with
  | nil => simp
  | cons line lines ih =>
    simp only [List.map_cons, List.sum_cons]
    rw [ih, round2_eq, round2_eq]
    ring

theorem net_storedLines_eq_zero_iff (h : assertBalanced input = .ok ()) (entryId : ℕ) :
    net (storedLines entryId input) = 0 ↔ RoundingsCancel input.lines := by
  rw [net_storedLines_eq (assertBalanced_eq_ok h), RoundingsCancel]
  constructor
  · intro hnet
    linarith
  · intro hcancel
    rw [hcancel]
    ring

theorem net_swappedLines (reversalId : ℕ) (occurredAt : ℤ) (lines : List GlJournalLine) :
    net (swappedLines reversalId occurredAt lines) = -net lines := by
  unfold net swappedLines
  rw [List.map_map]
  induction lines with
  | nil => simp
  | cons line lines ih =>
    rw [List.map_cons, List.sum_cons, ih, List.map_cons, List.sum_cons]
    simp only [Function.comp_apply]
    ring

end GeneralLedger

/-! ### Every run -/

namespace GlStore

/-- `debit - credit` over the stored lines of a branch. -/
def branchNet (s : GlStore) (branchId : ℕ) : ℚ := net (s.lines.filter fun l => l.branchId = branchId)

/-- `debit - credit` over the stored lines of an entry. -/
def entryNet (s : GlStore) (entryId : ℕ) : ℚ := net (s.lines.filter fun l => l.entryId = entryId)

/-- Every branch and every entry balances, the latter also at each branch, and the ids of the entries
have been handed out. -/
structure Balanced (s : GlStore) : Prop where
  fresh : ∀ l ∈ s.lines, l.entryId < s.nextEntryId
  entryAt : ∀ entryId branchId, net (s.lines.filter fun l => l.branchId = branchId ∧ l.entryId = entryId) = 0
  entry : ∀ entryId, s.entryNet entryId = 0
  branch : ∀ branchId, s.branchNet branchId = 0

end GlStore

theorem GlStore.Balanced.append {s : GlStore} (h : s.Balanced) {lines : List GlJournalLine}
    {entries : List GlJournalEntry} (hentry : ∀ l ∈ lines, l.entryId = s.nextEntryId)
    (hnet : net lines = 0) (hnetAt : ∀ branchId, net (lines.filter fun l => l.branchId = branchId) = 0) :
    (⟨entries, s.lines ++ lines, s.nextEntryId + 1⟩ : GlStore).Balanced where
  fresh l hl := by
    rcases List.mem_append.mp hl with hold | hnew
    · exact Nat.lt_succ_of_lt (h.fresh l hold)
    · rw [hentry l hnew]
      exact Nat.lt_succ_self _
  entryAt entryId branchId := by
    rw [List.filter_append, net_append, h.entryAt, zero_add]
    by_cases hid : entryId = s.nextEntryId
    · have hfilter : (lines.filter fun l => l.branchId = branchId ∧ l.entryId = entryId) =
          lines.filter fun l => l.branchId = branchId :=
        List.filter_congr fun l hl => by simp [hentry l hl, hid]
      rw [hfilter, hnetAt]
    · have hfilter : (lines.filter fun l => l.branchId = branchId ∧ l.entryId = entryId) = [] :=
        List.filter_eq_nil_iff.mpr fun l hl => by simp [hentry l hl, Ne.symm hid]
      rw [hfilter, net_nil]
  entry entryId := by
    show net ((s.lines ++ lines).filter _) = 0
    rw [List.filter_append, net_append, show net (s.lines.filter _) = 0 from h.entry entryId, zero_add]
    by_cases hid : entryId = s.nextEntryId
    · have hfilter : (lines.filter fun l => l.entryId = entryId) = lines :=
        List.filter_eq_self.mpr fun l hl => by simp [hentry l hl, hid]
      rw [hfilter, hnet]
    · have hfilter : (lines.filter fun l => l.entryId = entryId) = [] :=
        List.filter_eq_nil_iff.mpr fun l hl => by simp [hentry l hl, Ne.symm hid]
      rw [hfilter, net_nil]
  branch branchId := by
    show net ((s.lines ++ lines).filter _) = 0
    rw [List.filter_append, net_append, hnetAt, add_zero]
    exact h.branch branchId

theorem filter_storedLines (entryId branchId : ℕ) (input : PostJournalEntryInput) :
    (storedLines entryId input).filter (fun l => l.branchId = branchId) =
      if input.branchId = branchId then storedLines entryId input else [] := by
  have hbranch : ∀ l ∈ storedLines entryId input, l.branchId = input.branchId := by
    intro l hl
    obtain ⟨line, -, rfl⟩ := List.mem_map.mp hl
    rfl
  split_ifs with h
  · exact List.filter_eq_self.mpr fun l hl => by simp [hbranch l hl, h]
  · exact List.filter_eq_nil_iff.mpr fun l hl => by simp [hbranch l hl, h]

theorem filter_swappedLines (reversalId branchId : ℕ) (occurredAt : ℤ) (lines : List GlJournalLine) :
    (swappedLines reversalId occurredAt lines).filter (fun l => l.branchId = branchId) =
      swappedLines reversalId occurredAt (lines.filter fun l => l.branchId = branchId) := by
  unfold swappedLines
  rw [List.filter_map]
  rfl

/-- If the call posts an entry that is new to its branch and accepted, its roundings cancel. -/
def PostsRounded (s : GlStore) : GlCall → Prop
  | .post _ input _ => assertBalanced input = .ok () →
      (s.entries.find? fun e =>
        e.branchId = input.branchId ∧ e.idempotencyKey = input.idempotencyKey) = none →
      RoundingsCancel input.lines
  | .reverse .. => True

theorem GlStore.Balanced.step {s : GlStore} (h : s.Balanced) {c : GlCall} (hc : PostsRounded s c) :
    (c.step s).Balanced := by
  have hstep := GlCall.step_cases s c
  generalize c.step s = s' at hstep
  cases hstep with
  | nothing => exact h
  | @posted now input manager hok hnew =>
    have hnet : net (storedLines s.nextEntryId input) = 0 :=
      (net_storedLines_eq_zero_iff hok _).mpr (hc hok hnew)
    refine h.append (fun l hl => ?_) hnet fun branchId => ?_
    · obtain ⟨line, -, rfl⟩ := List.mem_map.mp hl
      rfl
    · rw [filter_storedLines]
      split_ifs
      · exact hnet
      · rfl
  | @reversed now opts original hid hkey =>
    refine h.append (fun l hl => ?_) ?_ fun branchId => ?_
    · obtain ⟨line, -, rfl⟩ := List.mem_map.mp hl
      rfl
    · rw [net_swappedLines, show net (s.linesOf original.id) = 0 from h.entry original.id, neg_zero]
    · rw [filter_swappedLines, net_swappedLines, GlStore.linesOf, List.filter_filter]
      have hfilter := h.entryAt original.id branchId
      simp only [Bool.decide_and] at hfilter
      rw [hfilter, neg_zero]

def emptyJournal : GlStore := ⟨[], [], 1⟩

theorem balanced_emptyJournal : emptyJournal.Balanced where
  fresh l hl := by cases hl
  entryAt _ _ := rfl
  entry _ := rfl
  branch _ := rfl

/-- **The journal balances exactly as far as its roundings cancel.**  The stored lines of an accepted
entry have equal debits and credits if and only if its roundings cancel; and after every run of posts
and reversals in which those of each newly posted entry do, every stored entry and every branch
balances. -/
theorem journal_balanced (input : PostJournalEntryInput) (hok : assertBalanced input = .ok ())
    (entryId : ℕ) (calls : List GlCall) :
    (((storedLines entryId input).map GlJournalLine.debit).sum =
      ((storedLines entryId input).map GlJournalLine.credit).sum ↔ RoundingsCancel input.lines) ∧
    (Run.Along GlCall.step PostsRounded emptyJournal calls →
      (∀ entryId, (Run.after GlCall.step emptyJournal calls).entryNet entryId = 0) ∧
      ∀ branchId, (Run.after GlCall.step emptyJournal calls).branchNet branchId = 0) := by
  refine ⟨?_, fun hcalls => ?_⟩
  · rw [← net_storedLines_eq_zero_iff hok entryId, net_eq_sub, sub_eq_zero]
  · have h : (Run.after GlCall.step emptyJournal calls).Balanced :=
      Run.after_induction (P := GlStore.Balanced) (fun _ _ hs hc => hs.step hc) balanced_emptyJournal hcalls
    exact ⟨h.entry, h.branch⟩

/-- A sale at branch 1 with the given amounts as its lines. -/
def saleOf (debits credits : List ℚ) : PostJournalEntryInput where
  branchId := 1
  occurredAt := 0
  sourceType := .posCheckout
  idempotencyKey := "sale"
  lines := debits.map (fun d => { accountCode := "1000", debit := some d }) ++
    credits.map fun c => { accountCode := "4000", credit := some c }

/-- A sale of ten that is posted and reversed. -/
theorem journal_balanced_sale :
    assertBalanced (saleOf [10] [9, 1]) = .ok () ∧
    ((storedLines 1 (saleOf [10] [9, 1])).map GlJournalLine.debit).sum =
      ((storedLines 1 (saleOf [10] [9, 1])).map GlJournalLine.credit).sum ∧
    ∀ branchId, (Run.after GlCall.step emptyJournal
      [.post 0 (saleOf [10] [9, 1]) false,
        .reverse 0 1 { sourceType := .posVoidReversal, idempotencyKey := "void" }]).branchNet
      branchId = 0 := by
  have hok : assertBalanced (saleOf [10] [9, 1]) = .ok () := by decide +kernel
  have hcancel : RoundingsCancel (saleOf [10] [9, 1]).lines := by decide +kernel
  have h := journal_balanced (saleOf [10] [9, 1]) hok 1
    [.post 0 (saleOf [10] [9, 1]) false, .reverse 0 1 { sourceType := .posVoidReversal, idempotencyKey := "void" }]
  exact ⟨hok, h.1.mpr hcancel, (h.2 ⟨fun _ _ => hcancel, trivial, trivial⟩).2⟩

/-- Two debits of 0.4 cents against a credit of 0.8 cents: the entry is accepted, and stored as a
credit of one cent without a debit. -/
theorem posted_unbalanced :
    let input := saleOf [4 / 1000, 4 / 1000] [8 / 1000]
    assertBalanced input = .ok () ∧
    ((storedLines 1 input).map GlJournalLine.debit).sum = 0 ∧
    ((storedLines 1 input).map GlJournalLine.credit).sum = 1 / 100 ∧
    (Run.after GlCall.step emptyJournal [.post 0 input false]).branchNet 1 = -(1 / 100) := by
  decide +kernel

end SuuqBackend
