import SuuqBackend.Accounting.Laws.Cents
import SuuqBackend.Accounting.Laws.Reversals

/-!
# What entries do to an account

The balance of an account, debits less credits over all lines, moves with each entry: by what its lines
hold for the account (`inputEffect`) when it is posted, and by the opposite of the entry's effect when it
is reversed.  Later calls leave an entry under its key, with its effect.

* `after_keeps_entry`: a run keeps an entry under its key.
-/

namespace SuuqBackend

open GeneralLedger

/-- Debits less credits on an account, over all lines. -/
def GlStore.netOn (s : GlStore) (accountCode : String) : ℚ :=
  net (s.lines.filter fun l => l.accountCode = accountCode)

/-- Debits less credits of the lines of an input on an account, each rounded as it is stored. -/
def inputEffect (lines : List JournalLineInput) (accountCode : String) : ℚ :=
  ((lines.filter fun l => l.accountCode = accountCode).map fun l =>
    round2 (amountOf l.debit) - round2 (amountOf l.credit)).sum

theorem inputEffect_append (lines lines' : List JournalLineInput) (accountCode : String) :
    inputEffect (lines ++ lines') accountCode = inputEffect lines accountCode + inputEffect lines' accountCode := by
  unfold inputEffect
  rw [List.filter_append, List.map_append, List.sum_append]

variable {lines : List JournalLineInput}

theorem inputEffect_of_nodup (hnodup : (lines.map JournalLineInput.accountCode).Nodup) {line : JournalLineInput}
    (hline : line ∈ lines) : inputEffect lines line.accountCode =
      round2 (amountOf line.debit) - round2 (amountOf line.credit) :=
  groupSum_of_nodup hnodup hline

theorem exists_inputEffect_ne_zero
    (hnodup : (lines.map JournalLineInput.accountCode).Nodup) (haccepted : ∀ line ∈ lines, LineAccepted line)
    (hcents : ∀ line ∈ lines, amountOf line.debit ∈ cents) (hdebits : debits lines ≠ 0) :
    ∃ accountCode, inputEffect lines accountCode ≠ 0 := by
  have hline : ∃ line ∈ lines, amountOf line.debit ≠ 0 := by
    by_contra hnone
    push Not at hnone
    refine hdebits (List.sum_eq_zero fun x hx => ?_)
    obtain ⟨line, hmem, rfl⟩ := List.mem_map.mp hx
    exact hnone line hmem
  obtain ⟨line, hmem, hne⟩ := hline
  obtain ⟨-, hdebit, hcredit, hboth⟩ := haccepted line hmem
  -- the line has a debit, so it has no credit
  have hpos : 0 < amountOf line.debit := lt_of_le_of_ne hdebit (Ne.symm hne)
  have hzero : amountOf line.credit = 0 := le_antisymm (not_lt.mp fun h => hboth ⟨hpos, h⟩) hcredit
  refine ⟨line.accountCode, ?_⟩
  rw [inputEffect_of_nodup hnodup hmem, hzero, round2_zero, sub_zero, round2_of_mem (hcents line hmem)]
  exact hne

/-- The lines of an account among those that are stored are the stored ones among those of the
account. -/
theorem net_filter_storedLines {input : PostJournalEntryInput}
    (hnonneg : ∀ line ∈ input.lines, 0 ≤ amountOf line.debit ∧ 0 ≤ amountOf line.credit)
    (entryId : ℕ) (accountCode : String) :
    net ((storedLines entryId input).filter fun l => l.accountCode = accountCode) =
      inputEffect input.lines accountCode := by
  let onAccount : PostJournalEntryInput :=
    { input with lines := input.lines.filter fun l => l.accountCode = accountCode }
  have hstored : (storedLines entryId input).filter (fun l => l.accountCode = accountCode) =
      storedLines entryId onAccount := by
    unfold storedLines
    rw [List.filter_map, List.filter_filter, List.filter_filter]
    refine congrArg _ (List.filter_congr fun l _ => ?_)
    rw [Bool.and_comm]
    rfl
  have hmem : ∀ line ∈ onAccount.lines, 0 ≤ amountOf line.debit ∧ 0 ≤ amountOf line.credit :=
    fun line hline => hnonneg line (List.mem_filter.mp hline).1
  rw [hstored, net_storedLines hmem]
  rfl

section Balances

variable {s : GlStore} {input : PostJournalEntryInput}

theorem netOn_posted (hok : assertBalanced input = .ok ()) (now : ℤ) (accountCode : String) :
    (s.posted now input).netOn accountCode = s.netOn accountCode + inputEffect input.lines accountCode := by
  unfold GlStore.netOn GlStore.posted
  rw [List.filter_append, net_append, net_filter_storedLines (assertBalanced_eq_ok hok)]

/-- **A post moves an account** by the effect of its lines, unless its key was used. -/
theorem netOn_entered (hok : assertBalanced input = .ok ()) (now : ℤ) (accountCode : String) :
    (s.entered now input).netOn accountCode = s.netOn accountCode +
      if s.entryByKey input.branchId input.idempotencyKey = none then inputEffect input.lines accountCode else 0 := by
  unfold GlStore.entered
  split_ifs
  · exact netOn_posted hok now accountCode
  · rw [add_zero]

/-- **A reversal moves an account** by the opposite of the entry's effect. -/
theorem netOn_reversed (now : ℤ) (original : GlJournalEntry) (opts : ReverseOptions)
    (accountCode : String) : (s.reversed now original opts).netOn accountCode =
      s.netOn accountCode - s.effect original.id accountCode := by
  unfold GlStore.netOn GlStore.reversed
  rw [List.filter_append, net_append, net_filter_swappedLines, ← sub_eq_add_neg]
  rfl

theorem effect_posted_self (h : s.Linked) (hok : assertBalanced input = .ok ()) (now : ℤ)
    (accountCode : String) : (s.posted now input).effect s.nextEntryId accountCode =
      inputEffect input.lines accountCode := by
  rw [GlStore.posted, effect_append_self h.lineFresh fun _ hl => entryId_of_mem_storedLines hl,
    net_filter_storedLines (assertBalanced_eq_ok hok)]

end Balances

/-! ### Entries are kept -/

section Kept

variable {s : GlStore} (h : s.Linked)

include h

variable {e : GlJournalEntry} {branchId : ℕ} {key : String}

theorem entryById_of_mem (he : e ∈ s.entries) : s.entryById e.id = some e := by
  cases hfind : s.entryById e.id with
  | none =>
    have hnot := List.find?_eq_none.mp hfind e he
    simp at hnot
  | some e' =>
    have hid := id_of_entryById hfind
    rw [List.inj_on_of_nodup_map h.ids (mem_of_entryById hfind) he hid]

theorem entryByKey_reversed {original : GlJournalEntry} (horiginal : original ∈ s.entries) (now : ℤ)
    (opts : ReverseOptions) (he : s.entryByKey branchId key = some e) :
    ∃ e', (s.reversed now original opts).entryByKey branchId key = some e' ∧ e'.id = e.id ∧
      e'.sourceId = e.sourceId := by
  let link (e : GlJournalEntry) : GlJournalEntry :=
    { e with
      reversedByEntryId :=
        if e.id = original.id then some s.nextEntryId else e.reversedByEntryId }
  have hentries : s.entries.map (linked original s.nextEntryId) = s.entries.map link :=
    List.map_congr_left fun e he => linked_eq h horiginal he s.nextEntryId
  refine ⟨link e, ?_, rfl, rfl⟩
  unfold GlStore.entryByKey at he ⊢
  rw [entries_reversed h horiginal, hentries, List.find?_append, List.find?_map]
  have hsame : s.entries.find? ((fun e => decide (e.branchId = branchId ∧ e.idempotencyKey = key)) ∘
      link) = some e := he
  rw [hsame, Option.map_some, Option.some_or]

theorem entryByKey_reversed_eq_none {original : GlJournalEntry} (horiginal : original ∈ s.entries) (now : ℤ)
    {opts : ReverseOptions} (hkey : opts.idempotencyKey ≠ key) (hnone : s.entryByKey branchId key = none) :
    (s.reversed now original opts).entryByKey branchId key = none := by
  refine List.find?_eq_none.mpr fun e he => ?_
  rw [entries_reversed h horiginal] at he
  rcases List.mem_append.mp he with hold | hnew
  · obtain ⟨e', he', rfl⟩ := List.mem_map.mp hold
    rw [linked_eq h horiginal he']
    exact List.find?_eq_none.mp hnone e' he'
  · rw [List.mem_singleton.mp hnew]
    simp [reversalEntry, hkey]

theorem step_keeps_entry (c : GlCall) (he : s.entryByKey branchId key = some e) :
    ∃ e', (c.step s).entryByKey branchId key = some e' ∧ e'.id = e.id ∧
      ∀ accountCode, (c.step s).effect e.id accountCode = s.effect e.id accountCode := by
  have hfresh : e.id ≠ s.nextEntryId := (h.entryFresh e (mem_of_entryByKey he).1).ne
  have hstep := GlCall.step_cases s c
  generalize c.step s = s' at hstep
  cases hstep with
  | nothing => exact ⟨e, he, rfl, fun _ => rfl⟩
  | posted hok hkey =>
    refine ⟨e, ?_, rfl, effect_posted_of_ne _ _ hfresh⟩
    rw [entryByKey_posted, he, Option.some_or]
  | reversed hid hkey =>
    obtain ⟨e', hfind, heq, -⟩ := entryByKey_reversed h (mem_of_entryById hid) _ _ he
    exact ⟨e', hfind, heq, effect_reversed_of_ne _ _ _ hfresh⟩

theorem after_keeps_entry (calls : List GlCall) (he : s.entryByKey branchId key = some e) :
    ∃ e', (Run.after GlCall.step s calls).entryByKey branchId key = some e' ∧ e'.id = e.id ∧
      ∀ accountCode, (Run.after GlCall.step s calls).effect e.id accountCode = s.effect e.id accountCode := by
  have hrun : (Run.after GlCall.step s calls).Linked ∧
      ∃ e', (Run.after GlCall.step s calls).entryByKey branchId key = some e' ∧ e'.id = e.id ∧
        ∀ accountCode, (Run.after GlCall.step s calls).effect e.id accountCode = s.effect e.id accountCode := by
    refine Run.after_invariant (P := fun s' : GlStore => s'.Linked ∧
      ∃ e', s'.entryByKey branchId key = some e' ∧ e'.id = e.id ∧
        ∀ accountCode, s'.effect e.id accountCode = s.effect e.id accountCode) ?_
      ⟨h, e, he, rfl, fun _ => rfl⟩ calls
    rintro s₁ c ⟨hlinked, e₁, he₁, hid₁, heffect₁⟩
    obtain ⟨e₂, he₂, hid₂, heffect₂⟩ := step_keeps_entry hlinked c he₁
    refine ⟨hlinked.step c, e₂, he₂, hid₂.trans hid₁, fun accountCode => ?_⟩
    rw [← heffect₁, ← hid₁, heffect₂]
  exact hrun.2

end Kept

theorem linked_after {s : GlStore} (h : s.Linked) (calls : List GlCall) : (Run.after GlCall.step s calls).Linked :=
  Run.after_invariant (P := GlStore.Linked) (fun _ c hs => hs.step c) h calls

/-!
## What was posted for a source

An entry names its source by a type and an id.  `netWhere` adds up what the entries of some sources hold for
an account, debits less credits; a new entry adds the effect of its lines when its source is one of them.

* `inputEffect_pair`, `inputEffect_debitLine`: what the usual lines do to an account.
* `netWhere_entered`, `netWhere_reversed`: the sum after `post` and after `reverse`.
-/

/-- Debits less credits on an account, over the entries whose source meets a condition. -/
def GlStore.netWhere (s : GlStore) (p : GlJournalSourceType → Option String → Bool) (accountCode : String) : ℚ :=
  ((s.entries.filter fun e => p e.sourceType e.sourceId).map fun e => s.effect e.id accountCode).sum

@[simp] theorem inputEffect_nil (accountCode : String) : inputEffect [] accountCode = 0 := rfl

theorem inputEffect_cons (line : JournalLineInput) (lines : List JournalLineInput)
    (accountCode : String) : inputEffect (line :: lines) accountCode =
      (if line.accountCode = accountCode then
        round2 (amountOf line.debit) - round2 (amountOf line.credit) else 0) + inputEffect lines accountCode := by
  unfold inputEffect
  by_cases h : line.accountCode = accountCode
  · rw [List.filter_cons_of_pos (by simpa using h), List.map_cons, List.sum_cons, if_pos h]
  · rw [List.filter_cons_of_neg (by simpa using h), if_neg h, zero_add]

theorem code_inj {account account' : GlAccountCode} : account.code = account'.code ↔ account = account' := by
  constructor
  · intro h
    cases account <;> cases account' <;> first | rfl | exact absurd h (by decide)
  · intro h
    rw [h]

theorem inputEffect_pair {debited credited account : GlAccountCode} {amount : ℚ} (hcents : amount ∈ cents) :
    inputEffect [{ accountCode := debited.code, debit := some amount },
      { accountCode := credited.code, credit := some amount }] account.code =
      (if debited = account then amount else 0) - if credited = account then amount else 0 := by
  simp only [inputEffect_cons, inputEffect_nil, code_inj, amountOf, Option.getD_some, Option.getD_none,
    round2_of_mem hcents, round2_zero, sub_zero, zero_sub, add_zero]
  split_ifs <;> ring

/-! ### Debits and a credit -/

def debitLine (account : GlAccountCode) (amount : ℚ) : List JournalLineInput :=
  if amount > 0 then [{ accountCode := account.code, debit := some amount }] else []

/-- Lines that the ledger accepts and that debit this amount. -/
structure Debited (lines : List JournalLineInput) (amount : ℚ) : Prop where
  accepted : ∀ line ∈ lines, LineAccepted line
  debits_eq : debits lines = amount
  credits_eq : credits lines = 0

theorem Debited.append {lines lines' : List JournalLineInput} {amount amount' : ℚ} (h : Debited lines amount)
    (h' : Debited lines' amount') : Debited (lines ++ lines') (amount + amount') where
  accepted line hline := (List.mem_append.mp hline).elim (h.accepted line) (h'.accepted line)
  debits_eq := by rw [debits_append, h.debits_eq, h'.debits_eq]
  credits_eq := by rw [credits_append, h.credits_eq, h'.credits_eq, add_zero]

section Lines

variable (account : GlAccountCode) {amount : ℚ}

theorem debited_debitLine (h : 0 ≤ amount) : Debited (debitLine account amount) amount := by
  unfold debitLine
  split_ifs with hpos
  · refine ⟨fun line hline => ?_, by simp [debits, amountOf], by simp [credits, amountOf]⟩
    rw [List.mem_singleton.mp hline]
    exact lineAccepted_debit account h
  · exact ⟨fun _ hline => (List.not_mem_nil hline).elim, h.antisymm (not_lt.mp hpos), rfl⟩

theorem inputEffect_debitLine (hcents : amount ∈ cents) (h : 0 ≤ amount) (account' : GlAccountCode) :
    inputEffect (debitLine account amount) account'.code = if account = account' then amount else 0 := by
  unfold debitLine
  split_ifs with hpos hsame hsame
  · simp [inputEffect_cons, hsame, amountOf, round2_of_mem hcents, round2_zero]
  · simp [inputEffect_cons, code_inj, hsame]
  · exact le_antisymm h (not_lt.mp hpos)
  · rfl

end Lines

theorem assertBalanced_ok_of_credit {input : PostJournalEntryInput} {lines : List JournalLineInput}
    {credited : GlAccountCode} {amount : ℚ} (hkey : input.idempotencyKey ≠ "")
    (hlines : input.lines = lines ++ [{ accountCode := credited.code, credit := some amount }])
    (h : Debited lines amount) (hpos : 0 < amount) : assertBalanced input = .ok () := by
  have hdebit : debits input.lines = amount := by
    rw [hlines, debits_append, h.debits_eq]
    simp [debits, amountOf]
  have hcredit : credits input.lines = amount := by
    rw [hlines, credits_append, h.credits_eq]
    simp [credits, amountOf]
  apply assertBalanced_ok_of_balanced hkey
  · intro line hline
    rw [hlines, List.mem_append] at hline
    rcases hline with hline | hline
    · exact h.accepted line hline
    · rw [List.mem_singleton.mp hline]
      exact lineAccepted_credit credited hpos.le
  · rwa [hdebit]
  · rw [hdebit, hcredit]

/-! ### Posts and reversals -/

section Posts

variable {s : GlStore} {input : PostJournalEntryInput} (h : s.Linked)
  (p : GlJournalSourceType → Option String → Bool) (now : ℤ) (accountCode : String)

include h

theorem GlStore.Linked.entered (input : PostJournalEntryInput) : (s.entered now input).Linked := by
  unfold GlStore.entered
  split_ifs
  · exact h.posted now input
  · exact h

theorem netWhere_posted (hok : assertBalanced input = .ok ()) :
    (s.posted now input).netWhere p accountCode = s.netWhere p accountCode +
      if p input.sourceType input.sourceId then inputEffect input.lines accountCode else 0 := by
  have hold : ∀ e ∈ s.entries.filter fun e => p e.sourceType e.sourceId,
      (s.posted now input).effect e.id accountCode = s.effect e.id accountCode := by
    intro e he
    have hfresh : e.id ≠ s.nextEntryId := (h.entryFresh e (List.mem_of_mem_filter he)).ne
    exact effect_posted_of_ne now input hfresh accountCode
  have hentries : (s.posted now input).entries = s.entries ++ [postedEntry now input s.nextEntryId] := rfl
  unfold GlStore.netWhere
  rw [hentries, List.filter_append, List.map_append, List.sum_append, List.map_congr_left hold]
  congr 1
  by_cases hp : p input.sourceType input.sourceId = true
  · have hfilter : ([postedEntry now input s.nextEntryId].filter fun e => p e.sourceType e.sourceId) =
        [postedEntry now input s.nextEntryId] := List.filter_cons_of_pos hp
    rw [hfilter, if_pos hp, List.map_singleton, List.sum_singleton]
    exact effect_posted_self h hok now accountCode
  · have hfilter : ([postedEntry now input s.nextEntryId].filter fun e => p e.sourceType e.sourceId) =
        [] := List.filter_cons_of_neg hp
    rw [hfilter, if_neg hp]
    rfl

/-- **A post moves the sum** by the effect of its lines, when its key is new and its source meets the
condition. -/
theorem netWhere_entered (hok : assertBalanced input = .ok ()) :
    (s.entered now input).netWhere p accountCode = s.netWhere p accountCode +
      if s.entryByKey input.branchId input.idempotencyKey = none ∧ p input.sourceType input.sourceId then
        inputEffect input.lines accountCode else 0 := by
  unfold GlStore.entered
  by_cases hkey : s.entryByKey input.branchId input.idempotencyKey = none
  · simp only [hkey, if_true, true_and]
    exact netWhere_posted h p now accountCode hok
  · rw [if_neg hkey, if_neg fun hboth => hkey hboth.1, add_zero]

end Posts

/-- **A reversal takes the effect of the entry back**, when its own type with the source of the entry meets the
condition. -/
theorem netWhere_reversed {s : GlStore} (h : s.Linked) (p : GlJournalSourceType → Option String → Bool)
    {original : GlJournalEntry} (horiginal : original ∈ s.entries) (now : ℤ) (opts : ReverseOptions)
    (accountCode : String) : (s.reversed now original opts).netWhere p accountCode =
      s.netWhere p accountCode -
        if p opts.sourceType original.sourceId then s.effect original.id accountCode else 0 := by
  have hold : ((s.entries.map (linked original s.nextEntryId)).filter fun e => p e.sourceType e.sourceId) =
      (s.entries.filter fun e => p e.sourceType e.sourceId).map (linked original s.nextEntryId) := by
    rw [List.filter_map]
    refine congrArg _ (List.filter_congr fun e he => ?_)
    rw [Function.comp_apply, linked_eq h horiginal he]
  have heffect : ∀ e ∈ s.entries.filter fun e => p e.sourceType e.sourceId,
      (s.reversed now original opts).effect (linked original s.nextEntryId e).id accountCode =
        s.effect e.id accountCode := by
    intro e he
    have hfresh : e.id ≠ s.nextEntryId := (h.entryFresh e (List.mem_of_mem_filter he)).ne
    rw [linked_id, effect_reversed_of_ne now original opts hfresh]
  have hself := effect_reversed_self h now original opts accountCode
  unfold GlStore.netWhere
  rw [entries_reversed h horiginal, List.filter_append, List.map_append, List.sum_append, hold, List.map_map,
    sub_eq_add_neg]
  congr 1
  · exact congrArg List.sum (List.map_congr_left heffect)
  · by_cases hp : p opts.sourceType original.sourceId = true
    · have hfilter : ([reversalEntry now original opts s.nextEntryId].filter fun e => p e.sourceType e.sourceId) =
          [reversalEntry now original opts s.nextEntryId] := List.filter_cons_of_pos hp
      rw [hfilter, if_pos hp, List.map_singleton, List.sum_singleton]
      exact hself
    · have hfilter : ([reversalEntry now original opts s.nextEntryId].filter fun e => p e.sourceType e.sourceId) =
          [] := List.filter_cons_of_neg hp
      rw [hfilter, if_neg hp]
      rfl

end SuuqBackend
