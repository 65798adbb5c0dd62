import SuuqBackend.Lib.Lists
import SuuqBackend.Accounting.Laws.GeneralLedger

/-!
# Reversing an entry

`reverse` is documented to do nothing for an entry that has been reversed.  It looks for an entry with
the key of the new reversal, and never at `reversedByEntryId`, so a second call with another key mirrors
the entry again.
-/

namespace SuuqBackend

open GeneralLedger

namespace GlStore

def reversalsOf (s : GlStore) (entryId : ℕ) : List GlJournalEntry :=
  s.entries.filter fun r => r.reversesEntryId = some entryId

/-- `debit - credit` of an entry on an account. -/
def effect (s : GlStore) (entryId : ℕ) (accountCode : String) : ℚ :=
  net ((s.linesOf entryId).filter fun l => l.accountCode = accountCode)

/-- `debit - credit` of an entry and all its reversals on an account. -/
def combinedEffect (s : GlStore) (entryId : ℕ) (accountCode : String) : ℚ :=
  s.effect entryId accountCode + ((s.reversalsOf entryId).map fun r => s.effect r.id accountCode).sum

/-- The links between entries and their reversals. -/
structure Linked (s : GlStore) : Prop where
  ids : (s.entries.map fun e => e.id).Nodup
  entryFresh : ∀ e ∈ s.entries, e.id < s.nextEntryId
  lineFresh : ∀ l ∈ s.lines, l.entryId < s.nextEntryId
  older : ∀ r ∈ s.entries, ∀ id, r.reversesEntryId = some id → id < s.nextEntryId
  link : ∀ e ∈ s.entries, e.reversedByEntryId = none ↔ s.reversalsOf e.id = []
  mirrored : ∀ r ∈ s.entries, ∀ id, r.reversesEntryId = some id →
    ∀ accountCode, s.effect r.id accountCode = -s.effect id accountCode

end GlStore

/-! ### Effects -/

variable {s : GlStore} {lines : List GlJournalLine}

variable {entries : List GlJournalEntry} {next : ℕ} {l : GlJournalLine} {original : GlJournalEntry}

theorem effect_append_of_ne {id : ℕ} (hentry : ∀ l ∈ lines, l.entryId = s.nextEntryId) (hne : id ≠ s.nextEntryId)
    (accountCode : String) :
    (⟨entries, s.lines ++ lines, next⟩ : GlStore).effect id accountCode = s.effect id accountCode := by
  have hnew : lines.filter (fun l => l.entryId = id) = [] := by
    refine List.filter_eq_nil_iff.mpr fun l hl => ?_
    rw [hentry l hl, decide_eq_true_eq]
    exact Ne.symm hne
  unfold GlStore.effect GlStore.linesOf
  rw [List.filter_append, hnew, List.append_nil]

theorem effect_append_self (hfresh : ∀ l ∈ s.lines, l.entryId < s.nextEntryId)
    (hentry : ∀ l ∈ lines, l.entryId = s.nextEntryId) (accountCode : String) :
    (⟨entries, s.lines ++ lines, next⟩ : GlStore).effect s.nextEntryId accountCode =
      net (lines.filter fun l => l.accountCode = accountCode) := by
  have hold : s.lines.filter (fun l => l.entryId = s.nextEntryId) = [] := by
    refine List.filter_eq_nil_iff.mpr fun l hl => ?_
    rw [decide_eq_true_eq]
    exact (hfresh l hl).ne
  have hnew : lines.filter (fun l => l.entryId = s.nextEntryId) = lines :=
    List.filter_eq_self.mpr fun l hl => by rw [hentry l hl, decide_eq_true_eq]
  unfold GlStore.effect GlStore.linesOf
  rw [List.filter_append, hold, hnew, List.nil_append]

variable {entryId : ℕ}

theorem entryId_of_mem_storedLines {input : PostJournalEntryInput}
    (hl : l ∈ storedLines entryId input) : l.entryId = entryId := by
  obtain ⟨line, -, rfl⟩ := List.mem_map.mp hl
  rfl

theorem entryId_of_mem_swappedLines {reversalId : ℕ} {occurredAt : ℤ} (hl : l ∈ swappedLines reversalId occurredAt lines) : l.entryId = reversalId := by
  obtain ⟨line, -, rfl⟩ := List.mem_map.mp hl
  rfl

theorem net_filter_swappedLines (reversalId : ℕ) (occurredAt : ℤ) (lines : List GlJournalLine) (accountCode : String) :
    net ((swappedLines reversalId occurredAt lines).filter fun l => l.accountCode = accountCode) =
      -net (lines.filter fun l => l.accountCode = accountCode) := by
  rw [← net_swappedLines reversalId occurredAt]
  unfold swappedLines
  rw [List.filter_map]
  rfl

/-- **An entry and its reversals** add up to the entry's own effect, once less for each reversal. -/
theorem combinedEffect_eq (h : s.Linked) (id : ℕ) (accountCode : String) :
    s.combinedEffect id accountCode = (1 - (s.reversalsOf id).length) * s.effect id accountCode := by
  have hmirror : (s.reversalsOf id).map (fun r => s.effect r.id accountCode) =
      (s.reversalsOf id).map fun _ => -s.effect id accountCode := by
    refine List.map_congr_left fun r hr => ?_
    obtain ⟨hmem, hreverses⟩ := List.mem_filter.mp hr
    exact h.mirrored r hmem id (of_decide_eq_true hreverses) accountCode
  rw [GlStore.combinedEffect, hmirror, List.map_const', List.sum_replicate]
  ring

/-! ### One call -/

theorem linked_id (original : GlJournalEntry) (reversalId : ℕ) (e : GlJournalEntry) :
    (linked original reversalId e).id = e.id := by
  unfold linked
  split_ifs with h
  · exact h.symm
  · rfl

theorem linked_eq (h : s.Linked) {e : GlJournalEntry}
    (horiginal : original ∈ s.entries) (he : e ∈ s.entries) (reversalId : ℕ) :
    linked original reversalId e =
      { e with reversedByEntryId := if e.id = original.id then some reversalId else e.reversedByEntryId } := by
  unfold linked
  split_ifs with hid
  · have heq : e = original := List.inj_on_of_nodup_map h.ids he horiginal hid
    rw [heq]
  · rfl

theorem linked_reversalEntry (h : s.Linked) (horiginal : original ∈ s.entries) (now : ℤ) (opts : ReverseOptions) :
    linked original s.nextEntryId (reversalEntry now original opts s.nextEntryId) =
      reversalEntry now original opts s.nextEntryId :=
  if_neg (h.entryFresh original horiginal).ne'

section Step

variable {s : GlStore}

theorem reversalsOf_posted (now : ℤ) (input : PostJournalEntryInput) (id : ℕ) :
    (s.posted now input).reversalsOf id = s.reversalsOf id := by
  unfold GlStore.reversalsOf GlStore.posted
  rw [List.filter_append]
  exact List.append_nil _

theorem effect_posted_of_ne (now : ℤ) (input : PostJournalEntryInput) {id : ℕ}
    (hne : id ≠ s.nextEntryId) (accountCode : String) :
    (s.posted now input).effect id accountCode = s.effect id accountCode :=
  effect_append_of_ne (fun _ hl => entryId_of_mem_storedLines hl) hne accountCode

theorem effect_reversed_of_ne (now : ℤ) (original : GlJournalEntry) (opts : ReverseOptions) {id : ℕ}
    (hne : id ≠ s.nextEntryId) (accountCode : String) :
    (s.reversed now original opts).effect id accountCode = s.effect id accountCode :=
  effect_append_of_ne (fun _ hl => entryId_of_mem_swappedLines hl) hne accountCode

variable (h : s.Linked)

include h

theorem effect_reversed_self (now : ℤ) (original : GlJournalEntry) (opts : ReverseOptions) (accountCode : String) :
    (s.reversed now original opts).effect s.nextEntryId accountCode = -s.effect original.id accountCode := by
  rw [GlStore.reversed, effect_append_self h.lineFresh fun _ hl => entryId_of_mem_swappedLines hl,
    net_filter_swappedLines]
  rfl

variable {original : GlJournalEntry}

/-- The entries after a reversal: the old ones, one of them with its link, and the new one. -/
theorem entries_reversed (horiginal : original ∈ s.entries) (now : ℤ)
    (opts : ReverseOptions) :
    (s.reversed now original opts).entries =
      s.entries.map (linked original s.nextEntryId) ++ [reversalEntry now original opts s.nextEntryId] := by
  rw [GlStore.reversed, List.map_append, List.map_singleton, linked_reversalEntry h horiginal]

theorem reversalsOf_reversed (horiginal : original ∈ s.entries)
    (now : ℤ) (opts : ReverseOptions) (id : ℕ) :
    (s.reversed now original opts).reversalsOf id =
      (s.reversalsOf id).map (linked original s.nextEntryId) ++
        if original.id = id then [reversalEntry now original opts s.nextEntryId] else [] := by
  have hold : (s.entries.map (linked original s.nextEntryId)).filter
      (fun r => r.reversesEntryId = some id) = (s.reversalsOf id).map (linked original s.nextEntryId) := by
    rw [List.filter_map]
    refine congrArg (List.map _) (List.filter_congr fun e he => ?_)
    rw [Function.comp_apply, linked_eq h horiginal he]
  have hnew : (reversalEntry now original opts s.nextEntryId).reversesEntryId = some original.id := rfl
  rw [GlStore.reversalsOf, entries_reversed h horiginal, List.filter_append, hold]
  refine congrArg _ ?_
  simp only [List.filter_cons, hnew, Option.some.injEq, List.filter_nil, decide_eq_true_eq]

theorem reversalsOf_next : s.reversalsOf s.nextEntryId = [] := by
  refine List.filter_eq_nil_iff.mpr fun r hr => ?_
  rw [decide_eq_true_eq]
  intro hreverses
  exact absurd (h.older r hr _ hreverses) (Nat.lt_irrefl _)

theorem nodup_ids_append {f : GlJournalEntry → GlJournalEntry} (hf : ∀ e, (f e).id = e.id)
    {e : GlJournalEntry} (he : e.id = s.nextEntryId) : ((s.entries.map f ++ [e]).map fun e => e.id).Nodup := by
  have hids : (s.entries.map f).map (fun e => e.id) = s.entries.map fun e => e.id := by
    rw [List.map_map]
    exact List.map_congr_left fun e _ => hf e
  rw [List.map_append, hids]
  refine h.ids.append (List.nodup_singleton _) fun id hold hnew => ?_
  obtain ⟨e', he', rfl⟩ := List.mem_map.mp hold
  have heq : e'.id = e.id := List.mem_singleton.mp hnew
  have hlt := h.entryFresh e' he'
  omega

theorem lineFresh_append {lines : List GlJournalLine} (hentry : ∀ l ∈ lines, l.entryId = s.nextEntryId) :
    ∀ l ∈ s.lines ++ lines, l.entryId < s.nextEntryId + 1 := by
  intro l hl
  rcases List.mem_append.mp hl with hold | hnew
  · have hlt := h.lineFresh l hold
    omega
  · have heq := hentry l hnew
    omega

theorem GlStore.Linked.posted (now : ℤ) (input : PostJournalEntryInput) : (s.posted now input).Linked where
  ids := by
    have hids := nodup_ids_append h (f := id) (fun _ => rfl) (e := postedEntry now input s.nextEntryId) rfl
    rwa [List.map_id] at hids
  entryFresh e he := by
    rcases List.mem_append.mp he with hold | hnew
    · exact Nat.lt_succ_of_lt (h.entryFresh e hold)
    · rw [List.mem_singleton.mp hnew]
      exact Nat.lt_succ_self _
  lineFresh := lineFresh_append h fun _ hl => entryId_of_mem_storedLines hl
  older r hr id hreverses := by
    rcases List.mem_append.mp hr with hold | hnew
    · exact Nat.lt_succ_of_lt (h.older r hold id hreverses)
    · rw [List.mem_singleton.mp hnew] at hreverses
      cases hreverses
  link e he := by
    rw [reversalsOf_posted]
    rcases List.mem_append.mp he with hold | hnew
    · exact h.link e hold
    · rw [List.mem_singleton.mp hnew]
      exact ⟨fun _ => reversalsOf_next h, fun _ => rfl⟩
  mirrored r hr id hreverses accountCode := by
    rcases List.mem_append.mp hr with hold | hnew
    · rw [effect_posted_of_ne now input (h.entryFresh r hold).ne,
        effect_posted_of_ne now input (h.older r hold id hreverses).ne]
      exact h.mirrored r hold id hreverses accountCode
    · rw [List.mem_singleton.mp hnew] at hreverses
      cases hreverses

theorem GlStore.Linked.reversed (horiginal : original ∈ s.entries)
    (now : ℤ) (opts : ReverseOptions) : (s.reversed now original opts).Linked := by
  have hentries := entries_reversed h horiginal now opts
  -- an entry is an old one, perhaps with a link, or the reversal
  have hmem : ∀ e ∈ (s.reversed now original opts).entries,
      (∃ e' ∈ s.entries, e = linked original s.nextEntryId e') ∨ e = reversalEntry now original opts s.nextEntryId := by
    intro e he
    rw [hentries] at he
    rcases List.mem_append.mp he with hold | hnew
    · obtain ⟨e', he', rfl⟩ := List.mem_map.mp hold
      exact .inl ⟨e', he', rfl⟩
    · exact .inr (List.mem_singleton.mp hnew)
  have hlt := h.entryFresh original horiginal
  refine ⟨?_, ?_, ?_, ?_, ?_, ?_⟩
  · rw [hentries]
    exact nodup_ids_append h (linked_id original s.nextEntryId) rfl
  · intro e he
    rcases hmem e he with ⟨e', he', rfl⟩ | rfl
    · rw [linked_id]
      exact Nat.lt_succ_of_lt (h.entryFresh e' he')
    · exact Nat.lt_succ_self _
  · exact lineFresh_append h fun _ hl => entryId_of_mem_swappedLines hl
  · intro r hr id hreverses
    rcases hmem r hr with ⟨r', hr', rfl⟩ | rfl
    · rw [linked_eq h horiginal hr'] at hreverses
      exact Nat.lt_succ_of_lt (h.older r' hr' id hreverses)
    · have heq : original.id = id := Option.some.inj hreverses
      rw [← heq]
      exact Nat.lt_succ_of_lt hlt
  · intro e he
    rw [reversalsOf_reversed h horiginal, List.append_eq_nil_iff, List.map_eq_nil_iff]
    rcases hmem e he with ⟨e', he', rfl⟩ | rfl
    · rw [linked_eq h horiginal he']
      have hlink := h.link e' he'
      by_cases hid : e'.id = original.id
      · simp only [hid, if_true, reduceCtorEq, List.cons_ne_self, and_false]
      · simp only [hid, Ne.symm hid, if_false, and_true]
        exact hlink
    · -- nothing reverses the reversal yet
      have hnone := reversalsOf_next h
      have hid : (reversalEntry now original opts s.nextEntryId).id = s.nextEntryId := rfl
      rw [hid, hnone, if_neg hlt.ne]
      exact ⟨fun _ => ⟨rfl, rfl⟩, fun _ => rfl⟩
  · intro r hr id hreverses accountCode
    rcases hmem r hr with ⟨r', hr', rfl⟩ | rfl
    · rw [linked_id]
      rw [linked_eq h horiginal hr'] at hreverses
      rw [effect_reversed_of_ne now original opts (h.entryFresh r' hr').ne,
        effect_reversed_of_ne now original opts (h.older r' hr' id hreverses).ne]
      exact h.mirrored r' hr' id hreverses accountCode
    · have heq : original.id = id := Option.some.inj hreverses
      rw [← heq, effect_reversed_of_ne now original opts hlt.ne]
      exact effect_reversed_self h now original opts accountCode

theorem GlStore.Linked.step (c : GlCall) : (c.step s).Linked := by
  have hstep := GlCall.step_cases s c
  generalize c.step s = s' at hstep
  cases hstep with
  | nothing => exact h
  | posted hok hkey => exact h.posted _ _
  | reversed hid hkey => exact h.reversed (mem_of_entryById hid) _ _

end Step

theorem linked_emptyJournal : emptyJournal.Linked where
  ids := List.nodup_nil
  entryFresh e he := by cases he
  lineFresh l hl := by cases hl
  older r hr := by cases hr
  link e he := by cases he
  mirrored r hr := by cases hr

/-! ### Every run -/

def NotYetReversed (s : GlStore) : GlCall → Prop
  | .post .. => True
  | .reverse _ entryId opts => ∀ original ∈ s.entryById entryId,
      s.entryByKey original.branchId opts.idempotencyKey = none → original.reversedByEntryId = none

instance (s : GlStore) : (c : GlCall) → Decidable (NotYetReversed s c)
  | .post .. => .isTrue trivial
  | .reverse .. => inferInstanceAs (Decidable (∀ original ∈ _, _ → _))

variable {s : GlStore}

theorem notYetReversed_of_eq_none (h : s.entryById entryId = none)
    (now : ℤ) (opts : ReverseOptions) : NotYetReversed s (.reverse now entryId opts) := by
  intro original hmem
  rw [h] at hmem
  cases hmem

theorem notYetReversed_iff {original : GlJournalEntry}
    (h : s.entryById entryId = some original) (now : ℤ) (opts : ReverseOptions) :
    NotYetReversed s (.reverse now entryId opts) ↔
      (s.entryByKey original.branchId opts.idempotencyKey = none → original.reversedByEntryId = none) := by
  unfold NotYetReversed
  simp only [h, Option.mem_some_iff, forall_eq']

def ReversesAgain (s : GlStore) : GlCall → Prop
  | .post .. => False
  | .reverse _ entryId _ => s.reversalsOf entryId ≠ []

def GlStore.ReversedOnce (s : GlStore) : Prop := ∀ id, (s.reversalsOf id).length ≤ 1

theorem reversedOnce_step_iff (h : s.Linked) (honce : s.ReversedOnce) (c : GlCall) :
    (c.step s).ReversedOnce ↔ NotYetReversed s c := by
  cases c with
  | post now input manager =>
    refine ⟨fun _ => trivial, fun _ => ?_⟩
    have hstep := GlCall.step_cases s (.post now input manager)
    generalize GlCall.step s (.post now input manager) = s' at hstep
    cases hstep with
    | nothing => exact honce
    | posted hok hkey => exact fun id => by rw [reversalsOf_posted]; exact honce id
  | reverse now entryId opts =>
    cases hid : s.entryById entryId with
    | none =>
      rw [step_reverse_of_eq_none hid]
      exact ⟨fun _ => notYetReversed_of_eq_none hid now opts, fun _ => honce⟩
    | some original =>
      have horiginal := mem_of_entryById hid
      rw [notYetReversed_iff hid]
      cases hkey : s.entryByKey original.branchId opts.idempotencyKey with
      | some used =>
        rw [step_reverse_of_used hid hkey]
        exact ⟨fun _ hnone => absurd hnone (Option.some_ne_none _), fun _ => honce⟩
      | none =>
        rw [step_reverse_of_new hid hkey, h.link original horiginal]
        constructor
        · intro hafter _
          have hlen := hafter original.id
          rw [reversalsOf_reversed h horiginal, if_pos rfl, List.length_append, List.length_map,
            List.length_singleton] at hlen
          exact List.length_eq_zero_iff.mp (by omega)
        · intro hnone id
          have hlen := honce id
          rw [reversalsOf_reversed h horiginal, List.length_append, List.length_map]
          split_ifs with heq
          · rw [← heq, hnone rfl]
            exact le_refl 1
          · exact hlen

theorem step_eq_iff (h : s.Linked) (c : GlCall) : (ReversesAgain s c → c.step s = s) ↔ NotYetReversed s c := by
  cases c with
  | post now input manager => exact ⟨fun _ => trivial, fun _ hagain => hagain.elim⟩
  | reverse now entryId opts =>
    cases hid : s.entryById entryId with
    | none =>
      rw [step_reverse_of_eq_none hid]
      exact ⟨fun _ => notYetReversed_of_eq_none hid now opts, fun _ _ => rfl⟩
    | some original =>
      have horiginal := mem_of_entryById hid
      have heq := id_of_entryById hid
      subst heq
      rw [notYetReversed_iff hid]
      cases hkey : s.entryByKey original.branchId opts.idempotencyKey with
      | some used =>
        rw [step_reverse_of_used hid hkey]
        exact ⟨fun _ hnone => absurd hnone (Option.some_ne_none _), fun _ _ => rfl⟩
      | none =>
        -- the tables have one entry more
        have hne : s.reversed now original opts ≠ s := by
          intro heq
          have hnext := congrArg GlStore.nextEntryId heq
          exact absurd hnext (Nat.succ_ne_self _)
        rw [step_reverse_of_new hid hkey, h.link original horiginal]
        constructor
        · intro himp _
          exact not_not.mp fun hagain => hne (himp hagain)
        · intro hnone hagain
          exact absurd (hnone rfl) hagain

/-- **An entry is reversed at most once as long as no call reverses a reversed entry under a new key.**
Then each entry has one reversal at most, and with it has its own effect or none on every account; a
call for an entry that has been reversed changes nothing.  A call that is not of this kind breaks
both. -/
theorem reversed_at_most_once {calls : List GlCall}
    (hcalls : Run.Along GlCall.step NotYetReversed emptyJournal calls) :
    let s := Run.after GlCall.step emptyJournal calls
    s.ReversedOnce ∧
    (∀ id accountCode, s.combinedEffect id accountCode = s.effect id accountCode ∨
      s.combinedEffect id accountCode = 0) ∧
    ∀ c, ((c.step s).ReversedOnce ↔ NotYetReversed s c) ∧
      ((ReversesAgain s c → c.step s = s) ↔ NotYetReversed s c) := by
  intro s
  have hs : s.Linked ∧ s.ReversedOnce := by
    refine Run.after_induction (P := fun s : GlStore => s.Linked ∧ s.ReversedOnce)
      (fun s c hs hc => ⟨hs.1.step c, (reversedOnce_step_iff hs.1 hs.2 c).mpr hc⟩) ?_ hcalls
    exact ⟨linked_emptyJournal, fun _ => Nat.zero_le _⟩
  obtain ⟨hlinked, honce⟩ := hs
  refine ⟨honce, fun id accountCode => ?_, fun c => ⟨reversedOnce_step_iff hlinked honce c, step_eq_iff hlinked c⟩⟩
  have hlen := honce id
  rw [combinedEffect_eq hlinked]
  rcases Nat.le_one_iff_eq_zero_or_eq_one.mp hlen with hzero | hone
  · rw [hzero]
    norm_num
  · rw [hone]
    norm_num

/-- The calls that post a sale of ten and reverse it under each of the keys. -/
def reversals (keys : List String) : List GlCall :=
  .post 0 (saleOf [10] [9, 1]) false ::
    keys.map fun key => .reverse 0 1 { sourceType := .posVoidReversal, idempotencyKey := key }

/-- A sale that is reversed and reversed again under the same key. -/
theorem reversed_at_most_once_sale :
    (Run.after GlCall.step emptyJournal (reversals ["void", "void"])).ReversedOnce ∧
    (Run.after GlCall.step emptyJournal (reversals ["void", "void"])).effect 1 "1000" = 10 ∧
    (Run.after GlCall.step emptyJournal (reversals ["void", "void"])).combinedEffect 1 "1000" = 0 := by
  have h := @reversed_at_most_once (reversals ["void", "void"]) (by decide +kernel)
  exact ⟨h.1, by decide +kernel, by decide +kernel⟩

/-- A sale that is reversed under two keys has two reversals: with them it counts as a return of ten,
and the second call has changed the tables. -/
theorem reversed_twice :
    let s := Run.after GlCall.step emptyJournal (reversals ["void"])
    let s' := Run.after GlCall.step emptyJournal (reversals ["void", "refund"])
    ¬ s'.ReversedOnce ∧ s'.effect 1 "1000" = 10 ∧ s'.combinedEffect 1 "1000" = -10 ∧ s' ≠ s := by
  refine ⟨fun honce => ?_, by decide +kernel, by decide +kernel, by decide +kernel⟩
  have htwo : ((Run.after GlCall.step emptyJournal (reversals ["void", "refund"])).reversalsOf 1).length =
      2 := by decide +kernel
  have hlen := honce 1
  omega

end SuuqBackend
