import SuuqBackend.Accounting.GeneralLedger

/-!
# What `post` and `reverse` leave

The tables after each operation in closed form: `posted` and `reversed` are the only two ways in which
the journal grows, and a call with a key that its branch has used changes nothing.

* `run_postWithin`, `run_post`: the run of `post`.
* `run_reverse`: the run of `reverse`.
-/

namespace SuuqBackend

open Proc GeneralLedger

namespace GlStore

/-- The entry of a branch with a key, as `postWithin` and `reverse` look for it. -/
def entryByKey (s : GlStore) (branchId : ℕ) (idempotencyKey : String) : Option GlJournalEntry :=
  s.entries.find? fun e => e.branchId = branchId ∧ e.idempotencyKey = idempotencyKey

def entryById (s : GlStore) (id : ℕ) : Option GlJournalEntry := s.entries.find? fun e => e.id = id

def linesOf (s : GlStore) (entryId : ℕ) : List GlJournalLine :=
  s.lines.filter fun l => l.entryId = entryId

end GlStore

/-- The entry that `postWithin` inserts. -/
def postedEntry (now : ℤ) (input : PostJournalEntryInput) (id : ℕ) : GlJournalEntry where
  id
  branchId := input.branchId
  occurredAt := input.occurredAt
  postedAt := now
  sourceType := input.sourceType
  sourceId := input.sourceId
  idempotencyKey := input.idempotencyKey
  currency := currencyOf input
  memo := input.memo
  createdByUserId := input.createdByUserId
  reversesEntryId := none
  reversedByEntryId := none

def GlStore.posted (s : GlStore) (now : ℤ) (input : PostJournalEntryInput) : GlStore where
  entries := s.entries ++ [postedEntry now input s.nextEntryId]
  lines := s.lines ++ storedLines s.nextEntryId input
  nextEntryId := s.nextEntryId + 1

/-- The entry that `reverse` inserts. -/
def reversalEntry (now : ℤ) (original : GlJournalEntry) (opts : ReverseOptions) (id : ℕ) : GlJournalEntry where
  id
  branchId := original.branchId
  occurredAt := opts.occurredAt.getD now
  postedAt := now
  sourceType := opts.sourceType
  sourceId := original.sourceId
  idempotencyKey := opts.idempotencyKey
  currency := original.currency
  memo := some (opts.memo.getD (reversalMemo original.id))
  createdByUserId := opts.createdByUserId
  reversesEntryId := some original.id
  reversedByEntryId := none

def linked (original : GlJournalEntry) (reversalId : ℕ) (e : GlJournalEntry) : GlJournalEntry :=
  if e.id = original.id then { original with reversedByEntryId := some reversalId } else e

/-- The tables with a new entry that mirrors `original`. -/
def GlStore.reversed (s : GlStore) (now : ℤ) (original : GlJournalEntry) (opts : ReverseOptions) : GlStore where
  entries := (s.entries ++ [reversalEntry now original opts s.nextEntryId]).map (linked original s.nextEntryId)
  lines := s.lines ++ swappedLines s.nextEntryId (opts.occurredAt.getD now) (s.linesOf original.id)
  nextEntryId := s.nextEntryId + 1

variable {e : GlJournalEntry} {s : GlStore} {branchId entryId : ℕ} {key : String}
  {input : PostJournalEntryInput}

theorem id_of_entryById {id : ℕ} (h : s.entryById id = some e) : e.id = id := by
  have hid := List.find?_some h
  exact of_decide_eq_true hid

theorem mem_of_entryById {id : ℕ} (h : s.entryById id = some e) : e ∈ s.entries :=
  List.mem_of_find?_eq_some h

theorem mem_of_entryByKey (h : s.entryByKey branchId key = some e) :
    e ∈ s.entries ∧ e.branchId = branchId ∧ e.idempotencyKey = key := by
  have hkey := List.find?_some h
  exact ⟨List.mem_of_find?_eq_some h, of_decide_eq_true hkey⟩

/-- The tables after `postWithin`: with a new entry for the input, unless its branch has used the
key. -/
def GlStore.entered (s : GlStore) (now : ℤ) (input : PostJournalEntryInput) : GlStore :=
  if s.entryByKey input.branchId input.idempotencyKey = none then s.posted now input else s

/-! ### Keys -/

theorem entryByKey_posted (s : GlStore) (now : ℤ) (input : PostJournalEntryInput) (branchId : ℕ)
    (key : String) : (s.posted now input).entryByKey branchId key =
      (s.entryByKey branchId key).or
        (if input.branchId = branchId ∧ input.idempotencyKey = key then
          some (postedEntry now input s.nextEntryId) else none) := by
  unfold GlStore.entryByKey GlStore.posted
  rw [List.find?_append]
  congr 1
  by_cases h : input.branchId = branchId ∧ input.idempotencyKey = key
  · simp [postedEntry, h]
  · rw [if_neg h, List.find?_eq_none]
    intro e he hkey
    rw [List.mem_singleton.mp he] at hkey
    exact h (of_decide_eq_true hkey)

theorem entryByKey_entered_of_some (h : s.entryByKey branchId key = some e) (now : ℤ) (input : PostJournalEntryInput) :
    (s.entered now input).entryByKey branchId key = some e := by
  unfold GlStore.entered
  split_ifs
  · rw [entryByKey_posted, h, Option.some_or]
  · exact h

theorem entryByKey_entered_of_ne (h : input.idempotencyKey ≠ key) (now : ℤ) :
    (s.entered now input).entryByKey branchId key = s.entryByKey branchId key := by
  unfold GlStore.entered
  split_ifs
  · rw [entryByKey_posted, if_neg fun hboth => h hboth.2, Option.or_none]
  · rfl

theorem entryByKey_entered_self {s : GlStore} {input : PostJournalEntryInput}
    (h : s.entryByKey input.branchId input.idempotencyKey = none) (now : ℤ) :
    (s.entered now input).entryByKey input.branchId input.idempotencyKey =
      some (postedEntry now input s.nextEntryId) := by
  rw [GlStore.entered, if_pos h, entryByKey_posted, h, Option.none_or, if_pos ⟨rfl, rfl⟩]

/-! ### Runs -/

variable {α : Type} {opts : ReverseOptions} {original : GlJournalEntry}

theorem run_findEntryByKey_bind (branchId : ℕ) (key : String) (f : Option GlJournalEntry → GlProc α) (s : GlStore) :
    (findEntryByKey branchId key >>= f).run s = (f (s.entryByKey branchId key)).run s := rfl

theorem run_findEntryById_bind (id : ℕ) (f : Option GlJournalEntry → GlProc α)
    (s : GlStore) : (findEntryById id >>= f).run s = (f (s.entryById id)).run s := rfl

theorem run_postWithin (now : ℤ) (input : PostJournalEntryInput) (s : GlStore) :
    (postWithin now input).run s = match s.entryByKey input.branchId input.idempotencyKey with
      | some existing => (.ok existing, s)
      | none => (.ok (postedEntry now input s.nextEntryId), s.posted now input) := by
  rw [postWithin, run_findEntryByKey_bind]
  cases s.entryByKey input.branchId input.idempotencyKey with
  | some existing => rfl
  | none => rfl

theorem run_post (now : ℤ) (input : PostJournalEntryInput) (manager : Bool) (s : GlStore) :
    (post now input manager).run s = match assertBalanced input with
      | .error e => (.error e, s)
      | .ok () => (postWithin now input).run s := by
  unfold post
  cases assertBalanced input with
  | error e => rfl
  | ok u =>
    cases manager with
    | true => rfl
    | false =>
      rw [if_neg Bool.false_ne_true, run_transaction, run_postWithin]
      cases s.entryByKey input.branchId input.idempotencyKey <;> rfl

theorem run_post_of_ok (h : assertBalanced input = .ok ()) (now : ℤ) (manager : Bool) (s : GlStore) :
    ∃ entry, (post now input manager).run s = (.ok entry, s.entered now input) := by
  rw [run_post, h]
  rw [run_postWithin, GlStore.entered]
  cases s.entryByKey input.branchId input.idempotencyKey with
  | some existing => exact ⟨existing, rfl⟩
  | none => exact ⟨_, rfl⟩

theorem run_post_of_error {e : HttpException}
    (h : assertBalanced input = .error e) (now : ℤ) (manager : Bool) (s : GlStore) :
    (post now input manager).run s = (.error e, s) := by
  rw [run_post, h]

theorem run_reverse (now : ℤ) (entryId : ℕ) (opts : ReverseOptions) (s : GlStore) :
    (reverse now entryId opts).run s = match s.entryById entryId with
      | none => (.ok none, s)
      | some original => match s.entryByKey original.branchId opts.idempotencyKey with
        | some alreadyReversed => (.ok (some alreadyReversed), s)
        | none =>
          (.ok (some (reversalEntry now original opts s.nextEntryId)), s.reversed now original opts) := by
  rw [reverse, run_transaction, reverseWithin, run_findEntryById_bind]
  cases hfind : s.entryById entryId with
  | none => rfl
  | some original =>
    have hid := id_of_entryById hfind
    subst hid
    dsimp only
    rw [run_findEntryByKey_bind]
    cases s.entryByKey original.branchId opts.idempotencyKey with
    | some alreadyReversed => rfl
    | none => rfl

theorem step_reverse_of_eq_none (h : s.entryById entryId = none) (now : ℤ)
    (opts : ReverseOptions) : GlCall.step s (.reverse now entryId opts) = s := by
  rw [GlCall.step, run_reverse, h]

theorem step_reverse_of_used {used : GlJournalEntry} (h : s.entryById entryId = some original)
    (hkey : s.entryByKey original.branchId opts.idempotencyKey = some used) (now : ℤ) :
    GlCall.step s (.reverse now entryId opts) = s := by
  rw [GlCall.step, run_reverse, h]
  dsimp only
  rw [hkey]

theorem step_reverse_of_new (h : s.entryById entryId = some original)
    (hkey : s.entryByKey original.branchId opts.idempotencyKey = none) (now : ℤ) :
    GlCall.step s (.reverse now entryId opts) = s.reversed now original opts := by
  rw [GlCall.step, run_reverse, h]
  dsimp only
  rw [hkey]

inductive GlStep (s : GlStore) : GlCall → GlStore → Prop where
  | nothing {c : GlCall} : GlStep s c s
  | posted {now : ℤ} {input : PostJournalEntryInput} {manager : Bool} :
      assertBalanced input = .ok () → s.entryByKey input.branchId input.idempotencyKey = none →
      GlStep s (.post now input manager) (s.posted now input)
  | reversed {now : ℤ} {opts : ReverseOptions} {original : GlJournalEntry} :
      s.entryById original.id = some original →
      s.entryByKey original.branchId opts.idempotencyKey = none →
      GlStep s (.reverse now original.id opts) (s.reversed now original opts)

/-- **Every call leaves the tables alone, posts an entry or reverses one.** -/
theorem GlCall.step_cases (s : GlStore) (c : GlCall) : GlStep s c (c.step s) := by
  cases c with
  | post now input manager =>
    show GlStep s _ ((GeneralLedger.post now input manager).run s).2
    rw [run_post, run_postWithin]
    cases hok : assertBalanced input with
    | error e => exact .nothing
    | ok u =>
      cases hkey : s.entryByKey input.branchId input.idempotencyKey with
      | some existing => exact .nothing
      | none => exact .posted hok hkey
  | reverse now entryId opts =>
    cases hid : s.entryById entryId with
    | none =>
      rw [step_reverse_of_eq_none hid]
      exact .nothing
    | some original =>
      cases hkey : s.entryByKey original.branchId opts.idempotencyKey with
      | some used =>
        rw [step_reverse_of_used hid hkey]
        exact .nothing
      | none =>
        rw [step_reverse_of_new hid hkey]
        have heq := id_of_entryById hid
        subst heq
        exact .reversed hid hkey

end SuuqBackend
