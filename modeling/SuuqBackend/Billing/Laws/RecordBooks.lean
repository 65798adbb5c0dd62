import SuuqBackend.Accounting.Laws.SourceNets
import SuuqBackend.Billing.BranchBilling
import SuuqBackend.Lib.TextKeys

/-!
# The keys of the entries of a record

What branch billing posts for a record has a key that names the record and what was posted, and the same text as
its source; the reversal has that key after `reverse-`.  A `RecordKey` is what such a key stands for.

* `RecordKey.text_inj`, `RecordKey.text_ne_reverseText`: the texts tell the keys apart.
-/

namespace SuuqBackend

open TextKeys

inductive RecordTable where
  | expenses
  | fixedAssets
  | depreciationEntries
  | accruedLiabilities
  | longTermDebts
deriving DecidableEq

/-- A record of branch billing, stored or not. -/
@[ext]
structure BillingRecord where
  table : RecordTable
  id : ℕ
deriving DecidableEq

inductive RecordPosting where
  | expense
  | fixedAsset
  | depreciation
  | accrued
  | accruedSettle
  | longTermDebt
deriving DecidableEq

namespace RecordPosting

/-- What the keys of these entries begin with. -/
def label : RecordPosting → String
  | expense => "expense-"
  | fixedAsset => "fixed-asset-"
  | depreciation => "depreciation-"
  | accrued => "accrued-"
  | accruedSettle => "accrued-settle-"
  | longTermDebt => "ltdebt-"

def table : RecordPosting → RecordTable
  | expense => .expenses
  | fixedAsset => .fixedAssets
  | depreciation => .depreciationEntries
  | accrued | accruedSettle => .accruedLiabilities
  | longTermDebt => .longTermDebts

theorem accrued_of_table {p : RecordPosting} (h : p.table = .accruedLiabilities) : p = accrued ∨ p = accruedSettle := by
  cases p with
  | accrued => exact .inl rfl
  | accruedSettle => exact .inr rfl
  | _ => cases h

/-- The key of a settlement goes on with a word where that of the liability has a number. -/
theorem accrued_ne_accruedSettle (id id' : ℕ) : accrued.label ++ toString id ≠ accruedSettle.label ++ toString id' := by
  intro h
  have hlabel : accruedSettle.label = accrued.label ++ "settle-" := by decide
  rw [hlabel, String.append_assoc, String.append_right_inj] at h
  apply dash_notMem_toString id
  rw [h, String.toList_append]
  exact List.mem_append_left _ (by decide)

theorem label_append_ne {p p' : RecordPosting} (h : p ≠ p') (id id' : ℕ) :
    p.label ++ toString id ≠ p'.label ++ toString id' := by
  by_cases hliability : p.table = .accruedLiabilities ∧ p'.table = .accruedLiabilities
  · rcases accrued_of_table hliability.1 with rfl | rfl
    · rcases accrued_of_table hliability.2 with rfl | rfl
      · exact absurd rfl h
      · exact accrued_ne_accruedSettle id id'
    · rcases accrued_of_table hliability.2 with rfl | rfl
      · exact (accrued_ne_accruedSettle id' id).symm
      · exact absurd rfl h
  · have hlabels : ¬ p.label.toList <+: p'.label.toList ∧ ¬ p'.label.toList <+: p.label.toList := by
      revert h hliability
      cases p <;> cases p' <;> decide
    exact append_ne_append hlabels.1 hlabels.2 _ _

end RecordPosting

structure RecordKey where
  posting : RecordPosting
  id : ℕ
deriving DecidableEq

namespace RecordKey

def record (k : RecordKey) : BillingRecord := ⟨k.posting.table, k.id⟩

def text (k : RecordKey) : String := k.posting.label ++ toString k.id

def reverseText (k : RecordKey) : String := "reverse-" ++ k.text

theorem text_inj {k k' : RecordKey} : k.text = k'.text ↔ k = k' := by
  constructor
  · intro h
    by_cases hposting : k.posting = k'.posting
    · obtain ⟨posting, id⟩ := k
      obtain ⟨posting', id'⟩ := k'
      have hsame : posting = posting' := hposting
      subst hsame
      have hid : id = id' := toString_inj.mp ((String.append_right_inj _).mp h)
      rw [hid]
    · exact absurd h (RecordPosting.label_append_ne hposting _ _)
  · intro h
    rw [h]

theorem reverseText_inj {k k' : RecordKey} : k.reverseText = k'.reverseText ↔ k = k' := by
  unfold reverseText
  rw [String.append_right_inj, text_inj]

theorem text_ne_reverseText (k k' : RecordKey) : k.text ≠ k'.reverseText := by
  have hlabels : ¬ k.posting.label.toList <+: "reverse-".toList ∧ ¬ "reverse-".toList <+: k.posting.label.toList := by
    cases k.posting <;> decide
  exact append_ne_append hlabels.1 hlabels.2 _ _

theorem text_ne_empty (k : RecordKey) : k.text ≠ "" := by
  intro h
  have hlabel : k.posting.label = "" := (String.append_eq_empty_iff.mp h).1
  revert hlabel
  cases k.posting <;> decide

end RecordKey

/-- The keys of what can be posted for the record itself. -/
def BillingRecord.keys (r : BillingRecord) : List RecordKey :=
  match r.table with
  | .expenses => [⟨.expense, r.id⟩]
  | .fixedAssets => [⟨.fixedAsset, r.id⟩]
  | .depreciationEntries => [⟨.depreciation, r.id⟩]
  | .accruedLiabilities => [⟨.accrued, r.id⟩, ⟨.accruedSettle, r.id⟩]
  | .longTermDebts => [⟨.longTermDebt, r.id⟩]

variable {k : RecordKey}

theorem BillingRecord.mem_keys {r : BillingRecord} : k ∈ r.keys ↔ k.record = r := by
  obtain ⟨table, id⟩ := r
  obtain ⟨posting, id'⟩ := k
  cases table <;> cases posting <;>
    simp [BillingRecord.keys, RecordKey.record, RecordPosting.table]

theorem RecordKey.eq_or_eq_of_record {k' k'' : RecordKey} (hne : k' ≠ k) (h : k'.record = k.record)
    (h' : k''.record = k'.record) : k'' = k' ∨ k'' = k := by
  have hk : k ∈ k.record.keys := BillingRecord.mem_keys.mpr rfl
  have hk' : k' ∈ k.record.keys := BillingRecord.mem_keys.mpr h
  have hk'' : k'' ∈ k.record.keys := BillingRecord.mem_keys.mpr (h'.trans h)
  generalize k.record = r at hk hk' hk''
  obtain ⟨table, id⟩ := r
  cases table with
  | accruedLiabilities =>
    simp only [BillingRecord.keys, List.mem_cons, List.not_mem_nil, or_false] at hk hk' hk''
    grind
  | _ => exact absurd ((List.mem_singleton.mp hk').trans (List.mem_singleton.mp hk).symm) hne

theorem RecordKey.eq_of_depreciation {k' : RecordKey} (h : k.record.table = .depreciationEntries)
    (h' : k'.record = k.record) : k' = k := by
  have hk : k ∈ k.record.keys := BillingRecord.mem_keys.mpr rfl
  have hk' : k' ∈ k.record.keys := BillingRecord.mem_keys.mpr h'
  unfold BillingRecord.keys at hk hk'
  rw [h] at hk hk'
  exact (List.mem_singleton.mp hk').trans (List.mem_singleton.mp hk).symm

theorem BillingRecord.nodup_keys (r : BillingRecord) : r.keys.Nodup := by
  obtain ⟨table, id⟩ := r
  cases table <;> simp [BillingRecord.keys]

/-!
## The books of a record

`netOfKey` adds up what the entries of a key hold for an account, the reversal with them: it has the same source.
A key is `Unused`, or `Booked` by one entry that has not been reversed; `postLedger` books an unused key, and
`reverseLedger` brings a booked one back to nothing.  Both leave the books of all other keys alone.

* `netOfKeys_eq_sum`: the entries of several keys, key by key.
* `posts_ledger`, `reverses_ledger`: what the two operations do.
-/

open Proc GeneralLedger BranchBilling

/-- Debits less credits on an account, over the entries of a key. -/
def GlStore.netOfKey (J : GlStore) (k : RecordKey) (accountCode : String) : ℚ :=
  J.netWhere (fun _ sourceId => sourceId = some k.text) accountCode

/-- Debits less credits on an account, over the entries of all these keys. -/
def GlStore.netOfKeys (J : GlStore) (keys : List RecordKey) (accountCode : String) : ℚ :=
  J.netWhere (fun _ sourceId => keys.any fun k => sourceId = some k.text) accountCode

theorem netOfKeys_eq_sum (J : GlStore) {keys : List RecordKey} (hnodup : keys.Nodup) (accountCode : String) :
    J.netOfKeys keys accountCode = (keys.map fun k => J.netOfKey k accountCode).sum := by
  have hsources : (keys.map fun k => some k.text).Nodup := by
    refine hnodup.map fun k k' h => ?_
    exact RecordKey.text_inj.mp (Option.some.inj h)
  let rows := J.entries.filter fun e => keys.any fun k => e.sourceId = some k.text
  have hcover : ∀ e ∈ rows, e.sourceId ∈ keys.map fun k => some k.text := by
    intro e he
    obtain ⟨k, hk, hsource⟩ := List.any_eq_true.mp (List.mem_filter.mp he).2
    exact List.mem_map.mpr ⟨k, hk, (of_decide_eq_true hsource).symm⟩
  have hgroups := sum_groups (v := fun e => J.effect e.id accountCode) hsources hcover
  rw [List.map_map] at hgroups
  refine hgroups.symm.trans (congrArg List.sum (List.map_congr_left fun k hk => ?_))
  show groupSum (fun e : GlJournalEntry => e.sourceId) (fun e => J.effect e.id accountCode) rows (some k.text) =
    J.netOfKey k accountCode
  unfold groupSum GlStore.netOfKey GlStore.netWhere
  rw [List.filter_filter]
  refine congrArg (fun rows => (rows.map fun e : GlJournalEntry => J.effect e.id accountCode).sum)
    (List.filter_congr fun e _ => ?_)
  by_cases hsource : e.sourceId = some k.text
  · have hany : (keys.any fun k => decide (e.sourceId = some k.text)) = true :=
      List.any_eq_true.mpr ⟨k, hk, decide_eq_true hsource⟩
    rw [hany, Bool.and_true]
  · rw [decide_eq_false hsource]
    exact (decide_eq_false hsource).symm

/-! ### Keys -/

/-- No entry has the key, its reversal's key or its source. -/
def Unused (J : GlStore) (k : RecordKey) : Prop :=
  ∀ e ∈ J.entries, e.sourceId ≠ some k.text ∧ e.idempotencyKey ≠ k.text ∧ e.idempotencyKey ≠ k.reverseText

/-- The key has an entry in the branch, which is all that its source has, and not nothing. -/
structure BookedAs (J : GlStore) (branchId : ℕ) (k : RecordKey) (e : GlJournalEntry) : Prop where
  entry : J.entryByKey branchId k.text = some e
  source : e.sourceId = some k.text
  reverse : J.entryByKey branchId k.reverseText = none
  net : ∀ accountCode, J.netOfKey k accountCode = J.effect e.id accountCode
  net_ne : ∃ accountCode, J.netOfKey k accountCode ≠ 0

/-- The key has an entry that has not been reversed. -/
def Booked (J : GlStore) (branchId : ℕ) (k : RecordKey) : Prop := ∃ e, BookedAs J branchId k e

def UnusedOrBooked (J : GlStore) (branchId : ℕ) (k : RecordKey) : Prop := Unused J k ∨ Booked J branchId k

/-- The entries of other keys stay, and make up what they did. -/
structure KeepsOthers (k : RecordKey) (J J' : GlStore) : Prop where
  linked : J'.Linked
  unused : ∀ k' ≠ k, Unused J k' → Unused J' k'
  booked : ∀ k' ≠ k, ∀ branchId, Booked J branchId k' → Booked J' branchId k'
  net : ∀ k' ≠ k, ∀ accountCode, J'.netOfKey k' accountCode = J.netOfKey k' accountCode

theorem KeepsOthers.refl {J : GlStore} (h : J.Linked) (k : RecordKey) : KeepsOthers k J J :=
  ⟨h, fun _ _ => id, fun _ _ _ => id, fun _ _ _ => rfl⟩

theorem KeepsOthers.unusedOrBooked {J J' : GlStore} {k k' : RecordKey} (h : KeepsOthers k J J') (hne : k' ≠ k)
    {branchId : ℕ} : UnusedOrBooked J branchId k' → UnusedOrBooked J' branchId k' :=
  Or.imp (h.unused k' hne) (h.booked k' hne branchId)

section Unused

variable {J : GlStore} {k : RecordKey} (h : Unused J k)

include h

theorem Unused.entryByKey (branchId : ℕ) : J.entryByKey branchId k.text = none := by
  refine List.find?_eq_none.mpr fun e he => ?_
  have hkey := (h e he).2.1
  simp [hkey]

theorem Unused.entryByKey_reverse (branchId : ℕ) : J.entryByKey branchId k.reverseText = none := by
  refine List.find?_eq_none.mpr fun e he => ?_
  have hkey := (h e he).2.2
  simp [hkey]

theorem Unused.netOfKey (accountCode : String) : J.netOfKey k accountCode = 0 := by
  have hrows : (J.entries.filter fun e => decide (e.sourceId = some k.text)) = [] := by
    refine List.filter_eq_nil_iff.mpr fun e he => ?_
    rw [decide_eq_true_eq]
    exact (h e he).1
  unfold GlStore.netOfKey GlStore.netWhere
  rw [hrows]
  rfl

end Unused

theorem UnusedOrBooked.unused_iff {J : GlStore} {branchId : ℕ} {k : RecordKey} (h : UnusedOrBooked J branchId k) :
    ((∀ accountCode, J.netOfKey k accountCode = 0) ↔ J.entryByKey branchId k.text = none) ∧
      (J.entryByKey branchId k.text = none → Unused J k) := by
  rcases h with hunused | ⟨e, hbooked⟩
  · exact ⟨iff_of_true hunused.netOfKey (hunused.entryByKey branchId), fun _ => hunused⟩
  · have hsome : J.entryByKey branchId k.text ≠ none := by
      rw [hbooked.entry]
      exact Option.some_ne_none e
    obtain ⟨accountCode, hne⟩ := hbooked.net_ne
    exact ⟨iff_of_false (fun hzero => hne (hzero accountCode)) hsome, fun hnone => absurd hnone hsome⟩

/-! ### Posting -/

/-- The posting is for the key, and between two accounts. -/
structure IsFor (input : LedgerPosting) (branchId : ℕ) (k : RecordKey) : Prop where
  branch : input.branchId = branchId
  source : input.sourceId = k.text
  key : input.idempotencyKey = k.text
  accounts : input.debit ≠ input.credit

section Post

variable {J : GlStore} {input : LedgerPosting} {branchId : ℕ} {k : RecordKey} (hfor : IsFor input branchId k)

include hfor

theorem IsFor.accepted (hpos : 0 < round2 input.amount) : assertBalanced input.entry = .ok () := by
  have hkey : input.entry.idempotencyKey ≠ "" := by
    show input.idempotencyKey ≠ ""
    rw [hfor.key]
    exact k.text_ne_empty
  exact assertBalanced_ok_of_pair hkey hpos rfl

theorem IsFor.key_ne {k' : RecordKey} (hne : k' ≠ k) :
    input.entry.sourceId ≠ some k'.text ∧ input.entry.idempotencyKey ≠ k'.text ∧
      input.entry.idempotencyKey ≠ k'.reverseText := by
  have htext : k.text ≠ k'.text := fun heq => hne (RecordKey.text_inj.mp heq).symm
  have hsource : input.entry.sourceId = some k.text := congrArg some hfor.source
  have hkey : input.entry.idempotencyKey = k.text := hfor.key
  rw [hsource, hkey]
  exact ⟨fun heq => htext (Option.some.inj heq), htext, RecordKey.text_ne_reverseText k k'⟩

theorem IsFor.keepsOthers (hlinked : J.Linked) (hpos : 0 < round2 input.amount) (now : ℤ) :
    KeepsOthers k J (J.entered now input.entry) where
  linked := hlinked.entered now input.entry
  unused k' hne hunused := by
    unfold GlStore.entered
    split_ifs
    · intro e he
      rcases List.mem_append.mp he with hold | hnew
      · exact hunused e hold
      · rw [List.mem_singleton.mp hnew]
        exact hfor.key_ne hne
    · exact hunused
  booked k' hne branchId' := by
    rintro ⟨e, hbooked⟩
    obtain ⟨hsource, hkey, hreverse⟩ := hfor.key_ne hne
    have hnet : ∀ accountCode, (J.entered now input.entry).netOfKey k' accountCode = J.netOfKey k' accountCode := by
      intro accountCode
      unfold GlStore.netOfKey
      rw [netWhere_entered hlinked _ now accountCode (hfor.accepted hpos), decide_eq_false hsource]
      simp
    have heffect : ∀ accountCode, (J.entered now input.entry).effect e.id accountCode = J.effect e.id accountCode := by
      have hfresh : e.id ≠ J.nextEntryId := (hlinked.entryFresh e (mem_of_entryByKey hbooked.entry).1).ne
      intro accountCode
      unfold GlStore.entered
      split_ifs
      · exact effect_posted_of_ne now input.entry hfresh accountCode
      · rfl
    refine ⟨e, ?_, hbooked.source, ?_, fun accountCode => ?_, ?_⟩
    · exact entryByKey_entered_of_some hbooked.entry now input.entry
    · rw [entryByKey_entered_of_ne hreverse now, hbooked.reverse]
    · rw [hnet, heffect, hbooked.net]
    · obtain ⟨accountCode, hnonzero⟩ := hbooked.net_ne
      exact ⟨accountCode, by rwa [hnet]⟩
  net k' hne accountCode := by
    have hsource := (hfor.key_ne hne).1
    unfold GlStore.netOfKey
    rw [netWhere_entered hlinked _ now accountCode (hfor.accepted hpos), decide_eq_false hsource]
    simp

theorem IsFor.booked (hlinked : J.Linked) (hpos : 0 < round2 input.amount) (now : ℤ) (hunused : Unused J k) :
    Booked (J.entered now input.entry) branchId k := by
  have hkey : input.entry.idempotencyKey = k.text := hfor.key
  have hsource : input.entry.sourceId = some k.text := congrArg some hfor.source
  have hbranch : input.entry.branchId = branchId := hfor.branch
  have hnew : J.entryByKey input.entry.branchId input.entry.idempotencyKey = none := by
    rw [hkey]
    exact hunused.entryByKey _
  have hself := entryByKey_entered_self hnew now
  have hentered : J.entered now input.entry = J.posted now input.entry := if_pos hnew
  have hnet : ∀ accountCode, (J.entered now input.entry).netOfKey k accountCode =
      inputEffect input.entry.lines accountCode := by
    intro accountCode
    have hzero := hunused.netOfKey accountCode
    unfold GlStore.netOfKey at hzero ⊢
    rw [netWhere_entered hlinked _ now accountCode (hfor.accepted hpos), hzero, zero_add,
      if_pos ⟨hnew, decide_eq_true hsource⟩]
  refine ⟨postedEntry now input.entry J.nextEntryId, ?_, hsource, ?_, fun accountCode => ?_, input.debit.code, ?_⟩
  · rwa [hkey, hbranch] at hself
  · have hne : input.entry.idempotencyKey ≠ k.reverseText := by
      rw [hkey]
      exact RecordKey.text_ne_reverseText k k
    rw [entryByKey_entered_of_ne hne now, hunused.entryByKey_reverse]
  · rw [hnet, hentered]
    exact (effect_posted_self hlinked (hfor.accepted hpos) now accountCode).symm
  · have hpair : inputEffect input.entry.lines input.debit.code = round2 input.amount := by
      have hlines := @inputEffect_pair input.debit input.credit input.debit _ (round2_mem input.amount)
      rw [if_pos rfl, if_neg hfor.accounts.symm, sub_zero] at hlines
      exact hlines
    rw [hnet, hpair]
    exact hpos.ne'

end Post

/-- The ledger after `postLedger`. -/
def postedLedger (now : ℤ) (input : LedgerPosting) (J : GlStore) : GlStore :=
  if round2 input.amount ≤ 0 then J else J.entered now input.entry

variable {branchId : ℕ} {k : RecordKey}

variable (now : ℤ)

variable {input : LedgerPosting} {J : GlStore}

theorem run_postLedger (hfor : IsFor input branchId k) (S : BillingStore) :
    (postLedger now input).run S = (.ok (), { S with ledger := postedLedger now input S.ledger }) := by
  unfold postLedger postedLedger
  by_cases hle : round2 input.amount ≤ 0
  · rw [if_pos hle, if_pos hle]
    rfl
  · obtain ⟨entry, hrun⟩ := run_post_of_ok (hfor.accepted (not_le.mp hle)) now false S.ledger
    have hzoom := run_zoom_of (L := BillingStore.ledgerLens) (t := S) hrun
    rw [if_neg hle, if_neg hle]
    exact run_attempt_bind_pure _ () S |>.trans (by rw [hzoom]; rfl)

/-- **`postLedger` books an unused key**, unless there is no amount, and leaves a booked one alone. -/
theorem posts_ledger (hfor : IsFor input branchId k) (hlinked : J.Linked) (h : UnusedOrBooked J branchId k) :
    KeepsOthers k J (postedLedger now input J) ∧ UnusedOrBooked (postedLedger now input J) branchId k := by
  unfold postedLedger
  split_ifs with hle
  · exact ⟨.refl hlinked k, h⟩
  · have hpos := not_le.mp hle
    refine ⟨hfor.keepsOthers hlinked hpos now, ?_⟩
    rcases h with hunused | ⟨e, hbooked⟩
    · exact .inr (hfor.booked hlinked hpos now hunused)
    · have hsame : J.entered now input.entry = J := by
        have hentry : J.entryByKey input.entry.branchId input.entry.idempotencyKey = some e := by
          have hkey : input.entry.idempotencyKey = k.text := hfor.key
          have hbranch : input.entry.branchId = branchId := hfor.branch
          rw [hkey, hbranch, hbooked.entry]
        refine if_neg ?_
        rw [hentry]
        exact Option.some_ne_none e
      rw [hsame]
      exact .inr ⟨e, hbooked⟩

/-! ### Reversing -/

/-- The ledger after `reverseLedger`. -/
def reversedLedger (now : ℤ) (branchId : ℕ) (idempotencyKey : String) (occurredAt : Option ℤ) (J : GlStore) : GlStore :=
  ((reverseEntry now branchId idempotencyKey occurredAt).run J).2

theorem run_reverseLedger (branchId : ℕ) (idempotencyKey : String) (occurredAt : Option ℤ)
    (S : BillingStore) : (reverseLedger now branchId idempotencyKey occurredAt).run S =
      (.ok (), { S with ledger := reversedLedger now branchId idempotencyKey occurredAt S.ledger }) := by
  have hrun := run_zoom BillingStore.ledgerLens (reverseEntry now branchId idempotencyKey occurredAt) S
  exact run_attempt_bind_pure _ () S |>.trans (by rw [hrun]; rfl)

/-- **`reverseLedger` brings a key back to nothing.** -/
theorem reverses_ledger (occurredAt : Option ℤ) (hlinked : J.Linked) (h : UnusedOrBooked J branchId k) :
    KeepsOthers k J (reversedLedger now branchId k.text occurredAt J) ∧
      ∀ accountCode, (reversedLedger now branchId k.text occurredAt J).netOfKey k accountCode = 0 := by
  unfold reversedLedger reverseEntry
  rw [run_findEntryByKey_bind]
  rcases h with hunused | ⟨e, hbooked⟩
  · rw [hunused.entryByKey]
    exact ⟨.refl hlinked k, hunused.netOfKey⟩
  · obtain ⟨hmem, hbranch, -⟩ := mem_of_entryByKey hbooked.entry
    let opts := reversalOptions now k.text occurredAt
    have hreverse : opts.idempotencyKey = k.reverseText := rfl
    have hnone : J.entryByKey e.branchId opts.idempotencyKey = none := by
      rw [hbranch, hreverse, hbooked.reverse]
    have hstep := step_reverse_of_new (entryById_of_mem hlinked hmem) hnone now
    have hledger : ((do let _ ← reverse now e.id opts : GlProc Unit).run J).2 = J.reversed now e opts := by
      rw [← hstep]
      exact snd_run_bind_readOnly _ (fun _ => readOnly_pure _) J
    rw [hbooked.entry]
    rw [hledger]
    have hnet : ∀ k' accountCode, (J.reversed now e opts).netOfKey k' accountCode =
        J.netOfKey k' accountCode - if k' = k then J.effect e.id accountCode else 0 := by
      intro k' accountCode
      unfold GlStore.netOfKey
      rw [netWhere_reversed hlinked _ hmem now opts, hbooked.source]
      by_cases heq : k' = k
      · rw [heq, if_pos rfl, if_pos (decide_eq_true rfl)]
      · have htext : some k.text ≠ some k'.text := fun hsome =>
          heq (RecordKey.text_inj.mp (Option.some.inj hsome)).symm
        rw [if_neg heq, decide_eq_false htext, if_neg Bool.false_ne_true]
    have hothers : ∀ k' ≠ k, ∀ accountCode, (J.reversed now e opts).netOfKey k' accountCode =
        J.netOfKey k' accountCode := by
      intro k' hne accountCode
      rw [hnet, if_neg hne, sub_zero]
    refine ⟨⟨hlinked.reversed hmem now opts, fun k' hne hunused => ?_, fun k' hne branchId' => ?_, hothers⟩, ?_⟩
    · intro e' he'
      rw [entries_reversed hlinked hmem] at he'
      rcases List.mem_append.mp he' with hold | hnew
      · obtain ⟨e₀, he₀, rfl⟩ := List.mem_map.mp hold
        rw [linked_eq hlinked hmem he₀]
        exact hunused e₀ he₀
      · have htext : k.text ≠ k'.text := fun heq => hne (RecordKey.text_inj.mp heq).symm
        rw [List.mem_singleton.mp hnew]
        refine ⟨fun hsource => htext ?_, (RecordKey.text_ne_reverseText k' k).symm, fun heq => hne ?_⟩
        · exact Option.mem_unique hbooked.source hsource
        · exact (RecordKey.reverseText_inj.mp heq).symm
    · rintro ⟨e', hbooked'⟩
      have hfresh : e'.id ≠ J.nextEntryId := (hlinked.entryFresh e' (mem_of_entryByKey hbooked'.entry).1).ne
      obtain ⟨e'', hentry, hid, hsource⟩ := entryByKey_reversed hlinked hmem now opts hbooked'.entry
      refine ⟨e'', hentry, hsource.trans hbooked'.source, ?_, fun accountCode => ?_, ?_⟩
      · refine entryByKey_reversed_eq_none hlinked hmem now (fun heq => hne ?_) hbooked'.reverse
        exact (RecordKey.reverseText_inj.mp heq).symm
      · rw [hothers k' hne, hid, effect_reversed_of_ne now e opts hfresh, hbooked'.net]
      · obtain ⟨accountCode, hnonzero⟩ := hbooked'.net_ne
        exact ⟨accountCode, by rwa [hothers k' hne]⟩
    · intro accountCode
      rw [hnet, if_pos rfl, hbooked.net, sub_self]

end SuuqBackend
