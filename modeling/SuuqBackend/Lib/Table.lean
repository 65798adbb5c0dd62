import Mathlib.Data.Finmap
import Mathlib.Algebra.BigOperators.Group.Finset.Basic
import Mathlib.Algebra.Order.BigOperators.Group.Multiset
import Mathlib.Tactic.Abel

/-!
# Tables of a relational store

A `Table κ ν` is a finite map from keys to rows, Mathlib's `Finmap` at a constant family: two
tables are equal when they hold the same rows at the same keys (`Finmap.ext_lookup`).  `total f t`
is the sum of `f` over the rows of `t`, the aggregate of a query.

A `SerialTable ν` is a table with generated keys: `next` is the next key that the sequence hands
out, and `fresh` says that it is above every key in use, so `add` never overwrites a row.

* `total_insert`: writing a row moves the total by the difference of the new and the old row.
* `SerialTable.total_add`, `SerialTable.total_set`: the same for the two writes of a serial table.
-/

namespace SuuqBackend

/-- A finite map from keys to rows. -/
abbrev Table (κ ν : Type) : Type := Finmap fun _ : κ => ν

namespace Table

variable {κ ν M : Type} [DecidableEq κ]

/-- The sum of `f` over the rows of the table. -/
def total [AddCommMonoid M] (f : κ → ν → M) (t : Table κ ν) : M :=
  (t.entries.map fun e => f e.1 e.2).sum

omit [DecidableEq κ] in
@[simp] theorem total_empty [AddCommMonoid M] (f : κ → ν → M) : total f (∅ : Table κ ν) = 0 := rfl

variable {k : κ} {f : κ → ν → M}

variable {t : Table κ ν} {entries : Multiset (Σ _ : κ, ν)}

theorem total_insert_of_notMem [AddCommMonoid M] (f : κ → ν → M) (v : ν)
    (h : k ∉ t) : total f (t.insert k v) = f k v + total f t := by
  rw [total, Finmap.entries_insert_of_notMem h, Multiset.map_cons, Multiset.sum_cons, total]

omit [DecidableEq κ] in
theorem nodupKeys_filter (h : entries.NodupKeys) (p : ν → Bool) : (entries.filter fun e => p e.2).NodupKeys := by
  induction entries using Quotient.inductionOn with
  | h l =>
    have hsub : (l.filter fun e => decide (p e.2 = true)).NodupKeys :=
      List.NodupKeys.sublist List.filter_sublist (Multiset.coe_nodupKeys.mp h)
    exact Multiset.coe_nodupKeys.mpr hsub

/-- The rows that meet a condition. -/
def filter (p : ν → Bool) (t : Table κ ν) : Table κ ν where
  entries := t.entries.filter fun e => p e.2
  nodupKeys := nodupKeys_filter t.nodupKeys p

theorem lookup_filter (p : ν → Bool) (t : Table κ ν) (k : κ) : (t.filter p).lookup k = (t.lookup k).filter p := by
  refine Option.ext fun v => ?_
  have hiff : (t.filter p).lookup k = some v ↔ t.lookup k = some v ∧ p v = true := by
    rw [Finmap.lookup_eq_some_iff, Finmap.lookup_eq_some_iff]
    exact Multiset.mem_filter
  rw [hiff, Option.filter_eq_some_iff]

omit [DecidableEq κ] in
theorem nodupKeys_map (h : entries.NodupKeys) (f : κ → ν → ν) :
    (entries.map fun e => (⟨e.1, f e.1 e.2⟩ : Σ _ : κ, ν)).NodupKeys := by
  refine Multiset.nodup_keys.mp ?_
  have hkeys : (entries.map fun e => (⟨e.1, f e.1 e.2⟩ : Σ _ : κ, ν)).keys = entries.keys := by
    unfold Multiset.keys
    rw [Multiset.map_map]
    rfl
  rw [hkeys]
  exact h.nodup_keys

/-- Every row becomes what `f` makes of it. -/
def mapRows (f : κ → ν → ν) (t : Table κ ν) : Table κ ν where
  entries := t.entries.map fun e => ⟨e.1, f e.1 e.2⟩
  nodupKeys := nodupKeys_map t.nodupKeys f

theorem lookup_mapRows (f : κ → ν → ν) (t : Table κ ν) (k : κ) : (t.mapRows f).lookup k = (t.lookup k).map (f k) := by
  refine Option.ext fun v => ?_
  have hiff : (t.mapRows f).lookup k = some v ↔ ∃ w, t.lookup k = some w ∧ f k w = v := by
    rw [Finmap.lookup_eq_some_iff]
    constructor
    · intro h
      obtain ⟨⟨k', w⟩, hmem, heq⟩ := Multiset.mem_map.mp h
      cases heq
      exact ⟨w, Finmap.lookup_eq_some_iff.mpr hmem, rfl⟩
    · rintro ⟨w, hlookup, rfl⟩
      exact Multiset.mem_map.mpr ⟨⟨k, w⟩, Finmap.lookup_eq_some_iff.mp hlookup, rfl⟩
  rw [hiff, Option.map_eq_some_iff]

omit [DecidableEq κ] in
theorem total_mapRows [AddCommMonoid M] (g : κ → ν → M) (f : κ → ν → ν) (t : Table κ ν) :
    total g (t.mapRows f) = total (fun k v => g k (f k v)) t := by
  unfold total mapRows
  rw [Multiset.map_map]
  rfl

theorem insert_erase (t : Table κ ν) (k : κ) (v : ν) : (t.erase k).insert k v = t.insert k v := by
  refine Finmap.ext_lookup fun k' => ?_
  by_cases hk : k' = k
  · subst hk; rw [Finmap.lookup_insert, Finmap.lookup_insert]
  · rw [Finmap.lookup_insert_of_ne _ hk, Finmap.lookup_insert_of_ne _ hk, Finmap.lookup_erase_ne hk]

theorem insert_self {v : ν} (h : t.lookup k = some v) : t.insert k v = t := by
  refine Finmap.ext_lookup fun k' => ?_
  by_cases hk : k' = k
  · subst hk; rw [Finmap.lookup_insert, h]
  · rw [Finmap.lookup_insert_of_ne _ hk]

/-- Writing a row at `k` replaces what `k` contributed to the total. -/
theorem total_insert [AddCommGroup M] (f : κ → ν → M) (t : Table κ ν) (k : κ) (v : ν) :
    total f (t.insert k v) = total f t - (t.lookup k).elim 0 (f k) + f k v := by
  have hnot : k ∉ t.erase k := Finmap.notMem_erase_self
  have hnew : total f (t.insert k v) = f k v + total f (t.erase k) := by
    rw [← insert_erase, total_insert_of_notMem f v hnot]
  cases hk : t.lookup k with
  | none =>
    have hmem : k ∉ t := Finmap.lookup_eq_none.mp hk
    rw [total_insert_of_notMem f v hmem, Option.elim_none, sub_zero, add_comm]
  | some w =>
    have hold : total f t = f k w + total f (t.erase k) := by
      conv_lhs => rw [← insert_self hk, ← insert_erase, total_insert_of_notMem f w hnot]
    rw [hnew, hold, Option.elim_some]
    abel

/-- The total as a sum over keys, some of which may have no row. -/
theorem total_eq_sum [AddCommMonoid M] (f : κ → ν → M) {K : Finset κ} (hK : t.keys ⊆ K) :
    total f t = ∑ k ∈ K, (t.lookup k).elim 0 (f k) := by
  have hkeys : total f t = ∑ k ∈ t.keys, (t.lookup k).elim 0 (f k) := by
    show _ = ((t.entries.map Sigma.fst).map fun k => (t.lookup k).elim 0 (f k)).sum
    rw [Multiset.map_map]
    refine congrArg Multiset.sum (Multiset.map_congr rfl fun e he => ?_)
    have hlookup : t.lookup e.1 = some e.2 := Finmap.lookup_eq_some_iff.mpr he
    show f e.1 e.2 = (t.lookup e.1).elim 0 (f e.1)
    rw [hlookup, Option.elim_some]
  rw [hkeys]
  refine Finset.sum_subset hK fun k _ hk => ?_
  have hnone : t.lookup k = none := Finmap.lookup_eq_none.mpr fun hmem => hk (Finmap.mem_keys.mpr hmem)
  rw [hnone, Option.elim_none]

/-- Tables that contribute the same at every other key: their totals differ by what they contribute at that one. -/
theorem total_of_forall_ne [AddCommGroup M] {t' : Table κ ν}
    (h : ∀ k' ≠ k, (t'.lookup k').elim 0 (f k') = (t.lookup k').elim 0 (f k')) :
    total f t' = total f t - (t.lookup k).elim 0 (f k) + (t'.lookup k).elim 0 (f k) := by
  have hk : k ∈ insert k (t.keys ∪ t'.keys) := Finset.mem_insert_self _ _
  have hold := total_eq_sum f (Finset.subset_union_left.trans (Finset.subset_insert k (t.keys ∪ t'.keys)))
  have hnew := total_eq_sum f (Finset.subset_union_right.trans (Finset.subset_insert k (t.keys ∪ t'.keys)))
  rw [← Finset.add_sum_erase _ _ hk] at hold hnew
  rw [hold, hnew, Finset.sum_congr rfl fun k' hk' => h k' (Finset.ne_of_mem_erase hk')]
  abel

/-- The total depends only on what the rows of the table contribute. -/
theorem total_congr [AddCommMonoid M] {g : κ → ν → M}
    (h : ∀ k v, t.lookup k = some v → f k v = g k v) : total f t = total g t := by
  refine congrArg Multiset.sum (Multiset.map_congr rfl fun e he => ?_)
  exact h e.1 e.2 (Finmap.lookup_eq_some_iff.mpr he)

theorem total_eq_zero [AddCommMonoid M] (h : ∀ k v, t.lookup k = some v → f k v = 0) : total f t = 0 := by
  apply Multiset.sum_eq_zero
  intro x hx
  obtain ⟨e, he, rfl⟩ := Multiset.mem_map.mp hx
  exact h e.1 e.2 (Finmap.lookup_eq_some_iff.mpr he)

theorem total_le_total {f g : κ → ν → ℤ} (h : ∀ k v, t.lookup k = some v → f k v ≤ g k v) : total f t ≤ total g t := by
  refine Multiset.sum_map_le_sum_map _ _ fun e he => ?_
  exact h e.1 e.2 (Finmap.lookup_eq_some_iff.mpr he)

theorem total_nonneg {f : κ → ν → ℤ} (h : ∀ k v, t.lookup k = some v → 0 ≤ f k v) : 0 ≤ total f t := by
  refine Multiset.sum_nonneg fun x hx => ?_
  obtain ⟨e, he, rfl⟩ := Multiset.mem_map.mp hx
  exact h e.1 e.2 (Finmap.lookup_eq_some_iff.mpr he)

/-- A row contributes at most the total, when no row contributes a negative amount. -/
theorem le_total {f : κ → ν → ℤ} (h : ∀ k v, t.lookup k = some v → 0 ≤ f k v)
    {v : ν} (hk : t.lookup k = some v) : f k v ≤ total f t := by
  have hrest : 0 ≤ total f (t.erase k) := total_nonneg fun k' v' hk' => by
    by_cases hkk : k' = k
    · subst hkk; rw [Finmap.lookup_erase] at hk'; cases hk'
    · rw [Finmap.lookup_erase_ne hkk] at hk'; exact h k' v' hk'
  have hsplit : total f t = f k v + total f (t.erase k) := by
    conv_lhs => rw [← insert_self hk, ← insert_erase, total_insert_of_notMem f v Finmap.notMem_erase_self]
  omega

end Table

/-- A table whose keys are generated in increasing order. -/
structure SerialTable (ν : Type) where
  /-- The rows in the table. -/
  rows : Table ℕ ν
  /-- The next key to be generated. -/
  next : ℕ
  /-- Generated keys are never reused. -/
  fresh : ∀ id ∈ rows, id < next

namespace SerialTable

variable {ν M : Type}

/-- A table without rows. -/
def empty : SerialTable ν := ⟨∅, 1, fun _ h => absurd h Finmap.notMem_empty⟩

def find (t : SerialTable ν) (id : ℕ) : Option ν := t.rows.lookup id

/-- Insert a row under the next generated id. -/
def add (t : SerialTable ν) (v : ν) : SerialTable ν where
  rows := t.rows.insert t.next v
  next := t.next + 1
  fresh id h := by
    rcases Finmap.mem_insert.mp h with rfl | h
    · exact Nat.lt_succ_self _
    · exact Nat.lt_succ_of_lt (t.fresh id h)

/-- Replace the row with the given id; a no-op when there is none. -/
def set (t : SerialTable ν) (id : ℕ) (v : ν) : SerialTable ν where
  rows := if id ∈ t.rows then t.rows.insert id v else t.rows
  next := t.next
  fresh id' h := by
    split_ifs at h with hid
    · rcases Finmap.mem_insert.mp h with rfl | h
      · exact t.fresh _ hid
      · exact t.fresh _ h
    · exact t.fresh _ h

/-- Delete the row with the given id; a no-op when there is none. -/
def remove (t : SerialTable ν) (id : ℕ) : SerialTable ν where
  rows := t.rows.erase id
  next := t.next
  fresh id' h := t.fresh id' (Finmap.mem_erase.mp h).2

/-- Keep the rows that meet a condition. -/
def filter (p : ν → Bool) (t : SerialTable ν) : SerialTable ν where
  rows := t.rows.filter p
  next := t.next
  fresh id' h := by
    obtain ⟨v, hv⟩ := Finmap.mem_iff.mp h
    rw [Table.lookup_filter] at hv
    exact t.fresh id' (Finmap.mem_of_lookup_eq_some (Option.filter_eq_some_iff.mp hv).1)

/-- Every row becomes what `f` makes of it. -/
def mapRows (f : ℕ → ν → ν) (t : SerialTable ν) : SerialTable ν where
  rows := t.rows.mapRows f
  next := t.next
  fresh id' h := by
    obtain ⟨v, hv⟩ := Finmap.mem_iff.mp h
    rw [Table.lookup_mapRows] at hv
    obtain ⟨w, hw, -⟩ := Option.map_eq_some_iff.mp hv
    exact t.fresh id' (Finmap.mem_of_lookup_eq_some hw)

/-- The first row by id that meets a condition, with its id. -/
def first (t : SerialTable ν) (p : ν → Bool) : Option (ℕ × ν) := do
  let id ← (List.range t.next).find? fun id => (t.find id).any p
  let v ← t.find id
  return (id, v)

/-- The last row with a smaller id than `bound` that meets a condition, with its id. -/
def lastBelow (t : SerialTable ν) (p : ν → Bool) : ℕ → Option (ℕ × ν)
  | 0 => none
  | bound + 1 =>
    match (t.find bound).filter p with
    | some v => some (bound, v)
    | none => lastBelow t p bound

/-- The last row by id that meets a condition, with its id. -/
def last (t : SerialTable ν) (p : ν → Bool) : Option (ℕ × ν) := t.lastBelow p t.next

/-- The rows that meet a condition, with their ids, in the order of these. -/
def list (t : SerialTable ν) (p : ν → Bool) : List (ℕ × ν) :=
  (List.range t.next).filterMap fun id => ((t.find id).filter p).map fun v => (id, v)

def since (t : SerialTable ν) (id : ℕ) : List ν := (List.range' id (t.next - id)).filterMap t.find

/-- The sum of `f` over the rows of the table. -/
def total [AddCommMonoid M] (f : ν → M) (t : SerialTable ν) : M := t.rows.total fun _ v => f v

theorem next_notMem (t : SerialTable ν) : t.next ∉ t.rows :=
  fun h => Nat.lt_irrefl _ (t.fresh _ h)

@[simp] theorem find_next (t : SerialTable ν) : t.find t.next = none :=
  Finmap.lookup_eq_none.mpr t.next_notMem

variable {t : SerialTable ν} {id id' : ℕ} {v w : ν} {p : ν → Bool}

theorem mem_of_find (h : t.find id = some v) : id ∈ t.rows :=
  Finmap.mem_of_lookup_eq_some h

theorem lt_next_of_find (h : t.find id = some v) : id < t.next :=
  t.fresh id (mem_of_find h)

@[simp] theorem find_add_self (t : SerialTable ν) (v : ν) : (t.add v).find t.next = some v :=
  Finmap.lookup_insert _

theorem find_add_of_ne (t : SerialTable ν) (v : ν) (h : id ≠ t.next) : (t.add v).find id = t.find id :=
  Finmap.lookup_insert_of_ne _ h

theorem find_add_of_find (h : t.find id = some w) (v : ν) : (t.add v).find id = some w := by
  rw [find_add_of_ne t v (Nat.ne_of_lt (lt_next_of_find h)), h]

theorem find_set_self (h : t.find id = some w) (v : ν) : (t.set id v).find id = some v := by
  simp only [find, set, if_pos (mem_of_find h), Finmap.lookup_insert]

theorem find_set_of_eq_none (h : t.find id = none) (v : ν) : (t.set id v).find id = none := by
  have hmem : id ∉ t.rows := Finmap.lookup_eq_none.mp h
  simp only [find, set, if_neg hmem]
  exact h

theorem find_set_of_ne (t : SerialTable ν) (v : ν) (h : id' ≠ id) : (t.set id v).find id' = t.find id' := by
  unfold find set
  split_ifs
  · exact Finmap.lookup_insert_of_ne _ h
  · rfl

/-- A row that is replaced by itself. -/
theorem set_of_find (h : t.find id = some v) : t.set id v = t := by
  have hrows : (t.set id v).rows = t.rows := by
    show (if id ∈ t.rows then t.rows.insert id v else t.rows) = t.rows
    rw [if_pos (mem_of_find h), Table.insert_self h]
  unfold set at hrows ⊢
  simp only at hrows
  simp only [hrows]

/-- Without a row there is nothing to replace. -/
theorem set_of_eq_none (h : t.find id = none) (v : ν) : t.set id v = t := by
  have hrows : (t.set id v).rows = t.rows := if_neg (Finmap.lookup_eq_none.mp h)
  unfold set at hrows ⊢
  simp only at hrows
  simp only [hrows]

/-- Replacing a row neither adds nor deletes one. -/
theorem isSome_find_set (t : SerialTable ν) (id : ℕ) (v : ν) (id' : ℕ) :
    ((t.set id v).find id').isSome = (t.find id').isSome := by
  by_cases hid : id' = id
  · subst hid
    cases hfind : t.find id' with
    | none => rw [find_set_of_eq_none hfind]
    | some w => rw [find_set_self hfind, Option.isSome_some, Option.isSome_some]
  · rw [find_set_of_ne t v hid]

/-- A row after one is inserted is the new one or was there. -/
theorem eq_or_find_of_find_add (h : (t.add w).find id = some v) : (id = t.next ∧ v = w) ∨ t.find id = some v := by
  by_cases hid : id = t.next
  · subst hid
    rw [find_add_self] at h
    exact Or.inl ⟨rfl, (Option.some.inj h).symm⟩
  · rw [find_add_of_ne t w hid] at h
    exact Or.inr h

/-- A row after one is replaced is the new one or was there. -/
theorem eq_or_find_of_find_set (h : (t.set id w).find id' = some v) :
    (id' = id ∧ v = w) ∨ (id' ≠ id ∧ t.find id' = some v) := by
  by_cases hid : id' = id
  · subst hid
    cases hfind : t.find id' with
    | none =>
      rw [find_set_of_eq_none hfind] at h
      cases h
    | some u =>
      rw [find_set_self hfind] at h
      exact Or.inl ⟨rfl, (Option.some.inj h).symm⟩
  · rw [find_set_of_ne t w hid] at h
    exact Or.inr ⟨hid, h⟩

variable {Q : ν → Prop} {t' : SerialTable ν} {bound : ℕ} {f : ν → M}

/-- What all rows have, and the new one, all have after it is inserted. -/
theorem forall_find_add (h : ∀ id v, t.find id = some v → Q v)
    (hw : Q w) : ∀ id v, (t.add w).find id = some v → Q v := by
  intro id v hv
  rcases eq_or_find_of_find_add hv with ⟨-, rfl⟩ | hold
  · exact hw
  · exact h id v hold

/-- What all rows have, and the new one, all have after one is replaced. -/
theorem forall_find_set (h : ∀ id v, t.find id = some v → Q v) (id : ℕ)
    (hw : Q w) : ∀ id' v, (t.set id w).find id' = some v → Q v := by
  intro id' v hv
  rcases eq_or_find_of_find_set hv with ⟨-, rfl⟩ | ⟨-, hold⟩
  · exact hw
  · exact h id' v hold

/-- A row that is replaced as soon as it is inserted. -/
theorem set_add_next (t : SerialTable ν) (v w : ν) : (t.add v).set t.next w = t.add w := by
  have hrows : ((t.add v).set t.next w).rows = (t.add w).rows := by
    have hmem : t.next ∈ (t.add v).rows := mem_of_find (find_add_self t v)
    show (if t.next ∈ (t.add v).rows then (t.rows.insert t.next v).insert t.next w else _) = _
    rw [if_pos hmem]
    exact Finmap.insert_insert _
  unfold add set at hrows ⊢
  simp only at hrows
  simp only [hrows]

/-- The first row that meets a condition is the one with the least id. -/
theorem first_eq_some_iff    :
    t.first p = some (id, v) ↔ t.find id = some v ∧ p v = true ∧ ∀ id' < id, (t.find id').any p = false := by
  unfold first
  constructor
  · intro h
    obtain ⟨id', hid', h⟩ := Option.bind_eq_some_iff.mp h
    obtain ⟨v', hv', h⟩ := Option.bind_eq_some_iff.mp h
    cases h
    obtain ⟨hany, -, hbefore⟩ := List.find?_range_eq_some.mp hid'
    rw [hv'] at hany
    refine ⟨hv', hany, fun id'' hid'' => ?_⟩
    rw [← Bool.not_eq_true', hbefore id'' hid'']
  · rintro ⟨hfind, hv, hbefore⟩
    have hid : (List.range t.next).find? (fun id => (t.find id).any p) = some id := by
      refine List.find?_range_eq_some.mpr ⟨?_, List.mem_range.mpr (lt_next_of_find hfind), fun id' hid' => ?_⟩
      · rw [hfind, Option.any_some, hv]
      · rw [hbefore id' hid', Bool.not_false]
    rw [hid, Option.bind_eq_bind, Option.bind_some, hfind]
    rfl

theorem find_of_first (h : t.first p = some (id, v)) : t.find id = some v ∧ p v = true := by
  obtain ⟨hfind, hv, -⟩ := first_eq_some_iff.mp h
  exact ⟨hfind, hv⟩

/-- Without a first row that meets the condition there is none. -/
theorem any_find_of_first_eq_none (h : t.first p = none) (id : ℕ) : (t.find id).any p = false := by
  by_contra hany
  rw [Bool.not_eq_false] at hany
  have hmem : id ∈ List.range t.next := by
    cases hfind : t.find id with
    | none =>
      rw [hfind] at hany
      cases hany
    | some v => exact List.mem_range.mpr (lt_next_of_find hfind)
  have hsome : ((List.range t.next).find? fun id => (t.find id).any p).isSome :=
    List.find?_isSome.mpr ⟨id, hmem, hany⟩
  obtain ⟨id', hid'⟩ := Option.isSome_iff_exists.mp hsome
  have hany' : (t.find id').any p = true := (List.find?_range_eq_some.mp hid').1
  cases hfind : t.find id' with
  | none =>
    rw [hfind] at hany'
    cases hany'
  | some w =>
    unfold first at h
    rw [hid', Option.bind_eq_bind, Option.bind_some, hfind] at h
    cases h

/-- The first row depends only on the rows that meet the condition. -/
theorem first_congr (h : ∀ id, (t'.find id).filter p = (t.find id).filter p) : t'.first p = t.first p := by
  have hmeets : ∀ (t : SerialTable ν) id v,
      t.first p = some (id, v) ↔ (t.find id).filter p = some v ∧ ∀ id' < id, (t.find id').filter p = none := by
    intro t id v
    have hnone : ∀ id', (t.find id').any p = false ↔ (t.find id').filter p = none := by
      intro id'
      cases t.find id' with
      | none => exact iff_of_true rfl rfl
      | some w => simp
    rw [first_eq_some_iff, Option.filter_eq_some_iff, and_assoc]
    simp only [hnone]
  refine Option.ext fun found => ?_
  rw [hmeets, hmeets]
  simp only [h]

/-- The first row stays the first one while its new contents meet the condition. -/
theorem first_set (h : t.first p = some (id, v)) (hw : p w = true) : (t.set id w).first p = some (id, w) := by
  obtain ⟨hfind, -, hbefore⟩ := first_eq_some_iff.mp h
  refine first_eq_some_iff.mpr ⟨find_set_self hfind w, hw, fun id' hid' => ?_⟩
  rw [find_set_of_ne t w (Nat.ne_of_lt hid')]
  exact hbefore id' hid'

theorem first_add_of_eq_none (h : t.first p = none) (hv : p v = true) : (t.add v).first p = some (t.next, v) := by
  refine first_eq_some_iff.mpr ⟨find_add_self t v, hv, fun id' hid' => ?_⟩
  rw [find_add_of_ne t v (Nat.ne_of_lt hid')]
  exact any_find_of_first_eq_none h id'

/-- A new row comes after the first one. -/
theorem first_add (h : t.first p = some (id, v)) (w : ν) : (t.add w).first p = some (id, v) := by
  obtain ⟨hfind, hv, hbefore⟩ := first_eq_some_iff.mp h
  refine first_eq_some_iff.mpr ⟨find_add_of_find hfind w, hv, fun id' hid' => ?_⟩
  rw [find_add_of_ne t w (Nat.ne_of_lt (hid'.trans (lt_next_of_find hfind)))]
  exact hbefore id' hid'

theorem lastBelow_eq_some_iff :
    t.lastBelow p bound = some (id, v) ↔ id < bound ∧ (t.find id).filter p = some v ∧
      ∀ id', id < id' → id' < bound → (t.find id').filter p = none := by
  induction bound with
  | zero => exact iff_of_false (fun h => by cases h) fun h => Nat.not_lt_zero _ h.1
  | succ bound ih =>
    unfold lastBelow
    cases hbound : (t.find bound).filter p with
    | none =>
      rw [ih]
      constructor
      · rintro ⟨hid, hfind, hafter⟩
        refine ⟨Nat.lt_succ_of_lt hid, hfind, fun id' hid' hlt => ?_⟩
        rcases Nat.lt_succ_iff_lt_or_eq.mp hlt with hlt | rfl
        · exact hafter id' hid' hlt
        · exact hbound
      · rintro ⟨hid, hfind, hafter⟩
        have hne : id ≠ bound := by
          rintro rfl
          rw [hfind] at hbound
          cases hbound
        exact ⟨Nat.lt_of_le_of_ne (Nat.le_of_lt_succ hid) hne, hfind,
          fun id' hid' hlt => hafter id' hid' (Nat.lt_succ_of_lt hlt)⟩
    | some w =>
      constructor
      · intro h
        cases h
        exact ⟨Nat.lt_succ_self _, hbound, fun id' hid' hlt => absurd hid' (Nat.not_lt_of_le (Nat.le_of_lt_succ hlt))⟩
      · rintro ⟨hid, hfind, hafter⟩
        have heq : id = bound := by
          by_contra hne
          have hnone := hafter bound (Nat.lt_of_le_of_ne (Nat.le_of_lt_succ hid) hne) (Nat.lt_succ_self _)
          rw [hbound] at hnone
          cases hnone
        subst heq
        rw [hbound] at hfind
        cases hfind
        rfl

/-- The last row that meets a condition is the one with the greatest id. -/
theorem last_eq_some_iff    :
    t.last p = some (id, v) ↔ (t.find id).filter p = some v ∧ ∀ id', id < id' → (t.find id').filter p = none := by
  unfold last
  rw [lastBelow_eq_some_iff]
  constructor
  · rintro ⟨-, hfind, hafter⟩
    refine ⟨hfind, fun id' hid' => ?_⟩
    by_cases hlt : id' < t.next
    · exact hafter id' hid' hlt
    · cases hrow : t.find id' with
      | none => rfl
      | some w => exact absurd (lt_next_of_find hrow) hlt
  · rintro ⟨hfind, hafter⟩
    exact ⟨lt_next_of_find (Option.filter_eq_some_iff.mp hfind).1, hfind, fun id' hid' _ => hafter id' hid'⟩

theorem find_of_last (h : t.last p = some (id, v)) : t.find id = some v ∧ p v = true :=
  Option.filter_eq_some_iff.mp (last_eq_some_iff.mp h).1

theorem filter_of_lastBelow_eq_none
    (h : t.lastBelow p bound = none) (hid : id < bound) : (t.find id).filter p = none := by
  induction bound with
  | zero => exact absurd hid (Nat.not_lt_zero _)
  | succ bound ih =>
    unfold lastBelow at h
    cases hbound : (t.find bound).filter p with
    | none =>
      rw [hbound] at h
      rcases Nat.lt_succ_iff_lt_or_eq.mp hid with hlt | rfl
      · exact ih h hlt
      · exact hbound
    | some v =>
      rw [hbound] at h
      cases h

/-- Without a last row, no row meets the condition. -/
theorem filter_of_last_eq_none (h : t.last p = none) (id : ℕ) : (t.find id).filter p = none := by
  cases hrow : t.find id with
  | none => rfl
  | some v =>
    rw [← hrow]
    exact filter_of_lastBelow_eq_none h (lt_next_of_find hrow)

/-- What is seen of the last row depends only on what is seen of the rows, by functions that see the condition. -/
theorem last_map {β : Type} {q : β → Bool} {g g' : ν → β}
    (hq : ∀ v, q (g v) = p v) (hq' : ∀ v, q (g' v) = p v) (h : ∀ id, (t'.find id).map g' = (t.find id).map g) :
    (t'.last p).map (fun found => (found.1, g' found.2)) = (t.last p).map fun found => (found.1, g found.2) := by
  have hfilter : ∀ (o : Option ν) (f : ν → β), (∀ v, q (f v) = p v) → (o.filter p).map f = (o.map f).filter q := by
    intro o f hf
    cases o with
    | none => rfl
    | some v =>
      rw [Option.map_some, Option.filter_some, Option.filter_some, hf]
      split <;> rfl
  have hsame : ∀ id, ((t'.find id).filter p).map g' = ((t.find id).filter p).map g := fun id => by
    rw [hfilter _ _ hq', hfilter _ _ hq, h]
  have hnone : ∀ id, (t'.find id).filter p = none ↔ (t.find id).filter p = none := fun id => by
    rw [← Option.map_eq_none_iff (f := g'), hsame, Option.map_eq_none_iff]
  refine Option.ext fun ⟨id, b⟩ => ?_
  constructor
  · intro hmem
    obtain ⟨⟨id', v'⟩, hlast, heq⟩ := Option.map_eq_some_iff.mp hmem
    obtain ⟨rfl, rfl⟩ := Prod.mk.inj heq
    obtain ⟨hfind, hafter⟩ := last_eq_some_iff.mp hlast
    have hfound := hsame id'
    rw [hfind, Option.map_some, eq_comm, Option.map_eq_some_iff] at hfound
    obtain ⟨v, hv, hg⟩ := hfound
    have hlast' : t.last p = some (id', v) :=
      last_eq_some_iff.mpr ⟨hv, fun id'' hid => (hnone id'').mp (hafter id'' hid)⟩
    rw [hlast', Option.map_some, hg]
  · intro hmem
    obtain ⟨⟨id', v⟩, hlast, heq⟩ := Option.map_eq_some_iff.mp hmem
    obtain ⟨rfl, rfl⟩ := Prod.mk.inj heq
    obtain ⟨hfind, hafter⟩ := last_eq_some_iff.mp hlast
    have hfound := hsame id'
    rw [hfind, Option.map_some, Option.map_eq_some_iff] at hfound
    obtain ⟨v', hv', hg⟩ := hfound
    have hlast' : t'.last p = some (id', v') :=
      last_eq_some_iff.mpr ⟨hv', fun id'' hid => (hnone id'').mpr (hafter id'' hid)⟩
    rw [hlast', Option.map_some, hg]

/-- A new row that meets the condition is the last one. -/
theorem last_add (hv : p v = true) : (t.add v).last p = some (t.next, v) := by
  refine last_eq_some_iff.mpr ⟨?_, fun id hid => ?_⟩
  · rw [find_add_self, Option.filter_some, if_pos hv]
  · have hnone : t.find id = none := by
      by_contra hfind
      obtain ⟨w, hw⟩ := Option.ne_none_iff_exists'.mp hfind
      exact absurd (lt_next_of_find hw) (Nat.not_lt_of_lt hid)
    rw [find_add_of_ne t v (Nat.ne_of_gt hid), hnone]
    rfl

/-- The last row stays the last one while its new contents meet the condition. -/
theorem last_set (h : t.last p = some (id, v)) (hw : p w = true) : (t.set id w).last p = some (id, w) := by
  obtain ⟨hfind, hafter⟩ := last_eq_some_iff.mp h
  refine last_eq_some_iff.mpr ⟨?_, fun id' hid' => ?_⟩
  · rw [find_set_self (find_of_last h).1, Option.filter_some, if_pos hw]
  · rw [find_set_of_ne t w (Nat.ne_of_gt hid')]
    exact hafter id' hid'

@[simp] theorem since_next (t : SerialTable ν) : t.since t.next = [] := by
  unfold since
  rw [Nat.sub_self]
  rfl

@[simp] theorem since_add (t : SerialTable ν) (v : ν) : (t.add v).since t.next = [v] := by
  have hone : (t.add v).next - t.next = 1 := Nat.add_sub_cancel_left t.next 1
  unfold since
  rw [hone, List.range'_one, List.filterMap_cons, find_add_self]
  rfl

theorem mem_list_iff    : (id, v) ∈ t.list p ↔ t.find id = some v ∧ p v = true := by
  unfold list
  rw [List.mem_filterMap]
  constructor
  · rintro ⟨id', -, h⟩
    obtain ⟨v', hv', heq⟩ := Option.map_eq_some_iff.mp h
    cases heq
    exact Option.filter_eq_some_iff.mp hv'
  · intro h
    have hfiltered : (t.find id).filter p = some v := Option.filter_eq_some_iff.mpr h
    refine ⟨id, List.mem_range.mpr (lt_next_of_find h.1), ?_⟩
    rw [hfiltered]
    rfl

/-- A list has each row once. -/
theorem nodup_list (t : SerialTable ν) (p : ν → Bool) : ((t.list p).map Prod.fst).Nodup := by
  unfold list
  rw [List.map_filterMap]
  refine List.Nodup.filterMap (fun id id' b hb hb' => ?_) List.nodup_range
  obtain ⟨_, hrow, rfl⟩ := Option.map_eq_some_iff.mp hb
  obtain ⟨_, hrow', h⟩ := Option.map_eq_some_iff.mp hb'
  obtain ⟨_, _, rfl⟩ := Option.map_eq_some_iff.mp hrow
  obtain ⟨_, _, rfl⟩ := Option.map_eq_some_iff.mp hrow'
  exact h.symm

theorem find_remove_of_ne (t : SerialTable ν) (h : id' ≠ id) : (t.remove id).find id' = t.find id' :=
  Finmap.lookup_erase_ne h

@[simp] theorem find_remove_self (t : SerialTable ν) (id : ℕ) : (t.remove id).find id = none :=
  Finmap.lookup_erase id t.rows

theorem find_filter (t : SerialTable ν) (p : ν → Bool) (id : ℕ) : (t.filter p).find id = (t.find id).filter p :=
  Table.lookup_filter p t.rows id

theorem find_mapRows (f : ℕ → ν → ν) (t : SerialTable ν) (id : ℕ) : (t.mapRows f).find id = (t.find id).map (f id) :=
  Table.lookup_mapRows f t.rows id

@[simp] theorem next_mapRows (f : ℕ → ν → ν) (t : SerialTable ν) : (t.mapRows f).next = t.next := rfl

@[simp] theorem next_filter (t : SerialTable ν) (p : ν → Bool) : (t.filter p).next = t.next := rfl

@[simp] theorem next_remove (t : SerialTable ν) (id : ℕ) : (t.remove id).next = t.next := rfl

@[simp] theorem next_set (t : SerialTable ν) (id : ℕ) (v : ν) : (t.set id v).next = t.next := rfl

@[simp] theorem next_add (t : SerialTable ν) (v : ν) : (t.add v).next = t.next + 1 := rfl

theorem total_congr [AddCommMonoid M] {g : ν → M}
    (h : ∀ id v, t.find id = some v → f v = g v) : total f t = total g t :=
  Table.total_congr h

theorem total_eq_zero [AddCommMonoid M] (h : ∀ id v, t.find id = some v → f v = 0) : total f t = 0 :=
  Table.total_eq_zero h

theorem total_map {N : Type} [AddCommMonoid M] [AddCommMonoid N] (g : M →+ N) (f : ν → M)
    (t : SerialTable ν) : total (fun v => g (f v)) t = g (total f t) := by
  unfold total Table.total
  rw [map_multiset_sum, Multiset.map_map]
  rfl

theorem total_mapRows [AddCommMonoid M] (g : ν → M) (f : ℕ → ν → ν) (t : SerialTable ν) :
    total g (t.mapRows f) = t.rows.total fun id v => g (f id v) :=
  Table.total_mapRows _ f t.rows

theorem total_le_total {f g : ν → ℤ} (h : ∀ id v, t.find id = some v → f v ≤ g v) : total f t ≤ total g t :=
  Table.total_le_total h

/-- A row contributes at most the total, when no row contributes a negative amount. -/
theorem le_total {f : ν → ℤ} (h : ∀ id v, t.find id = some v → 0 ≤ f v) (hid : t.find id = some v) : f v ≤ total f t :=
  Table.le_total h hid

theorem total_add [AddCommMonoid M] (f : ν → M) (t : SerialTable ν) (v : ν) : total f (t.add v) = f v + total f t :=
  Table.total_insert_of_notMem _ v t.next_notMem

theorem total_set [AddCommGroup M] (f : ν → M)
    (h : t.find id = some w) (v : ν) : total f (t.set id v) = total f t - f w + f v := by
  simp only [total, set, if_pos (mem_of_find h), Table.total_insert]
  rw [show t.rows.lookup id = some w from h, Option.elim_some]

theorem total_remove [AddCommGroup M] (f : ν → M)
    (h : t.find id = some v) : total f (t.remove id) = total f t - f v := by
  have hsplit : total f t = f v + total f (t.remove id) := by
    unfold total remove
    conv_lhs => rw [← Table.insert_self h, ← Table.insert_erase,
      Table.total_insert_of_notMem _ v Finmap.notMem_erase_self]
  rw [hsplit, add_sub_cancel_left]

/-! ### Rows in sight

Where only the rows that meet a condition are seen, nothing is seen of a row that does not. -/

section Sight

variable {t : SerialTable ν} {p : ν → Bool} {id : ℕ} {v w : ν}

theorem filter_find_add (hv : p v = false) (id' : ℕ) : ((t.add v).find id').filter p = (t.find id').filter p := by
  by_cases hid : id' = t.next
  · rw [hid, find_add_self, find_next, Option.filter_some, hv]
    rfl
  · rw [find_add_of_ne t v hid]

theorem filter_find_set (hfind : t.find id = some w) (hw : p w = false) (hv : p v = false) (id' : ℕ) :
    ((t.set id v).find id').filter p = (t.find id').filter p := by
  by_cases hid : id' = id
  · rw [hid, find_set_self hfind, hfind, Option.filter_some, Option.filter_some, hv, hw]
    rfl
  · rw [find_set_of_ne t v hid]

theorem filter_find_remove (hfind : t.find id = some w) (hw : p w = false) (id' : ℕ) :
    ((t.remove id).find id').filter p = (t.find id').filter p := by
  by_cases hid : id' = id
  · rw [hid, find_remove_self, hfind, Option.filter_some, hw]
    rfl
  · rw [find_remove_of_ne t hid]

end Sight

theorem remove_of_eq_none {t : SerialTable ν} {id : ℕ} (h : t.find id = none) : t.remove id = t := by
  have hrows : (t.remove id).rows = t.rows := by
    refine Finmap.ext_lookup fun id' => ?_
    by_cases hid : id' = id
    · subst hid
      exact (Finmap.lookup_erase _ _).trans h.symm
    · exact Finmap.lookup_erase_ne hid
  unfold remove at hrows ⊢
  simp only at hrows
  simp only [hrows]

end SerialTable

end SuuqBackend
