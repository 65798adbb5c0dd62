import Mathlib.Algebra.BigOperators.Group.List.Basic
import Mathlib.Data.List.Dedup
import Mathlib.Data.List.Sort

/-!
# Sums over lists

The rows of a list are put into groups by a key, as `GROUP BY` does.  The sums of the groups add up to
the sum of all rows, whenever the keys that are listed cover the rows and are listed once.

* `sum_map_neg`, `sum_map_sub`: sums of negated rows and of differences.
* `sum_groups`: the sum of the sums of the groups.
* `groupSum_of_nodup`: the sum of a group with one row.
* `sum_eq_zero_of_groups`: when each group sums to zero, all rows do.
* `lookup_map_mk`: looking up a key in the table of the groups.
-/

namespace SuuqBackend

section Sums

variable {β G : Type*} [AddCommGroup G] (f g : β → G) (xs : List β)

theorem sum_map_neg : (xs.map fun x => -f x).sum = -(xs.map f).sum := by
  rw [List.sum_neg, List.map_map]
  rfl

theorem sum_map_sub : (xs.map fun x => f x - g x).sum = (xs.map f).sum - (xs.map g).sum := by
  simp only [sub_eq_add_neg]
  rw [List.sum_map_add, sum_map_neg]

end Sums

/-! ### Groups -/

variable {α κ M : Type*} [DecidableEq κ] [AddCommMonoid M]

/-- The sum of `v` over the rows of one group. -/
def groupSum (key : α → κ) (v : α → M) (rows : List α) (k : κ) : M :=
  ((rows.filter fun x => key x = k).map v).sum

variable {key : α → κ} {v : α → M}

@[simp] theorem groupSum_nil (k : κ) : groupSum key v [] k = 0 := rfl

theorem groupSum_cons (x : α) (rows : List α) (k : κ) :
    groupSum key v (x :: rows) k = (if key x = k then v x else 0) + groupSum key v rows k := by
  unfold groupSum
  by_cases h : key x = k
  · rw [List.filter_cons_of_pos (by simpa using h), List.map_cons, List.sum_cons, if_pos h]
  · rw [List.filter_cons_of_neg (by simpa using h), if_neg h, zero_add]

/-- A key that is listed once receives the value once. -/
theorem sum_map_ite_eq {keys : List κ} (hnodup : keys.Nodup) {k : κ} (hk : k ∈ keys) (m : M) :
    (keys.map fun k' => if k = k' then m else 0).sum = m := by
  induction keys with
  | nil => cases hk
  | cons k' keys ih =>
    obtain ⟨hnot, hrest⟩ := List.nodup_cons.mp hnodup
    rw [List.map_cons, List.sum_cons]
    by_cases heq : k = k'
    · subst heq
      have hzero : ∀ x ∈ keys.map fun k' => if k = k' then m else 0, x = 0 := by
        intro x hx
        obtain ⟨k', hk', rfl⟩ := List.mem_map.mp hx
        have hne : k ≠ k' := by
          rintro rfl
          exact hnot hk'
        exact if_neg hne
      rw [if_pos rfl, List.sum_eq_zero hzero, add_zero]
    · have hmem : k ∈ keys := (List.mem_cons.mp hk).resolve_left heq
      rw [if_neg heq, zero_add, ih hrest hmem]

variable {rows : List α}

/-- **The sums of the groups add up to the sum of all rows.** -/
theorem sum_groups {keys : List κ} (hnodup : keys.Nodup)
    (hcover : ∀ x ∈ rows, key x ∈ keys) : (keys.map (groupSum key v rows)).sum = (rows.map v).sum := by
  induction rows with
  | nil =>
    refine List.sum_eq_zero fun x hx => ?_
    obtain ⟨k, -, rfl⟩ := List.mem_map.mp hx
    rfl
  | cons x rows ih =>
    have hrest := ih fun y hy => hcover y (List.mem_cons_of_mem _ hy)
    have hsplit : groupSum key v (x :: rows) = fun k => (if key x = k then v x else 0) + groupSum key v rows k :=
      funext fun k => groupSum_cons x rows k
    rw [hsplit, List.sum_map_add, sum_map_ite_eq hnodup (hcover x List.mem_cons_self), hrest,
      List.map_cons, List.sum_cons]

theorem groupSum_of_nodup (hnodup : (rows.map key).Nodup) {x : α} (hx : x ∈ rows) :
    groupSum key v rows (key x) = v x := by
  induction rows with
  | nil => cases hx
  | cons y rows ih =>
    obtain ⟨hnot, hrest⟩ := List.nodup_cons.mp hnodup
    rw [groupSum_cons]
    rcases List.mem_cons.mp hx with rfl | hmem
    · have hzero : groupSum key v rows (key x) = 0 := by
        have hfilter : rows.filter (fun y => key y = key x) = [] := by
          rw [List.filter_eq_nil_iff]
          intro y hy hkey
          exact hnot (List.mem_map.mpr ⟨y, hy, of_decide_eq_true hkey⟩)
        rw [groupSum, hfilter, List.map_nil, List.sum_nil]
      rw [if_pos rfl, hzero, add_zero]
    · have hne : key y ≠ key x := by
        intro hkey
        exact hnot (List.mem_map.mpr ⟨x, hmem, hkey.symm⟩)
      rw [if_neg hne, zero_add, ih hrest hmem]

theorem sum_eq_zero_of_groups (h : ∀ k, groupSum key v rows k = 0) : (rows.map v).sum = 0 := by
  have hcover : ∀ x ∈ rows, key x ∈ (rows.map key).dedup := fun x hx =>
    List.mem_dedup.mpr (List.mem_map_of_mem hx)
  rw [← sum_groups (List.nodup_dedup _) hcover]
  refine List.sum_eq_zero fun x hx => ?_
  obtain ⟨k, -, rfl⟩ := List.mem_map.mp hx
  exact h k

omit [AddCommMonoid M] in
/-- A key is found in the table of the groups exactly when it is listed. -/
theorem lookup_map_mk (f : κ → M) (keys : List κ) (k : κ) :
    (keys.map fun k => (k, f k)).lookup k = if k ∈ keys then some (f k) else none := by
  induction keys with
  | nil => rfl
  | cons k' keys ih =>
    rw [List.map_cons]
    by_cases heq : k = k'
    · subst heq
      rw [List.lookup_cons_self, if_pos List.mem_cons_self]
    · have hbeq : (k == k') = false := beq_false_of_ne heq
      rw [List.lookup_cons, hbeq, ih]
      simp only [List.mem_cons, heq, false_or]

/-!
## The first of a sorted list

A list that is sorted by a key with the greatest first, and keeps the order of equal ones, begins with the first one of
its greatest entries (`head?_insertionSort_eq_some_iff`).
-/

variable {α β : Type*} [LinearOrder β] (key : α → β)

def FirstGreatest (rows : List α) (found : α) : Prop :=
  ∃ before after, rows = before ++ found :: after ∧ (∀ other ∈ before, key other < key found) ∧
    ∀ other ∈ after, key other ≤ key found

namespace FirstGreatest

variable {key} {rows : List α} {row found : α}

theorem mem (h : FirstGreatest key rows found) : found ∈ rows := by
  obtain ⟨before, after, rfl, -⟩ := h
  exact List.mem_append_right _ List.mem_cons_self

theorem key_le (h : FirstGreatest key rows found) : ∀ other ∈ rows, key other ≤ key found := by
  obtain ⟨before, after, rfl, hbefore, hafter⟩ := h
  intro other hother
  rcases List.mem_append.mp hother with hmem | hmem
  · exact (hbefore other hmem).le
  · rcases List.mem_cons.mp hmem with rfl | hmem
    · exact le_rfl
    · exact hafter other hmem

theorem cons_iff : FirstGreatest key (row :: rows) found ↔
    (found = row ∧ ∀ other ∈ rows, key other ≤ key row) ∨ key row < key found ∧ FirstGreatest key rows found := by
  constructor
  · rintro ⟨before, after, hrows, hbefore, hafter⟩
    cases before with
    | nil =>
      obtain ⟨rfl, rfl⟩ := List.cons.inj hrows
      exact .inl ⟨rfl, hafter⟩
    | cons first before =>
      obtain ⟨rfl, rfl⟩ := List.cons.inj hrows
      exact .inr ⟨hbefore row List.mem_cons_self, before, after, rfl,
        fun other hother => hbefore other (List.mem_cons_of_mem _ hother), hafter⟩
  · rintro (⟨rfl, hall⟩ | ⟨hlt, before, after, rfl, hbefore, hafter⟩)
    · exact ⟨[], rows, rfl, nofun, hall⟩
    · refine ⟨row :: before, after, rfl, fun other hother => ?_, hafter⟩
      rcases List.mem_cons.mp hother with rfl | hother
      · exact hlt
      · exact hbefore other hother

end FirstGreatest

theorem head?_insertionSort_eq_some_iff {rows : List α} {found : α} :
    (rows.insertionSort fun left right => key right ≤ key left).head? = some found ↔ FirstGreatest key rows found := by
  induction rows generalizing found with
  | nil => exact iff_of_false (fun h => nomatch h) fun h => nomatch h.mem
  | cons row rows ih =>
    rw [FirstGreatest.cons_iff, List.insertionSort_cons, ← ih]
    cases hsorted : rows.insertionSort fun left right => key right ≤ key left with
    | nil =>
      have hrows : rows = [] := by
        rw [← List.length_eq_zero_iff, ← List.length_insertionSort (fun left right => key right ≤ key left), hsorted,
          List.length_nil]
      subst hrows
      constructor
      · intro h
        exact .inl ⟨(Option.some.inj h).symm, nofun⟩
      · rintro (⟨rfl, -⟩ | ⟨-, h⟩)
        · rfl
        · cases h
    | cons first rest =>
      have hfirst : FirstGreatest key rows first := ih.mp (by rw [hsorted]; rfl)
      rw [List.orderedInsert_cons]
      split_ifs with hle
      · constructor
        · intro h
          obtain rfl := Option.some.inj h
          exact .inl ⟨rfl, fun other hother => (hfirst.key_le other hother).trans hle⟩
        · rintro (⟨rfl, -⟩ | ⟨hlt, h⟩)
          · rfl
          · obtain rfl := Option.some.inj h
            exact absurd hle (not_le.mpr hlt)
      · constructor
        · intro h
          obtain rfl := Option.some.inj h
          exact .inr ⟨not_le.mp hle, rfl⟩
        · rintro (⟨rfl, hall⟩ | ⟨-, h⟩)
          · exact absurd (hall first hfirst.mem) hle
          · exact h

end SuuqBackend
