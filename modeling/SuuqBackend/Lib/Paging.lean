import Mathlib.Data.List.Basic
import Mathlib.Order.Lattice
import Mathlib.Order.Nat

/-!
# Listings that are read page by page

The rows of a listing descend strictly in a key.  A page shows the first `size` of the rows that are left; while there
are more, it names a cursor made from the last row shown, and the next page is made from the rows whose key is below
the bound of that cursor.

* `Follows`: the pages that are read from a cursor on until one names no cursor.  There is always exactly one such list
  of pages (`Follows.unique`, `Keyset.exists_follows`).
* `Keyset.Seamless`: where a page ends, the next row is below the bound of the cursor.
* `Keyset.flatMap_follows`: in a seamless listing the pages show every row once, in order.
* `Keyset.flatMap_follows_iff`: pages that show each row as a row of its own do so only in a seamless listing.
* `Keyset.seamless_of_exact`: cursors that bound exactly are seamless.
-/

namespace SuuqBackend.Paging

variable {α β γ κ π : Type*}

/-- The pages that are read from a cursor on, until one names no next cursor. -/
inductive Follows (fetch : Option γ → Option π) (nextCursor : π → Option γ) : Option γ → List π → Prop
  | last {cursor : Option γ} {page : π} (fetched : fetch cursor = some page) (ends : nextCursor page = none) :
      Follows fetch nextCursor cursor [page]
  | next {cursor : Option γ} {page : π} {cursor' : γ} {pages : List π} (fetched : fetch cursor = some page)
      (goesOn : nextCursor page = some cursor') (rest : Follows fetch nextCursor (some cursor') pages) :
      Follows fetch nextCursor cursor (page :: pages)

variable {rows : List α} {le : α → α → Bool} {key : α → κ}

/-- What holds of a row holds of those after it: the rows that it holds of are the last ones. -/
theorem filter_isSuffix {p : α → Bool} (h : rows.Pairwise fun a b => p a → p b) : rows.filter p <:+ rows := by
  induction rows with
  | nil => exact List.suffix_refl []
  | cons row rows ih =>
    obtain ⟨hrow, hrows⟩ := List.pairwise_cons.mp h
    by_cases hp : p row
    · have hall : (row :: rows).filter p = row :: rows := by
        refine List.filter_eq_self.mpr fun other hmem => ?_
        rcases List.mem_cons.mp hmem with rfl | hmem
        · exact hp
        · exact hrow other hmem hp
      exact ⟨[], (List.nil_append _).trans hall⟩
    · rw [List.filter_cons_of_neg hp]
      exact (ih hrows).trans (List.suffix_cons row rows)

/-- Rows with different keys, sorted by these, descend strictly. -/
theorem pairwise_mergeSort_key [LinearOrder κ]
    (hle : ∀ a b, le a b = true ↔ key b ≤ key a) (hnodup : (rows.map key).Nodup) :
    (rows.mergeSort le).Pairwise fun a b => key b < key a := by
  have hsorted : (rows.mergeSort le).Pairwise fun a b => le a b = true := by
    refine List.pairwise_mergeSort (fun a b c hab hbc => ?_) (fun a b => ?_) rows
    · exact (hle a c).mpr (((hle b c).mp hbc).trans ((hle a b).mp hab))
    · rw [Bool.or_eq_true, hle, hle]
      exact le_total (key b) (key a)
  have hdistinct : (rows.mergeSort le).Pairwise fun a b => key a ≠ key b :=
    List.pairwise_map.mp (((List.mergeSort_perm rows le).map key).nodup_iff.mpr hnodup)
  exact (hsorted.and hdistinct).imp fun {a b} h => lt_of_le_of_ne ((hle a b).mp h.1) (Ne.symm h.2)

theorem mergeSort_eq_of_perm [LinearOrder κ]
    (hle : ∀ a b, le a b = true ↔ key b ≤ key a) {sorted : List α} (hperm : rows.Perm sorted)
    (hsorted : sorted.Pairwise fun a b => key b < key a) : rows.mergeSort le = sorted := by
  have hkeys : (sorted.map key).Nodup := List.pairwise_map.mpr (hsorted.imp fun {a b} hlt => ne_of_gt hlt)
  have hrows : (rows.map key).Nodup := (hperm.map key).nodup_iff.mpr hkeys
  refine ((List.mergeSort_perm rows le).trans hperm).eq_of_pairwise (fun a b _ _ hba hab => ?_)
    (pairwise_mergeSort_key hle hrows) hsorted
  exact absurd hab hba.asymm

/-- A listing in descending order of its keys, and the pages that are made of it. -/
structure Keyset (α κ γ π : Type*) [LinearOrder κ] where
  rows : List α
  key : α → κ
  sorted : rows.Pairwise fun a b => key b < key a
  size : ℕ
  size_pos : 0 < size
  cursorOf : α → γ
  /-- The keys below this one come after the cursor. -/
  bound : γ → κ
  bound_le : ∀ row ∈ rows, bound (cursorOf row) ≤ key row
  /-- The page from the rows that are left. -/
  page : Option γ → List α → π
  nextCursor : π → Option γ
  nextCursor_page : ∀ cursor left, nextCursor (page cursor left) =
    if size < left.length then (left.take size).getLast?.map cursorOf else none
  fetch : Option γ → Option π
  fetch_none : fetch none = some (page none rows)
  fetch_some : ∀ row ∈ rows, fetch (some (cursorOf row)) =
    some (page (some (cursorOf row)) (rows.filter fun other => key other < bound (cursorOf row)))

namespace Keyset

variable [LinearOrder κ] (K : Keyset α κ γ π)

/-- Where a page of these rows ends, the next row is below the bound of the cursor. -/
def Seamless (left : List α) : Prop :=
  ∀ k last next, left[k * K.size + (K.size - 1)]? = some last → left[(k + 1) * K.size]? = some next →
    K.key next < K.bound (K.cursorOf last)

/-- The page that is fetched is made from these rows, and they are the last ones of the listing. -/
structure Reads (cursor : Option γ) (left : List α) : Prop where
  fetched : K.fetch cursor = some (K.page cursor left)
  suffix : left <:+ K.rows

variable {K} {cursor : Option γ} {left : List α} {pages : List π}

theorem reads_rows : K.Reads none K.rows := ⟨K.fetch_none, List.suffix_refl _⟩

theorem nextCursor_page_eq_none (h : left.length ≤ K.size) : K.nextCursor (K.page cursor left) = none := by
  rw [K.nextCursor_page, if_neg (by omega)]

variable (cursor) in
theorem nextCursor_page_eq_some (h : K.size < left.length) :
    ∃ last, left[K.size - 1]? = some last ∧ (left.take K.size).getLast? = some last ∧
      K.nextCursor (K.page cursor left) = some (K.cursorOf last) := by
  have hpos := K.size_pos
  have hlast : (left.take K.size).getLast? = left[K.size - 1]? := by
    rw [List.getLast?_eq_getElem?, List.length_take, min_eq_left h.le, List.getElem?_take_of_lt (by omega)]
  obtain ⟨last, hget⟩ : ∃ last, left[K.size - 1]? = some last :=
    ⟨_, List.getElem?_eq_getElem (by omega)⟩
  refine ⟨last, hget, hlast.trans hget, ?_⟩
  rw [K.nextCursor_page, if_pos h, hlast, hget]
  rfl

theorem suffix_after (c : γ) : (K.rows.filter fun other => K.key other < K.bound c) <:+ K.rows := by
  refine filter_isSuffix (K.sorted.imp fun {a b} hlt ha => ?_)
  exact decide_eq_true (hlt.trans (of_decide_eq_true ha))

/-- Nothing that has been shown comes after the cursor of a page. -/
theorem suffix_drop (hleft : left <:+ K.rows) {last : α} (hlast : (left.take K.size).getLast? = some last) :
    (K.rows.filter fun other => K.key other < K.bound (K.cursorOf last)) <:+ left.drop K.size := by
  obtain ⟨front, hrows⟩ := hleft
  obtain ⟨shown, hshown⟩ := List.getLast?_eq_some_iff.mp hlast
  have hsplit : K.rows = (front ++ shown ++ [last]) ++ left.drop K.size := by
    rw [← hrows, List.append_assoc front, ← hshown, List.append_assoc, List.take_append_drop]
  have hsorted := K.sorted
  rw [hsplit, List.pairwise_append] at hsorted
  have hbound : K.bound (K.cursorOf last) ≤ K.key last := by
    refine K.bound_le last ?_
    rw [hsplit]
    simp
  have hnone : ((front ++ shown ++ [last]).filter fun other => K.key other < K.bound (K.cursorOf last)) = [] := by
    refine List.filter_eq_nil_iff.mpr fun other hmem => ?_
    have hle : K.key last ≤ K.key other := by
      rcases List.mem_append.mp hmem with hmem | hmem
      · exact ((List.pairwise_append.mp hsorted.1).2.2 other hmem last (List.mem_singleton_self last)).le
      · rw [List.mem_singleton.mp hmem]
    simpa using hbound.trans hle
  rw [hsplit, List.filter_append, hnone]
  exact filter_isSuffix (hsorted.2.1.imp fun {a b} hlt ha => decide_eq_true (hlt.trans (of_decide_eq_true ha)))

/-- **After a seam** the rest of the rows is read. -/
theorem filter_eq_drop (hleft : left <:+ K.rows) {last next : α} (hlast : (left.take K.size).getLast? = some last)
    (hnext : left[K.size]? = some next) (hseam : K.key next < K.bound (K.cursorOf last)) :
    (K.rows.filter fun other => K.key other < K.bound (K.cursorOf last)) = left.drop K.size := by
  have hsuffix := suffix_drop hleft hlast
  refine hsuffix.sublist.antisymm ?_
  have hrest : left.drop K.size <:+ K.rows := (List.drop_suffix _ _).trans hleft
  have hall : (left.drop K.size).filter (fun other => K.key other < K.bound (K.cursorOf last)) = left.drop K.size := by
    refine List.filter_eq_self.mpr fun other hmem => decide_eq_true ?_
    have hcons : left.drop K.size = next :: left.drop (K.size + 1) := by
      obtain ⟨hlt, rfl⟩ := List.getElem?_eq_some_iff.mp hnext
      exact List.drop_eq_getElem_cons hlt
    have hsorted := K.sorted.sublist hrest.sublist
    rw [hcons] at hmem hsorted
    rcases List.mem_cons.mp hmem with rfl | hmem
    · exact hseam
    · exact ((List.pairwise_cons.mp hsorted).1 other hmem).trans hseam
  rw [← hall]
  exact hrest.sublist.filter _

theorem Reads.next (h : K.Reads cursor left) {last : α} (hlast : (left.take K.size).getLast? = some last) :
    K.Reads (some (K.cursorOf last)) (K.rows.filter fun other => K.key other < K.bound (K.cursorOf last)) := by
  have hmem : last ∈ K.rows := h.suffix.mem (List.mem_of_mem_take (List.mem_of_getLast? hlast))
  exact ⟨K.fetch_some last hmem, suffix_after _⟩

theorem Reads.next_of_seam (h : K.Reads cursor left) {last next : α} (hlast : (left.take K.size).getLast? = some last)
    (hnext : left[K.size]? = some next) (hseam : K.key next < K.bound (K.cursorOf last)) :
    K.Reads (some (K.cursorOf last)) (left.drop K.size) := by
  have hreads := h.next hlast
  rwa [filter_eq_drop h.suffix hlast hnext hseam] at hreads

/-- **The pages end.** -/
theorem Reads.exists_follows (h : K.Reads cursor left) : ∃ pages, Follows K.fetch K.nextCursor cursor pages := by
  induction hn : left.length using Nat.strong_induction_on generalizing cursor left with
  | _ n ih =>
    by_cases hle : left.length ≤ K.size
    · exact ⟨_, .last h.fetched (nextCursor_page_eq_none hle)⟩
    · have hpos := K.size_pos
      obtain ⟨last, -, hlast, hcursor⟩ := nextCursor_page_eq_some cursor (not_le.mp hle)
      have hshort := (suffix_drop h.suffix hlast).length_le
      rw [List.length_drop] at hshort
      obtain ⟨pages, hpages⟩ := ih _ (by omega) (h.next hlast) rfl
      exact ⟨_, .next h.fetched hcursor hpages⟩

variable (K) in
theorem exists_follows : ∃ pages, Follows K.fetch K.nextCursor none pages := reads_rows.exists_follows

theorem Reads.cases_follows (h : K.Reads cursor left) (hpages : Follows K.fetch K.nextCursor cursor pages) :
    (left.length ≤ K.size ∧ pages = [K.page cursor left]) ∨
      ∃ last next rest, left[K.size - 1]? = some last ∧ (left.take K.size).getLast? = some last ∧
        left[K.size]? = some next ∧ pages = K.page cursor left :: rest ∧
        Follows K.fetch K.nextCursor (some (K.cursorOf last)) rest := by
  cases hpages with
  | last fetched ends =>
    obtain rfl := Option.mem_unique h.fetched fetched
    by_cases hle : left.length ≤ K.size
    · exact .inl ⟨hle, rfl⟩
    · obtain ⟨last, -, -, hcursor⟩ := nextCursor_page_eq_some cursor (not_le.mp hle)
      rw [hcursor] at ends
      cases ends
  | next fetched goesOn rest =>
    obtain rfl := Option.mem_unique h.fetched fetched
    by_cases hle : left.length ≤ K.size
    · rw [nextCursor_page_eq_none hle] at goesOn
      cases goesOn
    · obtain ⟨last, hget, hlast, hcursor⟩ := nextCursor_page_eq_some cursor (not_le.mp hle)
      obtain rfl := Option.mem_unique hcursor goesOn
      exact .inr ⟨last, _, _, hget, hlast, List.getElem?_eq_getElem (not_le.mp hle), rfl, rest⟩

/-! ### Seamless listings -/

theorem Seamless.drop (h : K.Seamless left) : K.Seamless (left.drop K.size) := by
  intro k last next hlast hnext
  rw [List.getElem?_drop] at hlast hnext
  refine h (k + 1) last next ?_ ?_
  · rw [← hlast, Nat.succ_mul]
    congr 1
    omega
  · rw [← hnext, Nat.succ_mul]
    congr 1
    omega

/-- The first seam. -/
theorem Seamless.head (h : K.Seamless left) {last next : α} (hlast : left[K.size - 1]? = some last)
    (hnext : left[K.size]? = some next) : K.key next < K.bound (K.cursorOf last) := by
  refine h 0 last next ?_ ?_
  · rwa [Nat.zero_mul, Nat.zero_add]
  · rwa [Nat.one_mul]

theorem seamless_of_head (hhead : ∀ last next, left[K.size - 1]? = some last → left[K.size]? = some next →
    K.key next < K.bound (K.cursorOf last)) (hrest : K.Seamless (left.drop K.size)) : K.Seamless left := by
  intro k last next hlast hnext
  cases k with
  | zero =>
    rw [Nat.zero_mul, Nat.zero_add] at hlast
    rw [Nat.one_mul] at hnext
    exact hhead last next hlast hnext
  | succ k =>
    refine hrest k last next ?_ ?_
    · rw [List.getElem?_drop, ← hlast, Nat.succ_mul]
      congr 1
      omega
    · rw [List.getElem?_drop, ← hnext, Nat.succ_mul (k + 1)]
      congr 1
      omega

theorem seamless_of_exact (h : ∀ row ∈ K.rows, K.bound (K.cursorOf row) = K.key row) : K.Seamless K.rows := by
  intro k last next hlast hnext
  have hpos := K.size_pos
  obtain ⟨hlt, rfl⟩ := List.getElem?_eq_some_iff.mp hlast
  obtain ⟨hlt', rfl⟩ := List.getElem?_eq_some_iff.mp hnext
  rw [h _ (List.getElem_mem hlt)]
  refine List.pairwise_iff_getElem.mp K.sorted _ _ hlt hlt' ?_
  rw [Nat.succ_mul]
  omega

/-- **Every page** is made from the rows that the pages before it have left. -/
theorem Reads.drop (h : K.Reads cursor left) (hseamless : K.Seamless left)
    (hpages : Follows K.fetch K.nextCursor cursor pages) {k : ℕ} (hk : k < pages.length) :
    ∃ cursor', K.Reads cursor' (left.drop (k * K.size)) ∧ K.Seamless (left.drop (k * K.size)) ∧
      Follows K.fetch K.nextCursor cursor' (pages.drop k) := by
  induction k generalizing cursor left pages with
  | zero => exact ⟨cursor, by simpa using h, by simpa using hseamless, by simpa using hpages⟩
  | succ k ih =>
    rcases h.cases_follows hpages with ⟨-, rfl⟩ | ⟨last, next, rest, hget, hlast, hnext, rfl, hrest⟩
    · simp at hk
    · have hreads := h.next_of_seam hlast hnext (hseamless.head hget hnext)
      obtain ⟨cursor', hdrop⟩ := ih hreads hseamless.drop hrest (by simpa using hk)
      rw [List.drop_drop, Nat.add_comm, ← Nat.succ_mul] at hdrop
      exact ⟨cursor', hdrop⟩

variable {shows : π → List β}

/-- **What the pages show** of a seamless listing is what its rows show. -/
theorem Reads.flatMap_follows (h : K.Reads cursor left) (hseamless : K.Seamless left)
    {shown : α → List β} (hshows : ∀ cursor left, shows (K.page cursor left) = (left.take K.size).flatMap shown)
    (hpages : Follows K.fetch K.nextCursor cursor pages) : pages.flatMap shows = left.flatMap shown := by
  induction hn : left.length using Nat.strong_induction_on generalizing cursor left pages with
  | _ n ih =>
    have hpos := K.size_pos
    rcases h.cases_follows hpages with ⟨hle, rfl⟩ | ⟨last, next, rest, hget, hlast, hnext, rfl, hrest⟩
    · rw [List.flatMap_singleton, hshows, List.take_of_length_le hle]
    · have hlt : K.size < left.length := (List.getElem?_eq_some_iff.mp hnext).1
      have hreads := h.next_of_seam hlast hnext (hseamless.head hget hnext)
      have htail := ih _ (by rw [List.length_drop]; omega) hreads hseamless.drop hrest rfl
      rw [List.flatMap_cons, hshows, htail, ← List.flatMap_append, List.take_append_drop]

/-- **Pages that show each row as itself** show them all only in a seamless listing. -/
theorem Reads.seamless_of_flatMap (h : K.Reads cursor left) {shown : α → β}
    (hinj : ∀ a ∈ K.rows, ∀ b ∈ K.rows, shown a = shown b → a = b)
    (hshows : ∀ cursor left, shows (K.page cursor left) = (left.take K.size).map shown)
    (hpages : Follows K.fetch K.nextCursor cursor pages) (hall : pages.flatMap shows = left.map shown) :
    K.Seamless left := by
  induction hn : left.length using Nat.strong_induction_on generalizing cursor left pages with
  | _ n ih =>
    have hpos := K.size_pos
    rcases h.cases_follows hpages with ⟨hle, rfl⟩ | ⟨last, next, rest, hget, hlast, hnext, rfl, hrest⟩
    · intro k _ _ _ hnext
      obtain ⟨hlt, -⟩ := List.getElem?_eq_some_iff.mp hnext
      rw [Nat.succ_mul] at hlt
      omega
    · have hlt : K.size < left.length := (List.getElem?_eq_some_iff.mp hnext).1
      have hrows : rest.flatMap shows = (left.drop K.size).map shown := by
        have htake : left.map shown = (left.take K.size).map shown ++ (left.drop K.size).map shown := by
          rw [← List.map_append, List.take_append_drop]
        rw [List.flatMap_cons, hshows, htake] at hall
        exact List.append_cancel_left hall
      -- The next page begins with the next row, so this row is after the cursor.
      have hseam : K.key next < K.bound (K.cursorOf last) := by
        have hreads := h.next hlast
        have hhead : (rest.flatMap shows).head? =
            (K.rows.filter fun other => K.key other < K.bound (K.cursorOf last)).head?.map shown := by
          rcases hreads.cases_follows hrest with ⟨hle, rfl⟩ | ⟨_, next', rest', -, -, hnext', rfl, -⟩
          · rw [List.flatMap_singleton, hshows, List.take_of_length_le hle, List.head?_map]
          · have hne := (List.getElem?_eq_some_iff.mp hnext').1
            generalize (K.rows.filter fun other => K.key other < K.bound (K.cursorOf last)) = after at hne ⊢
            cases after with
            | nil => simp at hne
            | cons row after =>
              obtain ⟨size, hsize⟩ : ∃ size, K.size = size + 1 := ⟨K.size - 1, by omega⟩
              rw [List.flatMap_cons, hshows, hsize]
              rfl
        rw [hrows, List.head?_map, List.head?_drop, hnext] at hhead
        obtain ⟨row, hrow, hshown⟩ := Option.map_eq_some_iff.mp hhead.symm
        have hmem := List.mem_of_head? hrow
        have hfound := List.mem_filter.mp hmem
        have hnextMem : next ∈ K.rows := h.suffix.mem (List.mem_of_getElem? hnext)
        rw [← hinj row hfound.1 next hnextMem hshown]
        exact of_decide_eq_true hfound.2
      have hreads := h.next_of_seam hlast hnext hseam
      have hrest' := ih _ (by rw [List.length_drop]; omega) hreads hrest hrows rfl
      refine seamless_of_head (fun last' next' hlast' hnext' => ?_) hrest'
      obtain rfl := Option.mem_unique hget hlast'
      obtain rfl := Option.mem_unique hnext hnext'
      exact hseam

/-- **When the pages show every row once**, in order. -/
theorem flatMap_follows_iff {shown : α → β}
    (hinj : ∀ a ∈ K.rows, ∀ b ∈ K.rows, shown a = shown b → a = b)
    (hshows : ∀ cursor left, shows (K.page cursor left) = (left.take K.size).map shown)
    (hpages : Follows K.fetch K.nextCursor none pages) :
    pages.flatMap shows = K.rows.map shown ↔ K.Seamless K.rows := by
  refine ⟨reads_rows.seamless_of_flatMap hinj hshows hpages, fun hseamless => ?_⟩
  have heach (cursor : Option γ) (left : List α) :
      shows (K.page cursor left) = (left.take K.size).flatMap fun row => [shown row] := by
    rw [hshows, List.map_eq_flatMap]
  rw [reads_rows.flatMap_follows hseamless heach hpages, List.map_eq_flatMap]

end Keyset

end SuuqBackend.Paging
