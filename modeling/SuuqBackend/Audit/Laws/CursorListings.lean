import Mathlib.Data.Prod.Lex
import Mathlib.Data.Int.Cast.Lemmas
import Mathlib.Algebra.Order.Ring.Int
import SuuqBackend.Audit.AuditLogs
import SuuqBackend.Common.Laws.TextNumbers
import SuuqBackend.Lib.Paging

/-!
# Listings of the audit log by cursor

A cursor is read back as the `Date` and the id that it was made of (`run_decodeCursor`), so that the listings are pages
of a `Keyset` whose key is the stored time with the id, and whose cursors bound at the beginning of a millisecond.

`cursor_listing_lossless_iff`: the pages of a listing show every entry once, the latest first, exactly when no page ends
in front of an entry of the same millisecond, but for the entries at its very beginning.
-/

namespace SuuqBackend

open SerialTable Texts

namespace AuditLogs

variable {env : AuditRuntime} {s : AuditStore}

/-! ### Cursors -/

/-- **A cursor is read back**. -/
theorem run_decodeCursor {row : ℕ × AuditLog Date} (h : 0 < row.1) :
    (decodeCursor env (some (encodeCursor env row))).run s = (.ok (some (row.2.createdAt, (row.1 : ℤ))), s) := by
  have hne : encodeCursor env row ≠ "" := by
    refine env.toBase64url_ne_empty _ fun hempty => ?_
    have hbar : '|' ∈ (env.toISOString row.2.createdAt ++ ("|" ++ toString row.1)).toList := by
      simp [String.toList_append]
    rw [hempty] at hbar
    simp at hbar
  have hid : '|' ∉ (toString row.1).toList := fun hmem => absurd (isDigit_of_mem_toString hmem) (by decide)
  have hparts : split (env.fromBase64url (encodeCursor env row)) '|' =
      [env.toISOString row.2.createdAt, toString row.1] := by
    unfold encodeCursor
    rw [env.fromBase64url_toBase64url, split_append (by decide) (env.bar_notMem_toISOString _),
      split_of_notMem hid]
  unfold decodeCursor
  rw [Option.filter_some_pos (by simpa using hne)]
  dsimp only
  rw [hparts]
  dsimp only
  rw [if_neg (env.toISOString_ne_empty _), env.parseDate_toISOString, env.toInteger_toString]
  dsimp only
  rw [if_pos (by exact_mod_cast h)]
  rfl

/-! ### The entries of a listing -/

/-- What the entries of a listing are sorted by. -/
def keyOf (row : ℕ × AuditLog Timestamp) : ℤ ×ₗ ℤ := toLex (row.2.createdAt, (row.1 : ℤ))

def boundOf (cursor : Date × ℤ) : ℤ ×ₗ ℤ := toLex (Timestamp.ofDate cursor.1, cursor.2)

variable {row : ℕ × AuditLog Timestamp}

theorem isAfter_iff {cursor : Date × ℤ} : IsAfter cursor row ↔ keyOf row < boundOf cursor := by
  unfold IsAfter keyOf boundOf
  rw [Prod.Lex.toLex_lt_toLex]

theorem ofDate_toDate_le (t : Timestamp) : Timestamp.ofDate t.toDate ≤ t := Int.ediv_mul_le t (by decide)

theorem boundOf_loaded_le (row : ℕ × AuditLog Timestamp) :
    boundOf (row.2.createdAt.toDate, (row.1 : ℤ)) ≤ keyOf row := by
  refine Prod.Lex.toLex_le_toLex.mpr ?_
  rcases lt_or_eq_of_le (ofDate_toDate_le row.2.createdAt) with hlt | heq
  · exact .inl hlt
  · exact .inr ⟨heq, le_rfl⟩

theorem mem_rows_iff {listing : Listing} {filters : AuditFilters} :
    row ∈ listing.rows env filters s ↔
      s.logs.find row.1 = some row.2 ∧ listing.Covers row.2 ∧ Matches env filters row.2 := by
  unfold Listing.rows
  rw [List.mem_mergeSort, mem_list_iff, decide_eq_true_iff]

variable (listing : Listing) (filters : AuditFilters)

theorem nodup_rows : ((listing.rows env filters s).map Prod.fst).Nodup :=
  ((List.mergeSort_perm _ _).map Prod.fst).nodup_iff.mpr (nodup_list _ _)

theorem latestFirst_iff (a b : ℕ × AuditLog Timestamp) : latestFirst a b = true ↔ keyOf b ≤ keyOf a := by
  unfold latestFirst keyOf
  rw [decide_eq_true_iff, Prod.Lex.toLex_le_toLex, eq_comm, Nat.cast_le]

/-- The latest entries come first, and of those made at one time the ones with the greater ids. -/
theorem pairwise_rows : (listing.rows env filters s).Pairwise fun a b => keyOf b < keyOf a := by
  refine Paging.pairwise_mergeSort_key latestFirst_iff ?_
  · have hids : ((s.logs.list fun log => listing.Covers log ∧ Matches env filters log).map fun row =>
        (row.1 : ℤ)).Nodup := by
      have hcast := (nodup_list s.logs fun log => listing.Covers log ∧ Matches env filters log).map
        fun _ _ h => Int.ofNat.inj h
      rwa [List.map_map] at hcast
    refine List.Nodup.of_map (fun key : ℤ ×ₗ ℤ => (ofLex key).2) ?_
    rwa [List.map_map]

theorem id_pos_of_mem {listing : Listing} {filters : AuditFilters} (h : row ∈ listing.rows env filters s) : 0 < row.1 :=
  s.id_pos _ (mem_of_find (mem_rows_iff.mp h).1)

/-! ### The pages -/

def shown (row : ℕ × AuditLog Timestamp) : ℕ × AuditLog Date := (row.1, row.2.loaded)

def pageOf (env : AuditRuntime) (size : ℕ) (left : List (ℕ × AuditLog Timestamp)) : AuditPage where
  items := (left.take size).map shown
  nextCursor := if size < left.length then (left.take size).getLast?.map fun row => encodeCursor env (shown row) else none

def boundOfText (env : AuditRuntime) (s : AuditStore) (cursor : String) : ℤ ×ₗ ℤ :=
  match ((decodeCursor env (some cursor)).run s).1 with
  | .ok (some cursor) => boundOf cursor
  | _ => toLex (0, 0)

theorem boundOfText_encodeCursor {row : ℕ × AuditLog Timestamp} (h : 0 < row.1) :
    boundOfText env s (encodeCursor env (shown row)) = boundOf (row.2.createdAt.toDate, (row.1 : ℤ)) := by
  have hid : 0 < (shown row).1 := h
  unfold boundOfText
  rw [run_decodeCursor hid]
  rfl

theorem one_le_clampLimit (limit : Option ℤ) : 0 < clampLimit limit 20 100 := by
  unfold clampLimit
  omega

theorem pageOf_eq (size : ℕ) (left : List (ℕ × AuditLog Timestamp)) :
    (let rows := left.take (size + 1)
     let items := (rows.take size).map fun row => (row.1, row.2.loaded)
     ({ items, nextCursor := if size < rows.length then items.getLast?.map (encodeCursor env) else none } :
       AuditPage)) = pageOf env size left := by
  have htake : (left.take (size + 1)).take size = left.take size := by
    rw [List.take_take, min_eq_left (Nat.le_succ size)]
  have hlength : size < (left.take (size + 1)).length ↔ size < left.length := by
    rw [List.length_take]
    omega
  dsimp only
  rw [htake]
  simp only [hlength, List.getLast?_map, Option.map_map]
  rfl

/-- The page of a listing that starts at a cursor, if the cursor is valid. -/
def Listing.fetch (env : AuditRuntime) (s : AuditStore) (listing : Listing) (filters : AuditFilters)
    (limit : Option ℤ) (cursor : Option String) : Option AuditPage :=
  ((listing.list env { after := cursor, limit, filters }).run s).1.toOption

section Pages

variable (env s) (listing : Listing) (filters : AuditFilters) (limit : Option ℤ)

theorem fetch_none : listing.fetch env s filters limit none =
    some (pageOf env (clampLimit limit 20 100) (listing.rows env filters s)) := by
  rw [← pageOf_eq]
  rfl

theorem fetch_encodeCursor {row : ℕ × AuditLog Timestamp} (h : 0 < row.1) :
    listing.fetch env s filters limit (some (encodeCursor env (shown row))) =
      some (pageOf env (clampLimit limit 20 100) ((listing.rows env filters s).filter fun other =>
        keyOf other < boundOfText env s (encodeCursor env (shown row)))) := by
  have hid : 0 < (shown row).1 := h
  have hcursor := @run_decodeCursor env s _ hid
  unfold Listing.fetch Listing.list
  rw [Proc.run_bind_of_ok hcursor, ← pageOf_eq, boundOfText_encodeCursor h]
  simp only [← isAfter_iff]
  rfl

/-- A listing by cursor as pages of a `Keyset`. -/
def keyset : Paging.Keyset (ℕ × AuditLog Timestamp) (ℤ ×ₗ ℤ) String AuditPage where
  rows := listing.rows env filters s
  key := keyOf
  sorted := pairwise_rows listing filters
  size := clampLimit limit 20 100
  size_pos := one_le_clampLimit limit
  cursorOf row := encodeCursor env (shown row)
  bound := boundOfText env s
  bound_le row hmem := by
    rw [boundOfText_encodeCursor (id_pos_of_mem hmem)]
    exact boundOf_loaded_le row
  page _ left := pageOf env (clampLimit limit 20 100) left
  nextCursor := AuditPage.nextCursor
  nextCursor_page _ _ := rfl
  fetch := listing.fetch env s filters limit
  fetch_none := fetch_none env s listing filters limit
  fetch_some row hmem := fetch_encodeCursor env s listing filters limit (id_pos_of_mem hmem)

/-- Where a page ends, the next entry was made before the millisecond of the last one shown, or at its beginning
under a smaller id. -/
def SeamsFall (size : ℕ) (rows : List (ℕ × AuditLog Timestamp)) : Prop :=
  ∀ k last next, rows[k * size + (size - 1)]? = some last → rows[(k + 1) * size]? = some next →
    IsAfter (last.2.createdAt.toDate, (last.1 : ℤ)) next

theorem seamless_iff : (keyset env s listing filters limit).Seamless (listing.rows env filters s) ↔
    SeamsFall (clampLimit limit 20 100) (listing.rows env filters s) := by
  refine forall_congr' fun k => forall_congr' fun last => forall_congr' fun next => forall_congr' fun hlast => ?_
  have hmem : last ∈ listing.rows env filters s := List.mem_of_getElem? hlast
  rw [isAfter_iff, ← @boundOfText_encodeCursor env s _ (id_pos_of_mem hmem)]
  rfl

end Pages

end AuditLogs

open AuditLogs

/-- **When paging through the log loses nothing**: the pages that are read until there is no next cursor show every
entry of the listing once, the latest first, if and only if no page ends within a millisecond. -/
theorem cursor_listing_lossless_iff (env : AuditRuntime) (s : AuditStore) (listing : Listing)
    (filters : AuditFilters) (limit : Option ℤ) :
    ∃ pages, Paging.Follows (listing.fetch env s filters limit) AuditPage.nextCursor none pages ∧
      (pages.flatMap AuditPage.items = (listing.rows env filters s).map shown ↔
        SeamsFall (clampLimit limit 20 100) (listing.rows env filters s)) := by
  obtain ⟨pages, hpages⟩ := (keyset env s listing filters limit).exists_follows
  refine ⟨pages, hpages, ?_⟩
  rw [← seamless_iff]
  refine Paging.Keyset.flatMap_follows_iff (fun a ha b hb heq => ?_) (fun _ _ => rfl) hpages
  have hid : (shown a).1 = (shown b).1 := congrArg Prod.fst heq
  exact List.inj_on_of_nodup_map (nodup_rows listing filters) ha hb hid

def vendorEntry (createdAt : Timestamp) : AuditLog Timestamp :=
  { action := "vendor.active.update", targetType := "vendor", targetId := 7, createdAt }

/-- Two entries of one millisecond, and an earlier one. -/
def threeEntries : AuditStore where
  logs := ((SerialTable.empty.add (vendorEntry 1774003499000000)).add (vendorEntry 1774003500000200)).add
    (vendorEntry 1774003500000500)
  id_pos := by decide

/-- A text for each number: its size in marks of its sign. -/
def markText (n : ℤ) : String :=
  String.ofList ('n' :: (List.replicate n.toNat '+' ++ List.replicate (-n).toNat '-'))

def markValue (text : String) : ℤ := text.toList.count '+' - text.toList.count '-'

theorem markValue_markText (n : ℤ) : markValue (markText n) = n := by
  unfold markValue markText
  rw [String.toList_ofList]
  simp only [List.count_cons, List.count_append, List.count_replicate]
  simp <;> omega

/-- The runtime, as it is on the cursor of the last entry made: `2026-03-20T10:45:00.000Z|3`. -/
def quarterToEleven : AuditRuntime where
  toBase64url text :=
    if text = "2026-03-20T10:45:00.000Z|3" then "MjAyNi0wMy0yMFQxMDo0NTowMC4wMDBafDM"
    else if text = "MjAyNi0wMy0yMFQxMDo0NTowMC4wMDBafDM" then "2026-03-20T10:45:00.000Z|3"
    else text
  fromBase64url text :=
    if text = "2026-03-20T10:45:00.000Z|3" then "MjAyNi0wMy0yMFQxMDo0NTowMC4wMDBafDM"
    else if text = "MjAyNi0wMy0yMFQxMDo0NTowMC4wMDBafDM" then "2026-03-20T10:45:00.000Z|3"
    else text
  fromBase64url_toBase64url text := by
    by_cases h : text = "2026-03-20T10:45:00.000Z|3"
    · subst h
      decide
    · by_cases h' : text = "MjAyNi0wMy0yMFQxMDo0NTowMC4wMDBafDM"
      · subst h'
        decide
      · simp only [if_neg h, if_neg h']
  toBase64url_ne_empty text h := by
    split_ifs
    · decide
    · decide
    · exact h
  toISOString date := if date = 1774003500000 then "2026-03-20T10:45:00.000Z" else markText date
  parseDate text := if text = "2026-03-20T10:45:00.000Z" then some 1774003500000 else some (markValue text)
  parseDate_toISOString date := by
    by_cases h : date = 1774003500000
    · rw [if_pos h, if_pos rfl, h]
    · rw [if_neg h, if_neg, markValue_markText]
      intro heq
      have hhead := congrArg (fun text => text.toList.head?) heq
      simp [markText] at hhead
  toISOString_ne_empty date := by
    split_ifs
    · decide
    · intro hempty
      have hhead := congrArg (fun text => text.toList.head?) hempty
      simp [markText] at hhead
  bar_notMem_toISOString date := by
    split_ifs
    · decide
    · simp [markText]
  toInteger text := (numberAfter "" text).map Int.ofNat
  toInteger_toString n := by
    rw [numberAfter_toString]
    rfl
  lower text := text

theorem rows_threeEntries : (Listing.all none none).rows quarterToEleven {} threeEntries =
    (threeEntries.logs.list fun _ => true).reverse := by
  refine Paging.mergeSort_eq_of_perm latestFirst_iff ?_ ?_
  · exact (List.reverse_perm _).symm
  · decide

/-- Paging through the entries one by one loses the second one of a millisecond. -/
theorem entry_lost_between_pages :
    let list opts := ((listAllCursor quarterToEleven none none opts).run threeEntries).1.toOption
    let ids page := AuditPage.items page |>.map Prod.fst
    (∃ page, list { limit := some 100 } = some page ∧ ids page = [3, 2, 1] ∧ page.nextCursor = none) ∧
      ∃ first second, list { limit := some 1 } = some first ∧ ids first = [3] ∧
        first.nextCursor.isSome ∧ list { limit := some 1, after := first.nextCursor } = some second ∧
        ids second = [1] ∧ second.nextCursor = none := by
  have hall := fetch_none quarterToEleven threeEntries (.all none none) {} (some 100)
  have hfirst := fetch_none quarterToEleven threeEntries (.all none none) {} (some 1)
  have hpos : 0 < (3, vendorEntry 1774003500000500).1 := by decide
  have hsecond := fetch_encodeCursor quarterToEleven threeEntries (.all none none) {} (some 1) hpos
  rw [rows_threeEntries] at hall hfirst hsecond
  exact ⟨⟨_, hall, by decide, by decide⟩, _, _, hfirst, by decide, by decide, hsecond, by decide, by decide⟩

end SuuqBackend
