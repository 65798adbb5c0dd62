import Mathlib.Data.Prod.Lex
import SuuqBackend.Lib.Paging
import SuuqBackend.ProcurementWebhooks.Laws.DeliveryAttempts

/-!
# What the previews show

The pages of a preview show every delivery that is asked for once, in order: they are the pages of a `Paging.Keyset`
whose cursors are exact (`replayKeyset`).

* `mem_matchedRows_iff`, `pairwise_matchedRows`: the rows that are asked for, and their order.
* `previewsCover`: paging through the previews shows everything once.
-/

namespace SuuqBackend

open Proc

namespace ProcurementWebhooks

/-! ### The rows that are asked for -/

abbrev DeliveryRow : Type := ℕ × ProcurementWebhookDelivery

def replayKey (row : DeliveryRow) : ℤ ×ₗ ℕ := toLex (row.2.finalFailureAt.getD 0, row.1)

theorem replayOrder_iff (a b : DeliveryRow) : replayOrder a b = true ↔ replayKey b ≤ replayKey a := by
  unfold replayOrder replayKey
  rw [decide_eq_true_iff, Prod.Lex.toLex_le_toLex, eq_comm]

theorem isAfter_iff {cursor : ℤ × ℕ} {row : DeliveryRow} : IsAfter cursor row ↔ replayKey row < toLex cursor := by
  unfold IsAfter replayKey
  rw [← toLex_ofLex (toLex cursor), Prod.Lex.toLex_lt_toLex]
  rfl

/-- The deliveries that have failed for good and are asked for, the latest first. -/
def matchedRows (dto : ReplayTerminalFailuresDto) (s : WebhookStore) : List DeliveryRow :=
  ((s.deliveries.list fun _ => true).filter fun row => IsMatched dto row.1 row.2).mergeSort replayOrder

section Rows

variable {dto : ReplayTerminalFailuresDto} {s : WebhookStore}

theorem mem_matchedRows_iff {row : DeliveryRow} :
    row ∈ matchedRows dto s ↔ s.deliveries.find row.1 = some row.2 ∧ IsMatched dto row.1 row.2 := by
  unfold matchedRows
  rw [List.mem_mergeSort, List.mem_filter, SerialTable.mem_list_iff, decide_eq_true_iff]
  simp only [and_true]

theorem nodup_matchedRows (dto : ReplayTerminalFailuresDto) (s : WebhookStore) :
    ((matchedRows dto s).map Prod.fst).Nodup := by
  have hlist := SerialTable.nodup_list s.deliveries fun _ => true
  have hfilter := hlist.sublist ((List.filter_sublist
    (p := fun row : DeliveryRow => decide (IsMatched dto row.1 row.2))).map Prod.fst)
  exact ((List.mergeSort_perm _ _).map Prod.fst).nodup_iff.mpr hfilter

theorem pairwise_matchedRows (dto : ReplayTerminalFailuresDto) (s : WebhookStore) :
    (matchedRows dto s).Pairwise fun a b => replayKey b < replayKey a := by
  refine Paging.pairwise_mergeSort_key replayOrder_iff ?_
  have hids := ((List.mergeSort_perm _ replayOrder).map Prod.fst).nodup_iff.mp (nodup_matchedRows dto s)
  refine List.Nodup.of_map (fun key : ℤ ×ₗ ℕ => (ofLex key).2) ?_
  rwa [List.map_map]

def rowsLeft (cursor : Option (ℤ × ℕ)) (rows : List DeliveryRow) : List DeliveryRow :=
  match cursor with
  | none => rows
  | some cursor => rows.filter fun row => IsAfter cursor row

theorem rowsLeft_sublist (cursor : Option (ℤ × ℕ)) (rows : List DeliveryRow) : (rowsLeft cursor rows).Sublist rows := by
  cases cursor with
  | none => exact List.Sublist.refl rows
  | some cursor => exact List.filter_sublist

def pageSizeOf (dto : ReplayTerminalFailuresDto) : ℤ := min (max (dto.limit.getD 25) 1) 100

theorem pageSizeOf_bounds (dto : ReplayTerminalFailuresDto) : 1 ≤ pageSizeOf dto ∧ pageSizeOf dto ≤ 100 := by
  unfold pageSizeOf
  omega

/-- The request and its counts, as a token carries them. -/
def signatureOf (dto : ReplayTerminalFailuresDto) (total left : ℕ) : ReplaySignature where
  deliveryIds := (explicitIds dto).map fun ids => ids.mergeSort
  subscriptionId := dto.subscriptionId
  eventType := dto.eventType
  cursor := dto.cursor
  limit := pageSizeOf dto
  totalMatchedTerminalFailureCount := total
  cursorMatchedTerminalFailureCount := left

def candidatesOf (dto : ReplayTerminalFailuresDto) (s : WebhookStore) (left : List DeliveryRow) : ReplayCandidates where
  requestedCount := ((explicitIds dto).map fun ids => (ids.length : ℤ)).getD (pageSizeOf dto)
  replaySignature := signatureOf dto (matchedRows dto s).length left.length
  totalMatchedTerminalFailureCount := (matchedRows dto s).length
  pagedDeliveries := (left.take (pageSizeOf dto).toNat).map (withSubscription s)

/-- What a cursor stands for, if it is valid. -/
def readCursor (env : WebhookRuntime) (cursor : Option String) : Option (Option (ℤ × ℕ)) :=
  match cursor.filter (· ≠ "") with
  | none => some none
  | some text => (env.parseCursor text).map some

theorem run_parseCursor (env : WebhookRuntime) (cursor : Option String) (s : WebhookStore) :
    (readCursor env cursor = none ∧ ∃ e, run (parseCursor env cursor) s = (.error e, s)) ∨
      ∃ found, readCursor env cursor = some found ∧ run (parseCursor env cursor) s = (.ok found, s) := by
  unfold parseCursor readCursor
  cases cursor.filter (· ≠ "") with
  | none => exact .inr ⟨none, rfl, rfl⟩
  | some text =>
    cases hparse : env.parseCursor text with
    | none =>
      dsimp only
      rw [hparse]
      exact .inl ⟨rfl, _, rfl⟩
    | some parsed =>
      dsimp only
      rw [hparse]
      exact .inr ⟨some parsed, rfl, rfl⟩

theorem run_getReplayTerminalFailureCandidates (env : WebhookRuntime) (dto : ReplayTerminalFailuresDto)
    (s : WebhookStore) :
    (readCursor env dto.cursor = none ∧
        ∃ e, run (getReplayTerminalFailureCandidates env dto) s = (.error e, s)) ∨
      ∃ cursor, readCursor env dto.cursor = some cursor ∧
        run (getReplayTerminalFailureCandidates env dto) s =
          (.ok (candidatesOf dto s (rowsLeft cursor (matchedRows dto s))), s) := by
  unfold getReplayTerminalFailureCandidates
  rcases run_parseCursor env dto.cursor s with ⟨hnone, e, hrun⟩ | ⟨cursor, hread, hrun⟩
  · exact .inl ⟨hnone, e, run_bind_of_error hrun _⟩
  · refine .inr ⟨cursor, hread, ?_⟩
    rw [run_bind_of_ok hrun]
    cases cursor <;> rfl

end Rows

/-! ### The pages -/

section Pages

variable (env : PreviewRuntime) (now now' : ℤ) (dto : ReplayTerminalFailuresDto) (s : WebhookStore)

def previewFrom (left : List DeliveryRow) : ReplayPreview :=
  let page := (left.take (pageSizeOf dto).toNat).map (withSubscription s)
  let signature := signatureOf dto (matchedRows dto s).length left.length
  { requestedCount := ((explicitIds dto).map fun ids => (ids.length : ℤ)).getD (pageSizeOf dto)
    pageSize := pageSizeOf dto
    appliedCursor := dto.cursor
    totalMatchedTerminalFailureCount := (matchedRows dto s).length
    previewedCount := (page.filterMap candidateOf).length
    skippedCount := (page.filterMap skippedOf).length
    skippedDeliveryIds := page.filterMap skippedOf
    remainingMatchedTerminalFailureCount := left.length - (pageSizeOf dto).toNat
    hasMoreMatchedDeliveries := (pageSizeOf dto).toNat < left.length
    nextCursor := if (pageSizeOf dto).toNat < left.length then page.getLast?.map (encodeCursor env) else none
    executionConfirmationToken := if 0 < page.length then some (encodeConfirmationToken env now signature) else none
    executionConfirmationExpiresAt :=
      if 0 < page.length then some (env.isoText (now' + replayPreviewConfirmationTtl)) else none
    candidateDeliveries := page.filterMap candidateOf }

variable {left : List DeliveryRow}

theorem sort_page (hleft : left.Sublist (matchedRows dto s)) (n : ℕ) :
    (((left.take n).map (withSubscription s)).filter fun row => row.2.1.finalFailureAt.isSome).mergeSort
      (fun a b => replayOrder (a.1, a.2.1) (b.1, b.2.1)) = (left.take n).map (withSubscription s) := by
  have hpage : (left.take n).Sublist (matchedRows dto s) := (List.take_sublist n left).trans hleft
  have hfinal : ((left.take n).map (withSubscription s)).filter (fun row => row.2.1.finalFailureAt.isSome) =
      (left.take n).map (withSubscription s) := by
    refine List.filter_eq_self.mpr fun row hrow => ?_
    obtain ⟨stored, hmem, rfl⟩ := List.mem_map.mp hrow
    exact (mem_matchedRows_iff.mp (hpage.subset hmem)).2.2.1
  rw [hfinal]
  refine List.mergeSort_of_pairwise (List.pairwise_map.mpr ?_)
  exact ((pairwise_matchedRows dto s).sublist hpage).imp fun {a b} hlt => (replayOrder_iff a b).mpr hlt.le

theorem buildReplayTerminalFailurePreview_eq (hleft : left.Sublist (matchedRows dto s)) :
    buildReplayTerminalFailurePreview env now now' (candidatesOf dto s left).requestedCount dto.cursor
      (candidatesOf dto s left).replaySignature (candidatesOf dto s left).pagedDeliveries =
        previewFrom env now now' dto s left := by
  have hsize := pageSizeOf_bounds dto
  have hclamp : min (max (pageSizeOf dto) 1) 100 = pageSizeOf dto := by omega
  have hlength := hleft.length_le
  set n := (pageSizeOf dto).toNat with hn
  have hpage : ((left.take n).map (withSubscription s)).length = min n left.length := by
    rw [List.length_map, List.length_take]
  have htotal : max (matchedRows dto s).length (min n left.length) = (matchedRows dto s).length := by omega
  have hcount : max left.length (min n left.length) = left.length := by omega
  have hremaining : left.length - min n left.length = left.length - n := by omega
  have hmore : 0 < left.length - n ↔ n < left.length := by omega
  have htake : ((left.take n).map (withSubscription s)).take n = (left.take n).map (withSubscription s) := by
    refine List.take_of_length_le ?_
    omega
  unfold buildReplayTerminalFailurePreview previewFrom candidatesOf signatureOf
  dsimp only
  rw [hclamp, ← hn, sort_page dto s hleft n, htake, hpage, htotal, hcount, hremaining]
  simp only [hmore]

theorem run_previewReplayTerminalFailures :
    (readCursor env.toWebhookRuntime dto.cursor = none ∧
        ∃ e, run (previewReplayTerminalFailures env now now' dto) s = (.error e, s)) ∨
      ∃ cursor, readCursor env.toWebhookRuntime dto.cursor = some cursor ∧
        run (previewReplayTerminalFailures env now now' dto) s =
          (.ok (previewFrom env now now' dto s (rowsLeft cursor (matchedRows dto s))), s) := by
  unfold previewReplayTerminalFailures
  rcases run_getReplayTerminalFailureCandidates env.toWebhookRuntime dto s with ⟨hnone, e, hrun⟩ |
    ⟨cursor, hread, hrun⟩
  · exact .inl ⟨hnone, e, run_bind_of_error hrun _⟩
  · refine .inr ⟨cursor, hread, ?_⟩
    have hpreview := buildReplayTerminalFailurePreview_eq env now now' dto s
      (rowsLeft_sublist cursor (matchedRows dto s))
    rw [run_bind_of_ok hrun, ← hpreview]
    rfl

/-- The page that is read at a cursor; the times are those of the request. -/
def fetchPreview (now now' : Option String → ℤ) (cursor : Option String) : Option ReplayPreview :=
  (run (previewReplayTerminalFailures env (now cursor) (now' cursor) { dto with cursor }) s).1.toOption

variable (now now' : Option String → ℤ)

theorem fetchPreview_of_read {cursor : Option String} {found : Option (ℤ × ℕ)}
    (hread : readCursor env.toWebhookRuntime cursor = some found) :
    fetchPreview env dto s now now' cursor =
      some (previewFrom env (now cursor) (now' cursor) { dto with cursor } s (rowsLeft found (matchedRows dto s))) := by
  unfold fetchPreview
  rcases run_previewReplayTerminalFailures env (now cursor) (now' cursor) { dto with cursor } s with ⟨hnone, -⟩ |
    ⟨found', hread', hrun⟩
  · rw [hread] at hnone
    cases hnone
  · rw [hread] at hread'
    obtain rfl := Option.some.inj hread'
    rw [hrun]
    rfl

theorem readCursor_encodeCursor {row : LoadedDelivery} (hid : 0 < row.1) :
    readCursor env.toWebhookRuntime (some (encodeCursor env row)) =
      some (some (row.2.1.finalFailureAt.getD 0, row.1)) := by
  have hne : encodeCursor env row ≠ "" := env.encodeCursor_ne_empty _
  have hparse := env.parseCursor_encodeCursor (row.2.1.finalFailureAt.getD 0, row.1) hid
  unfold readCursor
  rw [Option.filter_some, if_pos (decide_eq_true hne)]
  exact congrArg (Option.map some) hparse

def replayBound (cursor : String) : ℤ ×ₗ ℕ := toLex (((env.parseCursor cursor).getD (0, 0)))

theorem replayBound_encodeCursor {row : DeliveryRow} (hid : 0 < row.1) :
    replayBound env (encodeCursor env (withSubscription s row)) = replayKey row := by
  have hparse := env.parseCursor_encodeCursor (row.2.finalFailureAt.getD 0, row.1) hid
  unfold replayBound encodeCursor withSubscription replayKey
  rw [hparse]
  rfl

theorem pos_of_mem_matchedRows (hzero : s.deliveries.find 0 = none) {row : DeliveryRow}
    (hrow : row ∈ matchedRows dto s) : 0 < row.1 := by
  refine Nat.pos_of_ne_zero fun h => ?_
  have hfind := (mem_matchedRows_iff.mp hrow).1
  rw [h, hzero] at hfind
  cases hfind

/-- The previews as pages of a `Keyset`, whose cursors bound exactly. -/
def replayKeyset (now now' : Option String → ℤ) (hzero : s.deliveries.find 0 = none) :
    Paging.Keyset DeliveryRow (ℤ ×ₗ ℕ) String ReplayPreview where
  rows := matchedRows dto s
  key := replayKey
  sorted := pairwise_matchedRows dto s
  size := (pageSizeOf dto).toNat
  size_pos := by
    have hbounds := pageSizeOf_bounds dto
    omega
  cursorOf row := encodeCursor env (withSubscription s row)
  bound := replayBound env
  bound_le row hrow := (replayBound_encodeCursor env s (pos_of_mem_matchedRows dto s hzero hrow)).le
  page cursor left := previewFrom env (now cursor) (now' cursor) { dto with cursor } s left
  nextCursor := ReplayPreview.nextCursor
  nextCursor_page cursor left := by
    unfold previewFrom
    dsimp only
    rw [List.getLast?_map, Option.map_map]
    rfl
  fetch := fetchPreview env dto s now now'
  fetch_none := @fetchPreview_of_read env dto s now now' none none rfl
  fetch_some row hrow := by
    have hid := pos_of_mem_matchedRows dto s hzero hrow
    have hread := @readCursor_encodeCursor env (withSubscription s row) hid
    rw [fetchPreview_of_read env dto s now now' hread, replayBound_encodeCursor env s hid]
    unfold rowsLeft
    simp only [isAfter_iff]
    rfl

/-- **The previews cover** what is asked for: paging through them from the first one shows each delivery that has
failed for good and is asked for once, the latest first, and each page says how many are left to the pages after it. -/
def PreviewsCover (now now' : Option String → ℤ) : Prop :=
  ∃ (rows : List DeliveryRow) (pages : List ReplayPreview),
    (∀ row : DeliveryRow, row ∈ rows ↔ s.deliveries.find row.1 = some row.2 ∧ IsMatched dto row.1 row.2) ∧
    (rows.Pairwise fun a b => replayKey b < replayKey a) ∧
    Paging.Follows (fetchPreview env dto s now now') ReplayPreview.nextCursor none pages ∧
    pages.flatMap ReplayPreview.candidateDeliveries = rows.filterMap (candidateOf ∘ withSubscription s) ∧
    pages.flatMap ReplayPreview.skippedDeliveryIds = rows.filterMap (skippedOf ∘ withSubscription s) ∧
    ∀ k page, pages[k]? = some page →
      page.totalMatchedTerminalFailureCount = rows.length ∧
      page.remainingMatchedTerminalFailureCount =
        ((pages.drop (k + 1)).map fun later => later.previewedCount + later.skippedCount).sum

theorem length_filterMap_candidateOf_add (rows : List LoadedDelivery) :
    (rows.filterMap candidateOf).length + (rows.filterMap skippedOf).length = rows.length := by
  induction rows with
  | nil => rfl
  | cons row rows ih =>
    rw [List.length_cons]
    obtain ⟨id, delivery, found⟩ := row
    cases found with
    | none =>
      have hcandidate : candidateOf (id, delivery, none) = none := rfl
      have hskipped : skippedOf (id, delivery, none) = some id := rfl
      rw [List.filterMap_cons_none hcandidate, List.filterMap_cons_some hskipped, List.length_cons]
      omega
    | some subscription =>
      have hcandidate : candidateOf (id, delivery, some subscription) = some ⟨id, delivery, subscription.name⟩ := rfl
      have hskipped : skippedOf (id, delivery, some subscription) = none := rfl
      rw [List.filterMap_cons_some hcandidate, List.filterMap_cons_none hskipped, List.length_cons]
      omega

theorem length_previewFrom (t t' : ℤ) (left : List DeliveryRow) :
    (previewFrom env t t' dto s left).previewedCount + (previewFrom env t t' dto s left).skippedCount =
      (left.take (pageSizeOf dto).toNat).length := by
  unfold previewFrom
  rw [length_filterMap_candidateOf_add, List.length_map]

def marksOf (page : ReplayPreview) : List Unit := List.replicate (page.previewedCount + page.skippedCount) ()

theorem sum_later_pages (hzero : s.deliveries.find 0 = none)
    {cursor : Option String} {pages : List ReplayPreview}
    (hreads : (replayKeyset env dto s now now' hzero).Reads cursor left)
    (hseamless : (replayKeyset env dto s now now' hzero).Seamless left)
    (hpages : Paging.Follows (fetchPreview env dto s now now') ReplayPreview.nextCursor cursor pages) :
    (pages.map fun page => page.previewedCount + page.skippedCount).sum = left.length := by
  have hshows (cursor : Option String) (left : List DeliveryRow) :
      marksOf ((replayKeyset env dto s now now' hzero).page cursor left) =
        (left.take (replayKeyset env dto s now now' hzero).size).flatMap fun _ => [()] := by
    have hcount := length_previewFrom env { dto with cursor } s (now cursor) (now' cursor) left
    rw [← List.map_eq_flatMap, List.map_const']
    exact congrArg (List.replicate · ()) hcount
  have hlength := congrArg List.length (hreads.flatMap_follows hseamless hshows hpages)
  simpa [marksOf] using hlength

theorem previewsCover (hzero : s.deliveries.find 0 = none) :
    PreviewsCover env dto s now now' := by
  set K := replayKeyset env dto s now now' hzero with hK
  have hseamless : K.Seamless K.rows :=
    Paging.Keyset.seamless_of_exact fun row hrow =>
      replayBound_encodeCursor env s (pos_of_mem_matchedRows dto s hzero hrow)
  obtain ⟨pages, hpages⟩ := K.exists_follows
  have hshows {β : Type} (f : LoadedDelivery → Option β) (left : List DeliveryRow) :
      ((left.take K.size).map (withSubscription s)).filterMap f =
        (left.take K.size).flatMap fun row => (f (withSubscription s row)).toList := by
    rw [List.filterMap_map, List.filterMap_eq_flatMap_toList]
    rfl
  refine ⟨matchedRows dto s, pages, fun row => mem_matchedRows_iff, pairwise_matchedRows dto s, hpages, ?_, ?_, ?_⟩
  · rw [List.filterMap_eq_flatMap_toList]
    exact Paging.Keyset.reads_rows.flatMap_follows hseamless (fun _ left => hshows candidateOf left) hpages
  · rw [List.filterMap_eq_flatMap_toList]
    exact Paging.Keyset.reads_rows.flatMap_follows hseamless (fun _ left => hshows skippedOf left) hpages
  · intro k page hpage
    obtain ⟨hk, rfl⟩ := List.getElem?_eq_some_iff.mp hpage
    obtain ⟨cursor, hreads, hleft, hfollows⟩ := Paging.Keyset.reads_rows.drop hseamless hpages hk
    have hdrop : pages.drop k = pages[k] :: pages.drop (k + 1) := List.drop_eq_getElem_cons hk
    rw [hdrop] at hfollows
    rcases hreads.cases_follows hfollows with ⟨hle, hlast⟩ | ⟨last, next, rest, hget, hlast, hnext, hcons, hrest⟩
    · obtain ⟨hpage', hrest⟩ := List.cons.inj hlast
      rw [hpage', hrest]
      exact ⟨rfl, Nat.sub_eq_zero_of_le hle⟩
    · obtain ⟨hpage', hrest'⟩ := List.cons.inj hcons
      have hnextReads := hreads.next_of_seam hlast hnext (hleft.head hget hnext)
      have hsum := sum_later_pages env dto s now now' hzero hnextReads hleft.drop hrest
      rw [hpage', hrest', hsum, List.length_drop]
      exact ⟨rfl, rfl⟩

end Pages

end ProcurementWebhooks

end SuuqBackend
