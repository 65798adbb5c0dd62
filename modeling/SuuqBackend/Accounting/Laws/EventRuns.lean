import SuuqBackend.PosSync.Laws.CheckoutIngest
import SuuqBackend.PosSync.Laws.CheckoutVoid
import SuuqBackend.PropertyRental.Laws.Payments

/-!
# Events in runs

What the keys of events mean for whole runs: which events are recorded, what attempts of one request are
recorded as, and how many entries the postings of events leave.

* `length_entries_after_iff`: in a run of postings each event has an entry of its own exactly when no two
  of the events clash.
* `keys_identify_events_iff`: when keys identify events, with all three together.
* `second_sale_swallowed`: a sale without a key that is taken for a replay of one with a key.
-/

namespace SuuqBackend

open GeneralLedger PosCheckouts PosSync

/-! ### Runs -/

structure EventPosting where
  event : FinancialEvent
  input : PostJournalEntryInput
  now : ℤ
  posts : Posts event input
  accepted : assertBalanced input = .ok ()

namespace EventPosting

def call (p : EventPosting) : GlCall := .post p.now p.input false

theorem step_call (p : EventPosting) (J : GlStore) : GlCall.step J p.call = J.entered p.now p.input := by
  obtain ⟨entry, hrun⟩ := run_post_of_ok p.accepted p.now false J
  show ((post p.now p.input false).run J).2 = _
  rw [hrun]

end EventPosting

/-- The entries of the journal are of one branch, and have these keys, each once. -/
structure HasKeys (branchId : ℕ) (J : GlStore) (keys : Finset String) : Prop where
  branch_eq : ∀ entry ∈ J.entries, entry.branchId = branchId
  nodup : (J.entries.map GlJournalEntry.idempotencyKey).Nodup
  keys_eq : (J.entries.map GlJournalEntry.idempotencyKey).toFinset = keys

namespace HasKeys

variable {branchId : ℕ} {J : GlStore} {keys : Finset String}

section

variable (h : HasKeys branchId J keys)

include h

theorem mem_iff (key : String) : key ∈ keys ↔ ∃ entry ∈ J.entries, entry.idempotencyKey = key := by
  rw [← h.keys_eq, List.mem_toFinset, List.mem_map]

theorem entryByKey_eq_none_iff (key : String) : J.entryByKey branchId key = none ↔ key ∉ keys := by
  rw [h.mem_iff]
  unfold GlStore.entryByKey
  rw [List.find?_eq_none]
  constructor
  · rintro hnone ⟨entry, hentry, hkey⟩
    exact hnone entry hentry (decide_eq_true ⟨h.branch_eq entry hentry, hkey⟩)
  · intro hnew entry hentry hfound
    exact hnew ⟨entry, hentry, (of_decide_eq_true hfound).2⟩

theorem entered {input : PostJournalEntryInput} (hbranch : input.branchId = branchId) (now : ℤ) :
    HasKeys branchId (J.entered now input) (insert input.idempotencyKey keys) := by
  by_cases hkey : input.idempotencyKey ∈ keys
  · have hused : ¬ J.entryByKey input.branchId input.idempotencyKey = none := by
      rw [hbranch, h.entryByKey_eq_none_iff]
      exact not_not.mpr hkey
    rw [GlStore.entered, if_neg hused, Finset.insert_eq_of_mem hkey]
    exact h
  · have hnew : J.entryByKey input.branchId input.idempotencyKey = none := by
      rw [hbranch, h.entryByKey_eq_none_iff]
      exact hkey
    have hentries : (J.entered now input).entries = J.entries ++ [postedEntry now input J.nextEntryId] := by
      rw [GlStore.entered, if_pos hnew]
      rfl
    have hkeys : ((J.entered now input).entries.map GlJournalEntry.idempotencyKey) =
        J.entries.map GlJournalEntry.idempotencyKey ++ [input.idempotencyKey] := by
      rw [hentries, List.map_append]
      rfl
    refine ⟨?_, ?_, ?_⟩
    · intro entry hentry
      rw [hentries, List.mem_append, List.mem_singleton] at hentry
      rcases hentry with hentry | rfl
      · exact h.branch_eq entry hentry
      · exact hbranch
    · rw [hkeys]
      apply h.nodup.append (List.nodup_singleton _)
      rw [List.disjoint_singleton]
      rw [← h.keys_eq, List.mem_toFinset] at hkey
      exact hkey
    · rw [hkeys, List.toFinset_append, h.keys_eq]
      ext key
      simp

theorem after (postings : List EventPosting) (hbranch : ∀ p ∈ postings, p.input.branchId = branchId) :
    HasKeys branchId (Run.after GlCall.step J (postings.map EventPosting.call))
      (keys ∪ (postings.map fun p => p.event.key).toFinset) := by
  induction postings generalizing J keys with
  | nil => simpa using h
  | cons p postings ih =>
    have hp : p.input.branchId = branchId := hbranch p List.mem_cons_self
    have hnext := ih (h.entered hp p.now) fun q hq => hbranch q (List.mem_cons_of_mem p hq)
    rw [List.map_cons, Run.after_cons, p.step_call]
    rw [p.posts.key_eq] at hnext
    have hunion : insert p.event.key keys ∪ (postings.map fun p => p.event.key).toFinset =
        keys ∪ ((p :: postings).map fun p => p.event.key).toFinset := by
      ext key
      simp only [Finset.mem_union, Finset.mem_insert, List.map_cons, List.toFinset_cons]
      tauto
    rwa [hunion] at hnext

end

end HasKeys

theorem length_entries_after_iff (branchId : ℕ) (postings : List EventPosting)
    (hbranch : ∀ p ∈ postings, p.input.branchId = branchId) :
    (Run.after GlCall.step emptyJournal (postings.map EventPosting.call)).entries.length =
        (postings.map EventPosting.event).toFinset.card ↔
      ∀ p ∈ postings, ∀ p' ∈ postings, ¬ Clash p.event p'.event := by
  have hempty : HasKeys branchId emptyJournal ∅ :=
    ⟨fun _ hentry => absurd hentry List.not_mem_nil, List.nodup_nil, rfl⟩
  have hkeys := hempty.after postings hbranch
  have himage : (∅ ∪ (postings.map fun p => p.event.key).toFinset : Finset String) =
      (postings.map EventPosting.event).toFinset.image FinancialEvent.key := by
    ext key
    simp
  rw [himage] at hkeys
  have hlength : (Run.after GlCall.step emptyJournal
      (postings.map EventPosting.call)).entries.length =
        ((postings.map EventPosting.event).toFinset.image FinancialEvent.key).card := by
    rw [← hkeys.keys_eq, List.toFinset_card_of_nodup hkeys.nodup, List.length_map]
  rw [hlength, Finset.card_image_iff]
  constructor
  · intro hinj p hp p' hp' hclash
    have hevent : ∀ q ∈ postings, q.event ∈ (postings.map EventPosting.event).toFinset := by
      intro q hq
      exact List.mem_toFinset.mpr (List.mem_map_of_mem hq)
    have heq : p.event = p'.event :=
      hinj (hevent p hp) (hevent p' hp') ((key_eq_iff _ _).mpr (.inr hclash))
    rw [heq] at hclash
    exact not_clash_self _ hclash
  · intro hnone e he e' he' hkey
    obtain ⟨p, hp, rfl⟩ := List.mem_map.mp (List.mem_toFinset.mp he)
    obtain ⟨p', hp', rfl⟩ := List.mem_map.mp (List.mem_toFinset.mp he')
    rcases (key_eq_iff _ _).mp hkey with heq | hclash
    · exact heq
    · exact absurd hclash (hnone p hp p' hp')

/-! ### Attempts -/

/-- What a client asks for, and may ask for again. -/
inductive FinancialRequest where
  | checkout (dto : IngestPosCheckoutDto)
  | settlement (dto : SettleReceivableDto)
  | payment (bookingId : ℕ) (dto : RecordPropertyPaymentDto)

namespace FinancialRequest

/-- The event that the request is recorded as: `n` is the number that the server gives, the id of a
checkout or how many payments the booking had before. -/
def event : FinancialRequest → ℕ → FinancialEvent
  | checkout dto, n => .checkout (.of (trimmed dto.idempotencyKey) n)
  | settlement dto, _ => .settlement dto.idempotencyKey
  | payment bookingId dto, n => .payment bookingId (.of (trimmed dto.idempotencyKey) n)

def Keyed : FinancialRequest → Prop
  | checkout dto => trimmed dto.idempotencyKey ≠ none
  | settlement _ => True
  | payment _ dto => trimmed dto.idempotencyKey ≠ none

end FinancialRequest

theorem trimmed_ne_empty {text : Option String} {key : String} (h : trimmed text = some key) : key ≠ "" := by
  have hkey := (Option.filter_eq_some_iff.mp h).2
  simpa using hkey

theorem of_trimmed_eq_iff (text : Option String) (n n' : ℕ) :
    EventRef.of (trimmed text) n = EventRef.of (trimmed text) n' ↔ trimmed text ≠ none ∨ n = n' := by
  cases h : trimmed text with
  | none => simp [EventRef.of]
  | some key =>
    rw [EventRef.of_some (trimmed_ne_empty h), EventRef.of_some (trimmed_ne_empty h)]
    simp

/-- Two attempts are recorded as one event exactly when the client gave a key, or nothing was stored
between them. -/
theorem event_eq_iff (request : FinancialRequest) (n n' : ℕ) :
    request.event n = request.event n' ↔ request.Keyed ∨ n = n' := by
  cases request with
  | checkout dto =>
    simp only [FinancialRequest.event, FinancialRequest.Keyed, FinancialEvent.checkout.injEq]
    exact of_trimmed_eq_iff _ n n'
  | settlement dto => simp [FinancialRequest.event, FinancialRequest.Keyed]
  | payment bookingId dto =>
    simp only [FinancialRequest.event, FinancialRequest.Keyed, FinancialEvent.payment.injEq, true_and]
    exact of_trimmed_eq_iff _ n n'

theorem not_clash_event (request : FinancialRequest) (n n' : ℕ) : ¬ Clash (request.event n) (request.event n') := by
  have href : ∀ text : Option String, ¬ (EventRef.of (trimmed text) n).Clashes (EventRef.of (trimmed text) n') := by
    intro text
    cases h : trimmed text with
    | none => exact id
    | some key =>
      rw [EventRef.of_some (trimmed_ne_empty h), EventRef.of_some (trimmed_ne_empty h)]
      exact id
  cases request with
  | checkout dto => exact href _
  | settlement dto => exact id
  | payment bookingId dto => exact fun hclash => href _ hclash.2

/-! ### The keys of events -/

/-- **When keys identify events.**  The keys identify two events if and only if these do not clash.  In
every run of postings of one branch, with retries or not, each event has an entry of its own if and only
if no two of the events clash.  Two attempts of one request are posted under one key if and only if the
client gave a key or nothing was stored between them. -/
theorem keys_identify_events_iff (e e' : FinancialEvent) (branchId : ℕ) (postings : List EventPosting)
    (hbranch : ∀ p ∈ postings, p.input.branchId = branchId) (request : FinancialRequest) (n n' : ℕ) :
    (Identified e e' ↔ ¬ Clash e e') ∧
    ((Run.after GlCall.step emptyJournal (postings.map EventPosting.call)).entries.length =
        (postings.map EventPosting.event).toFinset.card ↔
      ∀ p ∈ postings, ∀ p' ∈ postings, ¬ Clash p.event p'.event) ∧
    ((∀ i i', Posts (request.event n) i → Posts (request.event n') i' →
        i.idempotencyKey = i'.idempotencyKey) ↔ request.Keyed ∨ n = n') := by
  refine ⟨identified_iff e e', length_entries_after_iff branchId postings hbranch, ?_⟩
  rw [← event_eq_iff]
  constructor
  · intro h
    obtain ⟨i, hi, -⟩ := exists_posts (request.event n) 1
    obtain ⟨i', hi', -⟩ := exists_posts (request.event n') 1
    have hkey := h i i' hi hi'
    rw [hi.key_eq, hi'.key_eq, key_eq_iff] at hkey
    exact hkey.resolve_right (not_clash_event request n n')
  · intro h i i' hi hi'
    rw [hi.key_eq, hi'.key_eq, h]

def serviceWithKey (key : String) : IngestPosCheckoutDto :=
  { serviceForTen with idempotencyKey := some key }

def servicePosting (id : ℕ) (dto : IngestPosCheckoutDto)
    (accepted : assertBalanced (checkoutEntry plainCheckoutRuntime id (ingestedRow dto)
      { recognitionBasis := some "CASH" }) = .ok ()) : EventPosting where
  event := .checkout (.of (ingestedRow dto).idempotencyKey id)
  input := checkoutEntry plainCheckoutRuntime id (ingestedRow dto) { recognitionBasis := some "CASH" }
  now := 0
  posts := .checkout ..
  accepted

/-- A sale with a key, its retry, and a sale without a key: two entries. -/
theorem keys_identify_events_sales :
    let keyed := servicePosting 1 (serviceWithKey "till-1") (by decide +kernel)
    let unkeyed := servicePosting 2 serviceForTen (by decide +kernel)
    (Run.after GlCall.step emptyJournal ([keyed, keyed, unkeyed].map EventPosting.call)).entries.length =
        ([keyed, keyed, unkeyed].map EventPosting.event).toFinset.card ∧
      ([keyed, keyed, unkeyed].map EventPosting.event).toFinset.card = 2 := by
  intro keyed unkeyed
  have hkeyed : keyed.event = .checkout (.keyed "till-1" (by decide)) := by decide
  have hunkeyed : unkeyed.event = .checkout (.numbered 2) := by decide
  have hbranch : ∀ p ∈ [keyed, keyed, unkeyed], p.input.branchId = 1 := by
    intro p hp
    simp only [List.mem_cons, List.not_mem_nil, or_false] at hp
    rcases hp with rfl | rfl | rfl <;> decide
  obtain ⟨-, hruns, -⟩ := keys_identify_events_iff keyed.event unkeyed.event 1 [keyed, keyed, unkeyed]
    hbranch (.checkout serviceForTen) 1 2
  refine ⟨hruns.mpr ?_, ?_⟩
  · have hne : "till-1" ≠ Nat.repr 2 := by decide
    intro p hp p' hp'
    simp only [List.mem_cons, List.not_mem_nil, or_false] at hp hp'
    rcases hp with rfl | rfl | rfl <;> rcases hp' with rfl | rfl | rfl <;>
      simp [hkeyed, hunkeyed, Clash, EventRef.Clashes, hne]
  · decide

/-- Two services for ten are sold and processed, the first with the key of the client, the second without
one: the id of the second is that key, so that its entry is taken for a replay and not posted. -/
theorem second_sale_swallowed :
    let env := plainCheckoutRuntime
    let first := (ingest env (serviceWithKey "2") {}).run tenInTheShop
    let second := (ingest env serviceForTen {}).run first.2
    first.1 = .ok (1, ingestedRow (serviceWithKey "2")) ∧
      second.1 = .ok (2, ingestedRow serviceForTen) ∧
      ledgerKeyForCheckout 1 (ingestedRow (serviceWithKey "2")) = "pos-checkout-2" ∧
      ledgerKeyForCheckout 2 (ingestedRow serviceForTen) = "pos-checkout-2" ∧
      first.2.journal.entries.length = 1 ∧ second.2.journal = first.2.journal ∧
      ¬ Identified (.checkout (.of (ingestedRow (serviceWithKey "2")).idempotencyKey 1))
        (.checkout (.of (ingestedRow serviceForTen).idempotencyKey 2)) := by
  refine ⟨by decide +kernel, by decide +kernel, by decide +kernel, by decide +kernel,
    by decide +kernel, by decide +kernel, ?_⟩
  intro h
  have hclash := (identified_iff _ _).mp h
  apply hclash
  show "2" = toString 2
  decide

end SuuqBackend
