import SuuqBackend.Lib.Interleave
import SuuqBackend.ProductRequests.ProductRequests

/-!
# What becomes of requests and their offers

One lemma for what each call leaves (`run_createOffer`, `run_acceptOffer`, `run_updateStatusAsBuyer`, …), and
`step_cases` for all of them.

In a `Consistent` store an accepted offer is the one that its request names, and has fulfilled it.  `acceptOffer` tests
neither that the request is still to be fulfilled nor the status of the offer; `offers_consistent_iff` says which of its
calls then break what was agreed.
-/

namespace SuuqBackend

open Proc ProductRequests SerialTable

/-- The request is `CANCELLED` or `FULFILLED`. -/
def ProductRequest.IsClosed (request : ProductRequest) : Prop :=
  request.status = .cancelled ∨ request.status = .fulfilled
deriving Decidable

/-- The offer is `WITHDRAWN` or `REJECTED`. -/
def ProductRequestOffer.IsDeclined (offer : ProductRequestOffer) : Prop :=
  offer.status = .withdrawn ∨ offer.status = .rejected
deriving Decidable

/-! ### What the calls leave -/

section Calls

variable {toUpperCase : String → String} {now : ℤ} {s : ProductRequestStore}

variable (sellerId : ℕ) (sellerRoles : List UserRole)

theorem onlyReads_respondedRequest (requestId : ℕ) : (respondedRequest sellerId requestId).OnlyReads := by
  refine OnlyReads.bind (onlyReads_read _) fun found => ?_
  cases found with
  | none => exact onlyReads_throw _
  | some request =>
    refine OnlyReads.bind (onlyReads_throwIf _ _) fun _ => ?_
    exact OnlyReads.bind (onlyReads_throwIf _ _) fun _ => onlyReads_pure _

theorem onlyReads_offeredProduct (productId : Option ℕ) : (offeredProduct sellerId productId).OnlyReads := by
  cases productId with
  | none => exact onlyReads_pure _
  | some productId =>
    refine OnlyReads.bind (onlyReads_read _) fun found => ?_
    cases found with
    | none => exact onlyReads_throw _
    | some product => exact OnlyReads.bind (onlyReads_throwIf _ _) fun _ => onlyReads_pure _

theorem onlyReads_checkCurrency (requested offered : Option String) : (checkCurrency requested offered).OnlyReads := by
  unfold checkCurrency
  split
  · exact onlyReads_throwIf _ _
  · exact onlyReads_pure _

theorem onlyReads_prepareOffer (requestId : ℕ) (dto : CreateProductRequestOfferDto) :
    (prepareOffer toUpperCase sellerId sellerRoles requestId dto).OnlyReads := by
  refine OnlyReads.bind (onlyReads_throwIf _ _) fun _ => ?_
  refine OnlyReads.bind (onlyReads_respondedRequest sellerId requestId) fun request => ?_
  refine OnlyReads.bind (onlyReads_read _) fun currentOfferCount => ?_
  refine OnlyReads.bind (onlyReads_throwIf _ _) fun _ => ?_
  refine OnlyReads.bind (onlyReads_offeredProduct sellerId _) fun product => ?_
  refine OnlyReads.bind (onlyReads_read _) fun existingOffer => ?_
  refine OnlyReads.bind (onlyReads_throwIf _ _) fun _ => ?_
  exact OnlyReads.bind (onlyReads_checkCurrency _ _) fun _ => onlyReads_pure _

theorem returns_prepareOffer (requestId : ℕ) (dto : CreateProductRequestOfferDto) :
    (prepareOffer toUpperCase sellerId sellerRoles requestId dto).Returns fun prepared =>
      prepared.2.requestId = requestId ∧ prepared.2.sellerId = sellerId ∧ prepared.2.status = .sent := by
  refine returns_bind _ fun _ => returns_bind _ fun request => returns_bind _ fun count => ?_
  refine returns_bind _ fun _ => returns_bind _ fun product => returns_bind _ fun existing => ?_
  exact returns_bind _ fun _ => returns_bind _ fun _ => ⟨rfl, rfl, rfl⟩

variable {request : ProductRequest} {requestId buyerId : ℕ}

variable {s' : ProductRequestStore} {offer : ProductRequestOffer}

theorem run_respondedRequest_eq_ok {sellerId : ℕ}
    (h : run (respondedRequest sellerId requestId) s = (.ok request, s')) :
    s.findRequest requestId = some request ∧ (request.status = .opened ∨ request.status = .inProgress) := by
  unfold respondedRequest at h
  rw [run_read_bind] at h
  cases hfound : s.findRequest requestId with
  | none =>
    rw [hfound] at h
    cases h
  | some found =>
    rw [hfound] at h
    rw [run_throwIf_bind] at h
    split_ifs at h with hclosed
    · cases h
    · rw [run_throwIf_bind] at h
      split_ifs at h
      · cases h
      · cases h
        exact ⟨rfl, by tauto⟩

theorem find_of_prepareOffer {sellerId : ℕ} {sellerRoles : List UserRole} {dto : CreateProductRequestOfferDto}
    (h : (run (prepareOffer toUpperCase sellerId sellerRoles requestId dto) s).1 = .ok (request, offer)) :
    s.findRequest requestId = some request ∧ (request.status = .opened ∨ request.status = .inProgress) := by
  have hrun : run (prepareOffer toUpperCase sellerId sellerRoles requestId dto) s = (.ok (request, offer), s) :=
    Prod.ext h ((onlyReads_prepareOffer sellerId sellerRoles requestId dto).readOnly s)
  obtain ⟨_, s₁, hrole, hrun⟩ := run_bind_eq_ok.mp hrun
  obtain rfl := (readOnly_throwIf _ _).eq_of_run hrole
  obtain ⟨found, s₂, hfound, hrun⟩ := run_bind_eq_ok.mp hrun
  iterate 6 obtain ⟨_, _, _, hrun⟩ := run_bind_eq_ok.mp hrun
  cases hrun
  exact run_respondedRequest_eq_ok hfound

def ProductRequestStore.offered (s : ProductRequestStore) (requestId : ℕ) (status : ProductRequestStatus)
    (offer : ProductRequestOffer) : ProductRequestStore :=
  if status = .opened then (s.addOffer offer).putInProgress requestId else s.addOffer offer

theorem run_createOffer (requestId : ℕ) (dto : CreateProductRequestOfferDto) :
    (run (createOffer toUpperCase sellerId sellerRoles requestId dto) s).2 =
      match (run (prepareOffer toUpperCase sellerId sellerRoles requestId dto) s).1 with
      | .ok (request, offer) => s.offered requestId request.status offer
      | .error _ => s := by
  unfold createOffer
  rw [(onlyReads_prepareOffer sellerId sellerRoles requestId dto).readOnly.snd_run_bind]
  cases (run (prepareOffer toUpperCase sellerId sellerRoles requestId dto) s).1 with
  | error e => rfl
  | ok prepared =>
    unfold startProgress ProductRequestStore.offered
    dsimp only
    split_ifs <;> rfl

theorem run_withdrawOffer (requestId : ℕ) : (run (withdrawOffer sellerId requestId) s).2 =
    match s.offers.first fun offer => offer.IsActiveOf requestId sellerId with
    | none => s
    | some (offerId, offer) => s.saveOffer offerId { offer with status := .withdrawn } := by
  unfold withdrawOffer
  rw [run_read_bind]
  cases s.offers.first fun offer => offer.IsActiveOf requestId sellerId <;> rfl

theorem run_lockedRequest_eq_ok :
    run (lockedRequest buyerId requestId) s = (.ok request, s') ↔
      s.findRequest requestId = some request ∧ request.buyerId = buyerId ∧ s' = s := by
  unfold lockedRequest
  rw [run_read_bind]
  cases hfound : (s.findRequest requestId).filter fun request => request.buyerId = buyerId with
  | none =>
    rw [Option.filter_eq_none_iff] at hfound
    refine iff_of_false (fun h => by cases h) fun ⟨h, hbuyer, _⟩ => ?_
    exact hfound request h (decide_eq_true hbuyer)
  | some found =>
    obtain ⟨hfind, hbuyer⟩ := Option.filter_eq_some_iff.mp hfound
    rw [hfind, Option.some.injEq]
    constructor
    · intro h
      cases h
      exact ⟨rfl, of_decide_eq_true hbuyer, rfl⟩
    · rintro ⟨rfl, -, rfl⟩
      rfl

theorem readOnly_lockedRequest (buyerId requestId : ℕ) : (lockedRequest buyerId requestId).ReadOnly := by
  refine ReadOnly.bind (readOnly_read _) fun found => ?_
  split
  · exact readOnly_throw _
  · exact readOnly_pure _

theorem readOnly_acceptedPair (buyerId requestId offerId : ℕ) : (acceptedPair buyerId requestId offerId).ReadOnly := by
  refine ReadOnly.bind (readOnly_lockedRequest buyerId requestId) fun request => ?_
  refine ReadOnly.bind (readOnly_throwIf _ _) fun _ => ?_
  refine ReadOnly.bind (readOnly_read _) fun found => ?_
  cases found with
  | none => exact readOnly_throw _
  | some offer => exact readOnly_pure _

/-- What `acceptOffer` finds. -/
structure FindsPair (s : ProductRequestStore) (buyerId requestId offerId : ℕ) (request : ProductRequest)
    (offer : ProductRequestOffer) : Prop where
  requestFound : s.findRequest requestId = some request
  buyer : request.buyerId = buyerId
  notCancelled : request.status ≠ .cancelled
  offerFound : s.offers.find offerId = some offer
  ofRequest : offer.requestId = requestId

theorem findsPair_of_run {offerId : ℕ} (h : (run (acceptedPair buyerId requestId offerId) s).1 = .ok (request, offer)) :
    FindsPair s buyerId requestId offerId request offer := by
  have hrun : run (acceptedPair buyerId requestId offerId) s = (.ok (request, offer), s) :=
    Prod.ext h (readOnly_acceptedPair buyerId requestId offerId s)
  obtain ⟨found, s₁, hlocked, hrun⟩ := run_bind_eq_ok.mp hrun
  obtain ⟨hrequest, hbuyer, rfl⟩ := run_lockedRequest_eq_ok.mp hlocked
  rw [run_throwIf_bind] at hrun
  split_ifs at hrun with hcancelled
  · cases hrun
  · rw [run_read_bind] at hrun
    cases hoffer : (s₁.offers.find offerId).filter fun offer => offer.requestId = requestId with
    | none =>
      rw [hoffer] at hrun
      cases hrun
    | some foundOffer =>
      rw [hoffer] at hrun
      cases hrun
      obtain ⟨hfind, hid⟩ := Option.filter_eq_some_iff.mp hoffer
      exact ⟨hrequest, hbuyer, hcancelled, hfind, of_decide_eq_true hid⟩

section

variable (h : s.findRequest requestId = some request)

include h

theorem find_of_findRequest : s.requests.find requestId = some request := (Option.filter_eq_some_iff.mp h).1

theorem findRequest_saveRequest {request' : ProductRequest} (hdeleted : request'.deleted = request.deleted) :
    (s.saveRequest requestId request').findRequest requestId = some request' := by
  obtain ⟨hfind, hkept⟩ := Option.filter_eq_some_iff.mp h
  refine Option.filter_eq_some_iff.mpr ⟨find_set_self hfind request', ?_⟩
  rwa [hdeleted]

theorem run_findRequestForBuyer (hbuyer : request.buyerId = buyerId) :
    run (findRequestForBuyer buyerId requestId) s = (.ok request, s) := by
  have hfilter : (s.findRequest requestId).filter (fun request => request.buyerId = buyerId) = some request :=
    Option.filter_eq_some_iff.mpr ⟨h, decide_eq_true hbuyer⟩
  unfold findRequestForBuyer
  rw [run_read_bind, hfilter]
  rfl

end

def ProductRequestStore.accepted (s : ProductRequestStore) (now : ℤ) (requestId offerId : ℕ) (note : Option String)
    (request : ProductRequest) (offer : ProductRequestOffer) : ProductRequestStore :=
  (rejectOffers now requestId (some offerId)
    (s.saveOffer offerId { offer with status := .accepted, respondedAt := some now })).saveRequest requestId
      (fulfilledRequest now offerId note request)

theorem run_acceptOffer (buyerId requestId offerId : ℕ) (note : Option String) :
    (run (acceptOffer now buyerId requestId offerId note) s).2 =
      match (run (acceptedPair buyerId requestId offerId) s).1 with
      | .ok (request, offer) => s.accepted now requestId offerId note request offer
      | .error _ => s := by
  unfold acceptOffer
  rw [run_transaction, run_bind]
  have hread := readOnly_acceptedPair buyerId requestId offerId s
  rcases hpair : run (acceptedPair buyerId requestId offerId) s with ⟨e | ⟨request, offer⟩, s'⟩
  · rfl
  · rw [hpair] at hread
    obtain rfl : s' = s := hread
    have hfound : FindsPair s' buyerId requestId offerId request offer := findsPair_of_run (congrArg Prod.fst hpair)
    have hsaved : (s'.accepted now requestId offerId note request offer).findRequest requestId =
        some (fulfilledRequest now offerId note request) :=
      findRequest_saveRequest (s := rejectOffers now requestId (some offerId) (s'.saveOffer offerId _))
        hfound.requestFound rfl
    have hread := run_findRequestForBuyer hsaved hfound.buyer
    unfold ProductRequestStore.accepted at hread
    dsimp only
    rw [run_write_bind, run_write_bind, run_write_bind, hread]
    rfl

def ProductRequestStore.closed (s : ProductRequestStore) (now : ℤ) (dto : UpdateProductRequestStatusDto)
    (requestId : ℕ) (request : ProductRequest) : ProductRequestStore :=
  (closeOffers now requestId dto.status s).saveRequest requestId (closedRequest now dto request)

theorem findRequest_closeOffers (requestId : ℕ) (status : ProductRequestStatus) :
    (closeOffers now requestId status s).findRequest requestId = s.findRequest requestId := by
  unfold closeOffers
  split_ifs <;> rfl

theorem run_updateStatusAsBuyer (buyerId requestId : ℕ) (dto : UpdateProductRequestStatusDto) :
    (run (updateStatusAsBuyer now buyerId requestId dto) s).2 = s ∨
      ∃ request, s.findRequest requestId = some request ∧ ¬ request.IsClosed ∧
        (dto.status = .cancelled ∨ dto.status = .fulfilled) ∧
        (run (updateStatusAsBuyer now buyerId requestId dto) s).2 = s.closed now dto requestId request := by
  unfold updateStatusAsBuyer
  rw [run_throwIf_bind]
  split_ifs with hstatus
  · exact .inl rfl
  rw [run_transaction, run_bind]
  rcases hlocked : run (lockedRequest buyerId requestId) s with ⟨e | request, s'⟩
  · exact .inl rfl
  obtain ⟨hfound, hbuyer, rfl⟩ := run_lockedRequest_eq_ok.mp hlocked
  dsimp only
  split_ifs with hclosed
  · rw [run_findRequestForBuyer hfound hbuyer]
    exact .inl rfl
  · have hsaved : (s'.closed now dto requestId request).findRequest requestId = some (closedRequest now dto request) :=
      findRequest_saveRequest (s := closeOffers now requestId dto.status s')
        ((findRequest_closeOffers requestId dto.status).trans hfound) rfl
    have hread := run_findRequestForBuyer hsaved hbuyer
    unfold ProductRequestStore.closed at hread
    rw [run_write_bind, run_write_bind, hread]
    exact .inr ⟨request, hfound, hclosed, by tauto, rfl⟩

theorem run_rejectOffer (buyerId requestId offerId : ℕ) (note : Option String) :
    (run (rejectOffer now buyerId requestId offerId note) s).2 = s ∨
      ∃ offer, s.offers.find offerId = some offer ∧ offer.status ≠ .accepted ∧
        (run (rejectOffer now buyerId requestId offerId note) s).2 =
          s.saveOffer offerId (rejectedOffer now note offer) := by
  unfold rejectOffer
  rw [run_read_bind]
  cases hoffer : (s.offers.find offerId).filter fun offer => offer.requestId = requestId with
  | none => exact .inl rfl
  | some offer =>
    rw [run_read_bind]
    cases s.findRequest requestId with
    | none => exact .inl rfl
    | some request =>
      rw [run_throwIf_bind]
      split_ifs with hbuyer hanswered
      · exact .inl rfl
      · exact .inl rfl
      · exact .inr ⟨offer, (Option.filter_eq_some_iff.mp hoffer).1, by tauto, rfl⟩

end Calls

/-! ### What they keep -/

namespace ProductRequestStore

/-- An accepted offer is the one that its request names, and has fulfilled it. -/
def Consistent (s : ProductRequestStore) : Prop :=
  ∀ offerId offer, s.offers.find offerId = some offer → offer.status = .accepted →
    ∃ request, s.requests.find offer.requestId = some request ∧ request.status = .fulfilled ∧
      request.acceptedOfferId = some offerId

structure NamesAccepted (s : ProductRequestStore) : Prop where
  named : ∀ offerId offer, s.offers.find offerId = some offer → offer.status = .accepted →
    ∃ request, s.requests.find offer.requestId = some request ∧ request.acceptedOfferId = some offerId
  single : ∀ offerId offer offerId' offer', s.offers.find offerId = some offer →
    s.offers.find offerId' = some offer' → offer.requestId = offer'.requestId →
    offer.status = .accepted → offer'.status = .accepted → offerId = offerId'

theorem Consistent.namesAccepted {s : ProductRequestStore} (h : s.Consistent) : s.NamesAccepted where
  named offerId offer hfind haccepted := by
    obtain ⟨request, hrequest, -, hnamed⟩ := h offerId offer hfind haccepted
    exact ⟨request, hrequest, hnamed⟩
  single offerId offer offerId' offer' hfind hfind' hid haccepted haccepted' := by
    obtain ⟨request, hrequest, -, hnamed⟩ := h offerId offer hfind haccepted
    obtain ⟨request', hrequest', -, hnamed'⟩ := h offerId' offer' hfind' haccepted'
    rw [← hid, hrequest] at hrequest'
    obtain rfl := Option.some.inj hrequest'
    exact Option.mem_unique hnamed hnamed'

end ProductRequestStore

/-- What was answered in the first state still stands in the second one: a declined offer is not accepted, and a closed
request neither changes its status nor gains an accepted offer. -/
structure KeepsAnswers (s s' : ProductRequestStore) : Prop where
  declined : ∀ offerId offer offer', s.offers.find offerId = some offer → s'.offers.find offerId = some offer' →
    offer.IsDeclined → offer'.status ≠ .accepted
  closed : ∀ requestId request request', s.requests.find requestId = some request →
    s'.requests.find requestId = some request' → request.IsClosed → request'.status = request.status
  gains : ∀ requestId request, s.requests.find requestId = some request → request.IsClosed →
    ∀ offerId offer', s'.offers.find offerId = some offer' → offer'.requestId = requestId →
      offer'.status = .accepted → ∃ offer, s.offers.find offerId = some offer ∧ offer.status = .accepted

/-- The same, as it carries over from state to state. -/
structure Follows (s s' : ProductRequestStore) : Prop where
  declined : ∀ offerId offer, s.offers.find offerId = some offer → offer.IsDeclined →
    ∃ offer', s'.offers.find offerId = some offer' ∧ offer'.IsDeclined
  closed : ∀ requestId request, s.requests.find requestId = some request → request.IsClosed →
    ∃ request', s'.requests.find requestId = some request' ∧ request'.status = request.status
  gains : ∀ offerId offer', s'.offers.find offerId = some offer' → offer'.status = .accepted →
    (∃ offer, s.offers.find offerId = some offer ∧ offer.requestId = offer'.requestId ∧ offer.status = .accepted) ∨
      ∀ request, s.requests.find offer'.requestId = some request → ¬ request.IsClosed

theorem ProductRequestOffer.IsDeclined.ne_accepted {offer : ProductRequestOffer} (h : offer.IsDeclined) :
    offer.status ≠ .accepted := by
  rcases h with hstatus | hstatus <;> simp [hstatus]

theorem Follows.keepsAnswers {s s' : ProductRequestStore} (h : Follows s s') : KeepsAnswers s s' where
  declined offerId offer offer' hfind hfind' hdeclined := by
    obtain ⟨found, hfound, hstill⟩ := h.declined offerId offer hfind hdeclined
    obtain rfl := Option.mem_unique hfound hfind'
    exact hstill.ne_accepted
  closed requestId request request' hfind hfind' hclosed := by
    obtain ⟨found, hfound, hstatus⟩ := h.closed requestId request hfind hclosed
    obtain rfl := Option.mem_unique hfound hfind'
    exact hstatus
  gains requestId request hfind hclosed offerId offer' hfind' hid haccepted := by
    subst hid
    rcases h.gains offerId offer' hfind' haccepted with ⟨offer, hoffer, -, hbefore⟩ | hopen
    · exact ⟨offer, hoffer, hbefore⟩
    · exact absurd hclosed (hopen request hfind)

theorem ProductRequest.IsClosed.of_status {request request' : ProductRequest} (h : request.IsClosed)
    (hstatus : request'.status = request.status) : request'.IsClosed := by
  unfold ProductRequest.IsClosed
  rw [hstatus]
  exact h

theorem Follows.refl (s : ProductRequestStore) : Follows s s where
  declined _ offer hfind hdeclined := ⟨offer, hfind, hdeclined⟩
  closed _ request hfind _ := ⟨request, hfind, rfl⟩
  gains _ offer' hfind haccepted := .inl ⟨offer', hfind, rfl, haccepted⟩

theorem Follows.trans {s₁ s₂ s₃ : ProductRequestStore} (h : Follows s₁ s₂) (h' : Follows s₂ s₃) : Follows s₁ s₃ where
  declined offerId offer hfind hdeclined := by
    obtain ⟨offer₂, hfind₂, hdeclined₂⟩ := h.declined offerId offer hfind hdeclined
    exact h'.declined offerId offer₂ hfind₂ hdeclined₂
  closed requestId request hfind hclosed := by
    obtain ⟨request₂, hfind₂, hstatus₂⟩ := h.closed requestId request hfind hclosed
    obtain ⟨request₃, hfind₃, hstatus₃⟩ := h'.closed requestId request₂ hfind₂ (hclosed.of_status hstatus₂)
    exact ⟨request₃, hfind₃, hstatus₃.trans hstatus₂⟩
  gains offerId offer' hfind haccepted := by
    rcases h'.gains offerId offer' hfind haccepted with ⟨offer₂, hfind₂, hid₂, haccepted₂⟩ | hopen₂
    · rw [← hid₂]
      exact h.gains offerId offer₂ hfind₂ haccepted₂
    · refine .inr fun request hrequest hclosed => ?_
      obtain ⟨request₂, hrequest₂, hstatus₂⟩ := h.closed _ request hrequest hclosed
      exact hopen₂ request₂ hrequest₂ (hclosed.of_status hstatus₂)

/-- Nothing is accepted, declined offers stay so, and closed requests keep their status and the offer they name. -/
structure AcceptsNone (s s' : ProductRequestStore) : Prop where
  answers : ∀ offerId offer', s'.offers.find offerId = some offer' → offer'.status = .accepted →
    ∃ offer, s.offers.find offerId = some offer ∧ offer.requestId = offer'.requestId ∧ offer.status = .accepted
  declined : ∀ offerId offer, s.offers.find offerId = some offer → offer.IsDeclined →
    ∃ offer', s'.offers.find offerId = some offer' ∧ offer'.IsDeclined
  closed : ∀ requestId request, s.requests.find requestId = some request → request.IsClosed →
    ∃ request', s'.requests.find requestId = some request' ∧ request'.status = request.status ∧
      request'.acceptedOfferId = request.acceptedOfferId

namespace AcceptsNone

variable {s s₁ s₂ s₃ : ProductRequestStore}

theorem refl (s : ProductRequestStore) : AcceptsNone s s where
  answers _ offer' hfind haccepted := ⟨offer', hfind, rfl, haccepted⟩
  declined _ offer hfind hdeclined := ⟨offer, hfind, hdeclined⟩
  closed _ request hfind _ := ⟨request, hfind, rfl, rfl⟩

theorem trans (h : AcceptsNone s₁ s₂) (h' : AcceptsNone s₂ s₃) : AcceptsNone s₁ s₃ where
  answers offerId offer' hfind haccepted := by
    obtain ⟨offer₂, hfind₂, hid₂, haccepted₂⟩ := h'.answers offerId offer' hfind haccepted
    obtain ⟨offer, hfind, hid, haccepted⟩ := h.answers offerId offer₂ hfind₂ haccepted₂
    exact ⟨offer, hfind, hid.trans hid₂, haccepted⟩
  declined offerId offer hfind hdeclined := by
    obtain ⟨offer₂, hfind₂, hdeclined₂⟩ := h.declined offerId offer hfind hdeclined
    exact h'.declined offerId offer₂ hfind₂ hdeclined₂
  closed requestId request hfind hclosed := by
    obtain ⟨request₂, hfind₂, hstatus₂, hnamed₂⟩ := h.closed requestId request hfind hclosed
    obtain ⟨request₃, hfind₃, hstatus₃, hnamed₃⟩ := h'.closed requestId request₂ hfind₂ (hclosed.of_status hstatus₂)
    exact ⟨request₃, hfind₃, hstatus₃.trans hstatus₂, hnamed₃.trans hnamed₂⟩

theorem consistent (h : AcceptsNone s₁ s₂) (hconsistent : s₁.Consistent) : s₂.Consistent := by
  intro offerId offer' hfind haccepted
  obtain ⟨offer, hoffer, hid, hbefore⟩ := h.answers offerId offer' hfind haccepted
  obtain ⟨request, hrequest, hfulfilled, hnamed⟩ := hconsistent offerId offer hoffer hbefore
  obtain ⟨request', hrequest', hstatus, hsame⟩ := h.closed _ request hrequest (.inr hfulfilled)
  rw [← hid]
  exact ⟨request', hrequest', hstatus.trans hfulfilled, hsame.trans hnamed⟩

theorem follows (h : AcceptsNone s₁ s₂) : Follows s₁ s₂ where
  declined := h.declined
  closed requestId request hfind hclosed := by
    obtain ⟨request', hfind', hstatus, -⟩ := h.closed requestId request hfind hclosed
    exact ⟨request', hfind', hstatus⟩
  gains offerId offer' hfind haccepted := .inl (h.answers offerId offer' hfind haccepted)

theorem addOffer {offer : ProductRequestOffer} (h : offer.status ≠ .accepted) : AcceptsNone s (s.addOffer offer) where
  answers offerId offer' hfind haccepted := by
    rcases eq_or_find_of_find_add hfind with ⟨-, rfl⟩ | hold
    · exact absurd haccepted h
    · exact ⟨offer', hold, rfl, haccepted⟩
  declined _ other hfind hdeclined := ⟨other, find_add_of_find hfind offer, hdeclined⟩
  closed _ request hfind _ := ⟨request, hfind, rfl, rfl⟩

theorem saveOffer {offerId : ℕ} {offer : ProductRequestOffer} (h : offer.IsDeclined) :
    AcceptsNone s (s.saveOffer offerId offer) where
  answers id offer' hfind haccepted := by
    rcases eq_or_find_of_find_set hfind with ⟨-, rfl⟩ | ⟨-, hold⟩
    · exact absurd haccepted h.ne_accepted
    · exact ⟨offer', hold, rfl, haccepted⟩
  declined id other hfind hdeclined := by
    by_cases hid : id = offerId
    · subst hid
      exact ⟨offer, find_set_self hfind offer, h⟩
    · exact ⟨other, (find_set_of_ne s.offers offer hid).trans hfind, hdeclined⟩
  closed _ request hfind _ := ⟨request, hfind, rfl, rfl⟩

theorem saveRequest {requestId : ℕ} {request : ProductRequest} (h : s.requests.find requestId = some request)
    (hopen : ¬ request.IsClosed) (request' : ProductRequest) : AcceptsNone s (s.saveRequest requestId request') where
  answers _ offer' hfind haccepted := ⟨offer', hfind, rfl, haccepted⟩
  declined _ offer hfind hdeclined := ⟨offer, hfind, hdeclined⟩
  closed id other hfind hclosed := by
    by_cases hid : id = requestId
    · subst hid
      obtain rfl := Option.mem_unique h hfind
      exact absurd hclosed hopen
    · exact ⟨other, (find_set_of_ne s.requests request' hid).trans hfind, rfl, rfl⟩

end AcceptsNone

section Reject

variable (now : ℤ) (requestId : ℕ) (acceptedId : Option ℕ) (offerId : ℕ) (offer : ProductRequestOffer)

@[simp] theorem requestId_rejectActive : (rejectActive now requestId acceptedId offerId offer).requestId =
    offer.requestId := by
  unfold rejectActive
  split_ifs <;> rfl

theorem rejectActive_cases : rejectActive now requestId acceptedId offerId offer = offer ∨
    offer.status ∈ ProductRequestOfferStatus.active ∧
      (rejectActive now requestId acceptedId offerId offer).status = .rejected := by
  unfold rejectActive
  split_ifs with h
  · exact .inr ⟨h.2.2, rfl⟩
  · exact .inl rfl

theorem status_rejectActive_eq_accepted_iff :
    (rejectActive now requestId acceptedId offerId offer).status = .accepted ↔ offer.status = .accepted := by
  rcases rejectActive_cases now requestId acceptedId offerId offer with hsame | ⟨hactive, hrejected⟩
  · rw [hsame]
  · rw [hrejected]
    refine iff_of_false (by decide) fun haccepted => ?_
    rw [haccepted] at hactive
    revert hactive
    decide

variable {offer} in
theorem ProductRequestOffer.IsDeclined.rejectActive (h : offer.IsDeclined) :
    (ProductRequests.rejectActive now requestId acceptedId offerId offer).IsDeclined := by
  rcases rejectActive_cases now requestId acceptedId offerId offer with hsame | ⟨-, hrejected⟩
  · rwa [hsame]
  · exact .inr hrejected

end Reject

theorem AcceptsNone.rejectOffers (now : ℤ) (requestId : ℕ) (acceptedId : Option ℕ) (s : ProductRequestStore) :
    AcceptsNone s (rejectOffers now requestId acceptedId s) where
  answers offerId offer' hfind haccepted := by
    rw [show (ProductRequests.rejectOffers now requestId acceptedId s).offers.find offerId = _ from
      find_mapRows _ s.offers offerId] at hfind
    obtain ⟨offer, hoffer, rfl⟩ := Option.map_eq_some_iff.mp hfind
    rw [status_rejectActive_eq_accepted_iff] at haccepted
    exact ⟨offer, hoffer, (requestId_rejectActive ..).symm, haccepted⟩
  declined offerId offer hfind hdeclined := by
    refine ⟨_, ?_, hdeclined.rejectActive now requestId acceptedId offerId⟩
    show (s.offers.mapRows _).find offerId = _
    rw [find_mapRows, hfind]
    rfl
  closed _ request hfind _ := ⟨request, hfind, rfl, rfl⟩

section Keeps

variable {s : ProductRequestStore} {now : ℤ}

theorem putInProgress_of_find {requestId : ℕ} {request : ProductRequest}
    (h : s.requests.find requestId = some request) :
    s.putInProgress requestId = s.saveRequest requestId { request with status := .inProgress } := by
  unfold ProductRequestStore.putInProgress
  rw [h]

theorem acceptsNone_createOffer (toUpperCase : String → String) (sellerId : ℕ) (sellerRoles : List UserRole)
    (requestId : ℕ) (dto : CreateProductRequestOfferDto) :
    AcceptsNone s (run (createOffer toUpperCase sellerId sellerRoles requestId dto) s).2 := by
  rw [run_createOffer]
  rcases hprepared : (run (prepareOffer toUpperCase sellerId sellerRoles requestId dto) s).1 with
    e | ⟨request, offer⟩
  · exact .refl s
  obtain ⟨-, -, hsent⟩ := (returns_prepareOffer sellerId sellerRoles requestId dto).of_run hprepared
  obtain ⟨hfound, -⟩ := find_of_prepareOffer hprepared
  have hadded : AcceptsNone s (s.addOffer offer) := .addOffer (by rw [hsent]; decide)
  dsimp only
  unfold ProductRequestStore.offered
  split_ifs with hopened
  · have hfind : (s.addOffer offer).requests.find requestId = some request := find_of_findRequest hfound
    rw [putInProgress_of_find hfind]
    refine hadded.trans (.saveRequest hfind (fun hclosed => ?_) _)
    unfold ProductRequest.IsClosed at hclosed
    rw [hopened] at hclosed
    revert hclosed
    decide
  · exact hadded

theorem acceptsNone_withdrawOffer (sellerId requestId : ℕ) :
    AcceptsNone s (run (withdrawOffer sellerId requestId) s).2 := by
  rw [run_withdrawOffer]
  cases s.offers.first fun offer => offer.IsActiveOf requestId sellerId with
  | none => exact .refl s
  | some found => exact .saveOffer (.inl rfl)

theorem acceptsNone_rejectOffer (buyerId requestId offerId : ℕ) (note : Option String) :
    AcceptsNone s (run (rejectOffer now buyerId requestId offerId note) s).2 := by
  rcases @run_rejectOffer now s buyerId requestId offerId note with hsame | ⟨offer, -, -, hsaved⟩
  · rw [hsame]
    exact .refl s
  · rw [hsaved]
    exact .saveOffer (.inr rfl)

theorem acceptsNone_closed {requestId : ℕ} {request : ProductRequest} (h : s.findRequest requestId = some request)
    (hopen : ¬ request.IsClosed) (dto : UpdateProductRequestStatusDto) :
    AcceptsNone s (s.closed now dto requestId request) := by
  have hoffers : AcceptsNone s (closeOffers now requestId dto.status s) := by
    unfold closeOffers
    split_ifs
    · exact .rejectOffers now requestId none s
    · exact .refl s
  have hfind : (closeOffers now requestId dto.status s).requests.find requestId = some request :=
    find_of_findRequest ((findRequest_closeOffers requestId dto.status).trans h)
  exact hoffers.trans (.saveRequest hfind hopen _)

theorem acceptsNone_updateStatusAsBuyer (buyerId requestId : ℕ) (dto : UpdateProductRequestStatusDto) :
    AcceptsNone s (run (updateStatusAsBuyer now buyerId requestId dto) s).2 := by
  rcases @run_updateStatusAsBuyer now s buyerId requestId dto with hsame | ⟨request, hfound, hopen, -, hclosed⟩
  · rw [hsame]
    exact .refl s
  · rw [hclosed]
    exact acceptsNone_closed hfound hopen dto

/-! ### Accepting an offer -/

variable {requestId offerId : ℕ} {note : Option String} {request : ProductRequest} {offer : ProductRequestOffer}

variable {id : ℕ}

theorem find_offers_accepted {offer' : ProductRequestOffer}
    (h : (s.accepted now requestId offerId note request offer).offers.find id = some offer') :
    (id = offerId ∧ offer' = { offer with status := .accepted, respondedAt := some now }) ∨
    (id ≠ offerId ∧ ∃ old, s.offers.find id = some old ∧
      offer' = rejectActive now requestId (some offerId) id old) := by
  rw [show (s.accepted now requestId offerId note request offer).offers.find id = _ from
    find_mapRows _ (s.offers.set offerId _) id] at h
  obtain ⟨old, hold, rfl⟩ := Option.map_eq_some_iff.mp h
  rcases eq_or_find_of_find_set hold with ⟨rfl, rfl⟩ | ⟨hid, hfind⟩
  · refine .inl ⟨rfl, ?_⟩
    exact if_neg fun hactive => hactive.2.1 rfl
  · exact .inr ⟨hid, old, hfind, rfl⟩

theorem find_offers_accepted_self (h : s.offers.find offerId = some offer) :
    (s.accepted now requestId offerId note request offer).offers.find offerId =
      some { offer with status := .accepted, respondedAt := some now } := by
  show ((s.offers.set offerId _).mapRows _).find offerId = _
  rw [find_mapRows, find_set_self h]
  exact congrArg some (if_neg fun hactive => hactive.2.1 rfl)

theorem find_offers_accepted_of_ne (hid : id ≠ offerId) :
    (s.accepted now requestId offerId note request offer).offers.find id =
      (s.offers.find id).map (rejectActive now requestId (some offerId) id) := by
  show ((s.offers.set offerId _).mapRows _).find id = _
  rw [find_mapRows, find_set_of_ne _ _ hid]

theorem find_requests_accepted_self (h : s.requests.find requestId = some request) :
    (s.accepted now requestId offerId note request offer).requests.find requestId =
      some (fulfilledRequest now offerId note request) :=
  find_set_self h _

theorem find_requests_accepted_of_ne (hid : id ≠ requestId) :
    (s.accepted now requestId offerId note request offer).requests.find id = s.requests.find id :=
  find_set_of_ne s.requests _ hid

/-- The offer can be accepted: it has been, or the request is still to be fulfilled and the offer was not declined. -/
def CanAccept (request : ProductRequest) (offer : ProductRequestOffer) : Prop :=
  offer.status = .accepted ∨ (request.status ≠ .fulfilled ∧ ¬ offer.IsDeclined)
deriving Decidable

variable {buyerId : ℕ}

theorem consistent_accepted (h : s.Consistent) (hfinds : FindsPair s buyerId requestId offerId request offer)
    (hcan : CanAccept request offer) : (s.accepted now requestId offerId note request offer).Consistent := by
  have hrequest := find_of_findRequest hfinds.requestFound
  intro id offer' hfind haccepted
  rcases find_offers_accepted hfind with ⟨rfl, rfl⟩ | ⟨hid, old, hold, rfl⟩
  · refine ⟨fulfilledRequest now id note request, ?_, rfl, rfl⟩
    rw [hfinds.ofRequest]
    exact find_requests_accepted_self hrequest
  rw [status_rejectActive_eq_accepted_iff] at haccepted
  obtain ⟨request₀, hrequest₀, hfulfilled, hnamed⟩ := h id old hold haccepted
  rw [requestId_rejectActive]
  by_cases hsame : old.requestId = requestId
  · -- another offer of this request was accepted before
    rw [hsame, hrequest] at hrequest₀
    obtain rfl := Option.some.inj hrequest₀
    rcases hcan with hbefore | ⟨hopen, -⟩
    · obtain ⟨request₁, hrequest₁, -, hnamed₁⟩ := h offerId offer hfinds.offerFound hbefore
      rw [hfinds.ofRequest, hrequest] at hrequest₁
      obtain rfl := Option.some.inj hrequest₁
      exact absurd (Option.mem_unique hnamed hnamed₁) hid
    · exact absurd hfulfilled hopen
  · exact ⟨request₀, (find_requests_accepted_of_ne hsame).trans hrequest₀, hfulfilled, hnamed⟩

theorem follows_accepted (hfinds : FindsPair s buyerId requestId offerId request offer)
    (hcan : CanAccept request offer) : Follows s (s.accepted now requestId offerId note request offer) where
  declined id old hold hdeclined := by
    by_cases hid : id = offerId
    · subst hid
      obtain rfl := Option.mem_unique hfinds.offerFound hold
      rcases hcan with hbefore | ⟨-, hnot⟩
      · exact absurd hbefore hdeclined.ne_accepted
      · exact absurd hdeclined hnot
    · refine ⟨_, ?_, hdeclined.rejectActive now requestId (some offerId) id⟩
      rw [find_offers_accepted_of_ne hid, hold]
      rfl
  closed id old hold hclosed := by
    by_cases hid : id = requestId
    · subst hid
      obtain rfl := Option.some.inj ((find_of_findRequest hfinds.requestFound).symm.trans hold)
      refine ⟨_, find_requests_accepted_self hold, ?_⟩
      rcases hclosed with hcancelled | hfulfilled
      · exact absurd hcancelled hfinds.notCancelled
      · exact hfulfilled.symm
    · exact ⟨old, (find_requests_accepted_of_ne hid).trans hold, rfl⟩
  gains id offer' hfind haccepted := by
    rcases find_offers_accepted hfind with ⟨rfl, rfl⟩ | ⟨-, old, hold, rfl⟩
    · rcases hcan with hbefore | ⟨hopen, -⟩
      · exact .inl ⟨offer, hfinds.offerFound, rfl, hbefore⟩
      · refine .inr fun request₀ hrequest₀ hclosed => ?_
        rw [hfinds.ofRequest, find_of_findRequest hfinds.requestFound] at hrequest₀
        obtain rfl := Option.some.inj hrequest₀
        rcases hclosed with hcancelled | hfulfilled
        · exact hfinds.notCancelled hcancelled
        · exact hopen hfulfilled
    · rw [status_rejectActive_eq_accepted_iff] at haccepted
      exact .inl ⟨old, hold, (requestId_rejectActive ..).symm, haccepted⟩

theorem canAccept_of_keepsAnswers (hfinds : FindsPair s buyerId requestId offerId request offer)
    (h : KeepsAnswers s (s.accepted now requestId offerId note request offer)) : CanAccept request offer := by
  have hafter : (s.accepted now requestId offerId note request offer).offers.find offerId =
      some { offer with status := .accepted, respondedAt := some now } := find_offers_accepted_self hfinds.offerFound
  by_contra hcannot
  have hbefore : offer.status ≠ .accepted := fun hbefore => hcannot (.inl hbefore)
  by_cases hdeclined : offer.IsDeclined
  · exact h.declined offerId offer _ hfinds.offerFound hafter hdeclined rfl
  · have hfulfilled : request.status = .fulfilled := by
      by_contra hopen
      exact hcannot (.inr ⟨hopen, hdeclined⟩)
    obtain ⟨found, hfound, haccepted⟩ := h.gains requestId request (find_of_findRequest hfinds.requestFound)
      (.inr hfulfilled) offerId _ hafter hfinds.ofRequest rfl
    obtain rfl := Option.mem_unique hfinds.offerFound hfound
    exact hbefore haccepted

end Keeps

/-! ### Calls one after another -/

inductive ProductRequestCall where
  | createOffer (sellerId : ℕ) (sellerRoles : List UserRole) (requestId : ℕ) (dto : CreateProductRequestOfferDto)
  | withdrawOffer (sellerId requestId : ℕ)
  | acceptOffer (now : ℤ) (buyerId requestId offerId : ℕ) (note : Option String)
  | rejectOffer (now : ℤ) (buyerId requestId offerId : ℕ) (note : Option String)
  | updateStatusAsBuyer (now : ℤ) (buyerId requestId : ℕ) (dto : UpdateProductRequestStatusDto)

namespace ProductRequestCall

def step (toUpperCase : String → String) (s : ProductRequestStore) : ProductRequestCall → ProductRequestStore
  | .createOffer sellerId sellerRoles requestId dto =>
    (run (ProductRequests.createOffer toUpperCase sellerId sellerRoles requestId dto) s).2
  | .withdrawOffer sellerId requestId => (run (ProductRequests.withdrawOffer sellerId requestId) s).2
  | .acceptOffer now buyerId requestId offerId note =>
    (run (ProductRequests.acceptOffer now buyerId requestId offerId note) s).2
  | .rejectOffer now buyerId requestId offerId note =>
    (run (ProductRequests.rejectOffer now buyerId requestId offerId note) s).2
  | .updateStatusAsBuyer now buyerId requestId dto =>
    (run (ProductRequests.updateStatusAsBuyer now buyerId requestId dto) s).2

def AcceptsSettled (s : ProductRequestStore) : ProductRequestCall → Prop
  | .acceptOffer _ buyerId requestId offerId _ =>
    ∃ found ∈ (run (acceptedPair buyerId requestId offerId) s).1.toOption, ¬ CanAccept found.1 found.2
  | _ => False

instance (s : ProductRequestStore) (c : ProductRequestCall) : Decidable (c.AcceptsSettled s) :=
  match c with
  | .acceptOffer _ buyerId requestId offerId _ =>
    inferInstanceAs (Decidable (∃ found ∈ (run (acceptedPair buyerId requestId offerId) s).1.toOption, _))
  | .createOffer .. | .withdrawOffer .. | .rejectOffer .. | .updateStatusAsBuyer .. => inferInstanceAs (Decidable False)

variable {toUpperCase : String → String} {s : ProductRequestStore}

theorem acceptsNone_step {c : ProductRequestCall}
    (h : ∀ now buyerId requestId offerId note, c ≠ .acceptOffer now buyerId requestId offerId note) :
    AcceptsNone s (c.step toUpperCase s) := by
  cases c with
  | createOffer sellerId sellerRoles requestId dto =>
    exact acceptsNone_createOffer toUpperCase sellerId sellerRoles requestId dto
  | withdrawOffer sellerId requestId => exact acceptsNone_withdrawOffer sellerId requestId
  | acceptOffer now buyerId requestId offerId note => exact absurd rfl (h now buyerId requestId offerId note)
  | rejectOffer now buyerId requestId offerId note => exact acceptsNone_rejectOffer buyerId requestId offerId note
  | updateStatusAsBuyer now buyerId requestId dto => exact acceptsNone_updateStatusAsBuyer buyerId requestId dto

variable (toUpperCase s) in
theorem step_acceptOffer (now : ℤ) (buyerId requestId offerId : ℕ) (note : Option String) :
    let c := ProductRequestCall.acceptOffer now buyerId requestId offerId note
    (c.step toUpperCase s = s ∧ ¬ c.AcceptsSettled s) ∨
      ∃ request offer, FindsPair s buyerId requestId offerId request offer ∧
        c.step toUpperCase s = s.accepted now requestId offerId note request offer ∧
        (c.AcceptsSettled s ↔ ¬ CanAccept request offer) := by
  intro c
  have hstep : c.step toUpperCase s = _ := run_acceptOffer buyerId requestId offerId note
  have hsettled : c.AcceptsSettled s ↔
      ∃ found ∈ (run (acceptedPair buyerId requestId offerId) s).1.toOption, ¬ CanAccept found.1 found.2 :=
    Iff.rfl
  rw [hstep, hsettled]
  rcases hpair : (run (acceptedPair buyerId requestId offerId) s).1 with e | ⟨request, offer⟩
  · exact .inl ⟨rfl, fun ⟨_, hfound, _⟩ => by cases hfound⟩
  · refine .inr ⟨request, offer, findsPair_of_run hpair, rfl, ?_⟩
    constructor
    · rintro ⟨found, hfound, hnot⟩
      obtain rfl := Option.some.inj hfound
      exact hnot
    · exact fun hnot => ⟨_, rfl, hnot⟩

variable (toUpperCase) in
theorem keepsAnswers_step_iff (h : s.Consistent) (c : ProductRequestCall) :
    (KeepsAnswers s (c.step toUpperCase s) ↔ ¬ c.AcceptsSettled s) ∧
      (¬ c.AcceptsSettled s → (c.step toUpperCase s).Consistent ∧ Follows s (c.step toUpperCase s)) := by
  have hnone (h' : AcceptsNone s (c.step toUpperCase s)) (hnot : ¬ c.AcceptsSettled s) :
      (KeepsAnswers s (c.step toUpperCase s) ↔ ¬ c.AcceptsSettled s) ∧
        (¬ c.AcceptsSettled s → (c.step toUpperCase s).Consistent ∧ Follows s (c.step toUpperCase s)) :=
    ⟨iff_of_true h'.follows.keepsAnswers hnot, fun _ => ⟨h'.consistent h, h'.follows⟩⟩
  cases c with
  | createOffer => exact hnone (acceptsNone_step (by simp)) id
  | withdrawOffer => exact hnone (acceptsNone_step (by simp)) id
  | rejectOffer => exact hnone (acceptsNone_step (by simp)) id
  | updateStatusAsBuyer => exact hnone (acceptsNone_step (by simp)) id
  | acceptOffer now buyerId requestId offerId note =>
    rcases step_acceptOffer toUpperCase s now buyerId requestId offerId note with
      ⟨hsame, hnot⟩ | ⟨request, offer, hfinds, hstep, hsettled⟩
    · exact hnone (by rw [hsame]; exact .refl s) hnot
    · rw [hstep, hsettled, not_not]
      refine ⟨⟨canAccept_of_keepsAnswers hfinds, fun hcan => (follows_accepted hfinds hcan).keepsAnswers⟩, ?_⟩
      exact fun hcan => ⟨consistent_accepted h hfinds hcan, follows_accepted hfinds hcan⟩

end ProductRequestCall

/-- **When offers stay consistent**: of every request at most the offer that it names is accepted, and no answer is
taken back, exactly in the runs whose calls accept nothing that was settled. -/
theorem offers_consistent_iff (toUpperCase : String → String) {s : ProductRequestStore} (h : s.Consistent)
    (calls : List ProductRequestCall) :
    let state n := Run.after (ProductRequestCall.step toUpperCase) s (calls.take n)
    ((∀ n, (state n).NamesAccepted) ∧ ∀ n m, n ≤ m → KeepsAnswers (state n) (state m)) ↔
      Run.Along (ProductRequestCall.step toUpperCase) (fun s c => ¬ c.AcceptsSettled s) s calls := by
  have hiff {s : ProductRequestStore} (c : ProductRequestCall) (h : s.Consistent) :=
    ProductRequestCall.keepsAnswers_step_iff toUpperCase h c
  exact Run.forall_take_and_rel_take_iff (P := ProductRequestStore.NamesAccepted) (K := KeepsAnswers)
    (fun _ h => h.namesAccepted) (fun _ _ => Follows.keepsAnswers) Follows.refl (fun _ _ _ => Follows.trans)
    (fun _ c h => (hiff c h).2) (fun _ c h _ => (hiff c h).1.mp) h calls

def oneRequest : ProductRequestStore := ⟨SerialTable.empty.add { buyerId := 1 }, .empty, ∅⟩

def twoOffers : List ProductRequestCall :=
  [.createOffer 2 [.vendor] 1 {}, .createOffer 3 [.vendor] 1 {}]

/-- The first offer is accepted; the request can no longer be cancelled. -/
def acceptThenCancel : List ProductRequestCall :=
  twoOffers ++ [.acceptOffer 7 1 1 1 none, .updateStatusAsBuyer 8 1 1 { status := .cancelled }]

/-- One offer is accepted, and then the one that was rejected for it. -/
def acceptBoth : List ProductRequestCall := twoOffers ++ [.acceptOffer 7 1 1 1 none, .acceptOffer 8 1 1 2 none]

theorem consistent_oneRequest : oneRequest.Consistent := fun offerId offer h => by cases h

theorem offers_consistent_iff_acceptThenCancel :
    let state n := Run.after (ProductRequestCall.step id) oneRequest (acceptThenCancel.take n)
    (∀ n, (state n).NamesAccepted) ∧ ∀ n m, n ≤ m → KeepsAnswers (state n) (state m) :=
  (offers_consistent_iff id consistent_oneRequest _).mpr (by decide)

/-- Both offers end up accepted. -/
theorem both_accepted :
    let state n := Run.after (ProductRequestCall.step id) oneRequest (acceptBoth.take n)
    ¬ ((∀ n, (state n).NamesAccepted) ∧ ∀ n m, n ≤ m → KeepsAnswers (state n) (state m)) := by
  intro state h
  have hboth : ((state 4).offers.find 1).map (fun offer => (offer.requestId, offer.status)) = some (1, .accepted) ∧
      ((state 4).offers.find 2).map (fun offer => (offer.requestId, offer.status)) = some (1, .accepted) := by
    decide
  obtain ⟨offer, hoffer, heq⟩ := Option.map_eq_some_iff.mp hboth.1
  obtain ⟨offer', hoffer', heq'⟩ := Option.map_eq_some_iff.mp hboth.2
  obtain ⟨hid, haccepted⟩ := Prod.mk.inj heq
  obtain ⟨hid', haccepted'⟩ := Prod.mk.inj heq'
  have hsame := (h.1 4).single 1 offer 2 offer' hoffer hoffer' (hid.trans hid'.symm) haccepted haccepted'
  revert hsame
  decide

end SuuqBackend
