import SuuqBackend.ProductRequests.Laws.RequestOffers

/-!
# Offers beside each other

The buyer's transactions lock the request; the sellers' calls do not.  `nextWrite` is what a call writes next, by what
it has seen, and `store_offer_step` says that a step of a schedule performs it.

`createOffer` counts offers before it inserts one, and tests the status of the request before it writes it; `InTime` is
what has to hold of the store when it writes.  `offers_within_limits_iff` is for whole schedules.
-/

namespace SuuqBackend

open Proc ProductRequests SerialTable

def ProductRequestOffer.IsAcceptedOf (requestId : ℕ) (offer : ProductRequestOffer) : Prop :=
  offer.requestId = requestId ∧ offer.status = .accepted
deriving Decidable

/-- Each seller has at most one offer for a request that awaits an answer, at most ten of its offers count, and at most
one is accepted. -/
structure ProductRequestStore.WithinLimits (s : ProductRequestStore) : Prop where
  own : ∀ requestId sellerId, s.countOffers (·.IsActiveOf requestId sellerId) ≤ 1
  limit : ∀ requestId, s.countOffers (·.Counts requestId) ≤ 10
  accepted : ∀ requestId, s.countOffers (·.IsAcceptedOf requestId) ≤ 1

/-- No request that is closed in the first state is in progress in the second one. -/
def KeepsClosedRequests (s s' : ProductRequestStore) : Prop :=
  ∀ requestId request request', s.requests.find requestId = some request →
    s'.requests.find requestId = some request' → request.IsClosed → request'.status ≠ .inProgress

/-! ### What a call writes next -/

inductive OfferWrite where
  | none
  | insert (offer : ProductRequestOffer)
  | start (requestId : ℕ)
  | withdraw (offerId : ℕ) (offer : ProductRequestOffer)
  | accept (now : ℤ) (buyerId requestId offerId : ℕ) (note : Option String)
  | close (now : ℤ) (buyerId requestId : ℕ) (dto : UpdateProductRequestStatusDto)

namespace OfferWrite

def apply (s : ProductRequestStore) : OfferWrite → ProductRequestStore
  | .none => s
  | .insert offer => s.addOffer offer
  | .start requestId => s.putInProgress requestId
  | .withdraw offerId offer => s.saveOffer offerId { offer with status := .withdrawn }
  | .accept now buyerId requestId offerId note => (run (acceptOffer now buyerId requestId offerId note) s).2
  | .close now buyerId requestId dto => (run (updateStatusAsBuyer now buyerId requestId dto) s).2

/-- What was tested still holds: the seller may offer, the request is not closed, no other offer is accepted. -/
def InTime (s : ProductRequestStore) : OfferWrite → Prop
  | .none => True
  | .insert offer => s.countOffers (·.IsActiveOf offer.requestId offer.sellerId) = 0 ∧
      s.countOffers (·.Counts offer.requestId) < 10
  | .start requestId => ∀ request ∈ s.requests.find requestId, ¬ request.IsClosed
  | .withdraw _ _ => True
  | .accept _ buyerId requestId offerId _ =>
    ∀ found ∈ (run (acceptedPair buyerId requestId offerId) s).1.toOption,
      found.2.status = .accepted ∨ s.countOffers (·.IsAcceptedOf requestId) = 0
  | .close _ _ _ _ => True

instance (s : ProductRequestStore) (w : OfferWrite) : Decidable (w.InTime s) :=
  match w with
  | .none | .withdraw _ _ | .close _ _ _ _ => inferInstanceAs (Decidable True)
  | .insert _ => inferInstanceAs (Decidable (_ ∧ _))
  | .start requestId => inferInstanceAs (Decidable (∀ request ∈ s.requests.find requestId, _))
  | .accept _ buyerId requestId offerId _ =>
    inferInstanceAs (Decidable (∀ found ∈ (run (acceptedPair buyerId requestId offerId) s).1.toOption, _))

end OfferWrite

inductive OfferCall where
  | createOffer (sellerId : ℕ) (sellerRoles : List UserRole) (requestId : ℕ) (dto : CreateProductRequestOfferDto)
  | withdrawOffer (sellerId requestId : ℕ)
  | acceptOffer (now : ℤ) (buyerId requestId offerId : ℕ) (note : Option String)
  | updateStatusAsBuyer (now : ℤ) (buyerId requestId : ℕ) (dto : UpdateProductRequestStatusDto)

namespace OfferCall

variable (toUpperCase : String → String)

def proc : OfferCall → ProductRequestProc Unit
  | .createOffer sellerId sellerRoles requestId dto => do
    let _ ← ProductRequests.createOffer toUpperCase sellerId sellerRoles requestId dto
  | .withdrawOffer sellerId requestId => do
    let _ ← ProductRequests.withdrawOffer sellerId requestId
  | .acceptOffer now buyerId requestId offerId note => do
    let _ ← ProductRequests.acceptOffer now buyerId requestId offerId note
  | .updateStatusAsBuyer now buyerId requestId dto => do
    let _ ← ProductRequests.updateStatusAsBuyer now buyerId requestId dto

def nextWrite : OfferCall → List ProductRequestStore → OfferWrite
  | .createOffer sellerId sellerRoles requestId dto, seen =>
    match (prepareOffer toUpperCase sellerId sellerRoles requestId dto).returned seen with
    | some ((_, offer), []) => .insert offer
    | some ((request, _), [_]) => if request.status = .opened then .start requestId else .none
    | _ => .none
  | .withdrawOffer sellerId requestId, [S] =>
    match S.offers.first fun offer => offer.IsActiveOf requestId sellerId with
    | some (offerId, offer) => .withdraw offerId offer
    | none => .none
  | .acceptOffer now buyerId requestId offerId note, [] => .accept now buyerId requestId offerId note
  | .updateStatusAsBuyer now buyerId requestId dto, [] => .close now buyerId requestId dto
  | _, _ => .none

/-- The next action of a handler is the write, or the write changes nothing. -/
def Performs (p : ProductRequestProc Unit) (w : OfferWrite) : Prop :=
  match p with
  | .step act _ => ∀ s, act s = w.apply s
  | _ => ∀ s, w.apply s = s

variable {toUpperCase} {seen : List ProductRequestStore}

theorem performs_createOffer (sellerId : ℕ) (sellerRoles : List UserRole) (requestId : ℕ)
    (dto : CreateProductRequestOfferDto) :
    Performs (((OfferCall.createOffer sellerId sellerRoles requestId dto).proc toUpperCase).resume seen)
      ((OfferCall.createOffer sellerId sellerRoles requestId dto).nextWrite toUpperCase seen) := by
  have hproc : (OfferCall.createOffer sellerId sellerRoles requestId dto).proc toUpperCase =
      prepareOffer toUpperCase sellerId sellerRoles requestId dto >>= fun prepared => _ := bind_assoc ..
  rw [hproc]
  unfold nextWrite
  dsimp only
  cases hreturned : (prepareOffer toUpperCase sellerId sellerRoles requestId dto).returned seen with
  | none =>
    rcases resume_bind_of_returned_eq_none hreturned _ with ⟨e, hleft⟩ | ⟨act, next, hresume, hleft⟩
    · rw [hleft]
      exact fun s => rfl
    · rw [hleft]
      exact (onlyReads_prepareOffer sellerId sellerRoles requestId dto).act_eq hresume
  | some prepared =>
    obtain ⟨⟨request, offer⟩, rest⟩ := prepared
    rw [resume_bind_of_returned hreturned]
    match rest with
    | [] => exact fun s => rfl
    | [S] =>
      unfold startProgress
      dsimp only
      split_ifs
      · exact fun s => rfl
      · exact fun s => rfl
    | S :: T :: rest =>
      unfold startProgress
      split_ifs
      · cases rest <;> exact fun s => rfl
      · exact fun s => rfl

theorem performs_transaction {α : Type} (p : ProductRequestProc α) {w : OfferWrite}
    (h : ∀ s, w.apply s = (run (transaction p) s).2) :
    Performs ((transaction p >>= fun _ => pure ()).resume seen)
      (match seen with
        | [] => w
        | _ => .none) := by
  cases seen with
  | nil =>
    intro s
    rw [h, run_transaction]
    dsimp only
    rcases run p s with ⟨e | a, s'⟩ <;> rfl
  | cons S seen =>
    unfold transaction
    rw [Proc.step_bind, resume_step_cons]
    rcases run p S with ⟨e | a, s'⟩ <;> cases seen <;> exact fun s => rfl

variable (toUpperCase seen) in
theorem performs_nextWrite (c : OfferCall) :
    Performs ((c.proc toUpperCase).resume seen) (c.nextWrite toUpperCase seen) := by
  cases c with
  | createOffer sellerId sellerRoles requestId dto => exact performs_createOffer sellerId sellerRoles requestId dto
  | withdrawOffer sellerId requestId =>
    match seen with
    | [] => exact fun s => rfl
    | S :: rest =>
      show Performs ((ProductRequests.withdrawOffer sellerId requestId >>= fun _ => pure ()).resume (S :: rest)) _
      unfold ProductRequests.withdrawOffer
      rw [bind_assoc, resume_read_bind]
      cases hfirst : S.offers.first fun offer => offer.IsActiveOf requestId sellerId with
      | none =>
        have hnone : (OfferCall.withdrawOffer sellerId requestId).nextWrite toUpperCase (S :: rest) = .none := by
          cases rest with
          | nil =>
            unfold nextWrite
            dsimp only
            rw [hfirst]
          | cons T rest => rfl
        rw [hnone]
        cases rest <;> exact fun s => rfl
      | some found =>
        match rest with
        | [] =>
          have hnext : (OfferCall.withdrawOffer sellerId requestId).nextWrite toUpperCase [S] =
              .withdraw found.1 found.2 := by
            unfold nextWrite
            dsimp only
            rw [hfirst]
          rw [hnext]
          exact fun s => rfl
        | T :: rest => cases rest <;> exact fun s => rfl
  | acceptOffer now buyerId requestId offerId note =>
    have hnext : (OfferCall.acceptOffer now buyerId requestId offerId note).nextWrite toUpperCase seen =
        match seen with
        | [] => .accept now buyerId requestId offerId note
        | _ => .none := by
      cases seen <;> rfl
    rw [hnext]
    exact performs_transaction _ fun s => rfl
  | updateStatusAsBuyer now buyerId requestId dto =>
    have hnext : (OfferCall.updateStatusAsBuyer now buyerId requestId dto).nextWrite toUpperCase seen =
        match seen with
        | [] => .close now buyerId requestId dto
        | _ => .none := by
      cases seen <;> rfl
    rw [hnext]
    by_cases hstatus : dto.status ≠ .cancelled ∧ dto.status ≠ .fulfilled
    · have hproc : (OfferCall.updateStatusAsBuyer now buyerId requestId dto).proc toUpperCase =
          .fail (.badRequest "Status update not allowed") := by
        show (ProductRequests.updateStatusAsBuyer now buyerId requestId dto >>= fun _ => pure ()) = _
        unfold ProductRequests.updateStatusAsBuyer Proc.throwIf
        rw [if_pos hstatus]
        rfl
      rw [hproc]
      cases seen with
      | nil =>
        intro s
        unfold OfferWrite.apply ProductRequests.updateStatusAsBuyer
        dsimp only
        rw [run_throwIf_bind, if_pos hstatus]
      | cons S seen => exact fun s => rfl
    · show Performs ((ProductRequests.updateStatusAsBuyer now buyerId requestId dto >>= fun _ => pure ()).resume seen) _
      unfold ProductRequests.updateStatusAsBuyer Proc.throwIf
      rw [if_neg hstatus]
      refine performs_transaction _ fun s => ?_
      unfold OfferWrite.apply ProductRequests.updateStatusAsBuyer
      dsimp only
      rw [run_throwIf_bind, if_neg hstatus]

end OfferCall

/-! ### Numbers of offers -/

section Counts

variable {s : ProductRequestStore} {p : ProductRequestOffer → Prop} [DecidablePred p]

theorem countOffers_nonneg : 0 ≤ s.countOffers p := by
  unfold ProductRequestStore.countOffers SerialTable.total
  refine Table.total_nonneg fun id offer _ => ?_
  dsimp only
  split_ifs <;> omega

theorem countOffers_addOffer (offer : ProductRequestOffer) :
    (s.addOffer offer).countOffers p = (if p offer then 1 else 0) + s.countOffers p :=
  total_add _ s.offers offer

theorem countOffers_saveOffer_le {offer : ProductRequestOffer} (h : ¬ p offer) (offerId : ℕ) :
    (s.saveOffer offerId offer).countOffers p ≤ s.countOffers p := by
  unfold ProductRequestStore.countOffers ProductRequestStore.saveOffer
  cases hfind : s.offers.find offerId with
  | none => rw [set_of_eq_none hfind]
  | some old =>
    rw [total_set _ hfind]
    split_ifs <;> omega

theorem countOffers_rejectOffers_le {now : ℤ} {requestId : ℕ} {acceptedId : Option ℕ}
    (h : ∀ offer : ProductRequestOffer, p offer → offer.status ≠ .rejected) :
    (rejectOffers now requestId acceptedId s).countOffers p ≤ s.countOffers p := by
  unfold ProductRequestStore.countOffers rejectOffers
  rw [total_mapRows]
  refine Table.total_le_total fun id offer _ => ?_
  rcases rejectActive_cases now requestId acceptedId id offer with hsame | ⟨-, hrejected⟩
  · rw [hsame]
  · have hnot : ¬ p (rejectActive now requestId acceptedId id offer) := fun hp => h _ hp hrejected
    dsimp only
    split_ifs <;> omega

theorem ProductRequestStore.WithinLimits.of_le {s' : ProductRequestStore} (h : s.WithinLimits)
    (hown : ∀ requestId sellerId,
      s'.countOffers (·.IsActiveOf requestId sellerId) ≤ s.countOffers (·.IsActiveOf requestId sellerId))
    (hlimit : ∀ requestId, s'.countOffers (·.Counts requestId) ≤ s.countOffers (·.Counts requestId))
    (haccepted : ∀ requestId, s'.countOffers (·.IsAcceptedOf requestId) ≤ s.countOffers (·.IsAcceptedOf requestId)) :
    s'.WithinLimits where
  own requestId sellerId := (hown requestId sellerId).trans (h.own requestId sellerId)
  limit requestId := (hlimit requestId).trans (h.limit requestId)
  accepted requestId := (haccepted requestId).trans (h.accepted requestId)

end Counts

namespace ProductRequestOffer

variable {offer : ProductRequestOffer} {requestId sellerId : ℕ}

theorem IsActiveOf.ne_declined (h : offer.IsActiveOf requestId sellerId) :
    ¬ offer.IsDeclined ∧ offer.status ≠ .accepted := by
  obtain ⟨-, -, hactive⟩ := h
  rcases List.mem_cons.mp hactive with hstatus | hactive
  · simp [IsDeclined, hstatus]
  · simp [IsDeclined, List.mem_singleton.mp hactive]

theorem Counts.not_isDeclined (h : offer.Counts requestId) : ¬ offer.IsDeclined := by
  have hcounted := h.2
  intro hdeclined
  rcases hdeclined with hstatus | hstatus <;> rw [hstatus] at hcounted <;> revert hcounted <;> decide

theorem IsAcceptedOf.not_isDeclined (h : offer.IsAcceptedOf requestId) : ¬ offer.IsDeclined :=
  fun hdeclined => hdeclined.ne_accepted h.2

end ProductRequestOffer

section Writes

variable {s : ProductRequestStore} {now : ℤ}

theorem withinLimits_saveOffer (h : s.WithinLimits) {offer : ProductRequestOffer} (hdeclined : offer.IsDeclined)
    (offerId : ℕ) : (s.saveOffer offerId offer).WithinLimits :=
  h.of_le (fun _ _ => countOffers_saveOffer_le (fun hp => hp.ne_declined.1 hdeclined) offerId)
    (fun _ => countOffers_saveOffer_le (fun hp => hp.not_isDeclined hdeclined) offerId)
    (fun _ => countOffers_saveOffer_le (fun hp => hp.not_isDeclined hdeclined) offerId)

theorem withinLimits_closeOffers (h : s.WithinLimits) (requestId : ℕ) (status : ProductRequestStatus) :
    (closeOffers now requestId status s).WithinLimits := by
  unfold closeOffers
  split_ifs
  · exact h.of_le (fun _ _ => countOffers_rejectOffers_le fun _ hp hrejected => hp.ne_declined.1 (.inr hrejected))
      (fun _ => countOffers_rejectOffers_le fun _ hp hrejected => hp.not_isDeclined (.inr hrejected))
      (fun _ => countOffers_rejectOffers_le fun _ hp hrejected => hp.not_isDeclined (.inr hrejected))
  · exact h

/-- A new offer keeps the limits exactly if its seller has none that awaits an answer and fewer than ten count. -/
theorem withinLimits_addOffer_iff (h : s.WithinLimits) {offer : ProductRequestOffer} (hsent : offer.status = .sent) :
    (s.addOffer offer).WithinLimits ↔ s.countOffers (·.IsActiveOf offer.requestId offer.sellerId) = 0 ∧
      s.countOffers (·.Counts offer.requestId) < 10 := by
  have hactive : offer.IsActiveOf offer.requestId offer.sellerId := ⟨rfl, rfl, by rw [hsent]; decide⟩
  have hcounts : offer.Counts offer.requestId := ⟨rfl, by rw [hsent]; decide⟩
  have hnonneg : 0 ≤ s.countOffers (·.IsActiveOf offer.requestId offer.sellerId) := countOffers_nonneg
  constructor
  · intro h'
    have hown := h'.own offer.requestId offer.sellerId
    have hlimit := h'.limit offer.requestId
    rw [countOffers_addOffer, if_pos hactive] at hown
    rw [countOffers_addOffer, if_pos hcounts] at hlimit
    omega
  · rintro ⟨hown, hlimit⟩
    refine ⟨fun requestId sellerId => ?_, fun requestId => ?_, fun requestId => ?_⟩
    · have hbefore := h.own requestId sellerId
      rw [countOffers_addOffer]
      split_ifs with hof
      · obtain ⟨rfl, rfl, -⟩ := hof
        omega
      · omega
    · have hbefore := h.limit requestId
      rw [countOffers_addOffer]
      split_ifs with hof
      · obtain ⟨rfl, -⟩ := hof
        omega
      · omega
    · have hnot : ¬ offer.IsAcceptedOf requestId := fun hof => by
        rw [hof.2] at hsent
        cases hsent
      have hbefore := h.accepted requestId
      rw [countOffers_addOffer, if_neg hnot]
      omega

end Writes

section Accept

variable {s : ProductRequestStore} {now : ℤ} {buyerId requestId offerId : ℕ} {note : Option String}
  {request : ProductRequest} {offer : ProductRequestOffer}

theorem countOffers_isAcceptedOf_accepted (hfinds : FindsPair s buyerId requestId offerId request offer) :
    (s.accepted now requestId offerId note request offer).countOffers (·.IsAcceptedOf requestId) =
      s.countOffers (·.IsAcceptedOf requestId) + if offer.status = .accepted then 0 else 1 := by
  have hsaved : (s.accepted now requestId offerId note request offer).countOffers (·.IsAcceptedOf requestId) =
      (s.saveOffer offerId { offer with status := .accepted, respondedAt := some now }).countOffers
        (·.IsAcceptedOf requestId) := by
    show SerialTable.total _ ((s.offers.set offerId _).mapRows _) = SerialTable.total _ (s.offers.set offerId _)
    rw [total_mapRows]
    refine Table.total_congr fun id other _ => ?_
    have hiff : (rejectActive now requestId (some offerId) id other).IsAcceptedOf requestId ↔
        other.IsAcceptedOf requestId := by
      unfold ProductRequestOffer.IsAcceptedOf
      rw [requestId_rejectActive, status_rejectActive_eq_accepted_iff]
    exact if_congr hiff rfl rfl
  rw [hsaved]
  unfold ProductRequestStore.countOffers ProductRequestStore.saveOffer
  rw [total_set _ hfinds.offerFound]
  have hafter : ProductRequestOffer.IsAcceptedOf requestId
      { offer with status := .accepted, respondedAt := some now } := ⟨hfinds.ofRequest, rfl⟩
  have hbefore : offer.IsAcceptedOf requestId ↔ offer.status = .accepted := and_iff_right hfinds.ofRequest
  simp only [hbefore]
  split_ifs <;> omega

theorem countOffers_counts_accepted_le :
    (s.accepted now requestId offerId note request offer).countOffers (·.Counts requestId) ≤
      (s.accepted now requestId offerId note request offer).countOffers (·.IsAcceptedOf requestId) := by
  refine total_le_total fun id offer' hfind => ?_
  by_cases hcounts : offer'.Counts requestId
  · have haccepted : offer'.status = .accepted := by
      rcases find_offers_accepted hfind with ⟨-, rfl⟩ | ⟨hid, old, -, rfl⟩
      · rfl
      · unfold rejectActive at hcounts ⊢
        split_ifs at hcounts ⊢ with hactive
        · exact absurd (.inr rfl) hcounts.not_isDeclined
        · obtain ⟨hof, hcounted⟩ := hcounts
          have hnot : old.status ∉ ProductRequestOfferStatus.active := fun h =>
            hactive ⟨hof, fun heq => hid (Option.some.inj heq).symm, h⟩
          revert hcounted hnot
          cases old.status <;> decide
    rw [if_pos hcounts, if_pos ⟨hcounts.1, haccepted⟩]
  · rw [if_neg hcounts]
    split_ifs <;> omega

theorem withinLimits_accepted_iff (h : s.WithinLimits) (hfinds : FindsPair s buyerId requestId offerId request offer) :
    (s.accepted now requestId offerId note request offer).WithinLimits ↔
      offer.status = .accepted ∨ s.countOffers (·.IsAcceptedOf requestId) = 0 := by
  have hcount := @countOffers_isAcceptedOf_accepted s now buyerId requestId offerId note request offer hfinds
  have hnonneg : 0 ≤ s.countOffers (·.IsAcceptedOf requestId) := countOffers_nonneg
  have hbefore := h.accepted requestId
  constructor
  · intro h'
    have hafter := h'.accepted requestId
    rw [hcount] at hafter
    by_cases haccepted : offer.status = .accepted
    · exact .inl haccepted
    · rw [if_neg haccepted] at hafter
      exact .inr (by omega)
  · intro hcan
    have hone : (s.accepted now requestId offerId note request offer).countOffers (·.IsAcceptedOf requestId) ≤ 1 := by
      rw [hcount]
      split_ifs with haccepted
      · omega
      · have hzero := hcan.resolve_left haccepted
        omega
    have hother (p : ProductRequestOffer → Prop) [DecidablePred p]
        (hp : ¬ p { offer with status := .accepted, respondedAt := some now })
        (hrejected : ∀ offer : ProductRequestOffer, p offer → offer.status ≠ .rejected) :
        (s.accepted now requestId offerId note request offer).countOffers p ≤ s.countOffers p :=
      (countOffers_rejectOffers_le (s := s.saveOffer offerId _) hrejected).trans (countOffers_saveOffer_le hp offerId)
    refine ⟨fun requestId' sellerId => ?_, fun requestId' => ?_, fun requestId' => ?_⟩
    · refine (hother _ (fun hp => hp.ne_declined.2 rfl) fun _ hp hrejected => ?_).trans (h.own requestId' sellerId)
      exact hp.ne_declined.1 (.inr hrejected)
    · by_cases hid : requestId' = requestId
      · subst hid
        have hle := @countOffers_counts_accepted_le s now requestId' offerId note request offer
        omega
      · refine (hother _ (fun hp => hid (hp.1.symm.trans hfinds.ofRequest)) fun _ hp hrejected => ?_).trans
          (h.limit requestId')
        exact hp.not_isDeclined (.inr hrejected)
    · by_cases hid : requestId' = requestId
      · subst hid
        exact hone
      · refine (hother _ (fun hp => hid (hp.1.symm.trans hfinds.ofRequest)) fun _ hp hrejected => ?_).trans
          (h.accepted requestId')
        exact hp.not_isDeclined (.inr hrejected)

end Accept

/-! ### What a write keeps -/

/-- Every request that is closed in the first state is closed in the second one. -/
def LeavesClosed (s s' : ProductRequestStore) : Prop :=
  ∀ requestId request, s.requests.find requestId = some request → request.IsClosed →
    ∃ request', s'.requests.find requestId = some request' ∧ request'.IsClosed

theorem LeavesClosed.refl (s : ProductRequestStore) : LeavesClosed s s :=
  fun _ request hfind hclosed => ⟨request, hfind, hclosed⟩

theorem LeavesClosed.trans {s₁ s₂ s₃ : ProductRequestStore} (h : LeavesClosed s₁ s₂) (h' : LeavesClosed s₂ s₃) :
    LeavesClosed s₁ s₃ := by
  intro requestId request hfind hclosed
  obtain ⟨request₂, hfind₂, hclosed₂⟩ := h requestId request hfind hclosed
  exact h' requestId request₂ hfind₂ hclosed₂

variable {s : ProductRequestStore}

theorem LeavesClosed.keepsClosed {s' : ProductRequestStore} (h : LeavesClosed s s') : KeepsClosedRequests s s' := by
  intro requestId request request' hfind hfind' hclosed hprogress
  obtain ⟨found, hfound, hstill⟩ := h requestId request hfind hclosed
  obtain rfl := Option.mem_unique hfound hfind'
  rcases hstill with hstatus | hstatus <;> rw [hstatus] at hprogress <;> cases hprogress

theorem leavesClosed_saveRequest {requestId : ℕ} {request request' : ProductRequest}
    (h : s.requests.find requestId = some request) (hclosed : request.IsClosed → request'.IsClosed) :
    LeavesClosed s (s.saveRequest requestId request') := by
  intro id other hfind hother
  by_cases hid : id = requestId
  · subst hid
    obtain rfl := Option.mem_unique h hfind
    exact ⟨request', find_set_self h request', hclosed hother⟩
  · exact ⟨other, (find_set_of_ne s.requests request' hid).trans hfind, hother⟩

/-- The new offer that a call inserts awaits an answer. -/
def OfferWrite.Sound : OfferWrite → Prop
  | .insert offer => offer.status = .sent
  | _ => True

theorem OfferCall.sound_nextWrite (toUpperCase : String → String) (c : OfferCall) (seen : List ProductRequestStore) :
    (c.nextWrite toUpperCase seen).Sound := by
  unfold nextWrite
  split
  · split
    · rename_i hreturned
      exact ((returns_prepareOffer _ _ _ _).of_returned hreturned).2.2
    · split_ifs <;> trivial
    · trivial
  · split <;> trivial
  · trivial
  · trivial
  · trivial

theorem start_iff (h : s.WithinLimits) (requestId : ℕ) :
    ((s.putInProgress requestId).WithinLimits ∧ KeepsClosedRequests s (s.putInProgress requestId) ↔
        ∀ request ∈ s.requests.find requestId, ¬ request.IsClosed) ∧
      ((∀ request ∈ s.requests.find requestId, ¬ request.IsClosed) → LeavesClosed s (s.putInProgress requestId)) := by
  cases hfind : s.requests.find requestId with
  | none =>
    have hsame : s.putInProgress requestId = s := by
      unfold ProductRequestStore.putInProgress
      rw [hfind]
    rw [hsame]
    refine ⟨iff_of_true ⟨h, (LeavesClosed.refl s).keepsClosed⟩ fun request hrequest => ?_, fun _ => .refl s⟩
    cases hrequest
  | some request =>
    rw [putInProgress_of_find hfind]
    have hstays (hopen : ¬ request.IsClosed) :
        LeavesClosed s (s.saveRequest requestId { request with status := .inProgress }) :=
      leavesClosed_saveRequest hfind fun hclosed => absurd hclosed hopen
    refine ⟨⟨fun h' found hfound hclosed => ?_, fun hopen => ⟨⟨h.own, h.limit, h.accepted⟩, ?_⟩⟩, fun hopen => ?_⟩
    · obtain rfl := Option.some.inj hfound
      exact h'.2 requestId request _ hfind (find_set_self hfind _) hclosed rfl
    · exact (hstays (hopen request rfl)).keepsClosed
    · exact hstays (hopen request rfl)

theorem LeavesClosed.iff {s' : ProductRequestStore} {C : Prop} (h : LeavesClosed s s')
    (hlimits : s'.WithinLimits ↔ C) : (s'.WithinLimits ∧ KeepsClosedRequests s s' ↔ C) ∧ (C → LeavesClosed s s') :=
  ⟨(and_iff_left h.keepsClosed).trans hlimits, fun _ => h⟩

/-- **One write** keeps the limits and the closed requests exactly if what was tested still holds. -/
theorem withinLimits_apply_iff (h : s.WithinLimits) {w : OfferWrite} (hsound : w.Sound) :
    ((w.apply s).WithinLimits ∧ KeepsClosedRequests s (w.apply s) ↔ w.InTime s) ∧
      (w.InTime s → LeavesClosed s (w.apply s)) := by
  cases w with
  | none => exact (LeavesClosed.refl s).iff (iff_of_true h trivial)
  | insert offer => exact LeavesClosed.iff (LeavesClosed.refl s) (withinLimits_addOffer_iff h hsound)
  | start requestId => exact start_iff h requestId
  | withdraw offerId offer =>
    exact LeavesClosed.iff (LeavesClosed.refl s) (iff_of_true (withinLimits_saveOffer h (.inl rfl) offerId) trivial)
  | accept now buyerId requestId offerId note =>
    have happly : (OfferWrite.accept now buyerId requestId offerId note).apply s = _ :=
      run_acceptOffer buyerId requestId offerId note
    have htime : (OfferWrite.accept now buyerId requestId offerId note).InTime s ↔
        ∀ found ∈ (run (acceptedPair buyerId requestId offerId) s).1.toOption,
          found.2.status = .accepted ∨ s.countOffers (·.IsAcceptedOf requestId) = 0 := Iff.rfl
    rw [happly, htime]
    rcases hpair : (run (acceptedPair buyerId requestId offerId) s).1 with e | ⟨request, offer⟩
    · exact (LeavesClosed.refl s).iff (iff_of_true h fun found hfound => by cases hfound)
    · have hfinds := findsPair_of_run hpair
      have hstays : LeavesClosed s (s.accepted now requestId offerId note request offer) :=
        leavesClosed_saveRequest (s := rejectOffers now requestId (some offerId) (s.saveOffer offerId _))
          (find_of_findRequest hfinds.requestFound) fun _ => .inr rfl
      have hlimits := @withinLimits_accepted_iff s now buyerId requestId offerId note request offer h hfinds
      refine hstays.iff (hlimits.trans ⟨fun hcan found hfound => ?_, fun hcan => hcan _ rfl⟩)
      obtain rfl := Option.some.inj hfound
      exact hcan
  | close now buyerId requestId dto =>
    have happly : (OfferWrite.close now buyerId requestId dto).apply s =
        (run (updateStatusAsBuyer now buyerId requestId dto) s).2 := rfl
    rw [happly]
    rcases @run_updateStatusAsBuyer now s buyerId requestId dto with hsame | ⟨request, hfound, -, hstatus, hclosed⟩
    · rw [hsame]
      exact (LeavesClosed.refl s).iff (iff_of_true h trivial)
    · rw [hclosed]
      have hoffers : LeavesClosed s (closeOffers now requestId dto.status s) := by
        unfold closeOffers
        split_ifs <;> exact .refl s
      have hlimits : (closeOffers now requestId dto.status s).WithinLimits := withinLimits_closeOffers h requestId _
      have hfind : (closeOffers now requestId dto.status s).requests.find requestId = some request :=
        find_of_findRequest ((findRequest_closeOffers requestId dto.status).trans hfound)
      have hafter : (closedRequest now dto request).IsClosed := hstatus
      refine (hoffers.trans (leavesClosed_saveRequest hfind fun _ => hafter)).iff (iff_of_true ?_ trivial)
      exact ⟨hlimits.own, hlimits.limit, hlimits.accepted⟩

section Pool

variable {ι : Type} [DecidableEq ι] (toUpperCase : String → String) (calls : ι → OfferCall)

theorem store_offer_step (P : Pool ι ProductRequestStore) (i : ι) :
    (P.step (fun j => (calls j).proc toUpperCase) i).store =
      ((calls i).nextWrite toUpperCase (P.seen i)).apply P.store := by
  have hperforms := OfferCall.performs_nextWrite toUpperCase (P.seen i) (calls i)
  unfold Pool.step
  cases hleft : P.left (fun j => (calls j).proc toUpperCase) i with
  | done a =>
    rw [show ((calls i).proc toUpperCase).resume (P.seen i) = .done a from hleft] at hperforms
    exact (hperforms P.store).symm
  | fail e =>
    rw [show ((calls i).proc toUpperCase).resume (P.seen i) = .fail e from hleft] at hperforms
    exact (hperforms P.store).symm
  | step act next =>
    rw [show ((calls i).proc toUpperCase).resume (P.seen i) = .step act next from hleft] at hperforms
    exact hperforms P.store

variable {toUpperCase calls}

theorem withinLimits_step_iff {P : Pool ι ProductRequestStore} (h : P.store.WithinLimits) (i : ι) :
    ((P.step (fun j => (calls j).proc toUpperCase) i).store.WithinLimits ∧
        KeepsClosedRequests P.store (P.step (fun j => (calls j).proc toUpperCase) i).store ↔
      ((calls i).nextWrite toUpperCase (P.seen i)).InTime P.store) ∧
    (((calls i).nextWrite toUpperCase (P.seen i)).InTime P.store →
      LeavesClosed P.store (P.step (fun j => (calls j).proc toUpperCase) i).store) := by
  rw [store_offer_step]
  exact withinLimits_apply_iff h (OfferCall.sound_nextWrite toUpperCase (calls i) (P.seen i))

end Pool

/-- **When offers keep their limits**: no seller has two offers that await an answer, no more than ten offers of a
request count, at most one is accepted and no closed request is put in progress, exactly in the schedules in which every
write still finds what its call has tested. -/
theorem offers_within_limits_iff (toUpperCase : String → String) {s : ProductRequestStore} (h : s.WithinLimits)
    {ι : Type} [DecidableEq ι] (calls : ι → OfferCall) (schedule : List ι) :
    let pool n := Run.after (Pool.step fun j => (calls j).proc toUpperCase) (.init s) (schedule.take n)
    ((∀ n, (pool n).store.WithinLimits) ∧ ∀ n m, n ≤ m → KeepsClosedRequests (pool n).store (pool m).store) ↔
      Run.Along (Pool.step fun j => (calls j).proc toUpperCase)
        (fun P i => ((calls i).nextWrite toUpperCase (P.seen i)).InTime P.store) (.init s) schedule := by
  exact Run.forall_take_and_rel_take_iff (I := fun P => P.store.WithinLimits) (P := fun P => P.store.WithinLimits)
    (R := fun P P' : Pool ι ProductRequestStore => LeavesClosed P.store P'.store)
    (K := fun P P' => KeepsClosedRequests P.store P'.store) (fun _ => id) (fun _ _ => LeavesClosed.keepsClosed)
    (fun P => .refl P.store) (fun _ _ _ => LeavesClosed.trans)
    (fun P i hP hi => ⟨((withinLimits_step_iff hP i).1.mpr hi).1, (withinLimits_step_iff hP i).2 hi⟩)
    (fun P i hP hlimits hkeeps => (withinLimits_step_iff hP i).1.mp ⟨hlimits, hkeeps⟩) h schedule

theorem withinLimits_oneRequest : oneRequest.WithinLimits where
  own _ _ := zero_le_one
  limit _ := (by decide : (0 : ℤ) ≤ 10)
  accepted _ := zero_le_one

/-- The calls of two sellers, and the buyer accepts the first offer. -/
def offersAndAnswer : Fin 3 → OfferCall
  | 0 => .createOffer 2 [.vendor] 1 {}
  | 1 => .createOffer 3 [.vendor] 1 {}
  | 2 => .acceptOffer 7 1 1 1 none

def sameOffers : Bool → OfferCall := fun _ => .createOffer 2 [.vendor] 1 {}

/-- The sellers make their offers beside each other, and the buyer accepts one of them. -/
theorem offers_within_limits_iff_offersAndAnswer :
    let pool n := Run.after (Pool.step fun j => (offersAndAnswer j).proc id) (.init oneRequest)
      (([0, 1, 0, 1, 0, 1, 0, 1, 0, 1, 2] : List (Fin 3)).take n)
    (∀ n, (pool n).store.WithinLimits) ∧ ∀ n m, n ≤ m → KeepsClosedRequests (pool n).store (pool m).store :=
  (offers_within_limits_iff id withinLimits_oneRequest offersAndAnswer _).mpr (by decide)

/-- Both calls read that the seller has no offer yet, and then each inserts one. -/
theorem two_active_offers :
    let pool n := Run.after (Pool.step fun j => (sameOffers j).proc id) (.init oneRequest)
      ([false, true, false, true, false, true, false, true].take n)
    ¬ ((∀ n, (pool n).store.WithinLimits) ∧ ∀ n m, n ≤ m → KeepsClosedRequests (pool n).store (pool m).store) := by
  intro pool h
  have hone := (h.1 8).own 1 2
  revert hone
  decide

end SuuqBackend
