import SuuqBackend.PropertyRental.Laws.RentalRuns
import Mathlib.Algebra.Order.BigOperators.Group.Finset

/-!
# Interrupted accruals

An accrual posts its entry and then saves the row of the booking.  When it is interrupted in between, the entry is
there and the row does not know it: the amount is pending.  The next accrual computes what it posts from the row
alone, so it makes up for the interruption exactly when it arrives at the same cumulative amount, whose key the
ledger has; at any other amount it posts what is pending once more.

* `Pending.posted`, `Pending.saved_iff`: what the two actions of an accrual do to the pending amounts.
* `AccrualCall.recognizedAfter_iff`: when an accrual leaves a booking recognized once.
* `interrupted_accruals_iff`: in which runs every completed accrual does.
-/

namespace SuuqBackend

open PropertyRentalBookings RevenueAccrual SerialTable

/-! ### Pending amounts -/

/-- The cumulative amount, in cents, was posted for the booking. -/
def PostedAccrual (J : GlStore) (bookingId : ℕ) (booking : PropertyRentalBooking) (c : ℤ) : Prop :=
  J.entryByKey booking.branchId (RentalKey.accrual bookingId c).text ≠ none

/-- The cumulative amounts that were posted and that the row does not know are these, and they have become
revenue beside what it knows. -/
structure Pending (J : GlStore) (bookingId : ℕ) (booking : PropertyRentalBooking) (P : Finset ℤ) : Prop where
  mem_iff : ∀ c, c ∈ P ↔ booking.recognizedAmount < (c : ℚ) / 100 ∧ PostedAccrual J bookingId booking c
  revenue_eq : J.rentRevenue bookingId = booking.recognizedAmount + ∑ c ∈ P, ((c : ℚ) / 100 - booking.recognizedAmount)

/-- What is pending is the amount that the accrual arrives at. -/
def Resumes (env : PropertyRentalRuntime) (asOf : Date) (J : GlStore) (bookingId : ℕ)
    (booking : PropertyRentalBooking) : Prop :=
  ∀ c : ℤ, booking.recognizedAmount < (c : ℚ) / 100 → PostedAccrual J bookingId booking c →
    (c : ℚ) / 100 = (computeAccrualRecognition env.newDate booking asOf).recognizable

namespace Pending

variable {J : GlStore} {bookingId : ℕ} {booking : PropertyRentalBooking} {P : Finset ℤ}

theorem resumes_iff (h : Pending J bookingId booking P) (env : PropertyRentalRuntime) (asOf : Date) :
    Resumes env asOf J bookingId booking ↔
      ∀ c ∈ P, (c : ℚ) / 100 = (computeAccrualRecognition env.newDate booking asOf).recognizable := by
  refine forall_congr' fun c => ?_
  rw [h.mem_iff, and_imp]

theorem sum_eq_zero_iff {x : ℚ} (hP : ∀ c ∈ P, x < (c : ℚ) / 100) : ∑ c ∈ P, ((c : ℚ) / 100 - x) = 0 ↔ P = ∅ := by
  constructor
  · intro hsum
    by_contra hne
    have hpos : 0 < ∑ c ∈ P, ((c : ℚ) / 100 - x) :=
      Finset.sum_pos (fun c hc => sub_pos.mpr (hP c hc)) (Finset.nonempty_iff_ne_empty.mpr hne)
    exact hpos.ne' hsum
  · rintro rfl
    exact Finset.sum_empty

theorem eq_empty_iff (h : Pending J bookingId booking P) :
    J.rentRevenue bookingId = booking.recognizedAmount ↔ P = ∅ := by
  rw [h.revenue_eq, add_eq_left]
  exact sum_eq_zero_iff fun c hc => ((h.mem_iff c).mp hc).1

end Pending

/-! ### The two actions of an accrual -/

/-- **What an accrual arrives at**: whole cents, and what is new of them is posted. -/
theorem recognition_cents (newDate : String → Option Date) (asOf : Date) {booking : PropertyRentalBooking}
    (hrecognized : booking.recognizedAmount ∈ cents) :
    let recognition := computeAccrualRecognition newDate booking asOf
    recognition.recognizable ∈ cents ∧
      recognition.recognizeNow = max 0 (recognition.recognizable - booking.recognizedAmount) := by
  intro recognition
  have hrecognition : recognition = computeAccrualRecognition newDate booking asOf := rfl
  unfold computeAccrualRecognition at hrecognition
  split_ifs at hrecognition
  · rw [hrecognition]
    rw [sub_self]
    exact ⟨hrecognized, rfl⟩
  · have hmem : recognition.recognizable ∈ cents := by
      rw [hrecognition]
      exact round2_mem _
    refine ⟨hmem, ?_⟩
    rw [← round2_of_mem (max_zero_mem_cents (sub_mem hmem hrecognized)), hrecognition]

section Actions

variable {J : GlStore} {env : PropertyRentalRuntime} {asOf : Date} {bookingId : ℕ}
  {booking : PropertyRentalBooking} {P : Finset ℤ}

theorem cents_eq_iff {x : ℚ} (h : x ∈ cents) (c : ℤ) : (c : ℚ) / 100 = x ↔ c = round (x * 100) := by
  have hround := cents_of_recognizable h
  constructor
  · intro hsame
    have hcast : (c : ℚ) = (round (x * 100) : ℤ) := by linarith
    exact_mod_cast hcast
  · rintro rfl
    exact hround

theorem Pending.posted (h : Pending J bookingId booking P) (hlinked : J.Linked)
    (hrecognized : booking.recognizedAmount ∈ cents)
    (hpos : 0 < (computeAccrualRecognition env.newDate booking asOf).recognizeNow) :
    let recognition := computeAccrualRecognition env.newDate booking asOf
    Pending (J.entered env.now (accrualEntry bookingId booking recognition asOf)) bookingId booking
      (insert (round (recognition.recognizable * 100)) P) := by
  intro recognition
  obtain ⟨hmem, hnow⟩ := recognition_cents env.newDate asOf hrecognized
  let c₀ := round (recognition.recognizable * 100)
  have hc₀ : (c₀ : ℚ) / 100 = recognition.recognizable := cents_of_recognizable hmem
  have hsub : recognition.recognizeNow = recognition.recognizable - booking.recognizedAmount := by
    rw [hnow] at hpos
    exact hnow.trans (max_eq_right (lt_max_iff.mp hpos |>.resolve_left (lt_irrefl 0)).le)
  have hmore : booking.recognizedAmount < (c₀ : ℚ) / 100 := by
    have hpos : 0 < recognition.recognizeNow := hpos
    linarith
  let input := accrualEntry bookingId booking recognition asOf
  have hkey : input.idempotencyKey = (RentalKey.accrual bookingId c₀).text := accrualKey_text _ _
  by_cases hnew : J.entryByKey input.branchId input.idempotencyKey = none
  · have hfresh : c₀ ∉ P := by
      rw [h.mem_iff]
      rintro ⟨-, hposted⟩
      exact hposted (hkey ▸ hnew)
    have hmove := @accrual_move bookingId booking recognition (recognizeNow_mem env asOf booking) hpos asOf
    refine ⟨fun c => ?_, ?_⟩
    · rw [Finset.mem_insert, h.mem_iff]
      unfold PostedAccrual
      by_cases hc : c = c₀
      · subst hc
        refine iff_of_true (.inl rfl) ⟨hmore, ?_⟩
        have hself := entryByKey_entered_self hnew env.now
        rw [hkey] at hself
        rw [show booking.branchId = input.branchId from rfl, hself]
        nofun
      · have hne : input.idempotencyKey ≠ (RentalKey.accrual bookingId c).text := by
          rw [hkey, Ne, RentalKey.text_eq_iff]
          rintro (hsame | hclash)
          · cases hsame
            exact hc rfl
          · exact hclash
        rw [entryByKey_entered_of_ne hne]
        exact ⟨fun hP => hP.resolve_left hc, .inr⟩
    · rw [(books_entered hlinked hmove env.now hnew).2.2, h.revenue_eq, Finset.sum_insert hfresh, hc₀, hsub]
      ring
  · -- the key is there: nothing is posted
    have hsame : J.entered env.now input = J := if_neg hnew
    have hposted : PostedAccrual J bookingId booking c₀ := by
      exact hnew
    have hold : c₀ ∈ P := (h.mem_iff c₀).mpr ⟨hmore, hposted⟩
    rw [hsame, Finset.insert_eq_of_mem hold]
    exact h

/-- **The save** leaves nothing pending exactly when the amount of the accrual is all that is. -/
theorem Pending.saved_iff {x : ℚ} (h : Pending J bookingId booking P) (hx : x ∈ cents) (hmem : round (x * 100) ∈ P) :
    J.rentRevenue bookingId = x ↔ ∀ c ∈ P, (c : ℚ) / 100 = x := by
  let c₀ := round (x * 100)
  have hc₀ : (c₀ : ℚ) / 100 = x := cents_of_recognizable hx
  have hsum := Finset.add_sum_erase P (fun c : ℤ => (c : ℚ) / 100 - booking.recognizedAmount) hmem
  have hrest : J.rentRevenue bookingId = x ↔ ∑ c ∈ P.erase c₀, ((c : ℚ) / 100 - booking.recognizedAmount) = 0 := by
    rw [h.revenue_eq, ← hsum]
    rw [hc₀]
    constructor
    · intro hsame
      linarith
    · intro hzero
      rw [hzero]
      ring
  rw [hrest, Pending.sum_eq_zero_iff fun c hc => ((h.mem_iff c).mp (Finset.mem_of_mem_erase hc)).1]
  constructor
  · intro hempty c hc
    rw [cents_eq_iff hx]
    by_contra hne
    exact Finset.notMem_empty c (hempty ▸ Finset.mem_erase.mpr ⟨hne, hc⟩)
  · intro hall
    rw [Finset.eq_empty_iff_forall_notMem]
    intro c hc
    obtain ⟨hne, hc⟩ := Finset.mem_erase.mp hc
    exact hne ((cents_eq_iff hx c).mp (hall c hc))

end Actions

/-! ### The books of the accruals -/

/-- Of an open booking, the amounts are in whole cents, and what was posted and is not on the row is pending. -/
structure OpenAccrual (J : GlStore) (bookingId : ℕ) (booking : PropertyRentalBooking) : Prop where
  paid_mem : booking.paidAmount.getD 0 ∈ cents
  recognized_mem : booking.recognizedAmount ∈ cents
  pending : ∃ P, Pending J bookingId booking P

structure AccrualBooks (S : PropertyRentalStore) : Prop where
  linked : S.journal.Linked
  opened : ∀ id booking, S.bookings.find id = some booking → booking.status = .opened →
    OpenAccrual S.journal id booking
  unopened : ∀ id, S.bookings.find id = none → S.journal.rentRevenue id = 0 ∧
    ∀ branchId c, S.journal.entryByKey branchId (RentalKey.accrual id c).text = none

/-- The revenue of the booking and the keys of its accruals are the same. -/
def SameAccruals (J J' : GlStore) (bookingId : ℕ) : Prop :=
  J'.rentRevenue bookingId = J.rentRevenue bookingId ∧ ∀ branchId c,
    J'.entryByKey branchId (RentalKey.accrual bookingId c).text =
      J.entryByKey branchId (RentalKey.accrual bookingId c).text

theorem SameAccruals.refl (J : GlStore) (bookingId : ℕ) : SameAccruals J J bookingId :=
  ⟨rfl, fun _ _ => rfl⟩

variable {bookingId : ℕ} {booking : PropertyRentalBooking}

variable {J : GlStore} {booking' : PropertyRentalBooking} {S' S : PropertyRentalStore}

theorem sameAccruals_entered (hlinked : J.Linked) {input : PostJournalEntryInput}
    {deferred deposit revenue : ℚ} {k : RentalKey}
    (hmove : RentalMove input bookingId deferred deposit revenue) (hkey : input.idempotencyKey = k.text)
    (hbooking : k.bookingId = bookingId) (now : Date) {id : ℕ}
    (hother : id ≠ bookingId ∨ k.posting ≠ .accrual ∧ revenue = 0) : SameAccruals J (J.entered now input) id := by
  refine ⟨?_, fun branchId c => entryByKey_entered_of_ne ?_ now⟩
  · by_cases hid : id = bookingId
    · subst hid
      have hzero : revenue = 0 := (hother.resolve_left fun hne => hne rfl).2
      by_cases hnew : J.entryByKey input.branchId input.idempotencyKey = none
      · rw [(books_entered hlinked hmove now hnew).2.2, hzero, add_zero]
      · rw [GlStore.entered, if_neg hnew]
    · exact (books_entered_of_ne hlinked hmove now hid).2.2
  · rw [hkey, Ne, RentalKey.text_eq_iff]
    rintro (rfl | hclash)
    · rcases hother with hne | ⟨hposting, -⟩
      · exact hne hbooking
      · exact hposting rfl
    · cases k <;> exact hclash

theorem OpenAccrual.congr {J' : GlStore} (h : OpenAccrual J bookingId booking) (hsame : SameAccruals J J' bookingId)
    (hbranch : booking'.branchId = booking.branchId)
    (hrecognized : booking'.recognizedAmount = booking.recognizedAmount)
    (hpaid : booking'.paidAmount.getD 0 ∈ cents) : OpenAccrual J' bookingId booking' := by
  obtain ⟨P, hP⟩ := h.pending
  refine ⟨hpaid, hrecognized ▸ h.recognized_mem, P, fun c => ?_, ?_⟩
  · unfold PostedAccrual
    rw [hP.mem_iff, hrecognized, hbranch, hsame.2]
    rfl
  · rw [hsame.1, hP.revenue_eq, hrecognized]

theorem AccrualBooks.of_rows (h : AccrualBooks S) (hlinked : S'.journal.Linked)
    (hsame : ∀ id, SameAccruals S.journal S'.journal id)
    (hkept : ∀ id, S'.bookings.find id = none → S.bookings.find id = none)
    (hrows : ∀ id row, S'.bookings.find id = some row → row.status = .opened → OpenAccrual S.journal id row) :
    AccrualBooks S' where
  linked := hlinked
  opened id row hrow hstatus := by
    have hold := hrows id row hrow hstatus
    exact hold.congr (hsame id) rfl rfl hold.paid_mem
  unopened id hnone := by
    obtain ⟨hrevenue, hkeys⟩ := h.unopened id (hkept id hnone)
    refine ⟨(hsame id).1.trans hrevenue, fun branchId c => ?_⟩
    rw [(hsame id).2]
    exact hkeys branchId c

theorem AccrualBooks.set (h : AccrualBooks S) (hfind : S.bookings.find bookingId = some booking)
    (hopened : booking.status = .opened) (hset : S'.bookings = S.bookings.set bookingId booking')
    (hlinked : S'.journal.Linked) (hsame : ∀ id, SameAccruals S.journal S'.journal id)
    (hbranch : booking'.branchId = booking.branchId)
    (hrecognized : booking'.recognizedAmount = booking.recognizedAmount)
    (hpaid : booking'.paidAmount.getD 0 ∈ cents) : AccrualBooks S' := by
  refine h.of_rows hlinked hsame (fun id hnone => ?_) fun id row hrow hstatus => ?_
  · have hsome := isSome_find_set S.bookings bookingId booking' id
    rw [← hset, hnone] at hsome
    exact Option.isNone_iff_eq_none.mp (Option.isSome_eq_false_iff.mp hsome.symm)
  · rw [hset] at hrow
    rcases eq_or_find_of_find_set hrow with ⟨rfl, rfl⟩ | ⟨-, hold⟩
    · exact (h.opened _ booking hfind hopened).congr (.refl _ _) hbranch hrecognized hpaid
    · exact h.opened id row hold hstatus

theorem AccrualBooks.add (h : AccrualBooks S)
    (hadd : S'.bookings = S.bookings.add booking) (hlinked : S'.journal.Linked)
    (hsame : ∀ id, SameAccruals S.journal S'.journal id) (hrecognized : booking.recognizedAmount = 0)
    (hpaid : booking.paidAmount.getD 0 ∈ cents) : AccrualBooks S' := by
  refine h.of_rows hlinked hsame (fun id hnone => ?_) fun id row hrow hstatus => ?_
  · rw [hadd] at hnone
    by_contra hsome
    obtain ⟨row, hrow⟩ := Option.ne_none_iff_exists'.mp hsome
    cases (find_add_of_find hrow booking).symm.trans hnone
  · rw [hadd] at hrow
    rcases eq_or_find_of_find_add hrow with ⟨rfl, rfl⟩ | hold
    · obtain ⟨hrevenue, hkeys⟩ := h.unopened S.bookings.next (find_next _)
      refine ⟨hpaid, hrecognized ▸ zero_mem cents, ∅, fun c => ?_, ?_⟩
      · exact iff_of_false (Finset.notMem_empty c) fun hposted => hposted.2 (hkeys _ c)
      · rw [Finset.sum_empty, add_zero, hrevenue, hrecognized]
    · exact h.opened id row hold hstatus

section Operations

variable {S : PropertyRentalStore} (env : PropertyRentalRuntime)

theorem accrualBooks_openBooking (h : AccrualBooks S) (dto : OpenPropertyBookingDto)
    (actorId : Option ℕ) : AccrualBooks ((openBooking env dto actorId).run S).2 := by
  rcases openBooking_cases env S dto actorId with hsame | hwrites
  · rw [hsame]
    exact h
  · rw [hwrites]
    split_ifs with hdeposit
    · have hmove := @depositOpen_move S.bookings.next (newBooking env dto actorId) hdeposit
      exact h.add rfl (h.linked.entered env.now _)
        (fun id => sameAccruals_entered (k := .depositOpen S.bookings.next) h.linked hmove rfl rfl env.now
          (.inr ⟨nofun, rfl⟩)) rfl (zero_mem cents)
    · exact h.add rfl h.linked (fun id => SameAccruals.refl _ id) rfl (zero_mem cents)

theorem accrualBooks_postCharge (h : AccrualBooks S) (bookingId : ℕ) (dto : PostPropertyChargeDto) :
    AccrualBooks ((postCharge env bookingId dto).run S).2 := by
  rcases postCharge_cases env bookingId S dto with hsame | ⟨booking, hfind, hopened, hwrites⟩
  · rw [hsame]
    exact h
  · rw [hwrites]
    exact h.set hfind hopened rfl h.linked (fun id => SameAccruals.refl _ id) rfl rfl
      (h.opened bookingId booking hfind hopened).paid_mem

theorem accrualBooks_recordPayment (h : AccrualBooks S) (bookingId : ℕ) (dto : RecordPropertyPaymentDto) :
    AccrualBooks ((recordPayment env bookingId dto).run S).2 := by
  rcases recordPayment_cases env bookingId dto S with
    hsame | ⟨booking, records, hfind, hopened, hwhole, hpos, -, -, hwrites⟩
  · rw [hsame]
    exact h
  · rw [hwrites]
    let key := PosSync.trimmed dto.idempotencyKey
    have hkey := paymentKey_text bookingId key (S.payments bookingId).length
    have hne : paymentKey bookingId key (S.payments bookingId).length ≠ "" := by
      rw [hkey]
      exact RentalKey.text_ne_empty _
    have hmove := @deferral_move bookingId (paidBooking booking records (received records)) env records
      hwhole hpos _ hne (dto.paidAt.getD env.now)
    refine h.set hfind hopened rfl (h.linked.entered env.now _) (fun id => ?_) rfl rfl (round2_mem _)
    exact sameAccruals_entered h.linked hmove hkey rfl env.now (.inr ⟨nofun, rfl⟩)

end Operations

/-! ### The accrual of one booking -/

section AccrueOne

variable {S : PropertyRentalStore} {env : PropertyRentalRuntime} {faults : ℕ → Option AccrualFault}
  {asOf : Date} {bookingId : ℕ} {booking : PropertyRentalBooking}

theorem journal_accrueOne (hlinked : S.journal.Linked) :
    let S' := accrueOne env faults asOf S bookingId
    S'.journal.Linked ∧ ∀ id, id ≠ bookingId → SameAccruals S.journal S'.journal id := by
  intro S'
  rcases accrueOne_cases env faults asOf S bookingId with
    ⟨hsame, -⟩ | ⟨booking, hfind, hopened, hpos, hwrites⟩
  · rw [show S' = S from hsame]
    exact ⟨hlinked, fun id _ => SameAccruals.refl _ id⟩
  · let recognition := computeAccrualRecognition env.newDate booking asOf
    have hmove := @accrual_move bookingId booking recognition (recognizeNow_mem env asOf booking) hpos asOf
    have hjournal : S'.journal = S.journal.entered env.now (accrualEntry bookingId booking recognition asOf) := by
      rcases hwrites with ⟨-, hposted⟩ | ⟨-, hsaved⟩
      · exact congrArg PropertyRentalStore.journal hposted
      · exact congrArg PropertyRentalStore.journal hsaved
    rw [hjournal]
    refine ⟨hlinked.entered env.now _, fun id hne => ?_⟩
    exact sameAccruals_entered hlinked hmove (accrualKey_text bookingId _) rfl env.now (.inl hne)

def RecognizedAt (S : PropertyRentalStore) (bookingId : ℕ) : Prop :=
  ∀ booking ∈ S.bookings.find bookingId, S.journal.rentRevenue bookingId = booking.recognizedAmount

/-- What is pending for the booking is what the accrual arrives at. -/
def ResumesAt (env : PropertyRentalRuntime) (asOf : Date) (S : PropertyRentalStore) (bookingId : ℕ) : Prop :=
  ∀ booking ∈ S.bookings.find bookingId, Resumes env asOf S.journal bookingId booking

/-- **An accrual that is not interrupted** leaves the booking recognized once exactly when it resumes what is
pending. -/
theorem recognizedAt_accrueOne_iff (h : AccrualBooks S) (hfind : S.bookings.find bookingId = some booking)
    (hopened : booking.status = .opened) (hfault : faults bookingId = none) :
    RecognizedAt (accrueOne env faults asOf S bookingId) bookingId ↔ ResumesAt env asOf S bookingId := by
  obtain ⟨-, hrecognized, P, hP⟩ := h.opened bookingId booking hfind hopened
  obtain ⟨hmem, hnow⟩ := recognition_cents env.newDate asOf hrecognized
  have hresumes : ResumesAt env asOf S bookingId ↔
      ∀ c ∈ P, (c : ℚ) / 100 = (computeAccrualRecognition env.newDate booking asOf).recognizable := by
    rw [← hP.resumes_iff]
    unfold ResumesAt
    rw [hfind]
    exact ⟨fun hall => hall booking rfl, by rintro hone row ⟨⟩; exact hone⟩
  rw [hresumes]
  rcases accrueOne_cases env faults asOf S bookingId with
    ⟨hsame, hwhy⟩ | ⟨row, hrow, -, hpos, hwrites⟩
  · -- the accrual arrives at no more than the row knows
    have hle : (computeAccrualRecognition env.newDate booking asOf).recognizable ≤ booking.recognizedAmount := by
      have hzero := (hwhy booking hfind hopened).resolve_right (by rw [hfault]; nofun)
      rw [hnow] at hzero
      exact sub_nonpos.mp ((le_max_right _ _).trans hzero)
    have hat : RecognizedAt S bookingId ↔ P = ∅ := by
      rw [← hP.eq_empty_iff]
      unfold RecognizedAt
      rw [hfind]
      exact ⟨fun hall => hall booking rfl, by rintro hone row ⟨⟩; exact hone⟩
    rw [hsame, hat]
    constructor
    · rintro rfl c hc
      exact absurd hc (Finset.notMem_empty c)
    · intro hall
      rw [Finset.eq_empty_iff_forall_notMem]
      intro c hc
      have hmore := ((hP.mem_iff c).mp hc).1
      rw [hall c hc] at hmore
      exact absurd hmore (not_lt.mpr hle)
  · rw [hfind] at hrow
    cases hrow
    obtain ⟨-, hsaved⟩ := hwrites.resolve_left (by rw [hfault]; rintro ⟨⟨⟩, -⟩)
    have hposted := hP.posted h.linked hrecognized hpos
    have hiff := hposted.saved_iff hmem (Finset.mem_insert_self _ P)
    have hat : RecognizedAt (accrueOne env faults asOf S bookingId) bookingId ↔
        (S.journal.entered env.now (accrualEntry bookingId booking
          (computeAccrualRecognition env.newDate booking asOf) asOf)).rentRevenue bookingId =
            (computeAccrualRecognition env.newDate booking asOf).recognizable := by
      rw [hsaved]
      have hfind' := find_set_self hfind
        { booking with recognizedAmount := (computeAccrualRecognition env.newDate booking asOf).recognizable }
      constructor
      · exact fun hall => hall _ hfind'
      · intro hone row hrow
        cases hfind'.symm.trans hrow
        exact hone
    rw [hat, hiff]
    constructor
    · exact fun hall c hc => hall c (Finset.mem_insert_of_mem hc)
    · intro hall c hc
      rcases Finset.mem_insert.mp hc with rfl | hc
      · exact cents_of_recognizable hmem
      · exact hall c hc

theorem openAccrual_accrueOne (h : AccrualBooks S) (hfind : S.bookings.find bookingId = some booking)
    (hopened : booking.status = .opened)
    (hresumes : faults bookingId = none → ResumesAt env asOf S bookingId) :
    let S' := accrueOne env faults asOf S bookingId
    ∀ booking', S'.bookings.find bookingId = some booking' → OpenAccrual S'.journal bookingId booking' := by
  intro S' booking' hfind'
  have hbooks := h.opened bookingId booking hfind hopened
  obtain ⟨hpaid, hrecognized, P, hP⟩ := hbooks
  rcases accrueOne_cases env faults asOf S bookingId with
    ⟨hsame, -⟩ | ⟨row, hrow, -, hpos, ⟨-, hposted⟩ | ⟨hfault, hsaved⟩⟩
  · rw [show S' = S from hsame] at hfind' ⊢
    rw [hfind] at hfind'
    cases hfind'
    exact h.opened bookingId booking hfind hopened
  · rw [hfind] at hrow
    cases hrow
    rw [show S' = _ from hposted] at hfind' ⊢
    cases hfind.symm.trans hfind'
    exact ⟨hpaid, hrecognized, _, hP.posted h.linked hrecognized hpos⟩
  · rw [hfind] at hrow
    cases hrow
    have hat : S'.journal.rentRevenue bookingId = booking'.recognizedAmount :=
      (recognizedAt_accrueOne_iff h hfind hopened hfault).mpr (hresumes hfault) booking' hfind'
    have hnew := hP.posted h.linked hrecognized hpos
    obtain ⟨hmem, hnow⟩ := recognition_cents env.newDate asOf hrecognized
    have hall : ∀ c ∈ insert (round ((computeAccrualRecognition env.newDate booking asOf).recognizable * 100))
        P, (c : ℚ) / 100 = (computeAccrualRecognition env.newDate booking asOf).recognizable := by
      intro c hc
      rcases Finset.mem_insert.mp hc with rfl | hc
      · exact cents_of_recognizable hmem
      · exact (hP.resumes_iff env asOf).mp (hresumes hfault booking hfind) c hc
    have hmore : booking.recognizedAmount < (computeAccrualRecognition env.newDate booking asOf).recognizable := by
      rw [hnow] at hpos
      exact sub_pos.mp (lt_max_iff.mp hpos |>.resolve_left (lt_irrefl 0))
    rw [show S' = _ from hsaved] at hfind' hat ⊢
    cases (find_set_self hfind _).symm.trans hfind'
    refine ⟨hpaid, hmem, ∅, fun c => ?_, ?_⟩
    · refine iff_of_false (Finset.notMem_empty c) ?_
      rintro ⟨habove, hposted⟩
      have hc := hall c ((hnew.mem_iff c).mpr ⟨hmore.trans habove, hposted⟩)
      exact absurd hc habove.ne'
    · rw [Finset.sum_empty, add_zero]
      exact hat

theorem AccrualBooks.accrueOne (h : AccrualBooks S)
    (hresumes : faults bookingId = none → ResumesAt env asOf S bookingId) :
    AccrualBooks (accrueOne env faults asOf S bookingId) := by
  by_cases hopen : ∃ booking, S.bookings.find bookingId = some booking ∧ booking.status = .opened
  · obtain ⟨booking, hfind, hopened⟩ := hopen
    obtain ⟨hlinked, hothers⟩ := @journal_accrueOne S env faults asOf bookingId h.linked
    refine ⟨hlinked, fun id row hrow hstatus => ?_, fun id hnone => ?_⟩
    · by_cases hid : id = bookingId
      · subst hid
        exact openAccrual_accrueOne h hfind hopened hresumes row hrow
      · rw [find_accrueOne_of_ne env faults asOf S hid] at hrow
        have hold := h.opened id row hrow hstatus
        exact hold.congr (hothers id hid) rfl rfl hold.paid_mem
    · have hid : id ≠ bookingId := by
        rintro rfl
        rcases bookings_accrueOne env faults asOf S id with hsame | ⟨row, hrow, -, hset⟩
        · rw [hsame, hfind] at hnone
          cases hnone
        · rw [hset, find_set_self hrow] at hnone
          cases hnone
      rw [find_accrueOne_of_ne env faults asOf S hid] at hnone
      obtain ⟨hrevenue, hkeys⟩ := h.unopened id hnone
      refine ⟨(hothers id hid).1.trans hrevenue, fun branchId c => ?_⟩
      rw [(hothers id hid).2]
      exact hkeys branchId c
  · rcases accrueOne_cases env faults asOf S bookingId with ⟨hsame, -⟩ | ⟨booking, hfind, hopened, -⟩
    · rw [hsame]
      exact h
    · exact absurd ⟨booking, hfind, hopened⟩ hopen

theorem accrueOne_of_ne (hlinked : S.journal.Linked) {id : ℕ} (hne : id ≠ bookingId) :
    let S' := accrueOne env faults asOf S bookingId
    (RecognizedAt S' id ↔ RecognizedAt S id) ∧
      ∀ env' asOf', ResumesAt env' asOf' S' id ↔ ResumesAt env' asOf' S id := by
  intro S'
  have hsame := (@journal_accrueOne S env faults asOf bookingId hlinked).2 id hne
  have hfind : S'.bookings.find id = S.bookings.find id := find_accrueOne_of_ne env faults asOf S hne
  refine ⟨?_, fun env' asOf' => ?_⟩
  · unfold RecognizedAt
    rw [hfind, hsame.1]
  · unfold ResumesAt Resumes PostedAccrual
    simp only [hfind, hsame.2, S']

end AccrueOne

/-! ### The daily accrual -/

section Daily

variable {S : PropertyRentalStore} {env : PropertyRentalRuntime} {faults : ℕ → Option AccrualFault}
  {asOf : Date}

theorem recognizedAt_after_of_notMem {ids : List ℕ} {id : ℕ} (hid : id ∉ ids) (hlinked : S.journal.Linked) :
    RecognizedAt (Run.after (accrueOne env faults asOf) S ids) id ↔ RecognizedAt S id := by
  induction ids generalizing S with
  | nil => exact Iff.rfl
  | cons x ids ih =>
    rw [List.mem_cons, not_or] at hid
    obtain ⟨hne, hid⟩ := hid
    rw [Run.after_cons, ih hid (journal_accrueOne hlinked).1]
    exact (accrueOne_of_ne hlinked hne).1

/-- **The daily accrual** leaves each booking that it completes recognized once exactly when it resumes what is
pending for each, and then it keeps the books. -/
theorem recognizedAt_after_iff {ids : List ℕ} (hnodup : ids.Nodup) (h : AccrualBooks S)
    (hopen : ∀ id ∈ ids, ∃ booking, S.bookings.find id = some booking ∧ booking.status = .opened) :
    let S' := Run.after (accrueOne env faults asOf) S ids
    ((∀ id ∈ ids, faults id = none → RecognizedAt S' id) ↔ ∀ id ∈ ids, faults id = none → ResumesAt env asOf S id) ∧
      ((∀ id ∈ ids, faults id = none → ResumesAt env asOf S id) → AccrualBooks S') := by
  induction ids generalizing S with
  | nil => exact ⟨iff_of_true nofun nofun, fun _ => h⟩
  | cons x ids ih =>
    intro S'
    obtain ⟨hx, hnodup⟩ := List.nodup_cons.mp hnodup
    obtain ⟨booking, hfind, hopened⟩ := hopen x List.mem_cons_self
    have hfirst : (faults x = none → RecognizedAt S' x) ↔ (faults x = none → ResumesAt env asOf S x) := by
      refine forall_congr' fun hfault => ?_
      rw [← recognizedAt_accrueOne_iff h hfind hopened hfault]
      exact recognizedAt_after_of_notMem hx (journal_accrueOne h.linked).1
    have hne : ∀ id ∈ ids, id ≠ x := by
      rintro id hid rfl
      exact hx hid
    have hopen' : ∀ id ∈ ids, ∃ booking,
        (accrueOne env faults asOf S x).bookings.find id = some booking ∧ booking.status = .opened := by
      intro id hid
      rw [find_accrueOne_of_ne env faults asOf S (hne id hid)]
      exact hopen id (List.mem_cons_of_mem x hid)
    have hrest : (∀ id ∈ ids, faults id = none → ResumesAt env asOf (accrueOne env faults asOf S x) id) ↔
        ∀ id ∈ ids, faults id = none → ResumesAt env asOf S id := by
      refine forall₃_congr fun id hid _ => ?_
      exact (accrueOne_of_ne h.linked (hne id hid)).2 env asOf
    have hnext := fun hresumes => ih hnodup (h.accrueOne hresumes) hopen'
    rw [List.forall_mem_cons, List.forall_mem_cons, hfirst]
    refine ⟨and_congr_right fun hresumes => ?_, ?_⟩
    · rw [← hrest]
      exact (hnext hresumes).1
    · rintro ⟨hresumes, hall⟩
      exact (hnext hresumes).2 (hrest.mpr hall)

end Daily

/-! ### Runs -/

/-- An operation on a booking, or a daily accrual in which the database may refuse the posting or the save of
any booking. -/
inductive AccrualCall where
  | openBooking (env : PropertyRentalRuntime) (dto : OpenPropertyBookingDto) (actorId : Option ℕ)
  | postCharge (env : PropertyRentalRuntime) (bookingId : ℕ) (dto : PostPropertyChargeDto)
  | recordPayment (env : PropertyRentalRuntime) (bookingId : ℕ) (dto : RecordPropertyPaymentDto)
  | runDailyAccrual (env : PropertyRentalRuntime) (faults : ℕ → Option AccrualFault) (asOf : Date)
      (pages : ℕ)

namespace AccrualCall

def step (S : PropertyRentalStore) : AccrualCall → PropertyRentalStore
  | openBooking env dto actorId => ((PropertyRentalBookings.openBooking env dto actorId).run S).2
  | postCharge env bookingId dto => ((PropertyRentalBookings.postCharge env bookingId dto).run S).2
  | recordPayment env bookingId dto => ((PropertyRentalBookings.recordPayment env bookingId dto).run S).2
  | runDailyAccrual env faults asOf pages => ((RevenueAccrual.runDailyAccrual env faults asOf pages).run S).2

/-- After an accrual, the rental revenue of every open booking whose own accrual was not interrupted is what its
row says. -/
def RecognizedAfter (S : PropertyRentalStore) : AccrualCall → Prop
  | runDailyAccrual env faults asOf pages =>
    ∀ id ∈ (openIds S).take (batch * pages), faults id = none →
      RecognizedAt ((runDailyAccrual env faults asOf pages).step S) id
  | _ => True

/-- For every open booking whose own accrual is not interrupted, what is pending is what the accrual arrives
at. -/
def ResumesPending (S : PropertyRentalStore) : AccrualCall → Prop
  | runDailyAccrual env faults asOf pages =>
    ∀ id ∈ (openIds S).take (batch * pages), faults id = none → ResumesAt env asOf S id
  | _ => True

theorem recognizedAfter_iff {S : PropertyRentalStore} (h : AccrualBooks S) (c : AccrualCall) :
    (c.RecognizedAfter S ↔ c.ResumesPending S) ∧ (c.ResumesPending S → AccrualBooks (c.step S)) := by
  cases c with
  | openBooking env dto actorId =>
    exact ⟨Iff.rfl, fun _ => accrualBooks_openBooking env h dto actorId⟩
  | postCharge env bookingId dto =>
    exact ⟨Iff.rfl, fun _ => accrualBooks_postCharge env h bookingId dto⟩
  | recordPayment env bookingId dto =>
    exact ⟨Iff.rfl, fun _ => accrualBooks_recordPayment env h bookingId dto⟩
  | runDailyAccrual env faults asOf pages =>
    have hopen : ∀ id ∈ (openIds S).take (batch * pages),
        ∃ booking, S.bookings.find id = some booking ∧ booking.status = .opened := by
      intro id hid
      have hopen := (List.mem_filter.mp (List.mem_of_mem_take hid)).2
      obtain ⟨booking, hfind, hopened⟩ := (Option.any_eq_true _ _).mp hopen
      exact ⟨booking, hfind, of_decide_eq_true hopened⟩
    have hnodup := (nodup_openIds S).sublist (List.take_sublist (batch * pages) _)
    have hiff := @recognizedAt_after_iff S env faults asOf _ hnodup h hopen
    rw [← run_runDailyAccrual] at hiff
    exact hiff

end AccrualCall

theorem accrualBooks_emptyRentals : AccrualBooks emptyRentals where
  linked := linked_emptyJournal
  opened id booking hfind := by cases hfind
  unopened id _ := ⟨neg_zero, fun _ _ => rfl⟩

/-- **Interrupted accruals recognize once** in a run exactly when every accrual that is completed resumes what
those before it have left pending. -/
theorem interrupted_accruals_iff (calls : List AccrualCall) :
    Run.Along AccrualCall.step (fun S c => c.RecognizedAfter S) emptyRentals calls ↔
      Run.Along AccrualCall.step (fun S c => c.ResumesPending S) emptyRentals calls :=
  Run.along_congr (I := AccrualBooks) (fun _ c hS => (AccrualCall.recognizedAfter_iff hS c).1)
    (fun _ c hS => (AccrualCall.recognizedAfter_iff hS c).2) accrualBooks_emptyRentals

/-- An accrual of 100 whose save is refused, a payment of 100 more, and the accrual of the next day, which arrives
at 200: it posts 200 for a row that knows of nothing, so the first 100 are revenue twice. -/
def interruptedRun : List AccrualCall :=
  [ .openBooking leaseRuntime lease none,
    .postCharge leaseRuntime 1 { chargeName := "Rent", amount := ⟨100000⟩ },
    .recordPayment leaseRuntime 1 (rentPaid "first"),
    .runDailyAccrual leaseRuntime (fun _ => some .save) 3888000000 1,
    .recordPayment leaseRuntime 1 (rentPaid "second"),
    .runDailyAccrual leaseRuntime noFaults 3888000000 1 ]

theorem interrupted_accrual_recognizes_twice :
    ¬ Run.Along AccrualCall.step (fun S c => c.RecognizedAfter S) emptyRentals interruptedRun := by
  intro h
  let S := Run.after AccrualCall.step emptyRentals (interruptedRun.take 5)
  let S' := Run.after AccrualCall.step emptyRentals interruptedRun
  have hopen : 1 ∈ (openIds S).take (batch * 1) := by decide +kernel
  have hrow : (S'.bookings.find 1).any fun booking =>
      S'.journal.rentRevenue 1 ≠ booking.recognizedAmount := by
    decide +kernel
  obtain ⟨booking, hfind, hne⟩ := (Option.any_eq_true _ _).mp hrow
  have hat : RecognizedAt S' 1 := h.2.2.2.2.2.1 1 hopen rfl
  exact of_decide_eq_true hne (hat booking hfind)

end SuuqBackend
