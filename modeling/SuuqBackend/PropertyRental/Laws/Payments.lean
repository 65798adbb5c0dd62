import SuuqBackend.PropertyRental.Laws.RentalPostings

/-!
# What a payment does

* `run_postEntry`: what a post of an accepted entry leaves.
* `recordPayment_cases`: a payment is refused or a retry, and changes nothing, or it is appended to the
  payments of its booking and posted under `paymentKey`.
-/

namespace SuuqBackend

open Proc GeneralLedger PosSync

namespace PropertyRentalStore

def payments (S : PropertyRentalStore) (bookingId : ℕ) : List PropertyBookingPaymentRecord :=
  ((S.bookings.find bookingId).bind PropertyRentalBooking.payments).getD []

theorem payments_of_find {S : PropertyRentalStore} {bookingId : ℕ} {booking : PropertyRentalBooking}
    (h : S.bookings.find bookingId = some booking) : S.payments bookingId = booking.payments.getD [] := by
  unfold payments
  rw [h]
  rfl

def posted (S : PropertyRentalStore) (now : Date) (input : PostJournalEntryInput) : PropertyRentalStore :=
  { S with journal := S.journal.entered now input }

@[simp] theorem journal_saveBooking (S : PropertyRentalStore) (bookingId : ℕ)
    (booking : PropertyRentalBooking) : (S.saveBooking bookingId booking).journal = S.journal := rfl

theorem run_postEntry {input : PostJournalEntryInput} (hok : assertBalanced input = .ok ()) (now : Date)
    (S : PropertyRentalStore) : ∃ entry, (postEntry now input).run S = (.ok entry, S.posted now input) := by
  obtain ⟨entry, hrun⟩ := run_post_of_ok hok now false S.journal
  refine ⟨entry, ?_⟩
  have hzoom : (postEntry now input).run S = (.ok entry, _) := run_zoom_of (L := journalLens) hrun
  exact hzoom

end PropertyRentalStore

namespace PropertyRentalBookings

open PropertyRentalStore

theorem run_postLogged {input : PostJournalEntryInput} (hok : assertBalanced input = .ok ()) (now : Date)
    (S : PropertyRentalStore) : (postLogged now input).run S = (.ok (), S.posted now input) := by
  obtain ⟨entry, hrun⟩ := run_postEntry hok now S
  unfold postLogged
  rw [run_bind, run_attempt, hrun]
  rfl

/-- **The records of a payment** are in whole cents, each has the key of the payment, and the total is what
they add up to. -/
theorem normalizePaymentRows_spec (env : PropertyRentalRuntime) (rows : List PropertyPaymentRow)
    (currency : String) (checkoutId key : Option String) (paidAt : Date) :
    let normalized := normalizePaymentRows env rows currency checkoutId key paidAt
    WholeCents normalized.1 ∧ normalized.2 = received normalized.1 ∧ ∀ p ∈ normalized.1, p.idempotencyKey = key := by
  intro normalized
  have hwhole : WholeCents normalized.1 := by
    intro p hp
    obtain ⟨row, hrow, rfl⟩ := List.mem_map.mp hp
    have hpos : 0 < amountOf row.amount := of_decide_eq_true (List.mem_filter.mp hrow).2
    exact ⟨round2_mem _, round2_nonneg hpos.le⟩
  refine ⟨hwhole, ?_, ?_⟩
  · exact round2_of_mem (received_mem hwhole)
  · intro p hp
    obtain ⟨row, -, rfl⟩ := List.mem_map.mp hp
    rfl

section Payment

variable (env : PropertyRentalRuntime) (bookingId : ℕ) (dto : RecordPropertyPaymentDto)
  (S : PropertyRentalStore)

theorem recordPayment_cases :
    let S' := ((recordPayment env bookingId dto).run S).2
    let key := trimmed dto.idempotencyKey
    S' = S ∨ ∃ booking records,
      S.bookings.find bookingId = some booking ∧ booking.status = .opened ∧
      WholeCents records ∧ 0 < received records ∧ (∀ p ∈ records, p.idempotencyKey = key) ∧
      (key ≠ none → ∀ p ∈ S.payments bookingId, p.idempotencyKey ≠ key) ∧
      S' = (S.saveBooking bookingId (paidBooking booking records (received records))).posted env.now
        (deferralEntry env bookingId (paidBooking booking records (received records)) (received records)
          records (paymentKey bookingId key (S.payments bookingId).length)
          (dto.paidAt.getD env.now)) := by
  intro S' key
  have hS' : S' = ((recordPayment env bookingId dto).run S).2 := rfl
  unfold recordPayment at hS'
  rw [run_read_bind] at hS'
  cases hbooking : S.bookings.find bookingId with
  | none =>
    rw [hbooking] at hS'
    exact .inl hS'
  | some booking =>
    rw [hbooking] at hS'
    rw [run_throwIf_bind] at hS'
    by_cases hopened : booking.status ≠ .opened
    · rw [if_pos hopened] at hS'
      exact .inl hS'
    rw [if_neg hopened] at hS'
    by_cases hretry : trimmed dto.idempotencyKey ≠ none ∧
        ∃ p ∈ booking.payments.getD [], p.idempotencyKey = trimmed dto.idempotencyKey
    · rw [if_pos hretry] at hS'
      exact .inl hS'
    rw [if_neg hretry, run_throwIf_bind] at hS'
    have hspec := normalizePaymentRows_spec env (paymentRows dto) booking.currency dto.checkoutId key
      (dto.paidAt.getD env.now)
    generalize normalizePaymentRows env (paymentRows dto) booking.currency dto.checkoutId
      (trimmed dto.idempotencyKey) (dto.paidAt.getD env.now) = normalized at hS' hspec
    obtain ⟨records, total⟩ := normalized
    obtain ⟨hwhole, htotal, hkeys⟩ := hspec
    dsimp only at hwhole htotal hkeys hS'
    subst htotal
    by_cases hzero : received records ≤ 0
    · rw [if_pos hzero] at hS'
      exact .inl hS'
    rw [if_neg hzero, run_write_bind] at hS'
    have hpos : 0 < received records := not_le.mp hzero
    have hround : ¬ round2 (received records) ≤ 0 := by
      rw [round2_of_mem (received_mem hwhole)]
      exact hzero
    have hkey : paymentKey bookingId (trimmed dto.idempotencyKey) (booking.payments.getD []).length ≠ "" := by
      rw [paymentKey_text]
      exact RentalKey.text_ne_empty _
    have hmove := @deferral_move bookingId (paidBooking booking records (received records)) env records
      hwhole hpos _ hkey (dto.paidAt.getD env.now)
    rw [postRentDeferral, if_neg hround, run_bind_of_ok (run_postLogged hmove.accepted _ _)] at hS'
    refine .inr ⟨booking, records, rfl, not_not.mp hopened, hwhole, hpos, hkeys, ?_, ?_⟩
    · intro hsome p hp hsame
      rw [payments_of_find hbooking] at hp
      exact hretry ⟨hsome, p, hp, hsame⟩
    · rw [hS', payments_of_find hbooking]
      rfl

end Payment

end PropertyRentalBookings

end SuuqBackend
