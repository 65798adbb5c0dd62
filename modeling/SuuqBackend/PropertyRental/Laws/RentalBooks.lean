import SuuqBackend.PropertyRental.Laws.RentalOperations

/-!
# The books of a booking

What the row of a booking and the ledger have in common: `RentalBooks` says how the deferred rent, the deposit
and the rental revenue of the ledger follow from the row, and `LedgerKeys` which keys the row accounts for.
`Sound` is both, for every booking.  A change of one booking leaves the books of the others alone.

* `Sound.change`: a change of one booking that keeps its own books.
-/

namespace SuuqBackend

open GeneralLedger PropertyRentalBookings SerialTable

theorem unsettled_of_opened {booking : PropertyRentalBooking} (h : booking.status = .opened) :
    booking.status ≠ .settled := by
  rw [h]
  decide

/-! ### Keys -/

/-- The row accounts for the key: the payment is recorded, the booking is settled, or this much has become
revenue. -/
def Spent (revenue : ℚ) (booking : PropertyRentalBooking) : RentalKey → Prop
  | .payment _ ref => ∃ p ∈ booking.payments.getD [], p.idempotencyKey = ref.clientKey
  | .depositOpen _ => True
  | .settlement _ | .depositRefund _ | .depositForfeit _ => booking.status = .settled
  | .accrual _ recognizedCents => (recognizedCents : ℚ) / 100 ≤ revenue

theorem Spent.mono {revenue revenue' : ℚ} {booking : PropertyRentalBooking} {k : RentalKey}
    (h : Spent revenue booking k) (hle : revenue ≤ revenue') : Spent revenue' booking k := by
  cases k with
  | accrual id recognizedCents => exact le_trans h hle
  | _ => exact h

/-- Every entry has a key of a booking, and the row of the booking accounts for it. -/
structure LedgerKeys (S : PropertyRentalStore) : Prop where
  linked : S.journal.Linked
  spent : ∀ entry ∈ S.journal.entries, ∃ k : RentalKey, ∃ booking,
    entry.idempotencyKey = k.text ∧ S.bookings.find k.bookingId = some booking ∧
      Spent (S.journal.rentRevenue k.bookingId) booking k

namespace LedgerKeys

variable {S : PropertyRentalStore} (h : LedgerKeys S)

include h

variable {booking : PropertyRentalBooking}

theorem fresh {k : RentalKey} (hfind : S.bookings.find k.bookingId = some booking)
    (hnot : ∀ k', k' = k ∨ k'.Clash k → ¬ Spent (S.journal.rentRevenue k.bookingId) booking k')
    (branchId : ℕ) : S.journal.entryByKey branchId k.text = none := by
  rw [Option.eq_none_iff_forall_ne_some]
  intro entry hentry
  obtain ⟨hmem, -, hkey⟩ := mem_of_entryByKey hentry
  obtain ⟨k', booking', htext, hfind', hspent⟩ := h.spent entry hmem
  have hsame : k' = k ∨ k'.Clash k := by
    rw [← RentalKey.text_eq_iff, ← htext, hkey]
  have hid : k'.bookingId = k.bookingId := by
    rcases hsame with rfl | hclash
    · rfl
    · cases k' with
      | payment id ref =>
        cases k with
        | payment id' ref' => exact hclash.1
        | _ => exact hclash.elim
      | _ => exact hclash.elim
  rw [hid] at hfind' hspent
  rw [hfind] at hfind'
  cases hfind'
  exact hnot k' hsame hspent

theorem fresh_of_not {k : RentalKey}
    (hfind : S.bookings.find k.bookingId = some booking) (hposting : k.posting ≠ .payment)
    (hnot : ¬ Spent (S.journal.rentRevenue k.bookingId) booking k) (branchId : ℕ) :
    S.journal.entryByKey branchId k.text = none := by
  refine h.fresh hfind ?_ branchId
  rintro k' (rfl | hclash)
  · exact hnot
  · cases k with
    | payment id ref => exact absurd rfl hposting
    | _ => cases k' <;> exact hclash.elim

theorem saveBooking {bookingId : ℕ} {booking' : PropertyRentalBooking}
    (hfind : S.bookings.find bookingId = some booking) (hmono : ∀ k, Spent (S.journal.rentRevenue bookingId) booking k →
      Spent (S.journal.rentRevenue bookingId) booking' k) : LedgerKeys (S.saveBooking bookingId booking') where
  linked := h.linked
  spent entry hentry := by
    obtain ⟨k, row, hkey, hrow, hspent⟩ := h.spent entry hentry
    by_cases hid : k.bookingId = bookingId
    · rw [hid, hfind] at hrow
      cases hrow
      rw [hid] at hspent
      refine ⟨k, booking', hkey, ?_, ?_⟩
      · rw [hid]
        exact find_set_self hfind _
      · rw [hid]
        exact hmono k hspent
    · refine ⟨k, row, hkey, ?_, hspent⟩
      exact (find_set_of_ne _ _ hid).trans hrow

end LedgerKeys

/-! ### Postings -/

/-- The step moves the three amounts of a booking by these, leaves those of the others, and all rows. -/
structure Moved (S S' : PropertyRentalStore) (bookingId : ℕ) (deferred deposit revenue : ℚ) : Prop where
  bookings_eq : S'.bookings = S.bookings
  deferred_eq : S'.journal.deferredRent bookingId = S.journal.deferredRent bookingId + deferred
  deposit_eq : S'.journal.depositHeld bookingId = S.journal.depositHeld bookingId + deposit
  revenue_eq : S'.journal.rentRevenue bookingId = S.journal.rentRevenue bookingId + revenue
  others : ∀ other, other ≠ bookingId →
    S'.journal.deferredRent other = S.journal.deferredRent other ∧
      S'.journal.depositHeld other = S.journal.depositHeld other ∧
      S'.journal.rentRevenue other = S.journal.rentRevenue other

theorem Moved.trans {S S' S'' : PropertyRentalStore} {bookingId : ℕ}
    {deferred deposit revenue deferred' deposit' revenue' : ℚ} (h : Moved S S' bookingId deferred deposit revenue)
    (h' : Moved S' S'' bookingId deferred' deposit' revenue') :
    Moved S S'' bookingId (deferred + deferred') (deposit + deposit') (revenue + revenue') where
  bookings_eq := h'.bookings_eq.trans h.bookings_eq
  deferred_eq := by rw [h'.deferred_eq, h.deferred_eq, add_assoc]
  deposit_eq := by rw [h'.deposit_eq, h.deposit_eq, add_assoc]
  revenue_eq := by rw [h'.revenue_eq, h.revenue_eq, add_assoc]
  others other hne := by
    obtain ⟨hd, hp, hr⟩ := h.others other hne
    obtain ⟨hd', hp', hr'⟩ := h'.others other hne
    exact ⟨hd'.trans hd, hp'.trans hp, hr'.trans hr⟩

section Posts

variable {S : PropertyRentalStore} {bookingId : ℕ} {booking : PropertyRentalBooking}
  {input : PostJournalEntryInput} {k : RentalKey} {deferred deposit revenue : ℚ}

theorem posts (h : LedgerKeys S) (hfind : S.bookings.find bookingId = some booking)
    (hmove : RentalMove input bookingId deferred deposit revenue) (hrevenue : 0 ≤ revenue)
    (hkey : input.idempotencyKey = k.text) (hbooking : k.bookingId = bookingId)
    (hnew : S.journal.entryByKey input.branchId k.text = none)
    (hspent : Spent (S.journal.rentRevenue bookingId + revenue) booking k) (now : Date) :
    LedgerKeys (S.posted now input) ∧ Moved S (S.posted now input) bookingId deferred deposit revenue := by
  rw [← hkey] at hnew
  obtain ⟨hd, hp, hr⟩ := books_entered h.linked hmove now hnew
  have hothers := fun other hne => @books_entered_of_ne _ h.linked _ _ _ _ _ hmove now other hne
  refine ⟨⟨h.linked.entered now input, ?_⟩, ⟨rfl, hd, hp, hr, hothers⟩⟩
  intro entry hentry
  have hentries : (S.posted now input).journal.entries =
      S.journal.entries ++ [postedEntry now input S.journal.nextEntryId] := by
    show (S.journal.entered now input).entries = _
    rw [GlStore.entered, if_pos hnew]
    rfl
  rw [hentries, List.mem_append, List.mem_singleton] at hentry
  rcases hentry with hold | rfl
  · obtain ⟨k', row, hkey', hrow, hspent'⟩ := h.spent entry hold
    refine ⟨k', row, hkey', hrow, hspent'.mono ?_⟩
    by_cases hid : k'.bookingId = bookingId
    · rw [hid]
      exact hr ▸ le_add_of_nonneg_right hrevenue
    · exact (hothers _ hid).2.2.ge
  · refine ⟨k, booking, hkey, ?_, ?_⟩
    · rw [hbooking]
      exact hfind
    · rw [hbooking]
      exact hr ▸ hspent

/-- **An entry that is posted under a new key, or left out** when there is nothing to post. -/
theorem posts_if {c : Prop} [Decidable c] (h : LedgerKeys S)
    (hfind : S.bookings.find bookingId = some booking)
    (hmove : c → RentalMove input bookingId deferred deposit revenue)
    (hzero : ¬ c → deferred = 0 ∧ deposit = 0 ∧ revenue = 0) (hrevenue : 0 ≤ revenue)
    (hkey : input.idempotencyKey = k.text) (hbooking : k.bookingId = bookingId)
    (hnew : S.journal.entryByKey input.branchId k.text = none)
    (hspent : Spent (S.journal.rentRevenue bookingId + revenue) booking k) (now : Date) :
    let S' := (if c then [input] else []).foldl (fun T input => T.posted now input) S
    LedgerKeys S' ∧ Moved S S' bookingId deferred deposit revenue ∧
      ∀ branchId key, key ≠ k.text → S'.journal.entryByKey branchId key = S.journal.entryByKey branchId key := by
  intro S'
  by_cases hc : c
  · have hS' : S' = S.posted now input := by
      show (if c then [input] else []).foldl _ S = _
      rw [if_pos hc]
      rfl
    obtain ⟨hledger, hmoved⟩ := posts h hfind (hmove hc) hrevenue hkey hbooking hnew hspent now
    rw [hS']
    refine ⟨hledger, hmoved, fun branchId key hne => ?_⟩
    exact entryByKey_entered_of_ne (hkey ▸ hne.symm) now
  · have hS' : S' = S := by
      show (if c then [input] else []).foldl _ S = _
      rw [if_neg hc]
      rfl
    obtain ⟨rfl, rfl, rfl⟩ := hzero hc
    rw [hS']
    refine ⟨h, ⟨rfl, ?_, ?_, ?_, fun _ _ => ⟨rfl, rfl, rfl⟩⟩, fun _ _ _ => rfl⟩
    · rw [add_zero]
    · rw [add_zero]
    · rw [add_zero]

end Posts

/-! ### Books -/

/-- The deposit that the settlement has released, by the columns of the row. -/
def releasedDeposit (booking : PropertyRentalBooking) : ℚ :=
  round2 (booking.depositRefund.getD 0) + round2 (booking.depositForfeit.getD 0)

/-- **The books of a booking.**  Until it is settled, what was received and has not become revenue is deferred,
and the deposit is held; after the settlement no rent is deferred, all rent that was received is revenue, and
what is left of the deposit is what was neither refunded nor forfeited. -/
structure RentalBooks (J : GlStore) (bookingId : ℕ) (booking : PropertyRentalBooking) : Prop where
  whole : WholeCents (booking.payments.getD [])
  paid_mem : booking.paidAmount.getD 0 ∈ cents
  recognized_mem : booking.recognizedAmount ∈ cents
  recognized_nonneg : 0 ≤ booking.recognizedAmount
  recognized_le : booking.recognizedAmount ≤ booking.paidAmount.getD 0
  deposit_nonneg : 0 ≤ heldDeposit booking
  deferred_eq : J.deferredRent bookingId =
    if booking.status = .settled then 0
    else received (booking.payments.getD []) - J.rentRevenue bookingId
  deposit_eq : J.depositHeld bookingId =
    if booking.status = .settled then max 0 (heldDeposit booking - releasedDeposit booking)
    else heldDeposit booking
  settled_revenue : booking.status = .settled → J.rentRevenue bookingId = received (booking.payments.getD [])
  unsettled_paid : booking.status ≠ .settled → booking.paidAmount.getD 0 = received (booking.payments.getD [])
  unsettled_deposit : booking.status ≠ .settled → booking.depositRefund = none ∧ booking.depositForfeit = none

variable {bookingId : ℕ}

variable {booking : PropertyRentalBooking} {S' S : PropertyRentalStore} {deposit revenue deferred : ℚ}

theorem RentalBooks.congr {J J' : GlStore}
    (h : RentalBooks J bookingId booking) (hdeferred : J'.deferredRent bookingId = J.deferredRent bookingId)
    (hdeposit : J'.depositHeld bookingId = J.depositHeld bookingId)
    (hrevenue : J'.rentRevenue bookingId = J.rentRevenue bookingId) : RentalBooks J' bookingId booking :=
  { h with
    deferred_eq := by rw [hdeferred, hrevenue, h.deferred_eq]
    deposit_eq := by rw [hdeposit, h.deposit_eq]
    settled_revenue := fun hsettled => by rw [hrevenue, h.settled_revenue hsettled] }

/-- The books of every booking are in order, and nothing is posted for a booking that is not there. -/
structure Sound (S : PropertyRentalStore) : Prop where
  ledger : LedgerKeys S
  books : ∀ id booking, S.bookings.find id = some booking → RentalBooks S.journal id booking
  unopened : ∀ id, S.bookings.find id = none → S.journal.deferredRent id = 0 ∧
    S.journal.depositHeld id = 0 ∧ S.journal.rentRevenue id = 0

/-- A step changes the row and the amounts of one booking only. -/
structure Frame (S S' : PropertyRentalStore) (bookingId : ℕ) : Prop where
  find_eq : ∀ other, other ≠ bookingId → S'.bookings.find other = S.bookings.find other
  amounts_eq : ∀ other, other ≠ bookingId →
    S'.journal.deferredRent other = S.journal.deferredRent other ∧
      S'.journal.depositHeld other = S.journal.depositHeld other ∧
      S'.journal.rentRevenue other = S.journal.rentRevenue other

theorem Moved.frame (h : Moved S S' bookingId deferred deposit revenue) : Frame S S' bookingId where
  find_eq other _ := by rw [h.bookings_eq]
  amounts_eq other hne := h.others other hne

theorem Moved.frame_saveBooking
    (h : Moved (S.saveBooking bookingId booking) S' bookingId deferred deposit revenue) : Frame S S' bookingId where
  find_eq other hne := by
    rw [h.bookings_eq]
    exact find_set_of_ne _ _ hne
  amounts_eq other hne := h.others other hne

theorem frame_saveBooking (S : PropertyRentalStore) (bookingId : ℕ) (booking : PropertyRentalBooking) :
    Frame S (S.saveBooking bookingId booking) bookingId where
  find_eq _ hne := find_set_of_ne _ _ hne
  amounts_eq _ _ := ⟨rfl, rfl, rfl⟩

theorem Sound.change {S S' : PropertyRentalStore} {bookingId : ℕ} {booking : PropertyRentalBooking}
    (h : Sound S) (hledger : LedgerKeys S') (hframe : Frame S S' bookingId)
    (hfind : S'.bookings.find bookingId = some booking)
    (hbooks : RentalBooks S'.journal bookingId booking) : Sound S' where
  ledger := hledger
  books id row hrow := by
    by_cases hid : id = bookingId
    · subst hid
      rw [hfind] at hrow
      cases hrow
      exact hbooks
    · rw [hframe.find_eq id hid] at hrow
      obtain ⟨hdeferred, hdeposit, hrevenue⟩ := hframe.amounts_eq id hid
      exact (h.books id row hrow).congr hdeferred hdeposit hrevenue
  unopened id hid := by
    have hne : id ≠ bookingId := by
      rintro rfl
      rw [hfind] at hid
      cases hid
    rw [hframe.find_eq id hne] at hid
    obtain ⟨hdeferred, hdeposit, hrevenue⟩ := hframe.amounts_eq id hne
    rw [hdeferred, hdeposit, hrevenue]
    exact h.unopened id hid

end SuuqBackend
