import SuuqBackend.PropertyRental.Laws.RentalBooks

/-!
# Runs of operations on bookings

Operations that are executed one after another keep the books (`Sound`), and until a booking is settled its
rental revenue is what its row says has been recognized (`Recognized`).  The one thing that they rely on is that
a payment is posted under a key of its own (`PostsNew`).
-/

namespace SuuqBackend

open GeneralLedger PropertyRentalBookings RevenueAccrual PropertyRentalStore SerialTable PosSync

/-! ### Operations -/

inductive RentalCall where
  | openBooking (env : PropertyRentalRuntime) (dto : OpenPropertyBookingDto) (actorId : Option ℕ)
  | postCharge (env : PropertyRentalRuntime) (bookingId : ℕ) (dto : PostPropertyChargeDto)
  | recordPayment (env : PropertyRentalRuntime) (bookingId : ℕ) (dto : RecordPropertyPaymentDto)
  | runDailyAccrual (env : PropertyRentalRuntime) (asOf : Date) (pages : ℕ)
  | settleBooking (env : PropertyRentalRuntime) (bookingId : ℕ) (dto : SettlePropertyBookingDto)
  | voidBooking (env : PropertyRentalRuntime) (bookingId : ℕ) (dto : VoidPropertyBookingDto)
  | transferUnit (bookingId : ℕ) (dto : TransferPropertyUnitDto)

/-- The tables after the operation, whether it succeeds or throws. -/
def RentalCall.step (S : PropertyRentalStore) : RentalCall → PropertyRentalStore
  | openBooking env dto actorId => ((PropertyRentalBookings.openBooking env dto actorId).run S).2
  | postCharge env bookingId dto => ((PropertyRentalBookings.postCharge env bookingId dto).run S).2
  | recordPayment env bookingId dto => ((PropertyRentalBookings.recordPayment env bookingId dto).run S).2
  | runDailyAccrual env asOf pages => ((RevenueAccrual.runDailyAccrual env noFaults asOf pages).run S).2
  | settleBooking env bookingId dto => ((PropertyRentalBookings.settleBooking env bookingId dto).run S).2
  | voidBooking env bookingId dto => ((PropertyRentalBookings.voidBooking env bookingId dto).run S).2
  | transferUnit bookingId dto => ((PropertyRentalBookings.transferUnit bookingId dto).run S).2

def emptyRentals : PropertyRentalStore := ⟨.empty, .empty, emptyJournal⟩

/-- Until a booking is settled, its rental revenue is what its row says has been recognized. -/
def Recognized (S : PropertyRentalStore) : Prop :=
  ∀ id booking, S.bookings.find id = some booking → booking.status ≠ .settled →
    S.journal.rentRevenue id = booking.recognizedAmount

/-- The books are in order, and what has become revenue is what the rows say. -/
structure InOrder (S : PropertyRentalStore) : Prop where
  sound : Sound S
  recognized : Recognized S

/-- The payment is a retry, or it is posted under a key that the journal does not have. -/
def PostsNew (S : PropertyRentalStore) (bookingId : ℕ) (dto : RecordPropertyPaymentDto) : Prop :=
  let key := trimmed dto.idempotencyKey
  ∀ booking ∈ S.bookings.find bookingId,
    (key ≠ none ∧ ∃ p ∈ S.payments bookingId, p.idempotencyKey = key) ∨
      S.journal.entryByKey booking.branchId (paymentKey bookingId key (S.payments bookingId).length) = none
deriving Decidable

theorem Recognized.change {S S' : PropertyRentalStore} {bookingId : ℕ} {booking : PropertyRentalBooking}
    (h : Recognized S) (hframe : Frame S S' bookingId) (hfind : S'.bookings.find bookingId = some booking)
    (hbooking : booking.status ≠ .settled →
      S'.journal.rentRevenue bookingId = booking.recognizedAmount) : Recognized S' := by
  intro id row hrow hstatus
  by_cases hid : id = bookingId
  · subst hid
    rw [hfind] at hrow
    cases hrow
    exact hbooking hstatus
  · rw [hframe.find_eq id hid] at hrow
    rw [(hframe.amounts_eq id hid).2.2]
    exact h id row hrow hstatus

/-! ### Amounts -/

theorem Decimal2.value_nonneg (x : Decimal2) : 0 ≤ x.value :=
  div_nonneg (Nat.cast_nonneg _) (by norm_num)

theorem Decimal2.value_mem (x : Decimal2) : x.value ∈ cents :=
  mem_cents_iff.mpr ⟨x.hundredths, rfl⟩

theorem getD_value_nonneg (x : Option Decimal2) : 0 ≤ (x.map Decimal2.value).getD 0 := by
  cases x with
  | none => exact le_refl 0
  | some x => exact x.value_nonneg

theorem getD_value_mem (x : Option Decimal2) : (x.map Decimal2.value).getD 0 ∈ cents := by
  cases x with
  | none => exact zero_mem cents
  | some x => exact x.value_mem

/-! ### Openings -/

section Opening

variable {S : PropertyRentalStore} {env : PropertyRentalRuntime} {dto : OpenPropertyBookingDto}
  {actorId : Option ℕ}

theorem rentalBooks_newBooking {J : GlStore} {bookingId : ℕ} (hdeferred : J.deferredRent bookingId = 0)
    (hdeposit : J.depositHeld bookingId = round2 (newBooking env dto actorId).depositAmount)
    (hrevenue : J.rentRevenue bookingId = 0) : RentalBooks J bookingId (newBooking env dto actorId) where
  whole p hp := absurd hp List.not_mem_nil
  paid_mem := zero_mem cents
  recognized_mem := zero_mem cents
  recognized_nonneg := le_refl 0
  recognized_le := le_refl 0
  deposit_nonneg := round2_nonneg (getD_value_nonneg _)
  deferred_eq := by
    have hnothing : received ((newBooking env dto actorId).payments.getD []) = 0 := rfl
    rw [hdeferred, hrevenue, hnothing, sub_zero, ite_self]
  deposit_eq := by
    rw [hdeposit]
    rfl
  settled_revenue hsettled := by cases hsettled
  unsettled_paid _ := rfl
  unsettled_deposit _ := ⟨rfl, rfl⟩

theorem sound_openBooking (h : Sound S) (hrecognized : Recognized S) :
    let S' := ((openBooking env dto actorId).run S).2
    InOrder S' := by
  intro S'
  rcases openBooking_cases env S dto actorId with hsame | hwrites
  · have hS' : S' = S := hsame
    rw [hS']
    exact ⟨h, hrecognized⟩
  have hS' : S' = _ := hwrites
  let booking := newBooking env dto actorId
  let T : PropertyRentalStore := { S with bookings := S.bookings.add booking }
  obtain ⟨hdeferred, hdeposit, hrevenue⟩ := h.unopened S.bookings.next (find_next _)
  have hfindT : T.bookings.find S.bookings.next = some booking := find_add_self _ _
  have hledger : LedgerKeys T := by
    refine ⟨h.ledger.linked, fun entry hentry => ?_⟩
    obtain ⟨k, row, hkey, hrow, hspent⟩ := h.ledger.spent entry hentry
    exact ⟨k, row, hkey, find_add_of_find hrow _, hspent⟩
  -- the ledger holds nothing of the new id yet
  have hnew : S.journal.entryByKey booking.branchId (RentalKey.depositOpen S.bookings.next).text = none := by
    rw [Option.eq_none_iff_forall_ne_some]
    intro entry hentry
    obtain ⟨hmem, -, hkey⟩ := mem_of_entryByKey hentry
    obtain ⟨k, row, htext, hrow, -⟩ := h.ledger.spent entry hmem
    rw [hkey] at htext
    rcases (RentalKey.text_eq_iff _ _).mp htext with rfl | hclash
    · have hnone : S.bookings.find S.bookings.next = none := find_next _
      rw [show (RentalKey.depositOpen S.bookings.next).bookingId = S.bookings.next from rfl, hnone] at hrow
      cases hrow
    · exact hclash
  have hnonneg : 0 ≤ round2 booking.depositAmount := round2_nonneg (getD_value_nonneg _)
  obtain ⟨hledger', hmoved, -⟩ := posts_if (c := 0 < round2 booking.depositAmount)
    (k := .depositOpen S.bookings.next) hledger hfindT
    (fun hpos => depositOpen_move hpos) (fun hzero => ⟨rfl, le_antisymm (not_lt.mp hzero) hnonneg, rfl⟩)
    (le_refl 0) rfl rfl hnew trivial env.now
  have hfold : S' = (if 0 < round2 booking.depositAmount then
      [depositOpenEntry S.bookings.next booking] else []).foldl (fun T input => T.posted env.now input)
        T := by
    rw [hS']
    split_ifs <;> rfl
  rw [← hfold] at hledger' hmoved
  have hframe : Frame S S' S.bookings.next := by
    refine ⟨fun other hne => ?_, fun other hne => hmoved.others other hne⟩
    rw [hmoved.bookings_eq]
    exact find_add_of_ne _ _ hne
  have hfind : S'.bookings.find S.bookings.next = some booking := by
    rw [hmoved.bookings_eq]
    exact hfindT
  have hdeferred' : S'.journal.deferredRent S.bookings.next = 0 := by
    rw [hmoved.deferred_eq, add_zero]
    exact hdeferred
  have hdeposit' : S'.journal.depositHeld S.bookings.next = round2 booking.depositAmount := by
    rw [hmoved.deposit_eq, show T.journal.depositHeld S.bookings.next = 0 from hdeposit, zero_add]
  have hrevenue' : S'.journal.rentRevenue S.bookings.next = 0 := by
    rw [hmoved.revenue_eq, add_zero]
    exact hrevenue
  exact ⟨h.change hledger' hframe hfind (rentalBooks_newBooking hdeferred' hdeposit' hrevenue'),
    hrecognized.change hframe hfind fun _ => hrevenue'⟩

end Opening

/-! ### Rows that change nothing in the books -/

section Rows

variable {S : PropertyRentalStore} {bookingId : ℕ} {booking booking' : PropertyRentalBooking}

/-- The columns that the books are about, but for the status, are the same. -/
structure SameAmounts (booking booking' : PropertyRentalBooking) : Prop where
  payments_eq : booking'.payments = booking.payments
  paidAmount_eq : booking'.paidAmount = booking.paidAmount
  recognizedAmount_eq : booking'.recognizedAmount = booking.recognizedAmount
  depositAmount_eq : booking'.depositAmount = booking.depositAmount
  depositRefund_eq : booking'.depositRefund = booking.depositRefund
  depositForfeit_eq : booking'.depositForfeit = booking.depositForfeit

theorem sound_saveBooking (h : Sound S) (hrecognized : Recognized S)
    (hfind : S.bookings.find bookingId = some booking) (hstatus : booking.status ≠ .settled)
    (hstatus' : booking'.status ≠ .settled) (hsame : SameAmounts booking booking') :
    InOrder (S.saveBooking bookingId booking') := by
  have hbooks := h.books bookingId booking hfind
  have hfind' : (S.saveBooking bookingId booking').bookings.find bookingId = some booking' :=
    find_set_self hfind _
  have hledger : LedgerKeys (S.saveBooking bookingId booking') := by
    refine h.ledger.saveBooking hfind fun k hspent => ?_
    cases k with
    | payment id ref =>
      show ∃ p ∈ booking'.payments.getD [], p.idempotencyKey = ref.clientKey
      rw [hsame.payments_eq]
      exact hspent
    | settlement id => exact absurd hspent hstatus
    | depositRefund id => exact absurd hspent hstatus
    | depositForfeit id => exact absurd hspent hstatus
    | _ => exact hspent
  have hheld : heldDeposit booking' = heldDeposit booking := by
    unfold heldDeposit
    rw [hsame.depositAmount_eq]
  have hbooks' : RentalBooks S.journal bookingId booking' := by
    have hdeferred := hbooks.deferred_eq
    have hdeposit := hbooks.deposit_eq
    rw [if_neg hstatus] at hdeferred hdeposit
    refine ⟨?_, ?_, ?_, ?_, ?_, ?_, ?_, ?_, fun hsettled => absurd hsettled hstatus', ?_, ?_⟩
    · rw [hsame.payments_eq]
      exact hbooks.whole
    · rw [hsame.paidAmount_eq]
      exact hbooks.paid_mem
    · rw [hsame.recognizedAmount_eq]
      exact hbooks.recognized_mem
    · rw [hsame.recognizedAmount_eq]
      exact hbooks.recognized_nonneg
    · rw [hsame.recognizedAmount_eq, hsame.paidAmount_eq]
      exact hbooks.recognized_le
    · rw [hheld]
      exact hbooks.deposit_nonneg
    · rw [if_neg hstatus', hsame.payments_eq]
      exact hdeferred
    · rw [if_neg hstatus', hheld]
      exact hdeposit
    · intro _
      rw [hsame.paidAmount_eq, hsame.payments_eq]
      exact hbooks.unsettled_paid hstatus
    · intro _
      rw [hsame.depositRefund_eq, hsame.depositForfeit_eq]
      exact hbooks.unsettled_deposit hstatus
  have hframe := frame_saveBooking S bookingId booking'
  refine ⟨h.change hledger hframe hfind' hbooks', hrecognized.change hframe hfind' fun _ => ?_⟩
  rw [hsame.recognizedAmount_eq]
  exact hrecognized bookingId booking hfind hstatus

end Rows

/-! ### Payments -/

section Payment

variable {S : PropertyRentalStore} {env : PropertyRentalRuntime} {bookingId : ℕ}
  {dto : RecordPropertyPaymentDto}

theorem clientKey_of_trimmed (text : Option String) (n : ℕ) :
    (EventRef.of (trimmed text) n).clientKey = trimmed text := by
  cases h : trimmed text with
  | none => rfl
  | some key =>
    have hne : key ≠ "" := by
      have hkey := (Option.filter_eq_some_iff.mp h).2
      simpa using hkey
    rw [EventRef.of_some hne]
    rfl

/-- **A payment** that is posted under a key of its own keeps the books. -/
theorem sound_recordPayment (h : Sound S) (hrecognized : Recognized S)
    (hnew : PostsNew S bookingId dto) :
    let S' := ((recordPayment env bookingId dto).run S).2
    InOrder S' := by
  intro S'
  rcases recordPayment_cases env bookingId dto S with
    hsame | ⟨booking, records, hfind, hopened, hwhole, hpos, hkeys, hretry, hwrites⟩
  · have hS' : S' = S := hsame
    rw [hS']
    exact ⟨h, hrecognized⟩
  have hstatus := unsettled_of_opened hopened
  have hbooks := h.books bookingId booking hfind
  let paid := paidBooking booking records (received records)
  let key := trimmed dto.idempotencyKey
  have hS' : S' = (S.saveBooking bookingId paid).posted env.now (deferralEntry env bookingId paid
      (received records) records (paymentKey bookingId key (S.payments bookingId).length)
      (dto.paidAt.getD env.now)) := hwrites
  have hpayments : paid.payments.getD [] = booking.payments.getD [] ++ records := rfl
  have hkey : S.journal.entryByKey booking.branchId
      (paymentKey bookingId key (S.payments bookingId).length) = none := by
    rcases hnew booking hfind with ⟨hsome, p, hp, hsame⟩ | hkey
    · exact absurd hsame (hretry hsome p hp)
    · exact hkey
  rw [paymentKey_text] at hkey
  have hfindT : (S.saveBooking bookingId paid).bookings.find bookingId = some paid :=
    find_set_self hfind _
  have hledger : LedgerKeys (S.saveBooking bookingId paid) := by
    refine h.ledger.saveBooking hfind fun k hspent => ?_
    cases k with
    | payment id ref =>
      obtain ⟨p, hp, hsame⟩ := hspent
      exact ⟨p, hpayments ▸ List.mem_append_left records hp, hsame⟩
    | _ => exact hspent
  have hspent : Spent ((S.saveBooking bookingId paid).journal.rentRevenue bookingId + 0) paid
      (.payment bookingId (.of key (S.payments bookingId).length)) := by
    obtain ⟨p, hp⟩ := List.exists_mem_of_ne_nil records fun hnil => by
      rw [hnil] at hpos
      exact lt_irrefl 0 hpos
    refine ⟨p, hpayments ▸ List.mem_append_right _ hp, ?_⟩
    rw [clientKey_of_trimmed]
    exact hkeys p hp
  have hnonempty : paymentKey bookingId key (S.payments bookingId).length ≠ "" := by
    rw [paymentKey_text]
    exact RentalKey.text_ne_empty _
  have hmove := @deferral_move bookingId paid env records hwhole hpos _ hnonempty (dto.paidAt.getD env.now)
  obtain ⟨hledger', hmoved⟩ := posts hledger hfindT hmove (le_refl 0)
    (paymentKey_text bookingId key (S.payments bookingId).length) rfl hkey hspent env.now
  rw [← hS'] at hledger' hmoved
  have hframe := hmoved.frame_saveBooking
  have hfind' : S'.bookings.find bookingId = some paid := by
    rw [hmoved.bookings_eq]
    exact hfindT
  have hrevenue : S'.journal.rentRevenue bookingId = S.journal.rentRevenue bookingId := by
    rw [hmoved.revenue_eq, add_zero]
    rfl
  have hpaidAmount : paid.paidAmount.getD 0 = booking.paidAmount.getD 0 + received records := by
    exact round2_of_mem (add_mem hbooks.paid_mem (received_mem hwhole))
  have hpaid : RentalBooks S'.journal bookingId paid := by
    have hdeferred := hbooks.deferred_eq
    have hdeposit := hbooks.deposit_eq
    rw [if_neg hstatus] at hdeferred hdeposit
    refine ⟨?_, ?_, hbooks.recognized_mem, hbooks.recognized_nonneg, ?_, hbooks.deposit_nonneg, ?_, ?_,
      fun hsettled => absurd hsettled hstatus, ?_, fun _ => hbooks.unsettled_deposit hstatus⟩
    · intro p hp
      rw [hpayments, List.mem_append] at hp
      exact hp.elim (hbooks.whole p) (hwhole p)
    · rw [hpaidAmount]
      exact add_mem hbooks.paid_mem (received_mem hwhole)
    · rw [hpaidAmount]
      exact hbooks.recognized_le.trans (le_add_of_nonneg_right hpos.le)
    · have hbefore : (S.saveBooking bookingId paid).journal.deferredRent bookingId =
          received (booking.payments.getD []) - S.journal.rentRevenue bookingId := hdeferred
      rw [if_neg (show paid.status ≠ .settled from hstatus), hmoved.deferred_eq, hrevenue, hpayments,
        received_append, hbefore]
      ring
    · rw [if_neg (show paid.status ≠ .settled from hstatus), hmoved.deposit_eq, add_zero]
      exact hdeposit
    · intro _
      rw [hpaidAmount, hpayments, received_append, hbooks.unsettled_paid hstatus]
  refine ⟨h.change hledger' hframe hfind' hpaid, hrecognized.change hframe hfind' fun _ => ?_⟩
  rw [hrevenue]
  exact hrecognized bookingId booking hfind hstatus

end Payment

/-! ### Accruals -/

section Accrual

variable {S : PropertyRentalStore} {env : PropertyRentalRuntime} {asOf : Date} {bookingId : ℕ}
  {booking : PropertyRentalBooking}

/-- **What an accrual recognizes**: whole cents, no more than was paid, and exactly what is new. -/
theorem recognition_spec (hpaid : booking.paidAmount.getD 0 ∈ cents)
    (hrecognized : booking.recognizedAmount ∈ cents)
    (hpos : 0 < (computeAccrualRecognition env.newDate booking asOf).recognizeNow) :
    let recognition := computeAccrualRecognition env.newDate booking asOf
    recognition.recognizable ∈ cents ∧ recognition.recognizable ≤ booking.paidAmount.getD 0 ∧
      recognition.recognizeNow = recognition.recognizable - booking.recognizedAmount := by
  intro recognition
  have hrecognition : recognition = computeAccrualRecognition env.newDate booking asOf := rfl
  rw [← hrecognition] at hpos
  unfold computeAccrualRecognition at hrecognition
  split_ifs at hrecognition
  · rw [hrecognition] at hpos
    exact absurd hpos (lt_irrefl 0)
  · have hmem : recognition.recognizable ∈ cents := by
      rw [hrecognition]
      exact round2_mem _
    refine ⟨hmem, ?_, ?_⟩
    · rw [hrecognition, ← round2_of_mem hpaid]
      exact round2_mono (by
        rw [round2_of_mem hpaid]
        exact min_le_right _ _)
    · have hnow : recognition.recognizeNow = round2 (max 0 (recognition.recognizable - booking.recognizedAmount)) := by
        rw [hrecognition]
      have hsub := sub_mem hmem hrecognized
      rw [round2_of_mem (max_zero_mem_cents hsub)] at hnow
      rw [hnow] at hpos ⊢
      exact max_eq_right (lt_max_iff.mp hpos |>.resolve_left (lt_irrefl 0)).le

theorem cents_of_recognizable {x : ℚ} (h : x ∈ cents) : (round (x * 100) : ℚ) / 100 = x := by
  obtain ⟨n, rfl⟩ := mem_cents_iff.mp h
  have hround : round ((n : ℚ) / 100 * 100) = n := by
    rw [div_mul_cancel₀ _ (by norm_num), round_intCast]
  rw [hround]

theorem sound_posted_accrual (h : Sound S) (hfind : S.bookings.find bookingId = some booking)
    (hopened : booking.status = .opened)
    (hpos : 0 < (computeAccrualRecognition env.newDate booking asOf).recognizeNow)
    (hle : booking.recognizedAmount ≤ S.journal.rentRevenue bookingId)
    (hnew : S.journal.entryByKey booking.branchId (accrualKey bookingId
      (computeAccrualRecognition env.newDate booking asOf).recognizable) = none) :
    let recognition := computeAccrualRecognition env.newDate booking asOf
    let S' := S.posted env.now (accrualEntry bookingId booking recognition asOf)
    Sound S' ∧ Frame S S' bookingId ∧
      S'.journal.rentRevenue bookingId = S.journal.rentRevenue bookingId + recognition.recognizeNow := by
  intro recognition S'
  have hbooks := h.books bookingId booking hfind
  obtain ⟨hmem, -, hnow⟩ := recognition_spec hbooks.paid_mem hbooks.recognized_mem hpos
  have hstatus := unsettled_of_opened hopened
  have hspent : Spent (S.journal.rentRevenue bookingId + recognition.recognizeNow) booking
      (.accrual bookingId (round (recognition.recognizable * 100))) := by
    show (round (recognition.recognizable * 100) : ℚ) / 100 ≤ _
    rw [cents_of_recognizable hmem]
    linarith
  have hmove := @accrual_move bookingId booking recognition (recognizeNow_mem env asOf booking) hpos asOf
  obtain ⟨hledger, hmoved⟩ := posts h.ledger hfind hmove hpos.le
    (accrualKey_text bookingId recognition.recognizable) rfl hnew hspent env.now
  have hbooks' : RentalBooks S'.journal bookingId booking := by
    have hdeferred := hbooks.deferred_eq
    have hdeposit := hbooks.deposit_eq
    rw [if_neg hstatus] at hdeferred hdeposit
    refine { hbooks with
      deferred_eq := ?_
      deposit_eq := ?_
      settled_revenue := fun hsettled => absurd hsettled hstatus }
    · rw [if_neg hstatus, hmoved.deferred_eq, hmoved.revenue_eq, hdeferred]
      ring
    · rw [if_neg hstatus, hmoved.deposit_eq, add_zero]
      exact hdeposit
  exact ⟨h.change hledger hmoved.frame hfind hbooks', hmoved.frame, hmoved.revenue_eq⟩

theorem sound_saveRecognized (h : Sound S) (hfind : S.bookings.find bookingId = some booking)
    {recognizable : ℚ} (hmem : recognizable ∈ cents) (hnonneg : 0 ≤ recognizable)
    (hle : recognizable ≤ booking.paidAmount.getD 0) :
    Sound (S.saveBooking bookingId { booking with recognizedAmount := recognizable }) := by
  have hbooks := h.books bookingId booking hfind
  have hledger : LedgerKeys (S.saveBooking bookingId { booking with recognizedAmount := recognizable }) := by
    refine h.ledger.saveBooking hfind fun k hspent => ?_
    cases k <;> exact hspent
  exact h.change hledger (frame_saveBooking S bookingId _) (find_set_self hfind _)
    { hbooks with
      recognized_mem := hmem
      recognized_nonneg := hnonneg
      recognized_le := hle }

/-- **The accrual of one booking** keeps the books. -/
theorem sound_accrueOne (h : Sound S) (hrecognized : Recognized S) :
    InOrder (accrueOne env noFaults asOf S bookingId) := by
  cases hfind : S.bookings.find bookingId with
  | none =>
    unfold accrueOne
    rw [hfind]
    exact ⟨h, hrecognized⟩
  | some booking =>
    by_cases hopened : booking.status = .opened
    · rw [accrueOne_of_find env noFaults asOf hfind hopened]
      unfold recognized
      dsimp only
      split_ifs with hnothing
      · exact ⟨h, hrecognized⟩
      have hpos := not_le.mp hnothing
      have hbooks := h.books bookingId booking hfind
      have hstatus := unsettled_of_opened hopened
      have hrevenue := hrecognized bookingId booking hfind hstatus
      obtain ⟨hmem, hle, hnow⟩ := recognition_spec hbooks.paid_mem hbooks.recognized_mem hpos
      have hmore : booking.recognizedAmount < (computeAccrualRecognition env.newDate booking asOf).recognizable := by
        linarith
      -- no amount above what has become revenue was posted before
      have hnew : S.journal.entryByKey booking.branchId (accrualKey bookingId
          (computeAccrualRecognition env.newDate booking asOf).recognizable) = none := by
        refine h.ledger.fresh_of_not (k := .accrual bookingId _) hfind nofun ?_ _
        intro hspent
        have hspent : (round ((computeAccrualRecognition env.newDate booking asOf).recognizable * 100) :
          ℚ) / 100 ≤ S.journal.rentRevenue bookingId := hspent
        rw [cents_of_recognizable hmem, hrevenue] at hspent
        exact absurd hmore (not_lt.mpr hspent)
      obtain ⟨hsound, hframe, hposted⟩ := sound_posted_accrual h hfind hopened hpos hrevenue.ge hnew
      have hnonneg := hbooks.recognized_nonneg.trans hmore.le
      refine ⟨sound_saveRecognized hsound hfind hmem hnonneg hle, ?_⟩
      refine @Recognized.change S _ bookingId _ hrecognized ⟨fun other hne => ?_, hframe.amounts_eq⟩
        (find_set_self hfind _) fun _ => ?_
      · exact find_set_of_ne _ _ hne
      · show (S.posted env.now _).journal.rentRevenue bookingId = _
        rw [hposted, hnow, hrevenue]
        exact add_sub_cancel _ _
    · unfold accrueOne
      rw [hfind]
      dsimp only
      rw [if_neg hopened]
      exact ⟨h, hrecognized⟩

theorem sound_runDailyAccrual (h : Sound S) (hrecognized : Recognized S) (pages : ℕ) :
    let S' := ((runDailyAccrual env noFaults asOf pages).run S).2
    InOrder S' := by
  intro S'
  have hS' : S' = Run.after (accrueOne env noFaults asOf) S ((openIds S).take (batch * pages)) :=
    run_runDailyAccrual env noFaults asOf pages S
  rw [hS']
  exact Run.after_invariant (P := InOrder)
    (fun T id hT => sound_accrueOne hT.1 hT.2) ⟨h, hrecognized⟩ _

end Accrual

/-! ### Settlements -/

section Settlement

variable {S : PropertyRentalStore} {env : PropertyRentalRuntime} {bookingId : ℕ}
  {booking : PropertyRentalBooking} {dto : SettlePropertyBookingDto}
  {records : List PropertyBookingPaymentRecord} {settledAt : Date}

theorem Sound.cents_of_find (h : Sound S) (booking : PropertyRentalBooking)
    (hfind : S.bookings.find bookingId = some booking) :
    booking.paidAmount.getD 0 ∈ cents ∧ booking.recognizedAmount ∈ cents :=
  ⟨(h.books bookingId booking hfind).paid_mem, (h.books bookingId booking hfind).recognized_mem⟩

theorem payments_settledBooking (booking : PropertyRentalBooking) (dto : SettlePropertyBookingDto)
    (records : List PropertyBookingPaymentRecord) (finalPaid : ℚ) (settledAt : Date) :
    (settledBooking booking dto records finalPaid settledAt).payments.getD [] =
      booking.payments.getD [] ++ records := by
  unfold settledBooking
  split_ifs with hrecords
  · rfl
  · rw [not_not.mp hrecords, List.append_nil]

theorem releasedDeposit_settledBooking {finalPaid : ℚ}
    (hnone : booking.depositRefund = none ∧ booking.depositForfeit = none) :
    releasedDeposit (settledBooking booking dto records finalPaid settledAt) =
      round2 ((dto.depositRefund.map Decimal2.value).getD 0) +
        round2 ((dto.depositForfeit.map Decimal2.value).getD 0) := by
  have hrefund : (settledBooking booking dto records finalPaid settledAt).depositRefund =
      dto.depositRefund.map Decimal2.value := by
    show (dto.depositRefund.map Decimal2.value).or booking.depositRefund = _
    rw [hnone.1, Option.or_none]
  have hforfeit : (settledBooking booking dto records finalPaid settledAt).depositForfeit =
      dto.depositForfeit.map Decimal2.value := by
    show (dto.depositForfeit.map Decimal2.value).or booking.depositForfeit = _
    rw [hnone.2, Option.or_none]
  unfold releasedDeposit
  rw [hrefund, hforfeit]

theorem paidAmount_settledBooking (hpaid : booking.paidAmount.getD 0 ∈ cents)
    (hwhole : WholeCents records) :
    let saved := settledBooking booking dto records (received records) settledAt
    saved.paidAmount.getD 0 ∈ cents ∧ booking.paidAmount.getD 0 + received records ≤ saved.paidAmount.getD 0 := by
  intro saved
  have hsaved : saved.paidAmount =
      if records ≠ [] then some (round2 (booking.paidAmount.getD 0 + received records))
      else booking.paidAmount.or (dto.paidAmount.map Decimal2.value) := rfl
  rw [hsaved]
  split_ifs with hrecords
  · rw [round2_of_mem (add_mem hpaid (received_mem hwhole))]
    exact ⟨add_mem hpaid (received_mem hwhole), le_refl _⟩
  · rw [not_not.mp hrecords, show received [] = 0 from rfl, add_zero]
    cases hamount : booking.paidAmount with
    | some amount =>
      rw [hamount] at hpaid
      exact ⟨hpaid, le_refl _⟩
    | none => exact ⟨getD_value_mem dto.paidAmount, getD_value_nonneg dto.paidAmount⟩

theorem deposit_left {held refund forfeit : ℚ} (hforfeit : 0 ≤ forfeit) :
    held + -min refund held + -min forfeit (held - min refund held) = max 0 (held - (refund + forfeit)) := by
  rcases le_total refund held with hle | hle
  · rw [min_eq_left hle]
    rcases le_total forfeit (held - refund) with hle' | hle'
    · rw [min_eq_left hle', max_eq_right (by linarith)]
      ring
    · rw [min_eq_right hle', max_eq_left (by linarith)]
      ring
  · rw [min_eq_right hle, sub_self, min_eq_right hforfeit, max_eq_left (by linarith)]
    ring

theorem fresh_of_opened (h : LedgerKeys S) (hfind : S.bookings.find bookingId = some booking)
    (hopened : booking.status = .opened) (branchId : ℕ) :
    S.journal.entryByKey branchId (RentalKey.settlement bookingId).text = none ∧
      S.journal.entryByKey branchId (RentalKey.depositRefund bookingId).text = none ∧
      S.journal.entryByKey branchId (RentalKey.depositForfeit bookingId).text = none := by
  have hnot := unsettled_of_opened hopened
  exact ⟨h.fresh_of_not (k := .settlement bookingId) hfind nofun hnot branchId,
    h.fresh_of_not (k := .depositRefund bookingId) hfind nofun hnot branchId,
    h.fresh_of_not (k := .depositForfeit bookingId) hfind nofun hnot branchId⟩

/-- **What the entries of a settlement move**: the rent that was deferred becomes revenue, with the final
payment, and the refund and the forfeit leave the deposit. -/
theorem moved_settlement (h : Sound S) (hfind : S.bookings.find bookingId = some booking)
    (hopened : booking.status = .opened) (hwhole : WholeCents records) :
    let saved := settledBooking booking dto records (received records) settledAt
    let refund := (dto.depositRefund.map Decimal2.value).getD 0
    let forfeit := (dto.depositForfeit.map Decimal2.value).getD 0
    let S' := (settlementEntries env bookingId saved (received records) (priorDeferred booking) records
      refund forfeit settledAt).foldl (fun T input => T.posted env.now input) (S.saveBooking bookingId saved)
    LedgerKeys S' ∧ Moved (S.saveBooking bookingId saved) S' bookingId
      (-priorDeferred booking + 0 + 0)
      (0 + -refundOf booking refund + -forfeitOf booking refund forfeit)
      (priorDeferred booking + received records + 0 + 0) := by
  intro saved refund forfeit S'
  have hbooks := h.books bookingId booking hfind
  have hprior : priorDeferred booking ∈ cents :=
    max_zero_mem_cents (sub_mem hbooks.paid_mem hbooks.recognized_mem)
  have hpriorNonneg : 0 ≤ priorDeferred booking := le_max_left _ _
  have hreceived := received_nonneg hwhole
  have hledger : LedgerKeys (S.saveBooking bookingId saved) := by
    refine h.ledger.saveBooking hfind fun k hspent => ?_
    cases k with
    | payment id ref =>
      obtain ⟨p, hp, hsame⟩ := hspent
      refine ⟨p, ?_, hsame⟩
      rw [payments_settledBooking]
      exact List.mem_append_left records hp
    | accrual id c => exact hspent
    | depositOpen id => trivial
    | settlement id => rfl
    | depositRefund id => rfl
    | depositForfeit id => rfl
  have hfindT : (S.saveBooking bookingId saved).bookings.find bookingId = some saved :=
    find_set_self hfind _
  obtain ⟨hnew, hnewRefund, hnewForfeit⟩ := fresh_of_opened h.ledger hfind hopened saved.branchId
  have hround : round2 (priorDeferred booking + received records) = priorDeferred booking + received records :=
    round2_of_mem (add_mem hprior (received_mem hwhole))
  have hrefundKey : (RentalKey.depositRefund bookingId).text ≠ (RentalKey.settlement bookingId).text :=
    (RentalKey.text_eq_iff _ _).not.mpr nofun
  have hforfeitKey :
      (RentalKey.depositForfeit bookingId).text ≠ (RentalKey.depositRefund bookingId).text ∧
        (RentalKey.depositForfeit bookingId).text ≠ (RentalKey.settlement bookingId).text :=
    ⟨(RentalKey.text_eq_iff _ _).not.mpr nofun, (RentalKey.text_eq_iff _ _).not.mpr nofun⟩
  -- the rent
  obtain ⟨hledger₁, hmoved₁, hsame₁⟩ := @posts_if _ bookingId saved
    (settlementEntry env bookingId saved (received records) (priorDeferred booking) records settledAt)
    (.settlement bookingId) _ _ _ (round2 (priorDeferred booking + received records) > 0) _ hledger hfindT
    (fun hpos => settlement_move env hwhole hprior hpriorNonneg (hround ▸ hpos) settledAt)
    (fun hzero => by
      have hprior0 : priorDeferred booking = 0 := by linarith
      have hreceived0 : received records = 0 := by linarith
      rw [hprior0, hreceived0]
      exact ⟨neg_zero, rfl, add_zero 0⟩)
    (add_nonneg hpriorNonneg hreceived) rfl rfl hnew rfl env.now
  -- the refund
  have hrefundNonneg : 0 ≤ refundOf saved refund :=
    le_min (round2_nonneg (getD_value_nonneg _)) hbooks.deposit_nonneg
  obtain ⟨hledger₂, hmoved₂, hsame₂⟩ := @posts_if _ bookingId saved
    (depositRefundEntry bookingId saved (refundOf saved refund) settledAt) (.depositRefund bookingId) _ _ _
    (refundOf saved refund > 0) _ hledger₁ (hmoved₁.bookings_eq ▸ hfindT)
    (fun hpos => depositRefund_move (refundOf_mem saved refund) hpos settledAt)
    (fun hzero => ⟨rfl, neg_eq_zero.mpr (le_antisymm (not_lt.mp hzero) hrefundNonneg), rfl⟩)
    (le_refl 0) rfl rfl (by
      rw [hsame₁ _ _ hrefundKey]
      exact hnewRefund) rfl env.now
  -- the forfeit
  have hforfeitNonneg : 0 ≤ forfeitOf saved refund forfeit :=
    le_min (round2_nonneg (getD_value_nonneg _)) (round2_nonneg (sub_nonneg.mpr (min_le_right _ _)))
  obtain ⟨hledger₃, hmoved₃, -⟩ := @posts_if _ bookingId saved
    (depositForfeitEntry bookingId saved (forfeitOf saved refund forfeit) settledAt)
    (.depositForfeit bookingId) _ _ _ (forfeitOf saved refund forfeit > 0) _ hledger₂ (hmoved₂.bookings_eq ▸ hmoved₁.bookings_eq ▸ hfindT)
    (fun hpos => depositForfeit_move (forfeitOf_mem saved refund forfeit) hpos settledAt)
    (fun hzero => ⟨rfl, neg_eq_zero.mpr (le_antisymm (not_lt.mp hzero) hforfeitNonneg), rfl⟩)
    (le_refl 0) rfl rfl (by
      rw [hsame₂ _ _ hforfeitKey.1, hsame₁ _ _ hforfeitKey.2]
      exact hnewForfeit) rfl env.now
  have hS' : S' = _ := List.foldl_append
  rw [List.foldl_append] at hS'
  rw [hS']
  exact ⟨hledger₃, (hmoved₁.trans hmoved₂).trans hmoved₃⟩

theorem sound_settleBooking (h : Sound S) (hrecognized : Recognized S) :
    let S' := ((settleBooking env bookingId dto).run S).2
    InOrder S' := by
  intro S'
  rcases settleBooking_cases env bookingId S dto h.cents_of_find with
    ⟨hsame, -⟩ | ⟨booking, records, hfind, hopened, -, hwhole, hwrites⟩
  · have hS' : S' = S := hsame
    rw [hS']
    exact ⟨h, hrecognized⟩
  have hS' : S' = _ := hwrites
  let settledAt := dto.settledAt.getD env.now
  let saved := settledBooking booking dto records (received records) settledAt
  let refund := (dto.depositRefund.map Decimal2.value).getD 0
  let forfeit := (dto.depositForfeit.map Decimal2.value).getD 0
  have hbooks := h.books bookingId booking hfind
  have hstatus := unsettled_of_opened hopened
  have hrevenue := hrecognized bookingId booking hfind hstatus
  obtain ⟨hledger, hmoved⟩ := @moved_settlement S env bookingId booking dto records settledAt h hfind hopened hwhole
  rw [← hS'] at hledger hmoved
  have hfind' : S'.bookings.find bookingId = some saved := by
    rw [hmoved.bookings_eq]
    exact find_set_self hfind _
  obtain ⟨hpaidMem, hpaidLe⟩ := @paidAmount_settledBooking booking dto records settledAt hbooks.paid_mem hwhole
  have hpayments := payments_settledBooking booking dto records (received records) settledAt
  have hpaid := hbooks.unsettled_paid hstatus
  have hprior : priorDeferred booking = received (booking.payments.getD []) - booking.recognizedAmount := by
    have hle := hbooks.recognized_le
    unfold priorDeferred
    rw [max_eq_right (sub_nonneg.mpr hle), hpaid]
  have hdeferred : (S.saveBooking bookingId saved).journal.deferredRent bookingId =
      received (booking.payments.getD []) - booking.recognizedAmount := by
    rw [journal_saveBooking, hbooks.deferred_eq, if_neg hstatus, hrevenue]
  have hdeposit : (S.saveBooking bookingId saved).journal.depositHeld bookingId = heldDeposit booking := by
    rw [journal_saveBooking, hbooks.deposit_eq, if_neg hstatus]
  have hreleased : releasedDeposit saved = round2 refund + round2 forfeit :=
    releasedDeposit_settledBooking (hbooks.unsettled_deposit hstatus)
  have hsaved : RentalBooks S'.journal bookingId saved := by
    refine ⟨?_, hpaidMem, hbooks.recognized_mem, hbooks.recognized_nonneg,
      hbooks.recognized_le.trans
        ((le_add_of_nonneg_right (received_nonneg hwhole)).trans hpaidLe), hbooks.deposit_nonneg, ?_, ?_, fun _ => ?_,
      fun hunsettled => absurd rfl hunsettled, fun hunsettled => absurd rfl hunsettled⟩
    · intro p hp
      rw [hpayments, List.mem_append] at hp
      exact hp.elim (hbooks.whole p) (hwhole p)
    · rw [if_pos (show saved.status = .settled from rfl), hmoved.deferred_eq, hdeferred, hprior]
      ring
    · have hleft := @deposit_left (heldDeposit booking) (round2 refund) (round2 forfeit)
        (round2_nonneg (getD_value_nonneg _))
      have hcut : forfeitOf booking refund forfeit =
          min (round2 forfeit) (heldDeposit booking - refundOf booking refund) := by
        have hheld : heldDeposit booking ∈ cents := round2_mem _
        unfold forfeitOf
        rw [round2_of_mem (sub_mem hheld (refundOf_mem booking refund))]
      rw [if_pos (show saved.status = .settled from rfl), hmoved.deposit_eq, hdeposit, hreleased,
        show heldDeposit saved = heldDeposit booking from rfl, ← hleft]
      rw [hcut]
      unfold refundOf
      ring
    · rw [hmoved.revenue_eq, hpayments, received_append, journal_saveBooking, hrevenue, hprior]
      ring
  refine ⟨h.change hledger hmoved.frame_saveBooking hfind' hsaved,
    hrecognized.change hmoved.frame_saveBooking hfind' fun hunsettled => absurd rfl hunsettled⟩

end Settlement

/-! ### Runs -/

variable {S : PropertyRentalStore}

theorem InOrder.withCharges (h : InOrder S)
    (charges : SerialTable PropertyRentalBookingCharge) : InOrder { S with charges } where
  sound := ⟨⟨h.sound.ledger.linked, h.sound.ledger.spent⟩, h.sound.books, h.sound.unopened⟩
  recognized := h.recognized

/-- The payments of the operation are posted under keys of their own. -/
def RentalCall.PostsNew (S : PropertyRentalStore) : RentalCall → Prop
  | recordPayment _ bookingId dto => SuuqBackend.PostsNew S bookingId dto
  | _ => True

instance (S : PropertyRentalStore) (c : RentalCall) : Decidable (c.PostsNew S) := by
  cases c <;> unfold RentalCall.PostsNew <;> infer_instance

theorem inOrder_emptyRentals : InOrder emptyRentals where
  sound := {
    ledger := ⟨linked_emptyJournal, fun _ hentry => absurd hentry List.not_mem_nil⟩
    books := fun id booking hfind => by cases hfind
    unopened := fun id _ => ⟨neg_zero, neg_zero, neg_zero⟩ }
  recognized := fun id booking hfind => by cases hfind

/-- **An operation** keeps the books in order, when it posts payments under keys of their own. -/
theorem InOrder.step (h : InOrder S) (c : RentalCall) (hc : c.PostsNew S) : InOrder (c.step S) := by
  obtain ⟨hsound, hrecognized⟩ := h
  have hrow : ∀ bookingId booking booking', S.bookings.find bookingId = some booking →
      booking.status = .opened → booking'.status ≠ .settled → SameAmounts booking booking' →
      InOrder (S.saveBooking bookingId booking') := by
    intro bookingId booking booking' hfind hopened hstatus' hsame
    exact sound_saveBooking hsound hrecognized hfind (unsettled_of_opened hopened) hstatus' hsame
  cases c with
  | openBooking env dto actorId =>
    exact @sound_openBooking S env dto actorId hsound hrecognized
  | postCharge env bookingId dto =>
    rcases postCharge_cases env bookingId S dto with hsame | ⟨booking, hfind, hopened, hwrites⟩
    · rw [RentalCall.step, hsame]
      exact ⟨hsound, hrecognized⟩
    · rw [RentalCall.step, hwrites]
      have hstatus := unsettled_of_opened hopened
      let charge := newCharge env bookingId booking dto
      let charged := { booking with chargesTotal := booking.chargesTotal + charge.amount * charge.quantity }
      exact (hrow bookingId booking charged hfind hopened hstatus
        ⟨rfl, rfl, rfl, rfl, rfl, rfl⟩).withCharges (S.charges.add charge)
  | recordPayment env bookingId dto =>
    exact @sound_recordPayment S env bookingId dto hsound hrecognized hc
  | runDailyAccrual env asOf pages =>
    exact @sound_runDailyAccrual S env asOf hsound hrecognized pages
  | settleBooking env bookingId dto =>
    exact @sound_settleBooking S env bookingId dto hsound hrecognized
  | voidBooking env bookingId dto =>
    rcases voidBooking_cases env bookingId S dto with
      ⟨hsame, -⟩ | ⟨booking, hfind, hopened, hwrites⟩
    · rw [RentalCall.step, hsame]
      exact ⟨hsound, hrecognized⟩
    · rw [RentalCall.step, hwrites]
      exact hrow bookingId booking _ hfind hopened nofun ⟨rfl, rfl, rfl, rfl, rfl, rfl⟩
  | transferUnit bookingId dto =>
    rcases transferUnit_cases bookingId S dto with hsame | ⟨booking, hfind, hopened, hwrites⟩
    · rw [RentalCall.step, hsame]
      exact ⟨hsound, hrecognized⟩
    · rw [RentalCall.step, hwrites]
      have hstatus := unsettled_of_opened hopened
      exact hrow bookingId booking _ hfind hopened hstatus ⟨rfl, rfl, rfl, rfl, rfl, rfl⟩

/-- **A run** of operations keeps the books in order, when its payments are posted under keys of their
own. -/
theorem InOrder.after (h : InOrder S) {calls : List RentalCall}
    (hcalls : Run.Along RentalCall.step (fun S c => c.PostsNew S) S calls) :
    InOrder (Run.after RentalCall.step S calls) :=
  Run.after_induction (P := InOrder) (C := fun S c => c.PostsNew S) (fun _ c hS hc => hS.step c hc) h hcalls

/-- A runtime that reads three dates of 1970. -/
def leaseRuntime : PropertyRentalRuntime where
  now := 0
  toUpperCase := id
  newDate text :=
    if text = "1970-01-01" then some 0
    else if text = "1970-02-15" then some 3888000000
    else if text = "1970-03-01" then some 5097600000
    else none

def lease : OpenPropertyBookingDto where
  branchId := 1
  propertyCode := "A"
  leaseStartAt := some "1970-01-01"
  leaseEndAt := some "1970-03-01"

def rentPaid (key : String) : RecordPropertyPaymentDto := { amount := some 100, idempotencyKey := some key }

end SuuqBackend
