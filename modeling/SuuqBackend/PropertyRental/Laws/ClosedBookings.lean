import SuuqBackend.PropertyRental.Laws.RentalRuns

/-!
# The rows of closed bookings

Settling and voiding are the only operations that write the row of a booking that is then closed, and a closed
booking is never written again.  So a property of the rows that open bookings have anyway is kept by an operation
exactly when the row that it closes has it (`RentalCall.closed`).

* `rows_step_iff`: what one operation keeps.
-/

namespace SuuqBackend

open GeneralLedger PropertyRentalBookings RevenueAccrual SerialTable PosSync

/-- The row of every booking meets `Q`. -/
def Rows (Q : PropertyRentalBooking → Prop) (S : PropertyRentalStore) : Prop :=
  ∀ id booking, S.bookings.find id = some booking → Q booking

/-- The row that the operation closes, as it is saved. -/
def RentalCall.closed (S : PropertyRentalStore) : RentalCall → Option PropertyRentalBooking
  | settleBooking env bookingId dto =>
    ((S.bookings.find bookingId).filter fun booking => booking.status = .opened).map fun booking =>
      let settledAt := dto.settledAt.getD env.now
      let records := (normalizePaymentRows env (finalRows dto) booking.currency dto.checkoutId
        dto.idempotencyKey settledAt).1
      settledBooking booking dto records (received records) settledAt
  | voidBooking env bookingId dto =>
    ((S.bookings.find bookingId).filter fun booking => booking.status = .opened).map fun booking =>
      voidedBooking env booking dto
  | _ => none

section Closed

variable {S : PropertyRentalStore} (env : PropertyRentalRuntime) {bookingId : ℕ}
  {booking : PropertyRentalBooking}

def RentalCall.closes : RentalCall → Option ℕ
  | settleBooking _ bookingId _ => some bookingId
  | voidBooking _ bookingId _ => some bookingId
  | _ => none

theorem open_of_mem_closed {c : RentalCall} {saved : PropertyRentalBooking} (h : saved ∈ c.closed S) :
    ∃ bookingId ∈ c.closes, ∃ booking, S.bookings.find bookingId = some booking ∧ booking.status = .opened := by
  cases c with
  | settleBooking env bookingId dto =>
    obtain ⟨booking, hbooking, -⟩ := Option.map_eq_some_iff.mp h
    obtain ⟨hfind, hopen⟩ := Option.filter_eq_some_iff.mp hbooking
    exact ⟨bookingId, rfl, booking, hfind, of_decide_eq_true hopen⟩
  | voidBooking env bookingId dto =>
    obtain ⟨booking, hbooking, -⟩ := Option.map_eq_some_iff.mp h
    obtain ⟨hfind, hopen⟩ := Option.filter_eq_some_iff.mp hbooking
    exact ⟨bookingId, rfl, booking, hfind, of_decide_eq_true hopen⟩
  | _ => cases h

theorem closed_settleBooking (dto : SettlePropertyBookingDto)
    (hfind : S.bookings.find bookingId = some booking) (hopened : booking.status = .opened) :
    let settledAt := dto.settledAt.getD env.now
    let records := (normalizePaymentRows env (finalRows dto) booking.currency dto.checkoutId
      dto.idempotencyKey settledAt).1
    (RentalCall.settleBooking env bookingId dto).closed S =
      some (settledBooking booking dto records (received records) settledAt) := by
  intro settledAt records
  unfold RentalCall.closed
  dsimp only
  rw [hfind, Option.filter_some, if_pos (decide_eq_true hopened), Option.map_some]

theorem closed_voidBooking (dto : VoidPropertyBookingDto)
    (hfind : S.bookings.find bookingId = some booking) (hopened : booking.status = .opened) :
    (RentalCall.voidBooking env bookingId dto).closed S = some (voidedBooking env booking dto) := by
  unfold RentalCall.closed
  dsimp only
  rw [hfind, Option.filter_some, if_pos (decide_eq_true hopened), Option.map_some]

theorem closed_eq_none {c : RentalCall} (hcloses : c.closes = some bookingId)
    (hnot : ∀ booking, S.bookings.find bookingId = some booking → booking.status ≠ .opened) : c.closed S = none := by
  refine Option.eq_none_iff_forall_not_mem.mpr fun saved hsaved => ?_
  obtain ⟨id, hid, booking, hfind, hopen⟩ := open_of_mem_closed hsaved
  cases hcloses.symm.trans hid
  exact hnot booking hfind hopen

end Closed

/-! ### The rows after an operation -/

/-- What an operation makes of the row of an open booking. -/
structure RowStep (c : RentalCall) (booking booking' : PropertyRentalBooking) : Prop where
  recognized_eq : booking'.recognizedAmount = booking.recognizedAmount
  lease_eq : booking'.leaseStartAt = booking.leaseStartAt ∧ booking'.billingCycle = booking.billingCycle ∧
    booking'.periodsBilled = booking.periodsBilled
  charges_le : booking.chargesTotal ≤ booking'.chargesTotal
  paid : booking.paidAmount.getD 0 ≤ booking'.paidAmount.getD 0 ∧ booking'.paidAmount.getD 0 ∈ cents
  payments : booking'.status = .opened → ∀ p ∈ booking'.payments.getD [], p ∈ booking.payments.getD [] ∨
    ∃ env id dto, c = .recordPayment env id dto ∧ p.idempotencyKey = trimmed dto.idempotencyKey

/-- The rows stay, or one is added, or one that is open is saved. -/
inductive RowsStep (S S' : PropertyRentalStore) : RentalCall → Prop
  | same {c : RentalCall} (hsame : S'.bookings = S.bookings) (hclosed : c.closed S = none) : RowsStep S S' c
  | added (env : PropertyRentalRuntime) (dto : OpenPropertyBookingDto) (actorId : Option ℕ)
      (hadd : S'.bookings = S.bookings.add (newBooking env dto actorId)) : RowsStep S S' (.openBooking env dto actorId)
  | saved {c : RentalCall} {bookingId : ℕ} {booking booking' : PropertyRentalBooking}
      (hfind : S.bookings.find bookingId = some booking) (hopened : booking.status = .opened)
      (hset : S'.bookings = S.bookings.set bookingId booking') (hrow : RowStep c booking booking')
      (hclosed : booking'.status = .opened ∧ c.closed S = none ∨ c.closed S = some booking') : RowsStep S S' c

theorem bookings_foldl_posted (now : Date) (inputs : List PostJournalEntryInput) (S : PropertyRentalStore) :
    (inputs.foldl (fun T input => T.posted now input) S).bookings = S.bookings := by
  induction inputs generalizing S with
  | nil => rfl
  | cons input inputs ih => exact ih (S.posted now input)

/-- **The rows after an operation** other than the daily accrual. -/
theorem rows_step {S : PropertyRentalStore} (hcents : ∀ id booking, S.bookings.find id = some booking →
    booking.paidAmount.getD 0 ∈ cents ∧ booking.recognizedAmount ∈ cents) (c : RentalCall)
    (hc : ∀ env asOf pages, c ≠ .runDailyAccrual env asOf pages) : RowsStep S (c.step S) c := by
  have hsame : ∀ {c : RentalCall}, c.step S = S → c.closed S = none → RowsStep S (c.step S) c := fun h =>
    .same (congrArg PropertyRentalStore.bookings h)
  cases c with
  | openBooking env dto actorId =>
    rcases openBooking_cases env S dto actorId with h | hwrites
    · exact hsame h rfl
    · refine .added env dto actorId ?_
      rw [RentalCall.step, hwrites]
      split_ifs <;> rfl
  | postCharge env bookingId dto =>
    rcases postCharge_cases env bookingId S dto with h | ⟨booking, hfind, hopened, hwrites⟩
    · exact hsame h rfl
    · have hquantity : (0 : ℚ) ≤ (max 1 (dto.quantity.getD 1) : ℤ) := by
        exact_mod_cast zero_le_one.trans (le_max_left 1 (dto.quantity.getD 1))
      have hcharge := mul_nonneg (round2_nonneg dto.amount.value_nonneg) hquantity
      exact .saved hfind hopened (congrArg PropertyRentalStore.bookings hwrites)
        ⟨rfl, ⟨rfl, rfl, rfl⟩, le_add_of_nonneg_right hcharge, ⟨le_rfl, (hcents bookingId booking hfind).1⟩,
          fun _ _ => .inl⟩ (.inl ⟨hopened, rfl⟩)
  | recordPayment env bookingId dto =>
    rcases recordPayment_cases env bookingId dto S with
      h | ⟨booking, records, hfind, hopened, hwhole, hpos, hkeys, -, hwrites⟩
    · exact hsame h rfl
    · have hmem := add_mem (hcents bookingId booking hfind).1 (received_mem hwhole)
      refine .saved hfind hopened (congrArg PropertyRentalStore.bookings hwrites)
        ⟨rfl, ⟨rfl, rfl, rfl⟩, le_rfl, ⟨?_, round2_mem _⟩, fun _ p hp => ?_⟩ (.inl ⟨hopened, rfl⟩)
      · exact (le_add_of_nonneg_right hpos.le).trans (round2_of_mem hmem).ge
      · exact (List.mem_append.mp hp).imp_right fun hp => ⟨env, bookingId, dto, rfl, hkeys p hp⟩
  | runDailyAccrual env asOf pages => exact absurd rfl (hc env asOf pages)
  | settleBooking env bookingId dto =>
    rcases settleBooking_cases env bookingId S dto (hcents bookingId) with
      ⟨h, hnot⟩ | ⟨booking, records, hfind, hopened, hrecords, hwhole, hwrites⟩
    · exact hsame h (closed_eq_none rfl hnot)
    · have hpaid := @paidAmount_settledBooking booking dto records (dto.settledAt.getD env.now)
        (hcents bookingId booking hfind).1 hwhole
      refine .saved hfind hopened ((congrArg PropertyRentalStore.bookings hwrites).trans (bookings_foldl_posted _ _ _))
        ⟨rfl, ⟨rfl, rfl, rfl⟩, le_rfl, ⟨(le_add_of_nonneg_right (received_nonneg hwhole)).trans hpaid.2, hpaid.1⟩,
          fun hopen => by cases hopen⟩
        (.inr ?_)
      rw [hrecords]
      exact closed_settleBooking env dto hfind hopened
  | voidBooking env bookingId dto =>
    rcases voidBooking_cases env bookingId S dto with ⟨h, hnot⟩ | ⟨booking, hfind, hopened, hwrites⟩
    · exact hsame h (closed_eq_none rfl hnot)
    · exact .saved hfind hopened (congrArg PropertyRentalStore.bookings hwrites)
        ⟨rfl, ⟨rfl, rfl, rfl⟩, le_rfl, ⟨le_rfl, (hcents bookingId booking hfind).1⟩, fun hopen => by cases hopen⟩
        (.inr (closed_voidBooking env dto hfind hopened))
  | transferUnit bookingId dto =>
    rcases transferUnit_cases bookingId S dto with h | ⟨booking, hfind, hopened, hwrites⟩
    · exact hsame h rfl
    · exact .saved hfind hopened (congrArg PropertyRentalStore.bookings hwrites)
        ⟨rfl, ⟨rfl, rfl, rfl⟩, le_rfl, ⟨le_rfl, (hcents bookingId booking hfind).1⟩, fun _ _ => .inl⟩
        (.inl ⟨hopened, rfl⟩)

section Rows

variable {Q : PropertyRentalBooking → Prop} {S S' : PropertyRentalStore}

theorem Rows.congr (h : Rows Q S) (hsame : S'.bookings = S.bookings) : Rows Q S' := by
  intro id booking hfind
  rw [hsame] at hfind
  exact h id booking hfind

theorem Rows.set {bookingId : ℕ} {booking : PropertyRentalBooking} (h : Rows Q S)
    (hset : S'.bookings = S.bookings.set bookingId booking) (hQ : Q booking) : Rows Q S' := by
  have hrows := forall_find_set h bookingId hQ
  rw [← hset] at hrows
  exact hrows

theorem Rows.add {booking : PropertyRentalBooking} (h : Rows Q S) (hadd : S'.bookings = S.bookings.add booking)
    (hQ : Q booking) : Rows Q S' := by
  have hrows := forall_find_add h hQ
  rw [← hadd] at hrows
  exact hrows

theorem rows_step_iff (hsound : Sound S) (hopened : ∀ booking, booking.status = .opened → Q booking)
    (hrows : Rows Q S) (c : RentalCall) : Rows Q (c.step S) ↔ ∀ saved ∈ c.closed S, Q saved := by
  by_cases haccrual : ∃ env asOf pages, c = .runDailyAccrual env asOf pages
  · obtain ⟨env, asOf, pages, rfl⟩ := haccrual
    refine iff_of_true ?_ fun _ hsaved => by cases hsaved
    rw [RentalCall.step, run_runDailyAccrual]
    refine Run.after_invariant (P := Rows Q) (fun T id hT => ?_) hrows _
    rcases bookings_accrueOne env noFaults asOf T id with hsame | ⟨booking, -, hopen, hset⟩
    · exact hT.congr hsame
    · exact hT.set hset (hopened _ hopen)
  · have hstep := rows_step (fun _ => hsound.cents_of_find) c fun env asOf pages hc => haccrual ⟨env, asOf, pages, hc⟩
    generalize c.step S = S' at hstep
    cases hstep with
    | same hsame hclosed =>
      rw [hclosed]
      exact iff_of_true (hrows.congr hsame) fun _ hsaved => by cases hsaved
    | added env dto actorId hadd =>
      exact iff_of_true (hrows.add hadd (hopened _ rfl)) fun _ hsaved => by cases hsaved
    | @saved _ bookingId booking booking' hfind _ hset _ hclosed =>
      rcases hclosed with ⟨hopen, hclosed⟩ | hclosed
      · rw [hclosed]
        exact iff_of_true (hrows.set hset (hopened _ hopen)) fun _ hsaved => by cases hsaved
      · rw [hclosed]
        constructor
        · rintro h saved ⟨⟩
          refine h bookingId _ ?_
          rw [hset]
          exact find_set_self hfind _
        · exact fun h => hrows.set hset (h _ rfl)

end Rows

/-!
## What closed bookings leave behind

A settlement releases all rent that is deferred, and of the deposit what it refunds and forfeits, cut to what is
held.  What it neither refunds nor forfeits stays a liability.  Voiding a booking posts nothing: rent that was paid
and not recognized, and the whole deposit, stay.

* `closed_bookings_iff`: in which runs closed bookings leave no liability.
-/

/-- A closed booking has no deferred rent, and no deposit is held for it. -/
def NoLiability (J : GlStore) (bookingId : ℕ) (booking : PropertyRentalBooking) : Prop :=
  booking.status ≠ .opened → J.deferredRent bookingId = 0 ∧ J.depositHeld bookingId = 0

/-- By its row, the closed booking has released what was held for it. -/
def Released (booking : PropertyRentalBooking) : Prop :=
  (booking.status = .settled → heldDeposit booking ≤ releasedDeposit booking) ∧
    (booking.status = .voided → booking.recognizedAmount = booking.paidAmount.getD 0 ∧ heldDeposit booking = 0)

/-- The settlement refunds and forfeits less than the deposit, or a booking is voided while rent is deferred or a
deposit held. -/
def RentalCall.KeepsLiability (S : PropertyRentalStore) : RentalCall → Prop
  | settleBooking _ bookingId dto => ∃ booking ∈ S.bookings.find bookingId, booking.status = .opened ∧
      round2 ((dto.depositRefund.map Decimal2.value).getD 0) +
        round2 ((dto.depositForfeit.map Decimal2.value).getD 0) < heldDeposit booking
  | voidBooking _ bookingId _ => ∃ booking ∈ S.bookings.find bookingId, booking.status = .opened ∧
      ¬ (booking.recognizedAmount = booking.paidAmount.getD 0 ∧ heldDeposit booking = 0)
  | _ => False

instance (S : PropertyRentalStore) (c : RentalCall) : Decidable (c.KeepsLiability S) := by
  induction c using RentalCall.casesOn <;> unfold RentalCall.KeepsLiability <;> infer_instance

/-! ### The rows -/

section Rows

variable {S : PropertyRentalStore}

theorem noLiability_iff (h : InOrder S) :
    (∀ id booking, S.bookings.find id = some booking → NoLiability S.journal id booking) ↔ Rows Released S := by
  refine forall₃_congr fun id booking hfind => ?_
  have hbooks := h.sound.books id booking hfind
  have hdeferred := hbooks.deferred_eq
  have hdeposit := hbooks.deposit_eq
  unfold NoLiability Released
  cases hstatus : booking.status with
  | opened => exact iff_of_true (fun hclosed => absurd rfl hclosed) ⟨nofun, nofun⟩
  | settled =>
    rw [if_pos hstatus] at hdeferred hdeposit
    rw [hdeferred, hdeposit, max_eq_left_iff, sub_nonpos]
    exact ⟨fun hleft => ⟨fun _ => (hleft nofun).2, nofun⟩, fun hrow _ => ⟨rfl, hrow.1 rfl⟩⟩
  | voided =>
    have hunsettled : booking.status ≠ .settled := by
      rw [hstatus]
      decide
    rw [if_neg hunsettled, ← hbooks.unsettled_paid hunsettled, h.recognized id booking hfind hunsettled] at hdeferred
    rw [if_neg hunsettled] at hdeposit
    rw [hdeferred, hdeposit, sub_eq_zero]
    constructor
    · intro hleft
      obtain ⟨hpaid, hheld⟩ := hleft nofun
      exact ⟨nofun, fun _ => ⟨hpaid.symm, hheld⟩⟩
    · intro hrow _
      obtain ⟨hpaid, hheld⟩ := hrow.2 rfl
      exact ⟨hpaid.symm, hheld⟩

/-- **An operation** leaves no liability exactly when it keeps none. -/
theorem released_step_iff (hsound : Sound S) (hreleased : Rows Released S) (c : RentalCall) :
    Rows Released (c.step S) ↔ ¬ c.KeepsLiability S := by
  have hopened : ∀ booking : PropertyRentalBooking, booking.status = .opened → Released booking := by
    intro booking hopened
    unfold Released
    rw [hopened]
    exact ⟨nofun, nofun⟩
  rw [rows_step_iff hsound hopened hreleased]
  by_cases hopen : ∃ bookingId ∈ c.closes, ∃ booking, S.bookings.find bookingId = some booking ∧
      booking.status = .opened
  · obtain ⟨id, hcloses, booking, hfind, hstatus⟩ := hopen
    have hunsettled := unsettled_of_opened hstatus
    have hdeposit := (hsound.books id booking hfind).unsettled_deposit hunsettled
    cases c with
    | settleBooking env bookingId dto =>
      cases hcloses
      have hclosed := closed_settleBooking env dto hfind hstatus
      have hkeeps : (RentalCall.settleBooking env id dto).KeepsLiability S ↔
          round2 ((dto.depositRefund.map Decimal2.value).getD 0) +
            round2 ((dto.depositForfeit.map Decimal2.value).getD 0) < heldDeposit booking := by
        refine ⟨?_, fun hlt => ⟨booking, hfind, hstatus, hlt⟩⟩
        rintro ⟨row, hrow, -, hlt⟩
        rw [hfind] at hrow
        cases hrow
        exact hlt
      rw [hclosed, hkeeps, not_lt, ← releasedDeposit_settledBooking hdeposit]
      constructor
      · exact fun h => (h _ rfl).1 rfl
      · rintro hle saved ⟨⟩
        exact ⟨fun _ => hle, nofun⟩
    | voidBooking env bookingId dto =>
      cases hcloses
      have hkeeps : (RentalCall.voidBooking env id dto).KeepsLiability S ↔
          ¬ (booking.recognizedAmount = booking.paidAmount.getD 0 ∧ heldDeposit booking = 0) := by
        refine ⟨?_, fun hnot => ⟨booking, hfind, hstatus, hnot⟩⟩
        rintro ⟨row, hrow, -, hnot⟩
        rw [hfind] at hrow
        cases hrow
        exact hnot
      rw [closed_voidBooking env dto hfind hstatus, hkeeps, not_not]
      constructor
      · exact fun h => (h _ rfl).2 rfl
      · rintro hnone saved ⟨⟩
        exact ⟨nofun, fun _ => hnone⟩
    | _ => cases hcloses
  · refine iff_of_true (fun saved hsaved => absurd (open_of_mem_closed hsaved) hopen) ?_
    intro hkeeps
    apply hopen
    cases c with
    | settleBooking env bookingId dto =>
      obtain ⟨booking, hfind, hstatus, -⟩ := hkeeps
      exact ⟨bookingId, rfl, booking, hfind, hstatus⟩
    | voidBooking env bookingId dto =>
      obtain ⟨booking, hfind, hstatus, -⟩ := hkeeps
      exact ⟨bookingId, rfl, booking, hfind, hstatus⟩
    | _ => exact hkeeps.elim

end Rows

/-! ### Runs -/

/-- After every operation of the run closed bookings have no liability left. -/
def ClosedWithoutLiability (calls : List RentalCall) : Prop :=
  ∀ n, ∀ id booking,
    (Run.after RentalCall.step emptyRentals (calls.take n)).bookings.find id = some booking →
      NoLiability (Run.after RentalCall.step emptyRentals (calls.take n)).journal id booking

/-- A booking with a deposit that is paid under a key, accrued, and settled with the deposit partly refunded and
partly forfeited; and one without anything that is voided. -/
def releasedRun : List RentalCall :=
  let env : PropertyRentalRuntime := { now := 0, toUpperCase := id }
  [ .openBooking env { branchId := 1, propertyCode := "A", depositAmount := some ⟨20000⟩ } none,
    .recordPayment env 1 { amount := some 500, idempotencyKey := some "first" },
    .runDailyAccrual env 86400000 1,
    .settleBooking env 1 { paidAmount := some ⟨25000⟩, depositRefund := some ⟨15000⟩, depositForfeit := some ⟨5000⟩ },
    .openBooking env { branchId := 1, propertyCode := "A" } none,
    .voidBooking env 2 {} ]

end SuuqBackend
