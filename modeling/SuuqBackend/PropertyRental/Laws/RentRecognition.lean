import SuuqBackend.PropertyRental.Laws.ClosedBookings

/-!
# Rent is recognized once

While a booking is open the ledger defers the rent that was paid and has not been recognized; once it is settled
nothing is deferred, and the rental revenue is the rent that was paid.  This fails for one kind of settlement: one
with tender rows that are all zero and a flat amount beside them.  The flat amount is ignored for the ledger, but
stored as the paid amount of a booking without payments.

* `KeyedPayments.step`: while payments are keyed, each is posted under a key of its own.
* `rent_recognized_once_iff`: in which runs rent is recognized once.
-/

namespace SuuqBackend

open GeneralLedger PropertyRentalBookings RevenueAccrual PropertyRentalStore SerialTable PosSync

/-! ### Keyed payments -/

def RentalCall.Keyed : RentalCall → Prop
  | recordPayment _ _ dto => trimmed dto.idempotencyKey ≠ none
  | _ => True

instance (c : RentalCall) : Decidable c.Keyed := by
  induction c using RentalCall.casesOn <;> unfold RentalCall.Keyed <;> infer_instance

def KeyedPayments (S : PropertyRentalStore) : Prop :=
  ∀ id booking, S.bookings.find id = some booking → booking.status = .opened →
    ∀ p ∈ booking.payments.getD [], p.idempotencyKey ≠ none

variable {bookingId : ℕ} {S S' : PropertyRentalStore} {booking : PropertyRentalBooking}

variable {booking' : PropertyRentalBooking}

section

variable (h : KeyedPayments S)

include h

theorem KeyedPayments.postsNew (hledger : LedgerKeys S)
    (hfind : S.bookings.find bookingId = some booking) (hopened : booking.status = .opened)
    {dto : RecordPropertyPaymentDto} (hkey : trimmed dto.idempotencyKey ≠ none) : PostsNew S bookingId dto := by
  intro row hrow
  rw [hfind] at hrow
  cases hrow
  by_cases hretry : ∃ p ∈ S.payments bookingId, p.idempotencyKey = trimmed dto.idempotencyKey
  · exact .inl ⟨hkey, hretry⟩
  · right
    rw [paymentKey_text]
    rw [payments_of_find hfind] at hretry
    refine hledger.fresh (k := .payment bookingId _) hfind ?_ _
    intro k hsame hspent
    have hpayment : ∃ ref, k = .payment bookingId ref ∧
        (ref = .of (trimmed dto.idempotencyKey) (S.payments bookingId).length ∨
          ref.Clashes (.of (trimmed dto.idempotencyKey) (S.payments bookingId).length)) := by
      rcases hsame with rfl | hclash
      · exact ⟨_, rfl, .inl rfl⟩
      · cases k with
        | payment id ref =>
          obtain ⟨rfl, hclash⟩ := hclash
          exact ⟨ref, rfl, .inr hclash⟩
        | _ => exact hclash.elim
    obtain ⟨ref, rfl, href⟩ := hpayment
    obtain ⟨p, hp, hsame⟩ := hspent
    rcases href with rfl | hclash
    · rw [clientKey_of_trimmed] at hsame
      exact hretry ⟨p, hp, hsame⟩
    · -- only a payment without a key has a number
      cases ref with
      | keyed key hne =>
        have hcontra : (EventRef.of (trimmed dto.idempotencyKey) (S.payments bookingId).length).clientKey = none := by
          generalize EventRef.of (trimmed dto.idempotencyKey) _ = ref' at hclash
          cases ref' with
          | keyed key' hne' => exact hclash.elim
          | numbered n => rfl
        rw [clientKey_of_trimmed] at hcontra
        exact hkey hcontra
      | numbered n => exact h bookingId booking hfind hopened p hp hsame

theorem KeyedPayments.rowsStep {c : RentalCall} (hstep : RowsStep S S' c) (hc : c.Keyed) : KeyedPayments S' := by
  cases hstep with
  | same hsame => exact Rows.congr h hsame
  | added env dto actorId hadd => exact Rows.add h hadd fun _ p hp => absurd hp List.not_mem_nil
  | @saved _ bookingId booking _ hfind hopened hset hrow =>
    refine Rows.set h hset fun hopened' p hp => ?_
    rcases hrow.payments hopened' p hp with hold | ⟨env, id, dto, rfl, hkey⟩
    · exact h bookingId booking hfind hopened p hold
    · rw [hkey]
      exact hc

theorem KeyedPayments.step (hsound : Sound S) (c : RentalCall) (hc : c.Keyed) : KeyedPayments (c.step S) := by
  cases c with
  | runDailyAccrual env asOf pages =>
    rw [RentalCall.step, run_runDailyAccrual]
    refine Run.after_invariant (P := KeyedPayments) (fun T id hT => ?_) h _
    rcases bookings_accrueOne env noFaults asOf T id with hsame | ⟨booking, hfind, hopened, hset⟩
    · exact Rows.congr hT hsame
    · exact Rows.set hT hset fun _ => hT id booking hfind hopened
  | _ => exact h.rowsStep (rows_step (fun _ => hsound.cents_of_find) _ fun _ _ _ hc => by cases hc) hc

end

/-! ### What has been recognized -/

/-- No booking disappears, and none has less recognized than before. -/
def Grows (S S' : PropertyRentalStore) : Prop :=
  ∀ id booking, S.bookings.find id = some booking →
    ∃ booking', S'.bookings.find id = some booking' ∧ booking.recognizedAmount ≤ booking'.recognizedAmount

theorem Grows.refl (S : PropertyRentalStore) : Grows S S :=
  fun _ booking hfind => ⟨booking, hfind, le_refl _⟩

theorem Grows.trans {S'' : PropertyRentalStore} (h : Grows S S') (h' : Grows S' S'') : Grows S S'' := by
  intro id booking hfind
  obtain ⟨booking', hfind', hle⟩ := h id booking hfind
  obtain ⟨booking'', hfind'', hle'⟩ := h' id booking' hfind'
  exact ⟨booking'', hfind'', hle.trans hle'⟩

theorem Grows.of_set (hfind : S.bookings.find bookingId = some booking)
    (hset : S'.bookings = S.bookings.set bookingId booking')
    (hle : booking.recognizedAmount ≤ booking'.recognizedAmount) : Grows S S' := by
  intro id row hrow
  rw [hset]
  by_cases hid : id = bookingId
  · subst hid
    rw [hfind] at hrow
    cases hrow
    exact ⟨booking', find_set_self hfind _, hle⟩
  · exact ⟨row, (find_set_of_ne _ _ hid).trans hrow, le_refl _⟩

theorem grows_accrueOne (h : Sound S) (env : PropertyRentalRuntime)
    (asOf : Date) (bookingId : ℕ) : Grows S (accrueOne env noFaults asOf S bookingId) := by
  cases hfind : S.bookings.find bookingId with
  | none =>
    unfold accrueOne
    rw [hfind]
    exact Grows.refl S
  | some booking =>
    by_cases hopened : booking.status = .opened
    · rw [accrueOne_of_find env noFaults asOf hfind hopened]
      unfold recognized
      dsimp only
      split_ifs with hnothing
      · exact Grows.refl S
      · have hbooks := h.books bookingId booking hfind
        obtain ⟨-, -, hnow⟩ := recognition_spec hbooks.paid_mem hbooks.recognized_mem (not_le.mp hnothing)
        refine Grows.of_set hfind rfl ?_
        rw [hnow, not_le] at hnothing
        exact (sub_pos.mp hnothing).le
    · unfold accrueOne
      rw [hfind]
      dsimp only
      rw [if_neg hopened]
      exact Grows.refl S

/-- **No operation** lowers what has been recognized of a booking. -/
theorem grows_step (h : InOrder S) (c : RentalCall) : Grows S (c.step S) := by
  have hrows : ∀ {S' c}, RowsStep S S' c → Grows S S' := by
    intro S' c hstep
    cases hstep with
    | same hsame => exact fun id booking hfind => ⟨booking, hsame ▸ hfind, le_rfl⟩
    | added env dto actorId hadd => exact fun id booking hfind => ⟨booking, hadd ▸ find_add_of_find hfind _, le_rfl⟩
    | saved hfind _ hset hrow => exact Grows.of_set hfind hset hrow.recognized_eq.ge
  cases c with
  | runDailyAccrual env asOf pages =>
    rw [RentalCall.step, run_runDailyAccrual]
    have hone : ∀ T id, InOrder T ∧ Grows S T →
        InOrder (accrueOne env noFaults asOf T id) ∧ Grows S (accrueOne env noFaults asOf T id) := by
      intro T id hT
      obtain ⟨h₁, h₂⟩ := @sound_accrueOne T env asOf id hT.1.sound hT.1.recognized
      exact ⟨⟨h₁, h₂⟩, hT.2.trans (grows_accrueOne hT.1.sound env asOf id)⟩
    exact (Run.after_invariant (P := fun T => InOrder T ∧ Grows S T) hone ⟨h, Grows.refl S⟩
      ((openIds S).take (batch * pages))).2
  | _ => exact hrows (rows_step (fun _ => h.sound.cents_of_find) _ fun _ _ _ hc => by cases hc)

/-! ### The flat amount beside tender rows -/

/-- The settlement of a booking without payments that has tender rows, all of them zero, and a flat amount
beside them. -/
def RentalCall.IgnoresAmount (S : PropertyRentalStore) : RentalCall → Prop
  | settleBooking _ bookingId dto => ∃ booking ∈ S.bookings.find bookingId,
      booking.status = .opened ∧ booking.paidAmount = none ∧ dto.payments ≠ [] ∧
      (∀ p ∈ dto.payments, p.amount = 0) ∧ ∃ amount ∈ dto.paidAmount, 0 < amount.hundredths
  | _ => False

instance (S : PropertyRentalStore) (c : RentalCall) : Decidable (c.IgnoresAmount S) := by
  induction c using RentalCall.casesOn <;> unfold RentalCall.IgnoresAmount <;> infer_instance

/-- The paid amount of the booking, once it is settled, is what its payments add up to. -/
def PaidUp (booking : PropertyRentalBooking) : Prop :=
  booking.status = .settled → booking.paidAmount.getD 0 = received (booking.payments.getD [])

theorem finalRecords_eq_nil_iff (env : PropertyRentalRuntime) (dto : SettlePropertyBookingDto)
    (currency : String) (checkoutId key : Option String) (paidAt : Date) :
    (normalizePaymentRows env (finalRows dto) currency checkoutId key paidAt).1 = [] ↔
      ∀ row ∈ finalRows dto, amountOf row.amount ≤ 0 := by
  show List.map _ _ = [] ↔ _
  rw [List.map_eq_nil_iff, List.filter_eq_nil_iff]
  refine forall₂_congr fun row _ => ?_
  rw [decide_eq_true_eq, not_lt]

theorem finalRows_zero_iff (dto : SettlePropertyBookingDto) (hrows : dto.payments ≠ []) :
    (∀ row ∈ finalRows dto, amountOf row.amount ≤ 0) ↔ ∀ p ∈ dto.payments, p.amount = 0 := by
  have hfinal : finalRows dto = dto.payments.map fun p =>
      { method := some p.method, amount := some (p.amount : ℚ), currency := p.currency,
        reference := p.reference } := by
    unfold finalRows
    cases hpayments : dto.payments with
    | nil => exact absurd hpayments hrows
    | cons p rest => cases dto.paidAmount <;> rfl
  rw [hfinal]
  constructor
  · intro h p hp
    have hle : (p.amount : ℚ) ≤ 0 := h _ (List.mem_map_of_mem hp)
    exact_mod_cast le_antisymm hle p.amount.2
  · intro h row hrow
    obtain ⟨p, hp, rfl⟩ := List.mem_map.mp hrow
    rw [h p hp]
    rfl

theorem paidUp_settledBooking_iff {env : PropertyRentalRuntime} {dto : SettlePropertyBookingDto}
    {records : List PropertyBookingPaymentRecord} {settledAt : Date} (hbooks : RentalBooks S.journal bookingId booking)
    (hfind : S.bookings.find bookingId = some booking) (hopened : booking.status = .opened)
    (hrecords : records = (normalizePaymentRows env (finalRows dto) booking.currency dto.checkoutId
      dto.idempotencyKey settledAt).1) :
    PaidUp (settledBooking booking dto records (received records) settledAt) ↔
      ¬ (RentalCall.settleBooking env bookingId dto).IgnoresAmount S := by
  let saved := settledBooking booking dto records (received records) settledAt
  have hsettled : PaidUp saved ↔ saved.paidAmount.getD 0 = received (saved.payments.getD []) :=
    ⟨fun h => h rfl, fun h _ => h⟩
  rw [hsettled]
  have hwhole : WholeCents records := by
    rw [hrecords]
    exact (normalizePaymentRows_spec env _ _ _ _ _).1
  have hstatus := unsettled_of_opened hopened
  have hpaid := hbooks.unsettled_paid hstatus
  have hpayments := payments_settledBooking booking dto records (received records) settledAt
  have hsaved : saved.paidAmount =
      if records ≠ [] then some (round2 (booking.paidAmount.getD 0 + received records))
      else booking.paidAmount.or (dto.paidAmount.map Decimal2.value) := rfl
  have hnil := finalRecords_eq_nil_iff env dto booking.currency dto.checkoutId dto.idempotencyKey settledAt
  rw [← hrecords] at hnil
  rw [hpayments, received_append, ← hpaid, hsaved]
  by_cases hsome : records ≠ []
  · rw [if_pos hsome, round2_of_mem (add_mem hbooks.paid_mem (received_mem hwhole))]
    refine iff_of_true rfl ?_
    rintro ⟨row, hrow, -, -, hrows, hzero, -⟩
    exact hsome (hnil.mpr ((finalRows_zero_iff dto hrows).mpr hzero))
  · have hempty : records = [] := not_not.mp hsome
    have hzero := hnil.mp hempty
    rw [hempty, show received [] = 0 from rfl, add_zero]
    cases hamount : booking.paidAmount with
    | some amount =>
      refine iff_of_true rfl ?_
      rintro ⟨row, hrow, -, hnone, -⟩
      rw [hfind] at hrow
      cases hrow
      rw [hamount] at hnone
      cases hnone
    | none =>
      constructor
      · rintro hflat ⟨row, hrow, -, -, -, -, amount, hdto, hpos⟩
        rw [Option.mem_def.mp hdto] at hflat
        have hvalue : (0 : ℚ) < amount.value := by
          have hcast : (0 : ℚ) < (amount.hundredths : ℚ) := by exact_mod_cast hpos
          unfold Decimal2.value
          linarith
        exact absurd hflat hvalue.ne'
      · intro hignores
        cases hdto : dto.paidAmount with
        | none => rfl
        | some amount =>
          have hvalue : amount.value ≤ 0 := by
            by_contra hpos
            have hcents : 0 < amount.hundredths := by
              rw [Nat.pos_iff_ne_zero]
              intro h0
              apply hpos
              unfold Decimal2.value
              rw [h0]
              norm_num
            by_cases hrows : dto.payments = []
            · -- the flat amount is the tender row
              have hfinal : finalRows dto = [{
                  method := dto.paymentMethod
                  amount := some amount.value
                  currency := dto.currency }] := by
                unfold finalRows
                rw [hrows, hdto]
              rw [hfinal] at hzero
              exact hpos (hzero _ (List.mem_singleton_self _))
            · exact hignores ⟨booking, hfind, hopened, hamount, hrows,
                (finalRows_zero_iff dto hrows).mp hzero, amount, hdto, hcents⟩
          exact le_antisymm hvalue amount.value_nonneg

/-- **An operation** keeps the paid amounts right exactly when it ignores no flat amount. -/
theorem paidUp_step_iff (hsound : Sound S) (hpaid : Rows PaidUp S)
    (c : RentalCall) : Rows PaidUp (c.step S) ↔ ¬ c.IgnoresAmount S := by
  have hopened : ∀ booking : PropertyRentalBooking, booking.status = .opened → PaidUp booking := by
    intro booking hopened hsettled
    rw [hopened] at hsettled
    cases hsettled
  rw [rows_step_iff hsound hopened hpaid]
  cases c with
  | settleBooking env bookingId dto =>
    by_cases hopen : ∃ booking, S.bookings.find bookingId = some booking ∧ booking.status = .opened
    · obtain ⟨booking, hfind, hstatus⟩ := hopen
      have hclosed := closed_settleBooking env dto hfind hstatus
      rw [hclosed, ← paidUp_settledBooking_iff (hsound.books bookingId booking hfind) hfind hstatus rfl]
      constructor
      · exact fun h => h _ rfl
      · rintro h saved ⟨⟩
        exact h
    · refine iff_of_true (fun saved hsaved => ?_) ?_
      · obtain ⟨id, ⟨⟩, hopen'⟩ := open_of_mem_closed hsaved
        exact absurd hopen' hopen
      · rintro ⟨booking, hfind, hstatus, -⟩
        exact hopen ⟨booking, hfind, hstatus⟩
  | voidBooking env bookingId dto =>
    refine iff_of_true (fun saved hsaved hsettled => ?_) id
    obtain ⟨booking, -, rfl⟩ := Option.map_eq_some_iff.mp hsaved
    cases hsettled
  | _ => exact iff_of_true (fun saved hsaved => by cases hsaved) id

/-! ### The rent of a booking -/

/-- What was paid and not recognized is deferred while the booking is open, and what was recognized is revenue;
once it is settled nothing is deferred, and what was paid is revenue.  No more is recognized than was paid. -/
structure RentAccounted (J : GlStore) (bookingId : ℕ) (booking : PropertyRentalBooking) : Prop where
  opened : booking.status = .opened →
    J.deferredRent bookingId = booking.paidAmount.getD 0 - booking.recognizedAmount ∧
      J.rentRevenue bookingId = booking.recognizedAmount
  settled : booking.status = .settled →
    J.deferredRent bookingId = 0 ∧ J.rentRevenue bookingId = booking.paidAmount.getD 0
  recognized_le : booking.recognizedAmount ≤ booking.paidAmount.getD 0

theorem rentAccounted_iff (h : InOrder S) :
    (∀ id booking, S.bookings.find id = some booking → RentAccounted S.journal id booking) ↔ Rows PaidUp S := by
  refine forall₃_congr fun id booking hfind => ?_
  have hbooks := h.sound.books id booking hfind
  constructor
  · intro haccounted hsettled
    rw [← (haccounted.settled hsettled).2]
    exact hbooks.settled_revenue hsettled
  · intro hpaid
    refine ⟨fun hopened => ?_, fun hsettled => ?_, hbooks.recognized_le⟩
    · have hstatus := unsettled_of_opened hopened
      have hrevenue := h.recognized id booking hfind hstatus
      have hdeferred := hbooks.deferred_eq
      rw [if_neg hstatus, hrevenue, ← hbooks.unsettled_paid hstatus] at hdeferred
      exact ⟨hdeferred, hrevenue⟩
    · have hdeferred := hbooks.deferred_eq
      rw [if_pos hsettled] at hdeferred
      exact ⟨hdeferred, (hbooks.settled_revenue hsettled).trans (hpaid hsettled).symm⟩

/-- After every operation of the run the rent of each booking is accounted for, and the run lowers no recognized
amount. -/
def RentRecognizedOnce (calls : List RentalCall) : Prop :=
  (∀ n, ∀ id booking,
    (Run.after RentalCall.step emptyRentals (calls.take n)).bookings.find id = some booking →
      RentAccounted (Run.after RentalCall.step emptyRentals (calls.take n)).journal id booking) ∧
  ∀ n m, n ≤ m → Grows (Run.after RentalCall.step emptyRentals (calls.take n))
    (Run.after RentalCall.step emptyRentals (calls.take m))

theorem inOrder_step_keyed (h : InOrder S) (hkeyed : KeyedPayments S)
    (c : RentalCall) (hc : c.Keyed) : InOrder (c.step S) ∧ KeyedPayments (c.step S) := by
  refine ⟨?_, hkeyed.step h.sound c hc⟩
  by_cases hposts : c.PostsNew S
  · exact h.step c hposts
  · cases c with
    | recordPayment env bookingId dto =>
      -- a payment on a booking that is not open is refused
      rcases recordPayment_cases env bookingId dto S with
        hsame | ⟨booking, records, hfind, hopened, -⟩
      · rw [RentalCall.step, hsame]
        exact h
      · exact absurd (hkeyed.postsNew h.sound.ledger hfind hopened hc) hposts
    | _ => exact absurd trivial hposts

/-- A booking that is opened, paid under a key, accrued and settled with a flat amount. -/
def recognizedRun : List RentalCall :=
  let env : PropertyRentalRuntime := { now := 0, toUpperCase := id }
  [ .openBooking env { branchId := 1, propertyCode := "A", depositAmount := some ⟨20000⟩ } none,
    .recordPayment env 1 { amount := some (500 : ℕ), idempotencyKey := some "first" },
    .runDailyAccrual env 86400000 1,
    .settleBooking env 1 { paidAmount := some ⟨25000⟩ } ]

/-- A booking that is opened and settled with a zero tender row and a flat amount beside it. -/
def ignoredAmountRun : List RentalCall :=
  let env : PropertyRentalRuntime := { now := 0, toUpperCase := id }
  [ .openBooking env { branchId := 1, propertyCode := "A" } none,
    .settleBooking env 1 { payments := [{ method := "CASH", amount := 0 }], paidAmount := some ⟨50000⟩ } ]

end SuuqBackend
