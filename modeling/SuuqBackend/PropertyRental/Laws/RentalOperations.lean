import SuuqBackend.PropertyRental.Laws.Payments

/-!
# What the other operations of a booking do

What `openBooking`, `postCharge`, `settleBooking`, `voidBooking`, `transferUnit` and the daily accrual leave,
whether they succeed or are refused.

* `openBooking_cases`, `postCharge_cases`, `settleBooking_cases`, `voidBooking_cases`, `transferUnit_cases`:
  each changes nothing, or writes these rows and posts these entries.
-/

namespace SuuqBackend

open Proc GeneralLedger PropertyRentalStore

namespace PropertyRentalBookings

section Entries

theorem run_postEntries (now : Date) {inputs : List PostJournalEntryInput}
    (hok : ∀ input ∈ inputs, assertBalanced input = .ok ()) (S : PropertyRentalStore) :
    (Proc.forEach inputs fun input => do let _ ← postEntry now input).run S =
      (.ok (), inputs.foldl (fun T input => T.posted now input) S) := by
  induction inputs generalizing S with
  | nil => rfl
  | cons input inputs ih =>
    obtain ⟨entry, hrun⟩ := run_postEntry (hok input List.mem_cons_self) now S
    have hbody : (postEntry now input >>= fun _ => pure () : PropertyRentalProc Unit).run S =
        (.ok (), S.posted now input) := by
      rw [run_bind_of_ok hrun, run_pure]
    rw [forEach_cons, run_bind_of_ok hbody, ih fun i hi => hok i (List.mem_cons_of_mem input hi)]
    rfl

theorem min_mem_cents {x y : ℚ} (hx : x ∈ cents) (hy : y ∈ cents) : min x y ∈ cents := by
  rcases min_choice x y with h | h <;> rw [h]
  · exact hx
  · exact hy

variable (booking : PropertyRentalBooking) (refund : ℚ)

theorem refundOf_mem : refundOf booking refund ∈ cents :=
  min_mem_cents (round2_mem _) (round2_mem _)

theorem forfeitOf_mem (forfeit : ℚ) : forfeitOf booking refund forfeit ∈ cents :=
  min_mem_cents (round2_mem _) (round2_mem _)

theorem settlementEntries_accepted (env : PropertyRentalRuntime) (bookingId : ℕ)
    (booking : PropertyRentalBooking) {records : List PropertyBookingPaymentRecord}
    (hwhole : WholeCents records) {prior : ℚ} (hprior : prior ∈ cents) (hnonneg : 0 ≤ prior)
    (refund forfeit : ℚ) (settledAt : Date) :
    ∀ input ∈ settlementEntries env bookingId booking (received records) prior records refund forfeit
      settledAt, assertBalanced input = .ok () := by
  intro input hinput
  unfold settlementEntries at hinput
  rw [List.mem_append, List.mem_append] at hinput
  rcases hinput with (hinput | hinput) | hinput
  · split_ifs at hinput with hpos
    · rw [round2_of_mem (add_mem hprior (received_mem hwhole))] at hpos
      rw [List.mem_singleton.mp hinput]
      exact (settlement_move env hwhole hprior hnonneg hpos settledAt).accepted
    · cases hinput
  · split_ifs at hinput with hpos
    · rw [List.mem_singleton.mp hinput]
      exact (depositRefund_move (refundOf_mem booking refund) hpos settledAt).accepted
    · cases hinput
  · split_ifs at hinput with hpos
    · rw [List.mem_singleton.mp hinput]
      exact (depositForfeit_move (forfeitOf_mem booking refund forfeit) hpos settledAt).accepted
    · cases hinput

end Entries

section Operations

variable (env : PropertyRentalRuntime) (bookingId : ℕ) (S : PropertyRentalStore)

theorem run_insertBooking (booking : PropertyRentalBooking) :
    (insertBooking booking).run S = (.ok S.bookings.next, { S with bookings := S.bookings.add booking }) ∨
      ∃ e, (insertBooking booking).run S = (.error e, S) := by
  unfold insertBooking
  rw [run_transaction, run_read_bind, run_throwIf_bind]
  split_ifs
  · exact .inr ⟨_, rfl⟩
  · exact .inl rfl

theorem openBooking_cases (dto : OpenPropertyBookingDto) (actorId : Option ℕ) :
    let S' := ((openBooking env dto actorId).run S).2
    let booking := newBooking env dto actorId
    S' = S ∨ S' =
      if 0 < round2 booking.depositAmount then
        { S with bookings := S.bookings.add booking }.posted env.now (depositOpenEntry S.bookings.next booking)
      else { S with bookings := S.bookings.add booking } := by
  intro S' booking
  have hS' : S' = ((openBooking env dto actorId).run S).2 := rfl
  unfold openBooking at hS'
  rw [run_read_bind] at hS'
  split at hS'
  · exact .inl hS'
  rw [run_throwIf_bind] at hS'
  split_ifs at hS' with hdate
  · exact .inl hS'
  rcases run_insertBooking S booking with hrun | ⟨e, hrun⟩
  · rw [run_bind_of_ok hrun] at hS'
    right
    rw [hS']
    by_cases hdeposit : 0 < round2 booking.depositAmount
    · have hmove := @depositOpen_move S.bookings.next booking hdeposit
      have hpos : round2 (newBooking env dto actorId).depositAmount > 0 := hdeposit
      rw [if_pos hdeposit, if_pos hpos, run_bind_of_ok (run_postLogged hmove.accepted _ _)]
      rfl
    · have hpos : ¬ round2 (newBooking env dto actorId).depositAmount > 0 := hdeposit
      rw [if_neg hdeposit, if_neg hpos]
      rfl
  · rw [run_bind_of_error hrun] at hS'
    exact .inl hS'

theorem postCharge_cases (dto : PostPropertyChargeDto) :
    let S' := ((postCharge env bookingId dto).run S).2
    S' = S ∨ ∃ booking, S.bookings.find bookingId = some booking ∧ booking.status = .opened ∧
      let charge := newCharge env bookingId booking dto
      S' = { S with charges := S.charges.add charge }.saveBooking bookingId
        { booking with chargesTotal := booking.chargesTotal + charge.amount * charge.quantity } := by
  intro S'
  have hS' : S' = ((postCharge env bookingId dto).run S).2 := rfl
  unfold postCharge at hS'
  rw [run_read_bind] at hS'
  cases hbooking : S.bookings.find bookingId with
  | none =>
    rw [hbooking] at hS'
    exact .inl hS'
  | some booking =>
    rw [hbooking] at hS'
    rw [run_throwIf_bind] at hS'
    by_cases hopened : booking.status ≠ .opened
    · rw [if_pos hopened] at hS'
      exact .inl hS'
    rw [if_neg hopened, run_read_bind] at hS'
    split at hS'
    · exact .inl hS'
    · refine .inr ⟨booking, rfl, not_not.mp hopened, ?_⟩
      rw [hS', run_read_bind, run_write_bind, incrementChargesTotal, run_write_bind]
      rw [hbooking]
      rfl

/-- **What a settlement does.** -/
theorem settleBooking_cases (dto : SettlePropertyBookingDto)
    (hcents : ∀ booking, S.bookings.find bookingId = some booking →
      booking.paidAmount.getD 0 ∈ cents ∧ booking.recognizedAmount ∈ cents) :
    let S' := ((settleBooking env bookingId dto).run S).2
    let settledAt := dto.settledAt.getD env.now
    (S' = S ∧ ∀ booking, S.bookings.find bookingId = some booking → booking.status ≠ .opened) ∨
      ∃ booking records, S.bookings.find bookingId = some booking ∧ booking.status = .opened ∧
      records = (normalizePaymentRows env (finalRows dto) booking.currency dto.checkoutId
        dto.idempotencyKey settledAt).1 ∧ WholeCents records ∧
      let saved := settledBooking booking dto records (received records) settledAt
      S' = (settlementEntries env bookingId saved (received records) (priorDeferred booking) records
          ((dto.depositRefund.map Decimal2.value).getD 0) ((dto.depositForfeit.map Decimal2.value).getD 0)
          settledAt).foldl (fun T input => T.posted env.now input) (S.saveBooking bookingId saved) := by
  intro S' settledAt
  have hS' : S' = ((settleBooking env bookingId dto).run S).2 := rfl
  unfold settleBooking at hS'
  rw [run_read_bind] at hS'
  cases hbooking : S.bookings.find bookingId with
  | none =>
    rw [hbooking] at hS'
    refine .inl ⟨hS', fun row hrow => ?_⟩
    cases hrow
  | some booking =>
    rw [hbooking] at hS'
    dsimp only at hS'
    split_ifs at hS' with hsettled
    · refine .inl ⟨hS', fun row hrow => ?_⟩
      cases hrow
      rw [hsettled]
      decide
    rw [run_throwIf_bind] at hS'
    split_ifs at hS' with hopened
    · refine .inl ⟨hS', fun row hrow => ?_⟩
      cases hrow
      exact hopened
    obtain ⟨hpaid, hrecognized⟩ := hcents booking hbooking
    have hprior : priorDeferred booking ∈ cents := max_zero_mem_cents (sub_mem hpaid hrecognized)
    have hspec := normalizePaymentRows_spec env (finalRows dto) booking.currency dto.checkoutId
      dto.idempotencyKey settledAt
    generalize hnormalized : normalizePaymentRows env (finalRows dto) booking.currency dto.checkoutId
      dto.idempotencyKey settledAt = normalized at hspec
    have hnormalized' : normalizePaymentRows env (finalRows dto) booking.currency dto.checkoutId
      dto.idempotencyKey (dto.settledAt.getD env.now) = normalized := hnormalized
    rw [hnormalized'] at hS'
    obtain ⟨records, total⟩ := normalized
    obtain ⟨hwhole, htotal, -⟩ := hspec
    dsimp only at hwhole htotal hS'
    subst htotal
    refine .inr ⟨booking, records, rfl, not_not.mp hopened, ?_, hwhole, ?_⟩
    · rw [hnormalized]
    · rw [hS', run_write_bind, postBookingSettlement, run_bind, run_bind, run_attempt,
        run_postEntries]
      · rfl
      · exact settlementEntries_accepted env bookingId _ hwhole hprior (le_max_left _ _) _ _ _

theorem voidBooking_cases (dto : VoidPropertyBookingDto) :
    let S' := ((voidBooking env bookingId dto).run S).2
    (S' = S ∧ ∀ booking, S.bookings.find bookingId = some booking → booking.status ≠ .opened) ∨
      ∃ booking, S.bookings.find bookingId = some booking ∧ booking.status = .opened ∧
      S' = S.saveBooking bookingId (voidedBooking env booking dto) := by
  intro S'
  have hS' : S' = ((voidBooking env bookingId dto).run S).2 := rfl
  unfold voidBooking at hS'
  rw [run_read_bind] at hS'
  cases hbooking : S.bookings.find bookingId with
  | none =>
    rw [hbooking] at hS'
    refine .inl ⟨hS', fun row hrow => ?_⟩
    cases hrow
  | some booking =>
    rw [hbooking] at hS'
    dsimp only at hS'
    split_ifs at hS' with hvoided
    · refine .inl ⟨hS', fun row hrow => ?_⟩
      cases hrow
      rw [hvoided]
      decide
    rw [run_throwIf_bind] at hS'
    split_ifs at hS' with hsettled
    · refine .inl ⟨hS', fun row hrow => ?_⟩
      cases hrow
      rw [hsettled]
      decide
    have hopened : booking.status = .opened := by
      cases hstatus : booking.status with
      | opened => rfl
      | settled => exact absurd hstatus hsettled
      | voided => exact absurd hstatus hvoided
    exact .inr ⟨booking, rfl, hopened, hS'⟩

theorem transferUnit_cases (dto : TransferPropertyUnitDto) :
    let S' := ((transferUnit bookingId dto).run S).2
    S' = S ∨ ∃ booking, S.bookings.find bookingId = some booking ∧ booking.status = .opened ∧
      S' = S.saveBooking bookingId { booking with
        transferredToProperty := some booking.propertyCode
        propertyCode := trim dto.newPropertyCode
        renterName := ((nonEmpty dto.newRenterName).map trim).or booking.renterName } := by
  intro S'
  have hS' : S' = ((transferUnit bookingId dto).run S).2 := rfl
  unfold transferUnit at hS'
  rw [run_read_bind] at hS'
  cases hbooking : S.bookings.find bookingId with
  | none =>
    rw [hbooking] at hS'
    exact .inl hS'
  | some booking =>
    rw [hbooking] at hS'
    rw [run_throwIf_bind] at hS'
    split_ifs at hS' with hopened
    · exact .inl hS'
    · exact .inr ⟨booking, rfl, not_not.mp hopened, hS'⟩

end Operations

end PropertyRentalBookings

/-! ### The daily accrual -/

namespace RevenueAccrual

section Accrual

variable (env : PropertyRentalRuntime) (faults : ℕ → Option AccrualFault) (asOf : Date)

theorem recognizeNow_mem (booking : PropertyRentalBooking) :
    (computeAccrualRecognition env.newDate booking asOf).recognizeNow ∈ cents := by
  unfold computeAccrualRecognition
  split_ifs
  · exact zero_mem cents
  · exact round2_mem _

/-- The tables after `recognizeBooking` of a row. -/
def recognized (S : PropertyRentalStore) (bookingId : ℕ) (booking : PropertyRentalBooking) : PropertyRentalStore :=
  let recognition := computeAccrualRecognition env.newDate booking asOf
  let posted := S.posted env.now (accrualEntry bookingId booking recognition asOf)
  if recognition.recognizeNow ≤ 0 then S
  else match faults bookingId with
    | some .post => S
    | some .save => posted
    | none => posted.saveBooking bookingId { booking with recognizedAmount := recognition.recognizable }

theorem run_recognizeBooking (bookingId : ℕ) (booking : PropertyRentalBooking)
    (S : PropertyRentalStore) : ((recognizeBooking env faults asOf bookingId booking).run S).2 =
      recognized env faults asOf S bookingId booking := by
  unfold recognizeBooking recognized
  dsimp only
  split_ifs with hnothing
  · rfl
  · have hmove := @accrual_move bookingId booking _ (recognizeNow_mem env asOf booking) (not_le.mp hnothing) asOf
    obtain ⟨entry, hrun⟩ := run_postEntry hmove.accepted env.now S
    rw [run_throwIf_bind]
    cases hfault : faults bookingId with
    | none =>
      rw [run_bind_of_ok hrun]
      rfl
    | some fault =>
      cases fault with
      | post => rw [if_pos rfl]
      | save => rw [if_neg (by decide), run_bind_of_ok hrun, run_throwIf_bind, if_pos rfl]

/-- The accrual of the booking with an id, if it is open. -/
def accrueOne (S : PropertyRentalStore) (bookingId : ℕ) : PropertyRentalStore :=
  match S.bookings.find bookingId with
  | some booking => if booking.status = .opened then recognized env faults asOf S bookingId booking else S
  | none => S

variable {S : PropertyRentalStore}

theorem accrueOne_of_find {bookingId : ℕ} {booking : PropertyRentalBooking}
    (hfind : S.bookings.find bookingId = some booking) (hopened : booking.status = .opened) :
    accrueOne env faults asOf S bookingId = recognized env faults asOf S bookingId booking := by
  unfold accrueOne
  rw [hfind]
  exact if_pos hopened

theorem accrueOne_cases (S : PropertyRentalStore) (bookingId : ℕ) :
    let S' := accrueOne env faults asOf S bookingId
    (S' = S ∧ ∀ booking, S.bookings.find bookingId = some booking → booking.status = .opened →
      (computeAccrualRecognition env.newDate booking asOf).recognizeNow ≤ 0 ∨ faults bookingId = some .post) ∨
    ∃ booking, S.bookings.find bookingId = some booking ∧ booking.status = .opened ∧
      let recognition := computeAccrualRecognition env.newDate booking asOf
      let posted := S.posted env.now (accrualEntry bookingId booking recognition asOf)
      0 < recognition.recognizeNow ∧
      (faults bookingId = some .save ∧ S' = posted ∨
        faults bookingId = none ∧ S' = posted.saveBooking bookingId
          { booking with recognizedAmount := recognition.recognizable }) := by
  intro S'
  cases hfind : S.bookings.find bookingId with
  | none =>
    refine .inl ⟨?_, fun booking hbooking => by cases hbooking⟩
    show accrueOne env faults asOf S bookingId = S
    unfold accrueOne
    rw [hfind]
  | some booking =>
    by_cases hopened : booking.status = .opened
    · have hS' : S' = recognized env faults asOf S bookingId booking :=
        accrueOne_of_find env faults asOf hfind hopened
      rw [hS']
      unfold recognized
      dsimp only
      split_ifs with hnothing
      · refine .inl ⟨rfl, ?_⟩
        rintro row ⟨⟩ -
        exact .inl hnothing
      · have hpos := not_le.mp hnothing
        cases hfault : faults bookingId with
        | none => exact .inr ⟨booking, rfl, hopened, hpos, .inr ⟨rfl, rfl⟩⟩
        | some fault =>
          cases fault with
          | post => exact .inl ⟨rfl, fun _ _ _ => .inr rfl⟩
          | save => exact .inr ⟨booking, rfl, hopened, hpos, .inl ⟨rfl, rfl⟩⟩
    · refine .inl ⟨?_, ?_⟩
      · show accrueOne env faults asOf S bookingId = S
        unfold accrueOne
        rw [hfind]
        exact if_neg hopened
      · rintro row ⟨⟩ hopen
        exact absurd hopen hopened

theorem bookings_accrueOne (S : PropertyRentalStore) (bookingId : ℕ) :
    (accrueOne env faults asOf S bookingId).bookings = S.bookings ∨
    ∃ booking, S.bookings.find bookingId = some booking ∧ booking.status = .opened ∧
      (accrueOne env faults asOf S bookingId).bookings = S.bookings.set bookingId { booking with
        recognizedAmount := (computeAccrualRecognition env.newDate booking asOf).recognizable } := by
  rcases accrueOne_cases env faults asOf S bookingId with
    ⟨hsame, -⟩ | ⟨booking, hfind, hopened, -, ⟨-, hposted⟩ | ⟨-, hsaved⟩⟩
  · rw [hsame]
    exact .inl rfl
  · rw [hposted]
    exact .inl rfl
  · rw [hsaved]
    exact .inr ⟨booking, hfind, hopened, rfl⟩

theorem find_accrueOne_of_ne (S : PropertyRentalStore) {bookingId other : ℕ} (hne : other ≠ bookingId) :
    (accrueOne env faults asOf S bookingId).bookings.find other = S.bookings.find other := by
  rcases bookings_accrueOne env faults asOf S bookingId with hsame | ⟨booking, -, -, hset⟩
  · rw [hsame]
  · rw [hset, SerialTable.find_set_of_ne _ _ hne]

/-! ### The open bookings -/

def isOpen (S : PropertyRentalStore) (bookingId : ℕ) : Bool :=
  (S.bookings.find bookingId).any fun booking => booking.status = .opened

def openIds (S : PropertyRentalStore) : List ℕ := (List.range S.bookings.next).filter (isOpen S)

theorem map_fst_openBookings (S : PropertyRentalStore) : (openBookings S).map Prod.fst = openIds S := by
  unfold openBookings openIds
  rw [List.map_filterMap, ← List.filterMap_eq_filter]
  apply List.filterMap_congr
  intro id _
  unfold isOpen
  cases hfind : S.bookings.find id with
  | none => simp [Option.guard, hfind]
  | some booking =>
    by_cases hopened : booking.status = .opened
    · simp [Option.filter, Option.guard, hfind, hopened]
    · simp [Option.filter, Option.guard, hfind, hopened]

theorem mem_openBookings {x : ℕ × PropertyRentalBooking}
    (h : x ∈ openBookings S) : S.bookings.find x.1 = some x.2 ∧ x.2.status = .opened := by
  obtain ⟨id, -, hx⟩ := List.mem_filterMap.mp h
  obtain ⟨booking, hbooking, rfl⟩ := Option.map_eq_some_iff.mp hx
  obtain ⟨hfind, hopened⟩ := Option.filter_eq_some_iff.mp hbooking
  exact ⟨hfind, of_decide_eq_true hopened⟩

theorem nodup_openIds (S : PropertyRentalStore) : (openIds S).Nodup :=
  List.nodup_range.filter _

theorem openIds_accrueOne (S : PropertyRentalStore) (bookingId : ℕ) :
    openIds (accrueOne env faults asOf S bookingId) = openIds S := by
  have hnext : (accrueOne env faults asOf S bookingId).bookings.next = S.bookings.next := by
    rcases bookings_accrueOne env faults asOf S bookingId with hsame | ⟨booking, -, -, hset⟩
    · rw [hsame]
    · rw [hset, SerialTable.next_set]
  have hopen : isOpen (accrueOne env faults asOf S bookingId) = isOpen S := by
    funext id
    unfold isOpen
    by_cases hid : id = bookingId
    · subst hid
      rcases bookings_accrueOne env faults asOf S id with hsame | ⟨booking, hfind, -, hset⟩
      · rw [hsame]
      · rw [hset, SerialTable.find_set_self hfind, hfind]
        rfl
    · rw [find_accrueOne_of_ne env faults asOf S hid]
  unfold openIds
  rw [hnext, hopen]

theorem openIds_after (S : PropertyRentalStore) (ids : List ℕ) :
    openIds (Run.after (accrueOne env faults asOf) S ids) = openIds S :=
  Run.after_invariant (P := fun T => openIds T = openIds S)
    (fun T id h => (openIds_accrueOne env faults asOf T id).trans h) rfl ids

/-! ### The loops -/

/-- A page of rows that are as they were loaded: its bookings are dealt with one after another. -/
theorem run_recognizeAll {page : List (ℕ × PropertyRentalBooking)} (hnodup : (page.map Prod.fst).Nodup)
    (hpage : ∀ x ∈ page, S.bookings.find x.1 = some x.2 ∧ x.2.status = .opened) (total : ℚ) :
    ∃ total', (recognizeAll env faults asOf page total).run S =
      (.ok total', Run.after (accrueOne env faults asOf) S (page.map Prod.fst)) := by
  induction page generalizing S total with
  | nil => exact ⟨total, rfl⟩
  | cons x page ih =>
    obtain ⟨id, booking⟩ := x
    obtain ⟨hfind, hopened⟩ := hpage (id, booking) List.mem_cons_self
    have hrun := run_recognizeBooking env faults asOf id booking S
    rw [List.map_cons, List.nodup_cons] at hnodup
    rw [List.map_cons, Run.after_cons, accrueOne_of_find env faults asOf hfind hopened]
    -- the rows of the other bookings of the page are still as they were loaded
    have hrest : ∀ y ∈ page, (recognized env faults asOf S id booking).bookings.find y.1 = some y.2 ∧
        y.2.status = .opened := by
      intro y hy
      have hmem : y.1 ∈ page.map Prod.fst := List.mem_map_of_mem hy
      have hne : y.1 ≠ id := by
        rintro rfl
        exact hnodup.1 hmem
      rw [← accrueOne_of_find env faults asOf hfind hopened, find_accrueOne_of_ne env faults asOf S hne]
      exact hpage y (List.mem_cons_of_mem _ hy)
    unfold recognizeAll
    rw [run_bind, run_attempt, hrun]
    -- a booking that failed is left as it stands, and the loop goes on
    rcases ((recognizeBooking env faults asOf id booking).run S).1 with e | amount
    · exact ih hnodup.2 hrest total
    · exact ih hnodup.2 hrest (total + amount)

theorem run_accrualPages (pages skip : ℕ) (total : ℚ) (S : PropertyRentalStore) :
    ∃ total', (accrualPages env faults asOf pages skip total).run S =
      (.ok total', Run.after (accrueOne env faults asOf) S (((openIds S).drop skip).take (batch * pages))) := by
  induction pages generalizing skip total S with
  | zero => exact ⟨total, by rw [Nat.mul_zero]; rfl⟩
  | succ pages ih =>
    have hpage : (((openBookings S).drop skip).take batch).map Prod.fst = ((openIds S).drop skip).take batch := by
      rw [List.map_take, List.map_drop, map_fst_openBookings]
    have hsplit : ((openIds S).drop skip).take (batch * (pages + 1)) =
        ((openIds S).drop skip).take batch ++ ((openIds S).drop (skip + batch)).take (batch * pages) := by
      rw [Nat.mul_succ, Nat.add_comm, List.take_add, List.drop_drop]
    unfold accrualPages
    rw [run_read_bind]
    by_cases hempty : ((openBookings S).drop skip).take batch = []
    · -- nothing is open from the cursor on
      rw [if_pos hempty]
      have hnil : (openIds S).drop skip = [] := by
        rw [hempty] at hpage
        rcases List.take_eq_nil_iff.mp hpage.symm with hbatch | hnil
        · exact absurd hbatch (by decide)
        · exact hnil
      rw [hnil]
      exact ⟨total, rfl⟩
    · rw [if_neg hempty]
      have hnodup : ((((openBookings S).drop skip).take batch).map Prod.fst).Nodup := by
        rw [hpage]
        exact (nodup_openIds S).sublist ((List.take_sublist _ _).trans (List.drop_sublist _ _))
      have hloaded : ∀ x ∈ ((openBookings S).drop skip).take batch,
          S.bookings.find x.1 = some x.2 ∧ x.2.status = .opened := by
        intro x hx
        exact mem_openBookings (List.mem_of_mem_drop (List.mem_of_mem_take hx))
      obtain ⟨total₁, hrun⟩ := run_recognizeAll env faults asOf hnodup hloaded total
      rw [hpage] at hrun
      rw [run_bind_of_ok hrun]
      by_cases hlast : (((openBookings S).drop skip).take batch).length < batch
      · -- the last page is not full
        rw [if_pos hlast]
        have hlength : (((openIds S).drop skip).take batch).length < batch := by
          rwa [← hpage, List.length_map]
        have hall : ((openIds S).drop skip).length < batch := by
          rw [List.length_take] at hlength
          omega
        have htake : ((openIds S).drop skip).take (batch * (pages + 1)) = ((openIds S).drop skip).take batch := by
          rw [List.take_of_length_le hall.le, List.take_of_length_le]
          exact hall.le.trans (Nat.le_mul_of_pos_right _ (Nat.succ_pos pages))
        rw [htake]
        exact ⟨total₁, rfl⟩
      · obtain ⟨total₂, hnext⟩ := ih (skip + batch) total₁
          (Run.after (accrueOne env faults asOf) S (((openIds S).drop skip).take batch))
        rw [openIds_after] at hnext
        refine ⟨total₂, ?_⟩
        rw [if_neg hlast, hnext, hsplit]
        unfold Run.after
        rw [List.foldl_append]

/-- **The daily accrual** deals with the open bookings one after another, up to the number of its pages. -/
theorem run_runDailyAccrual (pages : ℕ) (S : PropertyRentalStore) :
    ((runDailyAccrual env faults asOf pages).run S).2 =
      Run.after (accrueOne env faults asOf) S ((openIds S).take (batch * pages)) := by
  obtain ⟨total, hrun⟩ := run_accrualPages env faults asOf pages 0 0 S
  unfold runDailyAccrual
  rw [run_bind_of_ok hrun]
  rfl

end Accrual

end RevenueAccrual

end SuuqBackend
