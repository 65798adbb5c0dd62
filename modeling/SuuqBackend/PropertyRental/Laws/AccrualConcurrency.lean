import SuuqBackend.Lib.Interleave
import SuuqBackend.PropertyRental.Laws.RentalRuns

/-!
# The daily accrual beside payments and settlements

Each of these calls loads rows once, changes them in memory and saves them whole.  A row that another call has
saved in between is overwritten: the payments that it had got are lost, and a settled booking is open again.

* `RentalHandler.saves_of_target`: what a payment or a settlement does after its load.
* `unclobbered_of_fresh`: in every schedule in which a row is only saved while it is as the call has loaded it, no
  payment is lost, and no closed booking is opened again.
* `settled_booking_reopened`: an accrual that saves the row of a booking that was settled after its load.
-/

namespace SuuqBackend

open Proc GeneralLedger PropertyRentalBookings RevenueAccrual PropertyRentalStore SerialTable PosSync

/-! ### What is posted -/

def SameBookings (S S' : PropertyRentalStore) : Prop := S'.bookings = S.bookings

theorem acts_postEntry (now : Date) (input : PostJournalEntryInput) : (postEntry now input).Acts SameBookings :=
  acts_zoom (fun _ _ => rfl) _

variable (env : PropertyRentalRuntime) (bookingId : ℕ) (booking : PropertyRentalBooking)

theorem acts_postRentDeferral (total : ℚ) (records : List PropertyBookingPaymentRecord)
    (key : String) (occurredAt : Date) :
    (postRentDeferral env bookingId booking total records key occurredAt).Acts SameBookings := by
  unfold postRentDeferral postLogged
  split_ifs
  · trivial
  · exact (acts_postEntry _ _).attempt.bind fun _ => trivial

theorem acts_postBookingSettlement (finalPaid prior : ℚ) (records : List PropertyBookingPaymentRecord)
    (refund forfeit : ℚ) (settledAt : Date) :
    (postBookingSettlement env bookingId booking finalPaid prior records refund forfeit settledAt).Acts
      SameBookings := by
  have hloop : (Proc.forEach (settlementEntries env bookingId booking finalPaid prior records refund forfeit
      settledAt) fun input => do let _ ← postEntry env.now input).Acts SameBookings :=
    acts_forEach fun input _ => (acts_postEntry _ _).bind fun _ => trivial
  exact hloop.attempt.bind fun _ => trivial

/-! ### The calls -/

inductive RentalHandler where
  /-- One batch of the daily accrual. -/
  | runDailyAccrual (env : PropertyRentalRuntime) (asOf : Date)
  | recordPayment (env : PropertyRentalRuntime) (bookingId : ℕ) (dto : RecordPropertyPaymentDto)
  | settleBooking (env : PropertyRentalRuntime) (bookingId : ℕ) (dto : SettlePropertyBookingDto)

namespace RentalHandler

def proc : RentalHandler → PropertyRentalProc Unit
  | runDailyAccrual env asOf => do let _ ← RevenueAccrual.runDailyAccrual env noFaults asOf 1
  | recordPayment env bookingId dto => do let _ ← PropertyRentalBookings.recordPayment env bookingId dto
  | settleBooking env bookingId dto => do let _ ← PropertyRentalBookings.settleBooking env bookingId dto

/-- What is left of the call after it has loaded the rows `S₀`. -/
def rest (h : RentalHandler) (S₀ : PropertyRentalStore) : PropertyRentalProc Unit := h.proc.resume [S₀]

theorem proc_eq (h : RentalHandler) : h.proc = .step id h.rest := by
  cases h <;> exact congrArg (Proc.step id) (funext fun S₀ => (resume_nil _).symm)

/-- The records that a payment or a settlement adds to a booking, by the rows that it has loaded. -/
def records (S₀ : PropertyRentalStore) (id : ℕ) : RentalHandler → List PropertyBookingPaymentRecord
  | runDailyAccrual .. => []
  | recordPayment env bookingId dto =>
    match (S₀.bookings.find id).filter fun booking => id = bookingId ∧ booking.status = .opened with
    | none => []
    | some booking =>
      let key := trimmed dto.idempotencyKey
      let records := (normalizePaymentRows env (paymentRows dto) booking.currency dto.checkoutId key
        (dto.paidAt.getD env.now)).1
      if key ≠ none ∧ ∃ p ∈ booking.payments.getD [], p.idempotencyKey = key then [] else records
  | settleBooking env bookingId dto =>
    match (S₀.bookings.find id).filter fun booking => id = bookingId ∧ booking.status = .opened with
    | none => []
    | some booking => (normalizePaymentRows env (finalRows dto) booking.currency dto.checkoutId
        dto.idempotencyKey (dto.settledAt.getD env.now)).1

/-- The records that the call has added so far: the save is its second action. -/
def recorded (h : RentalHandler) (id : ℕ) : List PropertyRentalStore → List PropertyBookingPaymentRecord
  | S₀ :: _ :: _ => h.records S₀ id
  | _ => []

def target : RentalHandler → Option ℕ
  | runDailyAccrual .. => none
  | recordPayment _ bookingId _ => some bookingId
  | settleBooking _ bookingId _ => some bookingId

theorem records_eq_nil {h : RentalHandler} {id : ℕ} (hne : id ∉ h.target) (S₀ : PropertyRentalStore) :
    h.records S₀ id = [] := by
  have hrow : ∀ bookingId, h.target = some bookingId →
      (S₀.bookings.find id).filter (fun booking => id = bookingId ∧ booking.status = .opened) = none := by
    intro bookingId htarget
    have hid : id ≠ bookingId := by
      rintro rfl
      exact hne htarget
    cases S₀.bookings.find id with
    | none => rfl
    | some booking => exact Option.filter_some.trans (if_neg (by simp [hid]))
  unfold records
  cases h with
  | runDailyAccrual env asOf => rfl
  | recordPayment env bookingId dto =>
    dsimp only
    rw [hrow bookingId rfl]
  | settleBooking env bookingId dto =>
    dsimp only
    rw [hrow bookingId rfl]

end RentalHandler

structure AddsRecords (booking booking' : PropertyRentalBooking)
    (records : List PropertyBookingPaymentRecord) : Prop where
  payments_eq : booking'.payments.getD [] = booking.payments.getD [] ++ records
  paid_mem : booking.paidAmount.getD 0 ∈ cents → booking'.paidAmount.getD 0 ∈ cents
  paid_le : booking.paidAmount.getD 0 ∈ cents →
    booking.paidAmount.getD 0 + received records ≤ booking'.paidAmount.getD 0

/-- The rest of a call that has loaded an open booking: it saves this row, and posts. -/
def Saves (p : PropertyRentalProc Unit) (bookingId : ℕ) (booking : PropertyRentalBooking) : Prop :=
  ∃ next, p = .step (fun s => s.saveBooking bookingId booking) next ∧ ∀ s, (next s).Acts SameBookings

namespace RentalHandler

/-- The call ends with its load: it is refused, or there is nothing to record. -/
def Ends (h : RentalHandler) (S₀ : PropertyRentalStore) (bookingId : ℕ) : Prop :=
  (∃ e, h.rest S₀ = .fail e) ∨ h.rest S₀ = .done () ∧ h.records S₀ bookingId = []

/-- A call that does not end adds its records to the row that it has loaded open. -/
def EndsOrAdds (h : RentalHandler) (S₀ : PropertyRentalStore) (bookingId : ℕ) : Prop :=
  h.Ends S₀ bookingId ∨
    ∃ booking booking', S₀.bookings.find bookingId = some booking ∧ booking.status = .opened ∧
      AddsRecords booking booking' (h.records S₀ bookingId) ∧ Saves (h.rest S₀) bookingId booking'

theorem saves_recordPayment (env : PropertyRentalRuntime) (bookingId : ℕ) (dto : RecordPropertyPaymentDto)
    (S₀ : PropertyRentalStore) :
    (recordPayment env bookingId dto).EndsOrAdds S₀ bookingId := by
  set h := recordPayment env bookingId dto
  have hrest : h.rest S₀ = _ := resume_nil _
  simp only [Proc.bind] at hrest
  cases hfind : S₀.bookings.find bookingId with
  | none =>
    rw [hfind] at hrest
    exact .inl (.inl ⟨_, hrest⟩)
  | some booking =>
    rw [hfind] at hrest
    dsimp only at hrest
    unfold throwIf at hrest
    by_cases hopened : booking.status ≠ .opened
    · rw [if_pos hopened] at hrest
      exact .inl (.inl ⟨_, hrest⟩)
    rw [if_neg hopened] at hrest
    by_cases hretry : trimmed dto.idempotencyKey ≠ none ∧
        ∃ p ∈ booking.payments.getD [], p.idempotencyKey = trimmed dto.idempotencyKey
    · rw [if_pos hretry] at hrest
      refine .inl (.inr ⟨hrest, ?_⟩)
      unfold records
      dsimp only [h]
      rw [hfind, Option.filter_some, if_pos (by simpa using hopened)]
      exact if_pos hretry
    rw [if_neg hretry] at hrest
    have hrecords : h.records S₀ bookingId = (normalizePaymentRows env (paymentRows dto) booking.currency
        dto.checkoutId (trimmed dto.idempotencyKey) (dto.paidAt.getD env.now)).1 := by
      unfold records
      dsimp only [h]
      rw [hfind, Option.filter_some, if_pos (by simpa using hopened)]
      exact if_neg hretry
    have hspec := normalizePaymentRows_spec env (paymentRows dto) booking.currency dto.checkoutId
      (trimmed dto.idempotencyKey) (dto.paidAt.getD env.now)
    rw [EndsOrAdds, hrecords]
    generalize normalizePaymentRows env (paymentRows dto) booking.currency dto.checkoutId
      (trimmed dto.idempotencyKey) (dto.paidAt.getD env.now) = normalized at hrest hspec ⊢
    obtain ⟨new, total⟩ := normalized
    obtain ⟨hwhole, htotal, -⟩ := hspec
    dsimp only at hwhole htotal hrest ⊢
    subst htotal
    by_cases hzero : received new ≤ 0
    · rw [if_pos hzero] at hrest
      exact .inl (.inl ⟨_, hrest⟩)
    rw [if_neg hzero] at hrest
    refine .inr ⟨booking, paidBooking booking new (received new), hfind, not_not.mp hopened,
      ⟨rfl, fun _ => round2_mem _, fun hpaid => ?_⟩, _, hrest, fun s => ?_⟩
    · show _ ≤ round2 (booking.paidAmount.getD 0 + received new)
      rw [round2_of_mem (add_mem hpaid (received_mem hwhole))]
    · have hposts := acts_postRentDeferral env bookingId (paidBooking booking new (received new))
        (received new) new (paymentKey bookingId (trimmed dto.idempotencyKey)
          (booking.payments.getD []).length) (dto.paidAt.getD env.now)
      exact (hposts.bind fun _ => acts_pure _).bind fun _ => acts_pure ()

theorem saves_settleBooking (env : PropertyRentalRuntime) (bookingId : ℕ) (dto : SettlePropertyBookingDto)
    (S₀ : PropertyRentalStore) :
    (settleBooking env bookingId dto).EndsOrAdds S₀ bookingId := by
  set h := settleBooking env bookingId dto
  have hrest : h.rest S₀ = _ := resume_nil _
  simp only [Proc.bind] at hrest
  cases hfind : S₀.bookings.find bookingId with
  | none =>
    rw [hfind] at hrest
    exact .inl (.inl ⟨_, hrest⟩)
  | some booking =>
    rw [hfind] at hrest
    dsimp only at hrest
    unfold throwIf at hrest
    by_cases hsettled : booking.status = .settled
    · rw [if_pos hsettled] at hrest
      refine .inl (.inr ⟨hrest, ?_⟩)
      unfold records
      dsimp only [h]
      rw [hfind, Option.filter_some, if_neg (by simp [hsettled])]
    by_cases hopened : booking.status ≠ .opened
    · rw [if_neg hsettled, if_pos hopened] at hrest
      exact .inl (.inl ⟨_, hrest⟩)
    rw [if_neg hsettled, if_neg hopened] at hrest
    have hrecords : h.records S₀ bookingId = (normalizePaymentRows env (finalRows dto) booking.currency
        dto.checkoutId dto.idempotencyKey (dto.settledAt.getD env.now)).1 := by
      unfold records
      dsimp only [h]
      rw [hfind, Option.filter_some, if_pos (by simpa using hopened)]
    have hspec := normalizePaymentRows_spec env (finalRows dto) booking.currency dto.checkoutId
      dto.idempotencyKey (dto.settledAt.getD env.now)
    rw [EndsOrAdds, hrecords]
    generalize normalizePaymentRows env (finalRows dto) booking.currency dto.checkoutId
      dto.idempotencyKey (dto.settledAt.getD env.now) = normalized at hrest hspec ⊢
    obtain ⟨new, total⟩ := normalized
    obtain ⟨hwhole, htotal, -⟩ := hspec
    dsimp only at hwhole htotal hrest ⊢
    subst htotal
    refine .inr ⟨booking, settledBooking booking dto new (received new) (dto.settledAt.getD env.now), hfind,
      not_not.mp hopened, ⟨payments_settledBooking .., fun hpaid => ?_, fun hpaid => ?_⟩, _, hrest,
      fun s => ?_⟩
    · exact (paidAmount_settledBooking hpaid hwhole).1
    · exact (paidAmount_settledBooking hpaid hwhole).2
    · have hposts := acts_postBookingSettlement env bookingId
        (settledBooking booking dto new (received new) (dto.settledAt.getD env.now)) (received new)
        (priorDeferred booking) new ((dto.depositRefund.map Decimal2.value).getD 0)
        ((dto.depositForfeit.map Decimal2.value).getD 0) (dto.settledAt.getD env.now)
      exact (hposts.bind fun _ => acts_pure _).bind fun _ => acts_pure ()

theorem saves_of_target {h : RentalHandler} {bookingId : ℕ} (htarget : h.target = some bookingId)
    (S₀ : PropertyRentalStore) : h.EndsOrAdds S₀ bookingId := by
  cases h with
  | runDailyAccrual env asOf => cases htarget
  | recordPayment env id dto =>
    cases htarget
    exact saves_recordPayment env bookingId dto S₀
  | settleBooking env id dto =>
    cases htarget
    exact saves_settleBooking env bookingId dto S₀

theorem resume_proc (h : RentalHandler) (S₀ : PropertyRentalStore) (seen : List PropertyRentalStore) :
    h.proc.resume (S₀ :: seen) = (h.rest S₀).resume seen := by
  rw [proc_eq]
  rfl

end RentalHandler

/-! ### The accrual -/

/-- The step leaves the rows, or saves one that was loaded, open, with another recognized amount. -/
def AccrualWrites (S₀ S S' : PropertyRentalStore) : Prop :=
  SameBookings S S' ∨ ∃ id booking amount, S₀.bookings.find id = some booking ∧ booking.status = .opened ∧
    S'.bookings = S.bookings.set id { booking with recognizedAmount := amount }

theorem acts_recognizeAll (env : PropertyRentalRuntime) (faults : ℕ → Option AccrualFault) (asOf : Date)
    {S₀ : PropertyRentalStore} {page : List (ℕ × PropertyRentalBooking)}
    (hpage : ∀ x ∈ page, S₀.bookings.find x.1 = some x.2 ∧ x.2.status = .opened) (total : ℚ) :
    (recognizeAll env faults asOf page total).Acts (AccrualWrites S₀) := by
  induction page generalizing total with
  | nil => trivial
  | cons x page ih =>
    obtain ⟨id, booking⟩ := x
    obtain ⟨hfind, hopened⟩ := hpage (id, booking) List.mem_cons_self
    have hrest := fun total => ih (fun y hy => hpage y (List.mem_cons_of_mem _ hy)) total
    have hposts : ∀ now input, (postEntry now input).Acts (AccrualWrites S₀) :=
      fun now input => (acts_postEntry now input).mono fun _ _ => .inl
    have hone : (recognizeBooking env faults asOf id booking).Acts (AccrualWrites S₀) := by
      unfold recognizeBooking
      dsimp only
      split_ifs
      · trivial
      · refine (acts_throwIf _ _).bind fun _ => (hposts _ _).bind fun _ => (acts_throwIf _ _).bind fun _ => ?_
        refine Acts.bind (acts_write fun s => ?_) fun _ => acts_pure _
        exact .inr ⟨id, booking, _, hfind, hopened, rfl⟩
    refine hone.attempt.bind fun outcome => ?_
    cases outcome with
    | ok amount => exact hrest _
    | error e => exact hrest _

/-- **The accrual** saves rows that it has loaded open, and posts. -/
theorem acts_runDailyAccrual (env : PropertyRentalRuntime) (asOf : Date) (S₀ : PropertyRentalStore) :
    ((RentalHandler.runDailyAccrual env asOf).rest S₀).Acts (AccrualWrites S₀) := by
  have hrest : (RentalHandler.runDailyAccrual env asOf).rest S₀ = _ := resume_nil _
  simp only [Proc.bind] at hrest
  have hloaded : ∀ x ∈ ((openBookings S₀).drop 0).take batch,
      S₀.bookings.find x.1 = some x.2 ∧ x.2.status = .opened := by
    intro x hx
    exact mem_openBookings (List.mem_of_mem_drop (List.mem_of_mem_take hx))
  rw [hrest]
  refine Acts.bind (Acts.bind ?_ fun _ => acts_pure _) fun _ => acts_pure ()
  split_ifs
  · trivial
  · exact (acts_recognizeAll env noFaults asOf hloaded 0).bind fun _ => acts_pure _
  · exact (acts_recognizeAll env noFaults asOf hloaded 0).bind fun _ => acts_pure _

theorem acts_of_no_target {h : RentalHandler} (htarget : h.target = none) (S₀ : PropertyRentalStore) :
    (h.rest S₀).Acts (AccrualWrites S₀) := by
  cases h with
  | runDailyAccrual env asOf => exact acts_runDailyAccrual env asOf S₀
  | _ => cases htarget

/-! ### Calls beside each other -/

section Schedules

variable {ι : Type} [DecidableEq ι] (handlers : ι → RentalHandler)

def procs (i : ι) : PropertyRentalProc Unit := (handlers i).proc

/-- The status of a booking, its payments and its paid amount. -/
def holdings (booking : PropertyRentalBooking) : PropertyRentalBookingStatus × List PropertyBookingPaymentRecord × ℚ :=
  (booking.status, booking.payments.getD [], booking.paidAmount.getD 0)

def SameHoldings (S₀ S : PropertyRentalStore) (id : ℕ) : Prop :=
  (S₀.bookings.find id).map holdings = (S.bookings.find id).map holdings
deriving Decidable

/-- **A row is only saved while it is as the call has loaded it**, up to columns that no payment changes: a payment
or a settlement saves the row of its booking in its second action, an accrual saves the rows that it changes. -/
def ReadsFresh (P : Pool ι PropertyRentalStore) (i : ι) : Prop :=
  match (handlers i).target, P.seen i with
  | some bookingId, [S₀] =>
    P.Succeeded (procs handlers) i ∨ P.Failed (procs handlers) i ∨ SameHoldings S₀ P.store bookingId
  | none, S₀ :: _ => ∀ id < P.store.bookings.next,
    (P.step (procs handlers) i).store.bookings.find id = P.store.bookings.find id ∨ SameHoldings S₀ P.store id
  | _, _ => True

instance (P : Pool ι PropertyRentalStore) (i : ι) : Decidable (ReadsFresh handlers P i) := by
  unfold ReadsFresh
  split <;> infer_instance

variable {handlers}

variable {P : Pool ι PropertyRentalStore} {i : ι}

variable {act : PropertyRentalStore → PropertyRentalStore}
  {next : PropertyRentalStore → PropertyRentalProc Unit}

/-- **What a step does**: it loads, it posts, or it saves a row with the records added to the row that was
loaded. -/
theorem pool_step_cases (hleft : P.left (procs handlers) i = .step act next) :
    let S := P.store
    let S' := act P.store
    let h := handlers i
    (SameBookings S S' ∧ ∀ id, h.recorded id (P.seen i ++ [S]) = h.recorded id (P.seen i)) ∨
    ∃ S₀ seen, P.seen i = S₀ :: seen ∧ ∃ bookingId booking booking' records,
      S₀.bookings.find bookingId = some booking ∧ booking.status = .opened ∧
      AddsRecords booking booking' records ∧ S'.bookings = S.bookings.set bookingId booking' ∧
      (∀ id, h.recorded id (P.seen i ++ [S]) = h.recorded id (P.seen i) ++ if id = bookingId then records else []) ∧
      (ReadsFresh handlers P i → SameHoldings S₀ S bookingId ∨
        S'.bookings.find bookingId = S.bookings.find bookingId ∧ records = []) := by
  intro S S' h
  have hleft' : h.proc.resume (P.seen i) = .step act next := hleft
  rcases hseen : P.seen i with _ | ⟨S₀, seen⟩
  · -- the load
    rw [hseen, h.proc_eq] at hleft'
    cases hleft'
    exact .inl ⟨rfl, fun id => rfl⟩
  rw [hseen, h.resume_proc] at hleft'
  cases htarget : h.target with
  | none =>
    have hnone : ∀ id seen, h.recorded id seen = [] := by
      intro id seen
      have hother : id ∉ h.target := by
        rw [htarget]
        nofun
      have hrecords := RentalHandler.records_eq_nil hother
      match seen with
      | [] => rfl
      | [_] => rfl
      | S₀ :: _ :: _ => exact hrecords S₀
    have hwrites : AccrualWrites S₀ S S' := by
      have hresume := (acts_of_no_target htarget S₀).resume seen
      rw [hleft'] at hresume
      exact (hresume S).1
    rcases hwrites with hsame | ⟨bookingId, booking, amount, hfind, hopened, hset⟩
    · exact .inl ⟨hsame, fun id => by rw [hnone, hnone]⟩
    · refine .inr ⟨S₀, seen, rfl, bookingId, booking, { booking with recognizedAmount := amount }, [],
        hfind, hopened, ⟨(List.append_nil _).symm, id, fun _ => (add_zero _).le⟩, hset, fun id => ?_, fun hfresh => ?_⟩
      · rw [hnone, hnone, ite_self, List.append_nil]
      · by_cases hid : bookingId < S.bookings.next
        · have hstep : (P.step (procs handlers) i).store = S' := by
            unfold Pool.step
            rw [hleft]
          unfold ReadsFresh at hfresh
          rw [htarget, hseen] at hfresh
          rw [← hstep]
          exact (hfresh bookingId hid).symm.imp_right fun hsame => ⟨hsame, rfl⟩
        · have hnone : S.bookings.find bookingId = none := by
            rw [Option.eq_none_iff_forall_ne_some]
            exact fun row hrow => hid (lt_next_of_find hrow)
          refine .inr ⟨?_, rfl⟩
          rw [hset, find_set_of_eq_none hnone, hnone]
  | some bookingId =>
    rcases h.saves_of_target htarget S₀ with
      (⟨e, hfail⟩ | ⟨hdone, -⟩) | ⟨booking, booking', hfind, hopened, hadds, next', hsaves, hposts⟩
    · rw [hfail] at hleft'
      cases hleft'
    · rw [hdone] at hleft'
      cases hleft'
    rw [hsaves] at hleft'
    cases seen with
    | nil =>
      -- the save
      cases hleft'
      refine .inr ⟨S₀, [], rfl, bookingId, booking, booking', h.records S₀ bookingId, hfind, hopened, hadds,
        rfl, fun id => ?_, fun hfresh => ?_⟩
      · show h.records S₀ id = [] ++ _
        rw [List.nil_append]
        split_ifs with hid
        · rw [hid]
        · refine RentalHandler.records_eq_nil ?_ S₀
          rw [htarget]
          rintro ⟨⟩
          exact hid rfl
      · unfold ReadsFresh Pool.Succeeded Pool.Failed at hfresh
        rw [htarget, hseen, hleft] at hfresh
        exact .inl ((hfresh.resolve_left nofun).resolve_left nofun)
    | cons S₁ seen =>
      have hresume := (hposts S₁).resume seen
      rw [resume_step_cons] at hleft'
      rw [hleft'] at hresume
      exact .inl ⟨(hresume S).1, fun id => rfl⟩

omit [DecidableEq ι] in
theorem recorded_of_succeeded (h : P.Succeeded (procs handlers) i) : ∃ S₀ seen, P.seen i = S₀ :: seen ∧
      ∀ id, (handlers i).recorded id (P.seen i) = (handlers i).records S₀ id := by
  have hdone : ((handlers i).proc.resume (P.seen i)).isDone = true := h
  rcases hseen : P.seen i with _ | ⟨S₀, _ | ⟨S₁, seen⟩⟩
  · rw [hseen, (handlers i).proc_eq] at hdone
    cases hdone
  · refine ⟨S₀, [], rfl, fun id => ?_⟩
    rw [hseen, (handlers i).resume_proc] at hdone
    by_cases hid : id ∈ (handlers i).target
    · rcases (handlers i).saves_of_target hid S₀ with
        (⟨e, hfail⟩ | ⟨-, hnil⟩) | ⟨booking, booking', -, -, -, next', hsaves, -⟩
      · rw [hfail] at hdone
        cases hdone
      · exact hnil.symm
      · rw [hsaves] at hdone
        cases hdone
    · exact (RentalHandler.records_eq_nil hid S₀).symm
  · exact ⟨S₀, S₁ :: seen, rfl, fun id => rfl⟩

/-- **One action** of a call that saves what is fresh: a row stays, or the records are added to it while it is
open. -/
theorem step_row (hleft : P.left (procs handlers) i = .step act next) (hfresh : ReadsFresh handlers P i) (id : ℕ) :
    ∃ new, (handlers i).recorded id (P.seen i ++ [P.store]) = (handlers i).recorded id (P.seen i) ++ new ∧
      ((act P.store).bookings.find id = P.store.bookings.find id ∧ new = [] ∨
        ∃ row row', P.store.bookings.find id = some row ∧ row.status = .opened ∧
          (act P.store).bookings.find id = some row' ∧ AddsRecords row row' new) := by
  rcases pool_step_cases hleft with ⟨hsame, hrecorded⟩ |
    ⟨S₀, seen, hseen, bookingId, booking, booking', new, hfind, hopened, hadds, hset, hrecorded, hcurrent⟩
  · refine ⟨[], ?_, .inl ⟨?_, rfl⟩⟩
    · rw [hrecorded, List.append_nil]
    · rw [show (act P.store).bookings = P.store.bookings from hsame]
  · by_cases hid : id = bookingId
    · subst hid
      have hadded := hrecorded id
      rw [if_pos rfl] at hadded
      refine ⟨new, hadded, ?_⟩
      rcases hcurrent hfresh with hholdings | hsame
      · right
        unfold SameHoldings at hholdings
        rw [hfind] at hholdings
        obtain ⟨row, hrow, hsame⟩ := Option.map_eq_some_iff.mp hholdings.symm
        obtain ⟨hstatus, hpayments, hpaid⟩ : row.status = booking.status ∧
            row.payments.getD [] = booking.payments.getD [] ∧ row.paidAmount.getD 0 = booking.paidAmount.getD 0 := by
          unfold holdings at hsame
          simpa only [Prod.mk.injEq] using hsame
        refine ⟨row, booking', hrow, hstatus.trans hopened, ?_, ?_, ?_, ?_⟩
        · rw [hset]
          exact find_set_self hrow _
        · rw [hpayments]
          exact hadds.payments_eq
        · rw [hpaid]
          exact hadds.paid_mem
        · rw [hpaid]
          exact hadds.paid_le
      · exact .inl hsame
    · have hadded := hrecorded id
      rw [if_neg hid] at hadded
      refine ⟨[], hadded, .inl ⟨?_, rfl⟩⟩
      rw [hset]
      exact find_set_of_ne _ _ hid

theorem received_nil : received [] = 0 := rfl

variable [Fintype ι]

/-- The payments of each booking are those of the beginning and what the calls have recorded, and its paid amount
covers them. -/
def PaymentsKept (handlers : ι → RentalHandler) (S : PropertyRentalStore) (P : Pool ι PropertyRentalStore) : Prop :=
  ∀ id row₀, S.bookings.find id = some row₀ → ∃ row, P.store.bookings.find id = some row ∧
    (row.payments.getD [] : Multiset PropertyBookingPaymentRecord) =
      (row₀.payments.getD [] : Multiset PropertyBookingPaymentRecord) +
        ∑ i, ((handlers i).recorded id (P.seen i) : Multiset PropertyBookingPaymentRecord) ∧
    row₀.paidAmount.getD 0 + ∑ i, received ((handlers i).recorded id (P.seen i)) ≤ row.paidAmount.getD 0

def StaysClosed (S S' : PropertyRentalStore) : Prop :=
  ∀ id row, S.bookings.find id = some row → row.status ≠ .opened →
    ∃ row', S'.bookings.find id = some row' ∧ row'.status ≠ .opened

def WholeCentRows (S : PropertyRentalStore) : Prop :=
  ∀ id booking, S.bookings.find id = some booking → booking.paidAmount.getD 0 ∈ cents

/-- **One action** keeps the payments, and closed bookings closed, when what it saves is fresh. -/
theorem kept_step {S : PropertyRentalStore}
    (hkept : PaymentsKept handlers S P) (hcents : WholeCentRows P.store) (hfresh : ReadsFresh handlers P i) :
    let P' := P.step (procs handlers) i
    (PaymentsKept handlers S P' ∧ WholeCentRows P'.store) ∧ StaysClosed P.store P'.store := by
  intro P'
  rcases P.step_cases (procs handlers) i with ⟨act, next, hleft, hstep⟩ | hstep
  · have hP' : P' = ⟨act P.store, Function.update P.seen i (P.seen i ++ [P.store])⟩ := hstep
    rw [hP']
    refine ⟨⟨fun id row₀ hrow₀ => ?_, fun id row' hrow' => ?_⟩, fun id row hrow hclosed => ?_⟩
    · obtain ⟨row, hrow, hpayments, hpaid⟩ := hkept id row₀ hrow₀
      obtain ⟨new, hadded, hcases⟩ := step_row hleft hfresh id
      have hledger := Pool.sum_seen_update
        (fun j seen => ((handlers j).recorded id seen : Multiset PropertyBookingPaymentRecord)) P.seen
        (show _ = _ + (new : Multiset PropertyBookingPaymentRecord) from by
          rw [hadded, Multiset.coe_add])
      have hamount := Pool.sum_seen_update (fun j seen => received ((handlers j).recorded id seen)) P.seen
        (show _ = _ + received new from by rw [hadded, received_append])
      rw [hledger, hamount, ← add_assoc, ← add_assoc, ← hpayments]
      rcases hcases with ⟨hsame, rfl⟩ | ⟨row₁, row', hrow₁, -, hrow', hadds⟩
      · refine ⟨row, hsame.trans hrow, ?_, ?_⟩
        · rw [Multiset.coe_nil, add_zero]
        · rw [received_nil, add_zero]
          exact hpaid
      · rw [hrow] at hrow₁
        cases hrow₁
        refine ⟨row', hrow', ?_, ?_⟩
        · rw [hadds.payments_eq, Multiset.coe_add]
        · exact (add_le_add_left hpaid _).trans (hadds.paid_le (hcents id row hrow))
    · obtain ⟨new, -, ⟨hsame, -⟩ | ⟨row, row'', hrow, -, hrow'', hadds⟩⟩ := step_row hleft hfresh id
      · exact hcents id row' (hsame.symm.trans hrow')
      · cases hrow''.symm.trans hrow'
        exact hadds.paid_mem (hcents id row hrow)
    · obtain ⟨new, -, ⟨hsame, -⟩ | ⟨row₁, row', hrow₁, hopened, -⟩⟩ := step_row hleft hfresh id
      · exact ⟨row, hsame.trans hrow, hclosed⟩
      · rw [hrow] at hrow₁
        cases hrow₁
        exact absurd hopened hclosed
  · have hP' : P' = P := hstep
    rw [hP']
    exact ⟨⟨hkept, hcents⟩, fun id row hrow hclosed => ⟨row, hrow, hclosed⟩⟩

end Schedules

/-- At every point of the schedule the payments are kept, and a call that has succeeded has recorded all that it has
to; and no closed booking is opened again. -/
def Unclobbered {ι : Type} [DecidableEq ι] [Fintype ι] (handlers : ι → RentalHandler)
    (S : PropertyRentalStore) (schedule : List ι) : Prop :=
  let P n := Run.after (Pool.step (procs handlers)) (Pool.init S) (schedule.take n)
  (∀ n, PaymentsKept handlers S (P n) ∧ ∀ i, (P n).Succeeded (procs handlers) i →
    ∃ S₀ seen, (P n).seen i = S₀ :: seen ∧ ∀ id, (handlers i).recorded id ((P n).seen i) = (handlers i).records S₀ id) ∧
  ∀ n m, n ≤ m → StaysClosed (P n).store (P m).store

/-- **Accruals beside payments and settlements** lose no payment and open no closed booking, when a row is only
saved while it is as the call has loaded it. -/
theorem unclobbered_of_fresh {ι : Type} [DecidableEq ι] [Fintype ι] (handlers : ι → RentalHandler)
    (S : PropertyRentalStore) (hcents : WholeCentRows S) (schedule : List ι)
    (hfresh : Run.Along (Pool.step (procs handlers)) (ReadsFresh handlers) (Pool.init S) schedule) :
    Unclobbered handlers S schedule := by
  let I : Pool ι PropertyRentalStore → Prop := fun P => PaymentsKept handlers S P ∧ WholeCentRows P.store
  have hstep : ∀ P i, I P → ReadsFresh handlers P i → I (P.step (procs handlers) i) :=
    fun P i hI hi => (kept_step hI.1 hI.2 hi).1
  have hI : I (Pool.init S) := by
    have hnone : ∀ i id, (handlers i).recorded id ((Pool.init S : Pool ι PropertyRentalStore).seen i) = [] :=
      fun _ _ => rfl
    refine ⟨fun id row hrow => ⟨row, hrow, ?_, ?_⟩, hcents⟩
    · simp only [hnone, Multiset.coe_nil, Finset.sum_const_zero, add_zero]
    · simp only [hnone, received_nil, Finset.sum_const_zero, add_zero, le_refl]
  refine ⟨fun n => ?_, fun n m hnm => ?_⟩
  · refine ⟨?_, fun i hi => recorded_of_succeeded hi⟩
    exact (Run.after_induction (P := I) hstep hI (Run.along_take hfresh n)).1
  · refine Run.rel_take (R := fun P P' : Pool ι PropertyRentalStore => StaysClosed P.store P'.store)
      (fun P id row hrow hclosed => ⟨row, hrow, hclosed⟩) (fun P₁ P₂ P₃ h h' id row hrow hclosed => ?_)
      (fun P i hP hi => ⟨hstep P i hP hi, (kept_step hP.1 hP.2 hi).2⟩) hI hfresh hnm
    obtain ⟨row', hrow', hclosed'⟩ := h id row hrow hclosed
    exact h' id row' hrow' hclosed'

/-- A leased property with a charge of 1000 and a payment of 100. -/
def leasedProperty : PropertyRentalStore :=
  Run.after RentalCall.step emptyRentals
    [ .openBooking leaseRuntime lease none,
      .postCharge leaseRuntime 1 { chargeName := "Rent", amount := ⟨100000⟩ },
      .recordPayment leaseRuntime 1 (rentPaid "first") ]

theorem wholeCentRows_leasedProperty : WholeCentRows leasedProperty := by
  have hinOrder : InOrder leasedProperty := inOrder_emptyRentals.after (by decide +kernel)
  exact fun id booking hfind => (hinOrder.sound.books id booking hfind).paid_mem

/-- An accrual, a payment and a settlement of the leased property. -/
def leaseCalls : Fin 3 → RentalHandler
  | 0 => .runDailyAccrual leaseRuntime 3888000000
  | 1 => .recordPayment leaseRuntime 1 { amount := some 200, idempotencyKey := some "second" }
  | 2 => .settleBooking leaseRuntime 1 { paidAmount := some ⟨70000⟩ }

/-- The payment loads while the accrual is done, and the settlement after both. -/
theorem unclobbered_in_turn : Unclobbered leaseCalls leasedProperty [0, 0, 0, 1, 1, 1, 2, 2, 2] :=
  unclobbered_of_fresh leaseCalls leasedProperty wholeCentRows_leasedProperty _ (by decide +kernel)

/-- The accrual loads the booking, the settlement takes the final payment and closes it, and the accrual saves what
it has loaded: the booking is open again, without the final payment. -/
theorem settled_booking_reopened : ¬ Unclobbered leaseCalls leasedProperty [0, 2, 2, 2, 0, 0] := by
  rintro ⟨-, hclosed⟩
  let P n := Run.after (Pool.step (procs leaseCalls)) (Pool.init leasedProperty)
    (([0, 2, 2, 2, 0, 0] : List (Fin 3)).take n)
  have hsettled : ((P 4).store.bookings.find 1).any fun row => row.status ≠ .opened := by decide +kernel
  have hopened : ((P 6).store.bookings.find 1).all fun row => row.status = .opened := by decide +kernel
  obtain ⟨row, hrow, hstatus⟩ := (Option.any_eq_true _ _).mp hsettled
  obtain ⟨row', hrow', hstatus'⟩ := hclosed 4 6 (by decide) 1 row hrow (of_decide_eq_true hstatus)
  have hrow'' : (P 6).store.bookings.find 1 = some row' := hrow'
  rw [hrow''] at hopened
  exact hstatus' (of_decide_eq_true hopened)

end SuuqBackend
