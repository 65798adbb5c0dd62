import SuuqBackend.PosSync.PosSync
import SuuqBackend.PropertyRental.PropertyRentalStore

/-!
# Bookings of property rentals

`PropertyRentalBookingService`.  Opening a booking posts the deposit that is held; an instalment of the rent
is appended to the `payments` of the booking and posted as deferred revenue; the settlement recognizes the
rent that is still deferred, with the final payment, and refunds or forfeits the deposit; a booking can be
voided instead.  None of these operations fails when the ledger does.  A request whose key has been used is
a retry and changes nothing.
-/

namespace SuuqBackend

/-- A row of `normalizePaymentRows`. -/
structure PropertyPaymentRow where
  method : Option String := none
  amount : Option ℚ := none
  currency : Option String := none
  reference : Option String := none

namespace PropertyRentalBookings

open PosSync (trimmed)
open GeneralLedger (round2 amountOf)

/-! ### Rows -/

section Rows

variable (env : PropertyRentalRuntime) (dto : RecordPropertyPaymentDto)

/-- `text || null`. -/
def nonEmpty (text : Option String) : Option String := text.filter (· ≠ "")

/-- `rows`: the tender rows of the request, or its flat amount when it has none. -/
def paymentRows : List PropertyPaymentRow :=
  match dto.payments, dto.amount with
  | [], none => []
  | [], some amount =>
    [{ method := dto.paymentMethod, amount := some amount, currency := dto.currency }]
  | payments, _ => payments.map fun p =>
    { method := some p.method, amount := some p.amount, currency := p.currency, reference := p.reference }

/-- What `normalizePaymentRows` makes of a row. -/
def paymentRecord (fallbackCurrency : String) (checkoutId idempotencyKey : Option String)
    (paidAt : Date) (p : PropertyPaymentRow) : PropertyBookingPaymentRecord where
  amount := round2 (amountOf p.amount)
  method := env.toUpperCase (trim ((nonEmpty p.method).getD "CASH"))
  currency := match nonEmpty p.currency with
    | some currency => env.toUpperCase (trim currency)
    | none => fallbackCurrency
  reference := (nonEmpty p.reference).map trim
  checkoutId
  idempotencyKey
  paidAt

/-- `normalizePaymentRows`: the records, and their total. -/
def normalizePaymentRows (rows : List PropertyPaymentRow) (fallbackCurrency : String)
    (checkoutId idempotencyKey : Option String) (paidAt : Date) : List PropertyBookingPaymentRecord × ℚ :=
  let records := (rows.filter fun p => amountOf p.amount > 0).map
    (paymentRecord env fallbackCurrency checkoutId idempotencyKey paidAt)
  (records, round2 (records.map PropertyBookingPaymentRecord.amount).sum)

end Rows

/-! ### The general ledger -/

variable (env : PropertyRentalRuntime) (bookingId : ℕ)

/-- The key under which a payment is posted; `earlier` is how many records the booking had before. -/
def paymentKey (idempotencyKey : Option String) (earlier : ℕ) : String :=
  match idempotencyKey with
  | none | some "" => s!"prop-pay-{bookingId}-{earlier}"
  | some key => s!"prop-pay-{bookingId}-{key}"

/-- The lines of `postRentDeferral`. -/
def deferralLines (amount : ℚ) (records : List PropertyBookingPaymentRecord) : List JournalLineInput :=
  let split := splitTenders env.toUpperCase
    (records.map fun p => { method := some p.method, amount := some p.amount }) amount
  (if split.cash > 0 then
      [{ accountCode := GlAccountCode.cash.code, debit := some split.cash }] else []) ++
    (if split.clearing > 0 then
      [{ accountCode := GlAccountCode.tenderClearing.code, debit := some split.clearing }] else []) ++
    [{ accountCode := GlAccountCode.deferredRevenue.code, credit := some amount }]

def deferralEntry (booking : PropertyRentalBooking)
    (total : ℚ) (records : List PropertyBookingPaymentRecord) (idempotencyKey : String)
    (occurredAt : Date) : PostJournalEntryInput where
  branchId := booking.branchId
  occurredAt
  sourceType := .hospitalityPayment
  sourceId := some s!"{bookingId}"
  idempotencyKey
  currency := some booking.currency
  memo := some s!"Property rent instalment — booking {bookingId}"
  lines := deferralLines env (round2 total) records

/-- The call of the ledger fails only in the log. -/
def postLogged (now : Date) (input : PostJournalEntryInput) : PropertyRentalProc Unit := do
  let _ : Except HttpException GlJournalEntry ← Proc.attempt (PropertyRentalStore.postEntry now input)

def postRentDeferral (booking : PropertyRentalBooking)
    (total : ℚ) (records : List PropertyBookingPaymentRecord) (idempotencyKey : String)
    (occurredAt : Date) : PropertyRentalProc Unit := do
  if round2 total ≤ 0 then return
  postLogged env.now (deferralEntry env bookingId booking total records idempotencyKey occurredAt)

def depositOpenEntry (booking : PropertyRentalBooking) : PostJournalEntryInput where
  branchId := booking.branchId
  occurredAt := booking.createdAt
  sourceType := .depositOpen
  sourceId := some s!"{bookingId}"
  idempotencyKey := s!"prop-deposit-open-{bookingId}"
  currency := some booking.currency
  memo := some s!"Security deposit held — booking {bookingId}"
  lines :=
    [{ accountCode := GlAccountCode.cash.code, debit := some (round2 booking.depositAmount) },
      { accountCode := GlAccountCode.customerDeposits.code, credit := some (round2 booking.depositAmount) }]

section Settlement

variable (env : PropertyRentalRuntime) (bookingId : ℕ) (booking : PropertyRentalBooking)

/-- The entry that recognizes the final payment and the rent that was still deferred. -/
def settlementEntry (finalPaid priorDeferred : ℚ) (records : List PropertyBookingPaymentRecord)
    (settledAt : Date) : PostJournalEntryInput where
  branchId := booking.branchId
  occurredAt := settledAt
  sourceType := .hospitalitySettlement
  sourceId := some s!"{bookingId}"
  idempotencyKey := s!"prop-settle-{bookingId}"
  currency := some booking.currency
  memo := some s!"Property settlement — booking {bookingId}"
  lines :=
    let split := splitTenders env.toUpperCase
      (records.map fun p => { method := some p.method, amount := some p.amount }) finalPaid
    (if split.cash > 0 then
        [{ accountCode := GlAccountCode.cash.code, debit := some split.cash }] else []) ++
      (if split.clearing > 0 then
        [{ accountCode := GlAccountCode.tenderClearing.code, debit := some split.clearing }] else []) ++
      (if priorDeferred > 0 then
        [{ accountCode := GlAccountCode.deferredRevenue.code, debit := some (round2 priorDeferred) }]
        else []) ++
      [{ accountCode := GlAccountCode.rentalRevenue.code,
         credit := some (round2 (priorDeferred + finalPaid)) }]

/-- The entry of the part of the deposit that is paid back. -/
def depositRefundEntry (refund : ℚ) (settledAt : Date) : PostJournalEntryInput where
  branchId := booking.branchId
  occurredAt := settledAt
  sourceType := .depositRefund
  sourceId := some s!"{bookingId}"
  idempotencyKey := s!"prop-deposit-refund-{bookingId}"
  currency := some booking.currency
  memo := some s!"Deposit refund — booking {bookingId}"
  lines :=
    [{ accountCode := GlAccountCode.customerDeposits.code, debit := some refund },
      { accountCode := GlAccountCode.cash.code, credit := some refund }]

/-- The entry of the part of the deposit that is kept as income. -/
def depositForfeitEntry (forfeit : ℚ) (settledAt : Date) : PostJournalEntryInput where
  branchId := booking.branchId
  occurredAt := settledAt
  sourceType := .depositForfeit
  sourceId := some s!"{bookingId}"
  idempotencyKey := s!"prop-deposit-forfeit-{bookingId}"
  currency := some booking.currency
  memo := some s!"Deposit forfeit — booking {bookingId}"
  lines :=
    [{ accountCode := GlAccountCode.customerDeposits.code, debit := some forfeit },
      { accountCode := GlAccountCode.rentalRevenue.code, credit := some forfeit }]

/-- `held`: no more than this is refunded and forfeited together. -/
def heldDeposit : ℚ := round2 booking.depositAmount

/-- `refund`, cut to the deposit that is held. -/
def refundOf (refund : ℚ) : ℚ := min (round2 refund) (heldDeposit booking)

/-- `forfeit`, cut to what the refund leaves of the deposit. -/
def forfeitOf (refund forfeit : ℚ) : ℚ :=
  min (round2 forfeit) (round2 (heldDeposit booking - refundOf booking refund))

/-- The entries of `postBookingSettlement`, in their order. -/
def settlementEntries (finalPaid priorDeferred : ℚ) (records : List PropertyBookingPaymentRecord)
    (refund forfeit : ℚ) (settledAt : Date) : List PostJournalEntryInput :=
  (if round2 (priorDeferred + finalPaid) > 0 then
      [settlementEntry env bookingId booking finalPaid priorDeferred records settledAt] else []) ++
    (if refundOf booking refund > 0 then
      [depositRefundEntry bookingId booking (refundOf booking refund) settledAt] else []) ++
    (if forfeitOf booking refund forfeit > 0 then
      [depositForfeitEntry bookingId booking (forfeitOf booking refund forfeit) settledAt] else [])

/-- `postBookingSettlement`: the entries are posted until one fails, which is logged and no more. -/
def postBookingSettlement (finalPaid priorDeferred : ℚ) (records : List PropertyBookingPaymentRecord)
    (refund forfeit : ℚ) (settledAt : Date) : PropertyRentalProc Unit := do
  let _ : Except HttpException Unit ← Proc.attempt (Proc.forEach
    (settlementEntries env bookingId booking finalPaid priorDeferred records refund forfeit settledAt)
    fun input => do
      let _ ← PropertyRentalStore.postEntry env.now input)

end Settlement

/-! ### Operations -/

def bookingNotFound (bookingId : ℕ) : HttpException :=
  .notFound s!"Property booking {bookingId} not found."

/-- `bookingRepo.save` of a new booking: `idempotencyKey` is unique. -/
def insertBooking (booking : PropertyRentalBooking) : PropertyRentalProc ℕ := Proc.transaction do
  let bookings ← Proc.read fun s : PropertyRentalStore => s.bookings
  .throwIf (∃ id ∈ List.range bookings.next,
      (bookings.find id).any fun row => row.idempotencyKey = booking.idempotencyKey)
    (.queryFailed "duplicate key value violates unique constraint")
  Proc.write fun s => { s with bookings := s.bookings.add booking }
  return bookings.next

/-- The new booking of `openBooking`. -/
def newBooking (env : PropertyRentalRuntime) (dto : OpenPropertyBookingDto) (actorId : Option ℕ) :
    PropertyRentalBooking :=
  let billingCycle := if env.toUpperCase (trim (dto.billingCycle.getD "")) = "WEEK" then .week else .month
  { branchId := dto.branchId
    localRef := dto.localRef
    status := .opened
    propertyCode := trim dto.propertyCode
    propertyId := dto.propertyId
    renterName := (nonEmpty dto.renterName).map trim
    renterPhone := (nonEmpty dto.renterPhone).map trim
    renterEmail := (nonEmpty dto.renterEmail).map trim
    tenantType :=
      if env.toUpperCase (trim (dto.tenantType.getD "")) = "BUSINESS" then .business else .individual
    renterNationality := (nonEmpty dto.renterNationality).map trim
    idType := (nonEmpty dto.idType).map trim
    idNumber := (nonEmpty dto.idNumber).map trim
    areaSqm := dto.areaSqm
    ratePlanId := dto.ratePlanId
    reservationId := dto.reservationId
    leaseStartAt := dto.leaseStartAt.bind env.dateColumn
    leaseEndAt := dto.leaseEndAt.bind env.dateColumn
    billingCycle
    periodsBilled := PropertyRentalPeriods.computeBillingPeriods env.newDate dto.leaseStartAt
      dto.leaseEndAt billingCycle.unit
    currency := ((nonEmpty dto.currency).map fun currency => env.toUpperCase (trim currency)).getD "ETB"
    depositAmount := (dto.depositAmount.map Decimal2.value).getD 0
    chargesTotal := 0
    paidAmount := none
    payments := none
    idempotencyKey :=
      (trimmed dto.idempotencyKey).or (some s!"property-open-{dto.branchId}-{env.now}")
    openedByUserId := actorId
    createdAt := env.now }

def invalidDate (env : PropertyRentalRuntime) (date : Option String) : Prop :=
  ∃ text ∈ date, env.dateColumn text = none

instance (env : PropertyRentalRuntime) (date : Option String) : Decidable (invalidDate env date) :=
  match date with
  | none => .isFalse (by simp [invalidDate])
  | some text => decidable_of_iff (env.dateColumn text = none) (by simp [invalidDate])

/-- `openBooking`: the id of the booking and its row. -/
def openBooking (env : PropertyRentalRuntime) (dto : OpenPropertyBookingDto) (actorId : Option ℕ) :
    PropertyRentalProc (ℕ × PropertyRentalBooking) := do
  let existing ← Proc.read fun s : PropertyRentalStore =>
    match trimmed dto.idempotencyKey with
    | none => none
    | key => (List.range s.bookings.next).findSome? fun id =>
      ((s.bookings.find id).filter fun row => row.idempotencyKey = key).map fun row => (id, row)
  match existing with
  | some found => return found
  | none =>
    .throwIf (invalidDate env dto.leaseStartAt ∨ invalidDate env dto.leaseEndAt)
      (.queryFailed "invalid input syntax for type date")
    let saved := newBooking env dto actorId
    let id ← insertBooking saved
    if round2 saved.depositAmount > 0 then postLogged env.now (depositOpenEntry id saved)
    return (id, saved)

/-- The new charge of `postCharge`. -/
def newCharge (env : PropertyRentalRuntime) (bookingId : ℕ) (booking : PropertyRentalBooking)
    (dto : PostPropertyChargeDto) : PropertyRentalBookingCharge where
  bookingId
  branchId := booking.branchId
  chargeGroupCode := (nonEmpty dto.chargeGroupCode).map fun code => env.toUpperCase (trim code)
  chargeName := trim dto.chargeName
  amount := round2 dto.amount.value
  currency := ((nonEmpty dto.currency).map fun currency => env.toUpperCase (trim currency)).getD booking.currency
  quantity := max 1 (dto.quantity.getD 1)
  recurring := dto.recurring = some true
  notes := (nonEmpty dto.notes).map trim
  idempotencyKey := trimmed dto.idempotencyKey

/-- `bookingRepo.increment({ id }, 'chargesTotal', amount)`. -/
def incrementChargesTotal (bookingId : ℕ) (amount : ℚ) : PropertyRentalProc Unit :=
  Proc.write fun s => match s.bookings.find bookingId with
    | none => s
    | some booking => s.saveBooking bookingId { booking with chargesTotal := booking.chargesTotal + amount }

/-- `postCharge`: the id of the charge and its row. -/
def postCharge (env : PropertyRentalRuntime) (bookingId : ℕ) (dto : PostPropertyChargeDto) :
    PropertyRentalProc (ℕ × PropertyRentalBookingCharge) := do
  match ← Proc.read fun s : PropertyRentalStore => s.bookings.find bookingId with
  | none => throw (bookingNotFound bookingId)
  | some booking =>
    .throwIf (booking.status ≠ .opened) (.badRequest s!"Booking {bookingId} is not open — cannot post charges.")
    let existing ← Proc.read fun s : PropertyRentalStore =>
      match trimmed dto.idempotencyKey with
      | none => none
      | key => (List.range s.charges.next).findSome? fun id =>
        ((s.charges.find id).filter fun charge =>
          charge.bookingId = bookingId ∧ charge.idempotencyKey = key).map fun charge => (id, charge)
    match existing with
    | some found => return found
    | none =>
      let charge := newCharge env bookingId booking dto
      let id ← Proc.read fun s : PropertyRentalStore => s.charges.next
      Proc.write fun s => { s with charges := s.charges.add charge }
      incrementChargesTotal bookingId (charge.amount * charge.quantity)
      return (id, charge)

def paidBooking (booking : PropertyRentalBooking) (records : List PropertyBookingPaymentRecord)
    (total : ℚ) : PropertyRentalBooking :=
  { booking with
    payments := some (booking.payments.getD [] ++ records)
    paidAmount := some (round2 (booking.paidAmount.getD 0 + total)) }

/-- `recordPayment`: the id of the booking and its row. -/
def recordPayment (env : PropertyRentalRuntime) (bookingId : ℕ) (dto : RecordPropertyPaymentDto) :
    PropertyRentalProc (ℕ × PropertyRentalBooking) := do
  match ← Proc.read fun s : PropertyRentalStore => s.bookings.find bookingId with
  | none => throw (bookingNotFound bookingId)
  | some booking =>
    .throwIf (booking.status ≠ .opened)
      (.badRequest s!"Booking {bookingId} cannot take a payment from status {booking.status.text}.")
    let idempotencyKey := trimmed dto.idempotencyKey
    let ledger := booking.payments.getD []
    if idempotencyKey ≠ none ∧ ∃ p ∈ ledger, p.idempotencyKey = idempotencyKey then
      -- a retry: the payment has been recorded
      return (bookingId, booking)
    let paidAt := dto.paidAt.getD env.now
    let (records, total) := normalizePaymentRows env (paymentRows dto) booking.currency dto.checkoutId
      idempotencyKey paidAt
    .throwIf (total ≤ 0) (.badRequest "Payment amount must be greater than zero.")
    let saved := paidBooking booking records total
    Proc.write fun s => s.saveBooking bookingId saved
    postRentDeferral env bookingId saved total records (paymentKey bookingId idempotencyKey ledger.length) paidAt
    return (bookingId, saved)

/-- `finalRows`: the tender rows of the settlement, or its flat amount when it has none. -/
def finalRows (dto : SettlePropertyBookingDto) : List PropertyPaymentRow :=
  match dto.payments, dto.paidAmount with
  | [], none => []
  | [], some amount =>
    [{ method := dto.paymentMethod, amount := some amount.value, currency := dto.currency }]
  | payments, _ => payments.map fun p =>
    { method := some p.method, amount := some p.amount, currency := p.currency, reference := p.reference }

/-- `priorDeferred`: the rent that was collected and has not been recognized. -/
def priorDeferred (booking : PropertyRentalBooking) : ℚ :=
  max 0 (booking.paidAmount.getD 0 - booking.recognizedAmount)

/-- The settled booking; `records` and `finalPaid` are those of the final payment. -/
def settledBooking (booking : PropertyRentalBooking) (dto : SettlePropertyBookingDto)
    (records : List PropertyBookingPaymentRecord) (finalPaid : ℚ) (settledAt : Date) : PropertyRentalBooking :=
  { booking with
    status := .settled
    settledCheckoutId := dto.checkoutId
    payments := if records ≠ [] then some (booking.payments.getD [] ++ records) else booking.payments
    paidAmount :=
      if records ≠ [] then some (round2 (booking.paidAmount.getD 0 + finalPaid))
      else booking.paidAmount.or (dto.paidAmount.map Decimal2.value)
    depositRefund := (dto.depositRefund.map Decimal2.value).or booking.depositRefund
    depositForfeit := (dto.depositForfeit.map Decimal2.value).or booking.depositForfeit
    settledAt := some settledAt }

def settleBooking (env : PropertyRentalRuntime) (bookingId : ℕ) (dto : SettlePropertyBookingDto) :
    PropertyRentalProc (ℕ × PropertyRentalBooking) := do
  match ← Proc.read fun s : PropertyRentalStore => s.bookings.find bookingId with
  | none => throw (bookingNotFound bookingId)
  | some booking =>
    if booking.status = .settled then return (bookingId, booking)
    .throwIf (booking.status ≠ .opened)
      (.badRequest s!"Booking {bookingId} cannot be settled from status {booking.status.text}.")
    let settledAt := dto.settledAt.getD env.now
    let (records, finalPaid) := normalizePaymentRows env (finalRows dto) booking.currency dto.checkoutId
      dto.idempotencyKey settledAt
    let saved := settledBooking booking dto records finalPaid settledAt
    Proc.write fun s => s.saveBooking bookingId saved
    postBookingSettlement env bookingId saved finalPaid (priorDeferred booking) records
      ((dto.depositRefund.map Decimal2.value).getD 0) ((dto.depositForfeit.map Decimal2.value).getD 0)
      settledAt
    return (bookingId, saved)

def voidedBooking (env : PropertyRentalRuntime) (booking : PropertyRentalBooking)
    (dto : VoidPropertyBookingDto) : PropertyRentalBooking :=
  { booking with
    status := .voided
    voidReason := (nonEmpty dto.reason).map trim
    voidedAt := some env.now }

def voidBooking (env : PropertyRentalRuntime) (bookingId : ℕ) (dto : VoidPropertyBookingDto) :
    PropertyRentalProc (ℕ × PropertyRentalBooking) := do
  match ← Proc.read fun s : PropertyRentalStore => s.bookings.find bookingId with
  | none => throw (bookingNotFound bookingId)
  | some booking =>
    if booking.status = .voided then return (bookingId, booking)
    .throwIf (booking.status = .settled) (.conflict s!"Booking {bookingId} is already settled and cannot be voided.")
    let saved := voidedBooking env booking dto
    Proc.write fun s => s.saveBooking bookingId saved
    return (bookingId, saved)

def transferUnit (bookingId : ℕ) (dto : TransferPropertyUnitDto) : PropertyRentalProc (ℕ × PropertyRentalBooking) := do
  match ← Proc.read fun s : PropertyRentalStore => s.bookings.find bookingId with
  | none => throw (bookingNotFound bookingId)
  | some booking =>
    .throwIf (booking.status ≠ .opened) (.badRequest s!"Booking {bookingId} is not open — cannot transfer unit.")
    let saved :=
      { booking with
        transferredToProperty := some booking.propertyCode
        propertyCode := trim dto.newPropertyCode
        renterName := ((nonEmpty dto.newRenterName).map trim).or booking.renterName }
    Proc.write fun s => s.saveBooking bookingId saved
    return (bookingId, saved)

end PropertyRentalBookings

end SuuqBackend
