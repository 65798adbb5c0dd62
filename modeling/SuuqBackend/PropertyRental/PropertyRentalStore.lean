import SuuqBackend.Accounting.GeneralLedger
import SuuqBackend.Common.CalendarDate
import SuuqBackend.Common.Numeric
import SuuqBackend.PosSync.ProductAliases

/-!
# Billing periods of a lease

`computeBillingPeriods` counts the whole weeks or months between two dates, and at least one from the day
on which the lease begins; `addBillingPeriods` adds as many to a date.  `newDate` is `new Date(text)` of a text that is not a plain date: `none` stands
for an invalid date.
-/

namespace SuuqBackend

inductive BillingUnit where
  | month
  | week
deriving DecidableEq

namespace PropertyRentalPeriods

open UtcDate

def numberOf (digits : List Char) : ℤ := digits.foldl (fun n c => 10 * n + (c.toNat - '0'.toNat)) 0

/-- The match of `^(\d{4})-(\d{2})-(\d{2})$`. -/
def matchDate : List Char → Option (ℤ × ℤ × ℤ)
  | [y₁, y₂, y₃, y₄, '-', m₁, m₂, '-', d₁, d₂] =>
    if [y₁, y₂, y₃, y₄, m₁, m₂, d₁, d₂].all Char.isDigit then
      some (numberOf [y₁, y₂, y₃, y₄], numberOf [m₁, m₂], numberOf [d₁, d₂])
    else none
  | _ => none

section Periods

variable (newDate : String → Option Date)

def parseDateOnly (value : Option String) : Option Date :=
  match value.map trim with
  | none | some "" => none
  | some text =>
    let datePart := if text.length ≥ 10 then text.toList.take 10 else text.toList
    match matchDate datePart with
    | none => newDate text
    | some (year, month, day) => some (utc year (month - 1) day)

/-- `Math.round((end - start) / MS_PER_DAY)`. -/
def daysBetween (first last : Date) : ℤ := (2 * (last - first) + msPerDay) / (2 * msPerDay)

/-- The calendar months between two dates; the last one counts when the day of the first date, or the end
of the month, is reached. -/
def monthsBetween (first last : Date) : ℤ :=
  let months := (fullYear last - fullYear first) * 12 + (month last - month first)
  let lastDayOfEndMonth := date (utc (fullYear last) (month last + 1) 0)
  if date last < date first ∧ date last ≠ lastDayOfEndMonth then months - 1 else months

def computeBillingPeriods (start finish : Option String) (unit : BillingUnit) : ℤ :=
  match parseDateOnly newDate start, parseDateOnly newDate finish with
  | some first, some last =>
    if last < first then 0
    else match unit with
      | .week => max 1 (daysBetween first last / 7)
      | .month => max 1 (monthsBetween first last)
  | _, _ => 0

def addBillingPeriods (start : Option String) (count : ℚ) (unit : BillingUnit) : Option String :=
  (parseDateOnly newDate start).map fun first =>
    let n := max 0 (round count)
    match unit with
    | .week => isoDate (first + n * 7 * msPerDay)
    | .month =>
      let targetMonthIndex := month first + n
      let targetYear := fullYear first + targetMonthIndex / 12
      let normalizedMonth := targetMonthIndex % 12
      let lastDay := date (utc targetYear (normalizedMonth + 1) 0)
      isoDate (utc targetYear normalizedMonth (min (date first) lastDay))

end Periods

-- a partial month does not count, but the end of a shorter month completes one
example :
    ([("2026-01-15", "2026-02-15"), ("2026-01-15", "2026-03-14"), ("2026-01-31", "2026-02-28"),
      ("2026-02-15", "2026-01-15")].map fun (start, finish) =>
        computeBillingPeriods (fun _ => none) (some start) (some finish) .month) = [1, 1, 1, 0] := by
  decide

end PropertyRentalPeriods

/-!
## The tables of property rentals

A booking is the lease of a unit; charges are posted to it, instalments of its rent are kept in its
`payments`, and it is closed by a settlement or voided.  What is posted for it is in the general ledger.

`now` is `new Date()`; `toUpperCase` and `newDate` are those of the runtime, and `dateColumn` is what a
column of type `date` keeps of a text, if it takes it.
-/

/-- `PropertyRentalBookingStatus`; `opened` is `OPEN`. -/
inductive PropertyRentalBookingStatus where
  | opened
  | settled
  | voided
deriving DecidableEq

def PropertyRentalBookingStatus.text : PropertyRentalBookingStatus → String
  | opened => "OPEN"
  | settled => "SETTLED"
  | voided => "VOIDED"

inductive PropertyRentalBillingCycle where
  | month
  | week
deriving DecidableEq

/-- `billingCycle === 'WEEK' ? 'WEEK' : 'MONTH'`. -/
def PropertyRentalBillingCycle.unit : PropertyRentalBillingCycle → BillingUnit
  | month => .month
  | week => .week

inductive PropertyTenantType where
  | individual
  | business
deriving DecidableEq

structure PropertyBookingPaymentRecord where
  amount : ℚ
  method : String
  currency : String
  reference : Option String
  checkoutId : Option String
  idempotencyKey : Option String
  paidAt : Date
deriving DecidableEq

/-- A row of `pos_property_rental_bookings`, with the defaults of its columns. -/
structure PropertyRentalBooking where
  branchId : ℕ
  status : PropertyRentalBookingStatus
  currency : String
  paidAmount : Option ℚ
  payments : Option (List PropertyBookingPaymentRecord)
  localRef : Option String := none
  propertyCode : String := ""
  propertyId : Option ℕ := none
  renterName : Option String := none
  renterPhone : Option String := none
  renterEmail : Option String := none
  tenantType : PropertyTenantType := .individual
  renterNationality : Option String := none
  idType : Option String := none
  idNumber : Option String := none
  areaSqm : Option Decimal2 := none
  ratePlanId : Option ℕ := none
  reservationId : Option ℕ := none
  leaseStartAt : Option String := none
  leaseEndAt : Option String := none
  billingCycle : PropertyRentalBillingCycle := .month
  periodsBilled : ℤ := 0
  depositAmount : ℚ := 0
  depositRefund : Option ℚ := none
  depositForfeit : Option ℚ := none
  chargesTotal : ℚ := 0
  settledCheckoutId : Option String := none
  /-- The rent that the accrual job has recognized. -/
  recognizedAmount : ℚ := 0
  voidReason : Option String := none
  transferredToProperty : Option String := none
  idempotencyKey : Option String := none
  openedByUserId : Option ℕ := none
  createdAt : Date := 0
  settledAt : Option Date := none
  voidedAt : Option Date := none
deriving DecidableEq

structure PropertyRentalBookingCharge where
  bookingId : ℕ
  branchId : ℕ
  chargeGroupCode : Option String
  chargeName : String
  amount : ℚ
  currency : String
  quantity : ℤ
  recurring : Bool
  notes : Option String
  idempotencyKey : Option String

/-! ### Requests -/

structure OpenPropertyBookingDto where
  branchId : ℕ
  propertyCode : String
  propertyId : Option ℕ := none
  renterName : Option String := none
  renterPhone : Option String := none
  renterEmail : Option String := none
  tenantType : Option String := none
  renterNationality : Option String := none
  idType : Option String := none
  idNumber : Option String := none
  areaSqm : Option Decimal2 := none
  ratePlanId : Option ℕ := none
  reservationId : Option ℕ := none
  leaseStartAt : Option String := none
  leaseEndAt : Option String := none
  billingCycle : Option String := none
  depositAmount : Option Decimal2 := none
  currency : Option String := none
  idempotencyKey : Option String := none
  localRef : Option String := none

structure PostPropertyChargeDto where
  chargeGroupCode : Option String := none
  chargeName : String
  amount : Decimal2
  currency : Option String := none
  quantity : Option ℤ := none
  recurring : Option Bool := none
  notes : Option String := none
  idempotencyKey : Option String := none

structure PropertyBookingPaymentRowDto where
  method : String
  amount : ℚ≥0
  currency : Option String := none
  reference : Option String := none

/-- `RecordPropertyPaymentDto`; `paidAt` is the parsed date. -/
structure RecordPropertyPaymentDto where
  payments : List PropertyBookingPaymentRowDto := []
  amount : Option ℚ≥0 := none
  paymentMethod : Option String := none
  currency : Option String := none
  checkoutId : Option String := none
  paidAt : Option Date := none
  idempotencyKey : Option String := none

/-- `SettlePropertyBookingDto`; `settledAt` is the parsed date. -/
structure SettlePropertyBookingDto where
  payments : List PropertyBookingPaymentRowDto := []
  depositRefund : Option Decimal2 := none
  depositForfeit : Option Decimal2 := none
  checkoutId : Option String := none
  paymentMethod : Option String := none
  paidAmount : Option Decimal2 := none
  currency : Option String := none
  settledAt : Option Date := none
  idempotencyKey : Option String := none

structure VoidPropertyBookingDto where
  reason : Option String := none

structure TransferPropertyUnitDto where
  newPropertyCode : String
  newRenterName : Option String := none

structure PropertyRentalRuntime where
  now : Date
  toUpperCase : String → String
  newDate : String → Option Date := fun _ => none
  dateColumn : String → Option String := some

/-! ### The store -/

/-- The tables of the bookings, and the general ledger. -/
structure PropertyRentalStore where
  bookings : SerialTable PropertyRentalBooking
  charges : SerialTable PropertyRentalBookingCharge
  journal : GlStore

abbrev PropertyRentalProc : Type → Type := Proc PropertyRentalStore HttpException

namespace PropertyRentalStore

def journalLens : Proc.Lens PropertyRentalStore GlStore where
  get s := s.journal
  set s journal := { s with journal }

/-- `bookingRepo.save` of a booking that was loaded: the whole row is written. -/
def saveBooking (s : PropertyRentalStore) (bookingId : ℕ) (booking : PropertyRentalBooking) : PropertyRentalStore :=
  { s with bookings := s.bookings.set bookingId booking }

/-- `generalLedger.post` without the transaction of a caller. -/
def postEntry (now : Date) (input : PostJournalEntryInput) : PropertyRentalProc GlJournalEntry :=
  Proc.zoom journalLens (GeneralLedger.post now input false)

end PropertyRentalStore

end SuuqBackend
