import SuuqBackend.PropertyRental.PropertyRentalBookings

/-!
# The daily recognition of rent

`RevenueAccrualService`: every day, rent that has been earned by elapsed periods and collected is moved from
deferred revenue to rental revenue, for every open booking.  What a booking may recognize is computed from
its row (`computeAccrualRecognition`); the entry is posted under a key of the cumulative amount, and then the
row that was loaded with its page is saved with the new `recognizedAmount`.

The loop over the pages ends with a page that is not full; `pages` bounds how many are loaded.  The database
may refuse the posting or the save of any booking (`AccrualFault`); the booking is then left as it stands, and
the loop goes on.
-/

namespace SuuqBackend

structure AccrualRecognition where
  earnedToDate : ℚ
  recognizable : ℚ
  recognizeNow : ℚ

/-- What the database refuses. -/
inductive AccrualFault where
  | post
  | save
deriving DecidableEq

namespace RevenueAccrual

open GeneralLedger (round2)
open PropertyRentalBookings (nonEmpty)

def computeAccrualRecognition (newDate : String → Option Date) (booking : PropertyRentalBooking)
    (asOf : Date) : AccrualRecognition :=
  let paid := booking.paidAmount.getD 0
  let recognized := booking.recognizedAmount
  if nonEmpty booking.leaseStartAt = none ∨ booking.periodsBilled ≤ 0 ∨ booking.chargesTotal ≤ 0 then
    { earnedToDate := 0, recognizable := recognized, recognizeNow := 0 }
  else
    let elapsed := min (PropertyRentalPeriods.computeBillingPeriods newDate booking.leaseStartAt
      (some (UtcDate.isoDate asOf)) booking.billingCycle.unit) booking.periodsBilled
    let perPeriod := booking.chargesTotal / booking.periodsBilled
    let earnedToDate := round2 (min (perPeriod * elapsed) booking.chargesTotal)
    let recognizable := round2 (min earnedToDate paid)
    { earnedToDate, recognizable, recognizeNow := round2 (max 0 (recognizable - recognized)) }

/-- The key of an accrual: the cumulative amount in cents. -/
def accrualKey (bookingId : ℕ) (recognizable : ℚ) : String :=
  s!"accrual-{bookingId}-{round (recognizable * 100)}"

def accrualEntry (bookingId : ℕ) (booking : PropertyRentalBooking) (recognition : AccrualRecognition)
    (asOf : Date) : PostJournalEntryInput where
  branchId := booking.branchId
  occurredAt := asOf
  sourceType := .revenueAccrual
  sourceId := some s!"{bookingId}"
  idempotencyKey := accrualKey bookingId recognition.recognizable
  currency := some booking.currency
  memo := some s!"Rent recognized — booking {bookingId}"
  lines :=
    [{ accountCode := GlAccountCode.deferredRevenue.code, debit := some recognition.recognizeNow },
      { accountCode := GlAccountCode.rentalRevenue.code, credit := some recognition.recognizeNow }]

/-- The database refuses nothing. -/
def noFaults : ℕ → Option AccrualFault := fun _ => none

/-- What the driver raises when a statement is refused. -/
def connectionLost : HttpException := .queryFailed "Connection terminated unexpectedly"

section Accrual

variable (env : PropertyRentalRuntime) (faults : ℕ → Option AccrualFault) (asOf : Date)

/-- `recognizeBooking`: the amount that is recognized now. -/
def recognizeBooking (bookingId : ℕ) (booking : PropertyRentalBooking) : PropertyRentalProc ℚ := do
  let recognition := computeAccrualRecognition env.newDate booking asOf
  if recognition.recognizeNow ≤ 0 then return 0
  .throwIf (faults bookingId = some .post) connectionLost
  let _ ← PropertyRentalStore.postEntry env.now (accrualEntry bookingId booking recognition asOf)
  .throwIf (faults bookingId = some .save) connectionLost
  Proc.write fun s =>
    s.saveBooking bookingId { booking with recognizedAmount := recognition.recognizable }
  return recognition.recognizeNow

def openBookings (s : PropertyRentalStore) : List (ℕ × PropertyRentalBooking) :=
  (List.range s.bookings.next).filterMap fun id =>
    ((s.bookings.find id).filter fun booking => booking.status = .opened).map fun booking => (id, booking)

def batch : ℕ := 200

/-- `for (const booking of bookings)`: a booking that fails is logged and no more. -/
def recognizeAll : List (ℕ × PropertyRentalBooking) → ℚ → PropertyRentalProc ℚ
  | [], recognizedTotal => pure recognizedTotal
  | (id, booking) :: bookings, recognizedTotal => do
    match ← (Proc.attempt (recognizeBooking env faults asOf id booking) :
        PropertyRentalProc (Except HttpException ℚ)) with
    | .ok recognized => recognizeAll bookings (recognizedTotal + recognized)
    | .error _ => recognizeAll bookings recognizedTotal

/-- The loop over the pages, from the cursor `skip` on. -/
def accrualPages : ℕ → ℕ → ℚ → PropertyRentalProc ℚ
  | 0, _, recognizedTotal => pure recognizedTotal
  | pages + 1, skip, recognizedTotal => do
    let bookings ← Proc.read fun s => ((openBookings s).drop skip).take batch
    if bookings = [] then return recognizedTotal
    let recognizedTotal ← recognizeAll env faults asOf bookings recognizedTotal
    if bookings.length < batch then return recognizedTotal
    accrualPages pages (skip + batch) recognizedTotal

/-- `runDailyAccrual`: the total that is recognized. -/
def runDailyAccrual (pages : ℕ) : PropertyRentalProc ℚ := do
  let recognizedTotal ← accrualPages env faults asOf pages 0 0
  return round2 recognizedTotal

end Accrual

end RevenueAccrual

end SuuqBackend
