import SuuqBackend.Accounting.GeneralLedger
import SuuqBackend.Common.CalendarDate
import SuuqBackend.Hospitality.HospitalityStore
import SuuqBackend.PosSync.PosSync

/-!
# The tables of the hotel

`pos_hotel_folios` and `pos_hotel_folio_charges`, with the rate plans, the rooms, the logs of the night audit and
the general ledger.  A query on rate plans or rooms returns the rows in the order of the list.

`toUpperCase` is the one of the runtime, `now` is `new Date()` and `today` the date in East Africa; `dateColumn` is
what a column of type `date` keeps of a text, if it takes it.
-/

namespace SuuqBackend

/-- What a call takes from the runtime. -/
structure HotelRuntime where
  toUpperCase : String → String
  now : ℤ
  today : CalendarDate
  dateColumn : String → Option CalendarDate := fun _ => none

inductive HotelFolioStatus where
  | opened
  | settled
  | voided
deriving DecidableEq

structure HotelFolio where
  branchId : ℕ
  status : HotelFolioStatus := .opened
  roomNumber : String
  guestName : Option String := none
  checkInAt : Option CalendarDate := none
  checkOutAt : Option CalendarDate := none
  currency : String := "ETB"
  chargesTotal : Numeric2 := ⟨0⟩
  settledCheckoutId : Option String := none
  paidAmount : Option Numeric2 := none
  voidReason : Option String := none
  transferredToRoom : Option String := none
  settledAt : Option ℤ := none
  voidedAt : Option ℤ := none
  localRef : Option String := none
  guestPhone : Option String := none
  guestNationality : Option String := none
  guestIdType : Option String := none
  guestIdNumber : Option String := none
  rateId : Option ℤ := none
  reservationId : Option ℤ := none
  idempotencyKey : Option String := none
  openedByUserId : Option ℕ := none
  createdAt : ℤ := 0
deriving DecidableEq

structure HotelFolioCharge where
  folioId : ℕ
  branchId : ℕ
  chargeGroupCode : Option String
  chargeName : String
  amount : Numeric2
  currency : String
  quantity : ℕ
  idempotencyKey : Option String
deriving DecidableEq

structure HotelRatePlan where
  id : ℕ
  branchId : ℕ
  roomType : Option String := none
  weekdayRate : Numeric2
  weekendRate : Option Numeric2 := none
  currency : String := "ETB"
  isActive : Bool := true

structure HotelRoom where
  branchId : ℕ
  roomNumber : String
  roomType : Option String

structure HotelNightAuditLog where
  branchId : ℕ
  auditDate : CalendarDate
  foliosProcessed : ℕ
  chargesPosted : ℕ
  totalAmount : Numeric2
  currency : String
  triggeredByUserId : Option ℕ

structure HotelStore where
  folios : SerialTable HotelFolio
  charges : SerialTable HotelFolioCharge
  ratePlans : List HotelRatePlan
  rooms : List HotelRoom
  auditLogs : List HotelNightAuditLog
  ledger : GlStore

abbrev HotelProc : Type → Type := Proc HotelStore HttpException

namespace HotelStore

/-- The general ledger among the tables. -/
def ledgerLens : Proc.Lens HotelStore GlStore where
  get S := S.ledger
  set S ledger := { S with ledger }

/-- The folio after `save` of a loaded one: every column has the value of the object. -/
def saveFolio (S : HotelStore) (folioId : ℕ) (folio : HotelFolio) : HotelStore :=
  { S with folios := S.folios.set folioId folio }

/-- The new row of a charge. -/
def addCharge (S : HotelStore) (charge : HotelFolioCharge) : HotelStore :=
  { S with charges := S.charges.add charge }

/-- `folioRepo.increment({ id }, 'chargesTotal', amount)`. -/
def incrementTotal (S : HotelStore) (folioId : ℕ) (amount : ℚ) : HotelStore :=
  match S.folios.find folioId with
  | none => S
  | some folio => S.saveFolio folioId { folio with chargesTotal := .ofRat (folio.chargesTotal.value + amount) }

/-- `chargeRepo.findOne({ where: { folioId, idempotencyKey } })`. -/
def chargeByKey (S : HotelStore) (folioId : ℕ) (idempotencyKey : String) : Option (ℕ × HotelFolioCharge) :=
  S.charges.first fun charge => charge.folioId = folioId ∧ charge.idempotencyKey = some idempotencyKey

end HotelStore

end SuuqBackend

/-!
## Folios

`HotelFolioService`: the opening of a folio, its charges, settlement, voiding and transfer to another room.  The total
of the charges is kept in the folio: `postCharge` adds to it in the database, while the other operations save the object
that they have loaded, with the total that it had.
-/

namespace SuuqBackend.HotelFolios

open GeneralLedger
open PosSync (trimmed)

/-! ### Repository calls -/

variable (env : HotelRuntime) (folioId : ℕ)

/-- `folioRepo.findOne({ where: { id } })`, or the exception without one. -/
def loadFolio : HotelProc HotelFolio := do
  let some folio ← Proc.read fun S : HotelStore => S.folios.find folioId
    | throw (.notFound s!"Hotel folio {folioId} not found.")
  return folio

/-- `folioRepo.save` of a folio that was loaded. -/
def saveFolio (folio : HotelFolio) : HotelProc Unit := Proc.write fun S => S.saveFolio folioId folio

/-- `chargeRepo.save` of a new charge. -/
def insertCharge (charge : HotelFolioCharge) : HotelProc ℕ :=
  .step (fun S => S.addCharge charge) fun S => .done S.charges.next

/-- `folioRepo.increment`. -/
def incrementTotal (amount : ℚ) : HotelProc Unit := Proc.write fun S => S.incrementTotal folioId amount

/-- The charge of a folio under the key; without a key there is no query. -/
def findCharge (idempotencyKey : Option String) : HotelProc (Option (ℕ × HotelFolioCharge)) :=
  match idempotencyKey with
  | none => return none
  | some key => Proc.read fun S => S.chargeByKey folioId key

/-! ### Opening -/

structure OpenFolioDto where
  branchId : ℕ
  roomNumber : String
  guestName : Option String := none
  guestPhone : Option String := none
  guestNationality : Option String := none
  guestIdType : Option String := none
  guestIdNumber : Option String := none
  rateId : Option ℤ := none
  reservationId : Option ℤ := none
  checkInAt : Option String := none
  checkOutAt : Option String := none
  currency : Option String := none
  idempotencyKey : Option String := none
  localRef : Option String := none

def newFolio (dto : OpenFolioDto) (actorId : Option ℕ) : HotelFolio where
  branchId := dto.branchId
  localRef := dto.localRef
  status := .opened
  roomNumber := trim dto.roomNumber
  guestName := (dto.guestName.filter (· ≠ "")).map trim
  guestPhone := (dto.guestPhone.filter (· ≠ "")).map trim
  guestNationality := (dto.guestNationality.filter (· ≠ "")).map trim
  guestIdType := (dto.guestIdType.filter (· ≠ "")).map trim
  guestIdNumber := (dto.guestIdNumber.filter (· ≠ "")).map trim
  rateId := dto.rateId
  reservationId := dto.reservationId
  checkInAt := dto.checkInAt.bind env.dateColumn
  checkOutAt := dto.checkOutAt.bind env.dateColumn
  currency := ((dto.currency.filter (· ≠ "")).map fun currency => env.toUpperCase (trim currency)).getD "ETB"
  chargesTotal := ⟨0⟩
  idempotencyKey := (trimmed dto.idempotencyKey).or (some s!"folio-open-{dto.branchId}-{env.now}")
  openedByUserId := actorId
  createdAt := env.now

def invalidDate (date : Option String) : Bool := date.any fun text => (env.dateColumn text).isNone

def findFolioByKey (idempotencyKey : Option String) : HotelProc (Option (ℕ × HotelFolio)) :=
  match idempotencyKey with
  | none => return none
  | some key => Proc.read fun S : HotelStore => S.folios.first fun row => row.idempotencyKey = some key

/-- `folioRepo.save` of a new folio: `idempotencyKey` is unique. -/
def insertFolio (folio : HotelFolio) : HotelProc ℕ := do
  let S ← Proc.read id
  .throwIf (S.folios.first fun row => row.idempotencyKey = folio.idempotencyKey).isSome
    (.queryFailed "duplicate key value violates unique constraint")
  Proc.write fun S => { S with folios := S.folios.add folio }
  return S.folios.next

/-- `openFolio`: the id of the folio and its row. -/
def openFolio (dto : OpenFolioDto) (actorId : Option ℕ) : HotelProc (ℕ × HotelFolio) := do
  match ← findFolioByKey (trimmed dto.idempotencyKey) with
  | some existing => return existing
  | none =>
    .throwIf (invalidDate env dto.checkInAt ∨ invalidDate env dto.checkOutAt)
      (.queryFailed "invalid input syntax for type date")
    let saved := newFolio env dto actorId
    let id ← insertFolio saved
    return (id, saved)

/-! ### Charges -/

structure PostFolioChargeDto where
  chargeGroupCode : Option String := none
  chargeName : String
  amount : Decimal2
  currency : Option String := none
  quantity : Option ℕ := none
  idempotencyKey : Option String := none

/-- `Math.max(1, Math.round(Number(dto.quantity || 1)))`. -/
def quantityOf (dto : PostFolioChargeDto) : ℕ := max 1 (dto.quantity.getD 1)

/-- `chargeRepo.create`. -/
def newCharge (folio : HotelFolio) (dto : PostFolioChargeDto) : HotelFolioCharge where
  folioId
  branchId := folio.branchId
  chargeGroupCode := (dto.chargeGroupCode.filter (· ≠ "")).map trim
  chargeName := trim dto.chargeName
  amount := .ofRat (round2 dto.amount.value)
  currency := match dto.currency.filter (· ≠ "") with
    | none => folio.currency
    | some currency => env.toUpperCase (trim currency)
  quantity := quantityOf dto
  idempotencyKey := trimmed dto.idempotencyKey

/-- The end of `postCharge`: the row, and then the total. -/
def storeCharge (charge : HotelFolioCharge) (amount : ℚ) : HotelProc (ℕ × HotelFolioCharge) := do
  let chargeId ← insertCharge charge
  incrementTotal folioId amount
  return (chargeId, charge)

def postCharge (dto : PostFolioChargeDto) : HotelProc (ℕ × HotelFolioCharge) := do
  let folio ← loadFolio folioId
  .throwIf (folio.status ≠ .opened) (.badRequest s!"Folio {folioId} is not open — cannot post charges.")
  match ← findCharge folioId (trimmed dto.idempotencyKey) with
  | some existing => return existing
  | none => storeCharge folioId (newCharge env folioId folio dto) (round2 dto.amount.value * quantityOf dto)

/-! ### Settlement -/

structure FolioPaymentRowDto where
  method : String
  amount : Decimal2

structure SettleFolioDto where
  payments : List FolioPaymentRowDto := []
  checkoutId : Option String := none
  paidAmount : Option Decimal2 := none
  settledAt : Option ℤ := none

/-- What is paid: the sum of the payments, or the amount of the request. -/
def paidAmountOf (dto : SettleFolioDto) : Option Numeric2 :=
  if dto.payments.length > 0 then some (.ofRat (dto.payments.map fun p => p.amount.value).sum)
  else dto.paidAmount.map fun amount => .ofRat amount.value

def settledFolio (dto : SettleFolioDto) (folio : HotelFolio) : HotelFolio :=
  { folio with
    status := .settled
    settledCheckoutId := dto.checkoutId
    paidAmount := paidAmountOf dto
    settledAt := some (dto.settledAt.getD env.now) }

/-- `paid`. -/
def paidOf (folio : HotelFolio) : ℚ := round2 ((folio.paidAmount.map Numeric2.value).getD 0)

/-- `recognised`. -/
def recognisedOf (folio : HotelFolio) : ℚ :=
  let charges := round2 folio.chargesTotal.value
  if charges > 0 then charges else paidOf folio

def settledTenders (dto : SettleFolioDto) : List TenderRow :=
  dto.payments.map fun p => { method := some p.method, amount := some p.amount.value }

def settlementLines (dto : SettleFolioDto) (folio : HotelFolio) : List JournalLineInput :=
  let paid := paidOf folio
  let recognised := recognisedOf folio
  let split := splitTenders env.toUpperCase (settledTenders dto) (min paid recognised)
  let receivable := max 0 (round2 (recognised - paid))
  (if split.cash > 0 then [{ accountCode := GlAccountCode.cash.code, debit := some split.cash }] else []) ++
    (if split.clearing > 0 then
      [{ accountCode := GlAccountCode.tenderClearing.code, debit := some split.clearing }] else []) ++
    (if receivable > 0 then
      [{ accountCode := GlAccountCode.accountsReceivable.code, debit := some receivable }] else []) ++
    [{ accountCode := GlAccountCode.serviceRevenue.code, credit := some recognised }]

def settlementEntry (dto : SettleFolioDto) (folio : HotelFolio) : PostJournalEntryInput where
  branchId := folio.branchId
  occurredAt := folio.settledAt.getD env.now
  sourceType := .hospitalitySettlement
  sourceId := some s!"{folioId}"
  idempotencyKey := s!"hotel-folio-settle-{folioId}"
  currency := some folio.currency
  memo := some s!"Hotel folio settlement — folio {folioId}"
  lines := settlementLines env dto folio

/-- The posting of the settlement: "Best-effort — the folio is the source of truth." -/
def recognise (dto : SettleFolioDto) (folio : HotelFolio) : HotelProc Unit := do
  if recognisedOf folio ≤ 0 then return
  let _ : Except HttpException GlJournalEntry ← Proc.attempt
    (Proc.zoom HotelStore.ledgerLens (post env.now (settlementEntry env folioId dto folio) false))

/-- The end of `settleFolio`. -/
def settle (dto : SettleFolioDto) (saved : HotelFolio) : HotelProc HotelFolio := do
  saveFolio folioId saved
  recognise env folioId dto saved
  return saved

def settleFolio (dto : SettleFolioDto) : HotelProc HotelFolio := do
  let folio ← loadFolio folioId
  match folio.status with
  | .settled => return folio
  | .voided => throw (.badRequest s!"Folio {folioId} cannot be settled from status VOIDED.")
  | .opened => settle env folioId dto (settledFolio env dto folio)

/-! ### Voiding and transfer -/

/-- The folio when it is voided; `reason` is `dto.reason`. -/
def voidedFolio (reason : Option String) (folio : HotelFolio) : HotelFolio :=
  { folio with
    status := .voided, voidReason := (reason.filter (· ≠ "")).map trim, voidedAt := some env.now }

def voidFolio (reason : Option String) : HotelProc HotelFolio := do
  let folio ← loadFolio folioId
  match folio.status with
  | .voided => return folio
  | .settled => throw (.conflict s!"Folio {folioId} is already settled and cannot be voided.")
  | .opened => do
    saveFolio folioId (voidedFolio env reason folio)
    return voidedFolio env reason folio

structure TransferFolioRoomDto where
  newRoomNumber : String
  newGuestName : Option String := none

def transferredFolio (dto : TransferFolioRoomDto) (folio : HotelFolio) : HotelFolio :=
  { folio with
    transferredToRoom := some folio.roomNumber
    roomNumber := trim dto.newRoomNumber
    guestName := match dto.newGuestName.filter (· ≠ "") with
      | none => folio.guestName
      | some name => some (trim name) }

def transferFolioRoom (dto : TransferFolioRoomDto) : HotelProc HotelFolio := do
  let folio ← loadFolio folioId
  .throwIf (folio.status ≠ .opened) (.badRequest s!"Folio {folioId} is not open — cannot transfer room.")
  saveFolio folioId (transferredFolio dto folio)
  return transferredFolio dto folio

end SuuqBackend.HotelFolios
