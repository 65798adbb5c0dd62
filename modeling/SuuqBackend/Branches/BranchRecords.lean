import SuuqBackend.Auth.BranchGuards
import SuuqBackend.Hospitality.HotelFolios
import SuuqBackend.PropertyRental.PropertyRentalBookings
import SuuqBackend.PropertyRental.PropertyRentalInventory

/-!
# The records of the branches

The controllers of hotel folios, of property bookings and of property units and reservations.  Their guards take the
branch from the request; of the services, those that list or create rows are told the branch by the request as well,
while the others have the id of a row from the path.

The answers are the rows that they are made of.  `createdAt` is compared as the time of the call that made the row.
-/

namespace SuuqBackend

/-! ### The lists of the services -/

namespace HotelFolios

/-- `HotelFolioStatus`, by its text. -/
def statusOfText (text : String) : Option HotelFolioStatus :=
  match text with
  | "OPEN" => some .opened
  | "SETTLED" => some .settled
  | "VOIDED" => some .voided
  | _ => none

def listFolios (env : HotelRuntime) (query : BranchListQuery) : HotelProc (List (ℕ × HotelFolio)) := Proc.read fun S =>
  let wanted := query.wanted env.toUpperCase statusOfText
  let rows := S.folios.list fun row => row.branchId = query.branchId && wanted.all (row.status = ·)
  (rows.insertionSort fun a b => b.2.createdAt ≤ a.2.createdAt).take 100

end HotelFolios

namespace PropertyRentalBookings

/-- `PropertyRentalBookingStatus`, by its text. -/
def statusOfText (text : String) : Option PropertyRentalBookingStatus :=
  match text with
  | "OPEN" => some .opened
  | "SETTLED" => some .settled
  | "VOIDED" => some .voided
  | _ => none

def listBookings (env : PropertyRentalRuntime) (query : BranchListQuery) :
    PropertyRentalProc (List (ℕ × PropertyRentalBooking)) := Proc.read fun S =>
  let wanted := query.wanted env.toUpperCase statusOfText
  let rows := S.bookings.list fun row => row.branchId = query.branchId && wanted.all (row.status = ·)
  (rows.insertionSort fun a b => b.2.createdAt ≤ a.2.createdAt).take 100

/-- `getBooking`: the booking and its charges. -/
def getBooking (bookingId : ℕ) :
    PropertyRentalProc (PropertyRentalBooking × List (ℕ × PropertyRentalBookingCharge)) := do
  let some booking ← Proc.read fun S : PropertyRentalStore => S.bookings.find bookingId
    | throw (bookingNotFound bookingId)
  let charges ← Proc.read fun S : PropertyRentalStore => S.charges.list fun charge => charge.bookingId = bookingId
  return (booking, charges)

end PropertyRentalBookings

/-! ### The tables -/

/-- The tables of the services; the general ledger is among those of the hotel. -/
structure RecordStore where
  hotel : HotelStore
  bookings : SerialTable PropertyRentalBooking
  bookingCharges : SerialTable PropertyRentalBookingCharge
  units : SerialTable PropertyUnit
  reservations : SerialTable PropertyReservation

abbrev RecordProc : Type → Type := Proc RecordStore HttpException

namespace RecordStore

/-- The tables of the hotel among them. -/
def hotelLens : Proc.Lens RecordStore HotelStore where
  get S := S.hotel
  set S hotel := { S with hotel }

/-- The tables of the bookings among them. -/
def rentalLens : Proc.Lens RecordStore PropertyRentalStore where
  get S := ⟨S.bookings, S.bookingCharges, S.hotel.ledger⟩
  set S rental := { S with
    bookings := rental.bookings
    bookingCharges := rental.charges
    hotel := { S.hotel with ledger := rental.journal } }

/-- The units and reservations among them. -/
def unitLens : Proc.Lens RecordStore PropertyInventoryStore where
  get S := ⟨S.units, S.reservations⟩
  set S inventory := { S with units := inventory.units, reservations := inventory.reservations }

end RecordStore

/-- A row that is returned. -/
inductive BranchRecord where
  | folio (id : ℕ) (row : HotelFolio)
  | folioCharge (id : ℕ) (row : HotelFolioCharge)
  | booking (id : ℕ) (row : PropertyRentalBooking)
  | bookingCharge (id : ℕ) (row : PropertyRentalBookingCharge)
  | unit (id : ℕ) (row : PropertyUnit)
  | reservation (id : ℕ) (row : PropertyReservation)

def BranchRecord.branchId : BranchRecord → ℕ
  | folio _ row => row.branchId
  | folioCharge _ row => row.branchId
  | booking _ row => row.branchId
  | bookingCharge _ row => row.branchId
  | unit _ row => row.branchId
  | reservation _ row => row.branchId

/-! ### The controllers -/

/-- What the services take from the runtime. -/
structure RecordRuntime where
  hotel : HotelRuntime
  rental : PropertyRentalRuntime
  inventory : PropertyInventoryRuntime

/-- The handlers of the controllers, with what they get from the path and the DTO. -/
inductive RecordOperation where
  | listFolios (query : BranchListQuery)
  | openFolio (dto : HotelFolios.OpenFolioDto)
  | postFolioCharge (folioId : ℕ) (dto : HotelFolios.PostFolioChargeDto)
  | settleFolio (folioId : ℕ) (dto : HotelFolios.SettleFolioDto)
  | voidFolio (folioId : ℕ) (reason : Option String)
  | transferFolioRoom (folioId : ℕ) (dto : HotelFolios.TransferFolioRoomDto)
  | listBookings (query : BranchListQuery)
  | getBooking (bookingId : ℕ)
  | openBooking (dto : OpenPropertyBookingDto)
  | postCharge (bookingId : ℕ) (dto : PostPropertyChargeDto)
  | recordPayment (bookingId : ℕ) (dto : RecordPropertyPaymentDto)
  | settleBooking (bookingId : ℕ) (dto : SettlePropertyBookingDto)
  | voidBooking (bookingId : ℕ) (dto : VoidPropertyBookingDto)
  | transferUnit (bookingId : ℕ) (dto : TransferPropertyUnitDto)
  | listUnits (query : BranchListQuery)
  | createUnit (dto : CreatePropertyUnitDto)
  | updateUnit (unitId : ℕ) (dto : UpdatePropertyUnitDto)
  | listReservations (query : BranchListQuery)
  | createReservation (dto : CreatePropertyReservationDto)
  | updateReservation (reservationId : ℕ) (dto : UpdatePropertyReservationDto)

namespace RecordOperation

open RecordStore

def handler (env : RecordRuntime) (actorId : Option ℕ) : RecordOperation → RecordProc (List BranchRecord)
  | listFolios query => do
    let rows ← Proc.zoom hotelLens (HotelFolios.listFolios env.hotel query)
    return rows.map fun found => .folio found.1 found.2
  | openFolio dto => do
    let (id, folio) ← Proc.zoom hotelLens (HotelFolios.openFolio env.hotel dto actorId)
    return [.folio id folio]
  | postFolioCharge folioId dto => do
    let (id, charge) ← Proc.zoom hotelLens (HotelFolios.postCharge env.hotel folioId dto)
    return [.folioCharge id charge]
  | settleFolio folioId dto => do
    let folio ← Proc.zoom hotelLens (HotelFolios.settleFolio env.hotel folioId dto)
    return [.folio folioId folio]
  | voidFolio folioId reason => do
    let folio ← Proc.zoom hotelLens (HotelFolios.voidFolio env.hotel folioId reason)
    return [.folio folioId folio]
  | transferFolioRoom folioId dto => do
    let folio ← Proc.zoom hotelLens (HotelFolios.transferFolioRoom folioId dto)
    return [.folio folioId folio]
  | listBookings query => do
    let rows ← Proc.zoom rentalLens (PropertyRentalBookings.listBookings env.rental query)
    return rows.map fun found => .booking found.1 found.2
  | getBooking bookingId => do
    let (booking, charges) ← Proc.zoom rentalLens (PropertyRentalBookings.getBooking bookingId)
    return .booking bookingId booking :: charges.map fun found => .bookingCharge found.1 found.2
  | openBooking dto => do
    let (id, booking) ← Proc.zoom rentalLens (PropertyRentalBookings.openBooking env.rental dto actorId)
    return [.booking id booking]
  | postCharge bookingId dto => do
    let (id, charge) ← Proc.zoom rentalLens (PropertyRentalBookings.postCharge env.rental bookingId dto)
    return [.bookingCharge id charge]
  | recordPayment bookingId dto => do
    let (id, booking) ← Proc.zoom rentalLens (PropertyRentalBookings.recordPayment env.rental bookingId dto)
    return [.booking id booking]
  | settleBooking bookingId dto => do
    let (id, booking) ← Proc.zoom rentalLens (PropertyRentalBookings.settleBooking env.rental bookingId dto)
    return [.booking id booking]
  | voidBooking bookingId dto => do
    let (id, booking) ← Proc.zoom rentalLens (PropertyRentalBookings.voidBooking env.rental bookingId dto)
    return [.booking id booking]
  | transferUnit bookingId dto => do
    let (id, booking) ← Proc.zoom rentalLens (PropertyRentalBookings.transferUnit bookingId dto)
    return [.booking id booking]
  | listUnits query => do
    let rows ← Proc.zoom unitLens (PropertyRentalInventory.listUnits env.inventory query)
    return rows.map fun found => .unit found.1 found.2
  | createUnit dto => do
    let (id, unit) ← Proc.zoom unitLens (PropertyRentalInventory.createUnit env.inventory dto)
    return [.unit id unit]
  | updateUnit unitId dto => do
    let (id, unit) ← Proc.zoom unitLens (PropertyRentalInventory.updateUnit env.inventory unitId dto)
    return [.unit id unit]
  | listReservations query => do
    let rows ← Proc.zoom unitLens (PropertyRentalInventory.listReservations env.inventory query)
    return rows.map fun found => .reservation found.1 found.2
  | createReservation dto => do
    let (id, reservation) ← Proc.zoom unitLens
      (PropertyRentalInventory.createReservation env.inventory dto actorId)
    return [.reservation id reservation]
  | updateReservation reservationId dto => do
    let (id, reservation) ← Proc.zoom unitLens
      (PropertyRentalInventory.updateReservation env.inventory reservationId dto)
    return [.reservation id reservation]

/-- `@RetailBranchContext`: the query of a `GET`, and the body else. -/
def branchPath : RecordOperation → BranchPath
  | listFolios _ | listBookings _ | getBooking _ | listUnits _ | listReservations _ => .query
  | _ => .body

/-- `@RequirePosPermissions`. -/
def permissions : RecordOperation → List String
  | listFolios _ => ["VIEW_FOLIO_BOARD"]
  | openFolio _ => ["OPEN_ROOM_FOLIO"]
  | postFolioCharge _ _ => ["POST_FOLIO_CHARGE"]
  | settleFolio _ _ => ["SETTLE_ROOM_FOLIO", "SETTLE_TABLE_FOLIO"]
  | voidFolio _ _ => ["VOID_ROOM_FOLIO"]
  | transferFolioRoom _ _ => ["TRANSFER_FOLIO_ROOM"]
  | listBookings _ | getBooking _ | listUnits _ | listReservations _ => ["VIEW_PROPERTY_BOARD"]
  | openBooking _ | createUnit _ | updateUnit _ _ | createReservation _ | updateReservation _ _ =>
    ["OPEN_PROPERTY_BOOKING"]
  | postCharge _ _ => ["POST_PROPERTY_CHARGE"]
  | recordPayment _ _ | settleBooking _ _ => ["SETTLE_PROPERTY_BOOKING"]
  | voidBooking _ _ => ["VOID_PROPERTY_BOOKING"]
  | transferUnit _ _ => ["TRANSFER_PROPERTY_UNIT"]

/-- The branch that the DTO names, where the service reads it. -/
def namedBranch : RecordOperation → Option ℕ
  | listFolios query | listBookings query | listUnits query | listReservations query => some query.branchId
  | openFolio dto => some dto.branchId
  | openBooking dto => some dto.branchId
  | createUnit dto => some dto.branchId
  | createReservation dto => some dto.branchId
  | _ => none

end RecordOperation

/-- A request: its handler, and the values of `branchId` in its body and its query. -/
structure RecordRequest where
  operation : RecordOperation
  body : Option String := none
  query : Option String := none

namespace RecordRequest

/-- The request as the guards see it. -/
def toBranchRequest (request : RecordRequest) : BranchRequest where
  requiredModules := [.posCore]
  requiredPermissions := request.operation.permissions
  configuredPath := some request.operation.branchPath
  body := request.body
  query := request.query

def dtoValue (request : RecordRequest) : Option String :=
  request.toBranchRequest.valueAt request.operation.branchPath

/-- `@Type(() => Number)`. -/
def typedNumber (env : GuardRuntime) (text : String) : Option ℚ := if text = "" then some 0 else env.number text

/-- The validation takes the value of `branchId`: where the service reads it, it has to be there.  The query of a single
booking is not validated. -/
def Bound (env : GuardRuntime) (request : RecordRequest) : Prop :=
  match request.operation, request.operation.namedBranch with
  | .getBooking _, _ => True
  | _, some branchId => request.dtoValue.bind (typedNumber env) = some (branchId : ℚ)
  | _, none => ∀ text ∈ request.dtoValue, (typedNumber env text).isSome

/-- Both guards and the validation let the request pass. -/
structure Admitted (env : GuardRuntime) (access : AccessStore) (now : ℤ) (user : RequestUser)
    (request : RecordRequest) : Prop where
  modules : RetailModulesGuard.canActivate env access now (some user) request.toBranchRequest = .ok ()
  session : PosBranchAccessGuard.canActivate env access (some user) request.toBranchRequest = .ok ()
  bound : request.Bound env

end RecordRequest

end SuuqBackend
