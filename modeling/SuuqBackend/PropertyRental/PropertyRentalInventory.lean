import Mathlib.Data.List.Sort
import SuuqBackend.Common.Numeric
import SuuqBackend.PosSync.ProductAliases

/-!
# Units and reservations of property rentals

`PropertyRentalInventoryService`.  Units and reservations are listed by their branch and changed by their id.

A field of a request that may be `null` has two layers of `Option`: the outer one says whether it is given.
`dateColumn` is what a column of type `date` keeps of a text, if it takes it.  The order of texts is that of the list.
-/

namespace SuuqBackend

inductive PropertyUnitStatus where
  | active
  | inactive
deriving DecidableEq

inductive PropertyUnitType where
  | studio
  | oneBed
  | twoBed
  | threeBed
  | house
  | room
  | other
deriving DecidableEq

inductive PropertyReservationStatus where
  | hold
  | confirmed
  | movedIn
  | movedOut
  | cancelled
  | noShow
deriving DecidableEq

structure PropertyUnit where
  branchId : ℕ
  propertyCode : String
  name : String
  unitType : PropertyUnitType := .other
  address : Option String := none
  capacity : Option ℤ := none
  areaSqm : Option Decimal2 := none
  status : PropertyUnitStatus := .active
  metadata : Option String := none

structure PropertyReservation where
  branchId : ℕ
  status : PropertyReservationStatus := .hold
  propertyCode : Option String := none
  renterName : String
  renterPhone : Option String := none
  renterEmail : Option String := none
  numberOfOccupants : Option ℤ := none
  leaseStartAt : Option String := none
  leaseEndAt : Option String := none
  ratePlanId : Option ℤ := none
  bookingId : Option ℤ := none
  notes : Option String := none
  createdByUserId : Option ℕ := none

/-- The two tables. -/
structure PropertyInventoryStore where
  units : SerialTable PropertyUnit
  reservations : SerialTable PropertyReservation

abbrev PropertyInventoryProc : Type → Type := Proc PropertyInventoryStore HttpException

structure PropertyInventoryRuntime where
  toUpperCase : String → String
  dateColumn : String → Option String := some

/-! ### Requests -/

structure BranchListQuery where
  branchId : ℕ
  status : Option String := none

/-- The status that the rows of a list have to have, if the query names one. -/
def BranchListQuery.wanted {ς : Type} (query : BranchListQuery) (toUpperCase : String → String)
    (ofText : String → Option ς) : Option ς :=
  (query.status.filter (· ≠ "")).bind fun status => ofText (toUpperCase (trim status))

structure CreatePropertyUnitDto where
  branchId : ℕ
  propertyCode : String
  name : String
  unitType : Option String := none
  address : Option String := none
  capacity : Option ℤ := none
  areaSqm : Option Decimal2 := none
  status : Option String := none

structure UpdatePropertyUnitDto where
  name : Option (Option String) := none
  unitType : Option (Option String) := none
  address : Option (Option String) := none
  capacity : Option (Option ℤ) := none
  areaSqm : Option (Option Decimal2) := none
  status : Option (Option String) := none

structure CreatePropertyReservationDto where
  branchId : ℕ
  renterName : String
  propertyCode : Option String := none
  renterPhone : Option String := none
  renterEmail : Option String := none
  numberOfOccupants : Option ℤ := none
  leaseStartAt : Option String := none
  leaseEndAt : Option String := none
  ratePlanId : Option ℤ := none
  notes : Option String := none

structure UpdatePropertyReservationDto where
  status : Option (Option String) := none
  propertyCode : Option (Option String) := none
  renterName : Option (Option String) := none
  renterPhone : Option (Option String) := none
  renterEmail : Option (Option String) := none
  numberOfOccupants : Option (Option ℤ) := none
  leaseStartAt : Option (Option String) := none
  leaseEndAt : Option (Option String) := none
  ratePlanId : Option (Option ℤ) := none
  notes : Option (Option String) := none

namespace PropertyRentalInventory

variable (env : PropertyInventoryRuntime)

/-- `PropertyUnitType`, by its text. -/
def unitTypeOfText (text : String) : Option PropertyUnitType :=
  match text with
  | "STUDIO" => some .studio
  | "ONE_BED" => some .oneBed
  | "TWO_BED" => some .twoBed
  | "THREE_BED" => some .threeBed
  | "HOUSE" => some .house
  | "ROOM" => some .room
  | "OTHER" => some .other
  | _ => none

/-- `PropertyUnitStatus`, by its text. -/
def unitStatusOfText (text : String) : Option PropertyUnitStatus :=
  match text with
  | "ACTIVE" => some .active
  | "INACTIVE" => some .inactive
  | _ => none

/-- `PropertyReservationStatus`, by its text. -/
def reservationStatusOfText (text : String) : Option PropertyReservationStatus :=
  match text with
  | "HOLD" => some .hold
  | "CONFIRMED" => some .confirmed
  | "MOVED_IN" => some .movedIn
  | "MOVED_OUT" => some .movedOut
  | "CANCELLED" => some .cancelled
  | "NO_SHOW" => some .noShow
  | _ => none

/-- `String(value)`. -/
def stringOf (value : Option String) : String := value.getD "null"

/-- `value ? String(value).trim() : null`. -/
def trimmedOrNull (value : Option String) : Option String := (value.filter (· ≠ "")).map trim

/-- `String(value).trim().toUpperCase()`. -/
def upper (value : Option String) : String := env.toUpperCase (trim (stringOf value))

/-! ### Units -/

def listUnits (query : BranchListQuery) : PropertyInventoryProc (List (ℕ × PropertyUnit)) := Proc.read fun s =>
  let wanted := query.wanted env.toUpperCase unitStatusOfText
  let rows := s.units.list fun row => row.branchId = query.branchId && wanted.all (row.status = ·)
  (rows.insertionSort fun a b => a.2.propertyCode ≤ b.2.propertyCode).take 500

def newUnit (dto : CreatePropertyUnitDto) : PropertyUnit where
  branchId := dto.branchId
  propertyCode := trim dto.propertyCode
  name := trim dto.name
  unitType := (unitTypeOfText (env.toUpperCase (trim (dto.unitType.getD "")))).getD .other
  address := trimmedOrNull dto.address
  capacity := dto.capacity
  areaSqm := dto.areaSqm
  status := if env.toUpperCase (trim (dto.status.getD "")) = "INACTIVE" then .inactive else .active

def unitByCode (s : PropertyInventoryStore) (branchId : ℕ) (propertyCode : String) : Option (ℕ × PropertyUnit) :=
  s.units.first fun row => row.branchId = branchId && row.propertyCode = propertyCode

def createUnit (dto : CreatePropertyUnitDto) : PropertyInventoryProc (ℕ × PropertyUnit) := do
  let propertyCode := trim dto.propertyCode
  let s ← Proc.read id
  .throwIf (unitByCode s dto.branchId propertyCode).isSome
    (.conflict s!"Property code \"{propertyCode}\" already exists for this branch.")
  Proc.write fun s => { s with units := s.units.add (newUnit env dto) }
  return (s.units.next, newUnit env dto)

/-- The unit after the data of `updateUnit`. -/
def updatedUnit (unit : PropertyUnit) (dto : UpdatePropertyUnitDto) : PropertyUnit :=
  { unit with
    name := (dto.name.map fun name => trim (stringOf name)).getD unit.name
    unitType := (dto.unitType.bind fun unitType => unitTypeOfText (upper env unitType)).getD unit.unitType
    address := (dto.address.map trimmedOrNull).getD unit.address
    capacity := dto.capacity.getD unit.capacity
    areaSqm := dto.areaSqm.getD unit.areaSqm
    status := (dto.status.bind fun status => unitStatusOfText (upper env status)).getD unit.status }

def updateUnit (id : ℕ) (dto : UpdatePropertyUnitDto) : PropertyInventoryProc (ℕ × PropertyUnit) := do
  let some unit ← Proc.read fun s : PropertyInventoryStore => s.units.find id
    | throw (.notFound s!"Property unit {id} not found.")
  Proc.write fun s => { s with units := s.units.set id (updatedUnit env unit dto) }
  return (id, updatedUnit env unit dto)

/-! ### Reservations -/

/-- The order of the list: dates that are missing come last. -/
def startsBefore (a b : PropertyReservation) : Prop :=
  match a.leaseStartAt, b.leaseStartAt with
  | some start, some start' => start ≤ start'
  | none, some _ => False
  | _, none => True

instance (a b : PropertyReservation) : Decidable (startsBefore a b) := by
  unfold startsBefore
  split <;> infer_instance

def listReservations (query : BranchListQuery) : PropertyInventoryProc (List (ℕ × PropertyReservation)) :=
  Proc.read fun s =>
    let wanted := query.wanted env.toUpperCase reservationStatusOfText
    let rows := s.reservations.list fun row => row.branchId = query.branchId && wanted.all (row.status = ·)
    (rows.insertionSort fun a b => startsBefore a.2 b.2).take 200

def invalidDate (date : Option String) : Bool := date.any fun text => (env.dateColumn text).isNone

/-- A column of type `date` refuses its value. -/
def invalidDateSyntax : HttpException := .queryFailed "invalid input syntax for type date"

def newReservation (dto : CreatePropertyReservationDto) (actorId : Option ℕ) : PropertyReservation where
  branchId := dto.branchId
  status := .hold
  propertyCode := trimmedOrNull dto.propertyCode
  renterName := trim dto.renterName
  renterPhone := trimmedOrNull dto.renterPhone
  renterEmail := trimmedOrNull dto.renterEmail
  numberOfOccupants := dto.numberOfOccupants
  leaseStartAt := dto.leaseStartAt.bind env.dateColumn
  leaseEndAt := dto.leaseEndAt.bind env.dateColumn
  ratePlanId := dto.ratePlanId
  notes := trimmedOrNull dto.notes
  createdByUserId := actorId

def createReservation (dto : CreatePropertyReservationDto) (actorId : Option ℕ) :
    PropertyInventoryProc (ℕ × PropertyReservation) := do
  .throwIf (invalidDate env dto.leaseStartAt || invalidDate env dto.leaseEndAt) invalidDateSyntax
  let s ← Proc.read id
  Proc.write fun s => { s with reservations := s.reservations.add (newReservation env dto actorId) }
  return (s.reservations.next, newReservation env dto actorId)

/-- The reservation after the data of `updateReservation`. -/
def updatedReservation (reservation : PropertyReservation) (dto : UpdatePropertyReservationDto) : PropertyReservation :=
  { reservation with
    status := (dto.status.bind fun status => reservationStatusOfText (upper env status)).getD reservation.status
    propertyCode := (dto.propertyCode.map trimmedOrNull).getD reservation.propertyCode
    renterName := (dto.renterName.map fun name => trim (stringOf name)).getD reservation.renterName
    renterPhone := (dto.renterPhone.map trimmedOrNull).getD reservation.renterPhone
    renterEmail := (dto.renterEmail.map trimmedOrNull).getD reservation.renterEmail
    numberOfOccupants := dto.numberOfOccupants.getD reservation.numberOfOccupants
    leaseStartAt := (dto.leaseStartAt.map fun date => date.bind env.dateColumn).getD reservation.leaseStartAt
    leaseEndAt := (dto.leaseEndAt.map fun date => date.bind env.dateColumn).getD reservation.leaseEndAt
    ratePlanId := dto.ratePlanId.getD reservation.ratePlanId
    notes := (dto.notes.map trimmedOrNull).getD reservation.notes }

def invalidDates (dto : UpdatePropertyReservationDto) : Bool :=
  invalidDate env (dto.leaseStartAt.getD none) || invalidDate env (dto.leaseEndAt.getD none)

def updateReservation (id : ℕ) (dto : UpdatePropertyReservationDto) :
    PropertyInventoryProc (ℕ × PropertyReservation) := do
  let some reservation ← Proc.read fun s : PropertyInventoryStore => s.reservations.find id
    | throw (.notFound s!"Property reservation {id} not found.")
  .throwIf (invalidDates env dto) invalidDateSyntax
  Proc.write fun s => { s with reservations := s.reservations.set id (updatedReservation env reservation dto) }
  return (id, updatedReservation env reservation dto)

end PropertyRentalInventory

end SuuqBackend
