import SuuqBackend.Hospitality.HotelFolios

/-!
# The night audit

`HotelInventoryService.runNightAudit`: "Post ROOM_NIGHT charges for every OPEN folio in the branch whose checkout
date has not yet passed.  Idempotent per (folioId, auditDate)."  An overdue folio is charged from its check-out on.
The day of the week is that of noon UTC, which is the same day wherever the server stands.
-/

namespace SuuqBackend.HotelInventory

open GeneralLedger HotelFolios

structure TriggerNightAuditDto where
  branchId : ℕ
  auditDate : Option CalendarDate := none
  defaultRatePlanId : Option ℕ := none

/-! ### Rates -/

/-- `planByType` and `defaultPlan`; the plan that was set last stands first. -/
structure PlanLookup where
  planByType : List (String × HotelRatePlan) := []
  defaultPlan : Option HotelRatePlan := none

section Plans

variable (env : HotelRuntime) (dto : TriggerNightAuditDto)

/-- One round of the loop over the plans. -/
def addPlan (lookup : PlanLookup) (plan : HotelRatePlan) : PlanLookup :=
  match plan.roomType.filter (· ≠ "") with
  | some roomType => { lookup with planByType := (env.toUpperCase roomType, plan) :: lookup.planByType }
  | none =>
    if lookup.defaultPlan = none ∨ some plan.id = dto.defaultRatePlanId then
      { lookup with defaultPlan := some plan }
    else lookup

def activePlans (S : HotelStore) : List HotelRatePlan :=
  S.ratePlans.filter fun plan => plan.branchId = dto.branchId ∧ plan.isActive

/-- The plans of the branch by type of room; a named default plan is looked for when there are none. -/
def planLookup (S : HotelStore) : PlanLookup :=
  let lookup := (activePlans dto S).foldl (addPlan env dto) {}
  if lookup.planByType = [] ∧ lookup.defaultPlan = none then
    { lookup with
      defaultPlan := (dto.defaultRatePlanId.filter (· ≠ 0)).bind fun id => S.ratePlans.find? fun plan => plan.id = id }
  else lookup

def roomTypeOf (S : HotelStore) (folio : HotelFolio) : Option String :=
  if folio.roomNumber = "" then none
  else
    let room := S.rooms.find? fun room => room.branchId = dto.branchId ∧ room.roomNumber = folio.roomNumber
    (room.bind HotelRoom.roomType).filter (· ≠ "")

/-- The plan for the folio: that of the type of its room, or the default. -/
def resolvePlan (lookup : PlanLookup) (roomType : Option String) : Option HotelRatePlan :=
  (roomType.bind fun roomType => lookup.planByType.lookup (env.toUpperCase roomType)).or lookup.defaultPlan

end Plans

/-- The rate of the plan for a night: Friday and Saturday have a rate of their own. -/
def rateFor (plan : HotelRatePlan) (day : ℤ) : ℚ :=
  if weekday day = 5 ∨ weekday day = 6 then (plan.weekendRate.getD plan.weekdayRate).value
  else plan.weekdayRate.value

/-! ### Nights -/

/-- `fromDate`: the check-out of an overdue folio, otherwise the date of the audit. -/
def fromDate (folio : HotelFolio) (auditDate : CalendarDate) : CalendarDate :=
  match folio.checkOutAt with
  | none => auditDate
  | some checkOutAt => if checkOutAt.day < auditDate.day then checkOutAt else auditDate

/-- `datesToPost`: the days from `fromDate` to the date of the audit. -/
def datesToPost (folio : HotelFolio) (auditDate : CalendarDate) : List ℤ :=
  let first := (fromDate folio auditDate).day
  (List.range (auditDate.day - first + 1).toNat).map fun n : ℕ => first + n

def auditKey (folioId : ℕ) (day : ℤ) : String := s!"night-audit:{dateText day}:{folioId}"

/-- `folio.currency || plan.currency || 'ETB'`. -/
def nightCurrency (folio : HotelFolio) (plan : HotelRatePlan) : String :=
  if folio.currency ≠ "" then folio.currency else if plan.currency ≠ "" then plan.currency else "ETB"

def nightCharge (branchId folioId : ℕ) (folio : HotelFolio) (plan : HotelRatePlan) (day : ℤ) : HotelFolioCharge where
  folioId
  branchId
  chargeGroupCode := some "ROOM_NIGHT"
  chargeName := s!"Room charge – {dateText day}"
  amount := .ofRat (round2 (rateFor plan day))
  currency := nightCurrency folio plan
  quantity := 1
  idempotencyKey := some (auditKey folioId day)

/-- `chargesPosted`, `totalAmount` and `skipped`. -/
structure AuditTotals where
  chargesPosted : ℕ := 0
  totalAmount : ℚ := 0
  skipped : List ℕ := []

/-- The loop over the dates of a folio: the charge has the rounded rate, the total grows by the rate. -/
def postNights (branchId folioId : ℕ) (folio : HotelFolio) (plan : HotelRatePlan) :
    List ℤ → AuditTotals → HotelProc AuditTotals
  | [], totals => pure totals
  | day :: days, totals => do
    match ← findCharge folioId (some (auditKey folioId day)) with
    | some _ => postNights branchId folioId folio plan days totals
    | none => do
      let _ ← insertCharge (nightCharge branchId folioId folio plan day)
      incrementTotal folioId (rateFor plan day)
      postNights branchId folioId folio plan days
        { totals with
          chargesPosted := totals.chargesPosted + 1, totalAmount := totals.totalAmount + rateFor plan day }

/-- The loop over the folios: one without a positive rate is skipped. -/
def auditFolios (env : HotelRuntime) (dto : TriggerNightAuditDto) (lookup : PlanLookup) (auditDate : CalendarDate) :
    List (ℕ × HotelFolio) → AuditTotals → HotelProc AuditTotals
  | [], totals => pure totals
  | (folioId, folio) :: folios, totals => do
    let roomType ← Proc.read fun S : HotelStore => roomTypeOf dto S folio
    match (resolvePlan env lookup roomType).filter fun plan => 0 < plan.weekdayRate.value with
    | none => auditFolios env dto lookup auditDate folios { totals with skipped := totals.skipped ++ [folioId] }
    | some plan => do
      let totals ← postNights dto.branchId folioId folio plan (datesToPost folio auditDate) totals
      auditFolios env dto lookup auditDate folios totals

def openFolios (branchId : ℕ) (S : HotelStore) : List (ℕ × HotelFolio) :=
  (List.range S.folios.next).filterMap fun id =>
    ((S.folios.find id).filter fun folio => folio.branchId = branchId ∧ folio.status = .opened).map fun folio =>
      (id, folio)

/-- `runNightAudit`: the log of the run, and how many folios were skipped. -/
def runNightAudit (env : HotelRuntime) (dto : TriggerNightAuditDto) (actorId : Option ℕ) :
    HotelProc (HotelNightAuditLog × ℕ) := do
  let auditDate := dto.auditDate.getD env.today
  let lookup ← Proc.read fun S : HotelStore => planLookup env dto S
  let folios ← Proc.read fun S : HotelStore => openFolios dto.branchId S
  let totals ← auditFolios env dto lookup auditDate folios {}
  let log : HotelNightAuditLog :=
    { branchId := dto.branchId
      auditDate
      foliosProcessed := folios.length
      chargesPosted := totals.chargesPosted
      totalAmount := .ofRat (round2 totals.totalAmount)
      currency := (lookup.defaultPlan.map HotelRatePlan.currency).getD "ETB"
      triggeredByUserId := actorId }
  Proc.write fun S => { S with auditLogs := S.auditLogs ++ [log] }
  return (log, totals.skipped.length)

end SuuqBackend.HotelInventory
