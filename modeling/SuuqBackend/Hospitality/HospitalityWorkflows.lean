import SuuqBackend.Hospitality.HospitalityStore

/-!
# The hospitality workflows

`HospitalityWorkflowsService`: the splits, reopenings and voids of table bills, and the changes of the table board.
Each call looks for a response under its idempotency key, before its transaction and again in it, and records its
own with its writes.
-/

namespace SuuqBackend.HospitalityWorkflows

/-! ### Texts -/

/-- `text || null`. -/
def given (text : Option String) : Option String := text.filter (· ≠ "")

/-- `value || stored || null`. -/
def orStored (value stored : Option String) : Option String := (given value).or (given stored)

def actorDisplay (actor : ActorSummary) : Option String := given actor.email

def normalizeBillId (billId : String) : Except HttpException String :=
  if trim billId = "" then .error (.badRequest "Bill ID is required.") else .ok (trim billId)

section Texts

variable (env : HospitalityRuntime)

/-- `String(text).trim().toUpperCase()`. -/
def trimUpper (text : String) : String := env.toUpperCase (trim text)

def normalizeTableId (tableId : String) : Except HttpException String :=
  if trimUpper env tableId = "" then .error (.badRequest "Table ID is required.")
  else .ok (trimUpper env tableId)

def normalizeCurrency (value : Option String) : String := trimUpper env ((given value).getD "ETB")

/-- What `normalizeActiveBills` makes of a bill. -/
def normalizeActiveBill (item : ActiveBill) : ActiveBill where
  billId := trim item.billId
  billLabel := trim ((given (some item.billLabel)).getD item.billId)
  status := trimUpper env ((given (some item.status)).getD "OPEN")
  itemCount := item.itemCount
  grandTotal := item.grandTotal
  currency := normalizeCurrency env (some item.currency)

def normalizeActiveBills (bills : List ActiveBill) : List ActiveBill := bills.map (normalizeActiveBill env)

/-- `mergeActiveBill`, on the bills of the table. -/
def mergeActiveBill (bills : List ActiveBill) (nextBill : ActiveBill) : List ActiveBill :=
  let activeBills := normalizeActiveBills env bills
  match activeBills.findIdx? (·.billId = nextBill.billId) with
  | none => activeBills ++ [nextBill]
  | some existingBillIndex => activeBills.set existingBillIndex nextBill

end Texts

/-! ### Idempotency -/

variable (branchId : ℕ)

def getIdempotencyResult (key : String) : HospitalityProc (Option HospitalityResponse) :=
  if trim key = "" then return none
  else Proc.read fun s => s.idempotencyKeys.lookup (branchId, trim key)

def saveIdempotencyResult (key : String) (value : HospitalityResponse) : HospitalityProc Unit :=
  if trim key = "" then return
  else Proc.write fun s => { s with idempotencyKeys := s.idempotencyKeys.insert (branchId, trim key) value }

/-- What every call does around its own work: a recorded response is returned again, and the checks come before the
transaction. -/
def idempotently (key : String) (checks : HospitalityProc Unit)
    (work : HospitalityProc HospitalityResponse) : HospitalityProc HospitalityResponse := do
  match ← getIdempotencyResult branchId key with
  | some existing => return existing
  | none =>
    checks
    Proc.transaction do
      match ← getIdempotencyResult branchId key with
      | some retry => return retry
      | none =>
        let response ← work
        saveIdempotencyResult branchId key response
        return response

/-! ### The table board -/

section Tables

variable (env : HospitalityRuntime) (now : ℤ) (branchId : ℕ)

/-- The row that `ensureTableRecord` creates. -/
def newTable (tableId : String) (tableLabel areaCode : Option String) : HospitalityTableBoard where
  tableLabel := trim ((given tableLabel).getD tableId)
  areaCode := trimUpper env ((given areaCode).getD "MAIN_ROOM")
  status := .opened
  seatCount := 4
  ownerUserId := none
  ownerReference := none
  ownerDisplayName := none
  activeGuestCount := 0
  activeBills := []
  version := 1
  updatedAt := now

def seeded (tableLabel areaCode : Option String) (table : HospitalityTableBoard) : HospitalityTableBoard :=
  { table with
    tableLabel := ((given tableLabel).map trim).getD table.tableLabel
    areaCode := ((given areaCode).map (trimUpper env)).getD table.areaCode }

/-- `ensureTableRecord`: the normalized id, and the row, which is not saved yet. -/
def ensureTableRecord (tableId : String) (tableLabel areaCode : Option String) :
    HospitalityProc (String × HospitalityTableBoard) := do
  let normalizedTableId ← .ofExcept (normalizeTableId env tableId)
  let table ← Proc.read fun s : HospitalityStore => s.tableBoards.lookup (branchId, normalizedTableId)
  return (normalizedTableId, seeded env tableLabel areaCode
    (table.getD (newTable env now normalizedTableId tableLabel areaCode)))

/-- `save` of a table. -/
def saveTable (tableId : String) (table : HospitalityTableBoard) : HospitalityProc Unit :=
  Proc.write fun s => { s with tableBoards := s.tableBoards.insert (branchId, tableId) table }

/-- The row as `updateTableStatus` changes it. -/
def withStatus (dto : UpdateTableStatusDto) (actor : ActorSummary) (table : HospitalityTableBoard) :
    HospitalityTableBoard :=
  let owned := (orStored dto.ownerReference dto.ownerLabel).isSome
  { table with
    status := dto.nextStatus
    activeGuestCount := (dto.guestCount.map (max 0)).getD table.activeGuestCount
    ownerUserId := if owned then none else table.ownerUserId
    ownerReference := if owned then orStored dto.ownerReference dto.ownerLabel else table.ownerReference
    ownerDisplayName :=
      if owned then (orStored dto.ownerLabel dto.ownerReference).or (actorDisplay actor)
      else table.ownerDisplayName
    version := table.version + 1
    updatedAt := now }

def updateTableStatus (tableId : String) (dto : UpdateTableStatusDto) (actor : ActorSummary) :
    HospitalityProc HospitalityResponse :=
  idempotently branchId dto.idempotencyKey (pure ()) do
    let (normalizedTableId, found) ← ensureTableRecord env now branchId tableId dto.tableLabel dto.areaCode
    let table := withStatus now dto actor found
    saveTable branchId normalizedTableId table
    return .table normalizedTableId table actor

/-- The row as `assignTableOwner` changes it. -/
def withOwner (dto : AssignTableOwnerDto) (actor : ActorSummary) (table : HospitalityTableBoard) :
    HospitalityTableBoard :=
  { table with
    ownerUserId := dto.ownerUserId
    ownerReference := orStored dto.ownerReference dto.ownerLabel
    ownerDisplayName := ((orStored dto.ownerLabel dto.ownerReference).or (actorDisplay actor)).or
      (dto.ownerUserId.map fun id => s!"User {id}")
    version := table.version + 1
    updatedAt := now }

def assignTableOwner (tableId : String) (dto : AssignTableOwnerDto) (actor : ActorSummary) :
    HospitalityProc HospitalityResponse :=
  idempotently branchId dto.idempotencyKey
    (.throwIf (dto.ownerUserId = none ∧ orStored dto.ownerReference dto.ownerLabel = none)
      (.badRequest "A table owner reference, label, or user ID is required.")) do
    let (normalizedTableId, found) ← ensureTableRecord env now branchId tableId dto.tableLabel dto.areaCode
    let table := withOwner now dto actor found
    saveTable branchId normalizedTableId table
    return .table normalizedTableId table actor

end Tables

/-! ### Bill interventions -/

/-- The action of an intervention, with its payload. -/
inductive BillAction where
  | reopen (dto : ConfirmedBillDto)
  | void (dto : ConfirmedBillDto)
  | split (dto : SplitOpenBillDto)

namespace BillAction

def payload : BillAction → HospitalityBillContextDto
  | reopen dto => dto.toHospitalityBillContextDto
  | void dto => dto.toHospitalityBillContextDto
  | split dto => dto.toHospitalityBillContextDto

def actionType : BillAction → String
  | reopen _ => "REOPEN"
  | void _ => "VOID"
  | split _ => "SPLIT"

/-- `lifecycleStatus`: the status that the action gives to the bill. -/
def lifecycleStatus : BillAction → String
  | void _ => "VOIDED"
  | reopen _ => "REOPENED"
  | split _ => "OPEN"

def priority : BillAction → String
  | void _ => "CRITICAL"
  | _ => "HIGH"

end BillAction

section Interventions

variable (env : HospitalityRuntime) (now : ℤ) (branchId : ℕ)

/-- The row of the intervention, as it is saved. -/
def intervention (billId : String) (action : BillAction) (actor : ActorSummary)
    (current : Option HospitalityBillIntervention) : HospitalityBillIntervention :=
  let payload := action.payload
  { interventionId := (given (current.map (·.interventionId))).getD s!"bill-int-{branchId}-{billId}"
    billId
    billLabel := (orStored payload.billLabel (current.map (·.billLabel))).getD billId
    tableId := orStored payload.tableId (current.bind (·.tableId))
    tableLabel := orStored payload.tableLabel (current.bind (·.tableLabel))
    receiptId := orStored payload.receiptId (current.bind (·.receiptId))
    receiptNumber := orStored payload.receiptNumber (current.bind (·.receiptNumber))
    actionType := action.actionType
    lifecycleStatus := action.lifecycleStatus
    serviceOwner := orStored payload.serviceOwner (current.bind (·.serviceOwner))
    itemCount := (payload.itemCount.or (current.map (·.itemCount))).getD 0
    total := (payload.total.or (current.map (·.total))).getD 0
    currency := trimUpper env ((orStored payload.currency (current.map (·.currency))).getD "ETB")
    reason := orStored payload.reason (current.bind (·.reason))
    priority := action.priority
    actorUserId := actor.id
    actorDisplayName := actorDisplay actor
    version := (current.map (·.version + 1)).getD 1
    createdAt := (current.map (·.createdAt)).getD now
    updatedAt := now }

def activeBill (saved : HospitalityBillIntervention) : ActiveBill where
  billId := saved.billId
  billLabel := saved.billLabel
  status := saved.lifecycleStatus
  itemCount := saved.itemCount
  grandTotal := saved.total
  currency := saved.currency

def splitBillId (billId : String) (version : ℕ) : String := s!"{billId}-SPLIT-{version}"

def splitBill (saved : HospitalityBillIntervention) (dto : SplitOpenBillDto) : ActiveBill where
  billId := splitBillId saved.billId saved.version
  billLabel := (given dto.targetBillLabel).getD s!"Split {saved.version}"
  status := "OPEN"
  itemCount := dto.lineIds.length
  grandTotal := dto.total.getD saved.total
  currency := normalizeCurrency env (orStored dto.currency (some saved.currency))

def mergedBills (saved : HospitalityBillIntervention) (action : BillAction) (bills : List ActiveBill) :
    List ActiveBill :=
  let merged := mergeActiveBill env bills (activeBill saved)
  match action with
  | .split dto => mergeActiveBill env merged (splitBill env saved dto)
  | _ => merged

/-- `save` of an intervention: the column of the total keeps cents. -/
def saveIntervention (saved : HospitalityBillIntervention) : HospitalityProc Unit :=
  Proc.write fun s => { s with
    billInterventions := s.billInterventions.insert (branchId, saved.billId)
      { saved with total := numeric2 saved.total } }

/-- What `upsertBillIntervention` does about the table of the bill. -/
def mergeIntoTable (saved : HospitalityBillIntervention) (action : BillAction) : HospitalityProc Unit :=
  match given saved.tableId with
  | none => return
  | some tableId => do
    let (normalizedTableId, table) ← ensureTableRecord env now branchId tableId (given saved.tableLabel) none
    saveTable branchId normalizedTableId { table with
      tableLabel := (given saved.tableLabel).getD table.tableLabel
      activeBills := mergedBills env saved action table.activeBills
      version := table.version + 1
      updatedAt := now }

def upsertBillIntervention (billId : String) (action : BillAction) (actor : ActorSummary) :
    HospitalityProc HospitalityBillIntervention := do
  let normalizedBillId ← .ofExcept (normalizeBillId billId)
  let current ← Proc.read fun s : HospitalityStore => s.billInterventions.lookup (branchId, normalizedBillId)
  let saved := intervention env now branchId normalizedBillId action actor current
  saveIntervention branchId saved
  mergeIntoTable env now branchId saved action
  return saved

def splitResponse (dto : SplitOpenBillDto) (actor : ActorSummary) (saved : HospitalityBillIntervention) :
    HospitalityResponse :=
  .split
    { billId := saved.billId, billLabel := saved.billLabel, itemCount := saved.itemCount,
      grandTotal := saved.total, currency := saved.currency }
    { billId := splitBillId saved.billId saved.version,
      billLabel := (given dto.targetBillLabel).getD s!"Split {saved.version}",
      itemCount := dto.lineIds.length, grandTotal := dto.total.getD saved.total,
      currency := normalizeCurrency env (orStored dto.currency (some saved.currency)) }
    saved actor

def splitOpenBill (billId : String) (dto : SplitOpenBillDto) (actor : ActorSummary) :
    HospitalityProc HospitalityResponse :=
  idempotently branchId dto.idempotencyKey (pure ()) do
    let saved ← upsertBillIntervention env now branchId billId (.split dto) actor
    return splitResponse env dto actor saved

def billVoided : HttpException := .notFound "A voided bill cannot be reopened back into the lane."

def reopenSettledBill (billId : String) (dto : ConfirmedBillDto) (actor : ActorSummary) :
    HospitalityProc HospitalityResponse :=
  idempotently branchId dto.idempotencyKey
    (.throwIf (dto.confirmed = false) (.conflict "Settled bill reopen requires explicit confirmation.")) do
    let normalizedBillId ← .ofExcept (normalizeBillId billId)
    let currentIntervention ← Proc.read fun s : HospitalityStore =>
      s.billInterventions.lookup (branchId, normalizedBillId)
    .throwIf (∃ current ∈ currentIntervention, current.lifecycleStatus = "VOIDED") billVoided
    let saved ← upsertBillIntervention env now branchId billId (.reopen dto) actor
    return .bill "ACTIVE" "REOPENED" saved actor

def voidSettledBill (billId : String) (dto : ConfirmedBillDto) (actor : ActorSummary) :
    HospitalityProc HospitalityResponse :=
  idempotently branchId dto.idempotencyKey
    (.throwIf (dto.confirmed = false) (.conflict "Settled bill void requires explicit confirmation.")) do
    let saved ← upsertBillIntervention env now branchId billId (.void dto) actor
    return .bill "VOIDED" "VOIDED" saved actor

end Interventions

end SuuqBackend.HospitalityWorkflows
