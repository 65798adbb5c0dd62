import SuuqBackend.Branches.BranchTransfers
import SuuqBackend.PosSync.ProductAliases
import Mathlib.Algebra.Order.Group.Unbundled.Int

/-!
# Point of sale synchronisation

`PosSyncService`: a point of sale reports stock and sales as a list of entries.  `ingest` makes a job
of them and processes one after another in one transaction; an entry that throws is caught and kept
in the job's `failedEntries`, and the others go on.  `replayFailedEntries` ingests failed entries of a
job again, as a new job.

A statement that the database itself refuses aborts the transaction around the loop, so that the next
statement throws as well and nothing of the job is kept.  `now` is `Date.now()`; `replenish` and
`toLowerCase` are the parameters of the transfer service and of the aliases.
-/

namespace SuuqBackend

inductive PosSyncType where
  | stockSnapshot
  | stockDelta
  | salesSummary
deriving DecidableEq

inductive PosSyncStatus where
  | received
  | processed
  | failed
deriving DecidableEq

structure PosSyncEntryDto where
  productId : Option ℕ := none
  aliasType : Option ProductAliasType := none
  aliasValue : Option String := none
  quantity : ℤ
  movementType : Option StockMovementType := none
  counterpartyBranchId : Option ℕ := none
  transferId : Option ℕ := none
  note : Option String := none

structure IngestPosSyncDto where
  branchId : ℕ
  partnerCredentialId : Option ℕ := none
  syncType : PosSyncType
  externalJobId : Option String := none
  idempotencyKey : Option String := none
  entries : List PosSyncEntryDto

/-- `PosSyncFailedEntry`: the entry, its index in the request and the message of its error. -/
structure PosSyncFailedEntry extends PosSyncEntryDto where
  entryIndex : ℕ
  error : String

structure PosSyncJob where
  branchId : Option ℕ
  partnerCredentialId : Option ℕ
  syncType : PosSyncType
  status : PosSyncStatus
  externalJobId : Option String
  idempotencyKey : Option String
  acceptedCount : ℕ
  rejectedCount : ℕ
  processedAt : Option Date
  failedEntries : List PosSyncFailedEntry

structure CreatePosSyncJobDto where
  branchId : Option ℕ := none
  partnerCredentialId : Option ℕ := none
  syncType : PosSyncType
  externalJobId : Option String := none
  idempotencyKey : Option String := none
  acceptedCount : Option ℕ := none
  rejectedCount : Option ℕ := none

structure ReplayPosSyncFailuresDto where
  branchId : ℕ
  entryIndexes : Option (List ℕ) := none

/-- The tables that the synchronisation reads and writes. -/
structure PosSyncStore where
  transfer : TransferStore
  /-- `product_aliases`, in the order of the ids. -/
  productAliases : List ProductAlias
  /-- The ids in `partner_credentials`. -/
  partnerCredentials : Finset ℕ
  jobs : SerialTable PosSyncJob

/-- A handler on the tables of the synchronisation. -/
abbrev PosSyncProc : Type → Type := Proc PosSyncStore HttpException

structure PosSyncRuntime where
  now : Date
  toLowerCase : String → String
  replenish : Replenishment

namespace PosSync

open InventoryRepository InventoryLedger BranchTransfers

/-- The tables of the transfer service among them. -/
def transferLens : Proc.Lens PosSyncStore TransferStore where
  get s := s.transfer
  set s transfer := { s with transfer }

/-- A call of the transfer service. -/
def onTransfers {α : Type} (p : TransferProc α) : PosSyncProc α := Proc.zoom transferLens p

/-- `text?.trim() || null`. -/
def trimmed (text : Option String) : Option String := (text.map trim).filter (· ≠ "")

/-! ### Messages -/

def jobNotFound (id : ℕ) : HttpException := .notFound s!"POS sync job with ID {id} not found"

/-- A statement after one that the database has refused. -/
def transactionAborted : HttpException :=
  .queryFailed "current transaction is aborted, commands ignored until end of transaction block"

/-! ### One entry -/

section Entry

variable (env : PosSyncRuntime) (jobId : ℕ) (dto : IngestPosSyncDto) (entry : PosSyncEntryDto)
  (entryIndex : ℕ) (actorId : Option ℕ)

def resolveProductId : PosSyncProc ℕ := do
  match entry.productId with
  | some productId => return productId
  | none =>
    match entry.aliasType, trimmed entry.aliasValue with
    | some aliasType, some _ =>
      let aliasValue := entry.aliasValue.getD ""
      let resolved ← Proc.read fun s : PosSyncStore =>
        ProductAliases.resolveProductIdForBranch env.toLowerCase
          (s.transfer.inventory.branches.lookup dto.branchId) s.productAliases dto.branchId
          dto.partnerCredentialId aliasType aliasValue
      match resolved with
      | .error error => throw error
      | .ok none => throw (.badRequest s!"No product alias matched {aliasType.text}:{aliasValue}")
      | .ok (some productId) => return productId
    | _, _ =>
      throw (.badRequest "productId or aliasType plus aliasValue is required for POS sync entries")

def entryMovement (productId : ℕ) (movementType : StockMovementType) (quantityDelta : ℤ)
    (defaultNote : String) : RecordMovementParams where
  branchId := dto.branchId
  productId
  movementType
  quantityDelta
  sourceType := "POS_SYNC"
  sourceReferenceId := some jobId
  actorUserId := actorId
  note := some (entry.note.getD defaultNote)

def recordEntry (productId : ℕ) (movementType : StockMovementType) (quantityDelta : ℤ)
    (defaultNote : String) : InventoryProc Unit := do
  let _ ← recordMovement env.now
    (entryMovement jobId dto entry actorId productId movementType quantityDelta defaultNote) true

/-- A count of the stock: what makes up the difference is recorded. -/
def snapshotEntry (productId : ℕ) : InventoryProc Unit := do
  let currentOnHand ← getOnHand dto.branchId productId
  let delta := entry.quantity - currentOnHand
  if delta ≠ 0 then
    recordEntry env jobId dto entry actorId productId .adjustment delta "POS stock snapshot reconciliation"

/-- A sale: recorded when the product manages its stock. -/
def saleEntry (productId : ℕ) (defaultNote : String) : InventoryProc Unit := do
  let product ← findProduct productId
  if (product.map Product.manageStock).getD false then
    recordEntry env jobId dto entry actorId productId .sale (-|entry.quantity|) defaultNote

def outboundRequest (productId counterpartyBranchId : ℕ) (hneg : entry.quantity < 0) : CreateBranchTransferDto where
  fromBranchId := dto.branchId
  toBranchId := counterpartyBranchId
  note := some (entry.note.getD "POS transfer out")
  items := [{
    productId
    quantity := |entry.quantity|
    note := entry.note
    quantity_pos := Int.one_le_abs hneg.ne }]

def entrySource : BranchTransferSource where
  sourceType := some "POS_SYNC"
  sourceReferenceId := some jobId
  sourceEntryIndex := some entryIndex

/-- A transfer to another branch: requested and dispatched. -/
def outboundEntry (productId counterpartyBranchId : ℕ) (hneg : entry.quantity < 0) : TransferProc Unit := do
  let (transferId, _) ← create env.now
    (outboundRequest dto entry productId counterpartyBranchId hneg) actorId
    (entrySource jobId entryIndex)
  let _ ← dispatch env.now transferId actorId (some (entry.note.getD "POS transfer out"))
    env.replenish true

/-- What the entry says of the transfer that it receives. -/
def inboundError (productId counterpartyBranchId transferId : ℕ) (transfer : BranchTransfer) : Option HttpException :=
  let quantity := |entry.quantity|
  let matchingItem := transfer.items.find? fun item => item.productId = productId
  if transfer.toBranchId ≠ dto.branchId then
    some (.badRequest s!"Branch transfer {transferId} is not addressed to branch {dto.branchId}")
  else if transfer.fromBranchId ≠ counterpartyBranchId then
    some (.badRequest s!"Branch transfer {transferId} is not sourced from branch {counterpartyBranchId}")
  else if matchingItem.map BranchTransferItem.quantity ≠ some quantity then
    some (.badRequest s!"Branch transfer {transferId} does not contain {quantity} units of product {productId}")
  else none

/-- A transfer from another branch: received when it is the one that the entry describes. -/
def inboundEntry (productId counterpartyBranchId transferId : ℕ) : TransferProc Unit := do
  let transfer ← findOne transferId
  match inboundError dto entry productId counterpartyBranchId transferId transfer with
  | some error => throw error
  | none =>
    let _ ← receive env.now transferId actorId (some (entry.note.getD "POS transfer in")) true

/-- The branch of `processInventoryEntry` for transfers; an id of zero counts as missing. -/
def transferEntry (productId : ℕ) : TransferProc Unit :=
  let counterpartyBranchId := entry.counterpartyBranchId.getD 0
  let transferId := entry.transferId.getD 0
  if counterpartyBranchId = 0 then
    throw (.badRequest "counterpartyBranchId is required for transfer sync entries")
  else if hneg : entry.quantity < 0 then
    outboundEntry env jobId dto entry entryIndex actorId productId counterpartyBranchId hneg
  else if transferId = 0 then
    throw (.badRequest "transferId is required for inbound transfer sync entries")
  else inboundEntry env dto entry actorId productId counterpartyBranchId transferId

/-- `processInventoryEntry` from where the product is known. -/
def applyEntry (productId : ℕ) : TransferProc Unit :=
  match dto.syncType with
  | .stockSnapshot => onInventory (snapshotEntry env jobId dto entry actorId productId)
  | .salesSummary => onInventory (saleEntry env jobId dto entry actorId productId "POS sales summary")
  | .stockDelta =>
    match entry.movementType with
    | none => throw (.badRequest "movementType is required for STOCK_DELTA sync entries")
    | some .transfer => transferEntry env jobId dto entry entryIndex actorId productId
    | some .sale =>
      onInventory (saleEntry env jobId dto entry actorId productId "POS sale delta")
    | some _ =>
      onInventory (recordEntry env jobId dto entry actorId productId .adjustment entry.quantity
        "POS stock delta adjustment")

def processInventoryEntry : PosSyncProc Unit := do
  let productId ← resolveProductId env dto entry
  onTransfers (applyEntry env jobId dto entry entryIndex actorId productId)

end Entry

/-! ### Jobs -/

/-- The job is one that the request repeats: by its idempotency key, or else by its external id. -/
def IsExisting (dto : IngestPosSyncDto) (job : PosSyncJob) : Prop :=
  let inScope := match dto.partnerCredentialId with
    | some id => job.partnerCredentialId = some id
    | none => job.branchId = some dto.branchId
  match trimmed dto.idempotencyKey, trimmed dto.externalJobId with
  | some key, _ => inScope ∧ job.idempotencyKey = some key ∧ job.syncType = dto.syncType
  | none, some id => inScope ∧ job.externalJobId = some id ∧ job.syncType = dto.syncType
  | none, none => False

instance (dto : IngestPosSyncDto) (job : PosSyncJob) : Decidable (IsExisting dto job) := by
  unfold IsExisting
  cases dto.partnerCredentialId <;> cases trimmed dto.idempotencyKey <;>
    cases trimmed dto.externalJobId <;> infer_instance

/-- `findExistingJobForIdempotency`: the first such job by id. -/
def findExistingJobForIdempotency (dto : IngestPosSyncDto) : PosSyncProc (Option ℕ) :=
  Proc.read fun s : PosSyncStore =>
    (List.range s.jobs.next).find? fun id => (s.jobs.find id).any fun job => IsExisting dto job

/-- The branch of the job, if it has one, exists. -/
def assertBranch : Option ℕ → PosSyncProc Unit
  | none => pure ()
  | some branchId => do
    let branch ← onTransfers (onInventory (findBranch branchId))
    .throwIf branch.isNone (.branchNotFound branchId)

/-- The partner credential of the job, if it has one, exists. -/
def assertPartnerCredential : Option ℕ → PosSyncProc Unit
  | none => pure ()
  | some id => do
    let known ← Proc.read fun s : PosSyncStore => decide (id ∈ s.partnerCredentials)
    .throwIf (known = false) (.notFound s!"Partner credential with ID {id} not found")

def newJob (dto : CreatePosSyncJobDto) : PosSyncJob where
  branchId := dto.branchId
  partnerCredentialId := dto.partnerCredentialId
  syncType := dto.syncType
  status := .received
  externalJobId := trimmed dto.externalJobId
  idempotencyKey := trimmed dto.idempotencyKey
  acceptedCount := dto.acceptedCount.getD 0
  rejectedCount := dto.rejectedCount.getD 0
  processedAt := none
  failedEntries := []

/-- `createJob`: the new id and the new row. -/
def createJob (dto : CreatePosSyncJobDto) : PosSyncProc (ℕ × PosSyncJob) := do
  .throwIf (dto.branchId = none ∧ dto.partnerCredentialId = none)
    (.badRequest "A POS sync job must reference a branch or partner credential")
  assertBranch dto.branchId
  assertPartnerCredential dto.partnerCredentialId
  .step (fun s => { s with jobs := s.jobs.add (newJob dto) }) fun s => .done (s.jobs.next, newJob dto)

def findOneById (id : ℕ) : PosSyncProc PosSyncJob := do
  match ← Proc.read fun s : PosSyncStore => s.jobs.find id with
  | some job => return job
  | none => throw (jobNotFound id)

def toFailedEntry (entryIndex : ℕ) (entry : PosSyncEntryDto) (error : HttpException) : PosSyncFailedEntry :=
  { entry with entryIndex, error := error.message }

/-- The variables that the loop of `ingest` fills. -/
structure IngestTally where
  acceptedCount : ℕ := 0
  rejectedCount : ℕ := 0
  failedEntries : List PosSyncFailedEntry := []

/-- The entry went through. -/
def IngestTally.accept (tally : IngestTally) : IngestTally :=
  { tally with acceptedCount := tally.acceptedCount + 1 }

def IngestTally.reject (tally : IngestTally) (failed : PosSyncFailedEntry) : IngestTally :=
  { tally with
    rejectedCount := tally.rejectedCount + 1
    failedEntries := tally.failedEntries ++ [failed] }

/-- The loop of `ingest`, over the entries with their indexes. -/
def processEntries (env : PosSyncRuntime) (jobId : ℕ) (dto : IngestPosSyncDto)
    (actorId : Option ℕ) : List (PosSyncEntryDto × ℕ) → IngestTally → PosSyncProc IngestTally
  | [], tally => return tally
  | (entry, entryIndex) :: entries, tally => do
    match ← Proc.attempt (processInventoryEntry env jobId dto entry entryIndex actorId) with
    | .ok _ => processEntries env jobId dto actorId entries tally.accept
    | .error (.queryFailed _) => throw transactionAborted
    | .error error =>
      processEntries env jobId dto actorId entries (tally.reject (toFailedEntry entryIndex entry error))

/-- The row of the job after the loop. -/
def processedJob (now : Date) (job : PosSyncJob) (tally : IngestTally) : PosSyncJob :=
  { job with
    acceptedCount := tally.acceptedCount
    rejectedCount := tally.rejectedCount
    processedAt := some now
    failedEntries := tally.failedEntries
    status := if tally.acceptedCount > 0 then .processed else .failed }

/-- The job that `ingest` creates. -/
def ingestedJob (dto : IngestPosSyncDto) : CreatePosSyncJobDto where
  branchId := some dto.branchId
  partnerCredentialId := dto.partnerCredentialId
  syncType := dto.syncType
  externalJobId := dto.externalJobId
  idempotencyKey := dto.idempotencyKey
  acceptedCount := some 0
  rejectedCount := some 0

/-- The transaction of `ingest`. -/
def ingestWithin (env : PosSyncRuntime) (dto : IngestPosSyncDto) (actorId : Option ℕ) : PosSyncProc ℕ := do
  match ← findExistingJobForIdempotency dto with
  | some existingId => return existingId
  | none =>
    let (jobId, job) ← createJob (ingestedJob dto)
    let tally ← processEntries env jobId dto actorId dto.entries.zipIdx {}
    Proc.write fun s : PosSyncStore =>
      { s with jobs := s.jobs.set jobId (processedJob env.now job tally) }
    return jobId

/-- `ingest`: the id of the job and its row. -/
def ingest (env : PosSyncRuntime) (dto : IngestPosSyncDto) (actorId : Option ℕ) : PosSyncProc (ℕ × PosSyncJob) := do
  .throwIf (dto.entries = []) (.badRequest "POS sync ingestion requires at least one entry")
  let jobId ← Proc.transaction (ingestWithin env dto actorId)
  let job ← findOneById jobId
  return (jobId, job)

def buildReplayExternalJobId (now : Date) (id : ℕ) (job : PosSyncJob) : String :=
  let baseJobId := (trimmed job.externalJobId).getD s!"job-{id}"
  String.ofList ((s!"{baseJobId}:replay-{now}").toList.take 255)

def failedEntriesToReplay (dto : ReplayPosSyncFailuresDto) (job : PosSyncJob) : List PosSyncFailedEntry :=
  match dto.entryIndexes.getD [] with
  | [] => job.failedEntries
  | entryIndexes => job.failedEntries.filter fun entry => entry.entryIndex ∈ entryIndexes

def replayDto (now : Date) (id : ℕ) (dto : ReplayPosSyncFailuresDto) (job : PosSyncJob)
    (partnerCredentialId : Option ℕ) : IngestPosSyncDto where
  branchId := job.branchId.getD dto.branchId
  partnerCredentialId := partnerCredentialId <|> job.partnerCredentialId
  syncType := job.syncType
  externalJobId := some (buildReplayExternalJobId now id job)
  entries := (failedEntriesToReplay dto job).map PosSyncFailedEntry.toPosSyncEntryDto

def replayFailedEntries (env : PosSyncRuntime) (id : ℕ) (dto : ReplayPosSyncFailuresDto)
    (actorId : Option ℕ) (partnerCredentialId : Option ℕ) : PosSyncProc (ℕ × PosSyncJob) := do
  let job ← findOneById id
  .throwIf (job.branchId ≠ some dto.branchId)
    (.badRequest s!"POS sync job {id} does not belong to branch {dto.branchId}")
  .throwIf (partnerCredentialId ≠ none ∧ job.partnerCredentialId ≠ partnerCredentialId)
    (.badRequest s!"POS sync job {id} does not belong to partner credential {partnerCredentialId.getD 0}")
  .throwIf (job.failedEntries = []) (.badRequest s!"POS sync job {id} has no failed entries to replay")
  .throwIf (failedEntriesToReplay dto job = [])
    (.badRequest s!"No failed entries matched the requested replay selection for POS sync job {id}")
  ingest env (replayDto env.now id dto job partnerCredentialId) actorId

end PosSync

end SuuqBackend
