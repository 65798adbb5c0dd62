import Mathlib.Data.Rat.Floor
import SuuqBackend.PosSync.ProductAliases

/-!
# The tables of the BNPL activations

`equity_partner_bnpl_activations` and `equity_partner_bnpl_credit_ledger`, and what an activation reads and
provisions: partners, users, tenants, branches, staff assignments, subscriptions, modules and splits.

The status of an activation is kept twice: in its own row, and in the column `activationStatus` of its row in the
credit ledger, where `bnplActivationId` is unique.

`toUpperCase` and `toLowerCase` are those of the runtime, `now` is the time of the call, `addMonths` is `setMonth`
on a date, and `initiatePayment` is the request to Ebirr.
-/

namespace SuuqBackend

inductive EquityPartnerStatus where
  | pending
  | active
  | suspended
deriving DecidableEq

inductive EquityPartnerBnplStatus where
  | outstanding
  | settled
  | forgiven
  | cancelled
deriving DecidableEq

namespace EquityPartnerBnplStatus

/-- The value of the enumeration, as messages show it. -/
def text : EquityPartnerBnplStatus → String
  | .outstanding => "OUTSTANDING"
  | .settled => "SETTLED"
  | .forgiven => "FORGIVEN"
  | .cancelled => "CANCELLED"

end EquityPartnerBnplStatus

inductive PosBranchSubscriptionPeriod where
  | monthly
  | oneYear
deriving DecidableEq

structure EquityPartner where
  userId : Option ℕ
  displayName : String
  status : EquityPartnerStatus
  bnplCreditLimit : ℕ
  hostRetailTenantId : Option ℕ

/-- `lastSettlementAttempt`. -/
structure SettlementAttempt where
  referenceId : String
  grossAmount : ℚ
  equityCreditAmount : ℚ
  settlementAmountDue : ℚ
  startedAt : ℤ

/-- `metadata` of an activation; a property that is not there is `none`. -/
structure BnplActivationMetadata where
  targetOwnerEmail : Option String := none
  targetOwnerWasCreated : Option Bool := none
  settlementModel : Option String := none
  lastSettlementAttempt : Option SettlementAttempt := none
  cancelledAt : Option ℤ := none
  cancelledBy : Option String := none
  /-- `forgiveNote`, which may be `null`. -/
  forgiveNote : Option (Option String) := none
  forgivenAt : Option ℤ := none

structure EquityPartnerBnplActivation where
  equityPartnerId : ℕ
  branchId : ℕ
  tenantSubscriptionId : Option ℕ
  targetOwnerUserId : ℕ
  period : PosBranchSubscriptionPeriod
  amountDue : ℚ
  equityCreditAmount : ℚ
  settlementAmountDue : ℚ
  currency : String
  status : EquityPartnerBnplStatus
  dueAt : ℤ
  settledAt : Option ℤ := none
  settlementReferenceId : Option String := none
  metadata : BnplActivationMetadata

/-- A row of `equity_partner_bnpl_credit_ledger`. -/
structure EquityPartnerBnplCreditLedgerEntry where
  equityPartnerId : ℕ
  bnplActivationId : ℕ
  branchId : ℕ
  targetOwnerUserId : ℕ
  period : PosBranchSubscriptionPeriod
  grossAmount : ℚ
  equityCreditAmount : ℚ
  settlementAmountDue : ℚ
  currency : String
  activationStatus : EquityPartnerBnplStatus
  settlementReferenceId : Option String
  targetOwnerEmail : Option String
  settlementModel : Option String

/-- `StartBnplActivationInput`, without the address of the branch. -/
structure StartBnplActivationInput where
  branchName : String
  serviceFormat : String
  targetOwnerEmail : String
  period : PosBranchSubscriptionPeriod

structure BnplRuntime where
  now : ℤ
  toUpperCase : String → String
  toLowerCase : String → String
  addMonths : ℤ → ℕ → ℤ
  /-- `initiatePayment` for a phone number, an amount and a reference. -/
  initiatePayment : String → ℚ → String → Except HttpException Unit

namespace EquityPartnerBnpl

/-- A row of `branches`. -/
structure BranchRow where
  name : String
  code : String
  serviceFormat : String
  ownerId : ℕ
  retailTenantId : Option ℕ
  isActive : Bool

/-- A row of `branch_staff_assignments` with the role `MANAGER`. -/
structure ManagerRow where
  branchId : ℕ
  userId : ℕ

/-- A row of `tenant_subscriptions`. -/
structure SubscriptionRow where
  tenantId : ℕ
  branchId : ℕ
  planCode : String
  amount : ℚ
  periodMonths : ℕ
  startsAt : ℤ
  endsAt : ℤ

/-- The modules that an activation provisions. -/
inductive ProvisionedModule where
  | posCore
  | inventoryCore
deriving DecidableEq

/-- A row of `tenant_module_entitlements`. -/
structure EntitlementRow where
  tenantId : ℕ
  retailModule : ProvisionedModule
  expiresAt : ℤ

/-- A row of `equity_split_assignments`. -/
structure SplitRow where
  equityPartnerId : ℕ
  branchId : ℕ
  retailTenantId : Option ℕ

end EquityPartnerBnpl

open EquityPartnerBnpl in
/-- The tables of the BNPL activations.  `users` has the address of each user, `retailTenants` the name and the
owner of each tenant. -/
structure BnplStore where
  partners : SerialTable EquityPartner
  activations : SerialTable EquityPartnerBnplActivation
  creditLedger : SerialTable EquityPartnerBnplCreditLedgerEntry
  users : SerialTable String
  retailTenants : SerialTable (String × ℕ)
  branches : SerialTable BranchRow
  managers : List ManagerRow
  subscriptions : SerialTable SubscriptionRow
  moduleEntitlements : List EntitlementRow
  splitAssignments : List SplitRow

abbrev BnplProc : Type → Type := Proc BnplStore HttpException

namespace BnplStore

/-- The number of activations of the partner that are `OUTSTANDING`. -/
def outstandingOf (s : BnplStore) (partnerId : ℕ) : ℕ :=
  s.activations.total fun a => if a.equityPartnerId = partnerId ∧ a.status = .outstanding then 1 else 0

def entryOf (s : BnplStore) (activationId : ℕ) : Option (ℕ × EquityPartnerBnplCreditLedgerEntry) :=
  s.creditLedger.first fun entry => entry.bnplActivationId = activationId

/-- `update` of the tenant that hosts the branches of a partner. -/
def setHostTenant (s : BnplStore) (partnerId tenantId : ℕ) : BnplStore :=
  match s.partners.find partnerId with
  | none => s
  | some partner =>
    { s with partners := s.partners.set partnerId { partner with hostRetailTenantId := some tenantId } }

end BnplStore

end SuuqBackend

/-!
## BNPL activations

`EquityPartnerBnplService`: an equity partner activates a branch for somebody else and settles it later.
`startBnplActivation` counts the outstanding activations of the partner first and inserts its own at the end.  The
other operations load an activation, change its status and save it, and then bring its entry in the credit ledger in
line.
-/

namespace SuuqBackend.EquityPartnerBnpl

/-! ### Pricing -/

structure PosBranchSubscriptionOption where
  period : PosBranchSubscriptionPeriod
  months : ℕ
  amount : ℚ
  currency : String
  planCode : String

def requirePosBranchSubscriptionOption : PosBranchSubscriptionPeriod → PosBranchSubscriptionOption
  | .monthly =>
    { period := .monthly, months := 1, amount := 1900, currency := "ETB", planCode := "POS_BRANCH_1M" }
  | .oneYear =>
    { period := .oneYear, months := 12, amount := 22800, currency := "ETB", planCode := "POS_BRANCH_1Y" }

/-- `calculateEquityCreditAmount`: the split of the equity pricing is one half. -/
def calculateEquityCreditAmount (grossAmount : ℚ) : ℚ := ⌊grossAmount * 1 / 2⌋

/-! ### Helpers -/

def requireActivePartnerForUser (userId : ℕ) : BnplProc (ℕ × EquityPartner) := do
  match ← Proc.read fun s : BnplStore => s.partners.first fun partner => partner.userId = some userId with
  | none => throw (.forbidden "Only an approved equity partner can create BNPL branches.")
  | some (partnerId, partner) =>
    .throwIf (partner.status ≠ .active) (.forbidden "Equity partner is not active; BNPL activation is disabled.")
    return (partnerId, partner)

def assertCreditCapacity (partnerId : ℕ) (partner : EquityPartner) : BnplProc Unit := do
  let outstanding ← Proc.read fun s : BnplStore => s.outstandingOf partnerId
  .throwIf (outstanding ≥ partner.bnplCreditLimit)
    (.badRequest s!"BNPL credit limit reached ({outstanding}/{partner.bnplCreditLimit}). Settle an existing activation before creating another.")

/-- `findOrCreateTargetOwner`: the user, and whether it was created. -/
def findOrCreateTargetOwner (env : BnplRuntime) (rawEmail : String) : BnplProc (ℕ × Bool) := do
  let email := env.toLowerCase (trim rawEmail)
  .throwIf (email = "" ∨ '@' ∉ email.toList) (.badRequest "targetOwnerEmail must be a valid email.")
  match ← Proc.read fun s : BnplStore => s.users.first fun address => address = email with
  | some (userId, _) => return (userId, false)
  | none =>
    let userId ← Proc.step (fun s : BnplStore => { s with users := s.users.add email }) fun s => pure s.users.next
    return (userId, true)

def resolvePartnerTenantId (partnerId : ℕ) (partner : EquityPartner) : BnplProc ℕ := do
  match partner.userId with
  | none => throw (.forbidden "Partner is not linked to a POS user account; cannot host BNPL branches.")
  | some userId =>
    match partner.hostRetailTenantId with
    | some tenantId => return tenantId
    | none =>
      let ownedBranch ← Proc.read fun s : BnplStore =>
        s.branches.first fun branch => branch.ownerId = userId ∧ branch.isActive
      match ownedBranch.bind fun found => found.2.retailTenantId with
      | some tenantId =>
        Proc.write fun s : BnplStore => s.setHostTenant partnerId tenantId
        return tenantId
      | none =>
        let tenantId ← Proc.step (fun s : BnplStore =>
          { s with retailTenants := s.retailTenants.add (s!"{partner.displayName} (Equity)", userId) })
          fun s => pure s.retailTenants.next
        Proc.write fun s : BnplStore => s.setHostTenant partnerId tenantId
        return tenantId

/-- The beginning of a branch code: the first letters of the first three words of the name. -/
def branchCodeBase (env : BnplRuntime) (branchName : String) : String :=
  let words := ((env.toUpperCase branchName).toList.splitOnP fun c => !(c.isUpper || c.isDigit)).filter (· ≠ [])
  let base := String.ofList ((((words.take 3).map fun token => token.take 3).flatten).take 9)
  if base = "" then "BRANCH" else base

/-- The code of an attempt, with the last digits of the time. -/
def branchCode (env : BnplRuntime) (base : String) (attempt : ℕ) : String :=
  let digits := (toString env.now).toList
  let suffix := String.ofList (digits.drop (digits.length - 6))
  let tail := if attempt = 0 then "" else s!"-{attempt}"
  String.ofList ((s!"{base}-{suffix}{tail}").toList.take 64)

/-- The attempts of `generateBranchCode`. -/
def tryBranchCodes (env : BnplRuntime) (base : String) : List ℕ → BnplProc String
  | [] => throw (.internal "Could not generate a unique branch code.")
  | attempt :: attempts => do
    let code := branchCode env base attempt
    match ← Proc.read fun s : BnplStore => s.branches.first fun branch => branch.code = code with
    | none => return code
    | some _ => tryBranchCodes env base attempts

def generateBranchCode (env : BnplRuntime) (branchName : String) : BnplProc String :=
  tryBranchCodes env (branchCodeBase env branchName) (List.range 8)

def recordReferralFromActivation (partnerId branchId tenantId : ℕ) : BnplProc Unit := do
  let existing ← Proc.read fun s : BnplStore =>
    s.splitAssignments.find? fun split => split.equityPartnerId = partnerId ∧ split.branchId = branchId
  if existing.isNone then
    Proc.write fun s : BnplStore =>
      { s with splitAssignments := s.splitAssignments ++ [⟨partnerId, branchId, some tenantId⟩] }

/-! ### The credit ledger -/

/-- The entry that `ensureCreditLedgerEntry` creates. -/
def newEntry (activationId : ℕ) (activation : EquityPartnerBnplActivation) : EquityPartnerBnplCreditLedgerEntry where
  equityPartnerId := activation.equityPartnerId
  bnplActivationId := activationId
  branchId := activation.branchId
  targetOwnerUserId := activation.targetOwnerUserId
  period := activation.period
  grossAmount := activation.amountDue
  equityCreditAmount := activation.equityCreditAmount
  settlementAmountDue := activation.settlementAmountDue
  currency := activation.currency
  activationStatus := activation.status
  settlementReferenceId := activation.settlementReferenceId
  targetOwnerEmail := activation.metadata.targetOwnerEmail
  settlementModel := activation.metadata.settlementModel

/-- The entry as `syncCreditLedgerEntry` changes it. -/
def syncedEntry (activation : EquityPartnerBnplActivation) (override : Option String)
    (entry : EquityPartnerBnplCreditLedgerEntry) : EquityPartnerBnplCreditLedgerEntry :=
  { entry with
    activationStatus := activation.status
    settlementReferenceId := override.or activation.settlementReferenceId
    targetOwnerEmail := activation.metadata.targetOwnerEmail.or entry.targetOwnerEmail
    settlementModel := activation.metadata.settlementModel.or entry.settlementModel }

section CreditLedger

variable (activationId : ℕ) (activation : EquityPartnerBnplActivation) (override : Option String)

/-- `save` of a new entry; the column of the activation is unique. -/
def insertEntry : BnplProc Unit :=
  .step (fun s => if (s.entryOf activationId).isSome then s
      else { s with creditLedger := s.creditLedger.add (newEntry activationId activation) })
    fun s => if (s.entryOf activationId).isSome then
        throw (.queryFailed "duplicate key value violates unique constraint")
      else pure ()

/-- `save` of an entry that was loaded. -/
def saveEntry (entryId : ℕ) (entry : EquityPartnerBnplCreditLedgerEntry) : BnplProc Unit :=
  .write fun s => { s with creditLedger := s.creditLedger.set entryId entry }

/-- `syncCreditLedgerEntry`, but for what it does without an entry. -/
def syncOr (missing : BnplProc Unit) : BnplProc Unit := do
  match ← Proc.read fun s : BnplStore => s.entryOf activationId with
  | none => missing
  | some (entryId, entry) => saveEntry entryId (syncedEntry activation override entry)

/-- `ensureCreditLedgerEntry`.  It hands an entry that it finds to `syncCreditLedgerEntry`, which finds it too: no call
deletes one. -/
def ensureCreditLedgerEntry : BnplProc Unit := do
  match ← Proc.read fun s : BnplStore => s.entryOf activationId with
  | none => insertEntry activationId activation
  | some _ => syncOr activationId activation none (insertEntry activationId activation)

def syncCreditLedgerEntry : BnplProc Unit :=
  syncOr activationId activation override
    (ensureCreditLedgerEntry activationId
      { activation with settlementReferenceId := override.or activation.settlementReferenceId })

end CreditLedger

/-! ### Operations -/

section Operations

variable (env : BnplRuntime)

/-- What `startBnplActivation` provisions before it stores the activation. -/
structure ProvisionedBranch where
  branchId : ℕ
  subscriptionId : ℕ
  targetUserId : ℕ
  targetWasCreated : Bool
  endsAt : ℤ

/-- The managers of a new branch: its owner, and the partner. -/
def assignManagers (partner : EquityPartner) (branchId targetUserId : ℕ) : BnplProc Unit := do
  Proc.write fun s : BnplStore => { s with managers := s.managers ++ [⟨branchId, targetUserId⟩] }
  if partner.userId ≠ some targetUserId then
    Proc.write fun s : BnplStore => { s with
      managers := s.managers ++ (partner.userId.map fun userId => ⟨branchId, userId⟩).toList }

def provisionModules (tenantId : ℕ) (endsAt : ℤ) : BnplProc Unit := do
  let existing ← Proc.read fun s : BnplStore => s.moduleEntitlements.filter fun e => e.tenantId = tenantId
  let missing := [ProvisionedModule.posCore, .inventoryCore].filter fun m => existing.all fun e => e.retailModule ≠ m
  if missing ≠ [] then
    Proc.write fun s : BnplStore => { s with
      moduleEntitlements := s.moduleEntitlements ++ missing.map fun m => ⟨tenantId, m, endsAt⟩ }

/-- The branch of `startBnplActivation`, with its managers, its subscription, its modules and its split. -/
def provisionBranch (partnerId : ℕ) (partner : EquityPartner) (input : StartBnplActivationInput) :
    BnplProc ProvisionedBranch := do
  let option := requirePosBranchSubscriptionOption input.period
  let (targetUserId, targetWasCreated) ← findOrCreateTargetOwner env input.targetOwnerEmail
  let tenantId ← resolvePartnerTenantId partnerId partner
  let branchName := trim input.branchName
  .throwIf (branchName = "") (.badRequest "branchName is required.")
  let serviceFormat := env.toUpperCase (trim input.serviceFormat)
  .throwIf (serviceFormat = "") (.badRequest "serviceFormat is required.")
  let code ← generateBranchCode env branchName
  let endsAt := env.addMonths env.now option.months
  let branchId ← Proc.step (fun s : BnplStore => { s with
      branches := s.branches.add
        { name := branchName, code, serviceFormat, ownerId := targetUserId, retailTenantId := some tenantId,
          isActive := true } }) fun s => pure s.branches.next
  assignManagers partner branchId targetUserId
  let subscriptionId ← Proc.step (fun s : BnplStore => { s with
      subscriptions := s.subscriptions.add
        { tenantId, branchId, planCode := option.planCode, amount := option.amount, periodMonths := option.months,
          startsAt := env.now, endsAt } }) fun s => pure s.subscriptions.next
  provisionModules tenantId endsAt
  -- a failure of the link is logged and no more
  let _ : Except HttpException Unit ← Proc.attempt (recordReferralFromActivation partnerId branchId tenantId)
  return { branchId, subscriptionId, targetUserId, targetWasCreated, endsAt }

/-- The activation that `startBnplActivation` stores. -/
def newActivation (partnerId : ℕ) (input : StartBnplActivationInput) (provisioned : ProvisionedBranch) :
    EquityPartnerBnplActivation :=
  let option := requirePosBranchSubscriptionOption input.period
  let equityCreditAmount := calculateEquityCreditAmount option.amount
  { equityPartnerId := partnerId
    branchId := provisioned.branchId
    tenantSubscriptionId := some provisioned.subscriptionId
    targetOwnerUserId := provisioned.targetUserId
    period := option.period
    amountDue := option.amount
    equityCreditAmount
    settlementAmountDue := max 0 (option.amount - equityCreditAmount)
    currency := option.currency
    status := .outstanding
    dueAt := provisioned.endsAt
    metadata :=
      { targetOwnerEmail := some input.targetOwnerEmail
        targetOwnerWasCreated := some provisioned.targetWasCreated
        settlementModel := some "NET_OF_EQUITY_CREDIT" } }

/-- `save` of a new activation: its id. -/
def insertActivation (activation : EquityPartnerBnplActivation) : BnplProc ℕ :=
  .step (fun s => { s with activations := s.activations.add activation }) fun s => pure s.activations.next

/-- `save` of an activation that was loaded: the whole row is written. -/
def saveActivation (activationId : ℕ) (activation : EquityPartnerBnplActivation) : BnplProc Unit :=
  .write fun s => { s with activations := s.activations.set activationId activation }

def startBnplActivation (partnerUserId : ℕ) (input : StartBnplActivationInput) : BnplProc ℕ := do
  let (partnerId, partner) ← requireActivePartnerForUser partnerUserId
  assertCreditCapacity partnerId partner
  let provisioned ← provisionBranch env partnerId partner input
  let activation := newActivation partnerId input provisioned
  let activationId ← insertActivation activation
  ensureCreditLedgerEntry activationId activation
  return activationId

def activationNotFound (activationId : ℕ) : HttpException := .notFound s!"BNPL activation #{activationId} not found."

/-- The activation, when it meets the condition of the lookup. -/
def findActivation (activationId : ℕ) (mine : EquityPartnerBnplActivation → Prop) [DecidablePred mine] :
    BnplProc EquityPartnerBnplActivation := do
  match ← Proc.read fun s : BnplStore => (s.activations.find activationId).filter fun a => mine a with
  | none => throw (activationNotFound activationId)
  | some activation => return activation

/-- `save` of an activation that was changed, and of its entry. -/
def saveAndSync (activationId : ℕ) (activation : EquityPartnerBnplActivation) : BnplProc Unit := do
  saveActivation activationId activation
  syncCreditLedgerEntry activationId activation none

/-- What is asked for an activation: its net amount, or its gross amount when that is nothing. -/
def settlementAmount (activation : EquityPartnerBnplActivation) : ℚ :=
  if activation.settlementAmountDue > 0 then activation.settlementAmountDue else activation.amountDue

def settlementReference (activationId : ℕ) : String := s!"BNPLACT-{activationId}-{env.now}"

/-- The activation as `initiateSettlementPayment` changes it. -/
def attemptedActivation (activationId : ℕ) (activation : EquityPartnerBnplActivation) : EquityPartnerBnplActivation :=
  { activation with
    settlementReferenceId := some (settlementReference env activationId)
    metadata := { activation.metadata with
      lastSettlementAttempt := some
        { referenceId := settlementReference env activationId
          grossAmount := activation.amountDue
          equityCreditAmount := activation.equityCreditAmount
          settlementAmountDue := settlementAmount activation
          startedAt := env.now } } }

def initiateSettlementPayment (partnerUserId activationId : ℕ) (phoneNumber : String) : BnplProc Unit := do
  let (partnerId, _) ← requireActivePartnerForUser partnerUserId
  let activation ← findActivation activationId fun a => a.equityPartnerId = partnerId
  .throwIf (activation.status ≠ .outstanding)
    (.badRequest s!"Activation #{activationId} is already {activation.status.text}.")
  let referenceId := settlementReference env activationId
  .ofExcept (env.initiatePayment phoneNumber (settlementAmount activation) referenceId)
  let attempted := attemptedActivation env activationId activation
  saveActivation activationId attempted
  syncCreditLedgerEntry activationId attempted (some referenceId)

def cancelledActivation (cancelledBy : Option String) (activation : EquityPartnerBnplActivation) :
    EquityPartnerBnplActivation :=
  { activation with
    status := .cancelled
    settledAt := some env.now
    metadata := { activation.metadata with
      cancelledAt := some env.now
      cancelledBy := cancelledBy.or activation.metadata.cancelledBy } }

def cancelBnplActivation (partnerUserId activationId : ℕ) : BnplProc Unit := do
  let (partnerId, _) ← requireActivePartnerForUser partnerUserId
  let activation ← findActivation activationId fun a => a.equityPartnerId = partnerId
  .throwIf (activation.status ≠ .outstanding)
    (.badRequest s!"Activation #{activationId} cannot be cancelled — it is already {activation.status.text}.")
  saveAndSync activationId (cancelledActivation env none activation)

def cancelForAdmin (activationId : ℕ) : BnplProc Unit := do
  let activation ← findActivation activationId fun _ => True
  .throwIf (activation.status ≠ .outstanding)
    (.badRequest s!"Activation #{activationId} cannot be cancelled — it is already {activation.status.text}.")
  saveAndSync activationId (cancelledActivation env (some "admin") activation)

def forgive (activationId : ℕ) (note : Option String) : BnplProc Unit := do
  let activation ← findActivation activationId fun _ => True
  .throwIf (activation.status ≠ .outstanding)
    (.badRequest s!"Activation #{activationId} is already {activation.status.text}.")
  saveAndSync activationId { activation with
    status := .forgiven
    settledAt := some env.now
    metadata := { activation.metadata with forgiveNote := some note, forgivenAt := some env.now } }

/-- `markSettled`: the only status that it looks for is `SETTLED`. -/
def markSettled (activationId : ℕ) (referenceId : Option String) : BnplProc Unit := do
  let activation ← findActivation activationId fun _ => True
  if activation.status = .settled then return
  saveAndSync activationId { activation with
    status := .settled
    settledAt := some env.now
    settlementReferenceId := (referenceId.filter (· ≠ "")).or activation.settlementReferenceId }

end Operations

end SuuqBackend.EquityPartnerBnpl
