import SuuqBackend.PosWorkspace.PosWorkspaceStore

/-!
# Activation of POS workspaces

`PosWorkspaceActivationService`: a branch buys a subscription, or a tenant an additional branch, through Ebirr.  A
payment that Ebirr approves at once is completed at once; the others are remembered in the `metadata` of a
subscription until they are completed.

`assertTenantGovernanceReady` finds no `governance` in what `getBranchWorkspaceStatus` returns, and refuses nothing.
The links to equity partners and the emails, which nobody waits for, are left out, and so is what a response shows of
the reply of Ebirr.  That another branch of the user has no tenant is no reason here to refuse a branch.
-/

namespace SuuqBackend

structure PosBranchSubscriptionOption where
  period : PosBranchSubscriptionPeriod
  months : ℕ
  amount : ℕ
  currency : String
  label : String
  planCode : String
deriving DecidableEq

structure WorkspaceUser where
  id : ℕ
  email : Option String := none

/-- What is known of a branch, and whether it can be used. -/
structure BranchWorkspace where
  branch : WorkspaceBranch
  tenant : Option ℕ
  modules : List RetailModule
  workspaceStatus : PosWorkspaceStatus

/-- What is used of `PosWorkspaceActivationCandidate`. -/
structure ActivationCandidate where
  branchId : ℕ
  branchName : String
  role : BranchStaffRole
  isOwner : Bool
  retailTenantId : Option ℕ
  workspaceStatus : PosWorkspaceStatus

/-- The parameters of `startEbirrActivationPayment`. -/
structure ActivationPaymentParams where
  branchId : ℕ
  phoneNumber : String
  subscriptionPeriod : Option String := none
  referralCode : Option String := none

/-- The parameters of `startAdditionalBranchCreationPayment`. -/
structure BranchCreationDto where
  branchName : String
  serviceFormat : String
  city : Option String := none
  country : Option String := none
  address : Option String := none
  defaultCurrency : Option String := none
  phoneNumber : String
  phone : Option String := none
  tinNumber : Option String := none
  referralCode : Option String := none
  ownerEmail : Option String := none

/-- The reply of Ebirr to a payment, and the times at which things happen. -/
structure EbirrExchange where
  reply : EbirrReply
  requestedAt : ℤ
  repliedAt : ℤ

namespace PosWorkspaceActivation

/-! ### Subscription periods -/

def optionOf : PosBranchSubscriptionPeriod → PosBranchSubscriptionOption
  | .monthly => ⟨.monthly, 1, 1900, "ETB", "1 month", "POS_BRANCH_1M"⟩
  | .oneYear => ⟨.oneYear, 12, 22800, "ETB", "1 year", "POS_BRANCH_1Y"⟩

/-- `POS_BRANCH_SUBSCRIPTION_OPTIONS`. -/
def listSubscriptionOptions : List PosBranchSubscriptionOption := [optionOf .monthly, optionOf .oneYear]

def findPosBranchSubscriptionOption (env : PosWorkspaceRuntime) (period : Option String) :
    Option PosBranchSubscriptionOption :=
  listSubscriptionOptions.find? fun option => option.period.text = EbirrPayments.upper env.ebirr period

/-- `POS_BRANCH_SUBSCRIPTION_MONTHLY_EQUIVALENT`. -/
def monthlyEquivalent : ℕ := 1900

/-- The option of a request, or that of `DEFAULT_POS_BRANCH_PERIOD`. -/
def chosenOption (env : PosWorkspaceRuntime) (period : Option String) : PosBranchSubscriptionOption :=
  (findPosBranchSubscriptionOption env period).getD (optionOf .monthly)

/-! ### References -/

/-- The digits between the dashes of a reference, as a number above 0. -/
def referenceNumber (part : String) : Option ℕ := (Texts.numberAfter "" part).filter (0 < ·)

def parseBranchIdFromReference (referenceId : String) : Option ℕ :=
  match Texts.split referenceId '-' with
  | "POSACT" :: branchId :: _ :: _ => referenceNumber branchId
  | _ => none

/-- `parseBranchCreationReference`: the tenant and the user. -/
def parseBranchCreationReference (referenceId : String) : Option (ℕ × ℕ) :=
  match Texts.split referenceId '-' with
  | "POSBRANCH" :: tenantId :: userId :: _ :: _ => do
    let tenantId ← referenceNumber tenantId
    let userId ← referenceNumber userId
    return (tenantId, userId)
  | _ => none

/-- `isPosWorkspaceActivationReference`. -/
def IsPosWorkspaceActivationReference (referenceId : Option String) : Prop :=
  Texts.StartsWith (referenceId.getD "") "POSACT-"
deriving Decidable

/-- `isBranchCreationPaymentReference`. -/
def IsBranchCreationPaymentReference (referenceId : Option String) : Prop :=
  Texts.StartsWith (referenceId.getD "") "POSBRANCH-"
deriving Decidable

def activationReference (branchId : ℕ) (now : ℤ) : String := s!"POSACT-{branchId}-{now}"

def branchCreationReference (tenantId userId : ℕ) (now : ℤ) : String := s!"POSBRANCH-{tenantId}-{userId}-{now}"

/-! ### The workspace of a branch -/

section Workspace

variable (now : ℤ)

/-- `resolveEffectiveSubscriptionStatus`. -/
def effectiveStatus (row : TenantSubscription) : TenantSubscriptionStatus :=
  if row.status = .active ∧ row.endsAt.any (· < now) then .expired else row.status

def statusOfSubscription : TenantSubscriptionStatus → PosWorkspaceStatus
  | .active => .active
  | .trial => .paymentRequired
  | .pastDue => .pastDue
  | .expired => .expired
  | .cancelled => .cancelled

def workspaceStatusOf (tenant : WorkspaceTenant) (modules : List RetailModule)
    (subscription : Option TenantSubscription) : PosWorkspaceStatus :=
  if tenant.status ≠ .active then .tenantInactive
  else if RetailModule.posCore ∉ modules then .moduleSetupRequired
  else match subscription with
    | none => .paymentRequired
    | some row => statusOfSubscription (effectiveStatus now row)

def getBranchWorkspaceStatus (branchId : ℕ) : WorkspaceProc BranchWorkspace := do
  let some branch ← Proc.read fun s : PosWorkspaceStore => s.branches.find branchId
    | throw (.refused (.branchNotFound branchId))
  match branch.retailTenantId with
  | none => return { branch, tenant := none, modules := [], workspaceStatus := .tenantSetupRequired }
  | some tenantId =>
    let some tenant ← Proc.read fun s : PosWorkspaceStore => s.tenants.lookup tenantId
      | throw (.refused (.notFound s!"Retail tenant with ID {tenantId} not found"))
    let subscription ← Proc.read fun s : PosWorkspaceStore => s.latestSubscription tenantId
    let modules ← Proc.read fun s : PosWorkspaceStore => s.modulesAt tenantId now
    return { branch, tenant := some tenantId, modules,
             workspaceStatus := workspaceStatusOf now tenant modules (subscription.map Prod.snd) }

/-- How a user has access to a branch: the role, and whether the user owns it. -/
def accessOf (s : PosWorkspaceStore) (userId branchId : ℕ) (branch : WorkspaceBranch) :
    Option (BranchStaffRole × Bool) :=
  let isOwner : Bool := branch.ownerId = some userId
  let isTenantOwner := branch.ownerId = none ∧
    (branch.retailTenantId.bind s.tenants.lookup).any fun tenant => tenant.ownerUserId = some userId
  let assignment := s.staffAssignments.last fun row => row.userId = userId ∧ row.branchId = branchId ∧ row.isActive
  if branch.isActive = false then none
  else match assignment with
    | some (_, row) => some (row.role, isOwner)
    | none => if isOwner ∨ isTenantOwner then some (.manager, isOwner) else none

/-- The candidate of `getPosWorkspaceActivationCandidatesForUser` with the given branch. -/
def candidateFor (userId branchId : ℕ) : WorkspaceProc (Option ActivationCandidate) := do
  let found ← Proc.read fun s : PosWorkspaceStore => do
    let branch ← s.branches.find branchId
    let access ← accessOf s userId branchId branch
    return (branch, access)
  match found with
  | none => return none
  | some (branch, role, isOwner) =>
    let workspace ← getBranchWorkspaceStatus now branchId
    if workspace.workspaceStatus = .active then return none
    else return some { branchId, branchName := branch.name, role, isOwner,
                       retailTenantId := workspace.tenant.or branch.retailTenantId,
                       workspaceStatus := workspace.workspaceStatus }

def payableStatuses : List PosWorkspaceStatus := [.paymentRequired, .pastDue, .expired, .cancelled]

def getPayableActivationCandidate (userId branchId : ℕ) : WorkspaceProc ActivationCandidate := do
  let some candidate ← candidateFor now userId branchId
    | throw (.refused (.notFound s!"Branch {branchId} is not available for POS activation for this account."))
  .throwIf (candidate.isOwner = false ∧ candidate.role ≠ .manager) (.refused (.forbidden
    "Only a branch owner or manager can activate POS billing for this workspace."))
  .throwIf (candidate.workspaceStatus ∉ payableStatuses) (.refused (.forbidden
    s!"Branch {branchId} cannot start payment while workspace status is {candidate.workspaceStatus.text}."))
  match candidate.retailTenantId with
  | none => throw (.refused (.forbidden s!"Branch {branchId} is not linked to a retail tenant for POS activation."))
  | some tenantId =>
    let _ ← getBranchWorkspaceStatus now branchId
    let posEntitlement ← Proc.read fun s : PosWorkspaceStore =>
      s.moduleEntitlements.first fun row => row.tenantId = tenantId ∧ row.retailModule = .posCore
    .throwIf (posEntitlement.all fun found => found.2.enabled = false) (.refused (.forbidden
      "POS_CORE entitlement must be enabled before payment can be collected for this branch workspace."))
    return candidate

end Workspace

/-! ### Activations -/

section Activation

variable (env : PosWorkspaceRuntime)

/-- `save` of a subscription that was loaded. -/
def saveSubscription (id : ℕ) (row : TenantSubscription) : WorkspaceProc Unit :=
  Proc.write fun s => s.saveSubscription id row

variable (now : ℤ)

def recordPendingPeriodOnSubscription (branchId : ℕ) (option : PosBranchSubscriptionOption)
    (referenceId : String) (referralCode : Option String) : WorkspaceProc Unit := do
  let workspace ← getBranchWorkspaceStatus now branchId
  match workspace.tenant with
  | none => return
  | some tenantId =>
    match ← Proc.read fun s : PosWorkspaceStore => s.latestSubscription tenantId with
    | none => return
    | some (id, latest) => saveSubscription id { latest with metadata := { latest.metadata with
        pendingActivation := some {
          branchId
          period := option.period
          periodMonths := option.months
          amountTotal := option.amount
          currency := option.currency
          referenceId
          referralCode } } }

/-- The subscription as `completeEbirrActivationPayment` saves it. -/
def activatedSubscription (tenantId branchId : ℕ) (option : PosBranchSubscriptionOption)
    (referenceId : String) (branchSubscription : Option TenantSubscription) : TenantSubscription where
  tenantId
  branchId := some branchId
  planCode := option.planCode
  status := .active
  billingInterval := if option.period = .oneYear then .oneYear else .monthly
  amount := some monthlyEquivalent
  amountTotal := some option.amount
  periodMonths := some option.months
  currency := some option.currency
  startsAt := now
  endsAt := some (now + option.months * 30 * 86400000)
  autoRenew := true
  metadata := { (branchSubscription.map (·.metadata)).getD {} with
    lastActivationReferenceId := some referenceId
    lastActivatedAt := some now
    pendingActivation := none }

/-- `save` of the subscription of the branch, which may be a new one. -/
def saveActivated (branchSubscription : Option (ℕ × TenantSubscription)) (row : TenantSubscription) :
    WorkspaceProc (ℕ × TenantSubscription) :=
  match branchSubscription with
  | some (id, _) => saveSubscription id row >>= fun _ => pure (id, row)
  | none => .step (fun s => { s with subscriptions := s.subscriptions.add row }) fun s =>
      pure (s.subscriptions.next, row)

def resolvedPeriod (explicitPeriod : Option PosBranchSubscriptionPeriod) (reference : Option TenantSubscription) :
    PosBranchSubscriptionPeriod :=
  let pendingMeta := reference.bind fun row => row.metadata.pendingActivation
  explicitPeriod.getD (chosenOption env (pendingMeta.map fun pending => pending.period.text)).period

/-- The part of `completeEbirrActivationPayment` for a branch with a tenant. -/
def activateBranch (tenantId branchId : ℕ) (referenceId : String)
    (explicitPeriod : Option PosBranchSubscriptionPeriod) : WorkspaceProc (ℕ × TenantSubscription) := do
  let branchSubscription ← Proc.read fun s : PosWorkspaceStore => s.branchSubscription tenantId branchId
  let latest ← Proc.read fun s : PosWorkspaceStore => s.latestSubscription tenantId
  let activate := saveActivated branchSubscription (activatedSubscription now tenantId branchId
    (optionOf (resolvedPeriod env explicitPeriod ((branchSubscription.or latest).map Prod.snd))) referenceId
    (branchSubscription.map Prod.snd))
  match branchSubscription with
  | some (id, row) => if row.status = .active then return (id, row) else activate
  | none => activate

def completeEbirrActivationPayment (referenceId : String)
    (explicitPeriod : Option PosBranchSubscriptionPeriod) : WorkspaceProc (Option (ℕ × TenantSubscription)) :=
  match parseBranchIdFromReference referenceId with
  | none => pure none
  | some branchId => do
    let workspace ← getBranchWorkspaceStatus now branchId
    match workspace.tenant with
    | none => throw (.refused (.notFound
        s!"Branch {branchId} is not linked to a retail tenant for POS activation."))
    | some tenantId =>
      .throwIf (RetailModule.posCore ∉ workspace.modules) (.refused (.forbidden
        s!"Branch {branchId} is missing POS_CORE entitlement for activation."))
      let saved ← activateBranch env now tenantId branchId referenceId explicitPeriod
      return some saved

/-- `approvedImmediately`. -/
def ApprovedImmediately (response : EbirrResponse) : Prop :=
  response.errorCode = some "0" ∧ response.paramsState = some "APPROVED"
deriving Decidable

def initiatePayment (request : EbirrPaymentRequest) (exchange : EbirrExchange) : WorkspaceProc EbirrResponse :=
  Proc.zoom PosWorkspaceStore.ebirrLens
    (EbirrPayments.initiatePayment env.ebirr request exchange.reply exchange.requestedAt exchange.repliedAt)

/-- A text in capitals, if there is one. -/
def upperText (text : Option String) : Option String := text.map fun t => env.ebirr.toUpperCase (trim t)

/-- The part of `startEbirrActivationPayment` after the reply of Ebirr: the new status. -/
def settleActivation (branchId : ℕ) (option : PosBranchSubscriptionOption) (referenceId : String)
    (referralCode : Option String) (response : EbirrResponse) : WorkspaceProc String := do
  if ApprovedImmediately response then
    let _ ← completeEbirrActivationPayment env now referenceId (some option.period)
    return "ACTIVE"
  else
    recordPendingPeriodOnSubscription now branchId option referenceId referralCode
    return "PENDING_CONFIRMATION"

/-- `startEbirrActivationPayment`: the reference and the status of the payment. -/
def startEbirrActivationPayment (user : WorkspaceUser) (params : ActivationPaymentParams)
    (exchange : EbirrExchange) : WorkspaceProc (String × String) := do
  let candidate ← getPayableActivationCandidate now user.id params.branchId
  let option := chosenOption env params.subscriptionPeriod
  let referenceId := activationReference candidate.branchId now
  let response ← initiatePayment env
    ⟨some params.phoneNumber, referenceId, s!"POSACTINV-{candidate.branchId}"⟩ exchange
  let referralCode := (upperText env params.referralCode).filter (· ≠ "")
  let status ← settleActivation env exchange.repliedAt candidate.branchId option referenceId referralCode response
  return (referenceId, status)

end Activation

/-! ### Additional branches -/

section BranchCreation

variable (env : PosWorkspaceRuntime)

/-- The beginning of a branch code: the first letters of the first three words of the name. -/
def codeBase (branchName : String) : String :=
  let words := ((env.ebirr.toUpperCase branchName).toList.splitOnP fun c => !(c.isUpper || c.isDigit)).filter (· ≠ [])
  let base := String.ofList ((((words.take 3).map fun token => token.take 3).flatten).take 9)
  if base = "" then "BRANCH" else base

variable (now : ℤ)

/-- The code of an attempt, with the last digits of the time. -/
def attemptedCode (base : String) (attempt : ℕ) : String :=
  let digits := (toString now).toList
  let suffix := String.ofList (digits.drop (digits.length - 6))
  let tail := if attempt = 0 then "" else s!"-{attempt}"
  String.ofList ((s!"{base}-{suffix}{tail}").toList.take 64)

def generateBranchCode (branchName : String) : WorkspaceProc String := do
  let code ← Proc.read fun s : PosWorkspaceStore =>
    ((List.range 8).map (attemptedCode now (codeBase env branchName))).find? fun code =>
      (s.branches.first fun branch => branch.code = some code).isNone
  match code with
  | none => throw (.refused (.internal "Could not generate a unique branch code."))
  | some code => return code

/-- `String(email).trim().toLowerCase()`, unless it is empty. -/
def normalizedEmail (email : Option String) : Option String :=
  (email.map fun e => env.toLowerCase (trim e)).filter (· ≠ "")

def userByEmail (s : PosWorkspaceStore) (email : String) : Option ℕ :=
  (s.users.first fun address => address = email).map Prod.fst

/-- `ownerUserId`: the user with the address of the owner, if that is another than the one who pays. -/
def ownerOf (s : PosWorkspaceStore) (userId : ℕ) (pending : PendingBranchCreation) : ℕ :=
  match normalizedEmail env pending.ownerEmail with
  | none => userId
  | some email =>
    if some email = pending.userEmail.map fun e => env.toLowerCase (trim e) then userId
    else (userByEmail s email).getD userId

def createdBranch (tenantId ownerUserId : ℕ) (code : String) (pending : PendingBranchCreation) : WorkspaceBranch where
  name := pending.branchName
  code := some code
  serviceFormat := some pending.serviceFormat
  ownerId := some ownerUserId
  retailTenantId := some tenantId
  address := pending.address
  city := pending.city
  country := pending.country
  phone := pending.phone
  tinNumber := pending.tinNumber
  isActive := true

/-- `save` of a new branch: its id. -/
def insertBranch (branch : WorkspaceBranch) : WorkspaceProc ℕ :=
  .step (fun s => { s with branches := s.branches.add branch }) fun s => pure s.branches.next

/-- `save` of a new manager. -/
def insertManager (branchId userId : ℕ) : WorkspaceProc Unit :=
  Proc.write fun s => { s with staffAssignments := s.staffAssignments.add ⟨branchId, userId, .manager, true⟩ }

/-- The managers of a new branch: its owner, and the one who has paid. -/
def insertManagers (branchId ownerUserId userId : ℕ) : WorkspaceProc Unit := do
  insertManager branchId ownerUserId
  if ownerUserId ≠ userId then insertManager branchId userId

def withCreatedBranch (pending : PendingBranchCreation) (branchId : ℕ) (row : TenantSubscription) :
    TenantSubscription :=
  { row with metadata := { row.metadata with
      pendingBranchCreation := some { pending with createdBranchId := some branchId, createdAt := some now } } }

/-- The part of `completeBranchCreationPayment` that creates the branch. -/
def createBranch (tenantId userId : ℕ) (id : ℕ) (row : TenantSubscription)
    (pending : PendingBranchCreation) : WorkspaceProc (ℕ × Bool) := do
  let code ← generateBranchCode env now pending.branchName
  let ownerUserId ← Proc.read fun s : PosWorkspaceStore => ownerOf env s userId pending
  let branchId ← insertBranch (createdBranch tenantId ownerUserId code pending)
  insertManagers branchId ownerUserId userId
  saveSubscription id (withCreatedBranch now pending branchId row)
  return (branchId, true)

/-- `completeBranchCreationPayment`: the branch, and whether it was created. -/
def completeBranchCreationPayment (referenceId : String) : WorkspaceProc (ℕ × Bool) :=
  match parseBranchCreationReference referenceId with
  | none => pure (0, false)
  | some (tenantId, userId) => do
    let subscription ← Proc.read fun s : PosWorkspaceStore => s.latestSubscription tenantId
    match subscription with
    | none => return (0, false)
    | some (id, row) =>
      match row.metadata.pendingBranchCreation.filter fun pending => pending.branchName ≠ "" with
      | none => return (0, false)
      | some pending =>
        match pending.createdBranchId with
        | some branchId => return (branchId, false)
        | none => createBranch env now tenantId userId id row pending

/-- The tenant of the first branch that the user is assigned to and that has one. -/
def tenantOfUser (s : PosWorkspaceStore) (userId : ℕ) : Option ℕ :=
  let assignments := s.staffAssignments.list fun row => row.userId = userId ∧ row.isActive
  (List.range s.branches.next).findSome? fun branchId =>
    if assignments.any fun found => found.2.branchId = branchId then
      (s.branches.find branchId).bind (·.retailTenantId)
    else none

/-- The tenant of a user who is to pay for an additional branch. -/
def tenantForCreation (user : WorkspaceUser) : WorkspaceProc ℕ := do
  let assigned ← Proc.read fun s : PosWorkspaceStore =>
    (s.staffAssignments.first fun row => row.userId = user.id ∧ row.isActive).isSome
  .throwIf (assigned = false) (.refused (.forbidden
    "No active branch assignments found. Create a first branch before adding more."))
  match ← Proc.read fun s : PosWorkspaceStore => tenantOfUser s user.id with
  | none => throw (.refused (.forbidden "No retail tenant found. Create a first branch before adding more."))
  | some tenantId => return tenantId

/-- `pendingBranchCreation` of a request. -/
def pendingCreation (user : WorkspaceUser) (dto : BranchCreationDto) (referenceId : String) : PendingBranchCreation where
  referenceId
  branchName := trim dto.branchName
  serviceFormat := dto.serviceFormat
  city := dto.city
  country := dto.country
  address := dto.address
  defaultCurrency := dto.defaultCurrency.getD "ETB"
  phone := dto.phone.map trim
  tinNumber := dto.tinNumber.map trim
  referralCode := upperText env dto.referralCode
  userEmail := user.email.map trim
  ownerEmail := dto.ownerEmail.map fun email => env.toLowerCase (trim email)

def LeavesOpen (failure : EbirrFailure) : Prop :=
  failure.isEbirrTimeout ∨ trim (failure.providerCode.getD "") = "E102051" ∨
    Texts.Includes (env.toLowerCase failure.message) "gateway timeout" ∨
    Texts.Includes (env.toLowerCase failure.message) "transaction timeout"
deriving Decidable

/-- The payment of an additional branch, and what follows the reply of Ebirr: the status and the branch. -/
def payForBranch (user : WorkspaceUser) (tenantId : ℕ) (dto : BranchCreationDto) (now : ℤ) (referenceId : String)
    (exchange : EbirrExchange) : WorkspaceProc (String × Option ℕ) := do
  let request : EbirrPaymentRequest := ⟨some dto.phoneNumber, referenceId, s!"POSBRANCHINV-{tenantId}-{now}"⟩
  let _ : Except EbirrFailure ℕ ← Proc.attempt (Proc.zoom PosWorkspaceStore.ebirrLens
    (EbirrPayments.expireStalePendingTransactionsForPrefix now s!"POSBRANCH-{tenantId}-{user.id}-"))
  match ← Proc.attempt (initiatePayment env request exchange) with
  | .error failure => if LeavesOpen env failure then return ("PENDING", none) else throw failure
  | .ok response =>
    if ApprovedImmediately response then
      let created ← completeBranchCreationPayment env exchange.repliedAt referenceId
      return ("CREATED", some created.1)
    else return ("PENDING", none)

/-- `startAdditionalBranchCreationPayment`: the reference, the status and the branch. -/
def startAdditionalBranchCreationPayment (user : WorkspaceUser) (dto : BranchCreationDto)
    (exchange : EbirrExchange) : WorkspaceProc (String × String × Option ℕ) := do
  let tenantId ← tenantForCreation user
  let subscription ← Proc.read fun s : PosWorkspaceStore =>
    (s.latestSubscription tenantId).filter fun found => found.2.status = .active ∨ found.2.status = .trial
  match subscription with
  | none => throw (.refused (.forbidden
      ("An active or trial subscription is required before adding another branch. " ++
        "Activate your first branch first.")))
  | some (id, row) =>
    let referenceId := branchCreationReference tenantId user.id now
    saveSubscription id { row with metadata := { row.metadata with
      pendingBranchCreation := some (pendingCreation env user dto referenceId) } }
    let (status, branchId) ← payForBranch env user tenantId dto now referenceId exchange
    return (referenceId, status, branchId)

end BranchCreation

def expireOverdueSubscriptions (now : ℤ) : WorkspaceProc ℕ := do
  let overdue ← Proc.read fun s : PosWorkspaceStore =>
    s.subscriptions.list fun row => row.status = .active ∧ row.endsAt.any (· < now)
  Proc.write fun s => overdue.foldl (fun s found => s.saveSubscription found.1 { found.2 with status := .expired }) s
  return overdue.length

end PosWorkspaceActivation

end SuuqBackend
