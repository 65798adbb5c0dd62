import SuuqBackend.Auth.AuthTokens
import SuuqBackend.PosWorkspace.WorkspaceAudit

/-!
# The guards of a branch

`RetailModulesGuard` asks whether the branch of a request has the modules of the route, and whether its user works
there; `RetailEntitlementsService` answers.  `PosBranchAccessGuard` holds the tokens of POS sessions to their branch
and to the permissions of the route.

The values of a request are taken as their texts, and `Number` of a text as given; it is finite here.
-/

namespace SuuqBackend

inductive PosTokenType where
  | posOperator
  | posManagerApproval
deriving DecidableEq

def PosTokenType.text : PosTokenType → String
  | .posOperator => "pos_operator"
  | .posManagerApproval => "pos_manager_approval"

/-- What the guards take from outside. -/
structure GuardRuntime where
  /-- `Number(text)`; `none` is `NaN`. -/
  number : String → Option ℚ
  toUpperCase : String → String
  toLowerCase : String → String
  /-- The texts of the types are in lower case. -/
  tokenTypes : ∀ tokenType : PosTokenType, toLowerCase (trim tokenType.text) = tokenType.text

inductive BranchPath where
  | body
  | params
  | query
deriving DecidableEq

/-- A request, as the guards see it: the metadata of its route and the values of `branchId`. -/
structure BranchRequest where
  requiredModules : List RetailModule := []
  requiredPermissions : List String := []
  configuredPath : Option BranchPath := none
  body : Option String := none
  params : Option String := none
  query : Option String := none

namespace BranchRequest

def valueAt (request : BranchRequest) : BranchPath → Option String
  | .body => request.body
  | .params => request.params
  | .query => request.query

/-- The values of `branchId`, in the order in which `extractBranchId` tries them; that of the user is a number. -/
def candidates (env : GuardRuntime) (request : BranchRequest) (userBranchId : Option ℕ) : List (Option ℚ) :=
  ((request.configuredPath.toList ++ [BranchPath.body, .params, .query]).map fun path =>
    ((request.valueAt path).filter (· ≠ "")).bind env.number) ++ [userBranchId.map Nat.cast]

/-- `extractBranchId`: the first number that is accepted. -/
def extractBranchId (env : GuardRuntime) (accepts : ℚ → Bool) (request : BranchRequest) (userBranchId : Option ℕ) :
    Option ℚ :=
  (request.candidates env userBranchId).findSome? fun value => value.filter accepts

end BranchRequest

namespace RetailModule

def text : RetailModule → String
  | .posCore => "POS_CORE"
  | .inventoryCore => "INVENTORY_CORE"
  | .inventoryAutomation => "INVENTORY_AUTOMATION"
  | .desktopBackoffice => "DESKTOP_BACKOFFICE"
  | .accounting => "ACCOUNTING"
  | .erpConnectors => "ERP_CONNECTORS"
  | .aiAnalytics => "AI_ANALYTICS"

end RetailModule

namespace RetailEntitlements

open PosWorkspaceActivation (workspaceStatusOf)

/-- `findBranchOrThrow`; the column of the id takes integers. -/
def findBranchOrThrow (S : AccessStore) (branchId : ℚ) : Except AuthFailure (ℕ × WorkspaceBranch) :=
  if branchId.den ≠ 1 then .error (.refused none (.queryFailed "invalid input syntax for type integer"))
  else match if 0 ≤ branchId.num then S.branches.find branchId.num.toNat else none with
    | none => .error (.notFound s!"Branch with ID {branchId.num} not found")
    | some branch => .ok (branchId.num.toNat, branch)

def modulesAt (S : AccessStore) (tenantId : ℕ) (now : ℤ) : List RetailModule :=
  (S.moduleEntitlements.list fun row => row.tenantId = tenantId ∧ InForce now row).map fun found => found.2.retailModule

/-- What `getBranchWorkspaceStatus` says of a branch. -/
structure WorkspaceState where
  branchId : ℕ
  tenantId : Option ℕ
  entitlements : List RetailModule
  workspaceStatus : PosWorkspaceStatus

def getBranchWorkspaceStatus (S : AccessStore) (now : ℤ) (branchId : ℚ) : Except AuthFailure WorkspaceState :=
  match findBranchOrThrow S branchId with
  | .error e => .error e
  | .ok (id, branch) =>
    match branch.retailTenantId.filter (· ≠ 0) with
    | none => .ok ⟨id, none, [], .tenantSetupRequired⟩
    | some tenantId =>
      match S.tenants.lookup tenantId with
      | none => .error (.notFound s!"Retail tenant with ID {tenantId} not found")
      | some tenant =>
        let subscription := S.subscriptions.last fun row => row.tenantId = tenantId
        let entitlements := modulesAt S tenantId now
        .ok ⟨id, some tenantId, entitlements, workspaceStatusOf now tenant entitlements (subscription.map Prod.snd)⟩

/-- `assertBranchHasModules`: the branch, if it has the modules. -/
def assertBranchHasModules (S : AccessStore) (now : ℤ) (branchId : ℚ) (modules : List RetailModule) :
    Except AuthFailure ℕ :=
  if modules = [] then .error (.badRequest "At least one retail module is required")
  else match getBranchWorkspaceStatus S now branchId with
    | .error e => .error e
    | .ok workspace =>
      match workspace.tenantId with
      | none => .error (.forbidden s!"Branch {workspace.branchId} is not assigned to a Retail OS tenant")
      | some tenantId =>
        if workspace.workspaceStatus ≠ .active then .error (.forbidden
          s!"Retail tenant {tenantId} does not have an active POS workspace for branch {workspace.branchId}")
        else match modules.find? (· ∉ workspace.entitlements) with
          | some retailModule => .error (.forbidden
              s!"Retail tenant {tenantId} is not entitled to module {retailModule.text}")
          | none => .ok workspace.branchId

def isUserActiveBranchMember (S : AccessStore) (userId branchId : ℕ) : Bool :=
  match S.branches.find branchId with
  | none => false
  | some branch =>
    branch.ownerId = some userId || (S.staffAssignments.first fun row =>
      row.branchId = branchId && row.userId = userId && row.isActive).isSome

end RetailEntitlements

namespace RetailModulesGuard

def checkedUser (user : Option RequestUser) : Option ℕ :=
  (user.filter fun user => .superAdmin ∉ user.roles ∧ .admin ∉ user.roles).bind fun user => user.id.filter (· ≠ 0)

def canActivate (env : GuardRuntime) (S : AccessStore) (now : ℤ) (user : Option RequestUser)
    (request : BranchRequest) : Except AuthFailure Unit :=
  if request.requiredModules = [] then .ok ()
  else match request.extractBranchId env (fun _ => true) (user.bind (·.branchId)) with
    | none => .error (.badRequest "Unable to resolve branchId for Retail OS entitlement check")
    | some number =>
      match RetailEntitlements.assertBranchHasModules S now number request.requiredModules with
      | .error e => .error e
      | .ok branchId =>
        if (checkedUser user).all fun userId => RetailEntitlements.isUserActiveBranchMember S userId branchId then
          .ok ()
        else .error (.forbidden "You do not have an active staff assignment for this branch.")

end RetailModulesGuard

namespace PosSessionRevocation

def isOperatorTokenValid (S : AccessStore) (branchId : ℕ) (tokenIatSeconds : ℤ) : Bool :=
  match (S.branchSecurity.lookup branchId).bind (·.operatorSessionsRevokedAt) with
  | none => true
  | some revokedAt => revokedAt ≤ tokenIatSeconds * 1000

def revokeAllOperatorSessions (now : ℤ) (branchId : ℕ) : AccessProc Unit :=
  Proc.write fun S => { S with branchSecurity := S.branchSecurity.insert branchId ⟨some now⟩ }

end PosSessionRevocation

namespace PosBranchAccessGuard

def isManagerLike (user : RequestUser) : Bool :=
  user.isOwner || user.isTenantOwner || user.branchRole = some .manager ||
    user.roles.any fun role => role = .superAdmin || role = .admin || role = .posManager

variable (env : GuardRuntime)

def normalized (permission : String) : String := env.toUpperCase (trim permission)

def hasPermission (user : RequestUser) (requiredPermissions : List String) : Bool :=
  let permissions := (user.permissions.map (normalized env)).filter (· ≠ "")
  requiredPermissions.any fun permission => normalized env permission ∈ permissions

/-- `tokenType`, as it is compared. -/
def tokenType (user : RequestUser) : String := env.toLowerCase (trim (user.tokenType.getD ""))

/-- `canActivate`: the branch of a POS session. -/
def checkBranch (S : AccessStore) (user : RequestUser) (request : BranchRequest) : Except AuthFailure Unit :=
  match request.extractBranchId env (0 < ·) user.branchId with
  | none => .error (.badRequest "Unable to resolve branchId for POS access enforcement.")
  | some routeBranchId =>
    match user.branchId.filter fun claimed : ℕ => claimed ≠ 0 && routeBranchId = (claimed : ℚ) with
    | none => .error (.forbidden "This POS token is not valid for the requested branch.")
    | some claimedBranchId =>
      -- a revocation is looked up only if the user has an `iat`
      if (user.iat.filter fun _ => tokenType env user = "pos_operator").all fun iat =>
        PosSessionRevocation.isOperatorTokenValid S claimedBranchId iat then .ok ()
      else .error (.unauthorized none "Your operator session has been revoked. Sign in again at the gate screen.")

/-- `canActivate`: the permissions of the route. -/
def checkPermissions (user : RequestUser) (request : BranchRequest) : Except AuthFailure Unit :=
  if request.requiredPermissions = [] ∨ isManagerLike user ∨ hasPermission env user request.requiredPermissions then
    .ok ()
  else .error (.forbidden "Your POS operator token does not include the required branch permission.")

def canActivate (S : AccessStore) (user : Option RequestUser) (request : BranchRequest) : Except AuthFailure Unit :=
  match user with
  | none => .ok ()
  | some user =>
    if tokenType env user = "pos_operator" ∨ tokenType env user = "pos_manager_approval" then
      match checkBranch env S user request with
      | .error e => .error e
      | .ok () => checkPermissions env user request
    else checkPermissions env user request

end PosBranchAccessGuard

/-!
## The tokens of POS sessions

`PosPortalAuthController` issues them when an operator unlocks a register and when a manager approves something there.
How the branch is found among those of the user, and who may approve, is left out.
-/

/-- What a token says of a branch. -/
structure PosBranchSummary where
  branchId : ℕ
  role : BranchStaffRole
  permissions : List String := []
  assignedSurfaces : List String := []
  capabilities : List String := []
  isOwner : Bool := false
  isTenantOwner : Bool := false
  posExperienceProfileCode : Option String := none

namespace PosPortalAuth

def canIssueManagerApproval (branchAccess : PosBranchSummary) : Bool :=
  branchAccess.isOwner || branchAccess.isTenantOwner || branchAccess.role = .manager

def buildScopedPosClaims (userId : ℕ) (email : String) (branchAccess : PosBranchSummary) (tokenType : PosTokenType) :
    SessionClaims where
  sub := userId
  email
  roles := if canIssueManagerApproval branchAccess then [.posManager] else [.posOperator]
  tokenType := some tokenType.text
  branchId := some branchAccess.branchId
  branchRole := some branchAccess.role
  permissions := branchAccess.permissions
  assignedSurfaces := branchAccess.assignedSurfaces
  capabilities := branchAccess.capabilities
  isOwner := branchAccess.isOwner
  isTenantOwner := branchAccess.isTenantOwner
  posExperienceProfileCode := branchAccess.posExperienceProfileCode

/-- The claims of the token that `operatorUnlock` or `managerApproval` issues. -/
def sessionClaims (env : GuardRuntime) (userId : ℕ) (email : String) (branchAccess : PosBranchSummary)
    (approvalType : String) : PosTokenType → SessionClaims
  | .posOperator => buildScopedPosClaims userId email branchAccess .posOperator
  | .posManagerApproval =>
    { buildScopedPosClaims userId email { branchAccess with role := .manager } .posManagerApproval with
      approvalType := some (env.toUpperCase (trim approvalType)) }

/-- The lifetime of these tokens in seconds: eight hours, or a quarter of one. -/
def lifetime : PosTokenType → ℕ
  | .posOperator => 28800
  | .posManagerApproval => 900

/-- The token that `operatorUnlock` or `managerApproval` issues. -/
def issueToken {τ : Type} (config : AuthConfig τ) (env : GuardRuntime) (now : ℤ) (userId : ℕ) (email : String)
    (branchAccess : PosBranchSummary) (approvalType : String) (tokenType : PosTokenType) : τ :=
  AuthService.generateScopedAccessToken config now (sessionClaims env userId email branchAccess approvalType tokenType)
    (some (lifetime tokenType))

end PosPortalAuth

end SuuqBackend
