import SuuqBackend.Lib.Credentials
import SuuqBackend.PosWorkspace.PosWorkspaceStore
import SuuqBackend.Users.UserStore

/-!
# The tables that decide who may do what

The users, the branches with their tenants, subscriptions and modules, the staff of the branches with their shifts and
invites, and the times when the sessions of a branch were revoked.
-/

namespace SuuqBackend

/-- A row of `branch_staff_assignments`. -/
structure StaffAssignment extends BranchStaffAssignment where
  permissions : List String := []
  assignedSurfaces : Option (List String) := none
  capabilities : List String := []
  posExperienceProfileCode : Option String := none
  serviceSharePct : Option ℤ := none
  sessionRevokedAt : Option ℤ := none

/-- A row of `branch_staff_invites`. -/
structure StaffInvite where
  branchId : ℕ
  email : String
  role : BranchStaffRole
  permissions : List String
  invitedByUserId : Option ℕ
  acceptedByUserId : Option ℕ
  acceptedAt : Option ℤ
  isActive : Bool

structure BranchShift where
  branchId : ℕ
  name : String
  startTime : String
  endTime : String
  daysOfWeek : List String
  isActive : Bool := true

structure BranchShiftStaff where
  shiftId : ℕ
  branchId : ℕ
  userId : ℕ

structure PosBranchSecurity where
  operatorSessionsRevokedAt : Option ℤ

/-- The tables. -/
structure AccessStore where
  users : UserTable
  branches : SerialTable WorkspaceBranch
  tenants : Table ℕ WorkspaceTenant
  subscriptions : SerialTable TenantSubscription
  moduleEntitlements : SerialTable TenantModuleEntitlement
  staffAssignments : SerialTable StaffAssignment
  staffInvites : SerialTable StaffInvite
  shifts : SerialTable BranchShift
  shiftStaff : SerialTable BranchShiftStaff
  /-- By the branch. -/
  branchSecurity : Table ℕ PosBranchSecurity

abbrev AccessProc : Type → Type := Proc AccessStore AuthFailure

namespace AccessStore

def assignmentOf (S : AccessStore) (branchId userId : ℕ) : Option (ℕ × StaffAssignment) :=
  S.staffAssignments.first fun row => row.branchId = branchId ∧ row.userId = userId

def empty : AccessStore := ⟨.empty, .empty, ∅, .empty, .empty, .empty, .empty, .empty, .empty, ∅⟩

end AccessStore

end SuuqBackend

/-!
## The roles of a session

`EffectiveUserRoleService`: the stored roles of a user, with those that come from the branches that the user owns or
works at.  A vendor gets those of a POS manager and of an administrator.
-/

namespace SuuqBackend.EffectiveUserRole

structure BranchAccess where
  isOwner : Bool
  role : BranchStaffRole
  retailTenantId : Option ℕ

/-- `branchAccess` of an owned branch. -/
def ownedAccess (branch : WorkspaceBranch) : BranchAccess := ⟨true, .manager, branch.retailTenantId⟩

/-- `branchAccess` of an assignment, after what was known of the branch. -/
def assignedAccess (existing : Option BranchAccess) (assignment : StaffAssignment) (branch : WorkspaceBranch) :
    BranchAccess where
  isOwner := existing.any (·.isOwner)
  role := if existing.any fun access => access.isOwner || access.role = .manager then .manager else assignment.role
  retailTenantId := (existing.bind (·.retailTenantId)).or branch.retailTenantId

/-- `branchAccess`: the branches that the user owns or works at, if they are active. -/
def branchAccess (S : AccessStore) (userId : ℕ) : Table ℕ BranchAccess :=
  let ownedBranches := S.branches.list fun row => row.ownerId = some userId && row.isActive
  let assignments := S.staffAssignments.list fun row => row.userId = userId && row.isActive
  let owned : Table ℕ BranchAccess :=
    ownedBranches.foldl (fun access found => access.insert found.1 (ownedAccess found.2)) ∅
  assignments.foldl (fun access found =>
    match (S.branches.find found.2.branchId).filter (·.isActive) with
    | none => access
    | some branch =>
      access.insert found.2.branchId (assignedAccess (access.lookup found.2.branchId) found.2 branch)) owned

/-- `activeTenantIds.has`: the tenant has an active subscription. -/
def hasActiveSubscription (S : AccessStore) (tenantId : ℕ) : Bool :=
  (S.subscriptions.first fun row => row.tenantId = tenantId && row.status = .active).isSome

/-- `posEnabledTenantIds.has`: the tenant is active, and so is its module `POS_CORE`. -/
def hasPosCore (S : AccessStore) (now : ℤ) (tenantId : ℕ) : Bool :=
  (S.tenants.lookup tenantId).any (fun tenant => tenant.status = .active) &&
    (S.moduleEntitlements.first fun row =>
      row.tenantId = tenantId && row.retailModule = .posCore && row.enabled && row.startsAt.all (· ≤ now) &&
        row.expiresAt.all (now ≤ ·)).isSome

/-- The access counts: the tenant of the branch pays for the POS. -/
def counts (S : AccessStore) (now : ℤ) (access : BranchAccess) : Bool :=
  access.retailTenantId.any fun tenantId =>
    tenantId ≠ 0 && hasActiveSubscription S tenantId && hasPosCore S now tenantId

def manages (access : BranchAccess) : Bool := access.isOwner || access.role = .manager

def storedRoles (roles : List UserRole) : List UserRole :=
  if .vendor ∈ roles then roles.eraseDups ++ [.posManager, .admin] else roles.eraseDups

def resolveRoles (S : AccessStore) (now : ℤ) (id : Option ℕ) (roles : List UserRole) : List UserRole :=
  match id.filter (· ≠ 0) with
  | none => storedRoles roles
  | some userId =>
    let access := branchAccess S userId
    let hasManagerAccess := access.any fun _ row => counts S now row && manages row
    let hasOperatorAccess := access.any fun _ row => counts S now row && !manages row && row.role = .operator
    let posRoles : List UserRole :=
      if hasManagerAccess then [.posManager] else if hasOperatorAccess then [.posOperator] else []
    (storedRoles roles ++ posRoles).eraseDups

theorem mem_storedRoles {role : UserRole} {roles : List UserRole} :
    role ∈ storedRoles roles ↔ role ∈ roles ∨ .vendor ∈ roles ∧ (role = .posManager ∨ role = .admin) := by
  unfold storedRoles
  split_ifs with hvendor
  · rw [List.mem_append, List.mem_eraseDups, List.mem_cons, List.mem_singleton]
    exact or_congr_right (and_iff_right hvendor).symm
  · rw [List.mem_eraseDups]
    exact (or_iff_left fun h => hvendor h.1).symm

theorem mem_resolveRoles {role : UserRole} (hmanager : role ≠ .posManager) (hoperator : role ≠ .posOperator)
    (S : AccessStore) (now : ℤ) (id : Option ℕ) (roles : List UserRole) :
    role ∈ resolveRoles S now id roles ↔ role ∈ storedRoles roles := by
  unfold resolveRoles
  cases id.filter (· ≠ 0) with
  | none => exact Iff.rfl
  | some userId =>
    rw [List.mem_eraseDups, List.mem_append, or_iff_left]
    split_ifs
    · exact fun h => hmanager (List.mem_singleton.mp h)
    · exact fun h => hoperator (List.mem_singleton.mp h)
    · exact List.not_mem_nil

/-- **Who is an administrator** in a session: a stored administrator, or a vendor. -/
theorem admin_mem_resolveRoles (S : AccessStore) (now : ℤ) (id : Option ℕ) (roles : List UserRole) :
    .admin ∈ resolveRoles S now id roles ↔ .admin ∈ roles ∨ .vendor ∈ roles := by
  rw [mem_resolveRoles (by decide) (by decide), mem_storedRoles, and_iff_left (.inr rfl)]

theorem superAdmin_mem_resolveRoles (S : AccessStore) (now : ℤ) (id : Option ℕ) (roles : List UserRole) :
    .superAdmin ∈ resolveRoles S now id roles ↔ .superAdmin ∈ roles := by
  rw [mem_resolveRoles (by decide) (by decide), mem_storedRoles, or_iff_left]
  rintro ⟨-, h | h⟩ <;> cases h

end SuuqBackend.EffectiveUserRole

/-!
## Tokens

`AuthService` issues access tokens, refresh tokens and the tokens of POS sessions, and takes refresh tokens back;
`JwtStrategy` takes the others.  Times are milliseconds, and the `iat` and `exp` of a token are whole seconds.

Lifetimes are given in seconds, as the library reads the texts of the configuration.  What signs the tokens is given as
a scheme.
-/

namespace SuuqBackend

/-- What a token says of its user. -/
structure SessionClaims where
  sub : ℕ
  email : String
  roles : List UserRole
  tokenType : Option String := none
  branchId : Option ℕ := none
  branchRole : Option BranchStaffRole := none
  permissions : List String := []
  assignedSurfaces : List String := []
  capabilities : List String := []
  isOwner : Bool := false
  isTenantOwner : Bool := false
  posExperienceProfileCode : Option String := none
  approvalType : Option String := none

structure JwtPayload extends SessionClaims where
  iat : ℤ
  exp : ℤ

/-- `request.user`. -/
structure RequestUser where
  id : Option ℕ
  email : String
  roles : List UserRole
  tokenType : Option String
  branchId : Option ℕ
  branchRole : Option BranchStaffRole
  permissions : List String
  assignedSurfaces : List String
  capabilities : List String
  isOwner : Bool
  isTenantOwner : Bool
  approvalType : Option String
  iat : Option ℤ := none

/-- `getRefreshVerificationSecrets`, from the configured values. -/
def refreshVerificationSecrets (jwtSecret : String) (jwtRefreshSecret jwtRefreshPreviousSecrets : Option String) :
    List String :=
  let previous := ((Texts.split (jwtRefreshPreviousSecrets.getD "") ',').map trim).filter (· ≠ "")
  ((jwtRefreshSecret.toList ++ previous) ++ [jwtSecret]).filter (· ≠ "")

structure AuthConfig (τ : Type) where
  scheme : SignatureScheme String τ JwtPayload
  jwtSecret : String
  jwtRefreshSecret : Option String
  jwtRefreshPreviousSecrets : Option String
  jwtExpiresIn : Option ℕ
  jwtRefreshExpiresIn : Option ℕ
  /-- The strategy does not start without a secret. -/
  jwtSecret_ne : jwtSecret ≠ ""
  /-- The secrets are pairwise distinct. -/
  distinct : (refreshVerificationSecrets jwtSecret jwtRefreshSecret jwtRefreshPreviousSecrets).Nodup

/-- The tokens of a session, and its user with the roles that they carry. -/
structure AuthTokens (τ : Type) where
  accessToken : τ
  refreshToken : τ
  user : UserAccount

/-- The payload of a token that is signed at a time, for a number of seconds. -/
def payloadAt (now : ℤ) (claims : SessionClaims) (seconds : ℕ) : JwtPayload :=
  { toSessionClaims := claims, iat := now / 1000, exp := now / 1000 + seconds }

/-- The token has not expired, with a tolerance in seconds. -/
def unexpired (now : ℤ) (clockTolerance : ℕ) (payload : JwtPayload) : Bool := now / 1000 < payload.exp + clockTolerance

namespace AuthService

variable {τ : Type} (config : AuthConfig τ)

def getRefreshVerificationSecrets : List String :=
  refreshVerificationSecrets config.jwtSecret config.jwtRefreshSecret config.jwtRefreshPreviousSecrets

/-- The secret of refresh tokens: without a secret of their own, that of the module. -/
def refreshSecret : String := (config.jwtRefreshSecret.filter (· ≠ "")).getD config.jwtSecret

/-- The claims of `generateTokens`. -/
def sessionClaims (S : AccessStore) (now : ℤ) (id : ℕ) (user : UserAccount) : SessionClaims where
  sub := id
  email := user.email
  roles := EffectiveUserRole.resolveRoles S now (some id) user.roles

def generateTokens (S : AccessStore) (now : ℤ) (id : ℕ) (user : UserAccount) : Except AuthFailure (AuthTokens τ) :=
  let claims := sessionClaims S now id user
  match config.jwtExpiresIn, config.jwtRefreshExpiresIn with
  | some expiresIn, some refreshExpiresIn => .ok
    { accessToken := config.scheme.sign config.jwtSecret (payloadAt now claims expiresIn)
      refreshToken := config.scheme.sign (refreshSecret config)
        (payloadAt now { claims with tokenType := some "refresh" } refreshExpiresIn)
      user := { user with roles := claims.roles } }
  | _, _ => .error (.refused none (.internal
    "\"expiresIn\" should be a number of seconds or string representing a timespan"))

def generateScopedAccessToken (now : ℤ) (claims : SessionClaims) (expiresIn : Option ℕ) : τ :=
  config.scheme.sign config.jwtSecret (payloadAt now claims ((expiresIn.or config.jwtExpiresIn).getD 28800))

def invalidRefreshToken : AuthFailure :=
  .unauthorized (some "INVALID_REFRESH_TOKEN") "Invalid or expired refresh token"

def refreshToken (S : AccessStore) (now : ℤ) (token : τ) : Except AuthFailure (AuthTokens τ) :=
  match config.scheme.openAny (getRefreshVerificationSecrets config) (unexpired now 5) token with
  | none => .error invalidRefreshToken
  | some verified =>
    if (verified.tokenType.filter (· ≠ "")).any (· ≠ "refresh") then .error invalidRefreshToken
    else match S.users.findLive verified.sub with
      | none => .error (.notFound "User not found")
      | some user =>
        if user.isActive then generateTokens config S now verified.sub user
        else .error (.unauthorized (some "USER_INACTIVE") "User not found or inactive")

end AuthService

namespace JwtStrategy

def validate (payload : JwtPayload) : RequestUser where
  id := some payload.sub
  email := payload.email
  roles := payload.roles
  tokenType := payload.tokenType
  branchId := payload.branchId
  branchRole := payload.branchRole
  permissions := payload.permissions
  assignedSurfaces := payload.assignedSurfaces
  capabilities := payload.capabilities
  isOwner := payload.isOwner
  isTenantOwner := payload.isTenantOwner
  approvalType := payload.approvalType

/-- The strategy: the user of a token with a valid signature that has not expired. -/
def authenticate {τ : Type} (config : AuthConfig τ) (now : ℤ) (token : τ) : Except AuthFailure RequestUser :=
  match (config.scheme.openWith config.jwtSecret token).filter (unexpired now 0) with
  | none => .error (.unauthorized none "Unauthorized")
  | some payload => .ok (validate payload)

end JwtStrategy

end SuuqBackend
