import SuuqBackend.Auth.Laws.TokenKinds
import SuuqBackend.BranchStaff.BranchStaff

/-!
# Revoked POS sessions

The guard compares the `iat` of a request's user with the time of the last revocation, but `validate` does not put an
`iat` there, and the `sessionRevokedAt` of an assignment is compared with nothing.  So whether a request is admitted
does not depend on the tables (`admitted_iff`), and `revocation_respected_iff` says when that is what should happen.
-/

namespace SuuqBackend

open PosPortalAuth JwtStrategy

structure PosSession where
  issuedAt : ℤ
  tokenType : PosTokenType
  userId : ℕ
  email : String
  branchAccess : PosBranchSummary
  approvalType : String := ""

/-- What happens to the tables: sessions are revoked, or something else. -/
inductive RevocationCall where
  | revokeAllOperatorSessions (now : ℤ) (branchId : ℕ) (actor : StaffActor)
  | revokeManagerSession (now : ℤ) (branchId userId : ℕ) (actor : StaffActor)
  | other (change : AccessStore → AccessStore)

namespace RevocationCall

def step (S : AccessStore) : RevocationCall → AccessStore
  | revokeAllOperatorSessions now branchId actor =>
    (Proc.run (BranchStaffService.revokeAllOperatorSessions now branchId actor) S).2
  | revokeManagerSession now branchId userId actor =>
    (Proc.run (BranchStaffService.revokeManagerSession now branchId userId actor) S).2
  | other change => change S

end RevocationCall

namespace PosSession

variable {τ : Type} (config : AuthConfig τ) (env : GuardRuntime)

def token (session : PosSession) : τ :=
  issueToken config env session.issuedAt session.userId session.email session.branchAccess
    session.approvalType session.tokenType

def requestUser (session : PosSession) : RequestUser :=
  validate (payloadAt session.issuedAt
    (sessionClaims env session.userId session.email session.branchAccess session.approvalType
      session.tokenType) (lifetime session.tokenType))

/-- The call revokes the session: it succeeds, after the token was issued, for all sessions of its branch or for that of
its manager. -/
def RevokedBy (session : PosSession) (S : AccessStore) : RevocationCall → Prop
  | .revokeAllOperatorSessions now branchId actor =>
    (Proc.run (BranchStaffService.revokeAllOperatorSessions now branchId actor) S).1 = .ok () ∧
      session.issuedAt < now ∧ branchId = session.branchAccess.branchId
  | .revokeManagerSession now branchId userId actor =>
    (Proc.run (BranchStaffService.revokeManagerSession now branchId userId actor) S).1 = .ok () ∧
      session.issuedAt < now ∧ branchId = session.branchAccess.branchId ∧ userId = session.userId ∧
        session.tokenType = .posManagerApproval
  | .other _ => False

def Revoked (session : PosSession) (S : AccessStore) (calls : List RevocationCall) : Prop :=
  ∃ n c, calls[n]? = some c ∧ session.RevokedBy (Run.after RevocationCall.step S (calls.take n)) c

/-- `JwtStrategy` and `PosBranchAccessGuard` let a request with the token pass. -/
def Admitted (session : PosSession) (S : AccessStore) (now : ℤ) (request : BranchRequest) : Prop :=
  ∃ user, authenticate config now (session.token config env) = .ok user ∧
    PosBranchAccessGuard.canActivate env S (some user) request = .ok ()

/-- Revocations apart, the request is one for which the token is meant: it has not expired, the request is for its
branch, and it has a permission for the route if that needs one. -/
def Usable (session : PosSession) (now : ℤ) (request : BranchRequest) : Prop :=
  now / 1000 < session.issuedAt / 1000 + lifetime session.tokenType ∧
    request.extractBranchId env (0 < ·) (some session.branchAccess.branchId) =
        some (session.branchAccess.branchId : ℚ) ∧
      (request.requiredPermissions = [] ∨ PosBranchAccessGuard.isManagerLike (session.requestUser env) ∨
        PosBranchAccessGuard.hasPermission env (session.requestUser env) request.requiredPermissions)

/-- **Revocations are respected** by a request after a run: it is refused if the session was revoked, and admitted if
not and the token is meant for it. -/
structure RevocationRespected (session : PosSession) (S : AccessStore) (calls : List RevocationCall) (now : ℤ)
    (request : BranchRequest) : Prop where
  refused : session.Revoked S calls → ¬ session.Admitted config env (Run.after RevocationCall.step S calls) now request
  admitted : ¬ session.Revoked S calls → session.Usable env now request →
    session.Admitted config env (Run.after RevocationCall.step S calls) now request

/-! ### What the guard sees -/

variable (session : PosSession)

theorem branchId_requestUser : (session.requestUser env).branchId = some session.branchAccess.branchId := by
  obtain ⟨issuedAt, tokenType, userId, email, branchAccess, approvalType⟩ := session
  cases tokenType <;> rfl

theorem tokenType_requestUser :
    PosBranchAccessGuard.tokenType env (session.requestUser env) = session.tokenType.text := by
  obtain ⟨issuedAt, tokenType, userId, email, branchAccess, approvalType⟩ := session
  cases tokenType
  · exact env.tokenTypes .posOperator
  · exact env.tokenTypes .posManagerApproval

theorem authenticate_eq_ok_iff (now : ℤ) (user : RequestUser) :
    authenticate config now (session.token config env) = .ok user ↔
      now / 1000 < session.issuedAt / 1000 + lifetime session.tokenType ∧ session.requestUser env = user := by
  unfold authenticate token issueToken AuthService.generateScopedAccessToken
  rw [config.scheme.openWith_sign, Option.some_or, Option.getD_some, Option.filter_some]
  by_cases hexpired : now / 1000 < session.issuedAt / 1000 + lifetime session.tokenType
  · have hunexpired : unexpired now 0 (payloadAt session.issuedAt (sessionClaims env session.userId
        session.email session.branchAccess session.approvalType session.tokenType)
          (lifetime session.tokenType)) = true :=
      decide_eq_true (by rw [Nat.cast_zero, add_zero]; exact hexpired)
    rw [if_pos hunexpired, and_iff_right hexpired]
    exact ⟨fun h => Except.ok.inj h, fun h => congrArg Except.ok h⟩
  · have hunexpired : ¬ unexpired now 0 (payloadAt session.issuedAt (sessionClaims env session.userId
        session.email session.branchAccess session.approvalType session.tokenType)
          (lifetime session.tokenType)) = true := fun h => hexpired (by
      have hlt := of_decide_eq_true h
      rwa [Nat.cast_zero, add_zero] at hlt)
    rw [if_neg hunexpired]
    exact iff_of_false (fun h => (by cases h)) fun h => hexpired h.1

theorem checkBranch_eq_ok_iff {user : RequestUser} {branchId : ℕ} (huser : user.branchId = some branchId)
    (hiat : user.iat = none) (S : AccessStore) (request : BranchRequest) :
    PosBranchAccessGuard.checkBranch env S user request = .ok () ↔
      request.extractBranchId env (0 < ·) (some branchId) = some (branchId : ℚ) := by
  unfold PosBranchAccessGuard.checkBranch
  rw [huser, hiat]
  cases hroute : request.extractBranchId env (0 < ·) (some branchId) with
  | none => exact iff_of_false (fun h => (by cases h)) fun h => (by cases h)
  | some routeBranchId =>
    dsimp only
    have hpositive : 0 < routeBranchId := by
      obtain ⟨value, -, haccepted⟩ := List.exists_of_findSome?_eq_some hroute
      exact of_decide_eq_true (Option.filter_eq_some_iff.mp haccepted).2
    by_cases heq : routeBranchId = (branchId : ℚ)
    · subst heq
      have hne : branchId ≠ 0 := by
        rintro rfl
        exact lt_irrefl 0 hpositive
      rw [Option.filter_some, if_pos (by rw [decide_eq_true hne, decide_eq_true rfl]; rfl)]
      exact iff_of_true rfl rfl
    · rw [Option.filter_some, if_neg (by rw [decide_eq_false heq, Bool.and_false]; exact Bool.false_ne_true)]
      exact iff_of_false (fun h => (by cases h)) fun h => heq (Option.some.inj h)

/-- **What is admitted**: a request for which the token is meant, whatever was revoked. -/
theorem admitted_iff (S : AccessStore) (now : ℤ) (request : BranchRequest) :
    session.Admitted config env S now request ↔ session.Usable env now request := by
  have htype : PosBranchAccessGuard.tokenType env (session.requestUser env) = "pos_operator" ∨
      PosBranchAccessGuard.tokenType env (session.requestUser env) = "pos_manager_approval" := by
    rw [tokenType_requestUser]
    cases session.tokenType
    · exact .inl rfl
    · exact .inr rfl
  have hguard : PosBranchAccessGuard.canActivate env S (some (session.requestUser env)) request = .ok () ↔
      request.extractBranchId env (0 < ·) (some session.branchAccess.branchId) =
          some (session.branchAccess.branchId : ℚ) ∧
        (request.requiredPermissions = [] ∨ PosBranchAccessGuard.isManagerLike (session.requestUser env) ∨
          PosBranchAccessGuard.hasPermission env (session.requestUser env) request.requiredPermissions) := by
    have hbranch := checkBranch_eq_ok_iff env (branchId_requestUser env session) rfl S request
    unfold PosBranchAccessGuard.canActivate
    dsimp only
    rw [if_pos htype, ← hbranch]
    cases hchecked : PosBranchAccessGuard.checkBranch env S (session.requestUser env) request with
    | error e => exact iff_of_false (fun h => (by cases h)) fun h => (by cases h.1)
    | ok found =>
      rw [and_iff_right rfl]
      unfold PosBranchAccessGuard.checkPermissions
      split_ifs with hpermitted
      · exact iff_of_true rfl hpermitted
      · exact iff_of_false (fun h => (by cases h)) hpermitted
  constructor
  · rintro ⟨user, hauthenticated, hadmitted⟩
    obtain ⟨hexpired, rfl⟩ := (authenticate_eq_ok_iff config env session now user).mp hauthenticated
    exact ⟨hexpired, hguard.mp hadmitted⟩
  · rintro ⟨hexpired, hpermitted⟩
    exact ⟨_, (authenticate_eq_ok_iff config env session now _).mpr ⟨hexpired, rfl⟩, hguard.mpr hpermitted⟩

/-- **When revocations are respected**: when the session was not revoked, or the token is not meant for the request. -/
theorem revocation_respected_iff (session : PosSession) (S : AccessStore) (calls : List RevocationCall) (now : ℤ)
    (request : BranchRequest) :
    session.RevocationRespected config env S calls now request ↔
      (session.Revoked S calls → ¬ session.Usable env now request) := by
  constructor
  · intro h hrevoked husable
    exact h.refused hrevoked ((admitted_iff config env session _ now request).mpr husable)
  · intro h
    refine ⟨fun hrevoked hadmitted => ?_, fun _ husable => ?_⟩
    · exact h hrevoked ((admitted_iff config env session _ now request).mp hadmitted)
    · exact (admitted_iff config env session _ now request).mpr husable

end PosSession

/-- A runtime whose requests name the branch 1. -/
def sampleGuards : GuardRuntime where
  number text := if text = "1" then some 1 else none
  toUpperCase := id
  toLowerCase := id
  tokenTypes tokenType := by cases tokenType <;> decide

/-- An operator of the branch 1, who has unlocked a register. -/
def operatorSession : PosSession where
  issuedAt := 0
  tokenType := .posOperator
  userId := 2
  email := "operator@suuq.com"
  branchAccess := { branchId := 1, role := .operator }

def ownedShop : AccessStore :=
  { AccessStore.empty with
    branches := SerialTable.empty.add
      { name := "Shop", code := none, serviceFormat := none, ownerId := some 1, retailTenantId := none
        isActive := true } }

/-- A second after its owner has revoked all sessions of the branch, the operator is still admitted there. -/
theorem revoked_operator_admitted :
    ¬ operatorSession.RevocationRespected sampleConfig sampleGuards ownedShop
      [.revokeAllOperatorSessions 1000 1 ⟨some 1, []⟩] 2000 { params := some "1" } := by
  intro h
  refine h.refused ⟨0, _, rfl, ?_, by decide, rfl⟩ ⟨_, rfl, by decide⟩
  decide

end SuuqBackend
