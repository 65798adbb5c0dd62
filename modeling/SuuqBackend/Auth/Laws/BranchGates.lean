import SuuqBackend.Auth.Laws.TokenKinds
import SuuqBackend.BranchStaff.BranchStaff

/-!
# The gate of a branch

`RetailModulesGuard` and `assertCanManageBranchStaff` let administrators pass everywhere, and everybody else only where
they work.  A session has the role of an administrator if the user is stored as one, or as a vendor
(`admin_mem_resolveRoles`): so the gate holds for the users that are neither (`branch_gate`).
-/

namespace SuuqBackend

open RetailEntitlements RetailModulesGuard BranchStaffService JwtStrategy AuthService

def OwnsBranch (S : AccessStore) (userId branchId : ℕ) : Prop :=
  ∃ branch, S.branches.find branchId = some branch ∧ branch.ownerId = some userId

/-- The user owns the branch, or has an active assignment at it. -/
def WorksAt (S : AccessStore) (userId branchId : ℕ) : Prop :=
  OwnsBranch S userId branchId ∨ ∃ id row, S.staffAssignments.find id = some row ∧ row.branchId = branchId ∧
    row.userId = userId ∧ row.isActive = true

/-- The user owns the branch, or has an active assignment as its manager. -/
def ManagesAt (S : AccessStore) (userId branchId : ℕ) : Prop :=
  OwnsBranch S userId branchId ∨ ∃ id row, S.staffAssignments.find id = some row ∧ row.branchId = branchId ∧
    row.userId = userId ∧ row.isActive = true ∧ row.role = .manager

/-- `RetailModulesGuard` admits a request for a branch: on a route with modules, it finds the branch in the request. -/
def AdmittedAt (env : GuardRuntime) (S : AccessStore) (now : ℤ) (user : RequestUser) (request : BranchRequest)
    (branchId : ℕ) : Prop :=
  request.requiredModules ≠ [] ∧
    request.extractBranchId env (fun _ => true) user.branchId = some (branchId : ℚ) ∧
      canActivate env S now (some user) request = .ok ()

/-- `assertCanManageBranchStaff` succeeds. -/
def MayManage (S : AccessStore) (user : RequestUser) (branchId : ℕ) : Prop :=
  (Proc.run (assertCanManageBranchStaff ⟨user.id, user.roles⟩ branchId) S).1 = .ok ()

/-- **The gate holds for a user**: with the access token of a session, whatever the tables are by then, the guard admits
the user only where the user works, and staff is managed only where the user manages. -/
def BranchGate {τ : Type} (config : AuthConfig τ) (S : AccessStore) (now : ℤ) (id : ℕ) (user : UserAccount) : Prop :=
  ∀ tokens, generateTokens config S now id user = .ok tokens → ∀ now' session,
    authenticate config now' tokens.accessToken = .ok session → ∀ (S' : AccessStore) (branchId : ℕ),
      (∀ env request, AdmittedAt env S' now' session request branchId → WorksAt S' id branchId) ∧
        (MayManage S' session branchId → ManagesAt S' id branchId)

/-- Nobody is kept from a branch: the guard asks only for the modules of the branch, and staff is managed everywhere. -/
def BypassesGate {τ : Type} (config : AuthConfig τ) (S : AccessStore) (now : ℤ) (id : ℕ) (user : UserAccount) : Prop :=
  ∀ tokens, generateTokens config S now id user = .ok tokens → ∀ now' session,
    authenticate config now' tokens.accessToken = .ok session → ∀ (S' : AccessStore) (branchId : ℕ),
      (∀ env (request : BranchRequest), request.requiredModules ≠ [] →
        request.extractBranchId env (fun _ => true) session.branchId = some (branchId : ℚ) →
          (AdmittedAt env S' now' session request branchId ↔
            assertBranchHasModules S' now' branchId request.requiredModules = .ok branchId)) ∧
        MayManage S' session branchId

/-! ### What the guards ask for -/

variable {branchId : ℕ} {S : AccessStore} {now : ℤ}

variable {userId : ℕ} {user : RequestUser}

theorem worksAt_of_isUserActiveBranchMember
    (h : isUserActiveBranchMember S userId branchId = true) : WorksAt S userId branchId := by
  unfold isUserActiveBranchMember at h
  cases hbranch : S.branches.find branchId with
  | none => rw [hbranch] at h; cases h
  | some branch =>
    rw [hbranch] at h
    rcases Bool.or_eq_true _ _ ▸ h with howner | hassigned
    · exact .inl ⟨branch, hbranch, of_decide_eq_true howner⟩
    · obtain ⟨⟨id, row⟩, hfirst⟩ := Option.isSome_iff_exists.mp hassigned
      obtain ⟨hfind, hmeets⟩ := SerialTable.find_of_first hfirst
      simp only [Bool.and_eq_true, decide_eq_true_eq] at hmeets
      exact .inr ⟨id, row, hfind, hmeets.1.1, hmeets.1.2, hmeets.2⟩

theorem managesAt_of_managesStaff (h : managesStaff S userId branchId = true) : ManagesAt S userId branchId := by
  rcases Bool.or_eq_true _ _ ▸ h with howned | hassigned
  · obtain ⟨branch, hbranch, hmeets⟩ := (Option.any_eq_true _ _).mp howned
    exact .inl ⟨branch, hbranch, of_decide_eq_true (Bool.and_eq_true _ _ ▸ hmeets).1⟩
  · cases hfirst : S.staffAssignments.first fun row =>
        row.branchId = branchId && row.userId = userId && row.isActive && row.role = .manager with
    | none => rw [hfirst] at hassigned; cases hassigned
    | some found =>
      obtain ⟨hfind, hmeets⟩ := SerialTable.find_of_first hfirst
      simp only [Bool.and_eq_true, decide_eq_true_eq] at hmeets
      exact .inr ⟨found.1, found.2, hfind, hmeets.1.1.1, hmeets.1.1.2, hmeets.1.2, hmeets.2⟩

theorem findBranchOrThrow_natCast {found : ℕ × WorkspaceBranch}
    (h : findBranchOrThrow S branchId = .ok found) : found.1 = branchId := by
  unfold findBranchOrThrow at h
  rw [Rat.num_natCast, Int.toNat_natCast] at h
  cases hbranch : S.branches.find branchId with
  | none => rw [hbranch] at h; cases h
  | some branch => rw [hbranch] at h; obtain rfl := Except.ok.inj h; rfl

theorem branchId_getBranchWorkspaceStatus {workspace : WorkspaceState}
    (h : getBranchWorkspaceStatus S now branchId = .ok workspace) : workspace.branchId = branchId := by
  unfold getBranchWorkspaceStatus at h
  cases hbranch : findBranchOrThrow S branchId with
  | error e => rw [hbranch] at h; cases h
  | ok found =>
    have hid := findBranchOrThrow_natCast hbranch
    rw [hbranch] at h
    dsimp only at h
    split at h
    · obtain rfl := Except.ok.inj h
      exact hid
    · split at h
      · cases h
      · obtain rfl := Except.ok.inj h
        exact hid

theorem eq_of_assertBranchHasModules {found : ℕ} {modules : List RetailModule}
    (h : assertBranchHasModules S now branchId modules = .ok found) : found = branchId := by
  unfold assertBranchHasModules at h
  split_ifs at h
  cases hworkspace : getBranchWorkspaceStatus S now branchId with
  | error e => rw [hworkspace] at h; cases h
  | ok workspace =>
    have hid := branchId_getBranchWorkspaceStatus hworkspace
    rw [hworkspace] at h
    dsimp only at h
    split at h
    · cases h
    · split_ifs at h
      split at h
      · cases h
      · obtain rfl := Except.ok.inj h
        exact hid

/-- **What the guard asks for**: the modules of the branch, and that a user who is no administrator works there. -/
theorem admittedAt_iff {env : GuardRuntime} {request : BranchRequest} (hmodules : request.requiredModules ≠ [])
    (hbranch : request.extractBranchId env (fun _ => true) user.branchId = some (branchId : ℚ)) :
    AdmittedAt env S now user request branchId ↔
      assertBranchHasModules S now branchId request.requiredModules = .ok branchId ∧
        ((checkedUser (some user)).all fun userId => isUserActiveBranchMember S userId branchId) = true := by
  unfold AdmittedAt
  rw [and_iff_right hmodules, and_iff_right hbranch]
  unfold canActivate
  rw [if_neg hmodules, Option.bind_some, hbranch]
  dsimp only
  cases hfound : assertBranchHasModules S now branchId request.requiredModules with
  | error e => exact ⟨fun h => (by cases h), fun h => (by cases h.1)⟩
  | ok found =>
    obtain rfl := eq_of_assertBranchHasModules hfound
    rw [and_iff_right rfl]
    dsimp only
    split_ifs with hmember
    · exact iff_of_true rfl hmember
    · exact iff_of_false (fun h => (by cases h)) hmember

theorem mayManage_iff : MayManage S user branchId ↔ canManageBranchStaff S ⟨user.id, user.roles⟩ branchId = true := by
  unfold MayManage
  rw [run_assertCanManageBranchStaff]
  split_ifs with hcan
  · exact iff_of_true rfl hcan
  · exact iff_of_false (fun h => (by cases h)) hcan

/-! ### Sessions -/

theorem session_eq {τ : Type} {config : AuthConfig τ} {now' : ℤ} {id : ℕ} {user : UserAccount}
    {tokens : AuthTokens τ} {session : RequestUser} (htokens : generateTokens config S now id user = .ok tokens)
    (hsession : authenticate config now' tokens.accessToken = .ok session) :
    session.id = some id ∧ session.roles = EffectiveUserRole.resolveRoles S now (some id) user.roles := by
  unfold generateTokens at htokens
  split at htokens
  · obtain rfl := Except.ok.inj htokens
    unfold authenticate at hsession
    rw [config.scheme.openWith_sign, Option.filter_some] at hsession
    split_ifs at hsession
    obtain rfl := Except.ok.inj hsession
    exact ⟨rfl, rfl⟩
  · cases htokens

/-- **The gate holds** for every user who is stored neither as an administrator nor as a vendor; vendors pass as
administrators do. -/
theorem branch_gate {τ : Type} (config : AuthConfig τ) (S : AccessStore) (now : ℤ) (id : ℕ) (user : UserAccount)
    (hid : 0 < id) (hadmin : .admin ∉ user.roles) (hsuper : .superAdmin ∉ user.roles) :
    (.vendor ∉ user.roles → BranchGate config S now id user) ∧
      (.vendor ∈ user.roles → BypassesGate config S now id user) := by
  refine ⟨fun hvendor tokens htokens now' session hsession S' branchId => ?_,
    fun hvendor tokens htokens now' session hsession S' branchId => ?_⟩
  · obtain ⟨hsessionId, hroles⟩ := session_eq htokens hsession
    have hnotAdmin : .admin ∉ session.roles := by
      rw [hroles, EffectiveUserRole.admin_mem_resolveRoles]
      exact not_or.mpr ⟨hadmin, hvendor⟩
    have hnotSuper : .superAdmin ∉ session.roles := by
      rwa [hroles, EffectiveUserRole.superAdmin_mem_resolveRoles]
    have hpositive : (session.id.filter (· ≠ 0)) = some id := by
      rw [hsessionId, Option.filter_some, if_pos (decide_eq_true hid.ne')]
    refine ⟨fun env request hadmitted => ?_, fun hmanages => ?_⟩
    · obtain ⟨-, hmember⟩ := (admittedAt_iff hadmitted.1 hadmitted.2.1).mp hadmitted
      have hchecked : checkedUser (some session) = some id := by
        unfold checkedUser
        rw [Option.filter_some, if_pos (decide_eq_true ⟨hnotSuper, hnotAdmin⟩), Option.bind_some, hpositive]
      rw [hchecked] at hmember
      exact worksAt_of_isUserActiveBranchMember hmember
    · have hcan := mayManage_iff.mp hmanages
      unfold canManageBranchStaff at hcan
      rw [decide_eq_false hnotSuper, decide_eq_false hnotAdmin, hpositive] at hcan
      exact managesAt_of_managesStaff hcan
  · obtain ⟨-, hroles⟩ := session_eq htokens hsession
    have hisAdmin : .admin ∈ session.roles := by
      rw [hroles, EffectiveUserRole.admin_mem_resolveRoles]
      exact .inr hvendor
    refine ⟨fun env request hmodules hbranch => ?_, mayManage_iff.mpr ?_⟩
    · rw [admittedAt_iff hmodules hbranch, and_iff_left]
      have hnone : checkedUser (some session) = none := by
        unfold checkedUser
        rw [Option.filter_some, if_neg fun h => (of_decide_eq_true h).2 hisAdmin]
        rfl
      rw [hnone]
      rfl
    · unfold canManageBranchStaff
      rw [decide_eq_true hisAdmin, Bool.or_true, Bool.true_or]

/-- The customer of the sample passes no gate. -/
theorem branch_gate_customer : BranchGate sampleConfig oneCustomer 0 1 sampleCustomer :=
  (branch_gate sampleConfig oneCustomer 0 1 sampleCustomer (by decide) (by decide) (by decide)).1 (by decide)

def sampleVendor : UserAccount := { email := "vendor@suuq.com", roles := [.vendor] }

/-- The vendor manages the staff of a branch without owning it or working there. -/
theorem vendor_manages_everywhere :
    .admin ∉ sampleVendor.roles ∧ .superAdmin ∉ sampleVendor.roles ∧
      ¬ BranchGate sampleConfig AccessStore.empty 0 1 sampleVendor := by
  refine ⟨by decide, by decide, fun h => ?_⟩
  have hmanages := (h _ rfl 0 _ rfl AccessStore.empty 1).2 (mayManage_iff.mpr (by decide))
  obtain ⟨branch, hbranch, -⟩ | ⟨id, row, hrow, -⟩ := hmanages
  · cases hbranch
  · cases hrow

end SuuqBackend
