import SuuqBackend.Lib.Lists
import SuuqBackend.PosWorkspace.Laws.BranchSubscriptions
import SuuqBackend.PosWorkspace.WorkspaceAudit

/-!
# The audit and the status of a branch

`getBranchWorkspaceStatus` takes the subscription that was created last and counts it as expired once it has run out.
The audit takes the one that starts last, whatever its end.  The two agree exactly when the tenant cannot be used
anyway, or has no subscription, or these two subscriptions have the same status (`statuses_agree_iff`).

`reportedStatus_eq_branchWorkspaceStatus` connects the status that is compared here with `getBranchWorkspaceStatus` on
the tables.
-/

namespace SuuqBackend

open PosWorkspaceActivation RetailEntitlements

/-- What `findOne` returns for the subscriptions with the last created first. -/
def CreatedLast (rows : List AuditedSubscription) : Option AuditedSubscription → Prop
  | none => rows = []
  | some found => found ∈ rows ∧ ∀ other ∈ rows, other.createdAt ≤ found.createdAt

def StartsLast (rows : List AuditedSubscription) : AuditedSubscription → Prop := FirstGreatest (·.startsAt) rows

/-- The subscription is active and has run out. -/
def AuditedSubscription.Overdue (now : ℤ) (row : AuditedSubscription) : Prop :=
  row.status = .active ∧ row.endsAt.any (· < now) = true
deriving Decidable

/-- The tenant is active and has the POS module. -/
def AuditedTenant.CanBeUsed (tenant : AuditedTenant) (now : ℤ) : Prop :=
  tenant.status = .active ∧
    ∃ entitlement ∈ tenant.entitlements, entitlement.retailModule = .posCore ∧ InForce now entitlement

/-- The status of the subscription that was created last, expired when it is overdue, is that of the one that starts
last. -/
def SameStatus (now : ℤ) (created started : AuditedSubscription) : Prop :=
  if created.Overdue now then started.status = .expired else started.status = created.status

variable {tenant : AuditedTenant} {now : ℤ}

theorem statusOfSubscription_inj {status status' : TenantSubscriptionStatus} :
    statusOfSubscription status = statusOfSubscription status' ↔ status = status' := by
  cases status <;> cases status' <;> decide

theorem resolveTenantWorkspaceStatus_of_canBeUsed (h : tenant.CanBeUsed now) (hbranches : tenant.branches ≠ [])
    (latest : Option AuditedSubscription) : resolveTenantWorkspaceStatus now tenant latest =
      latest.elim .paymentRequired fun row => statusOfSubscription row.status := by
  obtain ⟨hstatus, entitlement, hmem, hcore⟩ := h
  have hmodule : (tenant.entitlements.any fun entitlement =>
      decide (entitlement.retailModule = .posCore ∧ InForce now entitlement)) = true :=
    List.any_eq_true.mpr ⟨entitlement, hmem, decide_eq_true hcore⟩
  unfold resolveTenantWorkspaceStatus
  rw [if_neg hbranches, if_neg (not_not.mpr hstatus), if_neg (by rw [hmodule]; decide)]
  cases latest with
  | none => rfl
  | some row =>
    cases row.status <;> rfl

theorem branchWorkspaceStatus_of_canBeUsed (h : tenant.CanBeUsed now) (found : Option AuditedSubscription) :
    branchWorkspaceStatus now tenant found =
      found.elim .paymentRequired fun row =>
        statusOfSubscription (if row.Overdue now then .expired else row.status) := by
  obtain ⟨hstatus, entitlement, hmem, hcore⟩ := h
  have hmodule : RetailModule.posCore ∈
      (tenant.entitlements.filter fun entitlement => InForce now entitlement).map (·.retailModule) :=
    List.mem_map.mpr ⟨entitlement, List.mem_filter.mpr ⟨hmem, decide_eq_true hcore.2⟩, hcore.1⟩
  unfold branchWorkspaceStatus workspaceStatusOf
  rw [if_neg (not_not.mpr hstatus), if_neg (not_not.mpr hmodule)]
  cases found with
  | none => rfl
  | some row => rfl

theorem statuses_agree_of_not_canBeUsed (h : ¬ tenant.CanBeUsed now) (hbranches : tenant.branches ≠ [])
    (latest found : Option AuditedSubscription) :
    resolveTenantWorkspaceStatus now tenant latest = branchWorkspaceStatus now tenant found := by
  unfold resolveTenantWorkspaceStatus branchWorkspaceStatus workspaceStatusOf
  rw [if_neg hbranches]
  by_cases hstatus : tenant.status = .active
  · have hnone : ∀ entitlement ∈ tenant.entitlements,
        ¬ (entitlement.retailModule = .posCore ∧ InForce now entitlement) := fun entitlement hmem hcore =>
      h ⟨hstatus, entitlement, hmem, hcore⟩
    have hmodule : (tenant.entitlements.any fun entitlement =>
        decide (entitlement.retailModule = .posCore ∧ InForce now entitlement)) = false :=
      List.any_eq_false.mpr fun entitlement hmem => by simpa using hnone entitlement hmem
    have hlisted : RetailModule.posCore ∉
        (tenant.entitlements.filter fun entitlement => InForce now entitlement).map (·.retailModule) := by
      intro hmem
      obtain ⟨entitlement, hfilter, hcore⟩ := List.mem_map.mp hmem
      obtain ⟨hmem, hforce⟩ := List.mem_filter.mp hfilter
      exact hnone entitlement hmem ⟨hcore, of_decide_eq_true hforce⟩
    rw [if_neg (not_not.mpr hstatus), if_neg (not_not.mpr hstatus), if_pos hmodule, if_pos hlisted]
  · rw [if_pos hstatus, if_pos hstatus]

/-! ### On the tables -/

/-- The tenant as it is loaded from the tables, without its subscriptions. -/
structure AuditedTenant.LoadedFrom (tenant : AuditedTenant) (s : PosWorkspaceStore) (tenantId : ℕ) : Prop where
  status : (s.tenants.lookup tenantId).map (·.status) = some tenant.status
  entitlements : ∀ entitlement, entitlement ∈ tenant.entitlements ↔
    ∃ id, s.moduleEntitlements.find id = some entitlement ∧ entitlement.tenantId = tenantId

/-- What `getBranchWorkspaceStatus` reports is the status that the newest subscription of the table gives. -/
theorem reportedStatus_eq_branchWorkspaceStatus {s : PosWorkspaceStore} {tenantId branchId : ℕ}
    {branch : WorkspaceBranch} (hloaded : tenant.LoadedFrom s tenantId)
    (hbranch : s.branches.find branchId = some branch) (htenant : branch.retailTenantId = some tenantId)
    {found : Option AuditedSubscription}
    (hfound : found.map (·.toTenantSubscription) = (s.latestSubscription tenantId).map Prod.snd) :
    s.reportedStatus now branchId = some (branchWorkspaceStatus now tenant found) := by
  obtain ⟨row, hrow, hstatus⟩ := Option.map_eq_some_iff.mp hloaded.status
  have hmodules : RetailModule.posCore ∈ s.modulesAt tenantId now ↔ RetailModule.posCore ∈
      (tenant.entitlements.filter fun entitlement => InForce now entitlement).map (·.retailModule) := by
    unfold PosWorkspaceStore.modulesAt
    rw [List.mem_map, List.mem_map]
    constructor
    · rintro ⟨⟨id, entitlement⟩, hmem, hcore⟩
      obtain ⟨hfind, hforce⟩ := SerialTable.mem_list_iff.mp hmem
      obtain ⟨hof, hforce⟩ := of_decide_eq_true hforce
      exact ⟨entitlement,
        List.mem_filter.mpr ⟨(hloaded.entitlements entitlement).mpr ⟨id, hfind, hof⟩, decide_eq_true hforce⟩, hcore⟩
    · rintro ⟨entitlement, hmem, hcore⟩
      obtain ⟨hmem, hforce⟩ := List.mem_filter.mp hmem
      obtain ⟨id, hfind, hof⟩ := (hloaded.entitlements entitlement).mp hmem
      exact ⟨(id, entitlement),
        SerialTable.mem_list_iff.mpr ⟨hfind, decide_eq_true ⟨hof, of_decide_eq_true hforce⟩⟩, hcore⟩
  rw [PosWorkspaceStore.reportedStatus_eq, hbranch, Option.bind_some, htenant]
  dsimp only
  rw [hrow, Option.map_some, ← hfound]
  unfold branchWorkspaceStatus workspaceStatusOf
  rw [hstatus]
  simp only [hmodules]

/-! ### Agreement -/

/-- **When the two statuses agree.** -/
theorem statuses_agree_iff (tenant : AuditedTenant) (now : ℤ) (hbranches : tenant.branches ≠ [])
    (found : Option AuditedSubscription) (hfound : CreatedLast tenant.subscriptions found) :
    (∀ workspace ∈ branchWorkspaces now tenant, workspace.2 = branchWorkspaceStatus now tenant found) ↔
      (tenant.CanBeUsed now → ∀ created ∈ found, ∀ started, StartsLast tenant.subscriptions started →
        SameStatus now created started) := by
  have hall : (∀ workspace ∈ branchWorkspaces now tenant, workspace.2 = branchWorkspaceStatus now tenant found) ↔
      resolveTenantWorkspaceStatus now tenant (getLatestTenantSubscription tenant) =
        branchWorkspaceStatus now tenant found := by
    obtain ⟨branchId, branches, hcons⟩ := List.exists_cons_of_ne_nil hbranches
    unfold branchWorkspaces
    rw [List.forall_mem_map, hcons]
    exact ⟨fun h => h branchId List.mem_cons_self, fun h _ _ => h⟩
  rw [hall]
  by_cases husable : tenant.CanBeUsed now
  swap
  · exact iff_of_true (statuses_agree_of_not_canBeUsed husable hbranches _ _) fun h => absurd h husable
  rw [resolveTenantWorkspaceStatus_of_canBeUsed husable hbranches, branchWorkspaceStatus_of_canBeUsed husable]
  have hlatest : ∀ started, getLatestTenantSubscription tenant = some started ↔
      StartsLast tenant.subscriptions started := fun started =>
    head?_insertionSort_eq_some_iff (fun row : AuditedSubscription => row.startsAt)
  cases found with
  | none =>
    have hempty : tenant.subscriptions = [] := hfound
    have hnone : getLatestTenantSubscription tenant = none := by
      unfold getLatestTenantSubscription
      rw [hempty]
      rfl
    rw [hnone]
    exact iff_of_true rfl fun _ _ hcreated => nomatch hcreated
  | some created =>
    cases hstarted : getLatestTenantSubscription tenant with
    | none =>
      have hempty : tenant.subscriptions.insertionSort (fun left right => right.startsAt ≤ left.startsAt) = [] :=
        List.head?_eq_none_iff.mp hstarted
      have hlength : tenant.subscriptions.length = 0 := by
        rw [← List.length_insertionSort (fun left right => right.startsAt ≤ left.startsAt), hempty, List.length_nil]
      rw [List.length_eq_zero_iff.mp hlength] at hfound
      exact absurd hfound.1 List.not_mem_nil
    | some started =>
      have hone : ∀ started', StartsLast tenant.subscriptions started' ↔ started' = started := by
        intro started'
        rw [← hlatest, hstarted, Option.some_inj, eq_comm]
      have hsame : SameStatus now created started ↔
          started.status = if created.Overdue now then .expired else created.status := by
        unfold SameStatus
        split_ifs <;> rfl
      dsimp only [Option.elim_some]
      rw [statusOfSubscription_inj, ← hsame]
      constructor
      · rintro h _ _ ⟨⟩ started' hstarts
        rw [(hone started').mp hstarts]
        exact h
      · exact fun h => h husable created rfl started ((hone started).mpr rfl)

def shortSubscription : AuditedSubscription where
  tenantId := 1
  branchId := some 1
  planCode := "POS_BRANCH_1M"
  status := .active
  billingInterval := .monthly
  amount := some 1900
  currency := some "ETB"
  startsAt := 0
  endsAt := some 50
  autoRenew := true
  createdAt := 0

/-- A tenant with this subscription and one branch. -/
def overdueTenant : AuditedTenant where
  status := .active
  branches := [1]
  entitlements := [{ tenantId := 1, retailModule := .posCore, enabled := true }]
  subscriptions := [shortSubscription]

theorem statuses_agree_iff_overdue :
    (∀ workspace ∈ branchWorkspaces 40 overdueTenant,
      workspace.2 = branchWorkspaceStatus 40 overdueTenant (some shortSubscription)) ↔
      (overdueTenant.CanBeUsed 40 → ∀ created ∈ some shortSubscription, ∀ started,
        StartsLast overdueTenant.subscriptions started → SameStatus 40 created started) := by
  have hcreated : CreatedLast overdueTenant.subscriptions (some shortSubscription) :=
    And.intro List.mem_cons_self fun other hother => by rw [List.mem_singleton.mp hother]
  exact statuses_agree_iff overdueTenant 40 (by decide) (some shortSubscription) hcreated

/-- The audit shows the subscription that has run out as active. -/
theorem overdue_shown_as_active : CreatedLast overdueTenant.subscriptions (some shortSubscription) ∧
    ¬ ∀ workspace ∈ branchWorkspaces 100 overdueTenant,
      workspace.2 = branchWorkspaceStatus 100 overdueTenant (some shortSubscription) := by
  have hcreated : CreatedLast overdueTenant.subscriptions (some shortSubscription) :=
    And.intro List.mem_cons_self fun other hother => by rw [List.mem_singleton.mp hother]
  have hshown : (1, PosWorkspaceStatus.active) ∈ branchWorkspaces 100 overdueTenant := by decide
  refine ⟨hcreated, fun hagree => ?_⟩
  have hsame := hagree _ hshown
  cases hsame

end SuuqBackend
