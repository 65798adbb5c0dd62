import SuuqBackend.PosWorkspace.PosWorkspaceActivation
import Mathlib.Data.List.Sort

/-!
# The audit of workspaces

`RetailEntitlementsService` shows the status of the workspaces of a tenant in its audit from the relations that were
loaded with the tenant (`resolveTenantWorkspaceStatus`), beside `getBranchWorkspaceStatus`, which asks the database for
the newest subscription.  The relations are loaded in any order.

What else the audit shows, the next billing step among it, is left out.
-/

namespace SuuqBackend

/-- A row of `tenant_subscriptions` with its `createdAt`. -/
structure AuditedSubscription extends TenantSubscription where
  createdAt : ℤ

/-- A row of `retail_tenants` with its relations; the branches by their ids. -/
structure AuditedTenant where
  status : RetailTenantStatus
  branches : List ℕ
  entitlements : List TenantModuleEntitlement
  subscriptions : List AuditedSubscription

namespace RetailEntitlements

variable (now : ℤ)

/-- The entitlement is enabled, has begun and has not expired. -/
def InForce (entitlement : TenantModuleEntitlement) : Prop :=
  entitlement.enabled ∧ entitlement.startsAt.all (· ≤ now) ∧ entitlement.expiresAt.all (now ≤ ·)
deriving Decidable

/-- `getLatestTenantSubscription`: the first one when they are sorted by their start, the latest first. -/
def getLatestTenantSubscription (tenant : AuditedTenant) : Option AuditedSubscription :=
  (tenant.subscriptions.insertionSort fun left right => right.startsAt ≤ left.startsAt).head?

def resolveTenantWorkspaceStatus (tenant : AuditedTenant)
    (latestSubscription : Option AuditedSubscription) : PosWorkspaceStatus :=
  let hasPosModule := tenant.entitlements.any fun entitlement =>
    entitlement.retailModule = .posCore ∧ InForce now entitlement
  if tenant.branches = [] then .tenantSetupRequired
  else if tenant.status ≠ .active then .tenantInactive
  else if hasPosModule = false then .moduleSetupRequired
  else match latestSubscription with
    | none => .paymentRequired
    | some subscription =>
      match subscription.status with
      | .active => .active
      | .trial => .paymentRequired
      | .pastDue => .pastDue
      | .expired => .expired
      | .cancelled => .cancelled

/-- `branchWorkspaces`: the status of each branch in the audit. -/
def branchWorkspaces (tenant : AuditedTenant) : List (ℕ × PosWorkspaceStatus) :=
  let latestSubscription := getLatestTenantSubscription tenant
  tenant.branches.map fun branchId => (branchId, resolveTenantWorkspaceStatus now tenant latestSubscription)

/-- The status that `getBranchWorkspaceStatus` gives for a branch of the tenant, when the database returns
`subscription` as the newest one. -/
def branchWorkspaceStatus (tenant : AuditedTenant) (subscription : Option AuditedSubscription) : PosWorkspaceStatus :=
  PosWorkspaceActivation.workspaceStatusOf now ⟨tenant.status, none⟩
    ((tenant.entitlements.filter fun entitlement => InForce now entitlement).map (·.retailModule))
    (subscription.map (·.toTenantSubscription))

end RetailEntitlements

end SuuqBackend
