import SuuqBackend.Ebirr.EbirrPayments
import SuuqBackend.Retail.EquityPartnerBnpl

/-!
# The tables of the POS workspaces

Branches and their tenants, the subscriptions and modules of the tenants, the staff of the branches, and the users by
their addresses, beside the tables of Ebirr.

A payment for a workspace is remembered in the `metadata` of a subscription: `pendingActivation` and
`pendingBranchCreation` each have room for one.  The newest row of a tenant is the one with the highest id.
-/

namespace SuuqBackend

namespace PosBranchSubscriptionPeriod

def text : PosBranchSubscriptionPeriod → String
  | .monthly => "MONTHLY"
  | .oneYear => "ONE_YEAR"

end PosBranchSubscriptionPeriod

/-- What the workspaces take from outside. -/
structure PosWorkspaceRuntime where
  ebirr : EbirrRuntime
  toLowerCase : String → String
  /-- The upper case of the text of a period is the text itself. -/
  periods : ∀ period : PosBranchSubscriptionPeriod, ebirr.toUpperCase period.text = period.text

inductive RetailTenantStatus where
  | active
  | suspended
  | archived
deriving DecidableEq

inductive RetailModule where
  | posCore
  | inventoryCore
  | inventoryAutomation
  | desktopBackoffice
  | accounting
  | erpConnectors
  | aiAnalytics
deriving DecidableEq

inductive TenantSubscriptionStatus where
  | trial
  | active
  | pastDue
  | cancelled
  | expired
deriving DecidableEq

inductive TenantBillingInterval where
  | monthly
  | yearly
  | custom
  | sixMonths
  | oneYear
deriving DecidableEq

inductive PosWorkspaceStatus where
  | active
  | tenantSetupRequired
  | tenantInactive
  | moduleSetupRequired
  | paymentRequired
  | pastDue
  | expired
  | cancelled
deriving DecidableEq

def PosWorkspaceStatus.text : PosWorkspaceStatus → String
  | .active => "ACTIVE"
  | .tenantSetupRequired => "TENANT_SETUP_REQUIRED"
  | .tenantInactive => "TENANT_INACTIVE"
  | .moduleSetupRequired => "MODULE_SETUP_REQUIRED"
  | .paymentRequired => "PAYMENT_REQUIRED"
  | .pastDue => "PAST_DUE"
  | .expired => "EXPIRED"
  | .cancelled => "CANCELLED"

inductive BranchStaffRole where
  | manager
  | operator
deriving DecidableEq

/-- What workspaces use of a row of `branches`. -/
structure WorkspaceBranch where
  name : String
  code : Option String
  serviceFormat : Option String
  ownerId : Option ℕ
  retailTenantId : Option ℕ
  address : Option String := none
  city : Option String := none
  country : Option String := none
  phone : Option String := none
  tinNumber : Option String := none
  isActive : Bool

/-- What workspaces use of a row of `retail_tenants`. -/
structure WorkspaceTenant where
  status : RetailTenantStatus
  ownerUserId : Option ℕ

structure TenantModuleEntitlement where
  tenantId : ℕ
  retailModule : RetailModule
  enabled : Bool
  startsAt : Option ℤ := none
  expiresAt : Option ℤ := none

structure BranchStaffAssignment where
  branchId : ℕ
  userId : ℕ
  role : BranchStaffRole
  isActive : Bool

/-- `pendingActivation`. -/
structure PendingActivation where
  branchId : ℕ
  period : PosBranchSubscriptionPeriod
  periodMonths : ℕ
  amountTotal : ℕ
  currency : String
  referenceId : String
  referralCode : Option String

/-- `pendingBranchCreation`. -/
structure PendingBranchCreation where
  referenceId : String
  branchName : String
  serviceFormat : String
  city : Option String
  country : Option String
  address : Option String
  defaultCurrency : String
  phone : Option String
  tinNumber : Option String
  referralCode : Option String
  userEmail : Option String
  ownerEmail : Option String
  createdBranchId : Option ℕ := none
  createdAt : Option ℤ := none

/-- What is read and written of the `metadata` of a subscription. -/
structure SubscriptionMetadata where
  pendingActivation : Option PendingActivation := none
  pendingBranchCreation : Option PendingBranchCreation := none
  lastActivationReferenceId : Option String := none
  lastActivatedAt : Option ℤ := none

structure TenantSubscription where
  tenantId : ℕ
  branchId : Option ℕ
  planCode : String
  status : TenantSubscriptionStatus
  billingInterval : TenantBillingInterval
  amount : Option ℕ
  currency : Option String
  periodMonths : Option ℕ := none
  amountTotal : Option ℕ := none
  startsAt : ℤ
  endsAt : Option ℤ
  autoRenew : Bool
  metadata : SubscriptionMetadata := {}

/-- The tables of the workspaces.  `users` has the address of each user. -/
structure PosWorkspaceStore where
  branches : SerialTable WorkspaceBranch
  tenants : Table ℕ WorkspaceTenant
  subscriptions : SerialTable TenantSubscription
  moduleEntitlements : SerialTable TenantModuleEntitlement
  staffAssignments : SerialTable BranchStaffAssignment
  users : SerialTable String
  ebirr : EbirrStore

/-- A handler on these tables, which fails as those of Ebirr do. -/
abbrev WorkspaceProc : Type → Type := Proc PosWorkspaceStore EbirrFailure

namespace PosWorkspaceStore

/-- The tables of Ebirr among them. -/
def ebirrLens : Proc.Lens PosWorkspaceStore EbirrStore where
  get s := s.ebirr
  set s ebirr := { s with ebirr }

def latestSubscription (s : PosWorkspaceStore) (tenantId : ℕ) : Option (ℕ × TenantSubscription) :=
  s.subscriptions.last fun row => row.tenantId = tenantId

def branchSubscription (s : PosWorkspaceStore) (tenantId branchId : ℕ) : Option (ℕ × TenantSubscription) :=
  s.subscriptions.last fun row => row.tenantId = tenantId ∧ row.branchId = some branchId

/-- `save` of a subscription that was loaded. -/
def saveSubscription (s : PosWorkspaceStore) (id : ℕ) (row : TenantSubscription) : PosWorkspaceStore :=
  { s with subscriptions := s.subscriptions.set id row }

def modulesAt (s : PosWorkspaceStore) (tenantId : ℕ) (now : ℤ) : List RetailModule :=
  (s.moduleEntitlements.list fun row =>
    row.tenantId = tenantId ∧ row.enabled ∧ row.startsAt.all (· ≤ now) ∧ row.expiresAt.all (now ≤ ·)).map
      fun found => found.2.retailModule

end PosWorkspaceStore

end SuuqBackend
