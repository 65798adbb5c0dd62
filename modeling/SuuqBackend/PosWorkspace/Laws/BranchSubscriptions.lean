import SuuqBackend.PosWorkspace.Laws.ActivationSteps
import SuuqBackend.PosWorkspace.Laws.BranchCreations

/-!
# A branch and its own subscription

The status of a workspace is read from the newest subscription of the tenant, of whichever branch that is.  A branch is
reported as active exactly when a subscription of its own is active as long as the newest subscription of its tenant, if
active, is its own, its older ones are not active, and none is a trial (`RowsApart`).  The payments of a run keep that
when no other branch of the tenant shares its subscriptions and no branch is added to a tenant with an active one
(`active_by_own_subscription`).

With two branches, the payment of one makes the other active (`active_by_other_branch`).
-/

namespace SuuqBackend

open Proc PosWorkspaceActivation PosWorkspaceStore SerialTable

/-! ### What decides a status -/

/-- What decides the status of workspaces in a subscription. -/
structure Standing where
  tenantId : ℕ
  branchId : Option ℕ
  status : TenantSubscriptionStatus
  endsAt : Option ℤ
deriving DecidableEq

def TenantSubscription.standing (row : TenantSubscription) : Standing where
  tenantId := row.tenantId
  branchId := row.branchId
  status := row.status
  endsAt := row.endsAt

namespace Standing

def effective (now : ℤ) (x : Standing) : TenantSubscriptionStatus :=
  if x.status = .active ∧ x.endsAt.any (· < now) then .expired else x.status

/-- The standing after the subscriptions that are overdue have expired. -/
def swept (now : ℤ) (x : Standing) : Standing :=
  if x.status = .active ∧ x.endsAt.any (· < now) then { x with status := .expired } else x

variable {now : ℤ} {x : Standing}

theorem effective_eq_active_iff  : x.effective now = .active ↔ x.status = .active ∧ x.endsAt.all (now ≤ ·) := by
  have hends : x.endsAt.any (· < now) = !x.endsAt.all (now ≤ ·) := by
    cases x.endsAt with
    | none => rfl
    | some endsAt => rw [Option.any_some, Option.all_some, ← decide_not, decide_eq_decide, not_le]
  unfold effective
  rw [hends]
  by_cases hactive : x.status = .active
  · cases x.endsAt.all (now ≤ ·) <;> simp [hactive]
  · simp [hactive]

@[simp] theorem tenantId_swept (now : ℤ) (x : Standing) : (x.swept now).tenantId = x.tenantId := by
  unfold swept
  split <;> rfl

@[simp] theorem branchId_swept (now : ℤ) (x : Standing) : (x.swept now).branchId = x.branchId := by
  unfold swept
  split <;> rfl

theorem swept_of_active (h : (x.swept now).status = .active) : x.swept now = x := by
  unfold swept at h ⊢
  split_ifs at h ⊢
  rfl

theorem status_of_swept_eq_trial (h : (x.swept now).status = .trial) : x.status = .trial := by
  unfold swept at h
  split_ifs at h
  exact h

theorem any_lt_of_le {ends : Option ℤ} {later : ℤ} (hle : now ≤ later) (h : ends.any (· < now) = true) :
    ends.any (· < later) = true := by
  cases ends with
  | none => cases h
  | some endsAt => exact decide_eq_true (lt_of_lt_of_le (of_decide_eq_true h) hle)

theorem effective_swept {later : ℤ} (h : now ≤ later) (x : Standing) :
    (x.swept now).effective later = x.effective later := by
  unfold swept effective
  by_cases hoverdue : x.status = .active ∧ x.endsAt.any (· < now) = true
  · have hlater := any_lt_of_le h hoverdue.2
    rw [if_pos hoverdue]
    simp [hoverdue.1, hlater]
  · rw [if_neg hoverdue]

end Standing

namespace PosWorkspaceStore

def standingAt (s : PosWorkspaceStore) (id : ℕ) : Option Standing := (s.subscriptions.find id).map (·.standing)

def newestStanding (s : PosWorkspaceStore) (tenantId : ℕ) : Option (ℕ × Standing) :=
  (s.latestSubscription tenantId).map fun found => (found.1, found.2.standing)

def reportedStatus (s : PosWorkspaceStore) (now : ℤ) (branchId : ℕ) : Option PosWorkspaceStatus :=
  match (run (getBranchWorkspaceStatus now branchId) s).1 with
  | .ok workspace => some workspace.workspaceStatus
  | .error _ => none

/-- A subscription of the branch itself is active or a trial, and has not run out. -/
def OwnsActive (s : PosWorkspaceStore) (now : ℤ) (branchId : ℕ) : Prop :=
  ∃ id row, s.subscriptions.find id = some row ∧ row.branchId = some branchId ∧
    (row.status = .active ∨ row.status = .trial) ∧ row.endsAt.all (now ≤ ·) = true

/-- The tenant of a branch is active and has the POS module. -/
def Usable (s : PosWorkspaceStore) (now : ℤ) (branchId : ℕ) : Prop :=
  ∃ branch tenantId tenant, s.branches.find branchId = some branch ∧ branch.retailTenantId = some tenantId ∧
    s.tenants.lookup tenantId = some tenant ∧ tenant.status = .active ∧ RetailModule.posCore ∈ s.modulesAt tenantId now

/-- The condition on the subscriptions: a branch whose tenant's newest subscription is active owns it, its other
subscriptions are not active, and none is a trial. -/
structure RowsApart (s : PosWorkspaceStore) : Prop where
  newest : ∀ branchId branch tenantId, s.branches.find branchId = some branch → branch.retailTenantId = some tenantId →
    ∀ found ∈ s.newestStanding tenantId, found.2.status = .active → found.2.branchId = some branchId
  others : ∀ branchId branch tenantId, s.branches.find branchId = some branch → branch.retailTenantId = some tenantId →
    ∀ id x, s.standingAt id = some x → x.branchId = some branchId → x.status = .active →
      s.newestStanding tenantId = some (id, x)
  noTrials : ∀ id x branchId, s.standingAt id = some x → x.branchId = some branchId → x.status ≠ .trial
  known : ∀ id x branchId, s.standingAt id = some x → x.branchId = some branchId → branchId < s.branches.next

variable {s s' : PosWorkspaceStore}

variable {tenantId branchId : ℕ} {tenant : WorkspaceTenant}

theorem newestStanding_eq_some_iff {id : ℕ} {x : Standing} :
    s.newestStanding tenantId = some (id, x) ↔ s.standingAt id = some x ∧ x.tenantId = tenantId ∧
      ∀ id' x', id < id' → s.standingAt id' = some x' → x'.tenantId ≠ tenantId := by
  unfold newestStanding standingAt latestSubscription
  rw [Option.map_eq_some_iff]
  constructor
  · rintro ⟨⟨id', row⟩, hlast, heq⟩
    obtain ⟨rfl, rfl⟩ := Prod.mk.inj heq
    obtain ⟨hfind, hafter⟩ := last_eq_some_iff.mp hlast
    obtain ⟨hrow, htenant⟩ := Option.filter_eq_some_iff.mp hfind
    refine ⟨by rw [hrow]; rfl, of_decide_eq_true htenant, fun id'' x' hlt hx' heq => ?_⟩
    obtain ⟨row', hrow', rfl⟩ := Option.map_eq_some_iff.mp hx'
    have hsame : row'.tenantId = tenantId := heq
    have hnone := hafter id'' hlt
    rw [hrow', Option.filter_some, if_pos (decide_eq_true hsame)] at hnone
    cases hnone
  · rintro ⟨hx, htenant, hafter⟩
    obtain ⟨row, hrow, rfl⟩ := Option.map_eq_some_iff.mp hx
    refine ⟨(id, row), last_eq_some_iff.mpr ⟨?_, fun id' hlt => ?_⟩, rfl⟩
    · have hsame : row.tenantId = tenantId := htenant
      rw [hrow, Option.filter_some, if_pos (decide_eq_true hsame)]
    · cases hrow' : s.subscriptions.find id' with
      | none => rfl
      | some row' =>
        have hne : row'.tenantId ≠ tenantId := hafter id' row'.standing hlt (by rw [hrow']; rfl)
        rw [Option.filter_some, if_neg fun h => hne (of_decide_eq_true h)]

theorem newestStanding_congr (h : ∀ id, s'.standingAt id = s.standingAt id) (tenantId : ℕ) :
    s'.newestStanding tenantId = s.newestStanding tenantId := by
  refine Option.ext fun ⟨id, x⟩ => ?_
  rw [newestStanding_eq_some_iff, newestStanding_eq_some_iff]
  simp only [h]

variable {now : ℤ}

theorem newestStanding_swept (h : ∀ id, s'.standingAt id = (s.standingAt id).map (·.swept now)) (tenantId : ℕ) :
    s'.newestStanding tenantId = (s.newestStanding tenantId).map fun found => (found.1, found.2.swept now) := by
  have hrows : ∀ id, (s'.subscriptions.find id).map (·.standing) =
      (s.subscriptions.find id).map fun row => row.standing.swept now := fun id => by
    have hid := h id
    unfold standingAt at hid
    rw [hid, Option.map_map]
    rfl
  have hsees : ∀ row : TenantSubscription,
      decide ((row.standing.swept now).tenantId = tenantId) = decide (row.tenantId = tenantId) := fun row => by
    rw [Standing.tenantId_swept]
    rfl
  unfold newestStanding latestSubscription
  rw [last_map (q := fun x : Standing => decide (x.tenantId = tenantId)) hsees (fun _ => rfl) hrows, Option.map_map]
  rfl

/-! ### Statuses -/

theorem reportedStatus_eq (s : PosWorkspaceStore) (now : ℤ) (branchId : ℕ) :
    s.reportedStatus now branchId = (s.branches.find branchId).bind fun branch =>
      match branch.retailTenantId with
      | none => some .tenantSetupRequired
      | some tenantId => (s.tenants.lookup tenantId).map fun tenant =>
          workspaceStatusOf now tenant (s.modulesAt tenantId now) ((s.latestSubscription tenantId).map Prod.snd) := by
  unfold reportedStatus getBranchWorkspaceStatus
  rw [run_read_bind]
  cases s.branches.find branchId with
  | none => rfl
  | some branch =>
    dsimp only [Option.bind_some]
    cases branch.retailTenantId with
    | none => rfl
    | some tenantId =>
      dsimp only
      rw [run_read_bind]
      cases s.tenants.lookup tenantId with
      | none => rfl
      | some tenant => rfl

theorem workspaceStatusOf_congr {modules : List RetailModule} {found found' : Option (ℕ × TenantSubscription)}
    (h : found'.map (fun f => f.2.standing.effective now) = found.map fun f => f.2.standing.effective now) :
    workspaceStatusOf now tenant modules (found'.map Prod.snd) =
      workspaceStatusOf now tenant modules (found.map Prod.snd) := by
  unfold workspaceStatusOf
  cases found with
  | none =>
    cases found' with
    | none => rfl
    | some f' => cases h
  | some f =>
    cases found' with
    | none => cases h
    | some f' =>
      have heffective : effectiveStatus now f'.2 = effectiveStatus now f.2 := Option.some.inj h
      simp only [Option.map_some, heffective]

/-- A branch that can be used is reported as active when the newest subscription of its tenant is in effect. -/
theorem reportedStatus_eq_active_iff {branch : WorkspaceBranch} (hbranch : s.branches.find branchId = some branch)
    (htenant : branch.retailTenantId = some tenantId) (hrow : s.tenants.lookup tenantId = some tenant)
    (hactive : tenant.status = .active) (hcore : RetailModule.posCore ∈ s.modulesAt tenantId now) :
    s.reportedStatus now branchId = some .active ↔
      ∃ found ∈ s.newestStanding tenantId, found.2.effective now = .active := by
  rw [reportedStatus_eq, hbranch, Option.bind_some, htenant]
  dsimp only
  rw [hrow, Option.map_some, Option.some_inj]
  unfold workspaceStatusOf newestStanding
  rw [if_neg (not_not.mpr hactive), if_neg (not_not.mpr hcore)]
  cases s.latestSubscription tenantId with
  | none => exact iff_of_false (fun h => by cases h) fun ⟨_, hfound, _⟩ => by cases hfound
  | some found =>
    have hstatus : ∀ status, statusOfSubscription status = .active ↔ status = .active := by
      intro status
      cases status <;> decide
    simp only [Option.map_some, hstatus]
    exact ⟨fun h => ⟨_, rfl, h⟩, fun ⟨_, hfound, h⟩ => by cases hfound; exact h⟩

theorem RowsApart.reported_iff (h : s.RowsApart) (husable : s.Usable now branchId) :
    s.reportedStatus now branchId = some .active ↔ s.OwnsActive now branchId := by
  obtain ⟨branch, tenantId, tenant, hbranch, htenant, hrow, hactive, hcore⟩ := husable
  rw [reportedStatus_eq_active_iff hbranch htenant hrow hactive hcore]
  constructor
  · rintro ⟨⟨id, x⟩, hnewest, heffective⟩
    obtain ⟨hstatus, hends⟩ := Standing.effective_eq_active_iff.mp heffective
    have hown := h.newest branchId branch tenantId hbranch htenant _ hnewest hstatus
    obtain ⟨row, hfind, rfl⟩ := Option.map_eq_some_iff.mp (newestStanding_eq_some_iff.mp hnewest).1
    exact ⟨id, row, hfind, hown, .inl hstatus, hends⟩
  · rintro ⟨id, row, hfind, hown, hstatus, hends⟩
    have hx : s.standingAt id = some row.standing := by
      unfold standingAt
      rw [hfind]
      rfl
    rcases hstatus with hstatus | hstatus
    · exact ⟨_, h.others branchId branch tenantId hbranch htenant id _ hx hown hstatus,
        Standing.effective_eq_active_iff.mpr ⟨hstatus, hends⟩⟩
    · exact absurd hstatus (h.noTrials id _ branchId hx hown)

end PosWorkspaceStore

/-! ### Calls -/

/-- The calls of a run: payments for branches, also for renewed ones, payments for additional branches, and the daily
expiry. -/
inductive WorkspaceCall where
  | startActivation (now : ℤ) (user : WorkspaceUser) (params : ActivationPaymentParams) (exchange : EbirrExchange)
  | completeActivation (now : ℤ) (reference : String) (explicitPeriod : Option PosBranchSubscriptionPeriod)
  | startBranchCreation (now : ℤ) (user : WorkspaceUser) (dto : BranchCreationDto) (exchange : EbirrExchange)
  | completeBranchCreation (now : ℤ) (reference : String)
  | expire (now : ℤ)

namespace WorkspaceCall

def step (env : PosWorkspaceRuntime) (s : PosWorkspaceStore) : WorkspaceCall → PosWorkspaceStore
  | .startActivation now user params exchange =>
    (run (startEbirrActivationPayment env now user params exchange) s).2
  | .completeActivation now reference explicitPeriod =>
    (run (completeEbirrActivationPayment env now reference explicitPeriod) s).2
  | .startBranchCreation now user dto exchange =>
    (run (startAdditionalBranchCreationPayment env now user dto exchange) s).2
  | .completeBranchCreation now reference => (run (completeBranchCreationPayment env now reference) s).2
  | .expire now => (run (expireOverdueSubscriptions now) s).2

def Concerns (call : WorkspaceCall) (branchId : ℕ) : Prop :=
  match call with
  | .startActivation _ _ params _ => params.branchId = branchId
  | .completeActivation _ reference _ => parseBranchIdFromReference reference = some branchId
  | _ => False

end WorkspaceCall

namespace PosWorkspaceStore

/-- No other branch has the tenant, and the newest subscription of the tenant is that of the branch, if it has one. -/
def Alone (s : PosWorkspaceStore) (tenantId branchId : ℕ) : Prop :=
  (∀ other branch, s.branches.find other = some branch → branch.retailTenantId = some tenantId → other = branchId) ∧
    ∀ own ∈ s.branchSubscription tenantId branchId, s.latestSubscription tenantId = some own

end PosWorkspaceStore

/-- The condition on a call: a branch that is activated is alone with its tenant, and the tenant of an additional
branch has no active subscription. -/
def WorkspaceCall.Meets (env : PosWorkspaceRuntime) (s : PosWorkspaceStore) : WorkspaceCall → Prop
  | .startActivation now user params exchange => s.AsksForActivation env now user params → exchange.Approves →
      ∀ found ∈ s.grantedTo (activationReference params.branchId now) exchange.repliedAt, s.Alone found.1 found.2
  | .completeActivation now reference _ => ∀ found ∈ s.grantedTo reference now, s.Alone found.1 found.2
  | .startBranchCreation _ user _ exchange => exchange.Approves →
      ∀ found ∈ s.payingTenant user, found.2.2.status ≠ .active
  | .completeBranchCreation _ reference => ∀ parsed ∈ parseBranchCreationReference reference,
      ∀ found ∈ s.awaiting parsed.1, found.2.1.status ≠ .active
  | .expire _ => True

/-! ### What a call changes -/

namespace PosWorkspaceStore

structure SameTenants (s s' : PosWorkspaceStore) : Prop where
  tenants : s'.tenants = s.tenants
  moduleEntitlements : s'.moduleEntitlements = s.moduleEntitlements

structure KeepsStandings (s s' : PosWorkspaceStore) : Prop extends SameTenants s s' where
  branches : s'.branches = s.branches
  standings : ∀ id, s'.standingAt id = s.standingAt id

/-- The subscription `id` becomes that of a branch: it is active, and the newest one of the tenant. -/
structure ActivatesRow (s s' : PosWorkspaceStore) (tenantId branchId id : ℕ) (x : Standing) : Prop where
  found : s'.standingAt id = some x
  newest : s'.newestStanding tenantId = some (id, x)
  tenantId_eq : x.tenantId = tenantId
  branchId_eq : x.branchId = some branchId
  active : x.status = .active
  old : ∀ old ∈ s.standingAt id, old.tenantId = tenantId
  fresh : s.standingAt id = none → ∀ id' x', s.standingAt id' = some x' → x'.tenantId = tenantId →
    x'.branchId ≠ some branchId
  others : ∀ id' ≠ id, s'.standingAt id' = s.standingAt id'

structure Activates (s s' : PosWorkspaceStore) (tenantId branchId : ℕ) : Prop extends SameTenants s s' where
  branches : s'.branches = s.branches
  linked : ∃ branch, s.branches.find branchId = some branch ∧ branch.retailTenantId = some tenantId
  row : ∃ id x, s.ActivatesRow s' tenantId branchId id x

structure AddsBranch (s s' : PosWorkspaceStore) (tenantId : ℕ) : Prop extends SameTenants s s' where
  branches : ∃ branch, branch.retailTenantId = some tenantId ∧ s'.branches = s.branches.add branch
  standings : ∀ id, s'.standingAt id = s.standingAt id

structure Sweeps (s s' : PosWorkspaceStore) (now : ℤ) : Prop extends SameTenants s s' where
  branches : s'.branches = s.branches
  standings : ∀ id, s'.standingAt id = (s.standingAt id).map (·.swept now)

variable {s s' s'' : PosWorkspaceStore}

theorem KeepsStandings.refl (s : PosWorkspaceStore) : s.KeepsStandings s := ⟨⟨rfl, rfl⟩, rfl, fun _ => rfl⟩

theorem KeepsStandings.trans (h : s.KeepsStandings s') (h' : s'.KeepsStandings s'') : s.KeepsStandings s'' :=
  ⟨⟨h'.tenants.trans h.tenants, h'.moduleEntitlements.trans h.moduleEntitlements⟩, h'.branches.trans h.branches,
    fun id => (h'.standings id).trans (h.standings id)⟩

variable {tenantId : ℕ}

theorem AddsBranch.of_keeps (hadds : s'.AddsBranch s'' tenantId) (h : s.KeepsStandings s') :
    s.AddsBranch s'' tenantId := by
  obtain ⟨branch, htenant, hbranches⟩ := hadds.branches
  rw [h.branches] at hbranches
  exact ⟨⟨hadds.tenants.trans h.tenants, hadds.moduleEntitlements.trans h.moduleEntitlements⟩,
    ⟨branch, htenant, hbranches⟩, fun id => (hadds.standings id).trans (h.standings id)⟩

variable {id : ℕ}

theorem KeepsStandings.saved {row row' : TenantSubscription} (hfind : s.subscriptions.find id = some row)
    (hrow : row'.standing = row.standing) : s.KeepsStandings (s.saveSubscription id row') := by
  refine ⟨⟨rfl, rfl⟩, rfl, fun id' => ?_⟩
  unfold standingAt saveSubscription
  by_cases hid : id' = id
  · rw [hid, find_set_self hfind, hfind, Option.map_some, Option.map_some, hrow]
  · rw [find_set_of_ne _ _ hid]

theorem KeepsStandings.withEbirr (s : PosWorkspaceStore) (ebirr : EbirrStore) :
    s.KeepsStandings (s.withEbirr ebirr) := ⟨⟨rfl, rfl⟩, rfl, fun _ => rfl⟩

variable {branchId : ℕ} {rows : List (ℕ × TenantSubscription)}

theorem linked_of_grantedTo {reference : String} {now : ℤ} (h : s.grantedTo reference now = some (tenantId, branchId)) :
    parseBranchIdFromReference reference = some branchId ∧
      ∃ branch, s.branches.find branchId = some branch ∧ branch.retailTenantId = some tenantId := by
  obtain ⟨branchId', hparse, hrest⟩ := Option.bind_eq_some_iff.mp h
  obtain ⟨tenantId', hfilter, heq⟩ := Option.map_eq_some_iff.mp hrest
  obtain ⟨rfl, rfl⟩ := Prod.mk.inj heq
  obtain ⟨branch, hbranch, htenant⟩ := Option.bind_eq_some_iff.mp (Option.filter_eq_some_iff.mp hfilter).1
  exact ⟨hparse, branch, hbranch, (Option.filter_eq_some_iff.mp htenant).1⟩

theorem activatesRow_activated (h : s.Alone tenantId branchId) (now : ℤ)
    (option : PosBranchSubscriptionOption) (reference : String) :
    ∃ id x, s.ActivatesRow (s.activated now tenantId branchId option reference) tenantId branchId id x := by
  unfold activated
  cases hown : s.branchSubscription tenantId branchId with
  | none =>
    let row := activatedSubscription now tenantId branchId option reference none
    have hnewest : (s.subscriptions.add row).last (fun row => row.tenantId = tenantId) =
        some (s.subscriptions.next, row) := last_add (decide_eq_true rfl)
    refine ⟨s.subscriptions.next, row.standing, ?_, ?_, rfl, rfl, rfl, ?_, fun _ id' x' hx' htenant hbranch => ?_,
      fun id' hid => ?_⟩
    · unfold standingAt
      rw [find_add_self]
      rfl
    · unfold newestStanding latestSubscription
      rw [hnewest]
      rfl
    · unfold standingAt
      rw [find_next]
      exact fun _ h => nomatch h
    · obtain ⟨row', hrow', rfl⟩ := Option.map_eq_some_iff.mp hx'
      have hnone := filter_of_last_eq_none hown id'
      rw [hrow', Option.filter_some, if_pos (decide_eq_true ⟨htenant, hbranch⟩)] at hnone
      cases hnone
    · unfold standingAt
      rw [find_add_of_ne _ _ hid]
  | some own =>
    obtain ⟨id, old⟩ := own
    let row := activatedSubscription now tenantId branchId option reference (some old)
    have hlatest : s.subscriptions.last (fun row => row.tenantId = tenantId) = some (id, old) := h.2 _ hown
    have hold := (find_of_last hlatest).1
    have hnewest : (s.subscriptions.set id row).last (fun row => row.tenantId = tenantId) = some (id, row) :=
      last_set hlatest (decide_eq_true rfl)
    refine ⟨id, row.standing, ?_, ?_, rfl, rfl, rfl, ?_, fun hnone => ?_, fun id' hid => ?_⟩
    · unfold standingAt saveSubscription
      rw [find_set_self hold]
      rfl
    · unfold newestStanding latestSubscription saveSubscription
      rw [hnewest]
      rfl
    · unfold standingAt
      rw [hold]
      rintro _ ⟨⟩
      exact of_decide_eq_true (find_of_last hlatest).2
    · unfold standingAt at hnone
      rw [hold] at hnone
      cases hnone
    · unfold standingAt saveSubscription
      rw [find_set_of_ne _ _ hid]

def expiredRows (s : PosWorkspaceStore) (rows : List (ℕ × TenantSubscription)) : PosWorkspaceStore :=
  rows.foldl (fun s found => s.saveSubscription found.1 { found.2 with status := .expired }) s

theorem rest_expiredRows (rows : List (ℕ × TenantSubscription)) (s : PosWorkspaceStore) :
    s.SameTenants (s.expiredRows rows) ∧ (s.expiredRows rows).branches = s.branches := by
  induction rows generalizing s with
  | nil => exact ⟨⟨rfl, rfl⟩, rfl⟩
  | cons found rows ih =>
    obtain ⟨hrest, hbranches⟩ := ih (s.saveSubscription found.1 { found.2 with status := .expired })
    exact ⟨⟨hrest.tenants, hrest.moduleEntitlements⟩, hbranches⟩

theorem find_expiredRows_of_notMem (h : id ∉ rows.map Prod.fst)
    (s : PosWorkspaceStore) : (s.expiredRows rows).subscriptions.find id = s.subscriptions.find id := by
  induction rows generalizing s with
  | nil => rfl
  | cons found rows ih =>
    rw [List.map_cons, List.mem_cons, not_or] at h
    exact (ih h.2 _).trans (find_set_of_ne _ _ h.1)

theorem find_expiredRows_of_mem (h : id ∈ rows.map Prod.fst)
    {s : PosWorkspaceStore} (hsome : (s.subscriptions.find id).isSome = true) :
    ∃ row, (id, row) ∈ rows ∧ (s.expiredRows rows).subscriptions.find id = some { row with status := .expired } := by
  induction rows generalizing s with
  | nil => cases h
  | cons found rows ih =>
    obtain ⟨id', row'⟩ := found
    by_cases hlater : id ∈ rows.map Prod.fst
    · obtain ⟨row, hmem, hfind⟩ := ih hlater (s := s.saveSubscription id' { row' with status := .expired })
        ((isSome_find_set _ _ _ _).trans hsome)
      exact ⟨row, List.mem_cons_of_mem _ hmem, hfind⟩
    · obtain rfl : id = id' := (List.mem_cons.mp h).resolve_right hlater
      obtain ⟨old, hold⟩ := Option.isSome_iff_exists.mp hsome
      exact ⟨row', List.mem_cons_self, (find_expiredRows_of_notMem hlater _).trans (find_set_self hold _)⟩

theorem sweeps_expire (now : ℤ) (s : PosWorkspaceStore) : s.Sweeps (run (expireOverdueSubscriptions now) s).2 now := by
  let overdue := s.subscriptions.list fun row => row.status = .active ∧ row.endsAt.any (· < now)
  have hmem : ∀ id row, (id, row) ∈ overdue ↔
      s.subscriptions.find id = some row ∧ row.status = .active ∧ row.endsAt.any (· < now) = true := by
    intro id row
    rw [mem_list_iff, decide_eq_true_eq]
  obtain ⟨hrest, hbranches⟩ := rest_expiredRows overdue s
  refine ⟨hrest, hbranches, fun id => ?_⟩
  show (s.expiredRows overdue).standingAt id = _
  unfold standingAt
  by_cases hid : id ∈ overdue.map Prod.fst
  · obtain ⟨⟨id', old⟩, hfound, rfl⟩ := List.mem_map.mp hid
    have hold := ((hmem id' old).mp hfound).1
    obtain ⟨row, hrow, hfind⟩ := find_expiredRows_of_mem hid (by rw [hold]; rfl)
    obtain ⟨hrow, hoverdue⟩ := (hmem id' row).mp hrow
    have hswept : row.standing.swept now = { row.standing with status := .expired } := if_pos hoverdue
    rw [hfind, hrow, Option.map_some, Option.map_some, Option.map_some, hswept]
    rfl
  · rw [find_expiredRows_of_notMem hid]
    cases hrow : s.subscriptions.find id with
    | none => rfl
    | some row =>
      have hnot : ¬ (row.standing.status = .active ∧ row.standing.endsAt.any (· < now) = true) := fun hoverdue =>
        hid (List.mem_map_of_mem ((hmem id row).mpr ⟨hrow, hoverdue⟩))
      rw [Option.map_some, Option.map_some]
      unfold Standing.swept
      rw [if_neg hnot]

end PosWorkspaceStore

section Calls

variable {env : PosWorkspaceRuntime} {s : PosWorkspaceStore}

theorem completeActivation_effect (env : PosWorkspaceRuntime) {now : ℤ} {reference : String}
    (explicitPeriod : Option PosBranchSubscriptionPeriod)
    (halone : ∀ found ∈ s.grantedTo reference now, s.Alone found.1 found.2) :
    let s' := (run (completeEbirrActivationPayment env now reference explicitPeriod) s).2
    s.KeepsStandings s' ∨ ∃ tenantId branchId, parseBranchIdFromReference reference = some branchId ∧
      s.Alone tenantId branchId ∧ s.Activates s' tenantId branchId := by
  intro s'
  cases hgranted : s.grantedTo reference now with
  | none =>
    left
    show s.KeepsStandings (run _ s).2
    rw [run_completeActivation_of_none hgranted]
    exact .refl s
  | some found =>
    obtain ⟨tenantId, branchId⟩ := found
    obtain ⟨hparse, hlinked⟩ := linked_of_grantedTo hgranted
    have hgiven := halone _ hgranted
    refine .inr ⟨tenantId, branchId, hparse, hgiven, ?_⟩
    show s.Activates (run _ s).2 tenantId branchId
    rw [run_completeActivation_of_some hgranted]
    refine ⟨?_, ?_, hlinked, activatesRow_activated hgiven _ _ _⟩
    · unfold activated
      cases s.branchSubscription tenantId branchId <;> exact ⟨rfl, rfl⟩
    · unfold activated
      cases s.branchSubscription tenantId branchId <;> rfl

theorem completeBranchCreation_effect (env : PosWorkspaceRuntime) {now : ℤ} {reference : String}
    (hinactive : ∀ parsed ∈ parseBranchCreationReference reference,
      ∀ found ∈ s.awaiting parsed.1, found.2.1.status ≠ .active) :
    let s' := (run (completeBranchCreationPayment env now reference) s).2
    s.KeepsStandings s' ∨ ∃ tenantId, s.AddsBranch s' tenantId ∧
      ∀ found ∈ s.newestStanding tenantId, found.2.status ≠ .active := by
  intro s'
  rcases completeBranchCreation_cases env now reference s with
    hsame | ⟨tenantId, userId, id, row, pending, code, hparse, hawaits, hrun⟩
  · left
    show s.KeepsStandings (run _ s).2
    rw [hsame]
    exact .refl s
  · obtain ⟨found, hlatest, hslot⟩ := Option.bind_eq_some_iff.mp hawaits
    obtain ⟨_, -, heq⟩ := Option.map_eq_some_iff.mp hslot
    obtain ⟨rfl, hrow⟩ := Prod.mk.inj heq
    obtain ⟨rfl, -⟩ := Prod.mk.inj hrow
    have hstatus := hinactive _ hparse _ hawaits
    refine .inr ⟨tenantId, ?_, ?_⟩
    · show s.AddsBranch (run _ s).2 tenantId
      rw [hrun]
      have hkept : s.KeepsStandings
          (s.saveSubscription found.1 (withCreatedBranch now pending s.branches.next found.2)) :=
        .saved (find_of_last hlatest).1 rfl
      exact ⟨⟨rfl, rfl⟩, ⟨_, rfl, rfl⟩, hkept.standings⟩
    · unfold newestStanding
      rw [hlatest]
      rintro _ ⟨⟩
      exact hstatus

/-- **One step** changes nothing that decides a status, or activates a branch that is alone, or adds a branch to a
tenant without an active subscription, or records what has expired. -/
theorem WorkspaceCall.step_cases {call : WorkspaceCall} (hmeets : call.Meets env s) :
    s.KeepsStandings (call.step env s) ∨
    (∃ tenantId branchId, call.Concerns branchId ∧ s.Alone tenantId branchId ∧
      s.Activates (call.step env s) tenantId branchId) ∨
    (∃ tenantId, s.AddsBranch (call.step env s) tenantId ∧
      ∀ found ∈ s.newestStanding tenantId, found.2.status ≠ .active) ∨
    ∃ now, call = .expire now ∧ s.Sweeps (call.step env s) now := by
  cases call with
  | startActivation now user params exchange =>
    unfold step
    dsimp only
    by_cases hasks : s.AsksForActivation env now user params
    swap
    · rw [run_startActivation_of_not_asks hasks]
      exact .inl (.refl s)
    by_cases happroves : exchange.Approves
    · rw [run_startActivation_of_approved hasks happroves]
      have halone := hmeets hasks happroves
      rcases completeActivation_effect env (s := s.askedForActivation now params exchange)
        (some (chosenOption env params.subscriptionPeriod).period) halone with
        hkept | ⟨tenantId, branchId, hparse, hgiven, hact⟩
      · exact .inl ((KeepsStandings.withEbirr s _).trans hkept)
      · refine .inr (.inl ⟨tenantId, branchId, ?_, hgiven, ⟨hact.tenants, hact.moduleEntitlements⟩,
          hact.branches, hact.linked, ?_⟩)
        swap
        · obtain ⟨id, x, hrow⟩ := hact.row
          exact ⟨id, x, hrow.found, hrow.newest, hrow.tenantId_eq, hrow.branchId_eq, hrow.active, hrow.old, hrow.fresh,
            hrow.others⟩
        rw [parse_activationReference_eq] at hparse
        split_ifs at hparse
        exact Option.some.inj hparse
    · left
      rcases run_startActivation_of_open hasks happroves with hrun | ⟨id, row, pending, hfind, hrun⟩
      · rw [hrun]
        exact .withEbirr s _
      · rw [hrun]
        exact (KeepsStandings.withEbirr s _).trans (.saved hfind rfl)
  | completeActivation now reference explicitPeriod =>
    rcases completeActivation_effect env explicitPeriod hmeets with hkept | ⟨tenantId, branchId, hparse, hgiven, hact⟩
    · exact .inl hkept
    · exact .inr (.inl ⟨tenantId, branchId, hparse, hgiven, hact⟩)
  | startBranchCreation now user dto exchange =>
    unfold step
    dsimp only
    rcases startBranchCreation_cases env now user dto exchange s with
      ⟨-, failure, hrun⟩ | ⟨tenantId, id, row, ebirr, -, hpays, hcases⟩
    · rw [hrun]
      exact .inl (.refl s)
    have hlatest := BranchRun.latest_of_payingTenant hpays
    let reference := branchCreationReference tenantId user.id now
    let remembered := (s.withPending id row (pendingCreation env user dto reference)).withEbirr ebirr
    have hslot : s.KeepsStandings (s.withPending id row (pendingCreation env user dto reference)) :=
      .saved (find_of_last hlatest).1 rfl
    have hremembered : s.KeepsStandings remembered := hslot.trans (.withEbirr _ ebirr)
    rcases hcases with ⟨outcome, hrun⟩ | ⟨happroves, hrun⟩
    · rw [hrun]
      exact .inl hremembered
    have hinactive : ∀ parsed ∈ parseBranchCreationReference reference,
        ∀ found ∈ remembered.awaiting parsed.1, found.2.1.status ≠ .active := by
      rintro ⟨tenantId', userId'⟩ hparse found hawaits
      obtain ⟨rfl, -⟩ := parse_branchCreationReference hparse
      obtain ⟨newest, hnewest, hslot⟩ := Option.bind_eq_some_iff.mp hawaits
      obtain ⟨_, -, rfl⟩ := Option.map_eq_some_iff.mp hslot
      -- the row is the one that the payment was remembered in
      have hsame := newestStanding_congr hremembered.standings tenantId'
      unfold newestStanding at hsame
      rw [hnewest, hlatest] at hsame
      have hstanding : newest.2.standing = row.standing := (Prod.mk.inj (Option.some.inj hsame)).2
      have hstatus := congrArg Standing.status hstanding
      intro hactive
      exact hmeets happroves _ hpays (hstatus.symm.trans hactive)
    rw [hrun, snd_run_bind_readOnly _ fun _ => readOnly_pure _]
    rcases completeBranchCreation_effect env hinactive with hkept | ⟨tenantId', hadds, hnone⟩
    · exact .inl (hremembered.trans hkept)
    · refine .inr (.inr (.inl ⟨tenantId', hadds.of_keeps hremembered, fun found hfound => hnone found ?_⟩))
      rw [newestStanding_congr hremembered.standings]
      exact hfound
  | completeBranchCreation now reference =>
    rcases completeBranchCreation_effect env hmeets with hkept | hadds
    · exact .inl hkept
    · exact .inr (.inr (.inl hadds))
  | expire now => exact .inr (.inr (.inr ⟨now, rfl, sweeps_expire now s⟩))

end Calls

/-! ### What is kept -/

namespace PosWorkspaceStore

variable {s s' : PosWorkspaceStore}

theorem RowsApart.keeps (h : s.RowsApart) (hkeeps : s.KeepsStandings s') : s'.RowsApart := by
  have hnewest := newestStanding_congr hkeeps.standings
  refine ⟨?_, ?_, ?_, ?_⟩
  · simpa only [hkeeps.branches, hnewest] using h.newest
  · simpa only [hkeeps.branches, hkeeps.standings, hnewest] using h.others
  · simpa only [hkeeps.standings] using h.noTrials
  · simpa only [hkeeps.branches, hkeeps.standings] using h.known

variable {tenantId branchId : ℕ}

theorem RowsApart.addsBranch (h : s.RowsApart) (hadds : s.AddsBranch s' tenantId)
    (hinactive : ∀ found ∈ s.newestStanding tenantId, found.2.status ≠ .active) : s'.RowsApart := by
  obtain ⟨added, htenant, hbranches⟩ := hadds.branches
  have hnewest := newestStanding_congr hadds.standings
  have hfind : ∀ branchId branch, s'.branches.find branchId = some branch →
      s.branches.find branchId = some branch ∨ branchId = s.branches.next ∧ branch = added := by
    intro branchId branch hbranch
    rw [hbranches] at hbranch
    exact (eq_or_find_of_find_add hbranch).symm
  refine ⟨fun branchId branch tenantId' hbranch htenant' found hfound hactive => ?_,
    fun branchId branch tenantId' hbranch htenant' id x hx hown hactive => ?_, ?_, fun id x branchId hx hown => ?_⟩
  · rw [hnewest] at hfound
    rcases hfind branchId branch hbranch with hold | ⟨-, rfl⟩
    · exact h.newest branchId branch tenantId' hold htenant' found hfound hactive
    · obtain rfl := Option.mem_unique htenant' htenant
      exact absurd hactive (hinactive found hfound)
  · rw [hadds.standings] at hx
    rw [hnewest]
    rcases hfind branchId branch hbranch with hold | ⟨rfl, -⟩
    · exact h.others branchId branch tenantId' hold htenant' id x hx hown hactive
    · exact absurd (h.known id x _ hx hown) (lt_irrefl _)
  · simpa only [hadds.standings] using h.noTrials
  · rw [hadds.standings] at hx
    rw [hbranches]
    exact Nat.lt_succ_of_lt (h.known id x branchId hx hown)

theorem RowsApart.sweeps (h : s.RowsApart) {now : ℤ} (hsweeps : s.Sweeps s' now) : s'.RowsApart := by
  have hnewest := newestStanding_swept hsweeps.standings
  have hstanding : ∀ id x, s'.standingAt id = some x → ∃ old, s.standingAt id = some old ∧ old.swept now = x := by
    intro id x hx
    rw [hsweeps.standings] at hx
    exact Option.map_eq_some_iff.mp hx
  refine ⟨fun branchId branch tenantId hbranch htenant found hfound hactive => ?_,
    fun branchId branch tenantId hbranch htenant id x hx hown hactive => ?_, fun id x branchId hx hown htrial => ?_,
    fun id x branchId hx hown => ?_⟩
  · rw [hsweeps.branches] at hbranch
    rw [hnewest] at hfound
    obtain ⟨old, hold, rfl⟩ := Option.map_eq_some_iff.mp hfound
    have hsame := Standing.swept_of_active hactive
    rw [hsame] at hactive ⊢
    exact h.newest branchId branch tenantId hbranch htenant old hold hactive
  · rw [hsweeps.branches] at hbranch
    obtain ⟨old, hold, rfl⟩ := hstanding id x hx
    have hsame := Standing.swept_of_active hactive
    rw [hsame] at hown hactive
    rw [hnewest, h.others branchId branch tenantId hbranch htenant id old hold hown hactive]
    rfl
  · obtain ⟨old, hold, rfl⟩ := hstanding id x hx
    rw [Standing.branchId_swept] at hown
    exact h.noTrials id old branchId hold hown (Standing.status_of_swept_eq_trial htrial)
  · obtain ⟨old, hold, rfl⟩ := hstanding id x hx
    rw [Standing.branchId_swept] at hown
    rw [hsweeps.branches]
    exact h.known id old branchId hold hown

theorem Activates.newest_of_ne (hact : s.Activates s' tenantId branchId) {tenantId' : ℕ}
    (hne : tenantId' ≠ tenantId) : s'.newestStanding tenantId' = s.newestStanding tenantId' := by
  obtain ⟨id, x, hrow⟩ := hact.row
  have hx := hrow.found
  have hsame : ∀ id' x', x'.tenantId = tenantId' → (s'.standingAt id' = some x' ↔ s.standingAt id' = some x') := by
    intro id' x' hx'
    by_cases hid : id' = id
    · subst hid
      constructor
      · intro h
        obtain rfl := Option.mem_unique hx h
        exact absurd (hx'.symm.trans hrow.tenantId_eq) hne
      · intro h
        exact absurd (hx'.symm.trans (hrow.old x' h)) hne
    · rw [hrow.others id' hid]
  refine Option.ext fun ⟨id', x'⟩ => ?_
  rw [newestStanding_eq_some_iff, newestStanding_eq_some_iff]
  constructor
  · rintro ⟨hfind, hx', hafter⟩
    exact ⟨(hsame id' x' hx').mp hfind, hx', fun id'' x'' hlt hfind'' heq =>
      hafter id'' x'' hlt ((hsame id'' x'' heq).mpr hfind'') heq⟩
  · rintro ⟨hfind, hx', hafter⟩
    exact ⟨(hsame id' x' hx').mpr hfind, hx', fun id'' x'' hlt hfind'' heq =>
      hafter id'' x'' hlt ((hsame id'' x'' heq).mp hfind'') heq⟩

theorem RowsApart.activates (h : s.RowsApart) (halone : s.Alone tenantId branchId)
    (hact : s.Activates s' tenantId branchId) : s'.RowsApart := by
  obtain ⟨id, x, hrow⟩ := hact.row
  obtain ⟨own, hown, hlinked⟩ := hact.linked
  have hother : ∀ other branch tenantId', s.branches.find other = some branch →
      branch.retailTenantId = some tenantId' → (tenantId' = tenantId ↔ other = branchId) := by
    intro other branch tenantId' hbranch htenant'
    constructor
    · rintro rfl
      exact halone.1 other branch hbranch htenant'
    · rintro rfl
      obtain rfl := Option.mem_unique hbranch hown
      exact Option.mem_unique htenant' hlinked
  refine ⟨fun other branch tenantId' hbranch htenant' found hfound hstatus => ?_,
    fun other branch tenantId' hbranch htenant' id' x' hx' hown' hstatus => ?_, fun id' x' other hx' hown' => ?_,
    fun id' x' other hx' hown' => ?_⟩
  · rw [hact.branches] at hbranch
    by_cases hsame : tenantId' = tenantId
    · rw [hsame, hrow.newest] at hfound
      obtain rfl := Option.some.inj hfound
      rw [(hother other branch tenantId' hbranch htenant').mp hsame]
      exact hrow.branchId_eq
    · rw [hact.newest_of_ne hsame] at hfound
      exact h.newest other branch tenantId' hbranch htenant' found hfound hstatus
  · rw [hact.branches] at hbranch
    by_cases hid : id' = id
    · -- the row itself is the branch's, so the tenant is the branch's
      rw [hid] at hx' ⊢
      obtain rfl := Option.mem_unique hrow.found hx'
      have heq : other = branchId := Option.mem_unique hown' hrow.branchId_eq
      rw [(hother other branch tenantId' hbranch htenant').mpr heq]
      exact hrow.newest
    · rw [hrow.others id' hid] at hx'
      have hnewest := h.others other branch tenantId' hbranch htenant' id' x' hx' hown' hstatus
      by_cases hsame : tenantId' = tenantId
      · -- an active row of the branch was the newest, and it is the one that was activated
        obtain rfl := (hother other branch tenantId' hbranch htenant').mp hsame
        obtain ⟨-, htenant, hafter⟩ := newestStanding_eq_some_iff.mp hnewest
        obtain ⟨-, -, hlater⟩ := newestStanding_eq_some_iff.mp hrow.newest
        cases hold : s.standingAt id with
        | none => exact absurd hown' (hrow.fresh hold id' x' hx' (htenant.trans hsame))
        | some old =>
          have hle : ¬ id' < id := fun hlt => hafter id old hlt hold ((hrow.old old hold).trans hsame.symm)
          have hge : ¬ id < id' := fun hlt =>
            hlater id' x' hlt ((hrow.others id' hid).trans hx') (htenant.trans hsame)
          omega
      · rw [hact.newest_of_ne hsame]
        exact hnewest
  · by_cases hid : id' = id
    · rw [hid, hrow.found] at hx'
      obtain rfl := Option.some.inj hx'
      rw [hrow.active]
      decide
    · rw [hrow.others id' hid] at hx'
      exact h.noTrials id' x' other hx' hown'
  · rw [hact.branches]
    by_cases hid : id' = id
    · rw [hid, hrow.found] at hx'
      obtain rfl := Option.some.inj hx'
      rw [← Option.mem_unique hrow.branchId_eq hown']
      exact lt_next_of_find hown
    · rw [hrow.others id' hid] at hx'
      exact h.known id' x' other hx' hown'

theorem reportedStatus_congr {now : ℤ} (hrest : s.SameTenants s')
    (hbranch : s'.branches.find branchId = s.branches.find branchId)
    (hnewest : ∀ branch tenantId, s.branches.find branchId = some branch → branch.retailTenantId = some tenantId →
      (s'.newestStanding tenantId).map (fun found => found.2.effective now) =
        (s.newestStanding tenantId).map fun found => found.2.effective now) :
    s'.reportedStatus now branchId = s.reportedStatus now branchId := by
  rw [reportedStatus_eq, reportedStatus_eq, hbranch]
  cases hfind : s.branches.find branchId with
  | none => rfl
  | some branch =>
    rw [Option.bind_some, Option.bind_some]
    cases htenant : branch.retailTenantId with
    | none => rfl
    | some tenantId =>
      have hstatus := hnewest branch tenantId hfind htenant
      unfold newestStanding at hstatus
      rw [Option.map_map, Option.map_map] at hstatus
      have hmodules : s'.modulesAt tenantId now = s.modulesAt tenantId now := by
        unfold modulesAt
        rw [hrest.moduleEntitlements]
      dsimp only
      rw [hrest.tenants, hmodules]
      exact congrArg (Option.map · _) (funext fun tenant => workspaceStatusOf_congr hstatus)

end PosWorkspaceStore

namespace WorkspaceCall

variable {env : PosWorkspaceRuntime} {s : PosWorkspaceStore} {call : WorkspaceCall}

theorem rowsApart_step (h : s.RowsApart) (hmeets : call.Meets env s) : (call.step env s).RowsApart := by
  rcases step_cases hmeets with
    hkeeps | ⟨tenantId, branchId, -, halone, hact⟩ | ⟨tenantId, hadds, hnone⟩ | ⟨now, -, hsweeps⟩
  · exact h.keeps hkeeps
  · exact h.activates halone hact
  · exact h.addsBranch hadds hnone
  · exact h.sweeps hsweeps

theorem reportedStatus_step (hmeets : call.Meets env s) {now : ℤ} {branchId : ℕ}
    (hknown : (s.branches.find branchId).isSome = true) (hother : ¬ call.Concerns branchId)
    (hlater : ∀ time, call = .expire time → time ≤ now) :
    (call.step env s).reportedStatus now branchId = s.reportedStatus now branchId := by
  rcases step_cases hmeets with
    hkeeps | ⟨tenantId, activated, hconcerns, halone, hact⟩ | ⟨tenantId, hadds, -⟩ | ⟨time, hcall, hsweeps⟩
  · refine reportedStatus_congr hkeeps.toSameTenants (by rw [hkeeps.branches]) fun branch tenantId _ _ => ?_
    rw [newestStanding_congr hkeeps.standings]
  · refine reportedStatus_congr hact.toSameTenants (by rw [hact.branches]) fun branch tenantId' hbranch htenant => ?_
    have hne : tenantId' ≠ tenantId := by
      rintro rfl
      exact hother (halone.1 branchId branch hbranch htenant ▸ hconcerns)
    rw [hact.newest_of_ne hne]
  · obtain ⟨added, -, hbranches⟩ := hadds.branches
    obtain ⟨branch, hfind⟩ := Option.isSome_iff_exists.mp hknown
    refine reportedStatus_congr hadds.toSameTenants ?_ fun branch tenantId _ _ => ?_
    · rw [hbranches, find_add_of_find hfind, hfind]
    · rw [newestStanding_congr hadds.standings]
  · refine reportedStatus_congr hsweeps.toSameTenants (by rw [hsweeps.branches]) fun branch tenantId _ _ => ?_
    rw [newestStanding_swept hsweeps.standings, Option.map_map]
    refine congrArg (Option.map · _) (funext fun found => ?_)
    exact Standing.effective_swept (hlater time hcall) found.2

/-- **A branch is active by its own subscription**: in every run whose calls meet the condition, a branch that can be
used is reported as active exactly when a subscription of its own is, and no call changes the status of a branch that
it is no payment for. -/
theorem active_by_own_subscription (env : PosWorkspaceRuntime) {s : PosWorkspaceStore} (hs : s.RowsApart)
    {calls : List WorkspaceCall} (hcalls : Run.Along (step env) (fun s call => call.Meets env s) s calls) (n : ℕ) :
    let state := Run.after (step env) s (calls.take n)
    (∀ now branchId, state.Usable now branchId →
      (state.reportedStatus now branchId = some .active ↔ state.OwnsActive now branchId)) ∧
    ∀ call ∈ calls[n]?, ∀ now branchId, (state.branches.find branchId).isSome = true → ¬ call.Concerns branchId →
      (∀ time, call = .expire time → time ≤ now) →
        (call.step env state).reportedStatus now branchId = state.reportedStatus now branchId := by
  intro state
  have hstate : state.RowsApart :=
    Run.after_induction (P := RowsApart) (fun _ _ h hmeets => rowsApart_step h hmeets) hs (Run.along_take hcalls n)
  refine ⟨fun now branchId husable => hstate.reported_iff husable,
    fun call hcall now branchId hknown hother hlater => ?_⟩
  exact reportedStatus_step (Run.along_getElem? hcalls hcall) hknown hother hlater

/-! ### Another branch -/

/-- A tenant with one branch that has not been paid for. -/
def unpaidShop : PosWorkspaceStore := { PosWorkspaceStore.withShop with subscriptions := .empty }

def unpaidShops : PosWorkspaceStore :=
  { unpaidShop with
    branches := unpaidShop.branches.add
      { name := "Piassa", code := some "PIASSA-1", serviceFormat := some "RETAIL", ownerId := some 1,
        retailTenantId := some 1, isActive := true } }

def firstBranchPaid : List WorkspaceCall := [.completeActivation 300 "POSACT-1-100" (some .monthly)]

theorem active_by_own_subscription_alone :
    let state := Run.after (step BranchRun.workspaceRuntime) unpaidShop (firstBranchPaid.take 1)
    (∀ now branchId, state.Usable now branchId →
      (state.reportedStatus now branchId = some .active ↔ state.OwnsActive now branchId)) ∧
    ∀ call ∈ firstBranchPaid[1]?, ∀ now branchId, (state.branches.find branchId).isSome = true →
      ¬ call.Concerns branchId → (∀ time, call = .expire time → time ≤ now) →
        (call.step BranchRun.workspaceRuntime state).reportedStatus now branchId =
          state.reportedStatus now branchId := by
  have hempty : ∀ id x, unpaidShop.standingAt id ≠ some x := fun _ _ hx => nomatch hx
  have hapart : unpaidShop.RowsApart :=
    ⟨fun _ _ _ _ _ _ hfound => (nomatch hfound), fun _ _ _ _ _ id x hx => absurd hx (hempty id x),
      fun id x _ hx => absurd hx (hempty id x), fun id x _ hx => absurd hx (hempty id x)⟩
  have hgranted : unpaidShop.grantedTo "POSACT-1-100" 300 = some (1, 1) := by decide
  have hone : ∀ other branch, unpaidShop.branches.find other = some branch → other = 1 := by
    intro other branch hfind
    by_contra hne
    have hnone : unpaidShop.branches.find other = none := find_add_of_ne _ _ hne
    rw [hnone] at hfind
    cases hfind
  have hmeets : Run.Along (step BranchRun.workspaceRuntime) (fun s call => call.Meets BranchRun.workspaceRuntime s)
      unpaidShop firstBranchPaid := by
    refine ⟨fun found hfound => ?_, trivial⟩
    obtain rfl := Option.mem_unique hgranted hfound
    exact ⟨fun other branch hfind _ => hone other branch hfind, fun _ hown => nomatch hown⟩
  exact active_by_own_subscription BranchRun.workspaceRuntime hapart hmeets 1

/-- The payment for the first branch makes the second active, which has no subscription. -/
theorem active_by_other_branch :
    ¬ ∀ n, let state := Run.after (step BranchRun.workspaceRuntime) unpaidShops (firstBranchPaid.take n)
      ∀ now branchId, state.Usable now branchId →
        (state.reportedStatus now branchId = some .active ↔ state.OwnsActive now branchId) := by
  intro h
  have hreported : (Run.after (step BranchRun.workspaceRuntime) unpaidShops (firstBranchPaid.take 1)).reportedStatus
      400 2 = some .active := by decide
  obtain ⟨id, row, hfind, hown, -⟩ := (h 1 400 2 ⟨_, 1, _, rfl, rfl, rfl, rfl, by decide⟩).mp hreported
  have hfirst : row.branchId = some 1 := by
    have hsaved : ∀ id row, (Run.after (step BranchRun.workspaceRuntime) unpaidShops
        (firstBranchPaid.take 1)).subscriptions.find id = some row → row.branchId = some 1 := by
      exact forall_find_add (fun _ _ hnone => nomatch hnone) rfl
    exact hsaved id row hfind
  rw [hfirst] at hown
  cases hown

end WorkspaceCall

end SuuqBackend
