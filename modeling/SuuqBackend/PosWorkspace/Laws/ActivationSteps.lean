import SuuqBackend.PosWorkspace.Laws.PaymentReferences
import SuuqBackend.PosWorkspace.Laws.WorkspaceSteps

/-!
# What the payments of activations do

A completion grants a period exactly when its branch can be activated (`activationTenant`) and its own newest
subscription is not active; the period is then the explicit one, or the one that a slot remembers
(`run_completeActivation_of_some`).  A start that asks Ebirr either completes its payment at once or remembers the
period in the slot of the tenant's newest subscription (`run_startActivation_of_approved`,
`run_startActivation_of_open`).
-/

namespace SuuqBackend

open Proc PosWorkspaceActivation PosWorkspaceStore EbirrPayments

namespace PosWorkspaceStore

def activationTenant (s : PosWorkspaceStore) (branchId : ℕ) (now : ℤ) : Option ℕ :=
  (s.branches.find branchId).bind fun branch => branch.retailTenantId.filter fun tenantId =>
    (s.tenants.lookup tenantId).isSome ∧ RetailModule.posCore ∈ s.modulesAt tenantId now

/-- The subscription whose slot the completion of an activation reads: that of the branch, or the newest one. -/
def periodSource (s : PosWorkspaceStore) (tenantId branchId : ℕ) : Option TenantSubscription :=
  ((s.branchSubscription tenantId branchId).or (s.latestSubscription tenantId)).map Prod.snd

def IsActive (s : PosWorkspaceStore) (tenantId branchId : ℕ) : Prop :=
  ∃ found ∈ s.branchSubscription tenantId branchId, found.2.status = .active
deriving Decidable

/-- The tenant and the branch for which the completion of a reference grants a period. -/
def grantedTo (s : PosWorkspaceStore) (referenceId : String) (now : ℤ) : Option (ℕ × ℕ) :=
  (parseBranchIdFromReference referenceId).bind fun branchId =>
    ((s.activationTenant branchId now).filter fun tenantId => ¬ s.IsActive tenantId branchId).map fun tenantId =>
      (tenantId, branchId)

def activated (s : PosWorkspaceStore) (now : ℤ) (tenantId branchId : ℕ) (option : PosBranchSubscriptionOption)
    (referenceId : String) : PosWorkspaceStore :=
  match s.branchSubscription tenantId branchId with
  | some (id, row) => s.saveSubscription id (activatedSubscription now tenantId branchId option referenceId (some row))
  | none =>
    { s with
      subscriptions := s.subscriptions.add (activatedSubscription now tenantId branchId option referenceId none) }

end PosWorkspaceStore

variable {env : PosWorkspaceRuntime} {now : ℤ} {s : PosWorkspaceStore}

/-! ### Completions -/

variable {branchId tenantId : ℕ} {referenceId : String}

theorem run_activateBranch_of_active (h : s.IsActive tenantId branchId) (env : PosWorkspaceRuntime)
    (now : ℤ) (referenceId : String) (explicitPeriod : Option PosBranchSubscriptionPeriod) :
    (run (activateBranch env now tenantId branchId referenceId explicitPeriod) s).2 = s := by
  obtain ⟨⟨id, row⟩, hown, hactive⟩ := h
  have hfound : s.branchSubscription tenantId branchId = some (id, row) := hown
  unfold activateBranch
  rw [run_read_bind, hfound, run_read_bind]
  dsimp only
  rw [if_pos hactive]
  rfl

theorem run_activateBranch_of_not_active (h : ¬ s.IsActive tenantId branchId)
    (env : PosWorkspaceRuntime) (now : ℤ) (referenceId : String) (explicitPeriod : Option PosBranchSubscriptionPeriod) :
    ∃ saved, run (activateBranch env now tenantId branchId referenceId explicitPeriod) s = (.ok saved,
      s.activated now tenantId branchId
        (optionOf (resolvedPeriod env explicitPeriod (s.periodSource tenantId branchId))) referenceId) := by
  unfold activateBranch activated periodSource
  rw [run_read_bind, run_read_bind]
  cases hown : s.branchSubscription tenantId branchId with
  | none => exact ⟨_, rfl⟩
  | some found =>
    obtain ⟨id, row⟩ := found
    have hinactive : row.status ≠ .active := fun hactive => h ⟨(id, row), hown, hactive⟩
    dsimp only
    rw [if_neg hinactive]
    exact ⟨_, rfl⟩

theorem run_getBranchWorkspaceStatus (now : ℤ) (branchId : ℕ) (s : PosWorkspaceStore) :
    (∃ failure, run (getBranchWorkspaceStatus now branchId) s = (.error failure, s)) ∧
        s.activationTenant branchId now = none ∨
    ∃ workspace, run (getBranchWorkspaceStatus now branchId) s = (.ok workspace, s) ∧
      s.activationTenant branchId now =
        workspace.tenant.filter fun _ => decide (RetailModule.posCore ∈ workspace.modules) := by
  unfold getBranchWorkspaceStatus activationTenant
  rw [run_read_bind]
  cases hbranch : s.branches.find branchId with
  | none => exact .inl ⟨⟨_, rfl⟩, rfl⟩
  | some branch =>
    dsimp only
    rw [Option.bind_some]
    cases htenant : branch.retailTenantId with
    | none => exact .inr ⟨_, rfl, rfl⟩
    | some tenantId =>
      rw [run_read_bind]
      cases hrow : s.tenants.lookup tenantId with
      | none =>
        refine .inl ⟨⟨_, rfl⟩, ?_⟩
        rw [Option.filter_some, hrow]
        rfl
      | some tenant =>
        refine .inr ⟨_, rfl, ?_⟩
        rw [Option.filter_some, Option.filter_some, hrow]
        by_cases hcore : RetailModule.posCore ∈ s.modulesAt tenantId now
        · simp [hcore]
        · simp [hcore]

theorem run_completeActivation_of_none (h : s.grantedTo referenceId now = none)
    (env : PosWorkspaceRuntime) (explicitPeriod : Option PosBranchSubscriptionPeriod) :
    (run (completeEbirrActivationPayment env now referenceId explicitPeriod) s).2 = s := by
  unfold grantedTo at h
  unfold completeEbirrActivationPayment
  cases hparse : parseBranchIdFromReference referenceId with
  | none => rfl
  | some branchId =>
    rw [hparse, Option.bind_some] at h
    rw [run_bind]
    rcases run_getBranchWorkspaceStatus now branchId s with ⟨⟨failure, hrun⟩, -⟩ | ⟨workspace, hrun, htenant⟩
    · rw [hrun]
    · rw [hrun]
      dsimp only
      rw [htenant] at h
      cases hworkspace : workspace.tenant with
      | none => rfl
      | some tenantId =>
        rw [run_throwIf_bind]
        by_cases hcore : RetailModule.posCore ∈ workspace.modules
        · rw [if_neg (not_not.mpr hcore)]
          have hactive : s.IsActive tenantId branchId := by
            rw [hworkspace, Option.filter_some, if_pos (decide_eq_true hcore)] at h
            simpa using h
          rw [snd_run_bind_readOnly _ fun _ => readOnly_pure _]
          exact run_activateBranch_of_active hactive env now referenceId explicitPeriod
        · rw [if_pos hcore]

theorem not_isActive_of_grantedTo
    (h : s.grantedTo referenceId now = some (tenantId, branchId)) : ¬ s.IsActive tenantId branchId := by
  obtain ⟨branchId', -, hgranted⟩ := Option.bind_eq_some_iff.mp h
  obtain ⟨tenantId', hfilter, heq⟩ := Option.map_eq_some_iff.mp hgranted
  cases heq
  exact of_decide_eq_true (Option.filter_eq_some_iff.mp hfilter).2

/-- **A completion** that grants a period saves it. -/
theorem run_completeActivation_of_some
    (h : s.grantedTo referenceId now = some (tenantId, branchId)) (env : PosWorkspaceRuntime)
    (explicitPeriod : Option PosBranchSubscriptionPeriod) :
    (run (completeEbirrActivationPayment env now referenceId explicitPeriod) s).2 =
      s.activated now tenantId branchId
        (optionOf (resolvedPeriod env explicitPeriod (s.periodSource tenantId branchId))) referenceId := by
  obtain ⟨branchId', hparse, hgranted⟩ := Option.bind_eq_some_iff.mp h
  obtain ⟨tenantId', hfilter, heq⟩ := Option.map_eq_some_iff.mp hgranted
  cases heq
  obtain ⟨htenant, hinactive⟩ := Option.filter_eq_some_iff.mp hfilter
  unfold completeEbirrActivationPayment
  rw [hparse]
  rw [run_bind]
  rcases run_getBranchWorkspaceStatus now branchId s with ⟨⟨failure, hrun⟩, hnone⟩ | ⟨workspace, hrun, hworkspace⟩
  · rw [hnone] at htenant
    cases htenant
  · rw [htenant] at hworkspace
    obtain ⟨hlinked, hcore⟩ := Option.filter_eq_some_iff.mp hworkspace.symm
    rw [hrun]
    dsimp only
    rw [hlinked]
    rw [run_throwIf_bind, if_neg (not_not.mpr (of_decide_eq_true hcore)),
      snd_run_bind_readOnly _ fun _ => readOnly_pure _]
    obtain ⟨saved, hsaved⟩ := run_activateBranch_of_not_active (of_decide_eq_true hinactive) env now referenceId
      explicitPeriod
    rw [hsaved]

/-! ### Starts -/

def activationRequest (params : ActivationPaymentParams) (now : ℤ) : EbirrPaymentRequest :=
  ⟨some params.phoneNumber, activationReference params.branchId now, s!"POSACTINV-{params.branchId}"⟩

namespace PosWorkspaceStore

def AsksForActivation (env : PosWorkspaceRuntime) (s : PosWorkspaceStore) (now : ℤ) (user : WorkspaceUser)
    (params : ActivationPaymentParams) : Prop :=
  (run (getPayableActivationCandidate now user.id params.branchId) s).1.isOk = true ∧
    s.ebirr.Accepts env.ebirr (activationRequest params now)
deriving Decidable

def askedForActivation (s : PosWorkspaceStore) (now : ℤ) (params : ActivationPaymentParams)
    (exchange : EbirrExchange) : PosWorkspaceStore :=
  s.withEbirr (s.ebirr.initiated (activationRequest params now) exchange.reply exchange.repliedAt)

end PosWorkspaceStore

theorem readOnly_getBranchWorkspaceStatus (now : ℤ) (branchId : ℕ) :
    (getBranchWorkspaceStatus now branchId).ReadOnly := by
  intro s
  rcases run_getBranchWorkspaceStatus now branchId s with ⟨⟨failure, hrun⟩, -⟩ | ⟨workspace, hrun, -⟩
  · rw [hrun]
  · rw [hrun]

theorem readOnly_candidateFor (now : ℤ) (userId branchId : ℕ) : (candidateFor now userId branchId).ReadOnly := by
  refine (readOnly_read _).bind fun found => ?_
  cases found with
  | none => exact readOnly_pure _
  | some access =>
    refine (readOnly_getBranchWorkspaceStatus now branchId).bind fun workspace => ?_
    exact (readOnly_pure _).ite (readOnly_pure _)

theorem readOnly_getPayableActivationCandidate (now : ℤ) (userId branchId : ℕ) :
    (getPayableActivationCandidate now userId branchId).ReadOnly := by
  refine (readOnly_candidateFor now userId branchId).bind fun found => ?_
  cases found with
  | none => exact readOnly_throw _
  | some candidate =>
    refine (readOnly_throwIf _ _).bind fun _ => (readOnly_throwIf _ _).bind fun _ => ?_
    cases candidate.retailTenantId with
    | none => exact readOnly_throw _
    | some tenantId =>
      refine (readOnly_getBranchWorkspaceStatus now branchId).bind fun _ => ?_
      exact (readOnly_read _).bind fun _ => (readOnly_throwIf _ _).bind fun _ => readOnly_pure _

variable {s' : PosWorkspaceStore} {userId : ℕ} {candidate : ActivationCandidate}

theorem branchId_of_candidateFor {branchId : ℕ}
    (h : run (candidateFor now userId branchId) s = (.ok (some candidate), s')) : candidate.branchId = branchId := by
  unfold candidateFor at h
  rw [run_read_bind] at h
  split at h
  · cases h
  · obtain ⟨workspace, s₁, -, hrest⟩ := run_bind_eq_ok.mp h
    split at hrest
    · cases hrest
    · cases hrest
      rfl

theorem branchId_of_candidate {branchId : ℕ}
    (h : run (getPayableActivationCandidate now userId branchId) s = (.ok candidate, s')) :
    candidate.branchId = branchId := by
  obtain ⟨found, s₁, hfound, hrest⟩ := run_bind_eq_ok.mp h
  cases found with
  | none => cases hrest
  | some found =>
    obtain ⟨_, s₂, -, hrest⟩ := run_bind_eq_ok.mp hrest
    obtain ⟨_, s₃, -, hrest⟩ := run_bind_eq_ok.mp hrest
    have heq : candidate = found := by
      cases htenant : found.retailTenantId with
      | none =>
        rw [htenant] at hrest
        cases hrest
      | some tenantId =>
        rw [htenant] at hrest
        obtain ⟨_, s₄, -, hrest⟩ := run_bind_eq_ok.mp hrest
        obtain ⟨_, s₅, -, hrest⟩ := run_bind_eq_ok.mp hrest
        obtain ⟨_, s₆, -, hrest⟩ := run_bind_eq_ok.mp hrest
        cases hrest
        rfl
    rw [heq]
    exact branchId_of_candidateFor hfound

variable {params : ActivationPaymentParams} {user : WorkspaceUser} {exchange : EbirrExchange}

theorem run_startActivation_of_not_asks (h : ¬ s.AsksForActivation env now user params) (exchange : EbirrExchange) :
    (run (startEbirrActivationPayment env now user params exchange) s).2 = s := by
  have hreadOnly := readOnly_getPayableActivationCandidate now user.id params.branchId s
  unfold startEbirrActivationPayment
  rw [run_bind]
  rcases hcandidate : run (getPayableActivationCandidate now user.id params.branchId) s with
    ⟨failure | candidate, s'⟩
  · rw [hcandidate] at hreadOnly
    exact hreadOnly
  · rw [hcandidate] at hreadOnly
    obtain rfl : s' = s := hreadOnly
    have hrefused : ¬ s'.ebirr.Accepts env.ebirr (activationRequest params now) := fun haccepts =>
      h ⟨by rw [hcandidate]; rfl, haccepts⟩
    obtain ⟨failure, hrun⟩ := run_initiatePayment_of_refused hrefused exchange
    unfold activationRequest at hrun
    dsimp only
    rw [branchId_of_candidate hcandidate, run_bind_of_error hrun]

theorem run_startActivation_of_asks (h : s.AsksForActivation env now user params) (exchange : EbirrExchange) :
    (run (startEbirrActivationPayment env now user params exchange) s).2 =
      (run (ofExcept (answerOf exchange.reply) >>= settleActivation env exchange.repliedAt
        params.branchId (chosenOption env params.subscriptionPeriod) (activationReference params.branchId now)
        ((upperText env params.referralCode).filter (· ≠ ""))) (s.askedForActivation now params exchange)).2 := by
  obtain ⟨hcandidate, haccepts⟩ := h
  have hreadOnly := readOnly_getPayableActivationCandidate now user.id params.branchId s
  unfold startEbirrActivationPayment
  rw [run_bind]
  rcases hrun : run (getPayableActivationCandidate now user.id params.branchId) s with ⟨failure | candidate, s'⟩
  · rw [hrun] at hcandidate
    cases hcandidate
  · rw [hrun] at hreadOnly
    obtain rfl : s' = s := hreadOnly
    have hasked := run_initiatePayment_of_asked haccepts exchange
    unfold activationRequest at hasked
    dsimp only
    rw [branchId_of_candidate hrun, run_bind, hasked]
    cases answerOf exchange.reply with
    | error failure => rfl
    | ok response =>
      rw [snd_run_bind_readOnly _ fun _ => readOnly_pure _]
      rfl

theorem answerOf_of_approves (h : exchange.Approves) :
    ∃ response, answerOf exchange.reply = .ok response ∧ ApprovedImmediately response := by
  unfold EbirrExchange.Approves at h
  cases hreply : exchange.reply with
  | data response =>
    rw [hreply] at h
    refine ⟨response, ?_, h⟩
    have hsoft : EbirrPayments.EbirrResponse.softError response = none := by
      unfold EbirrPayments.EbirrResponse.softError
      rw [h.1]
      rfl
    unfold answerOf
    dsimp only
    rw [hsoft]
  | noAnswer networkDrop =>
    rw [hreply] at h
    exact absurd h not_false
  | refused text errorCode =>
    rw [hreply] at h
    exact absurd h not_false
  | unexpected message =>
    rw [hreply] at h
    exact absurd h not_false

theorem run_startActivation_of_approved (h : s.AsksForActivation env now user params) (happroves : exchange.Approves) :
    (run (startEbirrActivationPayment env now user params exchange) s).2 =
      (run (completeEbirrActivationPayment env exchange.repliedAt (activationReference params.branchId now)
        (some (chosenOption env params.subscriptionPeriod).period)) (s.askedForActivation now params exchange)).2 := by
  obtain ⟨response, hanswer, happroved⟩ := answerOf_of_approves happroves
  rw [run_startActivation_of_asks h, hanswer]
  show (run (if ApprovedImmediately response then _ else _) _).2 = _
  rw [if_pos happroved, snd_run_bind_readOnly _ fun _ => readOnly_pure _]

theorem run_recordPendingPeriod (now : ℤ) (branchId : ℕ) (option : PosBranchSubscriptionOption) (referenceId : String)
    (referralCode : Option String) (s : PosWorkspaceStore) :
    (run (recordPendingPeriodOnSubscription now branchId option referenceId referralCode) s).2 = s ∨
    ∃ id row pending, s.subscriptions.find id = some row ∧
      (run (recordPendingPeriodOnSubscription now branchId option referenceId referralCode) s).2 =
        s.saveSubscription id { row with metadata := { row.metadata with pendingActivation := some pending } } := by
  unfold recordPendingPeriodOnSubscription
  rw [run_bind]
  rcases run_getBranchWorkspaceStatus now branchId s with ⟨⟨failure, hrun⟩, -⟩ | ⟨workspace, hrun, -⟩
  · rw [hrun]
    exact .inl rfl
  · rw [hrun]
    dsimp only
    cases workspace.tenant with
    | none => exact .inl rfl
    | some tenantId =>
      rw [run_read_bind]
      cases hlatest : s.latestSubscription tenantId with
      | none => exact .inl rfl
      | some found =>
        obtain ⟨id, row⟩ := found
        exact .inr ⟨id, row, _, (SerialTable.find_of_last hlatest).1, rfl⟩

theorem run_startActivation_of_open
    (h : s.AsksForActivation env now user params) (hopen : ¬ exchange.Approves) :
    let asked := s.askedForActivation now params exchange
    (run (startEbirrActivationPayment env now user params exchange) s).2 = asked ∨
    ∃ id row pending, asked.subscriptions.find id = some row ∧
      (run (startEbirrActivationPayment env now user params exchange) s).2 = asked.saveSubscription id
        { row with metadata := { row.metadata with pendingActivation := some pending } } := by
  intro asked
  rw [run_startActivation_of_asks h]
  cases hanswer : answerOf exchange.reply with
  | error failure => exact .inl rfl
  | ok response =>
    have hpending : ¬ ApprovedImmediately response := by
      intro happroved
      apply hopen
      unfold EbirrExchange.Approves
      rw [eq_data_of_answerOf hanswer]
      exact happroved
    show (run (if ApprovedImmediately response then _ else _) asked).2 = asked ∨ ∃ id row pending, _ ∧
      (run (if ApprovedImmediately response then _ else _) asked).2 = _
    rw [if_neg hpending, snd_run_bind_readOnly _ fun _ => readOnly_pure _]
    exact run_recordPendingPeriod _ _ _ _ _ asked

end SuuqBackend
