import SuuqBackend.PosWorkspace.Laws.ActivationSteps
import SuuqBackend.PosWorkspace.Laws.BranchCreations

/-!
# One payment buys the period that was paid for

A run of starts and completions of activations is watched (`ActivationRun`): the option that was chosen with each
reference, the references that were completed, and the periods that were granted, which are the subscriptions that
became active.  Every completed reference has exactly one period, the chosen one, as long as the first completion of
a reference can grant a period and finds the chosen one in the slot, and no other completion of it can grant one
(`granted_as_chosen_iff`).

The slot remembers one payment.  The first of two payments is granted the period of the second
(`granted_for_another`).
-/

namespace SuuqBackend

open Proc PosWorkspaceActivation PosWorkspaceStore SerialTable

structure GrantedPeriod where
  reference : Option String
  periodMonths : Option ℕ
  amountTotal : Option ℕ
deriving DecidableEq

def TenantSubscription.grant (row : TenantSubscription) : GrantedPeriod where
  reference := row.metadata.lastActivationReferenceId
  periodMonths := row.periodMonths
  amountTotal := row.amountTotal

def PosBranchSubscriptionOption.grant (option : PosBranchSubscriptionOption) (reference : String) : GrantedPeriod where
  reference := some reference
  periodMonths := some option.months
  amountTotal := some option.amount

/-- The periods that are granted between two states: the subscriptions that become active. -/
def PosWorkspaceStore.grants (s s' : PosWorkspaceStore) : List GrantedPeriod :=
  (List.range s'.subscriptions.next).filterMap fun id =>
    ((s'.subscriptions.find id).filter fun row =>
      row.status = .active ∧ ¬ (s.subscriptions.find id).any fun old => old.status = .active).map (·.grant)

inductive ActivationCall where
  | start (now : ℤ) (user : WorkspaceUser) (params : ActivationPaymentParams) (exchange : EbirrExchange)
  | complete (now : ℤ) (reference : String)
  | expire (now : ℤ)

structure ActivationRun where
  store : PosWorkspaceStore
  started : List (String × PosBranchSubscriptionOption) := []
  completed : List String := []
  granted : List GrantedPeriod := []

namespace ActivationRun

/-- A call has left `s'`. -/
def left (o : ActivationRun) (s' : PosWorkspaceStore) : ActivationRun where
  store := s'
  started := o.started
  completed := o.completed
  granted := o.granted ++ o.store.grants s'

def step (env : PosWorkspaceRuntime) (o : ActivationRun) : ActivationCall → ActivationRun
  | .start now user params exchange =>
    let o' := o.left (run (startEbirrActivationPayment env now user params exchange) o.store).2
    if o.store.AsksForActivation env now user params then
      let reference := activationReference params.branchId now
      { o' with
        started := o.started ++ [(reference, chosenOption env params.subscriptionPeriod)]
        completed := if exchange.Approves then o.completed ++ [reference] else o.completed }
    else o'
  | .complete now reference =>
    let o' := o.left (run (completeEbirrActivationPayment env now reference none) o.store).2
    { o' with completed := o.completed ++ [reference] }
  | .expire now => o.left (run (expireOverdueSubscriptions now) o.store).2

def CompletesStarted (o : ActivationRun) : ActivationCall → Prop
  | .complete _ reference => reference ∈ o.started.map Prod.fst
  | _ => True

instance (o : ActivationRun) (call : ActivationCall) : Decidable (o.CompletesStarted call) := by
  cases call with
  | start now user params exchange => exact .isTrue trivial
  | complete now reference => exact inferInstanceAs (Decidable (reference ∈ o.started.map Prod.fst))
  | expire now => exact .isTrue trivial

/-- Every completed reference was granted one period, the one that was chosen with it. -/
def OnePeriodEach (o : ActivationRun) : Prop :=
  ∀ reference ∈ o.completed, ∀ option, (reference, option) ∈ o.started →
    o.granted.filter (fun grant => grant.reference = some reference) = [option.grant reference]

/-- The period that the slot of a branch remembers, or that of a request that asks for none. -/
def rememberedPeriod (env : PosWorkspaceRuntime) (s : PosWorkspaceStore) (tenantId branchId : ℕ) :
    PosBranchSubscriptionPeriod :=
  (((s.periodSource tenantId branchId).bind fun row => row.metadata.pendingActivation).map (·.period)).getD
    (chosenOption env none).period

/-- The condition on a call: a payment is granted a period, and the chosen one, when it is completed for the first
time, and none later. -/
def Meets (env : PosWorkspaceRuntime) (o : ActivationRun) : ActivationCall → Prop
  | .start now user params exchange =>
    o.store.AsksForActivation env now user params → exchange.Approves →
      (o.store.grantedTo (activationReference params.branchId now) exchange.repliedAt).isSome
  | .complete now reference =>
    if reference ∈ o.completed then o.store.grantedTo reference now = none
    else ∃ found ∈ o.store.grantedTo reference now, ∀ started ∈ o.started, started.1 = reference →
      started.2 = optionOf (rememberedPeriod env o.store found.1 found.2)
  | .expire _ => True

/-! ### What a call grants -/

theorem filterMap_range_eq_singleton {α : Type} {f : ℕ → Option α} {n id : ℕ} {a : α} (hid : id < n) (ha : f id = some a)
    (hother : ∀ id', id' ≠ id → f id' = none) : (List.range n).filterMap f = [a] := by
  induction n with
  | zero => omega
  | succ n ih =>
    rw [List.range_succ, List.filterMap_append]
    by_cases hlast : id = n
    · subst hlast
      have hnone : (List.range id).filterMap f = [] := by
        rw [List.filterMap_eq_nil_iff]
        intro id' hid'
        exact hother id' (Nat.ne_of_lt (List.mem_range.mp hid'))
      rw [hnone, List.filterMap_cons, ha]
      rfl
    · rw [ih (by omega), List.filterMap_cons, hother n (Ne.symm hlast)]
      rfl

section Grants

variable {s s' : PosWorkspaceStore}

def NoneActivated (s s' : PosWorkspaceStore) : Prop :=
  ∀ id row, s'.subscriptions.find id = some row → row.status = .active →
    ∃ old, s.subscriptions.find id = some old ∧ old.status = .active

theorem grants_eq_nil (h : NoneActivated s s') : s.grants s' = [] := by
  unfold grants
  rw [List.filterMap_eq_nil_iff]
  intro id _
  rw [Option.map_eq_none_iff, Option.filter_eq_none_iff]
  intro row hrow hactive
  obtain ⟨hnow, hbefore⟩ := of_decide_eq_true hactive
  obtain ⟨old, hold, hwas⟩ := h id row hrow hnow
  apply hbefore
  rw [hold]
  exact decide_eq_true hwas

theorem noneActivated_of_same (h : s'.subscriptions = s.subscriptions) : NoneActivated s s' := by
  intro id row hrow hactive
  rw [h] at hrow
  exact ⟨row, hrow, hactive⟩

theorem NoneActivated.saved (h : NoneActivated s s') {id : ℕ} {row : TenantSubscription}
    (hrow : row.status = .active → ∃ old, s'.subscriptions.find id = some old ∧ old.status = .active) :
    NoneActivated s (s'.saveSubscription id row) := by
  intro id' found hfound hactive
  have hset : (s'.subscriptions.set id row).find id' = some found := hfound
  rcases eq_or_find_of_find_set hset with ⟨rfl, rfl⟩ | ⟨-, hkept⟩
  · obtain ⟨old, hold, hwas⟩ := hrow hactive
    exact h id' old hold hwas
  · exact h id' found hkept hactive

theorem grants_eq_singleton {id : ℕ} {row : TenantSubscription} (hrow : s'.subscriptions.find id = some row)
    (hactive : row.status = .active) (hbefore : ∀ old, s.subscriptions.find id = some old → old.status ≠ .active)
    (hother : ∀ id', id' ≠ id → s'.subscriptions.find id' = s.subscriptions.find id') : s.grants s' = [row.grant] := by
  refine filterMap_range_eq_singleton (lt_next_of_find hrow) ?_ fun id' hid' => ?_
  · have hnot : ¬ (s.subscriptions.find id).any (fun old => old.status = .active) = true := by
      cases hold : s.subscriptions.find id with
      | none => exact Bool.false_ne_true
      | some old => exact fun h => hbefore old hold (of_decide_eq_true h)
    rw [hrow, Option.filter_some, if_pos (decide_eq_true ⟨hactive, hnot⟩)]
    rfl
  · rw [hother id' hid', Option.map_eq_none_iff, Option.filter_eq_none_iff]
    intro old hold hboth
    obtain ⟨hnow, hwas⟩ := of_decide_eq_true hboth
    apply hwas
    rw [hold]
    exact decide_eq_true hnow

theorem grants_activated {tenantId branchId : ℕ} (h : ¬ s.IsActive tenantId branchId) (now : ℤ)
    (option : PosBranchSubscriptionOption) (reference : String) :
    s.grants (s.activated now tenantId branchId option reference) = [option.grant reference] := by
  unfold activated
  cases hown : s.branchSubscription tenantId branchId with
  | some found =>
    obtain ⟨id, row⟩ := found
    have hfind : s.subscriptions.find id = some row := (find_of_last hown).1
    have hinactive : row.status ≠ .active := fun hactive => h ⟨(id, row), hown, hactive⟩
    let active := activatedSubscription now tenantId branchId option reference (some row)
    have hsaved : s.grants (s.saveSubscription id active) = [active.grant] := by
      refine grants_eq_singleton (find_set_self hfind _) rfl (fun old hold => ?_) fun id' hid' => ?_
      · rw [hfind] at hold
        rwa [← Option.some.inj hold]
      · exact find_set_of_ne _ _ hid'
    exact hsaved
  | none =>
    let active := activatedSubscription now tenantId branchId option reference none
    have hadded : s.grants { s with subscriptions := s.subscriptions.add active } = [active.grant] := by
      refine grants_eq_singleton (find_add_self _ active) rfl (fun old hold => ?_) fun id' hid' => ?_
      · rw [find_next] at hold
        cases hold
      · exact find_add_of_ne _ active hid'
    exact hadded

end Grants

/-! ### Chosen options -/

theorem chosenOption_eq_optionOf (env : PosWorkspaceRuntime) (period : Option String) :
    chosenOption env period = optionOf (chosenOption env period).period := by
  unfold chosenOption findPosBranchSubscriptionOption
  cases hfind : listSubscriptionOptions.find? fun option => option.period.text = EbirrPayments.upper env.ebirr period with
  | none => rfl
  | some option =>
    have hmem := List.mem_of_find?_eq_some hfind
    rcases List.mem_cons.mp hmem with rfl | hmem
    · rfl
    · obtain rfl := List.mem_singleton.mp hmem
      rfl

theorem chosenOption_text (env : PosWorkspaceRuntime) (period : PosBranchSubscriptionPeriod) :
    chosenOption env (some period.text) = optionOf period := by
  have htrim : trim period.text = period.text := by
    cases period with
    | monthly => decide
    | oneYear => decide
  have hupper : EbirrPayments.upper env.ebirr (some period.text) = period.text := by
    unfold EbirrPayments.upper
    rw [Option.getD_some, htrim, env.periods]
  unfold chosenOption findPosBranchSubscriptionOption
  rw [hupper]
  cases period with
  | monthly => rfl
  | oneYear => rfl

theorem resolvedPeriod_none (env : PosWorkspaceRuntime) (s : PosWorkspaceStore) (tenantId branchId : ℕ) :
    resolvedPeriod env none (s.periodSource tenantId branchId) = rememberedPeriod env s tenantId branchId := by
  unfold resolvedPeriod rememberedPeriod
  rw [Option.getD_none]
  cases (s.periodSource tenantId branchId).bind fun row => row.metadata.pendingActivation with
  | none => rfl
  | some pending =>
    rw [Option.map_some, Option.map_some, chosenOption_text]
    cases pending.period with
    | monthly => rfl
    | oneYear => rfl

variable {reference : String} {user : WorkspaceUser} {s : PosWorkspaceStore}
  {params : ActivationPaymentParams} {g : List GrantedPeriod}

theorem grant_optionOf_inj {period period' : PosBranchSubscriptionPeriod}
    (h : (optionOf period).grant reference = (optionOf period').grant reference) : period = period' := by
  have hmonths : some (optionOf period).months = some (optionOf period').months :=
    congrArg GrantedPeriod.periodMonths h
  cases period with
  | monthly =>
    cases period' with
    | monthly => rfl
    | oneYear => cases hmonths
  | oneYear =>
    cases period' with
    | monthly => cases hmonths
    | oneYear => rfl

/-! ### Calls that grant nothing, or the period of a reference -/

structure Sound (o : ActivationRun) : Prop where
  known : ∀ started ∈ o.started, (o.store.ebirr.byReference started.1).isSome
  chosen : ∀ started ∈ o.started, started.2 = optionOf started.2.period
  completed : ∀ reference ∈ o.completed, reference ∈ o.started.map Prod.fst
  granted : ∀ grant ∈ o.granted, ∃ reference ∈ o.completed, grant.reference = some reference

variable {env : PosWorkspaceRuntime} {o : ActivationRun}

theorem noneActivated_expire (now : ℤ) (s : PosWorkspaceStore) :
    NoneActivated s (run (expireOverdueSubscriptions now) s).2 := by
  have hfold : ∀ (overdue : List (ℕ × TenantSubscription)) (s' : PosWorkspaceStore), NoneActivated s s' →
      NoneActivated s
        (overdue.foldl (fun s found => s.saveSubscription found.1 { found.2 with status := .expired }) s') := by
    intro overdue
    induction overdue with
    | nil => exact fun _ h => h
    | cons found overdue ih => exact fun s' h => ih _ (h.saved fun hactive => by cases hactive)
  exact hfold _ s (noneActivated_of_same rfl)

theorem left_of_noneActivated {s' : PosWorkspaceStore} (h : NoneActivated o.store s') :
    o.left s' = { o with store := s' } := by
  unfold left
  rw [grants_eq_nil h, List.append_nil]

theorem noneActivated_open {now : ℤ}
    (h : s.AsksForActivation env now user params) {exchange : EbirrExchange} (hopen : ¬ exchange.Approves) :
    NoneActivated s (run (startEbirrActivationPayment env now user params exchange) s).2 := by
  rcases run_startActivation_of_open h hopen with hrun | ⟨id, row, pending, hfind, hrun⟩
  · rw [hrun]
    exact noneActivated_of_same rfl
  · rw [hrun]
    exact (noneActivated_of_same rfl).saved fun hactive => ⟨row, hfind, hactive⟩

theorem grants_complete (env : PosWorkspaceRuntime) (s : PosWorkspaceStore) (now : ℤ) (reference : String)
    (explicitPeriod : Option PosBranchSubscriptionPeriod) :
    s.grants (run (completeEbirrActivationPayment env now reference explicitPeriod) s).2 =
      match s.grantedTo reference now with
      | none => []
      | some (tenantId, branchId) =>
        [(optionOf (resolvedPeriod env explicitPeriod (s.periodSource tenantId branchId))).grant reference] := by
  cases hgranted : s.grantedTo reference now with
  | none =>
    rw [run_completeActivation_of_none hgranted]
    exact grants_eq_nil (noneActivated_of_same rfl)
  | some found =>
    rw [run_completeActivation_of_some hgranted]
    exact grants_activated (not_isActive_of_grantedTo hgranted) now _ reference

theorem reference_of_grants_complete (env : PosWorkspaceRuntime) (s : PosWorkspaceStore) (now : ℤ) (reference : String)
    (explicitPeriod : Option PosBranchSubscriptionPeriod) :
    ∀ grant ∈ s.grants (run (completeEbirrActivationPayment env now reference explicitPeriod) s).2,
      grant.reference = some reference := by
  intro grant hgrant
  rw [grants_complete] at hgrant
  cases hgranted : s.grantedTo reference now with
  | none =>
    rw [hgranted] at hgrant
    cases hgrant
  | some found =>
    rw [hgranted] at hgrant
    rw [List.mem_singleton.mp hgrant]
    rfl

/-! ### The transactions of Ebirr -/

theorem ebirr_activated (s : PosWorkspaceStore) (now : ℤ) (tenantId branchId : ℕ) (option : PosBranchSubscriptionOption)
    (reference : String) : (s.activated now tenantId branchId option reference).ebirr = s.ebirr := by
  unfold activated
  cases s.branchSubscription tenantId branchId with
  | none => rfl
  | some found => rfl

theorem ebirr_complete (env : PosWorkspaceRuntime) (s : PosWorkspaceStore) (now : ℤ) (reference : String)
    (explicitPeriod : Option PosBranchSubscriptionPeriod) :
    (run (completeEbirrActivationPayment env now reference explicitPeriod) s).2.ebirr = s.ebirr := by
  cases hgranted : s.grantedTo reference now with
  | none => rw [run_completeActivation_of_none hgranted]
  | some found => rw [run_completeActivation_of_some hgranted, ebirr_activated]

theorem ebirr_expire (now : ℤ) (s : PosWorkspaceStore) :
    (run (expireOverdueSubscriptions now) s).2.ebirr = s.ebirr := by
  have hfold : ∀ (overdue : List (ℕ × TenantSubscription)) (s : PosWorkspaceStore),
      (overdue.foldl (fun s found => s.saveSubscription found.1 { found.2 with status := .expired }) s).ebirr =
        s.ebirr := by
    intro overdue
    induction overdue with
    | nil => exact fun _ => rfl
    | cons found overdue ih => exact fun s => ih _
  exact hfold _ s

theorem ebirr_start {now : ℤ} (h : s.AsksForActivation env now user params) (exchange : EbirrExchange) :
    (run (startEbirrActivationPayment env now user params exchange) s).2.ebirr =
      s.ebirr.initiated (activationRequest params now) exchange.reply exchange.repliedAt := by
  by_cases happroves : exchange.Approves
  · rw [run_startActivation_of_approved h happroves, ebirr_complete]
    rfl
  · rcases run_startActivation_of_open h happroves with hrun | ⟨id, row, pending, -, hrun⟩
    · rw [hrun]
      rfl
    · rw [hrun]
      rfl

/-! ### Runs -/

theorem filter_eq_self (hg : ∀ grant ∈ g, grant.reference = some reference) :
    g.filter (fun grant => grant.reference = some reference) = g :=
  List.filter_eq_self.mpr fun grant hgrant => decide_eq_true (hg grant hgrant)

theorem filter_eq_nil_of_ne {other : String}
    (hg : ∀ grant ∈ g, grant.reference = some reference) (hne : other ≠ reference) :
    g.filter (fun grant => grant.reference = some other) = [] := by
  rw [List.filter_eq_nil_iff]
  intro grant hgrant hother
  rw [hg grant hgrant] at hother
  exact hne (Option.some.inj (of_decide_eq_true hother)).symm

namespace Sound

variable {reference : String}

theorem filter_eq_nil (h : Sound o) (hnew : reference ∉ o.completed) :
    o.granted.filter (fun grant => grant.reference = some reference) = [] := by
  rw [List.filter_eq_nil_iff]
  intro grant hgrant heq
  obtain ⟨r, hr, href⟩ := h.granted grant hgrant
  rw [href] at heq
  rw [Option.some.inj (of_decide_eq_true heq)] at hr
  exact hnew hr

/-- **A completion** keeps one period for each reference exactly when it grants the chosen one the first time, and
none later. -/
theorem onePeriodEach_iff (h : Sound o) (hone : OnePeriodEach o)
    (hstarted : reference ∈ o.started.map Prod.fst) (s' : PosWorkspaceStore) {g : List GrantedPeriod}
    (hg : ∀ grant ∈ g, grant.reference = some reference) :
    OnePeriodEach ⟨s', o.started, o.completed ++ [reference], o.granted ++ g⟩ ↔
      if reference ∈ o.completed then g = []
      else ∀ option, (reference, option) ∈ o.started → g = [option.grant reference] := by
  have hself := filter_eq_self hg
  have hmine : ∀ option, (reference, option) ∈ o.started →
      OnePeriodEach ⟨s', o.started, o.completed ++ [reference], o.granted ++ g⟩ →
      o.granted.filter (fun grant => grant.reference = some reference) ++ g = [option.grant reference] := by
    intro option hoption heach
    have hfilter := heach reference (List.mem_append_right _ (List.mem_singleton_self _)) option hoption
    rwa [List.filter_append, hself] at hfilter
  split_ifs with hcompleted
  · constructor
    · intro heach
      obtain ⟨⟨r, option⟩, hoption, hr⟩ := List.mem_map.mp hstarted
      obtain rfl : r = reference := hr
      have hboth := hmine option hoption heach
      rw [hone r hcompleted option hoption] at hboth
      exact List.append_cancel_left (hboth.trans (List.append_nil _).symm)
    · rintro rfl r hr option hoption
      rw [List.append_nil]
      rcases List.mem_append.mp hr with hr | hr
      · exact hone r hr option hoption
      · rw [List.mem_singleton.mp hr] at hoption ⊢
        exact hone reference hcompleted option hoption
  · constructor
    · intro heach option hoption
      have hboth := hmine option hoption heach
      rwa [h.filter_eq_nil hcompleted] at hboth
    · intro hchosen r hr option hoption
      rw [List.filter_append]
      rcases List.mem_append.mp hr with hr | hr
      · have hne : r ≠ reference := fun heq => hcompleted (heq ▸ hr)
        rw [filter_eq_nil_of_ne hg hne, List.append_nil]
        exact hone r hr option hoption
      · obtain rfl := List.mem_singleton.mp hr
        rw [h.filter_eq_nil hcompleted, hself]
        exact hchosen option hoption

theorem notMem_of_asks (h : Sound o) {now : ℤ} {user : WorkspaceUser} {params : ActivationPaymentParams}
    (hasks : o.store.AsksForActivation env now user params) :
    activationReference params.branchId now ∉ o.started.map Prod.fst := by
  intro hmem
  obtain ⟨started, hstarted, href⟩ := List.mem_map.mp hmem
  have hknown := h.known started hstarted
  have hnew : o.store.ebirr.byReference (activationReference params.branchId now) = none := hasks.2.2.2.2
  rw [href, hnew] at hknown
  cases hknown

theorem start (h : Sound o) {now : ℤ} {user : WorkspaceUser} {params : ActivationPaymentParams}
    (hasks : o.store.AsksForActivation env now user params) (exchange : EbirrExchange) :
    Sound ⟨(run (startEbirrActivationPayment env now user params exchange) o.store).2,
      o.started ++ [(activationReference params.branchId now, chosenOption env params.subscriptionPeriod)],
      o.completed, o.granted⟩ := by
  refine ⟨?_, ?_, ?_, h.granted⟩
  · intro started hstarted
    rw [ebirr_start hasks exchange]
    rcases List.mem_append.mp hstarted with hstarted | hstarted
    · exact EbirrStore.isSome_byReference_initiated (h.known started hstarted) _ _ _
    · rw [List.mem_singleton.mp hstarted]
      exact Option.isSome_iff_exists.mpr ⟨_, EbirrStore.byReference_initiated hasks.2.2.2.2 _ _⟩
  · intro started hstarted
    rcases List.mem_append.mp hstarted with hstarted | hstarted
    · exact h.chosen started hstarted
    · rw [List.mem_singleton.mp hstarted]
      exact chosenOption_eq_optionOf env params.subscriptionPeriod
  · intro reference hreference
    rw [List.map_append]
    exact List.mem_append_left _ (h.completed reference hreference)

theorem complete (h : Sound o) (hstarted : reference ∈ o.started.map Prod.fst)
    {s' : PosWorkspaceStore} (hebirr : s'.ebirr = o.store.ebirr) {g : List GrantedPeriod}
    (hg : ∀ grant ∈ g, grant.reference = some reference) :
    Sound ⟨s', o.started, o.completed ++ [reference], o.granted ++ g⟩ := by
  refine ⟨?_, h.chosen, ?_, ?_⟩
  · intro started hmem
    rw [hebirr]
    exact h.known started hmem
  · intro r hr
    rcases List.mem_append.mp hr with hr | hr
    · exact h.completed r hr
    · rwa [List.mem_singleton.mp hr]
  · intro grant hgrant
    rcases List.mem_append.mp hgrant with hgrant | hgrant
    · obtain ⟨r, hr, href⟩ := h.granted grant hgrant
      exact ⟨r, List.mem_append_left _ hr, href⟩
    · exact ⟨reference, List.mem_append_right _ (List.mem_singleton_self _), hg grant hgrant⟩

end Sound

variable {now : ℤ} {exchange : EbirrExchange} {params : ActivationPaymentParams} {user : WorkspaceUser}

theorem step_start_of_not_asks
    (h : ¬ o.store.AsksForActivation env now user params) (exchange : EbirrExchange) :
    o.step env (.start now user params exchange) = o := by
  unfold step
  dsimp only
  rw [if_neg h, run_startActivation_of_not_asks h, left_of_noneActivated (noneActivated_of_same rfl)]

theorem step_start_of_open
    (h : o.store.AsksForActivation env now user params) (hopen : ¬ exchange.Approves) :
    o.step env (.start now user params exchange) =
      ⟨(run (startEbirrActivationPayment env now user params exchange) o.store).2,
        o.started ++ [(activationReference params.branchId now, chosenOption env params.subscriptionPeriod)],
        o.completed, o.granted⟩ := by
  unfold step
  dsimp only
  rw [if_pos h, if_neg hopen, left_of_noneActivated (noneActivated_open h hopen)]

theorem grants_start_of_approved {s : PosWorkspaceStore}
    (h : s.AsksForActivation env now user params)
    (happroves : exchange.Approves) :
    s.grants (run (startEbirrActivationPayment env now user params exchange) s).2 =
      match s.grantedTo (activationReference params.branchId now) exchange.repliedAt with
      | none => []
      | some _ =>
        [(chosenOption env params.subscriptionPeriod).grant (activationReference params.branchId now)] := by
  have hgrants := grants_complete env (s.askedForActivation now params exchange) exchange.repliedAt
    (activationReference params.branchId now) (some (chosenOption env params.subscriptionPeriod).period)
  have hsame : (s.askedForActivation now params exchange).grantedTo (activationReference params.branchId now)
      exchange.repliedAt = s.grantedTo (activationReference params.branchId now) exchange.repliedAt := rfl
  rw [run_startActivation_of_approved h happroves]
  show (s.askedForActivation now params exchange).grants _ = _
  rw [hgrants, hsame]
  cases s.grantedTo (activationReference params.branchId now) exchange.repliedAt with
  | none => rfl
  | some found =>
    -- the option of an explicit period is the chosen one
    have hoption := chosenOption_eq_optionOf env params.subscriptionPeriod
    exact congrArg (fun option : PosBranchSubscriptionOption =>
      [option.grant (activationReference params.branchId now)]) hoption.symm

theorem step_start_of_approved
    (h : o.store.AsksForActivation env now user params) (happroves : exchange.Approves) :
    let s' := (run (startEbirrActivationPayment env now user params exchange) o.store).2
    o.step env (.start now user params exchange) =
      ⟨s', o.started ++ [(activationReference params.branchId now, chosenOption env params.subscriptionPeriod)],
        o.completed ++ [activationReference params.branchId now], o.granted ++ o.store.grants s'⟩ := by
  unfold step left
  dsimp only
  rw [if_pos h, if_pos happroves]

theorem reference_of_grants_start {s : PosWorkspaceStore}
    (h : s.AsksForActivation env now user params) (happroves : exchange.Approves) :
    ∀ grant ∈ s.grants (run (startEbirrActivationPayment env now user params exchange) s).2,
      grant.reference = some (activationReference params.branchId now) := by
  rw [run_startActivation_of_approved h happroves]
  exact reference_of_grants_complete env (s.askedForActivation now params exchange) _ _ _

theorem mem_started_append (o : ActivationRun) (reference : String) (option : PosBranchSubscriptionOption) :
    reference ∈ (o.started ++ [(reference, option)]).map Prod.fst := by
  rw [List.map_append]
  exact List.mem_append_right _ (List.mem_singleton_self _)

theorem Sound.step (h : Sound o) (call : ActivationCall) (hcall : o.CompletesStarted call) :
    Sound (o.step env call) := by
  cases call with
  | start now user params exchange =>
    by_cases hasks : o.store.AsksForActivation env now user params
    · have hstart := h.start hasks exchange
      by_cases happroves : exchange.Approves
      · rw [step_start_of_approved hasks happroves]
        exact hstart.complete (mem_started_append o _ _) rfl (reference_of_grants_start hasks happroves)
      · rw [step_start_of_open hasks happroves]
        exact hstart
    · rw [step_start_of_not_asks hasks]
      exact h
  | complete now reference =>
    exact h.complete hcall (ebirr_complete env o.store now reference none)
      (reference_of_grants_complete env o.store now reference none)
  | expire now =>
    show Sound (o.left _)
    rw [left_of_noneActivated (noneActivated_expire now o.store)]
    refine ⟨?_, h.chosen, h.completed, h.granted⟩
    rw [ebirr_expire]
    exact h.known

theorem onePeriodEach_started (h : Sound o) (hone : OnePeriodEach o) {reference : String}
    (hnew : reference ∉ o.started.map Prod.fst) (option : PosBranchSubscriptionOption) (s' : PosWorkspaceStore) :
    OnePeriodEach ⟨s', o.started ++ [(reference, option)], o.completed, o.granted⟩ := by
  intro r hr option' hoption
  rcases List.mem_append.mp hoption with hoption | hoption
  · exact hone r hr option' hoption
  · have hsame : r = reference := congrArg Prod.fst (List.mem_singleton.mp hoption)
    rw [hsame] at hr
    exact absurd (h.completed reference hr) hnew

/-- **One step** keeps one period for each reference exactly when it meets the condition. -/
theorem onePeriodEach_step_iff (h : Sound o) (hone : OnePeriodEach o) (call : ActivationCall)
    (hcall : o.CompletesStarted call) : OnePeriodEach (o.step env call) ↔ o.Meets env call := by
  cases call with
  | start now user params exchange =>
    by_cases hasks : o.store.AsksForActivation env now user params
    · have hnew := h.notMem_of_asks hasks
      have hstart := h.start hasks exchange
      have hstarted := onePeriodEach_started h hone hnew (chosenOption env params.subscriptionPeriod)
        (run (startEbirrActivationPayment env now user params exchange) o.store).2
      by_cases happroves : exchange.Approves
      · have hcompletes := hstart.onePeriodEach_iff hstarted (mem_started_append o _ _)
          (run (startEbirrActivationPayment env now user params exchange) o.store).2
          (reference_of_grants_start hasks happroves)
        have hfresh : activationReference params.branchId now ∉ o.completed := fun hmem => hnew (h.completed _ hmem)
        rw [step_start_of_approved hasks happroves]
        rw [hcompletes, if_neg hfresh, grants_start_of_approved hasks happroves]
        constructor
        · intro hall _ _
          have hchosen := hall _ (List.mem_append_right _ (List.mem_singleton_self _))
          cases hgranted : o.store.grantedTo (activationReference params.branchId now) exchange.repliedAt with
          | none =>
            rw [hgranted] at hchosen
            cases hchosen
          | some found => rfl
        · intro hmeets option hoption
          obtain ⟨found, hgranted⟩ := Option.isSome_iff_exists.mp (hmeets hasks happroves)
          rw [hgranted]
          rcases List.mem_append.mp hoption with hoption | hoption
          · exact absurd (List.mem_map_of_mem hoption) hnew
          · have hsame : option = chosenOption env params.subscriptionPeriod :=
              congrArg Prod.snd (List.mem_singleton.mp hoption)
            rw [hsame]
      · rw [step_start_of_open hasks happroves]
        exact iff_of_true hstarted fun _ happroved => absurd happroved happroves
    · rw [step_start_of_not_asks hasks]
      exact iff_of_true hone fun hasked => absurd hasked hasks
  | complete now reference =>
    have hcompletes := h.onePeriodEach_iff hone hcall
      (run (completeEbirrActivationPayment env now reference none) o.store).2
      (reference_of_grants_complete env o.store now reference none)
    refine hcompletes.trans ?_
    rw [grants_complete]
    unfold Meets
    dsimp only
    split_ifs with hcompleted
    · cases o.store.grantedTo reference now with
      | none => exact iff_of_true rfl rfl
      | some found => exact iff_of_false (fun heq => by cases heq) fun heq => by cases heq
    · cases hgranted : o.store.grantedTo reference now with
      | none =>
        obtain ⟨⟨r, option⟩, hoption, hr⟩ := List.mem_map.mp hcall
        obtain rfl : r = reference := hr
        exact iff_of_false (fun hall => by cases hall option hoption) fun ⟨_, hfound, _⟩ => by cases hfound
      | some found =>
        obtain ⟨tenantId, branchId⟩ := found
        dsimp only
        rw [resolvedPeriod_none]
        constructor
        · intro hall
          refine ⟨(tenantId, branchId), rfl, ?_⟩
          rintro ⟨r, option⟩ hoption rfl
          have hgrant := (List.cons.inj (hall option hoption)).1
          have hoption' : option = optionOf option.period := h.chosen _ hoption
          rw [hoption'] at hgrant
          rw [hoption', grant_optionOf_inj hgrant]
        · rintro ⟨found, hfound, hall⟩ option hoption
          obtain rfl : (tenantId, branchId) = found := Option.some.inj hfound
          rw [← hall _ hoption rfl]
  | expire now =>
    show OnePeriodEach (o.left _) ↔ True
    rw [left_of_noneActivated (noneActivated_expire now o.store)]
    exact iff_of_true hone trivial

/-- **One payment buys one period**, the chosen one, exactly in the runs whose calls meet the condition. -/
theorem granted_as_chosen_iff (env : PosWorkspaceRuntime) (s : PosWorkspaceStore) {calls : List ActivationCall}
    (h : Run.Along (step env) CompletesStarted { store := s } calls) :
    (∀ n, OnePeriodEach (Run.after (step env) { store := s } (calls.take n))) ↔
      Run.Along (step env) (Meets env) { store := s } calls := by
  have hsound : Sound { store := s } := ⟨nofun, nofun, nofun, nofun⟩
  exact Run.forall_take_iff (I := Sound) (fun _ call h hcall => h.step call hcall)
    (fun _ call h hcall hone => onePeriodEach_step_iff h hone call hcall) hsound nofun h

/-! ### Two payments at once -/

/-- The subscription of the shop has run out. -/
def expiredShop : PosWorkspaceStore :=
  let subscriptions := SerialTable.empty.add
    { tenantId := 1, branchId := some 1, planCode := "POS_BRANCH_1M", status := .expired, billingInterval := .monthly,
      amount := some 1900, currency := some "ETB", startsAt := 0, endsAt := some 50, autoRenew := true }
  { PosWorkspaceStore.withShop with subscriptions }

/-- The owner starts to pay for a year and for a month, and the first payment is completed. -/
def yearAndMonth : List ActivationCall :=
  let exchange : EbirrExchange := ⟨.data { errorCode := some "0" }, 10, 20⟩
  let params : ActivationPaymentParams := { branchId := 1, phoneNumber := "251911000000" }
  [.start 100 ⟨1, none⟩ { params with subscriptionPeriod := some "ONE_YEAR" } exchange,
    .start 200 ⟨1, none⟩ { params with subscriptionPeriod := some "MONTHLY" } exchange, .complete 300 "POSACT-1-100"]

/-- The payment for a year is granted a month. -/
theorem granted_for_another :
    Run.Along (step BranchRun.workspaceRuntime) CompletesStarted { store := expiredShop } yearAndMonth ∧
      ¬ ∀ n, OnePeriodEach
        (Run.after (step BranchRun.workspaceRuntime) { store := expiredShop } (yearAndMonth.take n)) := by
  refine ⟨by decide, fun h => ?_⟩
  have hcompleted : "POSACT-1-100" ∈
      (Run.after (step BranchRun.workspaceRuntime) { store := expiredShop } (yearAndMonth.take 3)).completed := by
    decide
  have hstarted : ("POSACT-1-100", optionOf .oneYear) ∈
      (Run.after (step BranchRun.workspaceRuntime) { store := expiredShop } (yearAndMonth.take 3)).started := by
    decide
  have hclaim := h 3 _ hcompleted _ hstarted
  exact absurd hclaim (by decide)

/-- A payment that nothing else comes between. -/
def oneActivation : List ActivationCall := [yearAndMonth.head (by decide), .complete 300 "POSACT-1-100"]

theorem granted_as_chosen_iff_alone :
    Run.Along (step BranchRun.workspaceRuntime) CompletesStarted { store := expiredShop } oneActivation ∧
      ((∀ n, OnePeriodEach
          (Run.after (step BranchRun.workspaceRuntime) { store := expiredShop } (oneActivation.take n))) ↔
        Run.Along (step BranchRun.workspaceRuntime) (Meets BranchRun.workspaceRuntime) { store := expiredShop }
          oneActivation) := by
  have hcalls : Run.Along (step BranchRun.workspaceRuntime) CompletesStarted { store := expiredShop } oneActivation := by
    decide
  exact ⟨hcalls, granted_as_chosen_iff BranchRun.workspaceRuntime expiredShop hcalls⟩

end ActivationRun

end SuuqBackend
