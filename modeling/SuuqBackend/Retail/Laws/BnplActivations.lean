import SuuqBackend.Retail.EquityPartnerBnpl

/-!
# The states of BNPL activations

Each operation saves its activation and then brings the entry in the credit ledger in line, whether it finds one or
not, so that the two statuses agree after every call.  A cancellation, a forgiveness and a payment look for an
`OUTSTANDING` activation.  `markSettled` only looks whether the activation is `SETTLED` already, and so settles one that
was cancelled or forgiven.
-/

namespace SuuqBackend

open Proc EquityPartnerBnpl SerialTable

namespace BnplStore

def statusOf (s : BnplStore) (activationId : ℕ) : Option EquityPartnerBnplStatus :=
  (s.activations.find activationId).map (·.status)

def ledgerStatusOf (s : BnplStore) (activationId : ℕ) : Option EquityPartnerBnplStatus :=
  (s.entryOf activationId).map (·.2.activationStatus)

/-- The credit ledger has no other status than the activation. -/
def Mirrored (s : BnplStore) : Prop :=
  ∀ id status, s.statusOf id = some status → ∀ shown ∈ s.ledgerStatusOf id, shown = status

/-- The activations that are settled, cancelled or forgiven stay so. -/
def KeepsClosed (s s' : BnplStore) : Prop :=
  ∀ id status, s.statusOf id = some status → status ≠ .outstanding → s'.statusOf id = some status

/-- The activations, the credit ledger and the limits of the partners are the same. -/
structure SameBooks (s s' : BnplStore) : Prop where
  activations_eq : s'.activations = s.activations
  creditLedger_eq : s'.creditLedger = s.creditLedger
  limit_eq : ∀ id, (s'.partners.find id).map (·.bnplCreditLimit) = (s.partners.find id).map (·.bnplCreditLimit)

/-- The activations and the limits are the same, the entry of one activation has a status, and those of the others are
the same. -/
structure Synced (activationId : ℕ) (status : EquityPartnerBnplStatus) (s s' : BnplStore) : Prop where
  activations_eq : s'.activations = s.activations
  partners_eq : s'.partners = s.partners
  self : s'.ledgerStatusOf activationId = some status
  other : ∀ id ≠ activationId, s'.ledgerStatusOf id = s.ledgerStatusOf id

variable {s s' s'' : BnplStore}

theorem SameBooks.refl (s : BnplStore) : SameBooks s s := ⟨rfl, rfl, fun _ => rfl⟩

theorem SameBooks.trans (h : SameBooks s s') (h' : SameBooks s' s'') : SameBooks s s'' :=
  ⟨h'.activations_eq.trans h.activations_eq, h'.creditLedger_eq.trans h.creditLedger_eq,
    fun id => (h'.limit_eq id).trans (h.limit_eq id)⟩

theorem SameBooks.statusOf_eq (h : SameBooks s s') (id : ℕ) : s'.statusOf id = s.statusOf id := by
  unfold statusOf
  rw [h.activations_eq]

theorem SameBooks.ledgerStatusOf_eq (h : SameBooks s s') (id : ℕ) : s'.ledgerStatusOf id = s.ledgerStatusOf id := by
  unfold ledgerStatusOf entryOf
  rw [h.creditLedger_eq]

theorem KeepsClosed.refl (s : BnplStore) : KeepsClosed s s := fun _ _ h _ => h

theorem KeepsClosed.trans (h : KeepsClosed s s') (h' : KeepsClosed s' s'') : KeepsClosed s s'' :=
  fun id status hstatus hclosed => h' id status (h id status hstatus hclosed) hclosed

end BnplStore

open BnplStore

/-! ### The credit ledger -/

section CreditLedger

variable {s : BnplStore} {activationId : ℕ} {activation : EquityPartnerBnplActivation} {override : Option String}

variable {entry : EquityPartnerBnplCreditLedgerEntry} {entryId : ℕ}

theorem entryOf_spec (h : s.entryOf activationId = some (entryId, entry)) :
    s.creditLedger.find entryId = some entry ∧ entry.bnplActivationId = activationId := by
  obtain ⟨hfind, hentry⟩ := find_of_first h
  exact ⟨hfind, of_decide_eq_true hentry⟩

theorem synced_insertEntry (h : s.entryOf activationId = none) :
    Synced activationId activation.status s
      { s with creditLedger := s.creditLedger.add (newEntry activationId activation) } where
  activations_eq := rfl
  partners_eq := rfl
  self := by
    have hown : decide ((newEntry activationId activation).bnplActivationId = activationId) = true :=
      decide_eq_true rfl
    have hfirst := first_add_of_eq_none h hown
    exact congrArg (Option.map (·.2.activationStatus)) hfirst
  other := by
    intro id hid
    have hother : ¬ (newEntry activationId activation).bnplActivationId = id := fun heq => hid heq.symm
    have hfirst := first_congr
      (filter_find_add (t := s.creditLedger) (p := fun entry => entry.bnplActivationId = id) (decide_eq_false hother))
    exact congrArg (Option.map (·.2.activationStatus)) hfirst

theorem synced_saveEntry (h : s.entryOf activationId = some (entryId, entry)) :
    Synced activationId activation.status s
      { s with creditLedger := s.creditLedger.set entryId (syncedEntry activation override entry) } where
  activations_eq := rfl
  partners_eq := rfl
  self := by
    have hown : decide ((syncedEntry activation override entry).bnplActivationId = activationId) = true :=
      decide_eq_true (entryOf_spec h).2
    have hfirst := first_set h hown
    exact congrArg (Option.map (·.2.activationStatus)) hfirst
  other := by
    intro id hid
    obtain ⟨hfind, hentry⟩ := entryOf_spec h
    have hother : ¬ entry.bnplActivationId = id := fun heq => hid (heq.symm.trans hentry)
    have hfirst := first_congr (filter_find_set (p := fun entry => entry.bnplActivationId = id) hfind
      (decide_eq_false hother) (v := syncedEntry activation override entry) (decide_eq_false hother))
    exact congrArg (Option.map (·.2.activationStatus)) hfirst

theorem run_insertEntry (h : s.entryOf activationId = none) :
    ∃ s', (insertEntry activationId activation).run s = (.ok (), s') ∧ Synced activationId activation.status s s' := by
  refine ⟨_, ?_, synced_insertEntry h⟩
  unfold insertEntry
  rw [run_step, h]
  rfl

theorem run_syncOr_of_some {found : ℕ × EquityPartnerBnplCreditLedgerEntry} (h : s.entryOf activationId = some found)
    (missing : BnplProc Unit) :
    ∃ s', (syncOr activationId activation override missing).run s = (.ok (), s') ∧
      Synced activationId activation.status s s' := by
  obtain ⟨entryId, entry⟩ := found
  refine ⟨{ s with creditLedger := s.creditLedger.set entryId (syncedEntry activation override entry) }, ?_,
    synced_saveEntry h⟩
  unfold syncOr
  rw [run_read_bind, h]
  rfl

theorem run_ensureCreditLedgerEntry (s : BnplStore) (activationId : ℕ) (activation : EquityPartnerBnplActivation) :
    ∃ s', (ensureCreditLedgerEntry activationId activation).run s = (.ok (), s') ∧
      Synced activationId activation.status s s' := by
  unfold ensureCreditLedgerEntry
  rw [run_read_bind]
  cases hentry : s.entryOf activationId with
  | none => exact run_insertEntry hentry
  | some found => exact run_syncOr_of_some hentry _

theorem run_syncCreditLedgerEntry (s : BnplStore) (activationId : ℕ) (activation : EquityPartnerBnplActivation)
    (override : Option String) :
    ∃ s', (syncCreditLedgerEntry activationId activation override).run s = (.ok (), s') ∧
      Synced activationId activation.status s s' := by
  unfold syncCreditLedgerEntry
  cases hentry : s.entryOf activationId with
  | none =>
    unfold syncOr
    rw [run_read_bind, hentry]
    exact run_ensureCreditLedgerEntry s activationId _
  | some found => exact run_syncOr_of_some hentry _

end CreditLedger

/-! ### Provisioning -/

section Provisioning

variable (env : BnplRuntime)

theorem acts_findOrCreateTargetOwner (rawEmail : String) : (findOrCreateTargetOwner env rawEmail).Acts SameBooks := by
  refine (acts_throwIf _ _).bind fun _ => (acts_read SameBooks.refl _).bind fun found => ?_
  cases found with
  | some found => exact acts_pure _
  | none => exact (acts_step (fun s => ⟨rfl, rfl, fun _ => rfl⟩) fun _ => acts_pure _).bind fun _ => acts_pure _

theorem sameBooks_setHostTenant (s : BnplStore) (partnerId tenantId : ℕ) :
    SameBooks s (s.setHostTenant partnerId tenantId) := by
  unfold setHostTenant
  cases hpartner : s.partners.find partnerId with
  | none => exact SameBooks.refl s
  | some partner =>
    refine ⟨rfl, rfl, fun id => ?_⟩
    by_cases hid : id = partnerId
    · rw [hid, find_set_self hpartner, hpartner]
      rfl
    · rw [find_set_of_ne _ _ hid]

variable (partnerId : ℕ) (partner : EquityPartner)

theorem acts_resolvePartnerTenantId : (resolvePartnerTenantId partnerId partner).Acts SameBooks := by
  have hhost : ∀ tenantId, (Proc.write (ε := HttpException) fun s : BnplStore =>
      s.setHostTenant partnerId tenantId).Acts SameBooks :=
    fun tenantId => acts_write fun s => sameBooks_setHostTenant s partnerId tenantId
  unfold resolvePartnerTenantId
  cases partner.userId with
  | none => exact acts_throw _
  | some userId =>
    cases partner.hostRetailTenantId with
    | some tenantId => exact acts_pure _
    | none =>
      refine (acts_read SameBooks.refl _).bind fun ownedBranch => ?_
      split
      · exact (hhost _).bind fun _ => acts_pure _
      · exact (acts_step (fun s => ⟨rfl, rfl, fun _ => rfl⟩) fun _ => acts_pure _).bind fun tenantId =>
          (hhost tenantId).bind fun _ => acts_pure _

theorem acts_tryBranchCodes (base : String) (attempts : List ℕ) :
    (tryBranchCodes env base attempts).Acts SameBooks := by
  induction attempts with
  | nil => exact acts_throw _
  | cons attempt attempts ih =>
    refine (acts_read SameBooks.refl _).bind fun found => ?_
    cases found with
    | none => exact acts_pure _
    | some found => exact ih

theorem acts_recordReferralFromActivation (branchId tenantId : ℕ) :
    (recordReferralFromActivation partnerId branchId tenantId).Acts SameBooks := by
  refine (acts_read SameBooks.refl _).bind fun existing => Acts.ite ?_ (acts_pure _)
  exact acts_write fun s => ⟨rfl, rfl, fun _ => rfl⟩

theorem acts_assignManagers (branchId targetUserId : ℕ) :
    (assignManagers partner branchId targetUserId).Acts SameBooks := by
  refine (acts_write fun s => ⟨rfl, rfl, fun _ => rfl⟩).bind fun _ => Acts.ite ?_ (acts_pure _)
  exact acts_write fun s => ⟨rfl, rfl, fun _ => rfl⟩

theorem acts_provisionModules (tenantId : ℕ) (endsAt : ℤ) : (provisionModules tenantId endsAt).Acts SameBooks := by
  refine (acts_read SameBooks.refl _).bind fun existing => Acts.ite ?_ (acts_pure _)
  exact acts_write fun s => ⟨rfl, rfl, fun _ => rfl⟩

theorem acts_provisionBranch (input : StartBnplActivationInput) :
    (provisionBranch env partnerId partner input).Acts SameBooks := by
  refine (acts_findOrCreateTargetOwner env _).bind fun target => ?_
  obtain ⟨targetUserId, targetWasCreated⟩ := target
  refine (acts_resolvePartnerTenantId partnerId partner).bind fun tenantId => ?_
  refine (acts_throwIf _ _).bind fun _ => (acts_throwIf _ _).bind fun _ => ?_
  refine (acts_tryBranchCodes env _ _).bind fun code => ?_
  refine (acts_step (fun s => ⟨rfl, rfl, fun _ => rfl⟩) fun _ => acts_pure _).bind fun branchId => ?_
  refine (acts_assignManagers partner branchId targetUserId).bind fun _ => ?_
  refine (acts_step (fun s => ⟨rfl, rfl, fun _ => rfl⟩) fun _ => acts_pure _).bind fun subscriptionId => ?_
  refine (acts_provisionModules tenantId _).bind fun _ => ?_
  exact (acts_recordReferralFromActivation partnerId branchId tenantId).attempt.bind fun _ => acts_pure _

end Provisioning

/-! ### What operations do to the statuses -/

structure SameStatuses (s s' : BnplStore) : Prop where
  statusOf_eq : ∀ id, s'.statusOf id = s.statusOf id
  ledgerStatusOf_eq : ∀ id, s'.ledgerStatusOf id = s.ledgerStatusOf id

/-- One activation has got a status, in its row and on the credit ledger. -/
structure StatusMoved (activationId : ℕ) (status : EquityPartnerBnplStatus) (s s' : BnplStore) : Prop where
  statusOf_self : s'.statusOf activationId = some status
  statusOf_other : ∀ id ≠ activationId, s'.statusOf id = s.statusOf id
  ledger_self : s'.ledgerStatusOf activationId = some status
  ledger_other : ∀ id ≠ activationId, s'.ledgerStatusOf id = s.ledgerStatusOf id

section Statuses

variable {s s' : BnplStore} {activationId : ℕ} {status : EquityPartnerBnplStatus}

theorem SameStatuses.refl (s : BnplStore) : SameStatuses s s := ⟨fun _ => rfl, fun _ => rfl⟩

theorem sameStatuses_of_sameBooks (h : SameBooks s s') : SameStatuses s s' :=
  ⟨h.statusOf_eq, h.ledgerStatusOf_eq⟩

theorem SameStatuses.mirrored (h : SameStatuses s s') (hs : Mirrored s) : Mirrored s' := by
  intro id status hstatus
  rw [h.statusOf_eq] at hstatus
  rw [h.ledgerStatusOf_eq]
  exact hs id status hstatus

theorem SameStatuses.keepsClosed (h : SameStatuses s s') : KeepsClosed s s' :=
  fun id _ hstatus _ => (h.statusOf_eq id).trans hstatus

theorem StatusMoved.mirrored (h : StatusMoved activationId status s s') (hs : Mirrored s) : Mirrored s' := by
  intro id status' hstatus shown hshown
  by_cases hid : id = activationId
  · subst hid
    rw [h.statusOf_self] at hstatus
    rw [h.ledger_self] at hshown
    exact (Option.some_inj.mp hshown).symm.trans (Option.some_inj.mp hstatus)
  · rw [h.statusOf_other id hid] at hstatus
    rw [h.ledger_other id hid] at hshown
    exact hs id status' hstatus shown hshown

theorem StatusMoved.keepsClosed (h : StatusMoved activationId status s s')
    (hopen : ∀ old ∈ s.statusOf activationId, old = .outstanding) : KeepsClosed s s' := by
  intro id status' hstatus hclosed
  by_cases hid : id = activationId
  · subst hid
    exact absurd (hopen status' hstatus) hclosed
  · rw [h.statusOf_other id hid]
    exact hstatus

end Statuses

section Operations

variable {s : BnplStore} {activationId : ℕ}

theorem readOnly_requireActivePartnerForUser (userId : ℕ) : ReadOnly (requireActivePartnerForUser userId) := by
  refine (readOnly_read _).bind fun found => ?_
  cases found with
  | none => exact readOnly_throw _
  | some found => exact (readOnly_throwIf _ _).bind fun _ => readOnly_pure _

theorem readOnly_assertCreditCapacity (partnerId : ℕ) (partner : EquityPartner) :
    ReadOnly (assertCreditCapacity partnerId partner) :=
  (readOnly_read _).bind fun _ => readOnly_throwIf _ _

theorem run_save_sync {old : EquityPartnerBnplActivation} (hold : s.activations.find activationId = some old)
    (activation : EquityPartnerBnplActivation) (override : Option String) :
    ∃ s', (do
        saveActivation activationId activation
        syncCreditLedgerEntry activationId activation override : BnplProc Unit).run s = (.ok (), s') ∧
      StatusMoved activationId activation.status s s' := by
  set s₁ : BnplStore := { s with activations := s.activations.set activationId activation } with hs₁
  obtain ⟨s', hrun, hsynced⟩ := run_syncCreditLedgerEntry s₁ activationId activation override
  have hstatus : ∀ id, s'.statusOf id = ((s.activations.set activationId activation).find id).map (·.status) := by
    intro id
    unfold statusOf
    rw [hsynced.activations_eq]
  refine ⟨s', hrun, ?_, fun id hid => ?_, hsynced.self, fun id hid => hsynced.other id hid⟩
  · rw [hstatus, find_set_self hold]
    rfl
  · rw [hstatus, find_set_of_ne _ _ hid]
    rfl

theorem outstanding_cases (mine : EquityPartnerBnplActivation → Prop) [DecidablePred mine]
    (e : EquityPartnerBnplActivation → HttpException) {rest : EquityPartnerBnplActivation → BnplProc Unit}
    (hrest : ∀ activation, s.activations.find activationId = some activation →
      SameStatuses s ((rest activation).run s).2 ∨
        ∃ status, StatusMoved activationId status s ((rest activation).run s).2) :
    let s' := (run (do
      let activation ← findActivation activationId mine
      .throwIf (activation.status ≠ .outstanding) (e activation)
      rest activation) s).2
    SameStatuses s s' ∨ s.statusOf activationId = some .outstanding ∧ ∃ status, StatusMoved activationId status s s' := by
  intro s'
  have hs' : s' = (run (findActivation activationId mine >>= fun activation =>
      Proc.throwIf (activation.status ≠ .outstanding) (e activation) >>= fun _ => rest activation) s).2 := rfl
  unfold findActivation at hs'
  rw [bind_assoc, run_read_bind] at hs'
  cases hfind : (s.activations.find activationId).filter fun a => mine a with
  | none =>
    rw [hfind] at hs'
    rw [show s' = s from hs']
    exact .inl (SameStatuses.refl s)
  | some activation =>
    rw [hfind] at hs'
    obtain ⟨hactivation, -⟩ := Option.filter_eq_some_iff.mp hfind
    rw [pure_bind, run_throwIf_bind] at hs'
    by_cases hstatus : activation.status = .outstanding
    · rw [if_neg (not_not.mpr hstatus)] at hs'
      rw [hs']
      refine (hrest activation hactivation).imp_right fun hmoved => ⟨?_, hmoved⟩
      unfold statusOf
      rw [hactivation]
      exact congrArg some hstatus
    · rw [if_pos hstatus] at hs'
      rw [show s' = s from hs']
      exact .inl (SameStatuses.refl s)

end Operations

/-! ### Calls -/

inductive BnplCall where
  | startBnplActivation (env : BnplRuntime) (partnerUserId : ℕ) (input : StartBnplActivationInput)
  | initiateSettlementPayment (env : BnplRuntime) (partnerUserId activationId : ℕ) (phoneNumber : String)
  | cancelBnplActivation (env : BnplRuntime) (partnerUserId activationId : ℕ)
  | cancelForAdmin (env : BnplRuntime) (activationId : ℕ)
  | forgive (env : BnplRuntime) (activationId : ℕ) (note : Option String)
  | markSettled (env : BnplRuntime) (activationId : ℕ) (referenceId : Option String)

namespace BnplCall

def proc : BnplCall → BnplProc Unit
  | startBnplActivation env partnerUserId input => do
    let _ ← EquityPartnerBnpl.startBnplActivation env partnerUserId input
  | initiateSettlementPayment env partnerUserId activationId phoneNumber =>
    EquityPartnerBnpl.initiateSettlementPayment env partnerUserId activationId phoneNumber
  | cancelBnplActivation env partnerUserId activationId =>
    EquityPartnerBnpl.cancelBnplActivation env partnerUserId activationId
  | cancelForAdmin env activationId => EquityPartnerBnpl.cancelForAdmin env activationId
  | forgive env activationId note => EquityPartnerBnpl.forgive env activationId note
  | markSettled env activationId referenceId => EquityPartnerBnpl.markSettled env activationId referenceId

def step (s : BnplStore) (call : BnplCall) : BnplStore := (run call.proc s).2

def SettlesClosed (s : BnplStore) : BnplCall → Prop
  | markSettled _ activationId _ =>
    s.statusOf activationId = some .cancelled ∨ s.statusOf activationId = some .forgiven
  | _ => False

instance (s : BnplStore) (call : BnplCall) : Decidable (call.SettlesClosed s) := by
  cases call <;> unfold SettlesClosed <;> infer_instance

end BnplCall

section Calls

variable {s : BnplStore}

variable (env : BnplRuntime) (partnerUserId : ℕ)

theorem start_cases (input : StartBnplActivationInput) :
    let s' := BnplCall.step s (.startBnplActivation env partnerUserId input)
    SameStatuses s s' ∨ ∃ id, s.statusOf id = none ∧ StatusMoved id .outstanding s s' := by
  intro s'
  have hs' : s' = ((EquityPartnerBnpl.startBnplActivation env partnerUserId input).run s).2 := by
    exact snd_run_bind_readOnly _ (fun _ => readOnly_pure ()) s
  unfold EquityPartnerBnpl.startBnplActivation at hs'
  rcases hpartner : (requireActivePartnerForUser partnerUserId).run s with ⟨e | ⟨partnerId, partner⟩, s₀⟩
  · rw [run_bind_of_error hpartner] at hs'
    rw [show s' = s from hs'.trans ((readOnly_requireActivePartnerForUser partnerUserId).eq_of_run hpartner)]
    exact .inl (SameStatuses.refl s)
  rw [(readOnly_requireActivePartnerForUser partnerUserId).eq_of_run hpartner] at hpartner
  rw [run_bind_of_ok hpartner] at hs'
  rcases hcapacity : (assertCreditCapacity partnerId partner).run s with ⟨e | _, s₁⟩
  · rw [run_bind_of_error hcapacity] at hs'
    rw [show s' = s from hs'.trans ((readOnly_assertCreditCapacity partnerId partner).eq_of_run hcapacity)]
    exact .inl (SameStatuses.refl s)
  rw [(readOnly_assertCreditCapacity partnerId partner).eq_of_run hcapacity] at hcapacity
  rw [run_bind_of_ok hcapacity] at hs'
  have hbooks := (acts_provisionBranch env partnerId partner input).rel_run SameBooks.refl
    (fun _ _ _ => SameBooks.trans) s
  rcases hprovision : (provisionBranch env partnerId partner input).run s with ⟨e | provisioned, s₂⟩
  · -- what was provisioned stays, and there is no activation
    rw [hprovision] at hbooks
    rw [run_bind_of_error hprovision] at hs'
    rw [hs']
    exact .inl (sameStatuses_of_sameBooks hbooks)
  rw [hprovision] at hbooks
  rw [run_bind_of_ok hprovision] at hs'
  have hbooks : SameBooks s s₂ := hbooks
  set activation := newActivation partnerId input provisioned with hactivation
  set s₃ : BnplStore := { s₂ with activations := s₂.activations.add activation } with hs₃
  obtain ⟨s₄, hensure, hsynced⟩ := run_ensureCreditLedgerEntry s₃ s₂.activations.next activation
  have hrun : s' = (run (ensureCreditLedgerEntry s₂.activations.next activation >>= fun _ =>
      pure s₂.activations.next) s₃).2 := hs'
  rw [run_bind_of_ok hensure] at hrun
  have hend : s' = s₄ := hrun
  have hstatus : ∀ id, s₄.statusOf id = ((s₂.activations.add activation).find id).map (·.status) := by
    intro id
    unfold statusOf
    rw [hsynced.activations_eq]
  refine .inr ⟨s₂.activations.next, ?_, ?_⟩
  · rw [← hbooks.statusOf_eq]
    unfold statusOf
    rw [find_next]
    rfl
  · rw [hend]
    refine ⟨?_, fun id hid => ?_, hsynced.self, fun id hid => ?_⟩
    · rw [hstatus, find_add_self]
      rfl
    · rw [hstatus, find_add_of_ne _ _ hid]
      exact hbooks.statusOf_eq id
    · exact (hsynced.other id hid).trans (hbooks.ledgerStatusOf_eq id)

theorem markSettled_cases (activationId : ℕ) (referenceId : Option String) :
    let s' := BnplCall.step s (.markSettled env activationId referenceId)
    ((s.statusOf activationId = none ∨ s.statusOf activationId = some .settled) ∧ SameStatuses s s') ∨
      s.statusOf activationId ≠ some .settled ∧ StatusMoved activationId .settled s s' := by
  intro s'
  have hs' : s' = ((EquityPartnerBnpl.markSettled env activationId referenceId).run s).2 := rfl
  unfold EquityPartnerBnpl.markSettled findActivation at hs'
  rw [bind_assoc, run_read_bind] at hs'
  cases hfind : s.activations.find activationId with
  | none =>
    rw [hfind] at hs'
    rw [show s' = s from hs']
    refine .inl ⟨.inl ?_, SameStatuses.refl s⟩
    unfold statusOf
    rw [hfind]
    rfl
  | some activation =>
    have hstatus : s.statusOf activationId = some activation.status := by
      unfold statusOf
      rw [hfind]
      rfl
    rw [hfind, Option.filter_some, if_pos (decide_eq_true trivial)] at hs'
    rw [pure_bind] at hs'
    by_cases hsettled : activation.status = .settled
    · rw [if_pos hsettled] at hs'
      rw [show s' = s from hs']
      exact .inl ⟨.inr (hstatus.trans (congrArg some hsettled)), SameStatuses.refl s⟩
    · rw [if_neg hsettled] at hs'
      obtain ⟨s₁, hrun, hmoved⟩ := run_save_sync hfind { activation with
        status := .settled
        settledAt := some env.now
        settlementReferenceId := (referenceId.filter (· ≠ "")).or activation.settlementReferenceId } none
      have hend : s' = s₁ := hs'.trans (congrArg Prod.snd hrun)
      rw [hend]
      refine .inr ⟨fun heq => hsettled ?_, hmoved⟩
      exact Option.some_inj.mp (hstatus.symm.trans heq)

/-- Nothing has changed, or an activation that was new or `OUTSTANDING` has got a status. -/
def MovesOpen (s s' : BnplStore) : Prop :=
  SameStatuses s s' ∨ ∃ id status, StatusMoved id status s s' ∧ ∀ old ∈ s.statusOf id, old = .outstanding

theorem movesOpen_outstanding (mine : EquityPartnerBnplActivation → Prop) [DecidablePred mine] {activationId : ℕ}
    (e : EquityPartnerBnplActivation → HttpException) {rest : EquityPartnerBnplActivation → BnplProc Unit}
    (hrest : ∀ activation, s.activations.find activationId = some activation →
      SameStatuses s ((rest activation).run s).2 ∨
        ∃ status, StatusMoved activationId status s ((rest activation).run s).2) :
    MovesOpen s (run (do
      let activation ← findActivation activationId mine
      .throwIf (activation.status ≠ .outstanding) (e activation)
      rest activation) s).2 := by
  refine (outstanding_cases mine e hrest).imp_right ?_
  rintro ⟨hopen, status, hmoved⟩
  exact ⟨activationId, status, hmoved, fun old hold => Option.some_inj.mp (hold.symm.trans hopen)⟩

theorem movesOpen_saveAndSync (mine : EquityPartnerBnplActivation → Prop) [DecidablePred mine] (activationId : ℕ)
    (e : EquityPartnerBnplActivation → HttpException)
    (change : EquityPartnerBnplActivation → EquityPartnerBnplActivation) :
    MovesOpen s (run (do
      let activation ← findActivation activationId mine
      .throwIf (activation.status ≠ .outstanding) (e activation)
      saveAndSync activationId (change activation)) s).2 := by
  refine movesOpen_outstanding mine e fun activation hactivation => .inr ⟨(change activation).status, ?_⟩
  obtain ⟨s₁, hrun, hmoved⟩ := run_save_sync hactivation (change activation) none
  have hend : (run (saveAndSync activationId (change activation)) s).2 = s₁ := congrArg Prod.snd hrun
  rw [hend]
  exact hmoved

theorem movesOpen_forPartner {rest : ℕ × EquityPartner → BnplProc Unit}
    (hrest : ∀ found, MovesOpen s (run (rest found) s).2) :
    MovesOpen s (run (requireActivePartnerForUser partnerUserId >>= rest) s).2 := by
  rw [(readOnly_requireActivePartnerForUser partnerUserId).snd_run_bind]
  cases ((requireActivePartnerForUser partnerUserId).run s).1 with
  | error e => exact .inl (SameStatuses.refl s)
  | ok found => exact hrest found

theorem movesOpen_initiateSettlementPayment (activationId : ℕ) (phoneNumber : String) :
    MovesOpen s (BnplCall.step s (.initiateSettlementPayment env partnerUserId activationId phoneNumber)) := by
  refine movesOpen_forPartner partnerUserId fun found => movesOpen_outstanding _ _ fun activation hactivation => ?_
  dsimp only
  cases hpayment : env.initiatePayment phoneNumber (settlementAmount activation) (settlementReference env activationId) with
  | error e => exact .inl (SameStatuses.refl s)
  | ok u =>
    -- the activation is saved with the status that it has
    obtain ⟨s₁, hrun, hmoved⟩ := run_save_sync hactivation (attemptedActivation env activationId activation)
      (some (settlementReference env activationId))
    refine .inr ⟨activation.status, ?_⟩
    have hend := congrArg Prod.snd hrun
    dsimp only at hend
    rw [← hend] at hmoved
    exact hmoved

/-- **What a call does to the activations**: nothing, or one of them gets a status, in its row and on the credit
ledger; that one is new, or was `OUTSTANDING`, unless the call marks it as settled. -/
theorem step_cases (s : BnplStore) (call : BnplCall) :
    MovesOpen s (call.step s) ∨ ∃ env id referenceId, call = .markSettled env id referenceId ∧
      s.statusOf id ≠ some .settled ∧ StatusMoved id .settled s (call.step s) := by
  cases call with
  | startBnplActivation env partnerUserId input =>
    refine .inl ((start_cases env partnerUserId input).imp_right ?_)
    rintro ⟨id, hnew, hmoved⟩
    refine ⟨id, .outstanding, hmoved, fun old hold => ?_⟩
    rw [hnew] at hold
    cases hold
  | initiateSettlementPayment env partnerUserId activationId phoneNumber =>
    exact .inl (movesOpen_initiateSettlementPayment env partnerUserId activationId phoneNumber)
  | cancelBnplActivation env partnerUserId activationId =>
    refine .inl (movesOpen_forPartner partnerUserId fun found => ?_)
    exact movesOpen_saveAndSync _ activationId _ (cancelledActivation env none)
  | cancelForAdmin env activationId =>
    exact .inl (movesOpen_saveAndSync _ activationId _ (cancelledActivation env (some "admin")))
  | forgive env activationId note =>
    exact .inl (movesOpen_saveAndSync _ activationId _ fun activation => { activation with
      status := .forgiven
      settledAt := some env.now
      metadata := { activation.metadata with forgiveNote := some note, forgivenAt := some env.now } })
  | markSettled env activationId referenceId =>
    rcases markSettled_cases env activationId referenceId with ⟨-, hsame⟩ | ⟨hne, hmoved⟩
    · exact .inl (.inl hsame)
    · exact .inr ⟨env, activationId, referenceId, rfl, hne, hmoved⟩

theorem mirrored_step (hs : Mirrored s) (call : BnplCall) : Mirrored (call.step s) := by
  rcases step_cases s call with (hsame | ⟨id, status, hmoved, -⟩) | ⟨env, id, referenceId, -, -, hmoved⟩
  · exact hsame.mirrored hs
  · exact hmoved.mirrored hs
  · exact hmoved.mirrored hs

/-- An activation that is marked as settled after it was cancelled or forgiven has not stayed so. -/
theorem not_keepsClosed_of_settlesClosed {call : BnplCall} (h : call.SettlesClosed s) :
    ¬ KeepsClosed s (call.step s) := by
  cases call with
  | markSettled env activationId referenceId =>
    have hclosed : s.statusOf activationId = some .cancelled ∨ s.statusOf activationId = some .forgiven := h
    rcases markSettled_cases (s := s) env activationId referenceId with ⟨hsame, -⟩ | ⟨-, hmoved⟩
    · rcases hclosed with hclosed | hclosed <;> rw [hclosed] at hsame <;> exact (by simp at hsame)
    · intro hkeeps
      rcases hclosed with hclosed | hclosed
      · have hkept := hkeeps activationId _ hclosed (by decide)
        rw [hmoved.statusOf_self] at hkept
        cases hkept
      · have hkept := hkeeps activationId _ hclosed (by decide)
        rw [hmoved.statusOf_self] at hkept
        cases hkept
  | _ => exact h.elim

theorem step_keepsClosed_iff (s : BnplStore) (call : BnplCall) :
    KeepsClosed s (call.step s) ↔ ¬ call.SettlesClosed s := by
  refine ⟨fun hkeeps hcloses => not_keepsClosed_of_settlesClosed hcloses hkeeps, fun hno => ?_⟩
  rcases step_cases s call with (hsame | ⟨id, status, hmoved, hopen⟩) | ⟨env, id, referenceId, rfl, hne, hmoved⟩
  · exact hsame.keepsClosed
  · exact hmoved.keepsClosed hopen
  · -- what is neither settled nor closed is open
    refine hmoved.keepsClosed fun old hold => ?_
    cases old with
    | outstanding => rfl
    | settled => exact absurd hold hne
    | forgiven => exact absurd (.inr hold) hno
    | cancelled => exact absurd (.inl hold) hno

end Calls

/-- **Closed activations are final, and the credit ledger mirrors them**: in every run, an activation that is
settled, cancelled or forgiven in one state is so in all later ones, and every state has the same statuses in the
activations and on the credit ledger, if and only if no call marks a cancelled or forgiven activation as settled. -/
theorem final_and_mirrored_iff {s₀ : BnplStore} (hs₀ : Mirrored s₀) (calls : List BnplCall) :
    ((∀ n m, n ≤ m → KeepsClosed (Run.after BnplCall.step s₀ (calls.take n))
        (Run.after BnplCall.step s₀ (calls.take m))) ∧
      ∀ n, Mirrored (Run.after BnplCall.step s₀ (calls.take n))) ↔
      Run.Along BnplCall.step (fun s call => ¬ call.SettlesClosed s) s₀ calls := by
  have hstep : ∀ s call, Mirrored s → Mirrored (BnplCall.step s call) := fun s call hs => mirrored_step hs call
  have hmirrored : ∀ n, Mirrored (Run.after BnplCall.step s₀ (calls.take n)) :=
    fun n => Run.after_invariant hstep hs₀ (calls.take n)
  have hfinal : (∀ n m, n ≤ m → KeepsClosed (Run.after BnplCall.step s₀ (calls.take n))
      (Run.after BnplCall.step s₀ (calls.take m))) ↔
      Run.Along BnplCall.step (fun s call => ¬ call.SettlesClosed s) s₀ calls :=
    Run.forall_rel_take_iff KeepsClosed.refl (fun _ _ _ => KeepsClosed.trans) (fun s call hs _ => hstep s call hs)
      (fun s call _ => step_keepsClosed_iff s call) hs₀ calls
  rw [← hfinal]
  exact and_iff_left hmirrored

/-! ### Runs -/

/-- A runtime at a time, on texts of letters without case. -/
def plainBnplRuntime : BnplRuntime where
  now := 1700000000000
  toUpperCase text := String.ofList (text.toList.map Char.toUpper)
  toLowerCase text := String.ofList (text.toList.map Char.toLower)
  addMonths date months := date + months * 2592000000
  initiatePayment _ _ _ := .ok ()

def onePartner : BnplStore where
  partners := SerialTable.empty.add ⟨some 900, "Abebe", .active, 5, none⟩
  activations := SerialTable.empty
  creditLedger := SerialTable.empty
  users := SerialTable.empty
  retailTenants := SerialTable.empty
  branches := SerialTable.empty
  managers := []
  subscriptions := SerialTable.empty
  moduleEntitlements := []
  splitAssignments := []

theorem mirrored_onePartner : Mirrored onePartner := by
  intro id status hstatus
  cases hstatus

def startCall : BnplCall :=
  .startBnplActivation plainBnplRuntime 900 ⟨"Bole Salon", "retail", "Owner@Example.com", .oneYear⟩

/-- One activation is settled, a second one is cancelled, and neither can be forgiven. -/
def closingCalls : List BnplCall :=
  [startCall, startCall, .initiateSettlementPayment plainBnplRuntime 900 1 "0911", .markSettled plainBnplRuntime 1 none,
    .cancelBnplActivation plainBnplRuntime 900 2, .forgive plainBnplRuntime 1 none, .forgive plainBnplRuntime 2 none]

theorem final_and_mirrored_closingCalls :
    let state (n : ℕ) := Run.after BnplCall.step onePartner (closingCalls.take n)
    ((state 7).statusOf 1 = some .settled ∧ (state 7).statusOf 2 = some .cancelled ∧
      (state 7).ledgerStatusOf 2 = some .cancelled) ∧
      (∀ n m, n ≤ m → KeepsClosed (state n) (state m)) ∧ ∀ n, Mirrored (state n) :=
  ⟨by decide, (final_and_mirrored_iff mirrored_onePartner closingCalls).mpr (by decide)⟩

/-- A cancelled activation is marked as settled. -/
theorem cancelled_becomes_settled :
    let state (n : ℕ) := Run.after BnplCall.step onePartner
      ([startCall, .cancelBnplActivation plainBnplRuntime 900 1, .markSettled plainBnplRuntime 1 none].take n)
    (state 1).statusOf 1 = some .outstanding ∧ (state 2).statusOf 1 = some .cancelled ∧
      (state 3).statusOf 1 = some .settled := by
  decide

end SuuqBackend
