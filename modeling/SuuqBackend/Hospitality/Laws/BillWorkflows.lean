import SuuqBackend.Hospitality.Laws.TableBoards

/-!
# What the hospitality calls leave

The status of a bill is read in the row of its intervention (`lifecycleOf`) and on its table (`billsOn`).  A call
that carries an intervention out leaves `Intervened` tables; every other call leaves both as they were
(`SameBills`).

* `run_upsertBillIntervention`: the run of an intervention.
* `step_of_intervenes`, `step_of_not_intervenes`: the tables after a call.
-/

namespace SuuqBackend

open Proc HospitalityWorkflows

namespace HospitalityStore

/-- The status of the bill in the row of its intervention. -/
def lifecycleOf (s : HospitalityStore) (branchId : ℕ) (billId : String) : Option String :=
  (s.billInterventions.lookup (branchId, billId)).map (·.lifecycleStatus)

def billsOn (s : HospitalityStore) (branchId : ℕ) (tableId : String) : List ActiveBill :=
  (s.tableBoards.lookup (branchId, tableId)).elim [] (·.activeBills)

def recorded (s : HospitalityStore) (branchId : ℕ) (key : String) : Option HospitalityResponse :=
  if trim key = "" then none else s.idempotencyKeys.lookup (branchId, trim key)

structure SameBills (s s' : HospitalityStore) : Prop where
  lifecycleOf : ∀ branchId billId, s'.lifecycleOf branchId billId = s.lifecycleOf branchId billId
  billsOn : ∀ branchId tableId, s'.billsOn branchId tableId = s.billsOn branchId tableId

theorem SameBills.refl (s : HospitalityStore) : SameBills s s := ⟨fun _ _ => rfl, fun _ _ => rfl⟩

theorem SameBills.trans {s s' s'' : HospitalityStore} (h : SameBills s s') (h' : SameBills s' s'') : SameBills s s'' :=
  ⟨fun branchId billId => (h'.lifecycleOf branchId billId).trans (h.lifecycleOf branchId billId),
    fun branchId tableId => (h'.billsOn branchId tableId).trans (h.billsOn branchId tableId)⟩

def tableOf (env : HospitalityRuntime) (saved : HospitalityBillIntervention) : Option String :=
  (given saved.tableId).map (trimUpper env)

/-- The tables after an intervention: its bill has a new status, and the bills of its table are merged. -/
structure Intervened (env : HospitalityRuntime) (branchId : ℕ) (saved : HospitalityBillIntervention)
    (action : BillAction) (s s' : HospitalityStore) : Prop where
  lifecycleOf : ∀ branchId' billId, s'.lifecycleOf branchId' billId =
    if branchId = branchId' ∧ saved.billId = billId then some action.lifecycleStatus
    else s.lifecycleOf branchId' billId
  billsOn : ∀ branchId' tableId, s'.billsOn branchId' tableId =
    if branchId = branchId' ∧ tableOf env saved = some tableId then
      mergedBills env saved action (s.billsOn branchId' tableId)
    else s.billsOn branchId' tableId

theorem Intervened.sameBills {env : HospitalityRuntime} {branchId : ℕ} {saved : HospitalityBillIntervention}
    {action : BillAction} {s s' s'' : HospitalityStore} (h : Intervened env branchId saved action s s')
    (h' : SameBills s' s'') : Intervened env branchId saved action s s'' :=
  ⟨fun branchId' billId => (h'.lifecycleOf branchId' billId).trans (h.lifecycleOf branchId' billId),
    fun branchId' tableId => (h'.billsOn branchId' tableId).trans (h.billsOn branchId' tableId)⟩

end HospitalityStore

open HospitalityStore

variable (env : HospitalityRuntime) (now : ℤ) (branchId : ℕ)

/-! ### Idempotency -/

variable {s s' : HospitalityStore} {key : String} {checks : HospitalityProc Unit}
  {work : HospitalityProc HospitalityResponse} {response : HospitalityResponse}

theorem run_getIdempotencyResult (s : HospitalityStore) (key : String) :
    run (getIdempotencyResult branchId key) s = (.ok (s.recorded branchId key), s) := by
  unfold getIdempotencyResult recorded
  split_ifs
  · rfl
  · rfl

theorem run_idempotently_of_recorded (h : s.recorded branchId key = some response) :
    run (idempotently branchId key checks work) s = (.ok response, s) := by
  unfold idempotently
  rw [run_bind_of_ok (run_getIdempotencyResult branchId s key), h]
  rfl

theorem run_idempotently_of_refused (h : s.recorded branchId key = none) {e : HttpException}
    (hchecks : run checks s = (.error e, s)) : run (idempotently branchId key checks work) s = (.error e, s) := by
  unfold idempotently
  rw [run_bind_of_ok (run_getIdempotencyResult branchId s key), h]
  exact run_bind_of_error hchecks _

theorem run_idempotently_of_error (h : s.recorded branchId key = none) (hchecks : run checks s = (.ok (), s))
    {e : HttpException} (hwork : run work s = (.error e, s')) :
    run (idempotently branchId key checks work) s = (.error e, s) := by
  unfold idempotently
  rw [run_bind_of_ok (run_getIdempotencyResult branchId s key), h]
  rw [run_bind_of_ok hchecks]
  refine run_transaction_of_error (?_ : _ = (Except.error e, s'))
  rw [run_bind_of_ok (run_getIdempotencyResult branchId s key), h]
  exact run_bind_of_error hwork _

theorem sameBills_saveIdempotencyResult (s : HospitalityStore) (key : String) (response : HospitalityResponse) :
    SameBills s (run (saveIdempotencyResult branchId key response) s).2 := by
  unfold saveIdempotencyResult
  split_ifs
  · exact SameBills.refl s
  · exact ⟨fun _ _ => rfl, fun _ _ => rfl⟩

theorem snd_idempotently_of_ok (h : s.recorded branchId key = none) (hchecks : run checks s = (.ok (), s))
    (hwork : run work s = (.ok response, s')) : SameBills s' (run (idempotently branchId key checks work) s).2 := by
  have hsave : run (saveIdempotencyResult branchId key response) s' =
      (.ok (), (run (saveIdempotencyResult branchId key response) s').2) := by
    unfold saveIdempotencyResult
    split_ifs
    · rfl
    · rfl
  have hrun : run (idempotently branchId key checks work) s =
      (.ok response, (run (saveIdempotencyResult branchId key response) s').2) := by
    unfold idempotently
    rw [run_bind_of_ok (run_getIdempotencyResult branchId s key), h]
    rw [run_bind_of_ok hchecks]
    refine run_transaction_of_ok ?_
    rw [run_bind_of_ok (run_getIdempotencyResult branchId s key), h]
    rw [run_bind_of_ok hwork, run_bind_of_ok hsave]
    rfl
  rw [hrun]
  exact sameBills_saveIdempotencyResult branchId s' key response

theorem sameBills_idempotently (hchecks : ReadOnly checks)
    (hwork : s.recorded branchId key = none → run checks s = (.ok (), s) →
      (∃ e s', run work s = (.error e, s')) ∨ ∃ response s', run work s = (.ok response, s') ∧ SameBills s s') :
    SameBills s (run (idempotently branchId key checks work) s).2 := by
  cases hrecorded : s.recorded branchId key with
  | some response =>
    rw [run_idempotently_of_recorded branchId hrecorded]
    exact SameBills.refl s
  | none =>
    have hsame := hchecks s
    rcases hrun : run checks s with ⟨e | _, s₁⟩
    · rw [hrun] at hsame
      rw [run_idempotently_of_refused branchId hrecorded (hrun.trans (congrArg _ hsame))]
      exact SameBills.refl s
    · rw [hrun] at hsame
      have hok : run checks s = (.ok (), s) := hrun.trans (congrArg _ hsame)
      rcases hwork hrecorded hok with ⟨e, s', hfail⟩ | ⟨response, s', hdone, hbills⟩
      · rw [run_idempotently_of_error branchId hrecorded hok hfail]
        exact SameBills.refl s
      · exact hbills.trans (snd_idempotently_of_ok branchId hrecorded hok hdone)

/-! ### The table board -/

variable {tableId : String}

variable (tableLabel areaCode : Option String)

theorem run_ensureTableRecord_of_empty (h : trimUpper env tableId = "") (s : HospitalityStore) :
    run (ensureTableRecord env now branchId tableId tableLabel areaCode) s =
      (.error (.badRequest "Table ID is required."), s) := by
  unfold ensureTableRecord normalizeTableId
  rw [if_pos h]
  rfl

theorem run_ensureTableRecord (h : trimUpper env tableId ≠ "") (s : HospitalityStore) :
    ∃ table, table.activeBills = s.billsOn branchId (trimUpper env tableId) ∧
      run (ensureTableRecord env now branchId tableId tableLabel areaCode) s =
        (.ok (trimUpper env tableId, table), s) := by
  unfold ensureTableRecord normalizeTableId
  rw [if_neg h]
  refine ⟨_, ?_, rfl⟩
  unfold billsOn seeded
  dsimp only
  cases s.tableBoards.lookup (branchId, trimUpper env tableId) with
  | none => rfl
  | some table => rfl

theorem billsOn_saveTable (s : HospitalityStore) (tableId : String) (table : HospitalityTableBoard)
    (branchId' : ℕ) (tableId' : String) :
    (run (saveTable branchId tableId table) s).2.billsOn branchId' tableId' =
      if branchId = branchId' ∧ tableId = tableId' then table.activeBills else s.billsOn branchId' tableId' := by
  unfold saveTable billsOn
  rw [run_write]
  by_cases hkey : (branchId', tableId') = (branchId, tableId)
  · obtain ⟨rfl, rfl⟩ := Prod.mk.inj hkey
    rw [Finmap.lookup_insert, if_pos ⟨rfl, rfl⟩]
    rfl
  · rw [Finmap.lookup_insert_of_ne _ hkey, if_neg]
    rintro ⟨rfl, rfl⟩
    exact hkey rfl

theorem sameBills_saveTable {table : HospitalityTableBoard} (h : table.activeBills = s.billsOn branchId tableId) :
    SameBills s (run (saveTable branchId tableId table) s).2 where
  lifecycleOf _ _ := rfl
  billsOn branchId' tableId' := by
    rw [billsOn_saveTable]
    split_ifs with hkey
    · obtain ⟨rfl, rfl⟩ := hkey
      exact h
    · rfl

theorem sameBills_tableWork
    (change : HospitalityTableBoard → HospitalityTableBoard) (hchange : ∀ table, (change table).activeBills = table.activeBills)
    (respond : String → HospitalityTableBoard → HospitalityResponse) (s : HospitalityStore) :
    let work : HospitalityProc HospitalityResponse := do
      let (normalizedTableId, found) ← ensureTableRecord env now branchId tableId tableLabel areaCode
      let table := change found
      saveTable branchId normalizedTableId table
      return respond normalizedTableId table
    (∃ e s', run work s = (.error e, s')) ∨ ∃ response s', run work s = (.ok response, s') ∧ SameBills s s' := by
  intro work
  by_cases hid : trimUpper env tableId = ""
  · exact .inl ⟨_, s, run_bind_of_error (run_ensureTableRecord_of_empty env now branchId tableLabel areaCode hid s) _⟩
  · obtain ⟨table, hbills, hrun⟩ := run_ensureTableRecord env now branchId tableLabel areaCode hid s
    exact .inr ⟨_, _, run_bind_of_ok hrun _, sameBills_saveTable branchId ((hchange table).trans hbills)⟩

/-! ### Interventions -/

variable {env now branchId} {saved : HospitalityBillIntervention} {action : BillAction} {actor : ActorSummary}
  {billId : String}

def savedIntervention (env : HospitalityRuntime) (now : ℤ) (branchId : ℕ) (billId : String) (action : BillAction)
    (actor : ActorSummary) (s : HospitalityStore) : HospitalityBillIntervention :=
  intervention env now branchId (trim billId) action actor (s.billInterventions.lookup (branchId, trim billId))

def HasIds (env : HospitalityRuntime) (now : ℤ) (branchId : ℕ) (billId : String) (action : BillAction)
    (actor : ActorSummary) (s : HospitalityStore) : Prop :=
  trim billId ≠ "" ∧ tableOf env (savedIntervention env now branchId billId action actor s) ≠ some ""
deriving Decidable

theorem regular_savedIntervention (h : trim billId ≠ "") :
    RegularIntervention (savedIntervention env now branchId billId action actor s) action :=
  ⟨trim_trim billId, h, rfl⟩

theorem lifecycleOf_saveIntervention (hstatus : saved.lifecycleStatus = action.lifecycleStatus)
    (s : HospitalityStore) (branchId' : ℕ) (billId : String) :
    (run (saveIntervention branchId saved) s).2.lifecycleOf branchId' billId =
      if branchId = branchId' ∧ saved.billId = billId then some action.lifecycleStatus
      else s.lifecycleOf branchId' billId := by
  unfold saveIntervention lifecycleOf
  rw [run_write]
  by_cases hkey : (branchId', billId) = (branchId, saved.billId)
  · obtain ⟨rfl, rfl⟩ := Prod.mk.inj hkey
    rw [Finmap.lookup_insert, if_pos ⟨rfl, rfl⟩]
    exact congrArg some hstatus
  · rw [Finmap.lookup_insert_of_ne _ hkey, if_neg]
    rintro ⟨rfl, rfl⟩
    exact hkey rfl

theorem run_upsertBillIntervention_eq (hid : trim billId ≠ "") :
    let saved := savedIntervention env now branchId billId action actor s
    run (upsertBillIntervention env now branchId billId action actor) s =
      run (mergeIntoTable env now branchId saved action >>= fun _ => pure saved)
        (run (saveIntervention branchId saved) s).2 := by
  unfold upsertBillIntervention normalizeBillId
  rw [if_neg hid]
  rfl

theorem run_upsertBillIntervention (h : HasIds env now branchId billId action actor s) :
    ∃ s', run (upsertBillIntervention env now branchId billId action actor) s =
        (.ok (savedIntervention env now branchId billId action actor s), s') ∧
      Intervened env branchId (savedIntervention env now branchId billId action actor s) action s s' := by
  obtain ⟨hid, htable⟩ := h
  set saved := savedIntervention env now branchId billId action actor s with hsaved
  set s₁ := (run (saveIntervention branchId saved) s).2 with hs₁
  have hstatus : saved.lifecycleStatus = action.lifecycleStatus := rfl
  have hlifecycle : ∀ branchId' billId, s₁.lifecycleOf branchId' billId = _ := lifecycleOf_saveIntervention hstatus s
  rw [run_upsertBillIntervention_eq hid]
  cases hgiven : given saved.tableId with
  | none =>
    have hnone : tableOf env saved = none := by
      unfold tableOf
      rw [hgiven]
      rfl
    have hmerge : run (mergeIntoTable env now branchId saved action) s₁ = (.ok (), s₁) := by
      unfold mergeIntoTable
      rw [hgiven]
      rfl
    refine ⟨s₁, run_bind_of_ok hmerge _, hlifecycle, fun branchId' tableId => ?_⟩
    rw [hnone, if_neg (fun hboth => by cases hboth.2)]
    rfl
  | some tableId =>
    have hsome : tableOf env saved = some (trimUpper env tableId) := by
      unfold tableOf
      rw [hgiven]
      rfl
    have hne : trimUpper env tableId ≠ "" := fun hempty => htable (hsome.trans (congrArg some hempty))
    obtain ⟨table, hbills, hensure⟩ :=
      run_ensureTableRecord env now branchId (given saved.tableLabel) none hne s₁
    have hmerge : run (mergeIntoTable env now branchId saved action) s₁ =
        (.ok (), (run (saveTable branchId (trimUpper env tableId) { table with
          tableLabel := (given saved.tableLabel).getD table.tableLabel
          activeBills := mergedBills env saved action table.activeBills
          version := table.version + 1
          updatedAt := now }) s₁).2) := by
      unfold mergeIntoTable
      rw [hgiven]
      rw [run_bind_of_ok hensure]
      rfl
    refine ⟨_, run_bind_of_ok hmerge _, hlifecycle, fun branchId' tableId' => ?_⟩
    rw [billsOn_saveTable, hsome]
    simp only [Option.some_inj]
    split_ifs with hkey
    · obtain ⟨rfl, rfl⟩ := hkey
      rw [hbills]
      rfl
    · rfl

theorem run_upsertBillIntervention_of_not (h : ¬ HasIds env now branchId billId action actor s) :
    ∃ e s', run (upsertBillIntervention env now branchId billId action actor) s = (.error e, s') := by
  by_cases hid : trim billId = ""
  · refine ⟨.badRequest "Bill ID is required.", s, ?_⟩
    unfold upsertBillIntervention normalizeBillId
    rw [if_pos hid]
    rfl
  · have htable : tableOf env (savedIntervention env now branchId billId action actor s) = some "" := by
      by_contra hne
      exact h ⟨hid, hne⟩
    set saved := savedIntervention env now branchId billId action actor s with hsaved
    set s₁ := (run (saveIntervention branchId saved) s).2 with hs₁
    obtain ⟨tableId, hgiven, hempty⟩ := Option.map_eq_some_iff.mp htable
    have hmerge : run (mergeIntoTable env now branchId saved action) s₁ =
        (.error (.badRequest "Table ID is required."), s₁) := by
      unfold mergeIntoTable
      rw [hgiven]
      exact run_bind_of_error (run_ensureTableRecord_of_empty env now branchId _ _ hempty s₁) _
    exact ⟨_, s₁, (run_upsertBillIntervention_eq hid).trans (run_bind_of_error hmerge _)⟩

/-! ### Calls -/

inductive HospitalityRequest where
  | splitOpenBill (billId : String) (dto : SplitOpenBillDto)
  | reopenSettledBill (billId : String) (dto : ConfirmedBillDto)
  | voidSettledBill (billId : String) (dto : ConfirmedBillDto)
  | updateTableStatus (tableId : String) (dto : UpdateTableStatusDto)
  | assignTableOwner (tableId : String) (dto : AssignTableOwnerDto)

structure HospitalityCall where
  now : ℤ
  branchId : ℕ
  actor : ActorSummary
  request : HospitalityRequest

namespace HospitalityCall

def proc (env : HospitalityRuntime) (call : HospitalityCall) : HospitalityProc HospitalityResponse :=
  match call.request with
  | .splitOpenBill billId dto => splitOpenBill env call.now call.branchId billId dto call.actor
  | .reopenSettledBill billId dto => reopenSettledBill env call.now call.branchId billId dto call.actor
  | .voidSettledBill billId dto => voidSettledBill env call.now call.branchId billId dto call.actor
  | .updateTableStatus tableId dto => updateTableStatus env call.now call.branchId tableId dto call.actor
  | .assignTableOwner tableId dto => assignTableOwner env call.now call.branchId tableId dto call.actor

def step (env : HospitalityRuntime) (s : HospitalityStore) (call : HospitalityCall) : HospitalityStore :=
  (run (call.proc env) s).2

def intervention? (call : HospitalityCall) : Option (String × BillAction) :=
  match call.request with
  | .splitOpenBill billId dto => some (billId, .split dto)
  | .reopenSettledBill billId dto => some (billId, .reopen dto)
  | .voidSettledBill billId dto => some (billId, .void dto)
  | _ => none

end HospitalityCall

/-- What an action needs of the request and of the bill: a reopening or a void is confirmed, and a voided bill is not
reopened. -/
def Allowed (s : HospitalityStore) (branchId : ℕ) (billId : String) : BillAction → Prop
  | .split _ => True
  | .reopen dto => dto.confirmed = true ∧ s.lifecycleOf branchId (trim billId) ≠ some "VOIDED"
  | .void dto => dto.confirmed = true

instance (s : HospitalityStore) (branchId : ℕ) (billId : String) (action : BillAction) :
    Decidable (Allowed s branchId billId action) := by
  cases action <;> unfold Allowed <;> infer_instance

def Intervenes (env : HospitalityRuntime) (s : HospitalityStore) (call : HospitalityCall) (billId : String)
    (action : BillAction) : Prop :=
  s.recorded call.branchId action.payload.idempotencyKey = none ∧ Allowed s call.branchId billId action ∧
    HasIds env call.now call.branchId billId action call.actor s
deriving Decidable

theorem lifecycleOf_eq_some_iff (s : HospitalityStore) (branchId : ℕ) (billId status : String) :
    s.lifecycleOf branchId billId = some status ↔
      ∃ current ∈ s.billInterventions.lookup (branchId, billId), current.lifecycleStatus = status := by
  exact Option.map_eq_some_iff

variable {dto : ConfirmedBillDto}

theorem run_reopenWork (now : ℤ) (branchId : ℕ) (actor : ActorSummary) (hid : trim billId ≠ "") :
    run (do
      let normalizedBillId ← ofExcept (normalizeBillId billId)
      let currentIntervention ← Proc.read fun s : HospitalityStore =>
        s.billInterventions.lookup (branchId, normalizedBillId)
      .throwIf (∃ current ∈ currentIntervention, current.lifecycleStatus = "VOIDED") billVoided
      let saved ← upsertBillIntervention env now branchId billId (.reopen dto) actor
      return .bill "ACTIVE" "REOPENED" saved actor) s =
    if s.lifecycleOf branchId (trim billId) = some "VOIDED" then (.error billVoided, s)
    else run (do
      let saved ← upsertBillIntervention env now branchId billId (.reopen dto) actor
      return HospitalityResponse.bill "ACTIVE" "REOPENED" saved actor) s := by
  unfold normalizeBillId
  rw [if_neg hid]
  show run (throwIf (∃ current ∈ s.billInterventions.lookup (branchId, trim billId), _) _ >>= _) s = _
  rw [run_throwIf_bind]
  exact if_congr (lifecycleOf_eq_some_iff s branchId (trim billId) "VOIDED").symm rfl rfl

theorem run_confirmed (h : dto.confirmed = true) (message : String) (s : HospitalityStore) :
    run (Proc.throwIf (dto.confirmed = false) (.conflict message) : HospitalityProc Unit) s = (.ok (), s) := by
  rw [run_throwIf, if_neg]
  exact fun hno => Bool.false_ne_true (hno.symm.trans h)

theorem step_of_intervenes {call : HospitalityCall} (hcall : call.intervention? = some (billId, action))
    (h : Intervenes env s call billId action) :
    Intervened env call.branchId (savedIntervention env call.now call.branchId billId action call.actor s) action s
      (call.step env s) := by
  obtain ⟨hrecorded, hallowed, hids⟩ := h
  obtain ⟨s', hrun, hintervened⟩ := run_upsertBillIntervention hids
  obtain ⟨now, branchId, actor, request⟩ := call
  cases request with
  | updateTableStatus tableId dto => cases hcall
  | assignTableOwner tableId dto => cases hcall
  | splitOpenBill billId dto =>
    cases hcall
    exact hintervened.sameBills (snd_idempotently_of_ok branchId hrecorded rfl (run_bind_of_ok hrun _))
  | reopenSettledBill billId dto =>
    cases hcall
    obtain ⟨hconfirmed, hvoided⟩ := hallowed
    have hwork := @run_reopenWork env s billId dto now branchId actor hids.1
    rw [if_neg hvoided, run_bind_of_ok hrun] at hwork
    exact hintervened.sameBills (snd_idempotently_of_ok branchId hrecorded (run_confirmed hconfirmed _ s) hwork)
  | voidSettledBill billId dto =>
    cases hcall
    exact hintervened.sameBills
      (snd_idempotently_of_ok branchId hrecorded (run_confirmed hallowed _ s) (run_bind_of_ok hrun _))

theorem run_upsert_bind_of_not (h : ¬ HasIds env now branchId billId action actor s)
    (f : HospitalityBillIntervention → HospitalityProc HospitalityResponse) :
    ∃ e s', run (upsertBillIntervention env now branchId billId action actor >>= f) s = (.error e, s') := by
  obtain ⟨e, s', hfail⟩ := run_upsertBillIntervention_of_not h
  exact ⟨e, s', run_bind_of_error hfail _⟩

theorem confirmed_of_run {message : String}
    (h : run (Proc.throwIf (dto.confirmed = false) (.conflict message) : HospitalityProc Unit) s = (.ok (), s)) :
    dto.confirmed = true := by
  cases hconfirmed : dto.confirmed with
  | true => rfl
  | false =>
    rw [run_throwIf, if_pos hconfirmed] at h
    cases h

theorem step_of_not_intervenes {call : HospitalityCall}
    (h : ∀ billId action, call.intervention? = some (billId, action) → ¬ Intervenes env s call billId action) :
    SameBills s (call.step env s) := by
  obtain ⟨now, branchId, actor, request⟩ := call
  cases request with
  | updateTableStatus tableId dto =>
    exact sameBills_idempotently branchId (readOnly_pure ()) fun _ _ =>
      sameBills_tableWork env now branchId dto.tableLabel dto.areaCode (withStatus now dto actor) (fun _ => rfl)
        (fun tableId table => .table tableId table actor) s
  | assignTableOwner tableId dto =>
    exact sameBills_idempotently branchId (readOnly_throwIf _ _) fun _ _ =>
      sameBills_tableWork env now branchId dto.tableLabel dto.areaCode (withOwner now dto actor) (fun _ => rfl)
        (fun tableId table => .table tableId table actor) s
  | splitOpenBill billId dto =>
    refine sameBills_idempotently branchId (readOnly_pure ()) fun hrecorded _ => .inl ?_
    exact run_upsert_bind_of_not (fun hids => h billId (.split dto) rfl ⟨hrecorded, trivial, hids⟩) _
  | voidSettledBill billId dto =>
    refine sameBills_idempotently branchId (readOnly_throwIf _ _) fun hrecorded hchecked => .inl ?_
    have hconfirmed := confirmed_of_run hchecked
    exact run_upsert_bind_of_not (fun hids => h billId (.void dto) rfl ⟨hrecorded, hconfirmed, hids⟩) _
  | reopenSettledBill billId dto =>
    refine sameBills_idempotently branchId (readOnly_throwIf _ _) fun hrecorded hchecked => .inl ?_
    have hconfirmed := confirmed_of_run hchecked
    by_cases hid : trim billId = ""
    · refine ⟨.badRequest "Bill ID is required.", s, ?_⟩
      unfold normalizeBillId
      rw [if_pos hid]
      rfl
    rw [run_reopenWork now branchId actor hid]
    split_ifs with hvoided
    · exact ⟨_, _, rfl⟩
    · have hfail := run_upsert_bind_of_not
        (fun hids => h billId (.reopen dto) rfl ⟨hrecorded, ⟨hconfirmed, hvoided⟩, hids⟩)
        (fun saved => return .bill "ACTIVE" "REOPENED" saved actor)
      exact hfail

end SuuqBackend
