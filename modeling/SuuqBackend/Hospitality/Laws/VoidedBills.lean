import SuuqBackend.Hospitality.Laws.BillWorkflows

/-!
# Voided bills

A void stores `VOIDED` in the row of the intervention and on the table of the bill, and `reopenSettledBill` refuses a
voided bill.  `splitOpenBill` does not look at the status: it stores `OPEN` for its bill, and shows the bill that it
opens as `OPEN` on the table, whatever stood there.
-/

namespace SuuqBackend

open HospitalityWorkflows HospitalityStore

variable (env : HospitalityRuntime)

/-- What is stored or shown as voided in the first stays so in the second. -/
structure KeepsVoided (s s' : HospitalityStore) : Prop where
  stored : ∀ branchId billId, s.lifecycleOf branchId billId = some "VOIDED" →
    s'.lifecycleOf branchId billId = some "VOIDED"
  shown : ∀ branchId tableId billId, shownStatus env (s.billsOn branchId tableId) billId = some "VOIDED" →
    shownStatus env (s'.billsOn branchId tableId) billId = some "VOIDED"

/-- The bills on the tables are as the workflows write them, and what a table shows as voided is stored so. -/
structure RegularBills (s : HospitalityStore) : Prop where
  regular : ∀ branchId tableId, ∀ bill ∈ s.billsOn branchId tableId, RegularBill bill
  voided : ∀ branchId tableId billId, shownStatus env (s.billsOn branchId tableId) billId = some "VOIDED" →
    s.lifecycleOf branchId billId = some "VOIDED"

/-- The call splits a bill that is stored as voided, or opens one that the table shows as voided. -/
def SplitsVoided (s : HospitalityStore) (call : HospitalityCall) : Prop :=
  match call.request with
  | .splitOpenBill billId dto =>
    let saved := savedIntervention env call.now call.branchId billId (.split dto) call.actor s
    Intervenes env s call billId (.split dto) ∧
      (s.lifecycleOf call.branchId (trim billId) = some "VOIDED" ∨
        ∃ tableId ∈ tableOf env saved, shownStatus env (s.billsOn call.branchId tableId)
          (splitBillId saved.billId saved.version) = some "VOIDED")
  | _ => False

instance (s : HospitalityStore) (call : HospitalityCall) : Decidable (SplitsVoided env s call) := by
  unfold SplitsVoided
  split <;> infer_instance

variable {env} {s s' : HospitalityStore} {branchId : ℕ} {saved : HospitalityBillIntervention} {action : BillAction}

theorem KeepsVoided.refl (s : HospitalityStore) : KeepsVoided env s s :=
  ⟨fun _ _ h => h, fun _ _ _ h => h⟩

theorem KeepsVoided.trans {s'' : HospitalityStore} (h : KeepsVoided env s s') (h' : KeepsVoided env s' s'') :
    KeepsVoided env s s'' :=
  ⟨fun branchId billId hvoided => h'.stored branchId billId (h.stored branchId billId hvoided),
    fun branchId tableId billId hvoided => h'.shown branchId tableId billId (h.shown branchId tableId billId hvoided)⟩

theorem KeepsVoided.of_sameBills (h : SameBills s s') : KeepsVoided env s s' where
  stored branchId billId hvoided := (h.lifecycleOf branchId billId).trans hvoided
  shown branchId tableId billId hvoided := by
    rw [h.billsOn]
    exact hvoided

theorem RegularBills.of_sameBills (hs : RegularBills env s) (h : SameBills s s') : RegularBills env s' where
  regular branchId tableId := by
    rw [h.billsOn]
    exact hs.regular branchId tableId
  voided branchId tableId billId := by
    rw [h.billsOn, h.lifecycleOf]
    exact hs.voided branchId tableId billId

/-! ### Interventions -/

theorem shownStatus_intervened (hs : RegularBills env s) (hsaved : RegularIntervention saved action)
    (h : Intervened env branchId saved action s s') (branchId' : ℕ) (tableId billId : String) :
    shownStatus env (s'.billsOn branchId' tableId) billId =
      if branchId = branchId' ∧ tableOf env saved = some tableId then
        (mergedStatus saved action billId).or (shownStatus env (s.billsOn branchId' tableId) billId)
      else shownStatus env (s.billsOn branchId' tableId) billId := by
  rw [h.billsOn]
  split_ifs
  · exact shownStatus_mergedBills hsaved (hs.regular branchId' tableId) billId
  · rfl

/-- A stored void survives an intervention that voids again or that is of another bill. -/
theorem stored_intervened (h : Intervened env branchId saved action s s')
    (hbill : action.lifecycleStatus = "VOIDED" ∨ s.lifecycleOf branchId saved.billId ≠ some "VOIDED")
    {branchId' : ℕ} {billId : String} (hvoided : s.lifecycleOf branchId' billId = some "VOIDED") :
    s'.lifecycleOf branchId' billId = some "VOIDED" := by
  rw [h.lifecycleOf]
  split_ifs with hkey
  · obtain ⟨rfl, rfl⟩ := hkey
    exact congrArg some (hbill.resolve_right (not_not.mpr hvoided))
  · exact hvoided

theorem keepsVoided_intervened_iff (hs : RegularBills env s) (hsaved : RegularIntervention saved action)
    (h : Intervened env branchId saved action s s') :
    KeepsVoided env s s' ↔
      (action.lifecycleStatus = "VOIDED" ∨ s.lifecycleOf branchId saved.billId ≠ some "VOIDED") ∧
      ∀ dto, action = .split dto → ∀ tableId ∈ tableOf env saved,
        shownStatus env (s.billsOn branchId tableId) (splitBillId saved.billId saved.version) ≠ some "VOIDED" := by
  constructor
  · intro hkeeps
    refine ⟨?_, ?_⟩
    · by_contra hno
      rw [not_or, not_not] at hno
      have hstored := hkeeps.stored branchId saved.billId hno.2
      rw [h.lifecycleOf, if_pos ⟨rfl, rfl⟩, Option.some_inj] at hstored
      exact hno.1 hstored
    · rintro dto rfl tableId htable hvoided
      have hshown := hkeeps.shown branchId tableId _ hvoided
      rw [shownStatus_intervened hs hsaved h, if_pos ⟨rfl, htable⟩] at hshown
      unfold mergedStatus at hshown
      rw [if_pos rfl, Option.some_or] at hshown
      exact absurd hshown (by decide)
  · rintro ⟨hbill, htarget⟩
    refine ⟨fun branchId' billId hvoided => stored_intervened h hbill hvoided,
      fun branchId' tableId billId hvoided => ?_⟩
    rw [shownStatus_intervened hs hsaved h]
    split_ifs with hkey
    · obtain ⟨rfl, htable⟩ := hkey
      cases hmerged : mergedStatus saved action billId with
      | none => exact hvoided
      | some status =>
        rcases mergedStatus_eq_some hmerged with ⟨dto, hsplit, rfl, -⟩ | ⟨rfl, rfl⟩
        · exact absurd hvoided (htarget dto hsplit tableId htable)
        · have hstored := hs.voided branchId tableId _ hvoided
          rw [hsaved.status]
          exact congrArg some (hbill.resolve_right (not_not.mpr hstored))
    · exact hvoided

theorem RegularBills.intervened (hs : RegularBills env s) (hsaved : RegularIntervention saved action)
    (h : Intervened env branchId saved action s s')
    (hbill : action.lifecycleStatus = "VOIDED" ∨ s.lifecycleOf branchId saved.billId ≠ some "VOIDED") :
    RegularBills env s' where
  regular branchId' tableId := by
    rw [h.billsOn]
    split_ifs
    · exact regular_mergedBills hsaved (hs.regular branchId' tableId)
    · exact hs.regular branchId' tableId
  voided branchId' tableId billId hvoided := by
    have hkept : shownStatus env (s.billsOn branchId' tableId) billId = some "VOIDED" →
        s'.lifecycleOf branchId' billId = some "VOIDED" :=
      fun hshown => stored_intervened h hbill (hs.voided branchId' tableId billId hshown)
    rw [shownStatus_intervened hs hsaved h] at hvoided
    split_ifs at hvoided with hkey
    · obtain ⟨rfl, -⟩ := hkey
      cases hmerged : mergedStatus saved action billId with
      | none =>
        rw [hmerged] at hvoided
        exact hkept hvoided
      | some status =>
        rw [hmerged, Option.some_or, Option.some_inj] at hvoided
        rcases mergedStatus_eq_some hmerged with ⟨dto, -, -, hopen⟩ | ⟨rfl, rfl⟩
        · exact absurd (hopen.symm.trans hvoided) (by decide)
        · rw [h.lifecycleOf, if_pos ⟨rfl, rfl⟩, ← hsaved.status, hvoided]
    · exact hkept hvoided

/-! ### Calls -/

variable {call : HospitalityCall}

theorem not_splitsVoided_iff {billId : String}
    (hcall : call.intervention? = some (billId, action)) (h : Intervenes env s call billId action) :
    let saved := savedIntervention env call.now call.branchId billId action call.actor s
    ¬ SplitsVoided env s call ↔
      (action.lifecycleStatus = "VOIDED" ∨ s.lifecycleOf call.branchId saved.billId ≠ some "VOIDED") ∧
      ∀ dto, action = .split dto → ∀ tableId ∈ tableOf env saved,
        shownStatus env (s.billsOn call.branchId tableId) (splitBillId saved.billId saved.version) ≠ some "VOIDED" := by
  intro saved
  obtain ⟨now, branchId, actor, request⟩ := call
  cases request with
  | updateTableStatus tableId dto => cases hcall
  | assignTableOwner tableId dto => cases hcall
  | voidSettledBill billId dto =>
    cases hcall
    exact iff_of_true id ⟨.inl rfl, fun dto hsplit => by cases hsplit⟩
  | reopenSettledBill billId dto =>
    cases hcall
    have hstored : s.lifecycleOf branchId (trim billId) ≠ some "VOIDED" := h.2.1.2
    exact iff_of_true id ⟨.inr hstored, fun dto hsplit => by cases hsplit⟩
  | splitOpenBill billId dto =>
    cases hcall
    constructor
    · intro hno
      refine ⟨.inr fun hvoided => hno ⟨h, .inl hvoided⟩, ?_⟩
      rintro dto' hsplit tableId htable hvoided
      exact hno ⟨h, .inr ⟨tableId, htable, hvoided⟩⟩
    · rintro ⟨hbill, htarget⟩ ⟨-, hvoided | ⟨tableId, htable, hvoided⟩⟩
      · have hopen : ("OPEN" : String) ≠ "VOIDED" := by decide
        exact hbill.resolve_left hopen hvoided
      · exact htarget dto rfl tableId htable hvoided

theorem not_splitsVoided_of_not
    (h : ∀ billId action, call.intervention? = some (billId, action) → ¬ Intervenes env s call billId action) :
    ¬ SplitsVoided env s call := by
  obtain ⟨now, branchId, actor, request⟩ := call
  cases request with
  | splitOpenBill billId dto => exact fun hsplits => h billId (.split dto) rfl hsplits.1
  | _ => exact id

theorem step_keepsVoided_iff (hs : RegularBills env s) (call : HospitalityCall) :
    KeepsVoided env s (call.step env s) ↔ ¬ SplitsVoided env s call := by
  by_cases h : ∃ billId action, call.intervention? = some (billId, action) ∧ Intervenes env s call billId action
  · obtain ⟨billId, action, hcall, hintervenes⟩ := h
    exact (keepsVoided_intervened_iff hs (regular_savedIntervention hintervenes.2.2.1)
      (step_of_intervenes hcall hintervenes)).trans (not_splitsVoided_iff hcall hintervenes).symm
  · have hno : ∀ billId action, call.intervention? = some (billId, action) → ¬ Intervenes env s call billId action :=
      fun billId action hcall hintervenes => h ⟨billId, action, hcall, hintervenes⟩
    exact iff_of_true (KeepsVoided.of_sameBills (step_of_not_intervenes hno)) (not_splitsVoided_of_not hno)

theorem RegularBills.step (hs : RegularBills env s) (h : ¬ SplitsVoided env s call) :
    RegularBills env (call.step env s) := by
  by_cases hcalls : ∃ billId action, call.intervention? = some (billId, action) ∧ Intervenes env s call billId action
  · obtain ⟨billId, action, hcall, hintervenes⟩ := hcalls
    exact hs.intervened (regular_savedIntervention hintervenes.2.2.1) (step_of_intervenes hcall hintervenes)
      ((not_splitsVoided_iff hcall hintervenes).mp h).1
  · exact hs.of_sameBills (step_of_not_intervenes fun billId action hcall hintervenes =>
      hcalls ⟨billId, action, hcall, hintervenes⟩)

/-- **A voided bill stays voided** between any two states of a run, exactly when no call of the run splits a voided
bill or opens a bill that its table shows as voided. -/
theorem voided_stays_iff {s₀ : HospitalityStore} (hs₀ : RegularBills env s₀) (calls : List HospitalityCall) :
    (∀ n m, n ≤ m → KeepsVoided env (Run.after (HospitalityCall.step env) s₀ (calls.take n))
        (Run.after (HospitalityCall.step env) s₀ (calls.take m))) ↔
      Run.Along (HospitalityCall.step env) (fun s call => ¬ SplitsVoided env s call) s₀ calls :=
  Run.forall_rel_take_iff KeepsVoided.refl (fun _ _ _ => KeepsVoided.trans) (fun _ _ hs h => hs.step h)
    (fun _ call hs => step_keepsVoided_iff hs call) hs₀ calls

/-! ### Runs -/

def plainHospitalityRuntime : HospitalityRuntime := ⟨id, fun _ _ => rfl⟩

def noBills : HospitalityStore := ⟨∅, ∅, ∅⟩

theorem regular_noBills : RegularBills plainHospitalityRuntime noBills :=
  ⟨fun _ _ bill hbill => absurd hbill List.not_mem_nil, fun _ _ _ hvoided => by cases hvoided⟩

def billCall (request : HospitalityRequest) : HospitalityCall := ⟨0, 1, {}, request⟩

/-- A bill is split, voided, not reopened, and voided again. -/
def voidedCalls : List HospitalityCall :=
  [billCall (.splitOpenBill "B1" { tableId := "T1", lineIds := ["L1"], idempotencyKey := "K1" }),
    billCall (.voidSettledBill "B1" { confirmed := true, idempotencyKey := "K2" }),
    billCall (.reopenSettledBill "B1" { confirmed := true, idempotencyKey := "K3" }),
    billCall (.updateTableStatus "T1" { nextStatus := .closed, idempotencyKey := "K4" }),
    billCall (.voidSettledBill "B1" { confirmed := true, idempotencyKey := "K5" })]

theorem voided_stays_voidedCalls :
    let state (n : ℕ) := Run.after (HospitalityCall.step plainHospitalityRuntime) noBills (voidedCalls.take n)
    (state 2).lifecycleOf 1 "B1" = some "VOIDED" ∧
      ∀ n m, n ≤ m → KeepsVoided plainHospitalityRuntime (state n) (state m) :=
  ⟨by decide, (voided_stays_iff regular_noBills voidedCalls).mpr (by decide)⟩

/-- A voided bill is split: it is open again, in its row and on its table. -/
theorem split_reopens_voided :
    let state (n : ℕ) := Run.after (HospitalityCall.step plainHospitalityRuntime) noBills
      ([billCall (.voidSettledBill "B1" { tableId := "T1", confirmed := true, idempotencyKey := "K1" }),
        billCall (.splitOpenBill "B1" { lineIds := ["L1"], idempotencyKey := "K2" })].take n)
    (state 1).lifecycleOf 1 "B1" = some "VOIDED" ∧ (state 2).lifecycleOf 1 "B1" = some "OPEN" ∧
      shownStatus plainHospitalityRuntime ((state 1).billsOn 1 "T1") "B1" = some "VOIDED" ∧
      shownStatus plainHospitalityRuntime ((state 2).billsOn 1 "T1") "B1" = some "OPEN" := by
  decide

end SuuqBackend
