import SuuqBackend.Hospitality.HospitalityWorkflows
import SuuqBackend.Common.Laws.TextNumbers

/-!
# The bills of a table

The bills on a table are normalized whenever the table is shown and whenever one of them is merged.  Bills that the
workflows have written stay as they are under that (`RegularBill`), so that a merge changes the status of its own
bill only.

* `shownStatus_mergeActiveBill`: the status of each bill after a merge.
* `shownStatus_mergedBills`: the same for the one or two merges of an intervention.
-/

namespace SuuqBackend

section Keyed

variable {α κ : Type} [DecidableEq κ] (key : α → κ)

theorem find?_key_cons (y : α) (ys : List α) (k : κ) :
    (y :: ys).find? (fun z => key z = k) = if key y = k then some y else ys.find? fun z => key z = k := by
  rw [List.find?_cons]
  by_cases hk : key y = k
  · rw [decide_eq_true hk, if_pos hk]
  · rw [decide_eq_false hk, if_neg hk]

theorem replace_or_append_cons {x y : α} (hy : key y ≠ key x) (xs : List α) :
    (match (y :: xs).findIdx? fun y => key y = key x with
      | none => (y :: xs) ++ [x]
      | some i => (y :: xs).set i x) =
      y :: match xs.findIdx? fun y => key y = key x with
        | none => xs ++ [x]
        | some i => xs.set i x := by
  rw [List.findIdx?_cons, decide_eq_false hy]
  cases xs.findIdx? fun y => key y = key x <;> rfl

/-- The element under a key, after an element has replaced the first one under its key or has been appended. -/
theorem find?_replace_or_append (xs : List α) (x : α) (k : κ) :
    (match xs.findIdx? fun y => key y = key x with
      | none => xs ++ [x]
      | some i => xs.set i x).find? (fun y => key y = k) =
      if key x = k then some x else xs.find? fun y => key y = k := by
  induction xs with
  | nil => exact find?_key_cons key x [] k
  | cons y xs ih =>
    by_cases hy : key y = key x
    · rw [List.findIdx?_cons, decide_eq_true hy, if_pos rfl, find?_key_cons, hy]
      show (x :: xs).find? _ = _
      rw [find?_key_cons]
      split_ifs
      · rfl
      · rfl
    · rw [replace_or_append_cons key hy, find?_key_cons, find?_key_cons, ih]
      by_cases hyk : key y = k
      · have hk : key x ≠ k := fun hk => hy (hyk.trans hk.symm)
        rw [if_pos hyk, if_neg hk, if_pos hyk]
      · rw [if_neg hyk, if_neg hyk]

/-- A sum over the elements, after an element has replaced the first one under its key or has been appended. -/
theorem sum_replace_or_append {M : Type} [AddCommGroup M] (f : α → M) (xs : List α) (x : α) :
    ((match xs.findIdx? fun y => key y = key x with
      | none => xs ++ [x]
      | some i => xs.set i x).map f).sum =
      (xs.map f).sum - (xs.find? fun y => key y = key x).elim 0 f + f x := by
  induction xs with
  | nil => simp
  | cons y xs ih =>
    by_cases hy : key y = key x
    · rw [List.findIdx?_cons, decide_eq_true hy, if_pos rfl, find?_key_cons, if_pos hy]
      show ((x :: xs).map f).sum = _
      rw [List.map_cons, List.sum_cons, List.map_cons, List.sum_cons, Option.elim_some]
      abel
    · rw [replace_or_append_cons key hy, find?_key_cons, if_neg hy, List.map_cons, List.sum_cons, ih,
        List.map_cons, List.sum_cons]
      abel

end Keyed

namespace HospitalityWorkflows

variable (env : HospitalityRuntime)

def billStatuses : List String := ["OPEN", "REOPENED", "VOIDED"]

structure RegularBill (bill : ActiveBill) : Prop where
  trimmed : trim bill.billId = bill.billId
  status : bill.status ∈ billStatuses

def shownStatus (bills : List ActiveBill) (billId : String) : Option String :=
  ((normalizeActiveBills env bills).find? fun bill => bill.billId = billId).map (·.status)

theorem lifecycleStatus_mem (action : BillAction) : action.lifecycleStatus ∈ billStatuses := by
  cases action with
  | reopen dto => exact List.mem_cons_of_mem _ List.mem_cons_self
  | void dto => exact List.mem_cons_of_mem _ (List.mem_cons_of_mem _ List.mem_cons_self)
  | split dto => exact List.mem_cons_self

/-! ### Normalization -/

variable {status billId : String}

theorem trimUpper_of_mem (h : status ∈ billStatuses) : trimUpper env status = status := by
  have htrim : ∀ status ∈ billStatuses, trim status = status := by decide
  have hcapitals := List.all_eq_true.mp
    (show (billStatuses.all fun status => status.toList.all Char.isUpper) = true by decide)
  unfold trimUpper
  rw [htrim status h]
  exact env.capitals status (List.all_eq_true.mp (hcapitals status h))

variable {env} {bill nextBill : ActiveBill} {bills : List ActiveBill}

theorem status_normalizeActiveBill (h : RegularBill bill) : (normalizeActiveBill env bill).status = bill.status := by
  have hne : ∀ status ∈ billStatuses, status ≠ "" := by decide
  have hgiven : given (some bill.status) = some bill.status := by
    unfold given
    rw [Option.filter_some, if_pos (decide_eq_true (hne bill.status h.status))]
  show trimUpper env ((given (some bill.status)).getD "OPEN") = bill.status
  rw [hgiven]
  exact trimUpper_of_mem env h.status

theorem RegularBill.normalize (h : RegularBill bill) : RegularBill (normalizeActiveBill env bill) where
  trimmed := trim_trim bill.billId
  status := by
    rw [status_normalizeActiveBill h]
    exact h.status

section

variable (h : ∀ bill ∈ bills, RegularBill bill)

include h

theorem regular_normalizeActiveBills : ∀ bill ∈ normalizeActiveBills env bills, RegularBill bill := by
  intro bill hbill
  obtain ⟨bill', hbill', rfl⟩ := List.mem_map.mp hbill
  exact (h bill' hbill').normalize

theorem find?_normalizeActiveBills (billId : String) :
    (normalizeActiveBills env bills).find? (fun bill => bill.billId = billId) =
      (bills.find? fun bill => bill.billId = billId).map (normalizeActiveBill env) := by
  unfold normalizeActiveBills
  induction bills with
  | nil => rfl
  | cons bill bills ih =>
    have hid : (normalizeActiveBill env bill).billId = bill.billId := (h bill List.mem_cons_self).trimmed
    rw [List.map_cons, find?_key_cons ActiveBill.billId, find?_key_cons ActiveBill.billId, hid]
    split_ifs
    · rfl
    · exact ih fun bill hmem => h bill (List.mem_cons_of_mem _ hmem)

theorem shownStatus_eq (billId : String) :
    shownStatus env bills billId = (bills.find? fun bill => bill.billId = billId).map (·.status) := by
  unfold shownStatus
  rw [find?_normalizeActiveBills h, Option.map_map]
  refine Option.map_congr fun bill hbill => ?_
  exact status_normalizeActiveBill (h bill (List.mem_of_find?_eq_some hbill))

end

/-! ### Merges -/

theorem regular_mergeActiveBill (h : ∀ bill ∈ bills, RegularBill bill) (hnext : RegularBill nextBill) :
    ∀ bill ∈ mergeActiveBill env bills nextBill, RegularBill bill := by
  have hnormal : ∀ bill ∈ normalizeActiveBills env bills, RegularBill bill := regular_normalizeActiveBills h
  intro bill hbill
  unfold mergeActiveBill at hbill
  dsimp only at hbill
  split at hbill
  · rcases List.mem_append.mp hbill with hold | hnew
    · exact hnormal bill hold
    · rw [List.mem_singleton.mp hnew]
      exact hnext
  · rcases List.mem_or_eq_of_mem_set hbill with hold | rfl
    · exact hnormal bill hold
    · exact hnext

theorem shownStatus_mergeActiveBill (h : ∀ bill ∈ bills, RegularBill bill) (hnext : RegularBill nextBill)
    (billId : String) :
    shownStatus env (mergeActiveBill env bills nextBill) billId =
      if nextBill.billId = billId then some nextBill.status else shownStatus env bills billId := by
  rw [shownStatus_eq (regular_mergeActiveBill h hnext)]
  have hfind := find?_replace_or_append ActiveBill.billId (normalizeActiveBills env bills) nextBill billId
  refine (congrArg (Option.map (·.status)) hfind).trans ?_
  split_ifs
  · rfl
  · rfl

/-! ### Interventions -/

def mergedStatus (saved : HospitalityBillIntervention) (action : BillAction) (billId : String) : Option String :=
  match action with
  | .split _ => if splitBillId saved.billId saved.version = billId then some "OPEN"
    else if saved.billId = billId then some saved.lifecycleStatus else none
  | _ => if saved.billId = billId then some saved.lifecycleStatus else none

theorem mergedStatus_eq_some {saved : HospitalityBillIntervention} {action : BillAction}
    (h : mergedStatus saved action billId = some status) :
    (∃ dto, action = .split dto ∧ splitBillId saved.billId saved.version = billId ∧ status = "OPEN") ∨
      saved.billId = billId ∧ status = saved.lifecycleStatus := by
  have hown : (if saved.billId = billId then some saved.lifecycleStatus else none) = some status →
      saved.billId = billId ∧ status = saved.lifecycleStatus := by
    intro h
    obtain ⟨hid, hstatus⟩ := Option.ite_none_right_eq_some.mp h
    exact ⟨hid, (Option.some_inj.mp hstatus).symm⟩
  cases action with
  | reopen dto => exact .inr (hown h)
  | void dto => exact .inr (hown h)
  | split dto =>
    unfold mergedStatus at h
    dsimp only at h
    split_ifs at h with htarget hid
    · exact .inl ⟨dto, rfl, htarget, (Option.some_inj.mp h).symm⟩
    · exact .inr ⟨hid, (Option.some_inj.mp h).symm⟩

theorem trim_splitBillId (htrim : trim billId = billId) (hne : billId ≠ "") (version : ℕ) :
    trim (splitBillId billId version) = splitBillId billId version := by
  have hmiddle : trim (billId ++ "-SPLIT-") = billId ++ "-SPLIT-" :=
    trim_append htrim (by decide) hne (by decide)
  have hlead : billId ++ "-SPLIT-" ≠ "" := by
    rw [Ne, String.append_eq_empty_iff]
    exact fun h => hne h.1
  exact trim_append hmiddle (trim_toString version) hlead Nat.repr_ne_empty

variable {saved : HospitalityBillIntervention} {action : BillAction}

/-- A saved intervention has the id and the status that the workflows write. -/
structure RegularIntervention (saved : HospitalityBillIntervention) (action : BillAction) : Prop where
  trimmed : trim saved.billId = saved.billId
  nonempty : saved.billId ≠ ""
  status : saved.lifecycleStatus = action.lifecycleStatus

theorem RegularIntervention.regular_activeBill (h : RegularIntervention saved action) :
    RegularBill (activeBill saved) where
  trimmed := h.trimmed
  status := by
    show saved.lifecycleStatus ∈ billStatuses
    rw [h.status]
    exact lifecycleStatus_mem action

theorem RegularIntervention.regular_splitBill {dto : SplitOpenBillDto} (h : RegularIntervention saved (.split dto)) :
    RegularBill (splitBill env saved dto) where
  trimmed := trim_splitBillId h.trimmed h.nonempty saved.version
  status := List.mem_cons_self

theorem regular_mergedBills (hsaved : RegularIntervention saved action) (h : ∀ bill ∈ bills, RegularBill bill) :
    ∀ bill ∈ mergedBills env saved action bills, RegularBill bill := by
  have hmerged : ∀ bill ∈ mergeActiveBill env bills (activeBill saved), RegularBill bill :=
    regular_mergeActiveBill h hsaved.regular_activeBill
  cases action with
  | reopen dto => exact hmerged
  | void dto => exact hmerged
  | split dto => exact regular_mergeActiveBill hmerged hsaved.regular_splitBill

theorem shownStatus_mergedBills (hsaved : RegularIntervention saved action) (h : ∀ bill ∈ bills, RegularBill bill)
    (billId : String) :
    shownStatus env (mergedBills env saved action bills) billId =
      (mergedStatus saved action billId).or (shownStatus env bills billId) := by
  have hmerged : ∀ bill ∈ mergeActiveBill env bills (activeBill saved), RegularBill bill :=
    regular_mergeActiveBill h hsaved.regular_activeBill
  have hshown : shownStatus env (mergeActiveBill env bills (activeBill saved)) billId =
      if saved.billId = billId then some saved.lifecycleStatus else shownStatus env bills billId :=
    shownStatus_mergeActiveBill h hsaved.regular_activeBill billId
  have hone : shownStatus env (mergeActiveBill env bills (activeBill saved)) billId =
      (if saved.billId = billId then some saved.lifecycleStatus else none).or (shownStatus env bills billId) := by
    rw [hshown]
    split_ifs
    · rfl
    · rfl
  cases action with
  | reopen dto => exact hone
  | void dto => exact hone
  | split dto =>
    refine (shownStatus_mergeActiveBill hmerged hsaved.regular_splitBill billId).trans ?_
    unfold mergedStatus
    dsimp only
    rw [hone]
    show (if splitBillId saved.billId saved.version = billId then some "OPEN" else _) = _
    split_ifs
    · rfl
    · rfl
    · rfl

end HospitalityWorkflows

end SuuqBackend
