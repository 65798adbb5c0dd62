import SuuqBackend.Hospitality.Laws.VoidedBills

/-!
# Split bills

A split opens a bill on the table of its bill.  The request has one total, and `upsertBillIntervention` gives it to
both bills; the number of items of the bill is the one of the request too, and that of the new bill the number of
`lineIds`.  Nothing is subtracted from the bill that is split.

* `partsSum_split`: what a split does to these sums.
* `split_conserves_iff`: a split keeps both exactly when it shares out what it found (`SharesOut`).
* `split_doubles_bill`: a bill of 88.5 that is split without a total is owed twice.
-/

namespace SuuqBackend

open HospitalityWorkflows HospitalityStore

/-! ### The parts of a bill -/

/-- The bill itself, or one that splits have made of it: its id goes on with `-SPLIT-`. -/
def IsPart (billId id : String) : Prop := id = billId ∨ (billId ++ "-SPLIT-").toList <+: id.toList
deriving Decidable

variable (billId : String) (version : ℕ)

theorem isPart_splitBillId : IsPart billId (splitBillId billId version) := by
  refine .inr ⟨(toString version).toList, ?_⟩
  rw [← String.toList_append]
  rfl

theorem splitBillId_ne : splitBillId billId version ≠ billId := by
  intro heq
  have hlength := congrArg String.length heq
  have hid : splitBillId billId version = billId ++ "-SPLIT-" ++ toString version := rfl
  have hmiddle : "-SPLIT-".length = 7 := by decide
  rw [hid, String.length_append, String.length_append] at hlength
  omega

section Sums

variable {M : Type} [AddCommGroup M] (f : ActiveBill → M) (billId : String)

/-- What a bill contributes to a sum over the parts of `billId`. -/
def partAmount (bill : ActiveBill) : M := if IsPart billId bill.billId then f bill else 0

/-- The sum of `f` over the parts of a bill on the tables of a branch. -/
def partsSum (s : HospitalityStore) (branchId : ℕ) : M :=
  s.tableBoards.total fun key table =>
    if key.1 = branchId then (table.activeBills.map (partAmount f billId)).sum else 0

/-- `f` of the bill that the list has under an id. -/
def amountUnder (bills : List ActiveBill) : M := (bills.find? fun bill => bill.billId = billId).elim 0 f

end Sums

/-- What is owed over a bill and the bills that splits have made of it. -/
def owed (s : HospitalityStore) (branchId : ℕ) (billId : String) : ℚ :=
  partsSum ActiveBill.grandTotal billId s branchId

/-- The number of items of a bill and of the bills that splits have made of it. -/
def itemsOf (s : HospitalityStore) (branchId : ℕ) (billId : String) : ℤ :=
  partsSum (fun bill => (bill.itemCount : ℤ)) billId s branchId

/-- The bill keeps a part of what the table shows for it, and the new bill gets the rest, as for the total and as for
the number of items.  A bill that is already there under the id of the new one is replaced, and counts too. -/
structure SharesOut (bills : List ActiveBill) (saved : HospitalityBillIntervention) (dto : SplitOpenBillDto) :
    Prop where
  total : saved.total + saved.total =
    amountUnder ActiveBill.grandTotal saved.billId bills +
      amountUnder ActiveBill.grandTotal (splitBillId saved.billId saved.version) bills
  itemCount : (saved.itemCount : ℤ) + dto.lineIds.length =
    amountUnder (fun bill => (bill.itemCount : ℤ)) saved.billId bills +
      amountUnder (fun bill => (bill.itemCount : ℤ)) (splitBillId saved.billId saved.version) bills

theorem sharesOut_iff (bills : List ActiveBill) (saved : HospitalityBillIntervention) (dto : SplitOpenBillDto) :
    SharesOut bills saved dto ↔
      saved.total + saved.total =
        amountUnder ActiveBill.grandTotal saved.billId bills +
          amountUnder ActiveBill.grandTotal (splitBillId saved.billId saved.version) bills ∧
      (saved.itemCount : ℤ) + dto.lineIds.length =
        amountUnder (fun bill => (bill.itemCount : ℤ)) saved.billId bills +
          amountUnder (fun bill => (bill.itemCount : ℤ)) (splitBillId saved.billId saved.version) bills :=
  ⟨fun h => ⟨h.total, h.itemCount⟩, fun h => ⟨h.1, h.2⟩⟩

instance (bills : List ActiveBill) (saved : HospitalityBillIntervention) (dto : SplitOpenBillDto) :
    Decidable (SharesOut bills saved dto) :=
  decidable_of_iff _ (sharesOut_iff bills saved dto).symm

/-! ### Merges -/

section Merges

variable {M : Type} [AddCommGroup M] {f : ActiveBill → M} {env : HospitalityRuntime} {bills : List ActiveBill}
  (hf : ∀ bill, f (normalizeActiveBill env bill) = f bill)

include hf

theorem sum_mergeActiveBill (billId : String) (h : ∀ bill ∈ bills, RegularBill bill) (nextBill : ActiveBill) :
    ((mergeActiveBill env bills nextBill).map (partAmount f billId)).sum =
      (bills.map (partAmount f billId)).sum -
        (bills.find? fun bill => bill.billId = nextBill.billId).elim 0 (partAmount f billId) +
          partAmount f billId nextBill := by
  have hnormal : ∀ bill ∈ bills, partAmount f billId (normalizeActiveBill env bill) = partAmount f billId bill := by
    intro bill hbill
    have hid : (normalizeActiveBill env bill).billId = bill.billId := (h bill hbill).trimmed
    unfold partAmount
    rw [hid, hf]
  have hsum : ((normalizeActiveBills env bills).map (partAmount f billId)).sum =
      (bills.map (partAmount f billId)).sum := by
    unfold normalizeActiveBills
    rw [List.map_map]
    exact congrArg List.sum (List.map_congr_left hnormal)
  have hfound : ((normalizeActiveBills env bills).find? fun bill => bill.billId = nextBill.billId).elim 0
        (partAmount f billId) =
      (bills.find? fun bill => bill.billId = nextBill.billId).elim 0 (partAmount f billId) := by
    rw [find?_normalizeActiveBills h]
    cases hfind : bills.find? fun bill => bill.billId = nextBill.billId with
    | none => rfl
    | some bill => exact hnormal bill (List.mem_of_find?_eq_some hfind)
  have hmerged := sum_replace_or_append ActiveBill.billId (partAmount f billId) (normalizeActiveBills env bills)
    nextBill
  rw [hsum, hfound] at hmerged
  exact hmerged

omit hf in
theorem elim_find?_partAmount {billId id : String} (hpart : IsPart billId id) :
    (bills.find? fun bill => bill.billId = id).elim 0 (partAmount f billId) = amountUnder f id bills := by
  unfold amountUnder
  cases hfind : bills.find? fun bill => bill.billId = id with
  | none => rfl
  | some bill =>
    have hid : bill.billId = id := by simpa using List.find?_some hfind
    show partAmount f billId bill = f bill
    unfold partAmount
    rw [hid, if_pos hpart]

theorem sum_mergedBills_split {saved : HospitalityBillIntervention} {dto : SplitOpenBillDto}
    (hsaved : RegularIntervention saved (.split dto)) (h : ∀ bill ∈ bills, RegularBill bill) :
    ((mergedBills env saved (.split dto) bills).map (partAmount f saved.billId)).sum =
      (bills.map (partAmount f saved.billId)).sum -
        (amountUnder f saved.billId bills + amountUnder f (splitBillId saved.billId saved.version) bills) +
          (f (activeBill saved) + f (splitBill env saved dto)) := by
  have hown : IsPart saved.billId saved.billId := .inl rfl
  have hpart := isPart_splitBillId saved.billId saved.version
  have hmerged : ∀ bill ∈ mergeActiveBill env bills (activeBill saved), RegularBill bill :=
    regular_mergeActiveBill h hsaved.regular_activeBill
  -- the bill that is split is not the one under the id of the new bill
  have hkept : amountUnder f (splitBillId saved.billId saved.version) (mergeActiveBill env bills (activeBill saved)) =
      amountUnder f (splitBillId saved.billId saved.version) bills := by
    have hfind := find?_replace_or_append ActiveBill.billId (normalizeActiveBills env bills) (activeBill saved)
      (splitBillId saved.billId saved.version)
    have hne : (activeBill saved).billId ≠ splitBillId saved.billId saved.version :=
      (splitBillId_ne saved.billId saved.version).symm
    rw [if_neg hne, find?_normalizeActiveBills h] at hfind
    refine (congrArg (fun found => Option.elim found 0 f) hfind).trans ?_
    unfold amountUnder
    cases bills.find? fun bill => bill.billId = splitBillId saved.billId saved.version with
    | none => rfl
    | some bill => exact hf bill
  have hfirst := sum_mergeActiveBill hf saved.billId h (activeBill saved)
  have hsecond := sum_mergeActiveBill hf saved.billId hmerged (splitBill env saved dto)
  have hfound : ((bills.find? fun bill => bill.billId = (activeBill saved).billId).elim 0
      (partAmount f saved.billId)) = amountUnder f saved.billId bills := elim_find?_partAmount hown
  have hfound' : ((mergeActiveBill env bills (activeBill saved)).find? fun bill =>
      bill.billId = (splitBill env saved dto).billId).elim 0 (partAmount f saved.billId) =
        amountUnder f (splitBillId saved.billId saved.version) bills :=
    (elim_find?_partAmount hpart).trans hkept
  have hactive : partAmount f saved.billId (activeBill saved) = f (activeBill saved) := if_pos hown
  have hsplit : partAmount f saved.billId (splitBill env saved dto) = f (splitBill env saved dto) := if_pos hpart
  rw [hfound, hactive] at hfirst
  rw [hfound', hsplit, hfirst] at hsecond
  show ((mergeActiveBill env (mergeActiveBill env bills (activeBill saved)) (splitBill env saved dto)).map
    (partAmount f saved.billId)).sum = _
  rw [hsecond]
  abel

end Merges

/-! ### Calls -/

/-- The bills on the tables are as the workflows write them. -/
def RegularBoards (s : HospitalityStore) : Prop :=
  ∀ branchId tableId, ∀ bill ∈ s.billsOn branchId tableId, RegularBill bill

section Calls

variable {env : HospitalityRuntime} {s s' : HospitalityStore} {branchId : ℕ} {saved : HospitalityBillIntervention}
  {action : BillAction}

theorem RegularBoards.of_sameBills (hs : RegularBoards s) (h : SameBills s s') : RegularBoards s' := by
  intro branchId tableId
  rw [h.billsOn]
  exact hs branchId tableId

theorem RegularBoards.intervened (hs : RegularBoards s) (hsaved : RegularIntervention saved action)
    (h : Intervened env branchId saved action s s') : RegularBoards s' := by
  intro branchId' tableId
  rw [h.billsOn]
  split_ifs
  · exact regular_mergedBills hsaved (hs branchId' tableId)
  · exact hs branchId' tableId

theorem RegularBoards.step (hs : RegularBoards s) (call : HospitalityCall) : RegularBoards (call.step env s) := by
  by_cases hcalls : ∃ billId action, call.intervention? = some (billId, action) ∧ Intervenes env s call billId action
  · obtain ⟨billId, action, hcall, hintervenes⟩ := hcalls
    exact hs.intervened (regular_savedIntervention hintervenes.2.2.1) (step_of_intervenes hcall hintervenes)
  · exact hs.of_sameBills (step_of_not_intervenes fun billId action hcall hintervenes =>
      hcalls ⟨billId, action, hcall, hintervenes⟩)

variable {M : Type} [AddCommGroup M] {f : ActiveBill → M}

theorem elim_tableBoards (f : ActiveBill → M) (billId : String) (s : HospitalityStore) (branchId : ℕ)
    (key : ℕ × String) :
    ((s.tableBoards.lookup key).elim 0 fun table =>
      if key.1 = branchId then (table.activeBills.map (partAmount f billId)).sum else 0) =
      if key.1 = branchId then ((s.billsOn key.1 key.2).map (partAmount f billId)).sum else 0 := by
  unfold billsOn
  cases s.tableBoards.lookup key with
  | none => split_ifs <;> rfl
  | some table => rfl

theorem partsSum_congr (h : ∀ branchId' tableId, s'.billsOn branchId' tableId = s.billsOn branchId' tableId)
    (billId : String) : partsSum f billId s' branchId = partsSum f billId s branchId := by
  unfold partsSum
  have hold := Table.total_eq_sum (fun (key : ℕ × String) (table : HospitalityTableBoard) =>
    if key.1 = branchId then (table.activeBills.map (partAmount f billId)).sum else 0)
    (@Finset.subset_union_left _ _ s.tableBoards.keys s'.tableBoards.keys)
  have hnew := Table.total_eq_sum (fun (key : ℕ × String) (table : HospitalityTableBoard) =>
    if key.1 = branchId then (table.activeBills.map (partAmount f billId)).sum else 0)
    (@Finset.subset_union_right _ _ s.tableBoards.keys s'.tableBoards.keys)
  rw [hold, hnew]
  refine Finset.sum_congr rfl fun key _ => ?_
  rw [elim_tableBoards, elim_tableBoards, h]

theorem partsSum_split (hf : ∀ bill, f (normalizeActiveBill env bill) = f bill) {dto : SplitOpenBillDto}
    (hs : RegularBoards s) (hsaved : RegularIntervention saved (.split dto))
    (h : Intervened env branchId saved (.split dto) s s') :
    partsSum f saved.billId s' branchId = partsSum f saved.billId s branchId +
      (tableOf env saved).elim 0 fun tableId =>
        f (activeBill saved) + f (splitBill env saved dto) -
          (amountUnder f saved.billId (s.billsOn branchId tableId) +
            amountUnder f (splitBillId saved.billId saved.version) (s.billsOn branchId tableId)) := by
  cases htable : tableOf env saved with
  | none =>
    have hboards : ∀ branchId' tableId, s'.billsOn branchId' tableId = s.billsOn branchId' tableId := by
      intro branchId' tableId
      rw [h.billsOn, htable, if_neg (fun hboth => by cases hboth.2)]
    rw [partsSum_congr hboards, Option.elim_none, add_zero]
  | some tableId =>
    have hother : ∀ key ≠ (branchId, tableId),
        ((s'.tableBoards.lookup key).elim 0 fun table =>
          if key.1 = branchId then (table.activeBills.map (partAmount f saved.billId)).sum else 0) =
        (s.tableBoards.lookup key).elim 0 fun table =>
          if key.1 = branchId then (table.activeBills.map (partAmount f saved.billId)).sum else 0 := by
      intro key hkey
      have hne : ¬ (branchId = key.1 ∧ tableOf env saved = some key.2) := by
        rintro ⟨rfl, hsome⟩
        rw [htable, Option.some_inj] at hsome
        exact hkey (Prod.ext rfl hsome.symm)
      rw [elim_tableBoards, elim_tableBoards, h.billsOn, if_neg hne]
    have htotal := Table.total_of_forall_ne hother
    have hsum := sum_mergedBills_split hf hsaved (hs branchId tableId)
    rw [elim_tableBoards, elim_tableBoards, if_pos rfl, if_pos rfl, h.billsOn, if_pos ⟨rfl, htable⟩, hsum] at htotal
    unfold partsSum
    rw [htotal, Option.elim_some]
    abel

theorem partsSum_split_eq_iff (hf : ∀ bill, f (normalizeActiveBill env bill) = f bill) {dto : SplitOpenBillDto}
    (hs : RegularBoards s) (hsaved : RegularIntervention saved (.split dto))
    (h : Intervened env branchId saved (.split dto) s s') :
    partsSum f saved.billId s' branchId = partsSum f saved.billId s branchId ↔
      ∀ tableId ∈ tableOf env saved, f (activeBill saved) + f (splitBill env saved dto) =
        amountUnder f saved.billId (s.billsOn branchId tableId) +
          amountUnder f (splitBillId saved.billId saved.version) (s.billsOn branchId tableId) := by
  rw [partsSum_split hf hs hsaved h, add_eq_left]
  cases tableOf env saved with
  | none => exact iff_of_true rfl (fun tableId htable => by cases htable)
  | some tableId =>
    rw [Option.elim_some, sub_eq_zero]
    refine ⟨fun heq tableId' htable => ?_, fun hall => hall tableId rfl⟩
    rw [← Option.some_inj.mp htable]
    exact heq

end Calls

theorem grandTotal_splitBill (env : HospitalityRuntime) (now : ℤ) (branchId : ℕ) (billId : String)
    (dto : SplitOpenBillDto) (actor : ActorSummary) (s : HospitalityStore) :
    let saved := savedIntervention env now branchId billId (.split dto) actor s
    (splitBill env saved dto).grandTotal = saved.total := by
  intro saved
  show dto.total.getD saved.total = saved.total
  cases htotal : dto.total with
  | none => rfl
  | some total =>
    have hsaved : saved.total = (dto.total.or _).getD 0 := rfl
    rw [hsaved, htotal]
    rfl

/-- **When a split loses no money and no item**: for every split, in every state that calls lead to, what is owed
over the bill and its parts and the number of their items stay as they were if and only if the split is refused or
repeated, or the bill is at no table, or the split shares out what the table of the bill showed. -/
theorem split_conserves_iff (env : HospitalityRuntime) {s₀ : HospitalityStore} (hs₀ : RegularBoards s₀)
    (calls : List HospitalityCall) (now : ℤ) (branchId : ℕ) (actor : ActorSummary) (billId : String)
    (dto : SplitOpenBillDto) :
    let s := Run.after (HospitalityCall.step env) s₀ calls
    let call : HospitalityCall := ⟨now, branchId, actor, .splitOpenBill billId dto⟩
    let saved := savedIntervention env now branchId billId (.split dto) actor s
    let s' := call.step env s
    (owed s' branchId (trim billId) = owed s branchId (trim billId) ∧
      itemsOf s' branchId (trim billId) = itemsOf s branchId (trim billId)) ↔
      (Intervenes env s call billId (.split dto) →
        ∀ tableId ∈ tableOf env saved, SharesOut (s.billsOn branchId tableId) saved dto) := by
  intro s call saved s'
  have hstep : ∀ s call, RegularBoards s → RegularBoards (HospitalityCall.step env s call) :=
    fun s call hs => hs.step call
  have hs : RegularBoards s := Run.after_invariant hstep hs₀ calls
  by_cases hintervenes : Intervenes env s call billId (.split dto)
  · have hintervened : Intervened env branchId saved (.split dto) s s' := step_of_intervenes rfl hintervenes
    have hsaved : RegularIntervention saved (.split dto) := regular_savedIntervention hintervenes.2.2.1
    have htotals := partsSum_split_eq_iff (f := ActiveBill.grandTotal) (fun _ => rfl) hs hsaved hintervened
    have hitems := partsSum_split_eq_iff (f := fun bill => (bill.itemCount : ℤ)) (fun _ => rfl) hs hsaved hintervened
    rw [grandTotal_splitBill] at htotals
    have howed : owed s' branchId (trim billId) = owed s branchId (trim billId) ↔ _ := htotals
    have hcount : itemsOf s' branchId (trim billId) = itemsOf s branchId (trim billId) ↔ _ := hitems
    rw [howed, hcount, imp_iff_right hintervenes]
    constructor
    · rintro ⟨htotal, hcount⟩ tableId htable
      exact ⟨htotal tableId htable, hcount tableId htable⟩
    · intro hshares
      exact ⟨fun tableId htable => (hshares tableId htable).total,
        fun tableId htable => (hshares tableId htable).itemCount⟩
  · have hsame : SameBills s s' := step_of_not_intervenes fun billId' action hcall hdoes => by
      cases hcall
      exact hintervenes hdoes
    refine iff_of_true ⟨?_, ?_⟩ fun h => absurd h hintervenes
    · exact partsSum_congr hsame.billsOn (trim billId)
    · exact partsSum_congr hsame.billsOn (trim billId)

/-! ### Runs -/

theorem regularBoards_noBills : RegularBoards noBills := fun _ _ _ hbill => absurd hbill List.not_mem_nil

/-- A bill of 88.5 with two items is reopened on its table. -/
def openBillCalls : List HospitalityCall :=
  [billCall (.reopenSettledBill "check-4"
    { tableId := some "T-7", itemCount := some 2, total := some (177 / 2), confirmed := true,
      idempotencyKey := "open-4" })]

/-- One of the two items is moved to a new bill, with half of the total. -/
theorem split_conserves_half :
    let s := Run.after (HospitalityCall.step plainHospitalityRuntime) noBills openBillCalls
    let dto : SplitOpenBillDto :=
      { itemCount := some 1, total := some (177 / 4), lineIds := ["line-1"], idempotencyKey := "split-1" }
    let s' := HospitalityCall.step plainHospitalityRuntime s (billCall (.splitOpenBill "check-4" dto))
    owed s 1 "check-4" = 177 / 2 ∧ (s'.billsOn 1 "T-7").length = 2 ∧
      owed s' 1 (trim "check-4") = owed s 1 (trim "check-4") ∧
      itemsOf s' 1 (trim "check-4") = itemsOf s 1 (trim "check-4") := by
  intro s dto s'
  have hconserves := split_conserves_iff plainHospitalityRuntime regularBoards_noBills openBillCalls 0 1 {} "check-4"
    dto
  refine ⟨by decide +kernel, by decide +kernel, hconserves.mpr fun _ => ?_⟩
  decide +kernel

/-- The same bill is split without a total: the bill and the new one are owed in full, and one of the two items is on
both. -/
theorem split_doubles_bill :
    let s := Run.after (HospitalityCall.step plainHospitalityRuntime) noBills openBillCalls
    let dto : SplitOpenBillDto := { lineIds := ["line-1"], idempotencyKey := "split-1" }
    let s' := HospitalityCall.step plainHospitalityRuntime s (billCall (.splitOpenBill "check-4" dto))
    (s.billsOn 1 "T-7").map (fun bill => (bill.billId, bill.grandTotal, bill.itemCount)) = [("check-4", 177 / 2, 2)] ∧
      (s'.billsOn 1 "T-7").map (fun bill => (bill.billId, bill.grandTotal, bill.itemCount)) =
        [("check-4", 177 / 2, 2), ("check-4-SPLIT-2", 177 / 2, 1)] ∧
      owed s 1 "check-4" = 177 / 2 ∧ owed s' 1 "check-4" = 177 ∧
      itemsOf s 1 "check-4" = 2 ∧ itemsOf s' 1 "check-4" = 3 := by
  decide +kernel

end SuuqBackend
