import SuuqBackend.Auth.Laws.BranchGates

/-!
# Managers and other branches

What a manager of a branch does with its staff and shifts, and what there is at the other branches: their assignments,
their shifts with who works in them, and the accounts of who has an assignment there.

* `othersUnchanged_assign` and the lemmas after it: most calls leave all of this as it was.
* `deleteStaffAccount_iff`, `changeStaffPassword_iff`, `removeStaff_iff`: the three that may not, and when they do.
* `managers_confined_iff`: whole runs.
-/

namespace SuuqBackend

open Proc BranchStaffService BranchShiftService SerialTable

/-! ### The other branches -/

namespace AccessStore

def otherAssignment (S : AccessStore) (branchId id : ℕ) : Option StaffAssignment :=
  (S.staffAssignments.find id).filter fun row => row.branchId ≠ branchId

def otherShift (S : AccessStore) (branchId id : ℕ) : Option BranchShift :=
  (S.shifts.find id).filter fun row => row.branchId ≠ branchId

def otherShiftStaff (S : AccessStore) (branchId id : ℕ) : Option BranchShiftStaff :=
  (S.shiftStaff.find id).filter fun row => (S.otherShift branchId row.shiftId).isSome

def StaffElsewhere (S : AccessStore) (branchId userId : ℕ) : Prop :=
  ∃ id row, S.otherAssignment branchId id = some row ∧ row.userId = userId

def passwordOf (S : AccessStore) (userId : ℕ) : Option (Option String) :=
  (S.users.find userId).map fun user => user.password

structure OthersUnchanged (branchId : ℕ) (S S' : AccessStore) : Prop where
  assignments : ∀ id, S'.otherAssignment branchId id = S.otherAssignment branchId id
  shifts : ∀ id, S'.otherShift branchId id = S.otherShift branchId id
  shiftStaff : ∀ id, S'.otherShiftStaff branchId id = S.otherShiftStaff branchId id
  accounts : ∀ userId, S.StaffElsewhere branchId userId → S'.passwordOf userId = S.passwordOf userId

variable {branchId : ℕ} {S S' S'' : AccessStore}

namespace OthersUnchanged

theorem refl (branchId : ℕ) (S : AccessStore) : OthersUnchanged branchId S S :=
  ⟨fun _ => rfl, fun _ => rfl, fun _ => rfl, fun _ _ => rfl⟩

section

variable (h : OthersUnchanged branchId S S')

include h

theorem staffElsewhere_iff (userId : ℕ) : S'.StaffElsewhere branchId userId ↔ S.StaffElsewhere branchId userId := by
  unfold StaffElsewhere
  simp only [h.assignments]

theorem symm : OthersUnchanged branchId S' S where
  assignments id := (h.assignments id).symm
  shifts id := (h.shifts id).symm
  shiftStaff id := (h.shiftStaff id).symm
  accounts userId helsewhere := (h.accounts userId ((h.staffElsewhere_iff userId).mp helsewhere)).symm

theorem trans (h' : OthersUnchanged branchId S' S'') : OthersUnchanged branchId S S'' where
  assignments id := (h'.assignments id).trans (h.assignments id)
  shifts id := (h'.shifts id).trans (h.shifts id)
  shiftStaff id := (h'.shiftStaff id).trans (h.shiftStaff id)
  accounts userId helsewhere :=
    (h'.accounts userId ((h.staffElsewhere_iff userId).mpr helsewhere)).trans (h.accounts userId helsewhere)

end

end OthersUnchanged

/-! ### Writes -/

theorem othersUnchanged_assignments {rows : SerialTable StaffAssignment}
    (h : ∀ id, (rows.find id).filter (fun row => row.branchId ≠ branchId) = S.otherAssignment branchId id) :
    OthersUnchanged branchId S { S with staffAssignments := rows } :=
  ⟨h, fun _ => rfl, fun _ => rfl, fun _ _ => rfl⟩

theorem othersUnchanged_shifts {rows : SerialTable BranchShift}
    (h : ∀ id, (rows.find id).filter (fun row => row.branchId ≠ branchId) = S.otherShift branchId id) :
    OthersUnchanged branchId S { S with shifts := rows } := by
  refine ⟨fun _ => rfl, h, fun id => ?_, fun _ _ => rfl⟩
  have hshift : ({ S with shifts := rows } : AccessStore).otherShift branchId = S.otherShift branchId := funext h
  unfold otherShiftStaff
  rw [hshift]

theorem othersUnchanged_shiftStaff {rows : SerialTable BranchShiftStaff}
    (h : ∀ id, (rows.find id).filter (fun row => (S.otherShift branchId row.shiftId).isSome) =
      S.otherShiftStaff branchId id) : OthersUnchanged branchId S { S with shiftStaff := rows } :=
  ⟨fun _ => rfl, fun _ => rfl, h, fun _ _ => rfl⟩

theorem othersUnchanged_addAssignment {row : StaffAssignment} (hrow : row.branchId = branchId) :
    OthersUnchanged branchId S { S with staffAssignments := S.staffAssignments.add row } :=
  othersUnchanged_assignments fun id =>
    filter_find_add (p := fun row : StaffAssignment => row.branchId ≠ branchId)
      (decide_eq_false (not_not_intro hrow)) id

theorem othersUnchanged_saveAssignment {id : ℕ} {old row : StaffAssignment}
    (hfind : S.staffAssignments.find id = some old) (hold : old.branchId = branchId) (hrow : row.branchId = branchId) :
    OthersUnchanged branchId S { S with staffAssignments := S.staffAssignments.set id row } :=
  othersUnchanged_assignments fun id' => filter_find_set hfind
    (decide_eq_false (not_not_intro hold)) (decide_eq_false (not_not_intro hrow)) id'

end AccessStore

/-! ### The gate -/

theorem BranchStaffService.snd_run_gated {α : Type} (actor : StaffActor) (branchId : ℕ) (p : AccessProc α)
    (S : AccessStore) :
    (run (assertCanManageBranchStaff actor branchId >>= fun _ => p) S).2 =
      if canManageBranchStaff S actor branchId then (run p S).2 else S := by
  have hgate := run_assertCanManageBranchStaff actor branchId S
  split_ifs with hcan
  · rw [if_pos hcan] at hgate
    rw [run_bind_of_ok hgate]
  · rw [if_neg hcan] at hgate
    rw [run_bind_of_error hgate]

open AccessStore

variable {branchId : ℕ} {S : AccessStore}

theorem othersUnchanged_gated {α : Type} {p : AccessProc α} (h : OthersUnchanged branchId S (run p S).2)
    (actor : StaffActor) :
    OthersUnchanged branchId S (run (assertCanManageBranchStaff actor branchId >>= fun _ => p) S).2 := by
  rw [snd_run_gated]
  split_ifs
  · exact h
  · exact .refl branchId S

/-! ### Assignments -/

theorem AccessStore.assignmentOf_eq_some {userId id : ℕ} {row : StaffAssignment}
    (h : S.assignmentOf branchId userId = some (id, row)) :
    S.staffAssignments.find id = some row ∧ row.branchId = branchId ∧ row.userId = userId := by
  obtain ⟨hfind, hmeets⟩ := find_of_first h
  exact ⟨hfind, of_decide_eq_true hmeets⟩

theorem othersUnchanged_upsertAssignment (branchId userId : ℕ) (role : BranchStaffRole) (permissions : List String)
    (assignedSurfaces : Option (List String)) (capabilities : List String) (S : AccessStore) :
    OthersUnchanged branchId S
      (run (upsertAssignment branchId userId role permissions assignedSurfaces capabilities) S).2 := by
  unfold upsertAssignment
  rw [run_read_bind]
  cases hexisting : S.assignmentOf branchId userId with
  | some found =>
    obtain ⟨hfind, hbranch, -⟩ := assignmentOf_eq_some hexisting
    exact othersUnchanged_saveAssignment hfind hbranch rfl
  | none =>
    dsimp only
    unfold insertAssignment
    rw [bind_assoc, run_read_bind, bind_assoc, run_throwIf_bind]
    split_ifs
    · exact .refl branchId S
    · exact othersUnchanged_addAssignment rfl

theorem othersUnchanged_assign (branchId : ℕ) (dto : AssignBranchStaffDto) (S : AccessStore) :
    OthersUnchanged branchId S (run (assign branchId dto) S).2 :=
  othersUnchanged_upsertAssignment ..

theorem othersUnchanged_saveInvite (branchId : ℕ) (invite : StaffInvite) (S : AccessStore) :
    OthersUnchanged branchId S (run (saveInvite invite) S).2 := by
  unfold saveInvite
  rw [run_write]
  split <;> exact ⟨fun _ => rfl, fun _ => rfl, fun _ => rfl, fun _ _ => rfl⟩

theorem othersUnchanged_invite (env : StaffRuntime) (branchId : ℕ) (dto : InviteBranchStaffDto) (actorId : Option ℕ)
    (S : AccessStore) : OthersUnchanged branchId S (run (invite env branchId dto actorId) S).2 := by
  unfold invite
  rw [run_read_bind, run_throwIf_bind]
  split_ifs
  · dsimp only
    split
    next userId _ _ =>
      have hassigned := othersUnchanged_upsertAssignment branchId userId dto.role
        (normalizePermissions (dto.permissions.getD [])) none [] S
      rcases hrun : run (upsertAssignment branchId userId dto.role
        (normalizePermissions (dto.permissions.getD [])) none []) S with ⟨e | row, S'⟩
      · rw [run_bind_of_error hrun]
        rwa [hrun] at hassigned
      · rw [run_bind_of_ok hrun]
        rw [hrun] at hassigned
        exact hassigned.trans (othersUnchanged_saveInvite branchId _ S')
    next => exact othersUnchanged_saveInvite branchId _ S
  · exact .refl branchId S

theorem othersUnchanged_unassign (branchId userId : ℕ) (S : AccessStore) :
    OthersUnchanged branchId S (run (unassign branchId userId) S).2 := by
  unfold unassign
  rw [run_read_bind]
  split
  next id row hfirst =>
    obtain ⟨hfind, hmeets⟩ := find_of_first hfirst
    simp only [Bool.and_eq_true, decide_eq_true_eq] at hmeets
    exact othersUnchanged_saveAssignment hfind hmeets.1.1 hmeets.1.1
  next => exact .refl branchId S

theorem run_loadAssignment_bind {α : Type} (branchId userId : ℕ) (e : AuthFailure)
    (p : ℕ × StaffAssignment → AccessProc α) (S : AccessStore) :
    run (loadAssignment branchId userId e >>= p) S = match S.assignmentOf branchId userId with
      | some found => run (p found) S
      | none => (.error e, S) := by
  unfold loadAssignment
  rw [bind_assoc, run_read_bind]
  cases S.assignmentOf branchId userId <;> rfl

theorem othersUnchanged_updateAssignment (env : StaffRuntime) (branchId userId : ℕ) (dto : UpdateAssignmentDto)
    (actor : StaffActor) (S : AccessStore) :
    OthersUnchanged branchId S (run (updateAssignment env branchId userId dto actor) S).2 := by
  refine othersUnchanged_gated ?_ actor
  rw [run_loadAssignment_bind]
  cases hfound : S.assignmentOf branchId userId with
  | none => exact .refl branchId S
  | some found =>
    obtain ⟨hfind, hbranch, -⟩ := assignmentOf_eq_some hfound
    exact othersUnchanged_saveAssignment hfind hbranch hbranch

/-! ### Shifts -/

namespace BranchShiftService

theorem othersUnchanged_create (branchId : ℕ) (dto : CreateBranchShiftDto) (actor : StaffActor) (S : AccessStore) :
    OthersUnchanged branchId S (run (create branchId dto actor) S).2 := by
  refine othersUnchanged_gated ?_ actor
  rw [run_read_bind, run_throwIf_bind]
  split_ifs
  · exact .refl branchId S
  · exact othersUnchanged_shifts fun id =>
      filter_find_add (p := fun row : BranchShift => row.branchId ≠ branchId) (decide_eq_false (not_not_intro rfl)) id

theorem otherShift_eq_none {shiftId : ℕ} {shift : BranchShift} (hfind : S.shifts.find shiftId = some shift)
    (hbranch : shift.branchId = branchId) : S.otherShift branchId shiftId = none := by
  unfold otherShift
  rw [hfind, Option.filter_some, if_neg (by rw [decide_eq_true_iff]; exact not_not_intro hbranch)]

theorem othersUnchanged_loadShift {α : Type} {shiftId : ℕ} {p : BranchShift → AccessProc α} (actor : StaffActor)
    (h : ∀ shift, S.shifts.find shiftId = some shift → shift.branchId = branchId →
      OthersUnchanged branchId S (run (p shift) S).2) :
    OthersUnchanged branchId S
      (run (assertCanManageBranchStaff actor branchId >>= fun _ => loadShift branchId shiftId >>= p) S).2 := by
  refine othersUnchanged_gated ?_ actor
  unfold loadShift
  rw [bind_assoc, run_read_bind]
  cases hfound : (S.shifts.find shiftId).filter fun row => row.branchId = branchId with
  | none => exact .refl branchId S
  | some shift =>
    obtain ⟨hfind, hbranch⟩ := Option.filter_eq_some_iff.mp hfound
    exact h shift hfind (of_decide_eq_true hbranch)

theorem othersUnchanged_update (branchId shiftId : ℕ) (dto : UpdateBranchShiftDto) (actor : StaffActor)
    (S : AccessStore) : OthersUnchanged branchId S (run (update branchId shiftId dto actor) S).2 := by
  refine othersUnchanged_loadShift actor fun shift hfind hbranch => ?_
  exact othersUnchanged_shifts fun id => filter_find_set hfind (decide_eq_false (not_not_intro hbranch))
    (decide_eq_false (not_not_intro hbranch)) id

theorem othersUnchanged_remove (branchId shiftId : ℕ) (actor : StaffActor) (S : AccessStore) :
    OthersUnchanged branchId S (run (remove branchId shiftId actor) S).2 := by
  refine othersUnchanged_loadShift actor fun shift hfind hbranch => ?_
  -- who works in the shift is not in sight either
  have hstaff : OthersUnchanged branchId S
      { S with shiftStaff := S.shiftStaff.filter fun row => row.shiftId ≠ shiftId } := by
    refine othersUnchanged_shiftStaff fun id => ?_
    rw [find_filter, Option.filter_filter]
    congr 1
    funext row
    by_cases hshift : row.shiftId = shiftId
    · rw [hshift, otherShift_eq_none hfind hbranch, Option.isSome_none, Bool.and_false]
    · rw [decide_eq_true hshift, Bool.true_and]
  refine hstaff.trans (othersUnchanged_shifts fun id => ?_)
  exact filter_find_remove hfind (decide_eq_false (not_not_intro hbranch)) id

theorem othersUnchanged_assignStaff (branchId shiftId userId : ℕ) (actor : StaffActor) (S : AccessStore) :
    OthersUnchanged branchId S (run (assignStaff branchId shiftId userId actor) S).2 := by
  refine othersUnchanged_loadShift actor fun shift hfind hbranch => ?_
  rw [run_read_bind, run_throwIf_bind]
  split_ifs
  · exact .refl branchId S
  · rw [run_throwIf_bind]
    split_ifs
    · exact .refl branchId S
    · refine othersUnchanged_shiftStaff fun id => filter_find_add ?_ id
      rw [otherShift_eq_none hfind hbranch]
      rfl

/-- **`removeStaff`** finds the assignment whatever the branch of its shift is. -/
theorem removeStaff_iff (branchId shiftId userId : ℕ) (actor : StaffActor) (S : AccessStore) :
    OthersUnchanged branchId S (run (removeStaff branchId shiftId userId actor) S).2 ↔
      (canManageBranchStaff S actor branchId = true → ∀ id row, shiftStaffOf S shiftId userId = some (id, row) →
        S.otherShift branchId shiftId = none) := by
  unfold removeStaff
  rw [snd_run_gated]
  split_ifs with hcan
  · rw [run_read_bind]
    cases hfirst : shiftStaffOf S shiftId userId with
    | none => exact iff_of_true (.refl branchId S) fun _ _ _ h => (by cases h)
    | some found =>
      obtain ⟨id, row⟩ := found
      obtain ⟨hfind, hmeets⟩ := find_of_first hfirst
      have hshift : row.shiftId = shiftId := of_decide_eq_true (Bool.and_eq_true _ _ ▸ hmeets).1
      have hseen : S.otherShiftStaff branchId id =
          if (S.otherShift branchId shiftId).isSome then some row else none := by
        unfold otherShiftStaff
        rw [hfind, Option.filter_some, hshift]
      constructor
      · intro h _ _ _ _
        have hgone : ((S.shiftStaff.remove id).find id).filter _ = _ := (h.shiftStaff id).trans hseen
        rw [find_remove_self, Option.filter_none] at hgone
        split_ifs at hgone with hsome
        exact Option.not_isSome_iff_eq_none.mp hsome
      · intro h
        refine othersUnchanged_shiftStaff fun id' => filter_find_remove hfind ?_ id'
        rw [hshift, h hcan id row rfl]
        rfl
  · exact iff_of_true (.refl branchId S) fun h => absurd h hcan

end BranchShiftService

/-! ### Accounts -/

theorem othersUnchanged_removeUser_iff {userId id : ℕ} {row : StaffAssignment}
    (hfind : S.staffAssignments.find id = some row) (hbranch : row.branchId = branchId) :
    OthersUnchanged branchId S (run (removeUser userId) { S with staffAssignments := S.staffAssignments.remove id }).2 ↔
      ¬ S.StaffElsewhere branchId userId ∧
        ∀ id' row', S.otherShiftStaff branchId id' = some row' → row'.userId ≠ userId := by
  let rest : AccessStore := { S with staffAssignments := S.staffAssignments.remove id }
  have hrest : OthersUnchanged branchId S rest := othersUnchanged_assignments fun id' =>
    filter_find_remove hfind (decide_eq_false (not_not_intro hbranch)) id'
  have hassignment : ∀ id', (run (removeUser userId) rest).2.otherAssignment branchId id' =
      (S.otherAssignment branchId id').filter fun row' => row'.userId ≠ userId := by
    intro id'
    rw [← hrest.assignments id']
    show ((rest.staffAssignments.filter _).find id').filter _ = ((rest.staffAssignments.find id').filter _).filter _
    rw [find_filter, Option.filter_filter, Option.filter_filter]
    simp only [Bool.and_comm]
  have hshiftStaff : ∀ id', (run (removeUser userId) rest).2.otherShiftStaff branchId id' =
      (S.otherShiftStaff branchId id').filter fun row' => row'.userId ≠ userId := by
    intro id'
    show ((S.shiftStaff.filter _).find id').filter (fun row' => (S.otherShift branchId row'.shiftId).isSome) =
      ((S.shiftStaff.find id').filter _).filter _
    rw [find_filter, Option.filter_filter, Option.filter_filter]
    simp only [Bool.and_comm]
  constructor
  · intro h
    refine ⟨?_, ?_⟩
    · rintro ⟨id', row', hother, hrow'⟩
      have hsame := (h.assignments id').symm.trans (hassignment id')
      rw [hother, Option.filter_some, if_neg (by rw [decide_eq_true_iff]; exact not_not_intro hrow')] at hsame
      cases hsame
    · intro id' row' hother hrow'
      have hsame := (h.shiftStaff id').symm.trans (hshiftStaff id')
      rw [hother, Option.filter_some, if_neg (by rw [decide_eq_true_iff]; exact not_not_intro hrow')] at hsame
      cases hsame
  · rintro ⟨hnot, hstaff⟩
    refine ⟨fun id' => ?_, fun _ => rfl, fun id' => ?_, fun userId' helsewhere => ?_⟩
    · rw [hassignment id']
      cases hother : S.otherAssignment branchId id' with
      | none => rfl
      | some row' => exact Option.filter_some_pos (decide_eq_true fun hrow' => hnot ⟨id', row', hother, hrow'⟩)
    · rw [hshiftStaff id']
      cases hother : S.otherShiftStaff branchId id' with
      | none => rfl
      | some row' => exact Option.filter_some_pos (decide_eq_true (hstaff id' row' hother))
    · have hne : userId' ≠ userId := fun heq => hnot (heq ▸ helsewhere)
      show ((S.users.remove userId).find userId').map _ = (S.users.find userId').map _
      rw [find_remove_of_ne S.users hne]

theorem deleteStaffAccount_iff (branchId userId : ℕ) (actor : StaffActor) (S : AccessStore) :
    OthersUnchanged branchId S (run (deleteStaffAccount branchId userId actor) S).2 ↔
      (canManageBranchStaff S actor branchId = true → (S.assignmentOf branchId userId).isSome = true →
        ∀ user, S.users.findLive userId = some user → IsManual user → ¬ S.StaffElsewhere branchId userId ∧
          ∀ id row, S.otherShiftStaff branchId id = some row → row.userId ≠ userId) := by
  unfold deleteStaffAccount
  rw [snd_run_gated]
  split_ifs with hcan
  · rw [run_loadAssignment_bind]
    cases hfound : S.assignmentOf branchId userId with
    | none => exact iff_of_true (.refl branchId S) fun _ h => (by cases h)
    | some found =>
      obtain ⟨hfind, hbranch, huserId⟩ := assignmentOf_eq_some hfound
      dsimp only
      rw [run_read_bind, huserId, run_throwIf_bind]
      cases hlive : S.users.findLive userId with
      | none =>
        refine iff_of_true ?_ fun _ _ _ h => (by cases h)
        exact othersUnchanged_assignments fun id' =>
          filter_find_remove hfind (decide_eq_false (not_not_intro hbranch)) id'
      | some user =>
        by_cases hmanual : IsManual user
        · rw [if_neg (by rw [Option.any_some, decide_eq_true_iff]; exact not_not_intro hmanual)]
          refine (othersUnchanged_removeUser_iff hfind hbranch).trans ⟨fun h _ _ _ _ _ => h, fun h => ?_⟩
          exact h hcan rfl user rfl hmanual
        · rw [if_pos (by rw [Option.any_some, decide_eq_true_iff]; exact hmanual)]
          exact iff_of_true (.refl branchId S) fun _ _ _ h hm => absurd (Option.some.inj h ▸ hm) hmanual
  · exact iff_of_true (.refl branchId S) fun h => absurd h hcan

theorem changeStaffPassword_iff (env : StaffRuntime) (branchId userId : ℕ) (newPassword : String) (actor : StaffActor)
    (S : AccessStore) :
    OthersUnchanged branchId S (run (changeStaffPassword env branchId userId newPassword actor) S).2 ↔
      (canManageBranchStaff S actor branchId = true → (S.assignmentOf branchId userId).isSome = true →
        ∀ user, S.users.findLive userId = some user → IsManual user → S.StaffElsewhere branchId userId →
          user.password = some (env.hash newPassword)) := by
  unfold changeStaffPassword
  rw [snd_run_gated]
  split_ifs with hcan
  · rw [run_loadAssignment_bind]
    cases hfound : S.assignmentOf branchId userId with
    | none => exact iff_of_true (.refl branchId S) fun _ h => (by cases h)
    | some found =>
      obtain ⟨-, -, huserId⟩ := assignmentOf_eq_some hfound
      dsimp only
      rw [run_read_bind, huserId]
      cases hlive : S.users.findLive userId with
      | none => exact iff_of_true (.refl branchId S) fun _ _ _ h => (by cases h)
      | some user =>
        have hstored := (UserTable.findLive_eq_some_iff.mp hlive).1
        by_cases hmanual : IsManual user
        · rw [Option.filter_some, if_pos (decide_eq_true hmanual)]
          constructor
          · intro h _ _ user' hsame _ helsewhere
            obtain rfl := Option.some.inj hsame
            have haccount : ((S.users.set userId _).find userId).map _ = (S.users.find userId).map _ :=
              h.accounts userId helsewhere
            rw [find_set_self hstored, hstored] at haccount
            exact (Option.some.inj haccount).symm
          · intro h
            refine ⟨fun _ => rfl, fun _ => rfl, fun _ => rfl, fun userId' helsewhere => ?_⟩
            show ((S.users.set userId _).find userId').map _ = (S.users.find userId').map _
            by_cases hsame : userId' = userId
            · subst hsame
              rw [find_set_self hstored, hstored]
              exact congrArg some (h hcan rfl user rfl hmanual helsewhere).symm
            · rw [find_set_of_ne S.users _ hsame]
        · rw [Option.filter_some, if_neg (by rw [decide_eq_true_iff]; exact hmanual)]
          exact iff_of_true (.refl branchId S) fun _ _ _ h hm => absurd (Option.some.inj h ▸ hm) hmanual
  · exact iff_of_true (.refl branchId S) fun h => absurd h hcan

/-! ### Runs -/

/-- What a manager asks for, on the routes of one branch. -/
inductive StaffOperation where
  | assign (dto : AssignBranchStaffDto)
  | invite (dto : InviteBranchStaffDto)
  | unassign (userId : ℕ)
  | updateAssignment (userId : ℕ) (dto : UpdateAssignmentDto)
  | deleteStaffAccount (userId : ℕ)
  | changeStaffPassword (userId : ℕ) (newPassword : String)
  | createShift (dto : CreateBranchShiftDto)
  | updateShift (shiftId : ℕ) (dto : UpdateBranchShiftDto)
  | removeShift (shiftId : ℕ)
  | assignStaff (shiftId userId : ℕ)
  | removeStaff (shiftId userId : ℕ)

structure StaffCall where
  env : StaffRuntime
  operation : StaffOperation

namespace StaffCall

variable (branchId : ℕ) (actor : StaffActor)

/-- The handler of the request; those of the controller ask for the right first. -/
def perform (call : StaffCall) : AccessProc Unit :=
  match call.operation with
  | .assign dto => do
    assertCanManageBranchStaff actor branchId
    let _ ← assign branchId dto
  | .invite dto => do
    assertCanManageBranchStaff actor branchId
    let _ ← invite call.env branchId dto actor.id
  | .unassign userId => do
    assertCanManageBranchStaff actor branchId
    let _ ← unassign branchId userId
  | .updateAssignment userId dto => do
    let _ ← updateAssignment call.env branchId userId dto actor
  | .deleteStaffAccount userId => deleteStaffAccount branchId userId actor
  | .changeStaffPassword userId newPassword =>
    changeStaffPassword call.env branchId userId newPassword actor
  | .createShift dto => do
    let _ ← create branchId dto actor
  | .updateShift shiftId dto => do
    let _ ← update branchId shiftId dto actor
  | .removeShift shiftId => remove branchId shiftId actor
  | .assignStaff shiftId userId => do
    let _ ← assignStaff branchId shiftId userId actor
  | .removeStaff shiftId userId => removeStaff branchId shiftId userId actor

def step (S : AccessStore) (call : StaffCall) : AccessStore := (run (call.perform branchId actor) S).2

/-- The request touches nothing of another branch: an account that goes has no assignment and no shift elsewhere, a
password that changes is of nobody with an assignment elsewhere, and a shift that somebody leaves is not of another
branch. -/
def Clear (S : AccessStore) (call : StaffCall) : Prop :=
  canManageBranchStaff S actor branchId = true →
    match call.operation with
    | .deleteStaffAccount userId => (S.assignmentOf branchId userId).isSome = true → ∀ user,
        S.users.findLive userId = some user → IsManual user → ¬ S.StaffElsewhere branchId userId ∧
          ∀ id row, S.otherShiftStaff branchId id = some row → row.userId ≠ userId
    | .changeStaffPassword userId newPassword => (S.assignmentOf branchId userId).isSome = true → ∀ user,
        S.users.findLive userId = some user → IsManual user → S.StaffElsewhere branchId userId →
          user.password = some (call.env.hash newPassword)
    | .removeStaff shiftId userId => ∀ id row, shiftStaffOf S shiftId userId = some (id, row) →
        S.otherShift branchId shiftId = none
    | _ => True

/-- **The other branches are unchanged** in every state of a run. -/
def Confined (S : AccessStore) (calls : List StaffCall) : Prop :=
  ∀ n, OthersUnchanged branchId S (Run.after (step branchId actor) S (calls.take n))

variable {branchId actor}

variable {α : Type} {p : AccessProc α}

theorem othersUnchanged_discard {S : AccessStore}
    (h : OthersUnchanged branchId S (run p S).2) : OthersUnchanged branchId S (run (p >>= fun _ => pure ()) S).2 := by
  have hsame : (run (p >>= fun _ => pure ()) S).2 = (run p S).2 := by
    rw [run_bind]
    rcases run p S with ⟨_ | _, S'⟩ <;> rfl
  rwa [hsame]

theorem othersUnchanged_gated_discard {S : AccessStore}
    (h : OthersUnchanged branchId S (run p S).2) : OthersUnchanged branchId S
      (run (assertCanManageBranchStaff actor branchId >>= fun _ => p >>= fun _ => pure ()) S).2 :=
  othersUnchanged_gated (othersUnchanged_discard h) actor

/-- **When one request leaves the other branches as they are.** -/
theorem othersUnchanged_step_iff (S : AccessStore) (call : StaffCall) :
    OthersUnchanged branchId S (call.step branchId actor S) ↔ call.Clear branchId actor S := by
  obtain ⟨env, operation⟩ := call
  cases operation with
  | assign dto =>
    exact iff_of_true (othersUnchanged_gated_discard (othersUnchanged_assign branchId dto S)) fun _ => trivial
  | invite dto =>
    exact iff_of_true (othersUnchanged_gated_discard (othersUnchanged_invite env branchId dto actor.id S))
      fun _ => trivial
  | unassign userId =>
    exact iff_of_true (othersUnchanged_gated_discard (othersUnchanged_unassign branchId userId S)) fun _ => trivial
  | updateAssignment userId dto =>
    have hsame := othersUnchanged_updateAssignment env branchId userId dto actor S
    exact iff_of_true (othersUnchanged_discard hsame) fun _ => trivial
  | deleteStaffAccount userId => exact deleteStaffAccount_iff branchId userId actor S
  | changeStaffPassword userId newPassword => exact changeStaffPassword_iff env branchId userId newPassword actor S
  | createShift dto =>
    have hsame := othersUnchanged_create branchId dto actor S
    exact iff_of_true (othersUnchanged_discard hsame) fun _ => trivial
  | updateShift shiftId dto =>
    have hsame := othersUnchanged_update branchId shiftId dto actor S
    exact iff_of_true (othersUnchanged_discard hsame) fun _ => trivial
  | removeShift shiftId =>
    exact iff_of_true (othersUnchanged_remove branchId shiftId actor S) fun _ => trivial
  | assignStaff shiftId userId =>
    have hsame := othersUnchanged_assignStaff branchId shiftId userId actor S
    exact iff_of_true (othersUnchanged_discard hsame) fun _ => trivial
  | removeStaff shiftId userId => exact removeStaff_iff branchId shiftId userId actor S

end StaffCall

/-- **Managers are confined to their branch** in the runs whose requests touch nothing of another one, and in no
other. -/
theorem managers_confined_iff (branchId : ℕ) (actor : StaffActor) (S : AccessStore) (calls : List StaffCall) :
    StaffCall.Confined branchId actor S calls ↔
      Run.Along (StaffCall.step branchId actor) (fun S call => call.Clear branchId actor S) S calls := by
  refine Run.forall_take_iff (I := fun _ => True) (D := fun _ _ => True) (P := OthersUnchanged branchId S)
    (fun _ _ _ _ => trivial) (fun T call _ _ hsame => ?_) trivial (.refl branchId S)
    (Run.along_of_forall fun _ _ => trivial)
  rw [← StaffCall.othersUnchanged_step_iff]
  exact ⟨hsame.symm.trans, hsame.trans⟩

/-- Two branches with their owners, and an account that was made for the staff of the second one. -/
def twoShops : AccessStore :=
  { AccessStore.empty with
    users := ((SerialTable.empty.add { email := "first@mail.test", roles := [.customer] }).add
      { email := "second@mail.test", roles := [.customer] }).add
        { email := "till@pos.test", roles := [.posOperator], password := some "hash:till", authMode := some "MANUAL" }
    branches := (SerialTable.empty.add
      { name := "First", code := none, serviceFormat := none, ownerId := some 1, retailTenantId := none
        isActive := true }).add
      { name := "Second", code := none, serviceFormat := none, ownerId := some 2, retailTenantId := none
        isActive := true }
    staffAssignments := SerialTable.empty.add { branchId := 2, userId := 3, role := .operator, isActive := true } }

def firstOwner : StaffActor := { id := some 1, roles := [.customer] }

def staffRuntime : StaffRuntime where
  now := 1700000000000
  toLowerCase := id
  toUpperCase := id
  hash password := "hash:" ++ password

/-- The owner of the first branch makes the account its own, and changes the password. -/
def takeOver : List StaffCall :=
  [⟨staffRuntime, .assign { userId := 3, role := .operator }⟩, ⟨staffRuntime, .changeStaffPassword 3 "taken-over"⟩]

theorem eq_one_of_firstOwner {branchId : ℕ} (h : canManageBranchStaff twoShops firstOwner branchId = true) :
    branchId = 1 := by
  have hmanages : managesStaff twoShops 1 branchId = true := h
  obtain ⟨branch, hbranch, howner⟩ | ⟨id, row, hrow, -, huser, -⟩ := managesAt_of_managesStaff hmanages
  · obtain ⟨-, rfl⟩ | hbranch := eq_or_find_of_find_add hbranch
    · cases howner
    · obtain ⟨rfl, -⟩ | hbranch := eq_or_find_of_find_add hbranch
      · rfl
      · cases hbranch
  · obtain ⟨-, rfl⟩ | hrow := eq_or_find_of_find_add hrow
    · cases huser
    · cases hrow

/-- **Who manages one branch changes the password of staff of another.** -/
theorem other_staff_taken_over :
    (∀ branchId, canManageBranchStaff twoShops firstOwner branchId = true → branchId = 1) ∧
      ¬ StaffCall.Confined 1 firstOwner twoShops takeOver := by
  refine ⟨fun _ => eq_one_of_firstOwner, fun h => ?_⟩
  have helsewhere : twoShops.StaffElsewhere 1 3 := ⟨1, _, rfl, rfl⟩
  have hchanged : (Run.after (StaffCall.step 1 firstOwner) twoShops takeOver).passwordOf 3 ≠
      twoShops.passwordOf 3 := by decide
  exact hchanged ((h 2).accounts 3 helsewhere)

end SuuqBackend
