import SuuqBackend.Auth.BranchGuards

/-!
# The staff of a branch

`BranchStaffService`: who may manage the staff of a branch, the assignments and invites of a branch, the passwords and
accounts of its staff, and the revocation of their sessions.  The audit log and the emails are left out.

An account that is deleted takes with it what refers to it: its assignments and shifts at every branch.
-/

namespace SuuqBackend

/-- The user of a request. -/
structure StaffActor where
  id : Option ℕ
  roles : List UserRole := []

/-- `BranchStaffCapability.MANAGE_BRANCH_STAFF`. -/
def manageBranchStaff : String := "MANAGE_BRANCH_STAFF"

/-- What the staff service takes from outside. -/
structure StaffRuntime where
  now : ℤ
  toLowerCase : String → String
  toUpperCase : String → String
  /-- `bcrypt.hash(password, 10)`, with the salt of the call. -/
  hash : String → String

namespace BranchStaffService

/-! ### Who may manage -/

/-- The user owns the branch, or manages it and may manage its staff. -/
def managesStaff (S : AccessStore) (userId branchId : ℕ) : Bool :=
  let ownedBranch := (S.branches.find branchId).any fun row => row.ownerId = some userId && row.isActive
  let managerAssignment := S.staffAssignments.first fun row =>
    row.branchId = branchId && row.userId = userId && row.isActive && row.role = .manager
  ownedBranch || managerAssignment.any fun found => manageBranchStaff ∈ found.2.capabilities

/-- What `assertCanManageBranchStaff` asks for. -/
def canManageBranchStaff (S : AccessStore) (user : StaffActor) (branchId : ℕ) : Bool :=
  .superAdmin ∈ user.roles || .admin ∈ user.roles ||
    (user.id.filter (· ≠ 0)).any fun userId => managesStaff S userId branchId

def assertCanManageBranchStaff (user : StaffActor) (branchId : ℕ) : AccessProc Unit := do
  let S ← Proc.read id
  .throwIf (canManageBranchStaff S user branchId = false) (.forbidden "Branch staff management access was denied.")

/-- It only reads. -/
@[simp] theorem run_assertCanManageBranchStaff (user : StaffActor) (branchId : ℕ) (S : AccessStore) :
    Proc.run (assertCanManageBranchStaff user branchId) S =
      (if canManageBranchStaff S user branchId then .ok ()
        else .error (.forbidden "Branch staff management access was denied."), S) := by
  unfold assertCanManageBranchStaff
  rw [Proc.run_read_bind, id]
  cases canManageBranchStaff S user branchId <;> rfl

/-! ### Assignments -/

/-- The texts without the empty one, each once and in order. -/
def normalizePermissions (permissions : List String) : List String :=
  ((permissions.filter (· ≠ "")).eraseDups).insertionSort (· ≤ ·)

/-- `normalizeCapabilities`: a manager may manage the staff. -/
def normalizeCapabilities (capabilities : List String) (role : BranchStaffRole) : List String :=
  let given := capabilities.filter (· ≠ "")
  ((if role = .manager then given ++ [manageBranchStaff] else given).eraseDups).insertionSort (· ≤ ·)

/-- `assignmentsRepository.save` of a new assignment: its user and branch exist. -/
def insertAssignment (row : StaffAssignment) : AccessProc Unit := do
  let S ← Proc.read id
  .throwIf ((S.users.find row.userId).isNone ∨ (S.branches.find row.branchId).isNone) (.refused none (.queryFailed
    "insert or update on table \"branch_staff_assignments\" violates foreign key constraint"))
  Proc.write fun S => { S with staffAssignments := S.staffAssignments.add row }

/-- `assignmentsRepository.save` or `update` of an assignment that was loaded. -/
def saveAssignment (id : ℕ) (row : StaffAssignment) : AccessProc Unit :=
  Proc.write fun S => { S with staffAssignments := S.staffAssignments.set id row }

variable (env : StaffRuntime) (branchId userId : ℕ)

def upsertAssignment (role : BranchStaffRole) (permissions : List String)
    (assignedSurfaces : Option (List String)) (capabilities : List String) : AccessProc StaffAssignment := do
  let existing ← Proc.read fun S : AccessStore => S.assignmentOf branchId userId
  let kept : StaffAssignment := (existing.map Prod.snd).getD { branchId, userId, role, isActive := true }
  let assignment : StaffAssignment :=
    { kept with
      branchId, userId, role, permissions
      assignedSurfaces := assignedSurfaces.filter (· ≠ [])
      capabilities := normalizeCapabilities capabilities role
      isActive := true }
  match existing with
  | some (id, _) => saveAssignment id assignment
  | none => insertAssignment assignment
  return assignment

structure AssignBranchStaffDto where
  userId : ℕ
  role : BranchStaffRole
  permissions : Option (List String) := none
  assignedSurfaces : Option (List String) := none
  capabilities : Option (List String) := none

def assign (dto : AssignBranchStaffDto) : AccessProc StaffAssignment :=
  upsertAssignment branchId dto.userId dto.role (dto.permissions.getD []) dto.assignedSurfaces
    (dto.capabilities.getD [])

structure InviteBranchStaffDto where
  email : String
  role : BranchStaffRole
  permissions : Option (List String) := none

/-- `invitesRepository.save`, over the invite of the address if there is one. -/
def saveInvite (invite : StaffInvite) : AccessProc Unit := Proc.write fun S =>
  match S.staffInvites.first fun row => row.branchId = invite.branchId && row.email = invite.email with
  | some (id, _) => { S with staffInvites := S.staffInvites.set id invite }
  | none => { S with staffInvites := S.staffInvites.add invite }

def invite (dto : InviteBranchStaffDto) (actorId : Option ℕ) : AccessProc StaffInvite := do
  let S ← Proc.read id
  .throwIf (¬ (S.branches.find branchId).any fun row => row.isActive) (.notFound "Branch not found.")
  let email := env.toLowerCase (trim dto.email)
  let permissions := normalizePermissions (dto.permissions.getD [])
  match S.users.firstLive fun row => row.email = email with
  | some (userId, _) =>
    let _ ← upsertAssignment branchId userId dto.role permissions none []
    let linkedInvite : StaffInvite :=
      { branchId, email, role := dto.role, permissions, invitedByUserId := actorId
        acceptedByUserId := some userId, acceptedAt := some env.now, isActive := false }
    saveInvite linkedInvite
    return linkedInvite
  | none =>
    let invite : StaffInvite :=
      { branchId, email, role := dto.role, permissions, invitedByUserId := actorId
        acceptedByUserId := none, acceptedAt := none, isActive := true }
    saveInvite invite
    return invite

def unassign : AccessProc StaffAssignment := do
  let some (id, assignment) ← Proc.read fun S : AccessStore =>
      S.staffAssignments.first fun row => row.branchId = branchId && row.userId = userId && row.isActive
    | throw (.notFound "Active branch staff assignment not found.")
  saveAssignment id { assignment with isActive := false }
  return { assignment with isActive := false }

/-- `assignmentsRepository.findOne` of a user at a branch, or the exception without one. -/
def loadAssignment (e : AuthFailure) : AccessProc (ℕ × StaffAssignment) := do
  let some found ← Proc.read fun S : AccessStore => S.assignmentOf branchId userId
    | throw e
  return found

/-- The data of `updateAssignment`. -/
structure UpdateAssignmentDto where
  role : Option BranchStaffRole := none
  permissions : Option (List String) := none
  assignedSurfaces : Option (Option (List String)) := none
  capabilities : Option (List String) := none
  posExperienceProfileCode : Option (Option String) := none
  serviceSharePct : Option (Option ℚ) := none
  isActive : Option Bool := none

/-- `serviceSharePct`, as it is stored: a whole number of percent. -/
def sharePct (given : Option ℚ) : Option ℤ :=
  (given.filter fun share => share.den = 1).map fun share => min 100 (max 0 share.num)

/-- The assignment after the data of `updateAssignment`. -/
def updatedAssignment (assignment : StaffAssignment) (dto : UpdateAssignmentDto) : StaffAssignment :=
  let role := dto.role.getD assignment.role
  { assignment with
    role
    permissions := dto.permissions.getD assignment.permissions
    assignedSurfaces := (dto.assignedSurfaces.map fun given => given.filter (· ≠ [])).getD assignment.assignedSurfaces
    capabilities := (dto.capabilities.map fun given => normalizeCapabilities given role).getD assignment.capabilities
    posExperienceProfileCode :=
      (dto.posExperienceProfileCode.map fun code => (code.filter (· ≠ "")).map fun text =>
        env.toUpperCase (trim text)).getD assignment.posExperienceProfileCode
    serviceSharePct := (dto.serviceSharePct.map sharePct).getD assignment.serviceSharePct
    isActive := dto.isActive.getD assignment.isActive }

def assignmentNotFound : AuthFailure := .notFound "Branch staff assignment not found."

def updateAssignment (dto : UpdateAssignmentDto) (actor : StaffActor) : AccessProc StaffAssignment := do
  assertCanManageBranchStaff actor branchId
  let (id, assignment) ← loadAssignment branchId userId assignmentNotFound
  saveAssignment id (updatedAssignment env assignment dto)
  return updatedAssignment env assignment dto

/-! ### Accounts -/

/-- An account that was made for the POS. -/
def IsManual (user : UserAccount) : Prop := user.authMode = some "MANUAL"
deriving Decidable

/-- `usersRepository.remove`, with the rows that go with the user. -/
def removeUser : AccessProc Unit := Proc.write fun S =>
  { S with
    users := S.users.remove userId
    staffAssignments := S.staffAssignments.filter fun row => row.userId ≠ userId
    shiftStaff := S.shiftStaff.filter fun row => row.userId ≠ userId
    staffInvites := S.staffInvites.mapRows fun _ row =>
      { row with
        invitedByUserId := row.invitedByUserId.filter (· ≠ userId)
        acceptedByUserId := row.acceptedByUserId.filter (· ≠ userId) } }

def deleteStaffAccount (actor : StaffActor) : AccessProc Unit := do
  assertCanManageBranchStaff actor branchId
  let (id, assignment) ← loadAssignment branchId userId assignmentNotFound
  let targetUser ← Proc.read fun S : AccessStore => S.users.findLive assignment.userId
  .throwIf (targetUser.any fun user => ¬ IsManual user) (.refused (some "POS_BRANCH_STAFF_DELETE_NOT_ALLOWED")
    (.forbidden "Only manually-created POS staff accounts can be deleted from this surface."))
  Proc.write fun S => { S with staffAssignments := S.staffAssignments.remove id }
  if targetUser.isSome then removeUser assignment.userId

def changeStaffPassword (newPassword : String) (actor : StaffActor) : AccessProc Unit := do
  assertCanManageBranchStaff actor branchId
  let (_, assignment) ← loadAssignment branchId userId assignmentNotFound
  let targetUser ← Proc.read fun S : AccessStore => S.users.findLive assignment.userId
  match targetUser.filter fun user => IsManual user with
  | none => throw (.refused (some "POS_BRANCH_STAFF_PASSWORD_CHANGE_NOT_ALLOWED")
      (.forbidden "Passwords can only be changed for manually-created POS staff accounts."))
  | some user => Proc.write fun S =>
      { S with users := S.users.set assignment.userId { user with password := some (env.hash newPassword) } }

/-! ### Sessions -/

def revokeAllOperatorSessions (now : ℤ) (branchId : ℕ) (actor : StaffActor) : AccessProc Unit := do
  assertCanManageBranchStaff actor branchId
  PosSessionRevocation.revokeAllOperatorSessions now branchId

def revokeManagerSession (now : ℤ) (branchId userId : ℕ) (actor : StaffActor) : AccessProc Unit := do
  assertCanManageBranchStaff actor branchId
  let (id, assignment) ← loadAssignment branchId userId
    (.notFound s!"No active assignment found for user {userId} on branch {branchId}.")
  saveAssignment id { assignment with sessionRevokedAt := some now }

end BranchStaffService

/-!
## The shifts of a branch

`BranchShiftService`: shifts, and who works in them.  A shift that is removed takes the assignments to it along.  Shifts
are changed by their id and the branch of the request; `removeStaff` looks for the shift and the user alone.
-/

structure CreateBranchShiftDto where
  name : String
  startTime : String
  endTime : String
  daysOfWeek : List ℕ

structure UpdateBranchShiftDto where
  name : Option String := none
  startTime : Option String := none
  endTime : Option String := none
  daysOfWeek : Option (List ℕ) := none

namespace BranchShiftService

open BranchStaffService

/-- A reference to a row that is not stored. -/
def missingReference (table : String) : AuthFailure :=
  .refused none (.queryFailed s!"insert or update on table \"{table}\" violates foreign key constraint")

variable (branchId : ℕ)

def create (dto : CreateBranchShiftDto) (actor : StaffActor) : AccessProc (ℕ × BranchShift) := do
  assertCanManageBranchStaff actor branchId
  let shift : BranchShift :=
    { branchId
      name := dto.name
      startTime := dto.startTime
      endTime := dto.endTime
      daysOfWeek := dto.daysOfWeek.map toString }
  let S ← Proc.read id
  .throwIf (S.branches.find branchId).isNone (missingReference "branch_shifts")
  Proc.write fun S => { S with shifts := S.shifts.add shift }
  return (S.shifts.next, shift)

/-- `shiftsRepo.findOne` of a shift of the branch. -/
def loadShift (shiftId : ℕ) : AccessProc BranchShift := do
  let some shift ← Proc.read fun S : AccessStore => (S.shifts.find shiftId).filter fun row => row.branchId = branchId
    | throw (.notFound "Shift not found.")
  return shift

/-- The shift after the data of `update`. -/
def updatedShift (shift : BranchShift) (dto : UpdateBranchShiftDto) : BranchShift :=
  { shift with
    name := dto.name.getD shift.name
    startTime := dto.startTime.getD shift.startTime
    endTime := dto.endTime.getD shift.endTime
    daysOfWeek := (dto.daysOfWeek.map fun days => days.map toString).getD shift.daysOfWeek }

def update (shiftId : ℕ) (dto : UpdateBranchShiftDto) (actor : StaffActor) : AccessProc BranchShift := do
  assertCanManageBranchStaff actor branchId
  let shift ← loadShift branchId shiftId
  Proc.write fun S => { S with shifts := S.shifts.set shiftId (updatedShift shift dto) }
  return updatedShift shift dto

/-- `remove`, with the assignments to the shift. -/
def remove (shiftId : ℕ) (actor : StaffActor) : AccessProc Unit := do
  assertCanManageBranchStaff actor branchId
  let _ ← loadShift branchId shiftId
  Proc.write fun S =>
    { S with
      shifts := S.shifts.remove shiftId
      shiftStaff := S.shiftStaff.filter fun row => row.shiftId ≠ shiftId }

/-- `shiftStaffRepo.findOne` of a user in a shift. -/
def shiftStaffOf (S : AccessStore) (shiftId userId : ℕ) : Option (ℕ × BranchShiftStaff) :=
  S.shiftStaff.first fun row => row.shiftId = shiftId && row.userId = userId

def assignStaff (shiftId userId : ℕ) (actor : StaffActor) : AccessProc BranchShiftStaff := do
  assertCanManageBranchStaff actor branchId
  let _ ← loadShift branchId shiftId
  let S ← Proc.read id
  .throwIf (shiftStaffOf S shiftId userId).isSome (.conflict "Staff already assigned to this shift.")
  .throwIf (S.users.find userId).isNone (missingReference "branch_shift_staff")
  Proc.write fun S => { S with shiftStaff := S.shiftStaff.add ⟨shiftId, branchId, userId⟩ }
  return ⟨shiftId, branchId, userId⟩

def removeStaff (shiftId userId : ℕ) (actor : StaffActor) : AccessProc Unit := do
  assertCanManageBranchStaff actor branchId
  let some (id, _) ← Proc.read fun S => shiftStaffOf S shiftId userId
    | throw (.notFound "Staff not assigned to this shift.")
  Proc.write fun S => { S with shiftStaff := S.shiftStaff.remove id }

end BranchShiftService

end SuuqBackend
