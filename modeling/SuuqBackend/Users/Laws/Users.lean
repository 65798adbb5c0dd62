import SuuqBackend.Common.Laws.TextNumbers
import SuuqBackend.Users.Users

/-!
# What the service of users does

One law for each operation: what it returns and the table that it leaves.
-/

namespace SuuqBackend

open Proc

namespace UsersService

/-! ### Repository calls -/

@[simp] theorem run_insertUser (row : UserAccount) (users : UserTable) :
    run (insertUser row) users = if conflicts users none row then (.error duplicateUser, users)
      else (.ok users.next, users.add row) := by
  unfold insertUser
  rw [run_read_bind, run_throwIf_bind]
  rfl

@[simp] theorem run_saveUser (id : ℕ) (row : UserAccount) (users : UserTable) :
    run (saveUser id row) users = if conflicts users (some id) row then (.error duplicateUser, users)
      else (.ok (), users.set id row) := by
  unfold saveUser
  rw [run_read_bind, run_throwIf_bind]
  rfl

@[simp] theorem run_findById (id : ℕ) (users : UserTable) :
    run (findById id) users =
      (match users.findLive id with
        | some user => .ok user
        | none => .error (.notFound "User not found"), users) := by
  unfold findById
  rw [run_read_bind]
  cases users.findLive id <;> rfl

variable (env : UserRuntime) (email : String)

@[simp] theorem run_findByEmail (users : UserTable) :
    run (findByEmail email) users = (.ok (users.firstLive fun row => row.email = email), users) := rfl

@[simp] theorem run_findByAppleId (sub : String) (users : UserTable) :
    run (findByAppleId sub) users = (.ok (users.firstLive fun row => row.appleId = some sub), users) := rfl

@[simp] theorem run_findByResetToken (now : ℤ) (token : String) (users : UserTable) :
    run (findByResetToken now token) users =
      (.ok (users.firstLive fun row =>
        row.passwordResetToken = some token && row.passwordResetExpires.any (now < ·)), users) := rfl

variable {id : ℕ} {users : UserTable}

variable {user row : UserAccount}

theorem firstLive_eq_some {p : UserAccount → Bool}
    (h : users.firstLive p = some (id, user)) : users.findLive id = some user ∧ p user = true := by
  obtain ⟨hfind, hmeets⟩ := SerialTable.find_of_first h
  obtain ⟨hlive, hp⟩ := Bool.and_eq_true _ _ ▸ hmeets
  exact ⟨UserTable.findLive_eq_some_iff.mpr ⟨hfind, of_decide_eq_true hlive⟩, hp⟩

theorem run_update_ignored {data : List UserUpdate} (hdata : ∀ change ∈ data, change.column ∉ allowedFields) (h : users.findLive id = some user) : run (update id data) users = (.ok user, users) := by
  have hfind := (UserTable.findLive_eq_some_iff.mp h).1
  have hfilter : (data.filter fun change => change.column ∈ allowedFields) = [] :=
    List.filter_eq_nil_iff.mpr fun change hmem hallowed => hdata change hmem (of_decide_eq_true hallowed)
  unfold update
  rw [run_read_bind, hfind, hfilter]
  dsimp only
  rw [List.foldl_nil, run_write_bind, SerialTable.set_of_find hfind, run_findById, h]

/-! ### Removed accounts -/

theorem run_restoreDeletedUserByEmail (patch : UserPatch) (users : UserTable) :
    run (restoreDeletedUserByEmail env email patch) users =
      match if env.normalize email = "" then none else deletedUser env users (env.normalize email) with
      | none => (.ok none, users)
      | some (id, row) =>
        if conflicts users (some id) (restoredRow row (env.normalize email) patch) then (.error duplicateUser, users)
        else (.ok (some (id, restoredRow row (env.normalize email) patch)),
          users.set id (restoredRow row (env.normalize email) patch)) := by
  unfold restoreDeletedUserByEmail
  rw [run_read_bind]
  cases hfound : (if env.normalize email = "" then none else deletedUser env users (env.normalize email)) with
  | none => rfl
  | some found =>
    obtain ⟨id, row⟩ := found
    dsimp only
    by_cases hconflict : conflicts users (some id) (restoredRow row (env.normalize email) patch) = true
    · rw [if_pos hconflict]
      have hsave := run_saveUser id (restoredRow row (env.normalize email) patch) users
      rw [if_pos hconflict] at hsave
      rw [run_bind_of_error hsave]
    · rw [if_neg hconflict]
      have hsave := run_saveUser id (restoredRow row (env.normalize email) patch) users
      rw [if_neg hconflict] at hsave
      rw [run_bind_of_ok hsave]
      rfl

theorem normalize_normalize : env.normalize (env.normalize email) = env.normalize email := env.normalized email

/-- The account that `create` would bring back for a normalized address, if it can be saved. -/
def Restorable (env : UserRuntime) (users : UserTable) (normalizedEmail : String) (patch : UserPatch) (id : ℕ)
    (row : UserAccount) : Prop :=
  normalizedEmail ≠ "" ∧ deletedUser env users normalizedEmail = some (id, row) ∧
    conflicts users (some id) (restoredRow row normalizedEmail patch) = false

/-- **`create`** fails, brings back an account or makes one. -/
theorem create_cases (salt email : String) (data : UserPatch) (users : UserTable) :
    (∃ e, run (create env salt email data) users = (.error e, users)) ∨
      (∃ id row, (users.firstLive fun row => row.email = env.normalize email) = none ∧
        Restorable env users (env.normalize email) data id row ∧
          run (create env salt email data) users = (.ok (id, restoredRow row (env.normalize email) data),
            users.set id (restoredRow row (env.normalize email) data))) ∨
      (conflicts users none (newUser (env.normalize email) (hashedData env salt data)) = false ∧
        run (create env salt email data) users =
          (.ok (users.next, newUser (env.normalize email) (hashedData env salt data)),
            users.add (newUser (env.normalize email) (hashedData env salt data)))) := by
  have hrestore := run_restoreDeletedUserByEmail env (env.normalize email) data users
  rw [normalize_normalize] at hrestore
  unfold create
  rw [run_read_bind, run_throwIf_bind]
  cases hexisting : users.firstLive fun row => row.email = env.normalize email with
  | some found => exact .inl ⟨_, rfl⟩
  | none =>
    cases hfound : (if env.normalize email = "" then none else deletedUser env users (env.normalize email)) with
    | none =>
      rw [hfound] at hrestore
      rw [run_bind_of_ok hrestore]
      have hinsert := run_insertUser (newUser (env.normalize email) (hashedData env salt data)) users
      split_ifs at hinsert with hconflict
      · rw [run_bind_of_error hinsert]
        exact .inl ⟨_, rfl⟩
      · rw [run_bind_of_ok hinsert]
        exact .inr (.inr ⟨Bool.not_eq_true _ ▸ hconflict, rfl⟩)
    | some found =>
      obtain ⟨id, row⟩ := found
      obtain ⟨hempty, hdeleted⟩ := Option.ite_none_left_eq_some.mp hfound
      rw [hfound] at hrestore
      dsimp only at hrestore
      split_ifs at hrestore with hconflict
      · rw [run_bind_of_error hrestore]
        exact .inl ⟨_, rfl⟩
      · rw [run_bind_of_ok hrestore]
        exact .inr (.inl ⟨id, row, rfl, ⟨hempty, hdeleted, Bool.not_eq_true _ ▸ hconflict⟩, rfl⟩)

theorem run_create_of_restorable {env : UserRuntime} {email : String} {data : UserPatch} (hfree : (users.firstLive fun row => row.email = env.normalize email) = none)
    (h : Restorable env users (env.normalize email) data id row) (salt : String) :
    run (create env salt email data) users = (.ok (id, restoredRow row (env.normalize email) data),
      users.set id (restoredRow row (env.normalize email) data)) := by
  obtain ⟨hempty, hdeleted, hconflict⟩ := h
  have hrestore := run_restoreDeletedUserByEmail env (env.normalize email) data users
  rw [normalize_normalize, if_neg hempty, hdeleted] at hrestore
  dsimp only at hrestore
  rw [if_neg (by rw [hconflict]; exact Bool.false_ne_true)] at hrestore
  unfold create
  rw [run_read_bind, run_throwIf_bind, hfree, run_bind_of_ok hrestore]
  rfl

theorem remove_cases (now : ℤ) (id : ℕ) (users : UserTable) :
    (∃ e, run (remove env now id) users = (.error e, users)) ∨
      ∃ user, users.findLive id = some user ∧ conflicts users (some id) (removedRow env now id user) = false ∧
        run (remove env now id) users = (.ok (), users.set id (removedRow env now id user)) := by
  unfold remove
  rw [run_read_bind]
  cases huser : users.findLive id with
  | none => exact .inl ⟨_, rfl⟩
  | some user =>
    rw [run_saveUser]
    split_ifs with hconflict
    · exact .inl ⟨_, rfl⟩
    · exact .inr ⟨user, rfl, Bool.not_eq_true _ ▸ hconflict, rfl⟩

theorem run_checkCurrentPassword (user : UserAccount) (currentPassword : Option String)
    (required incorrect : AuthFailure) (users : UserTable) :
    ∃ result, run (checkCurrentPassword env user currentPassword required incorrect) users = (result, users) := by
  unfold checkCurrentPassword
  split
  · exact ⟨_, rfl⟩
  · split
    · exact ⟨_, rfl⟩
    · rw [run_throwIf]
      exact ⟨_, rfl⟩

/-- **`changePassword`** fails, or stores a hash of the new password. -/
theorem changePassword_cases (salt : String) (userId : ℕ) (currentPassword : Option String)
    (newPassword : String) (users : UserTable) :
    (∃ e, run (changePassword env salt userId currentPassword newPassword) users = (.error e, users)) ∨
      ∃ user, users.findLive userId = some user ∧
        conflicts users (some userId) { user with password := some (env.passwords.hash salt newPassword) } = false ∧
          run (changePassword env salt userId currentPassword newPassword) users =
            (.ok (), users.set userId { user with password := some (env.passwords.hash salt newPassword) }) := by
  unfold changePassword
  have hfind := run_findById userId users
  cases huser : users.findLive userId with
  | none =>
    rw [huser] at hfind
    rw [run_bind_of_error hfind]
    exact .inl ⟨_, rfl⟩
  | some user =>
    rw [huser] at hfind
    rw [run_bind_of_ok hfind, run_throwIf_bind]
    split_ifs
    · exact .inl ⟨_, rfl⟩
    · obtain ⟨result, hcheck⟩ := run_checkCurrentPassword env user currentPassword
        (.unauthorized none "Current password is required.") (.unauthorized none "Current password is incorrect.") users
      cases result with
      | error e =>
        rw [run_bind_of_error hcheck]
        exact .inl ⟨_, rfl⟩
      | ok _ =>
        rw [run_bind_of_ok hcheck, run_saveUser]
        split_ifs with hconflict
        · exact .inl ⟨_, rfl⟩
        · exact .inr ⟨user, rfl, Bool.not_eq_true _ ▸ hconflict, rfl⟩

theorem eq_of_not_conflicts {except : Option ℕ}
    (h : conflicts users except row = false) {other : UserAccount} (hfind : users.find id = some other)
    (hemail : other.email = row.email) : some id = except := by
  by_contra hne
  refine Bool.false_ne_true (h.symm.trans (List.any_eq_true.mpr ⟨(id, other), ?_, decide_eq_true hne⟩))
  refine SerialTable.mem_list_iff.mpr ⟨hfind, ?_⟩
  rw [decide_eq_true hemail, Bool.true_or, Bool.true_or]

end UsersService

/-- Hashes that show their password, and addresses in lower case only. -/
def plainUserRuntime : UserRuntime where
  passwords := .marked
  sha256 := id
  sha256_injective := Function.injective_id
  toLowerCase := id
  normalized := trim_trim

end SuuqBackend
