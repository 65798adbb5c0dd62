import SuuqBackend.Auth.AuthAccounts
import SuuqBackend.Users.Laws.Users

/-!
# The life of a password

A state of a run is the table of users, with the password that was last accepted for each of them and the reset token
that was last mailed to them.

`create` hashes a password only if it makes a new account, not if it brings a removed one back; and `update` does not
allow the columns of a reset, so no token is ever stored.  `passwords_kept_iff` says that nothing else goes wrong.
-/

namespace SuuqBackend

open Proc UsersService SerialTable

/-- The users, and what a run has seen of their passwords. -/
structure PasswordState where
  users : UserTable
  /-- The password last accepted for a user. -/
  accepted : ℕ → Option String
  /-- The reset token last mailed to a user, and when it expires. -/
  mailed : ℕ → Option (String × ℤ)

inductive PasswordCall where
  | register (uuid salt : String) (dto : RegisterDto)
  | remove (now : ℤ) (id : ℕ)
  | changePassword (salt : String) (userId : ℕ) (current : Option String) (next : String)
  | forgotPassword (now : ℤ) (email resetToken : String)
  | resetPassword (now : ℤ) (token newPassword : String)

namespace PasswordState

variable (env : UserRuntime) (toUpperCase : String → String)

def start : PasswordState := ⟨.empty, fun _ => none, fun _ => none⟩

def step (s : PasswordState) : PasswordCall → PasswordState
  | .register uuid salt dto =>
    match run (AuthService.register env toUpperCase uuid salt dto) s.users with
    | (.ok (id, _), users) => { s with users, accepted := Function.update s.accepted id (some dto.password) }
    | (.error _, users) => { s with users }
  | .remove now id => { s with users := (run (remove env now id) s.users).2 }
  | .changePassword salt userId current next =>
    match run (AuthService.changePassword env salt userId current next) s.users with
    | (.ok (), users) => { s with users, accepted := Function.update s.accepted userId (some next) }
    | (.error _, users) => { s with users }
  | .forgotPassword now email resetToken =>
    match run (AuthService.forgotPassword env now email resetToken) s.users with
    | (.ok (some mail), users) =>
      { s with users, mailed := Function.update s.mailed mail.userId (some (mail.resetToken, now + 3600000)) }
    | (_, users) => { s with users }
  | .resetPassword now token newPassword =>
    match run (AuthService.resetPassword env now token newPassword) s.users with
    | (.ok id, users) => { s with users, accepted := Function.update s.accepted id (some newPassword) }
    | (.error _, users) => { s with users }

/-! ### What is claimed -/

/-- Every stored password is a hash of the one last accepted. -/
def Stored (s : PasswordState) : Prop :=
  ∀ id user stored, s.users.find id = some user → user.password = some stored →
    ∃ password, s.accepted id = some password ∧ env.passwords.HashOf password stored

/-- An active user with a password logs in with the one last accepted, and with no other. -/
def LogsIn (s : PasswordState) : Prop :=
  ∀ id user, s.users.findLive id = some user → user.isActive = true → user.password ≠ none → ∀ password,
    (∃ found, (run (AuthService.checkCredentials env user.email password) s.users).1 = .ok found) ↔
      s.accepted id = some password

def Due (s : PasswordState) : PasswordCall → Prop
  | .resetPassword now token _ => ∃ id expires, s.mailed id = some (token, expires) ∧ now < expires ∧
      (s.users.findLive id).isSome = true
  | _ => False

def Resets (s : PasswordState) : PasswordCall → Prop
  | .resetPassword now token newPassword => ∃ id expires user stored,
      (run (AuthService.resetPassword env now token newPassword) s.users).1 = .ok id ∧
        s.mailed id = some (token, expires) ∧
          (run (AuthService.resetPassword env now token newPassword) s.users).2.findLive id = some user ∧
            user.password = some stored ∧ env.passwords.HashOf newPassword stored
  | _ => False

def Takes (s : PasswordState) (token : String) : PasswordCall → Prop
  | .resetPassword now token' newPassword => token' = token ∧
      ∃ id, (run (AuthService.resetPassword env now token newPassword) s.users).1 = .ok id
  | _ => False

/-- **Passwords are kept** in a run: as they should be stored, good for a login, reset with a token that was mailed, and
with each token once. -/
structure PasswordsKept (s : PasswordState) (calls : List PasswordCall) : Prop where
  stored : ∀ n, (Run.after (step env toUpperCase) s (calls.take n)).Stored env
  logsIn : ∀ n, (Run.after (step env toUpperCase) s (calls.take n)).LogsIn env
  resets : Run.Along (step env toUpperCase) (fun s c => s.Due c → s.Resets env c) s calls
  once : ∀ i j c d token, i < j → calls[i]? = some c → calls[j]? = some d →
    (Run.after (step env toUpperCase) s (calls.take i)).Takes env token c →
      ¬ (Run.after (step env toUpperCase) s (calls.take j)).Takes env token d

/-- The registration brings a removed account back. -/
def Restores (users : UserTable) (uuid : String) (dto : RegisterDto) (id : ℕ) (row : UserAccount) : Prop :=
  (users.firstLive fun row => row.email = dto.email) = none ∧ AuthService.signupRefused env dto.email = false ∧
    (users.firstLive fun row => row.email = env.normalize dto.email) = none ∧
      Restorable env users (env.normalize dto.email) (AuthService.userToCreateData env toUpperCase uuid dto) id row

/-- The call is no registration that brings an account back. -/
def Fresh (s : PasswordState) : PasswordCall → Prop
  | .register uuid _ dto => ∀ id row, ¬ Restores env toUpperCase s.users uuid dto id row
  | _ => True

def Clear (s : PasswordState) (call : PasswordCall) : Prop := s.Fresh env toUpperCase call ∧ ¬ s.Due call

end PasswordState

/-! ### The calls -/

namespace AuthService

variable {env : UserRuntime} {toUpperCase : String → String}

/-- **`register`** fails, brings back an account or makes one. -/
theorem register_cases (env : UserRuntime) (toUpperCase : String → String) (uuid salt : String) (dto : RegisterDto)
    (users : UserTable) :
    (∃ e, run (register env toUpperCase uuid salt dto) users = (.error e, users)) ∨
      (∃ id row, PasswordState.Restores env toUpperCase users uuid dto id row) ∨
      (conflicts users none (newUser (env.normalize dto.email)
          (hashedData env salt (userToCreateData env toUpperCase uuid dto))) = false ∧
        run (register env toUpperCase uuid salt dto) users =
          (.ok (users.next, newUser (env.normalize dto.email)
              (hashedData env salt (userToCreateData env toUpperCase uuid dto))),
            users.add (newUser (env.normalize dto.email)
              (hashedData env salt (userToCreateData env toUpperCase uuid dto))))) := by
  unfold register
  rw [run_bind_of_ok (run_findByEmail dto.email users), run_throwIf_bind]
  cases hexact : users.firstLive fun row => row.email = dto.email with
  | some found => exact .inl ⟨_, rfl⟩
  | none =>
    rw [if_neg (by rw [Option.isSome_none]; exact Bool.false_ne_true), run_throwIf_bind]
    split_ifs with hrefused
    · exact .inl ⟨_, rfl⟩
    · obtain herror | ⟨id, row, hfree, hrestorable, -⟩ | hmade :=
        create_cases env salt dto.email (userToCreateData env toUpperCase uuid dto) users
      · exact .inl herror
      · exact .inr (.inl ⟨id, row, hexact, Bool.not_eq_true _ ▸ hrefused, hfree, hrestorable⟩)
      · exact .inr (.inr hmade)

theorem run_register_of_restores {uuid : String} {dto : RegisterDto} {users : UserTable} {id : ℕ} {row : UserAccount}
    (h : PasswordState.Restores env toUpperCase users uuid dto id row) (salt : String) :
    ∃ restored, restored.password = some dto.password ∧ users.find id = some row ∧
      run (register env toUpperCase uuid salt dto) users = (.ok (id, restored), users.set id restored) := by
  obtain ⟨hexact, hrefused, hfree, hrestorable⟩ := h
  refine ⟨restoredRow row (env.normalize dto.email) (userToCreateData env toUpperCase uuid dto), rfl,
    (find_of_first hrestorable.2.1).1, ?_⟩
  unfold register
  rw [run_bind_of_ok (run_findByEmail dto.email users), run_throwIf_bind, hexact,
    if_neg (by rw [Option.isSome_none]; exact Bool.false_ne_true), run_throwIf_bind,
    if_neg (by rw [hrefused]; exact Bool.false_ne_true)]
  exact run_create_of_restorable hfree hrestorable salt

theorem password_newUser (env : UserRuntime) (toUpperCase : String → String) (email uuid salt : String)
    (dto : RegisterDto) :
    (newUser email (hashedData env salt (userToCreateData env toUpperCase uuid dto))).password =
      some (env.passwords.hash salt dto.password) := by
  have hne : dto.password ≠ "" := by
    intro h
    have hlength := dto.password_length
    rw [h] at hlength
    exact absurd hlength (by decide)
  unfold newUser hashedData userToCreateData UserPatch.apply
  rw [Option.filter_some, if_pos (decide_eq_true hne)]
  rfl

/-- **`changePassword`** fails, or stores a hash of the new password. -/
theorem changePassword_cases (env : UserRuntime) (salt : String) (userId : ℕ) (current : Option String) (next : String)
    (users : UserTable) :
    (∃ e, run (changePassword env salt userId current next) users = (.error e, users)) ∨
      ∃ user, users.findLive userId = some user ∧
        conflicts users (some userId) { user with password := some (env.passwords.hash salt next) } = false ∧
          run (changePassword env salt userId current next) users =
            (.ok (), users.set userId { user with password := some (env.passwords.hash salt next) }) := by
  unfold changePassword
  have hfind := run_findById userId users
  cases huser : users.findLive userId with
  | none =>
    rw [huser] at hfind
    rw [run_bind_of_error hfind]
    exact .inl ⟨_, rfl⟩
  | some user =>
    rw [huser] at hfind
    rw [run_bind_of_ok hfind]
    obtain ⟨result, hcheck⟩ := run_checkCurrentPassword env user current
      (.badRequest "Current password is required") (.unauthorized none "Current password is incorrect") users
    cases result with
    | error e =>
      rw [run_bind_of_error hcheck]
      exact .inl ⟨_, rfl⟩
    | ok _ =>
      rw [run_bind_of_ok hcheck, ← huser]
      exact UsersService.changePassword_cases env salt userId current next users

/-- **`forgotPassword`** stores nothing: `update` does not allow the columns of the token. -/
theorem run_forgotPassword (env : UserRuntime) (now : ℤ) (email resetToken : String) (users : UserTable) :
    run (forgotPassword env now email resetToken) users =
      (.ok ((users.firstLive fun row => row.email = email).map fun found => ⟨found.1, found.2.email, resetToken⟩),
        users) := by
  unfold forgotPassword
  rw [run_bind_of_ok (run_findByEmail email users)]
  cases hfound : users.firstLive fun row => row.email = email with
  | none => rfl
  | some found =>
    have hignored : ∀ change ∈ [UserUpdate.passwordResetToken (some (env.sha256 resetToken)),
        .passwordResetExpires (some (now + 3600000))], change.column ∉ allowedFields := by
      intro change hmem
      rcases List.mem_cons.mp hmem with rfl | hmem
      · show "passwordResetToken" ∉ allowedFields
        decide
      · obtain rfl := List.mem_singleton.mp hmem
        show "passwordResetExpires" ∉ allowedFields
        decide
    rw [run_bind_of_ok (run_update_ignored hignored (firstLive_eq_some hfound).1)]
    rfl

/-- **`resetPassword`** finds no user while no token is stored. -/
theorem run_resetPassword {users : UserTable}
    (h : ∀ id user, users.find id = some user → user.passwordResetToken = none) (env : UserRuntime) (now : ℤ)
    (token newPassword : String) :
    run (resetPassword env now token newPassword) users =
      (.error (.unauthorized none "Password reset token is invalid or has expired."), users) := by
  unfold resetPassword
  rw [run_bind_of_ok (run_findByResetToken now (env.sha256 token) users)]
  cases hfound : users.firstLive fun row =>
      row.passwordResetToken = some (env.sha256 token) && row.passwordResetExpires.any (now < ·) with
  | none => rfl
  | some found =>
    obtain ⟨hlive, hmeets⟩ := firstLive_eq_some hfound
    have hnone := h found.1 found.2 (UserTable.findLive_eq_some_iff.mp hlive).1
    rw [hnone] at hmeets
    cases hmeets

end AuthService

/-! ### The steps of a run -/

namespace PasswordState

variable {env : UserRuntime} {toUpperCase : String → String}

/-- What a call does to the users and to the passwords that are accepted. -/
inductive Change (env : UserRuntime) (s s' : PasswordState) : Prop where
  | same (users : s'.users = s.users) (accepted : s'.accepted = s.accepted)
  | added (row : UserAccount) (password stored : String) (hashed : env.passwords.HashOf password stored)
      (given : row.password = some stored) (untouched : row.passwordResetToken = none)
      (alone : conflicts s.users none row = false) (users : s'.users = s.users.add row)
      (accepted : s'.accepted = Function.update s.accepted s.users.next (some password))
  | saved (id : ℕ) (old row : UserAccount) (found : s.users.find id = some old) (kept : row.password = old.password)
      (untouched : row.passwordResetToken = old.passwordResetToken) (alone : conflicts s.users (some id) row = false)
      (users : s'.users = s.users.set id row) (accepted : s'.accepted = s.accepted)
  | changed (id : ℕ) (old row : UserAccount) (password stored : String) (found : s.users.find id = some old)
      (hashed : env.passwords.HashOf password stored) (given : row.password = some stored)
      (untouched : row.passwordResetToken = old.passwordResetToken) (alone : conflicts s.users (some id) row = false)
      (users : s'.users = s.users.set id row) (accepted : s'.accepted = Function.update s.accepted id (some password))

/-- Addresses are unique, and no reset token is stored. -/
structure Regular (s : PasswordState) : Prop where
  emails : ∀ id id' user user', s.users.find id = some user → s.users.find id' = some user' →
    user.email = user'.email → id = id'
  tokens : ∀ id user, s.users.find id = some user → user.passwordResetToken = none

variable {s : PasswordState} {c : PasswordCall}

/-- **What the calls do**, when no account is brought back. -/
theorem step_change (h : s.Regular) (hfresh : s.Fresh env toUpperCase c) : Change env s (s.step env toUpperCase c) := by
  cases c with
  | register uuid salt dto =>
    obtain ⟨e, hrun⟩ | ⟨id, row, hrestores⟩ | ⟨halone, hrun⟩ :=
      AuthService.register_cases env toUpperCase uuid salt dto s.users
    · dsimp only [step]
      rw [hrun]
      exact .same rfl rfl
    · exact absurd hrestores (hfresh id row)
    · dsimp only [step]
      rw [hrun]
      have hpassword := AuthService.password_newUser env toUpperCase (env.normalize dto.email) uuid salt dto
      exact .added _ dto.password _ ⟨salt, rfl⟩ hpassword rfl halone rfl rfl
  | remove now id =>
    obtain ⟨e, hrun⟩ | ⟨user, hlive, halone, hrun⟩ := remove_cases env now id s.users
    · dsimp only [step]
      rw [hrun]
      exact .same rfl rfl
    · dsimp only [step]
      rw [hrun]
      exact .saved id user (removedRow env now id user) (UserTable.findLive_eq_some_iff.mp hlive).1 rfl rfl halone
        rfl rfl
  | changePassword salt userId current next =>
    obtain ⟨e, hrun⟩ | ⟨user, hlive, halone, hrun⟩ :=
      AuthService.changePassword_cases env salt userId current next s.users
    · dsimp only [step]
      rw [hrun]
      exact .same rfl rfl
    · dsimp only [step]
      rw [hrun]
      exact .changed userId user { user with password := some (env.passwords.hash salt next) } next _
        (UserTable.findLive_eq_some_iff.mp hlive).1 ⟨salt, rfl⟩ rfl rfl halone rfl rfl
  | forgotPassword now email resetToken =>
    dsimp only [step]
    rw [AuthService.run_forgotPassword]
    cases s.users.firstLive fun row => row.email = email <;> exact .same rfl rfl
  | resetPassword now token newPassword =>
    dsimp only [step]
    rw [AuthService.run_resetPassword h.tokens]
    exact .same rfl rfl

theorem emails_set (h : s.Regular) {id : ℕ} {row : UserAccount}
    (halone : conflicts s.users (some id) row = false) {id₁ id₂ : ℕ} {user₁ user₂ : UserAccount}
    (h₁ : (s.users.set id row).find id₁ = some user₁) (h₂ : (s.users.set id row).find id₂ = some user₂)
    (hemail : user₁.email = user₂.email) : id₁ = id₂ := by
  obtain ⟨rfl, rfl⟩ | ⟨-, hold₁⟩ := eq_or_find_of_find_set h₁
  · obtain ⟨rfl, rfl⟩ | ⟨-, hold₂⟩ := eq_or_find_of_find_set h₂
    · rfl
    · exact (Option.some.inj (eq_of_not_conflicts halone hold₂ hemail.symm)).symm
  · obtain ⟨rfl, rfl⟩ | ⟨-, hold₂⟩ := eq_or_find_of_find_set h₂
    · exact Option.some.inj (eq_of_not_conflicts halone hold₁ hemail)
    · exact h.emails id₁ id₂ user₁ user₂ hold₁ hold₂ hemail

theorem Change.regular {s' : PasswordState} (h : s.Regular) (hchange : Change env s s') : s'.Regular := by
  obtain ⟨husers, -⟩ | ⟨row, _, _, -, -, huntouched, halone, husers, -⟩ |
    ⟨id, old, row, hfound, -, huntouched, halone, husers, -⟩ |
      ⟨id, old, row, _, _, hfound, -, -, huntouched, halone, husers, -⟩ := hchange
  · refine ⟨?_, ?_⟩
    · rw [husers]
      exact h.emails
    · rw [husers]
      exact h.tokens
  · refine ⟨fun id₁ id₂ user₁ user₂ h₁ h₂ hemail => ?_, ?_⟩
    · rw [husers] at h₁ h₂
      obtain ⟨rfl, rfl⟩ | hold₁ := eq_or_find_of_find_add h₁
      · obtain ⟨rfl, rfl⟩ | hold₂ := eq_or_find_of_find_add h₂
        · rfl
        · cases eq_of_not_conflicts halone hold₂ hemail.symm
      · obtain ⟨rfl, rfl⟩ | hold₂ := eq_or_find_of_find_add h₂
        · cases eq_of_not_conflicts halone hold₁ hemail
        · exact h.emails id₁ id₂ user₁ user₂ hold₁ hold₂ hemail
    · rw [husers]
      exact forall_find_add h.tokens huntouched
  · refine ⟨fun id₁ id₂ user₁ user₂ h₁ h₂ => ?_, ?_⟩
    · rw [husers] at h₁ h₂
      exact emails_set h halone h₁ h₂
    · rw [husers]
      exact forall_find_set h.tokens id (huntouched.trans (h.tokens id old hfound))
  · refine ⟨fun id₁ id₂ user₁ user₂ h₁ h₂ => ?_, ?_⟩
    · rw [husers] at h₁ h₂
      exact emails_set h halone h₁ h₂
    · rw [husers]
      exact forall_find_set h.tokens id (huntouched.trans (h.tokens id old hfound))

theorem Change.stored {s' : PasswordState} (h : s.Stored env) (hchange : Change env s s') : s'.Stored env := by
  intro id' user stored' hfind hpassword
  obtain ⟨husers, haccepted⟩ | ⟨row, password, stored, hhashed, hgiven, -, -, husers, haccepted⟩ |
    ⟨id, old, row, hfound, hkept, -, -, husers, haccepted⟩ |
      ⟨id, old, row, password, stored, hfound, hhashed, hgiven, -, -, husers, haccepted⟩ := hchange
  · rw [husers] at hfind
    rw [haccepted]
    exact h id' user stored' hfind hpassword
  · rw [husers] at hfind
    rw [haccepted]
    obtain ⟨rfl, rfl⟩ | hold := eq_or_find_of_find_add hfind
    · obtain rfl := Option.mem_unique hpassword hgiven
      exact ⟨password, Function.update_self .., hhashed⟩
    · have hne : id' ≠ s.users.next := (lt_next_of_find hold).ne
      rw [Function.update_of_ne hne]
      exact h id' user stored' hold hpassword
  · rw [husers] at hfind
    rw [haccepted]
    obtain ⟨rfl, rfl⟩ | ⟨-, hold⟩ := eq_or_find_of_find_set hfind
    · exact h id' old stored' hfound (hkept.symm.trans hpassword)
    · exact h id' user stored' hold hpassword
  · rw [husers] at hfind
    rw [haccepted]
    obtain ⟨rfl, rfl⟩ | ⟨hne, hold⟩ := eq_or_find_of_find_set hfind
    · obtain rfl := Option.mem_unique hpassword hgiven
      exact ⟨password, Function.update_self .., hhashed⟩
    · rw [Function.update_of_ne hne]
      exact h id' user stored' hold hpassword

theorem Regular.logsIn (h : s.Regular) (hstored : s.Stored env) : s.LogsIn env := by
  intro id user hlive hactive hsome password
  obtain ⟨stored, hpassword⟩ := Option.ne_none_iff_exists'.mp hsome
  obtain ⟨hfind, hnotDeleted⟩ := UserTable.findLive_eq_some_iff.mp hlive
  obtain ⟨accepted, haccepted, hhash⟩ := hstored id user stored hfind hpassword
  have hfirst : s.users.firstLive (fun row => row.email = user.email) = some (id, user) := by
    refine first_eq_some_iff.mpr ⟨hfind, ?_, fun id' hlt => ?_⟩
    · show (decide (user.deletedAt = none) && decide (user.email = user.email)) = true
      rw [decide_eq_true hnotDeleted, decide_eq_true rfl]
      rfl
    · cases hother : s.users.find id' with
      | none => rfl
      | some other =>
        have hemail : other.email ≠ user.email := fun heq => hlt.ne (h.emails id' id other user hother hfind heq)
        show (decide (other.deletedAt = none) && decide (other.email = user.email)) = false
        rw [decide_eq_false hemail, Bool.and_false]
  have hnonempty : stored ≠ "" := by
    obtain ⟨salt, rfl⟩ := hhash
    exact env.passwords.hash_ne_empty salt accepted
  unfold AuthService.checkCredentials
  rw [run_bind_of_ok (run_findByEmail user.email s.users), hfirst, haccepted]
  dsimp only
  rw [hpassword, Option.filter_some, if_pos (decide_eq_true hnonempty)]
  rw [run_throwIf_bind, if_neg (by rw [hactive]; exact Bool.noConfusion), run_throwIf_bind]
  have hverify := PasswordHash.HashOf.verify_iff env.passwords hhash password
  split_ifs with hwrong
  · refine iff_of_false (fun ⟨_, hfound⟩ => (by cases hfound)) fun heq => ?_
    rw [hverify.mpr (Option.some.inj heq).symm] at hwrong
    cases hwrong
  · refine iff_of_true ⟨_, rfl⟩ ?_
    rw [hverify.mp (Bool.not_eq_false _ ▸ hwrong)]

/-! ### Runs -/

/-- What every state of a run without such registrations satisfies. -/
structure Sound (env : UserRuntime) (s : PasswordState) : Prop where
  regular : s.Regular
  stored : s.Stored env

theorem sound_start : start.Sound env :=
  ⟨⟨fun _ _ _ _ h => (by cases h), fun _ _ h => (by cases h)⟩, fun _ _ _ h => (by cases h)⟩

theorem Sound.step (h : s.Sound env) (hfresh : s.Fresh env toUpperCase c) : (s.step env toUpperCase c).Sound env :=
  have hchange := step_change h.regular hfresh
  ⟨hchange.regular h.regular, hchange.stored h.stored⟩

theorem fresh_of_stored (h : (s.step env toUpperCase c).Stored env) : s.Fresh env toUpperCase c := by
  cases c with
  | register uuid salt dto =>
    intro id row hrestores
    obtain ⟨restored, hpassword, hfind, hrun⟩ := AuthService.run_register_of_restores hrestores salt
    have hstep : s.step env toUpperCase (.register uuid salt dto) =
        { s with
          users := s.users.set id restored
          accepted := Function.update s.accepted id (some dto.password) } := by
      dsimp only [PasswordState.step]
      rw [hrun]
    rw [hstep] at h
    obtain ⟨password, haccepted, hhash⟩ :=
      h id restored dto.password (find_set_self hfind restored) hpassword
    have hgiven : dto.password = password := by
      have hself := Function.update_self id (some dto.password) s.accepted
      exact Option.mem_unique hself haccepted
    rw [← hgiven] at hhash
    exact env.passwords.not_hashOf_self dto.password hhash
  | _ => trivial

theorem Sound.not_resets (h : s.Sound env) (c : PasswordCall) : ¬ s.Resets env c := by
  cases c with
  | resetPassword now token newPassword =>
    rintro ⟨id, expires, user, stored, hrun, -⟩
    rw [AuthService.run_resetPassword h.regular.tokens] at hrun
    cases hrun
  | _ => exact id

theorem Sound.not_takes (h : s.Sound env) (token : String) (c : PasswordCall) : ¬ s.Takes env token c := by
  cases c with
  | resetPassword now token' newPassword =>
    rintro ⟨-, id, hrun⟩
    rw [AuthService.run_resetPassword h.regular.tokens] at hrun
    cases hrun
  | _ => exact id

theorem forall_stored_iff (env : UserRuntime) (toUpperCase : String → String) (calls : List PasswordCall) :
    (∀ n, (Run.after (step env toUpperCase) start (calls.take n)).Stored env) ↔
      Run.Along (step env toUpperCase) (Fresh env toUpperCase) start calls :=
  Run.forall_take_iff_along (I := Sound env) (P := Stored env) (fun _ h => h.stored) (fun _ _ h hc => h.step hc)
    (fun _ _ _ h => fresh_of_stored h) sound_start calls

theorem sound_take {calls : List PasswordCall}
    (h : Run.Along (step env toUpperCase) (Fresh env toUpperCase) start calls) (n : ℕ) :
    (Run.after (step env toUpperCase) start (calls.take n)).Sound env :=
  Run.after_induction (P := Sound env) (fun _ _ hs hc => hs.step hc) sound_start (Run.along_take h n)

theorem along_clear_iff (env : UserRuntime) (toUpperCase : String → String) (calls : List PasswordCall) :
    Run.Along (step env toUpperCase) (fun s c => s.Fresh env toUpperCase c ∧ (s.Due c → s.Resets env c)) start calls ↔
      Run.Along (step env toUpperCase) (Clear env toUpperCase) start calls := by
  refine Run.along_congr (I := Sound env) (fun s c h => ?_) (fun s c h hc => h.step hc.1) sound_start
  exact and_congr_right fun _ => ⟨fun hmeets hdue => h.not_resets c (hmeets hdue), fun hnot hdue => absurd hdue hnot⟩

end PasswordState

open PasswordState in
/-- **Passwords are kept** in the runs in which no registration brings back a removed account and no reset is asked for
with a token that should do, and in no other. -/
theorem passwords_kept_iff (env : UserRuntime) (toUpperCase : String → String) (calls : List PasswordCall) :
    PasswordsKept env toUpperCase .start calls ↔
      Run.Along (step env toUpperCase) (Clear env toUpperCase) .start calls := by
  constructor
  · intro h
    have hfresh := (forall_stored_iff env toUpperCase calls).mp h.stored
    exact (along_clear_iff env toUpperCase calls).mp (Run.along_and.mpr ⟨hfresh, h.resets⟩)
  · intro h
    obtain ⟨hfresh, hresets⟩ := Run.along_and.mp ((along_clear_iff env toUpperCase calls).mpr h)
    have hsound := fun n => sound_take hfresh n
    refine ⟨fun n => (hsound n).stored, fun n => (hsound n).regular.logsIn (hsound n).stored, hresets, ?_⟩
    intro i j c d token _ _ _ htakes
    exact absurd htakes ((hsound i).not_takes token c)

/-- An account is made, removed and made again. -/
def registeredAgain : List PasswordCall :=
  [.register "a1" "salt" ⟨"ada@mail.test", "first-secret", none, none, none, none, none, none, none, by decide⟩,
    .remove 1700000000000 1,
    .register "a2" "salt" ⟨"ada@mail.test", "second-secret", none, none, none, none, none, none, none, by decide⟩]

/-- **The second registration stores its password as it is**, and no login accepts it. -/
theorem restored_password_plain : ¬ PasswordState.PasswordsKept plainUserRuntime id .start registeredAgain := by
  have hrun : ((Run.after (PasswordState.step plainUserRuntime id) .start registeredAgain).users.find 1).bind
      (·.password) = some "second-secret" := by decide
  have haccepted : (Run.after (PasswordState.step plainUserRuntime id) .start registeredAgain).accepted 1 =
      some "second-secret" := by decide
  intro h
  obtain ⟨user, hfind, hpassword⟩ := Option.bind_eq_some_iff.mp hrun
  obtain ⟨password, hlast, hhash⟩ := h.stored 3 1 user "second-secret" hfind hpassword
  have hsame : "second-secret" = password := Option.mem_unique haccepted hlast
  rw [← hsame] at hhash
  exact plainUserRuntime.passwords.not_hashOf_self "second-secret" hhash

end SuuqBackend
