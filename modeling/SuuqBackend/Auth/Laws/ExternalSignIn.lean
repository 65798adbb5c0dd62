import SuuqBackend.Auth.AuthAccounts
import SuuqBackend.Auth.Laws.TokenKinds
import SuuqBackend.Users.Laws.Users

/-!
# Which account a sign-in opens

A token of a provider proves its subject, and the email in it.

An account that is removed is looked up with `LIKE`, and a sign-in with Apple takes an address from the body.  These are
the two ways to another account.
-/

namespace SuuqBackend

open Proc UsersService AuthService

inductive ExternalLogin where
  | google (idToken : String)
  | apple (dto : AppleAuthDto)

/-- The configuration has the lifetimes of both tokens. -/
def AuthConfig.IssuesSessions {τ : Type} (config : AuthConfig τ) : Prop :=
  config.jwtExpiresIn.isSome = true ∧ config.jwtRefreshExpiresIn.isSome = true

def UserAccount.HasAddress (env : UserRuntime) (row : UserAccount) (email : String) : Prop :=
  match row.deletedAt with
  | none => env.normalize row.email = env.normalize email
  | some _ => row.deletedBy = some (deletedByOf (env.normalize email))

namespace ExternalLogin

variable {τ : Type} (config : AuthConfig τ) (env : LoginRuntime) (S : AccessStore)

def signIn : ExternalLogin → AccessProc (LoginResult τ)
  | google idToken => googleLogin config env idToken
  | apple dto => appleLogin config env dto

/-- **The token proves the account**: it is linked to the subject, or has the email of the token. -/
def Proves (row : UserAccount) : ExternalLogin → Prop
  | google idToken => ∃ payload email, verifyGoogleToken env idToken = .ok (payload, email) ∧
      (row.googleId = some payload.sub ∨ row.HasAddress env.toUserRuntime email)
  | apple dto => ∃ payload sub, verifyAppleToken env dto = .ok (payload, sub) ∧
      (row.appleId = some sub ∨ ∃ email, payload.email = some email ∧ row.HasAddress env.toUserRuntime email)

/-- **The accounts that the sign-in opens are proved** by its token, of those that are stored. -/
def OpensOwn (login : ExternalLogin) : Prop :=
  ∀ result row, (run (login.signIn config env) S).1 = .ok result → S.users.find result.userId = some row →
    login.Proves env row

end ExternalLogin

/-! ### The session -/

namespace AuthService

variable {τ : Type} (config : AuthConfig τ) (env : LoginRuntime)

theorem raises_claimInvite (now : ℤ) (userId : ℕ) (found : ℕ × StaffInvite) :
    Raises (fun _ => False) (claimInvite now userId found) := by
  refine (raises_read _).bind fun claimable => ?_
  cases claimable
  · exact raises_write _
  · exact (raises_write _).bind fun _ => raises_write _

variable (userId : ℕ) (user : UserAccount)

theorem raises_claimPendingPosBranchInvites :
    Raises (fun _ => False) (claimPendingPosBranchInvites env userId user) := by
  refine .ite (raises_pure 0) fun S => Proc.RaisesFrom.transaction ?_
  refine Raises.bind (raises_read id) (fun T => ?_) S
  have hround := raises_forEach (raises_claimInvite env.now userId)
    (T.staffInvites.list fun row => row.email = env.normalize user.email && row.isActive)
  exact hround.bind fun _ => raises_pure _

theorem openSession_isOk_iff (S : AccessStore) :
    (∃ tokens, (run (openSession config env userId user) S).1 = .ok tokens) ↔ config.IssuesSessions := by
  unfold openSession
  rcases hclaim : run (claimPendingPosBranchInvites env userId user) S with ⟨e | count, S'⟩
  · exact absurd hclaim fun h => raises_claimPendingPosBranchInvites env userId user S S' e h
  · rw [run_bind_of_ok hclaim]
    unfold generateTokens AuthConfig.IssuesSessions
    cases config.jwtExpiresIn <;> cases config.jwtRefreshExpiresIn <;> simp

end AuthService

/-! ### Accounts that are brought back -/

namespace UsersService

variable {env : UserRuntime} {users : UserTable}

theorem Restorable.unique {email : String} {patch patch' : UserPatch} {id id' : ℕ} {row row' : UserAccount}
    (h : Restorable env users email patch id row) (h' : Restorable env users email patch' id' row') :
    id = id' ∧ row = row' := by
  have heq := Option.mem_unique h.2.1 h'.2.1
  exact ⟨congrArg Prod.fst heq, congrArg Prod.snd heq⟩

theorem Restorable.removed {email : String} {patch : UserPatch} {id : ℕ} {row : UserAccount}
    (h : Restorable env users email patch id row) : users.find id = some row ∧ row.deletedAt.isSome = true := by
  obtain ⟨hfind, hmeets⟩ := SerialTable.find_of_first h.2.1
  exact ⟨hfind, (Bool.and_eq_true _ _ ▸ hmeets).1⟩

/-- **`restoreDeletedUserByEmail`** finds nothing, fails or brings an account back. -/
theorem restoreDeletedUserByEmail_cases (env : UserRuntime) (email : String) (patch : UserPatch) (users : UserTable) :
    ((∀ patch' id row, ¬ Restorable env users (env.normalize email) patch' id row) ∧
        run (restoreDeletedUserByEmail env email patch) users = (.ok none, users)) ∨
      ((∀ id row, ¬ Restorable env users (env.normalize email) patch id row) ∧
        ∃ e, run (restoreDeletedUserByEmail env email patch) users = (.error e, users)) ∨
      ∃ id row, Restorable env users (env.normalize email) patch id row ∧
        run (restoreDeletedUserByEmail env email patch) users =
          (.ok (some (id, restoredRow row (env.normalize email) patch)),
            users.set id (restoredRow row (env.normalize email) patch)) := by
  rw [run_restoreDeletedUserByEmail]
  cases hfound : (if env.normalize email = "" then none else deletedUser env users (env.normalize email)) with
  | none =>
    refine .inl ⟨fun patch' id row h => ?_, rfl⟩
    rw [if_neg h.1, h.2.1] at hfound
    cases hfound
  | some found =>
    obtain ⟨id, row⟩ := found
    obtain ⟨hempty, hdeleted⟩ := Option.ite_none_left_eq_some.mp hfound
    dsimp only
    split_ifs with hconflict
    · refine .inr (.inl ⟨fun id' row' h => ?_, _, rfl⟩)
      obtain ⟨rfl, rfl⟩ := Prod.mk.inj (Option.mem_unique hdeleted h.2.1)
      exact Bool.false_ne_true (h.2.2.symm.trans hconflict)
    · exact .inr (.inr ⟨id, row, ⟨hempty, hdeleted, Bool.not_eq_true _ ▸ hconflict⟩, rfl⟩)

/-- **Which stored account a profile opens**: the one that it brings back. -/
theorem createWithProfile_existing_iff (env : UserRuntime) (email : String) (profile : UserPatch) (users : UserTable)
    (id : ℕ) (row : UserAccount) :
    ((∃ user, (run (createWithProfile env email profile) users).1 = .ok (id, user)) ∧ users.find id = some row) ↔
      Restorable env users (env.normalize email) profile id row := by
  unfold createWithProfile
  obtain ⟨hnone, hrun⟩ | ⟨hnone, e, hrun⟩ | ⟨id', row', hrestorable, hrun⟩ :=
    restoreDeletedUserByEmail_cases env email profile users
  · rw [run_bind_of_ok hrun]
    rw [run_read_bind, run_throwIf_bind]
    refine iff_of_false ?_ (hnone profile id row)
    rintro ⟨⟨user, hok⟩, hfind⟩
    -- what is made has an id that no row has
    split_ifs at hok with hexisting
    obtain ⟨made, users', hinsert, hreturn⟩ := run_bind_eq_ok.mp (Prod.ext hok rfl)
    rw [run_insertUser] at hinsert
    split_ifs at hinsert with hconflict
    · cases hinsert
    · obtain ⟨hmade, -⟩ := Prod.mk.inj hinsert
      obtain ⟨hid, -⟩ := Prod.mk.inj (Except.ok.inj (congrArg Prod.fst hreturn))
      rw [← hid, ← Except.ok.inj hmade, SerialTable.find_next] at hfind
      cases hfind
  · rw [run_bind_of_error hrun]
    exact iff_of_false (fun ⟨⟨_, hok⟩, _⟩ => (by cases hok)) (hnone id row)
  · rw [run_bind_of_ok hrun]
    constructor
    · rintro ⟨⟨user, hok⟩, hfind⟩
      obtain ⟨rfl, -⟩ := Prod.mk.inj (Except.ok.inj hok)
      obtain rfl := Option.mem_unique hfind hrestorable.removed.1
      exact hrestorable
    · intro h
      obtain ⟨rfl, rfl⟩ := h.unique hrestorable
      exact ⟨⟨_, rfl⟩, h.removed.1⟩

end UsersService

/-! ### The accounts that a sign-in opens -/

namespace AuthService

variable {env : LoginRuntime} {users : UserTable}

/-- **Which stored account `googleLogin` opens**: the live one of the address, or the removed one it brings back. -/
theorem googleAccount_existing_iff (payload : GooglePayload) (email : String) (id : ℕ) (row : UserAccount) :
    ((∃ user created, (run (googleAccount env payload email) users).1 = .ok (id, user, created)) ∧
        users.find id = some row) ↔
      (users.firstLive (fun row => row.email = email) = some (id, row) ∧ row.isActive = true) ∨
        (users.firstLive (fun row => row.email = email) = none ∧
          Restorable env.toUserRuntime users (env.normalize email) (googlePatch payload) id row) := by
  unfold googleAccount
  rw [run_bind_of_ok (run_findByEmail email users)]
  cases hlive : users.firstLive fun row => row.email = email with
  | some found =>
    obtain ⟨id', user⟩ := found
    have hfind := (UserTable.findLive_eq_some_iff.mp (firstLive_eq_some hlive).1).1
    rw [run_throwIf_bind]
    constructor
    · rintro ⟨⟨user', created, hok⟩, hrow⟩
      split_ifs at hok with hinactive
      obtain ⟨rfl, -⟩ := Prod.mk.inj (Except.ok.inj hok)
      obtain rfl := Option.mem_unique hrow hfind
      exact .inl ⟨rfl, Bool.not_eq_false _ ▸ hinactive⟩
    · rintro (⟨hsame, hactive⟩ | ⟨hnone, -⟩)
      · obtain ⟨rfl, rfl⟩ := Prod.mk.inj (Option.some.inj hsame)
        rw [if_neg (by rw [hactive]; exact Bool.noConfusion)]
        exact ⟨⟨user, false, rfl⟩, hfind⟩
      · cases hnone
  | none =>
    have hprofile := createWithProfile_existing_iff env.toUserRuntime email
      { displayName := some (payload.name.getD ""), avatarUrl := payload.picture, googleId := some payload.sub
        roles := some [.customer] } users id row
    obtain ⟨hnone, hrun⟩ | ⟨hnone, e, hrun⟩ | ⟨id', row', hrestorable, hrun⟩ :=
      restoreDeletedUserByEmail_cases env.toUserRuntime email (googlePatch payload) users
    · rw [run_bind_of_ok hrun]
      refine iff_of_false ?_ fun h => h.elim (fun h => (by cases h.1)) fun h => hnone _ id row h.2
      rintro ⟨⟨user, created, hok⟩, hfind⟩
      obtain ⟨made, users', hmade, hreturn⟩ := run_bind_eq_ok.mp (Prod.ext hok rfl)
      obtain ⟨hid, -⟩ := Prod.mk.inj (Except.ok.inj (congrArg Prod.fst hreturn))
      refine hnone _ id row (hprofile.mp ⟨⟨made.2, ?_⟩, hfind⟩)
      rw [← hid]
      exact congrArg Prod.fst hmade
    · rw [run_bind_of_error hrun]
      exact iff_of_false (fun ⟨⟨_, _, hok⟩, _⟩ => (by cases hok))
        fun h => h.elim (fun h => (by cases h.1)) fun h => hnone id row h.2
    · rw [run_bind_of_ok hrun]
      constructor
      · rintro ⟨⟨user, created, hok⟩, hfind⟩
        obtain ⟨rfl, -⟩ := Prod.mk.inj (Except.ok.inj hok)
        obtain rfl := Option.mem_unique hfind hrestorable.removed.1
        exact .inr ⟨rfl, hrestorable⟩
      · rintro (⟨hsome, -⟩ | ⟨-, h⟩)
        · cases hsome
        · obtain ⟨rfl, rfl⟩ := h.unique hrestorable
          exact ⟨⟨_, _, rfl⟩, h.removed.1⟩

/-- The live account of a subject, or else that of an address. -/
def appleUser (users : UserTable) (sub email : String) : Option (ℕ × UserAccount) :=
  (users.firstLive fun row => row.appleId = some sub).or
    (if email = "" then none else users.firstLive fun row => row.email = email)

theorem run_findAppleUser (sub email : String) (users : UserTable) :
    run (findAppleUser sub email) users = (.ok (appleUser users sub email), users) := by
  unfold findAppleUser appleUser
  rw [run_bind_of_ok (run_findByAppleId sub users)]
  cases users.firstLive fun row => row.appleId = some sub with
  | some found => rfl
  | none =>
    split_ifs with hempty
    · rfl
    · rw [run_bind_of_ok (run_findByEmail email users)]
      cases hlive : users.firstLive fun row => row.email = email with
      | none => rfl
      | some found =>
        obtain ⟨id, user⟩ := found
        have hfound := (firstLive_eq_some hlive).1
        have hignored : ∀ change ∈ [UserUpdate.appleId (some sub)], change.column ∉ allowedFields := by
          intro change hmem
          obtain rfl := List.mem_singleton.mp hmem
          show "appleId" ∉ allowedFields
          decide
        have hfind := run_findById id users
        rw [hfound] at hfind
        rw [run_bind_of_ok (run_update_ignored hignored hfound), run_bind_of_ok hfind]
        rfl

/-- What `appleLogin` gives to `restoreDeletedUserByEmail`. -/
def applePatch (dto : AppleAuthDto) (sub : String) : UserPatch :=
  { displayName := dto.name, appleId := some sub, roles := some [.customer] }

theorem find_of_appleUser {sub email : String} {id : ℕ} {user : UserAccount}
    (h : appleUser users sub email = some (id, user)) : users.findLive id = some user := by
  obtain h | ⟨-, h⟩ := Option.or_eq_some_iff.mp h
  · exact (firstLive_eq_some h).1
  · exact (firstLive_eq_some (Option.ite_none_left_eq_some.mp h).2).1

/-- **Which stored account `appleLogin` opens**: the live one, or the removed one that it brings back. -/
theorem appleAccount_existing_iff (dto : AppleAuthDto) (sub email : String) (id : ℕ) (row : UserAccount) :
    ((∃ user, (run (appleAccount env dto sub email) users).1 = .ok (id, user)) ∧ users.find id = some row) ↔
      (appleUser users sub email = some (id, row) ∧ row.isActive = true) ∨
        (appleUser users sub email = none ∧ email ≠ "" ∧
          Restorable env.toUserRuntime users (env.normalize email) (applePatch dto sub) id row) := by
  unfold appleAccount
  rw [run_bind_of_ok (run_findAppleUser sub email users)]
  cases hfound : appleUser users sub email with
  | some found =>
    obtain ⟨id', user⟩ := found
    have hfind := (UserTable.findLive_eq_some_iff.mp (find_of_appleUser hfound)).1
    rw [run_throwIf_bind]
    constructor
    · rintro ⟨⟨user', hok⟩, hrow⟩
      split_ifs at hok with hinactive
      obtain ⟨rfl, -⟩ := Prod.mk.inj (Except.ok.inj hok)
      obtain rfl := Option.mem_unique hrow hfind
      exact .inl ⟨rfl, Bool.not_eq_false _ ▸ hinactive⟩
    · rintro (⟨hsame, hactive⟩ | ⟨hnone, -⟩)
      · obtain ⟨rfl, rfl⟩ := Prod.mk.inj (Option.some.inj hsame)
        rw [if_neg (by rw [hactive]; exact Bool.noConfusion)]
        exact ⟨⟨user, rfl⟩, hfind⟩
      · cases hnone
  | none =>
    have hprofile := createWithProfile_existing_iff env.toUserRuntime email (applePatch dto sub) users id row
    rw [run_throwIf_bind]
    split_ifs with hempty
    · exact iff_of_false (fun ⟨⟨_, hok⟩, _⟩ => (by cases hok))
        fun h => h.elim (fun h => (by cases h.1)) fun h => h.2.1 hempty
    · refine hprofile.trans ⟨fun h => .inr ⟨rfl, hempty, h⟩, ?_⟩
      rintro (⟨hsome, -⟩ | ⟨-, -, h⟩)
      · cases hsome
      · exact h

theorem normalize_appleEmail (env : LoginRuntime) (dto : AppleAuthDto) (payload : ApplePayload) :
    env.normalize (appleEmail env dto payload) = appleEmail env dto payload :=
  normalize_normalize env.toUserRuntime _

variable {τ : Type}

variable (config : AuthConfig τ)

theorem session_isOk_iff {α : Type} (p : UserProc α) (chosen : α → ℕ × UserAccount)
    (respond : α → AuthTokens τ → LoginResult τ) (hid : ∀ a tokens, (respond a tokens).userId = (chosen a).1)
    (S : AccessStore) (id : ℕ) : (∃ result, (run (zoom AccessStore.userLens p >>= fun a =>
        openSession config env (chosen a).1 (chosen a).2 >>= fun tokens => pure (respond a tokens)) S).1 = .ok result ∧
          result.userId = id) ↔ config.IssuesSessions ∧ ∃ a, (run p S.users).1 = .ok a ∧ (chosen a).1 = id := by
  rcases hrun : run p S.users with ⟨e | a, users'⟩
  · have hzoom := run_zoom_of (L := AccessStore.userLens) (t := S) hrun
    rw [run_bind_of_error hzoom]
    exact iff_of_false (fun ⟨_, hok, _⟩ => (by cases hok)) fun ⟨_, _, hok, _⟩ => (by cases hok)
  · have hzoom := run_zoom_of (L := AccessStore.userLens) (t := S) hrun
    have hopens := openSession_isOk_iff config env (chosen a).1 (chosen a).2 (AccessStore.userLens.set S users')
    rw [run_bind_of_ok hzoom, ← hopens]
    constructor
    · rintro ⟨result, hok, hresult⟩
      obtain ⟨tokens, S', hsession, hreturn⟩ := run_bind_eq_ok.mp (Prod.ext hok rfl)
      obtain rfl := Except.ok.inj (congrArg Prod.fst hreturn)
      exact ⟨⟨tokens, congrArg Prod.fst hsession⟩, a, rfl, (hid a tokens).symm.trans hresult⟩
    · rintro ⟨⟨tokens, hok⟩, a', ha, rfl⟩
      obtain rfl := Except.ok.inj ha
      refine ⟨respond a tokens, ?_, hid a tokens⟩
      rw [run_bind_of_ok (Prod.ext hok rfl)]
      rfl

/-- **`googleLogin`** opens the account that it chooses. -/
theorem googleLogin_isOk_iff (idToken : String) (S : AccessStore) (id : ℕ) :
    (∃ result, (run (googleLogin config env idToken) S).1 = .ok result ∧ result.userId = id) ↔
      config.IssuesSessions ∧ ∃ payload email, verifyGoogleToken env idToken = .ok (payload, email) ∧
        ∃ user created, (run (googleAccount env payload email) S.users).1 = .ok (id, user, created) := by
  unfold googleLogin
  cases hverified : verifyGoogleToken env idToken with
  | error e => exact iff_of_false (fun ⟨_, hok, _⟩ => (by cases hok)) fun ⟨_, _, _, hok, _⟩ => (by cases hok)
  | ok verified =>
    obtain ⟨payload, email⟩ := verified
    refine (session_isOk_iff config (googleAccount env payload email) (fun a => (a.1, a.2.1))
      (fun a tokens => { userId := a.1, tokens, isNewUser := some a.2.2 }) (fun _ _ => rfl) S id).trans
      (and_congr_right fun _ => ?_)
    constructor
    · rintro ⟨⟨id', user, created⟩, hok, rfl⟩
      exact ⟨payload, email, rfl, user, created, hok⟩
    · rintro ⟨payload', email', hsame, user, created, hok⟩
      obtain ⟨rfl, rfl⟩ := Prod.mk.inj (Except.ok.inj hsame)
      exact ⟨_, hok, rfl⟩

/-- **`appleLogin`** opens the account that it chooses. -/
theorem appleLogin_isOk_iff (dto : AppleAuthDto) (S : AccessStore) (id : ℕ) :
    (∃ result, (run (appleLogin config env dto) S).1 = .ok result ∧ result.userId = id) ↔
      config.IssuesSessions ∧ ∃ payload sub, verifyAppleToken env dto = .ok (payload, sub) ∧
        ∃ user, (run (appleAccount env dto sub (appleEmail env dto payload)) S.users).1 = .ok (id, user) := by
  unfold appleLogin
  cases hverified : verifyAppleToken env dto with
  | error e => exact iff_of_false (fun ⟨_, hok, _⟩ => (by cases hok)) fun ⟨_, _, _, hok, _⟩ => (by cases hok)
  | ok verified =>
    obtain ⟨payload, sub⟩ := verified
    refine (session_isOk_iff config (appleAccount env dto sub (appleEmail env dto payload)) (fun a => a)
      (fun a tokens => { userId := a.1, tokens }) (fun _ _ => rfl) S _).trans (and_congr_right fun _ => ?_)
    constructor
    · rintro ⟨⟨id', user⟩, hok, rfl⟩
      exact ⟨payload, sub, rfl, user, hok⟩
    · rintro ⟨payload', sub', hsame, user, hok⟩
      obtain ⟨rfl, rfl⟩ := Prod.mk.inj (Except.ok.inj hsame)
      exact ⟨_, hok, rfl⟩

end AuthService

/-! ### When they are proved -/

namespace ExternalLogin

variable {τ : Type} (config : AuthConfig τ) (env : LoginRuntime) (S : AccessStore)

/-- The removed account that `googleLogin` would bring back for an address without a live account had this address. -/
def GoogleClear (payload : GooglePayload) (email : String) : Prop :=
  S.users.firstLive (fun row => row.email = email) = none → ∀ id row,
    Restorable env.toUserRuntime S.users (env.normalize email) (googlePatch payload) id row →
      row.googleId = some payload.sub ∨ row.deletedBy = some (deletedByOf (env.normalize email))

/-- Without a live account of the subject: an active account of the address that is used has that of the token, and the
removed account that `appleLogin` would bring back for it had that of the token. -/
def AppleClear (dto : AppleAuthDto) (payload : ApplePayload) (sub email : String) : Prop :=
  S.users.firstLive (fun row => row.appleId = some sub) = none → email ≠ "" →
    match S.users.firstLive fun row => row.email = email with
    | some (_, row) => row.isActive = true → payload.email.map env.normalize = some email
    | none => ∀ id row, Restorable env.toUserRuntime S.users email (applePatch dto sub) id row →
        row.appleId = some sub ∨ ∃ given, payload.email = some given ∧
          row.deletedBy = some (deletedByOf (env.normalize given))

/-- The sign-in has no way to an account of another. -/
def Clear : ExternalLogin → Prop
  | google idToken => ∀ payload email, verifyGoogleToken env idToken = .ok (payload, email) →
      GoogleClear env S payload email
  | apple dto => ∀ payload sub, verifyAppleToken env dto = .ok (payload, sub) →
      AppleClear env S dto payload sub (appleEmail env dto payload)

variable {config env S}

variable {row : UserAccount}

theorem hasAddress_of_live (h : row.deletedAt = none) {email : String} :
    row.HasAddress env.toUserRuntime email ↔ env.normalize row.email = env.normalize email := by
  unfold UserAccount.HasAddress
  rw [h]

theorem hasAddress_of_removed (h : row.deletedAt.isSome = true) {email : String} :
    row.HasAddress env.toUserRuntime email ↔ row.deletedBy = some (deletedByOf (env.normalize email)) := by
  obtain ⟨time, htime⟩ := Option.isSome_iff_exists.mp h
  unfold UserAccount.HasAddress
  rw [htime]

theorem google_opensOwn_iff (hissues : config.IssuesSessions) (idToken : String) :
    (google idToken).OpensOwn config env S ↔ (google idToken).Clear env S := by
  constructor
  · intro hown payload email hverified hlive id row hrestorable
    obtain ⟨⟨user, created, hok⟩, hfind⟩ :=
      (googleAccount_existing_iff payload email id row).mpr (.inr ⟨hlive, hrestorable⟩)
    obtain ⟨result, hresult, rfl⟩ := (googleLogin_isOk_iff config idToken S id).mpr
      ⟨hissues, payload, email, hverified, user, created, hok⟩
    obtain ⟨payload', email', hsame, hproved⟩ := hown result row hresult hfind
    obtain ⟨rfl, rfl⟩ := Prod.mk.inj (Except.ok.inj (hverified.symm.trans hsame))
    exact hproved.imp_right (hasAddress_of_removed hrestorable.removed.2).mp
  · intro hclear result row hresult hfind
    obtain ⟨-, payload, email, hverified, user, created, hok⟩ :=
      (googleLogin_isOk_iff config idToken S result.userId).mp ⟨result, hresult, rfl⟩
    refine ⟨payload, email, hverified, ?_⟩
    obtain ⟨hlive, -⟩ | ⟨hlive, hrestorable⟩ :=
      (googleAccount_existing_iff payload email _ row).mp ⟨⟨user, created, hok⟩, hfind⟩
    · obtain ⟨hfound, hemail⟩ := firstLive_eq_some hlive
      have hnotRemoved := (UserTable.findLive_eq_some_iff.mp hfound).2
      exact .inr ((hasAddress_of_live hnotRemoved).mpr (congrArg env.normalize (of_decide_eq_true hemail)))
    · exact (hclear payload email hverified hlive _ row hrestorable).imp_right
        (hasAddress_of_removed hrestorable.removed.2).mpr

theorem appleId_ne_of_none {users : UserTable} {sub : String}
    (h : users.firstLive (fun row => row.appleId = some sub) = none) {id : ℕ}
    (hlive : users.findLive id = some row) : row.appleId ≠ some sub := by
  intro happle
  obtain ⟨hfind, hnotRemoved⟩ := UserTable.findLive_eq_some_iff.mp hlive
  have hmeets := SerialTable.any_find_of_first_eq_none h id
  rw [hfind, Option.any_some, decide_eq_true hnotRemoved, Bool.true_and, decide_eq_false_iff_not] at hmeets
  exact hmeets happle

theorem apple_opensOwn_iff (hissues : config.IssuesSessions) (dto : AppleAuthDto) :
    (apple dto).OpensOwn config env S ↔ (apple dto).Clear env S := by
  constructor
  · intro hown payload sub hverified
    have hnormalized := normalize_appleEmail env dto payload
    have hproves : ∀ id row, (∃ user, (run (appleAccount env dto sub
        (appleEmail env dto payload)) S.users).1 = .ok (id, user)) ∧ S.users.find id = some row →
          row.appleId = some sub ∨ ∃ email, payload.email = some email ∧ row.HasAddress env.toUserRuntime email := by
      rintro id row ⟨⟨user, hok⟩, hfind⟩
      obtain ⟨result, hresult, rfl⟩ := (appleLogin_isOk_iff config dto S id).mpr
        ⟨hissues, payload, sub, hverified, user, hok⟩
      obtain ⟨payload', sub', hsame, hproved⟩ := hown result row hresult hfind
      obtain ⟨rfl, rfl⟩ := Prod.mk.inj (Except.ok.inj (hverified.symm.trans hsame))
      exact hproved
    generalize appleEmail env dto payload = email at hnormalized hproves
    intro hlinked hempty
    have happleUser : appleUser S.users sub email = S.users.firstLive fun row => row.email = email := by
      unfold appleUser
      rw [hlinked, Option.none_or, if_neg hempty]
    split
    next id row hlive =>
      intro hactive
      obtain ⟨hfound, hemail⟩ := firstLive_eq_some hlive
      obtain happle | ⟨given, hgiven, haddress⟩ := hproves id row ((appleAccount_existing_iff dto sub email
        id row).mpr (.inl ⟨happleUser.trans hlive, hactive⟩))
      · exact absurd happle (appleId_ne_of_none hlinked hfound)
      · have hsame := (hasAddress_of_live (UserTable.findLive_eq_some_iff.mp hfound).2).mp haddress
        rw [of_decide_eq_true hemail, hnormalized] at hsame
        rw [hgiven, hsame]
        rfl
    next hlive =>
      intro id row hrestorable
      have hproved := hproves id row ((appleAccount_existing_iff dto sub email id row).mpr
        (.inr ⟨happleUser.trans hlive, hempty, hnormalized.symm ▸ hrestorable⟩))
      refine hproved.imp_right ?_
      rintro ⟨given, hgiven, haddress⟩
      exact ⟨given, hgiven, (hasAddress_of_removed hrestorable.removed.2).mp haddress⟩
  · intro hclear result row hresult hfind
    obtain ⟨-, payload, sub, hverified, user, hok⟩ :=
      (appleLogin_isOk_iff config dto S result.userId).mp ⟨result, hresult, rfl⟩
    have hnormalized := normalize_appleEmail env dto payload
    refine ⟨payload, sub, hverified, ?_⟩
    have hcase := hclear payload sub hverified
    obtain ⟨hfound, hactive⟩ | ⟨hfound, hempty, hrestorable⟩ :=
      (appleAccount_existing_iff dto sub _ _ row).mp ⟨⟨user, hok⟩, hfind⟩
    · obtain hlinked | ⟨hlinked, hlive⟩ := Option.or_eq_some_iff.mp hfound
      · exact .inl (of_decide_eq_true (firstLive_eq_some hlinked).2)
      · obtain ⟨hempty, hlive⟩ := Option.ite_none_left_eq_some.mp hlive
        obtain ⟨hstored, hemail⟩ := firstLive_eq_some hlive
        have haddress := hcase hlinked hempty
        rw [hlive] at haddress
        obtain ⟨given, hgiven, hsame⟩ := Option.map_eq_some_iff.mp (haddress hactive)
        refine .inr ⟨given, hgiven, (hasAddress_of_live (UserTable.findLive_eq_some_iff.mp hstored).2).mpr ?_⟩
        rw [of_decide_eq_true hemail, hnormalized]
        exact hsame.symm
    · obtain ⟨hlinked, hlive⟩ := Option.or_eq_none_iff.mp hfound
      rw [if_neg hempty] at hlive
      have hremoved := hcase hlinked hempty
      rw [hlive] at hremoved
      rw [hnormalized] at hrestorable
      refine (hremoved _ row hrestorable).imp_right ?_
      rintro ⟨given, hgiven, hdeletedBy⟩
      exact ⟨given, hgiven, (hasAddress_of_removed hrestorable.removed.2).mpr hdeletedBy⟩

end ExternalLogin

/-- **When a sign-in opens own accounts only**: when no session can be issued, or the address and the removed account
that it goes by are those of the token. -/
theorem opens_own_iff {τ : Type} (config : AuthConfig τ) (env : LoginRuntime) (S : AccessStore)
    (login : ExternalLogin) : login.OpensOwn config env S ↔ (config.IssuesSessions → login.Clear env S) := by
  by_cases hissues : config.IssuesSessions
  · have hiff : login.OpensOwn config env S ↔ login.Clear env S := by
      cases login with
      | google idToken => exact ExternalLogin.google_opensOwn_iff hissues idToken
      | apple dto => exact ExternalLogin.apple_opensOwn_iff hissues dto
    exact hiff.trans ⟨fun h _ => h, fun h => h hissues⟩
  · refine iff_of_true (fun result row hresult _ => ?_) fun h => absurd h hissues
    cases login with
    | google idToken =>
      have hopened := (googleLogin_isOk_iff config idToken S result.userId).mp ⟨result, hresult, rfl⟩
      exact absurd hopened.1 hissues
    | apple dto =>
      have hopened := (appleLogin_isOk_iff config dto S result.userId).mp ⟨result, hresult, rfl⟩
      exact absurd hopened.1 hissues

/-- Apple knows the caller by another address than that of the customer. -/
def strangerRuntime : LoginRuntime where
  toUserRuntime := plainUserRuntime
  now := 1700000000000
  verifyApple _ _ := some { sub := some "000123.stranger", email := some "stranger@mail.test" }
  appleAudiences := some "com.suuq.app"

/-- The sign-in with the address of the customer in its body. -/
def strangerLogin : AppleAuthDto :=
  { identityToken := some "token-of-the-stranger", email := some "customer@suuq.com" }

/-- **A stranger signs in as the customer**, by naming its address. -/
theorem stranger_opens_customer :
    ¬ (ExternalLogin.apple strangerLogin).OpensOwn sampleConfig strangerRuntime oneCustomer := by
  have hopened : (run (appleLogin sampleConfig strangerRuntime strangerLogin) oneCustomer).1.map
      (fun result => result.userId) = .ok 1 := by decide
  intro hown
  cases hresult : (run (appleLogin sampleConfig strangerRuntime strangerLogin) oneCustomer).1 with
  | error e =>
    rw [hresult] at hopened
    cases hopened
  | ok result =>
    rw [hresult] at hopened
    have hid : result.userId = 1 := Except.ok.inj hopened
    have hfind : oneCustomer.users.find result.userId = some sampleCustomer := by
      rw [hid]
      rfl
    obtain ⟨payload, sub, hverified, hproved⟩ := hown result sampleCustomer hresult hfind
    have hpayload : verifyAppleToken strangerRuntime strangerLogin =
        .ok (⟨some "000123.stranger", some "stranger@mail.test"⟩, "000123.stranger") := by decide
    obtain ⟨rfl, rfl⟩ := Prod.mk.inj (Except.ok.inj (hpayload.symm.trans hverified))
    obtain happle | ⟨email, hemail, haddress⟩ := hproved
    · cases happle
    · obtain rfl := Option.some.inj hemail
      have hdistinct : strangerRuntime.normalize sampleCustomer.email ≠
          strangerRuntime.normalize "stranger@mail.test" := by decide
      exact hdistinct haddress

end SuuqBackend
