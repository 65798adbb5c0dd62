import SuuqBackend.Auth.AuthTokens

/-!
# The kinds of tokens

An access token is signed with `JWT_SECRET`, says nothing of its type, and `refreshToken` tries `JWT_SECRET` last: so it
is taken for a refresh token until five seconds after its expiry.  `token_kinds_separate_iff` says of a chain of calls,
each with a token that the one before gave, when the kinds are kept apart in it.
-/

namespace SuuqBackend

open AuthService

inductive TokenKind where
  | access
  | posSession
  | refresh
deriving DecidableEq

/-- A token that somebody holds, and what it was issued as. -/
structure HeldToken (τ : Type) where
  token : τ
  kind : TokenKind

/-- How the first token of a chain is issued: one of the two of a session, or that of a POS session. -/
inductive TokenIssue where
  | session (S : AccessStore) (now : ℤ) (id : ℕ) (user : UserAccount) (asRefresh : Bool)
  | posSession (now : ℤ) (claims : SessionClaims) (expiresIn : Option ℕ)

/-- A call with the token that is held: `refreshToken`, whose refresh token or access token is held from then on, or any
request. -/
inductive TokenCall where
  | refreshToken (S : AccessStore) (now : ℤ) (keepsRefresh : Bool)
  | request (now : ℤ)

section TokenKinds

variable {τ : Type} (config : AuthConfig τ)

def AuthTokens.held (tokens : AuthTokens τ) (asRefresh : Bool) : HeldToken τ :=
  if asRefresh then ⟨tokens.refreshToken, .refresh⟩ else ⟨tokens.accessToken, .access⟩

def TokenIssue.held : TokenIssue → Option (HeldToken τ)
  | session S now id user asRefresh =>
    (generateTokens config S now id user).toOption.map fun tokens => tokens.held asRefresh
  | posSession now claims expiresIn =>
    some ⟨generateScopedAccessToken config now claims expiresIn, .posSession⟩

namespace HeldToken

def Accepted (held : HeldToken τ) : TokenCall → Prop
  | .refreshToken S now _ => (refreshToken config S now held.token).isOk = true
  | .request now => (JwtStrategy.authenticate config now held.token).isOk = true

def IsFor (held : HeldToken τ) : TokenCall → Prop
  | .refreshToken _ _ _ => held.kind = .refresh
  | .request _ => held.kind ≠ .refresh

def step (held : HeldToken τ) : TokenCall → HeldToken τ
  | .refreshToken S now keepsRefresh =>
    match refreshToken config S now held.token with
    | .ok tokens => tokens.held keepsRefresh
    | .error _ => held
  | .request _ => held

/-- Every payload of the token expires by a time. -/
def ExpiresBy (held : HeldToken τ) (expiry : ℤ) : Prop :=
  ∀ key payload, config.scheme.openWith key held.token = some payload → payload.exp ≤ expiry

/-- **The kinds of tokens are kept apart in a chain of calls**: each call takes only tokens of its kind, and from an
access token nothing is got that lasts longer. -/
structure KindsSeparate (held : HeldToken τ) (calls : List TokenCall) : Prop where
  accepted : Run.Along (step config) (fun held c => held.Accepted config c → held.IsFor c) held calls
  lasting : held.kind = .access → ∀ expiry, held.ExpiresBy config expiry → ∀ n,
    (Run.after (step config) held (calls.take n)).ExpiresBy config expiry

/-- `refreshToken` can take the token for a refresh token although it was signed with `JWT_SECRET`: it has not expired
five seconds ago, has no other type, and its user is active. -/
def Refreshable (S : AccessStore) (now : ℤ) (held : HeldToken τ) : Prop :=
  ∃ payload, config.scheme.openWith config.jwtSecret held.token = some payload ∧ unexpired now 5 payload = true ∧
    (payload.tokenType.filter (· ≠ "")).all (· = "refresh") = true ∧
      (S.users.findLive payload.sub).any (·.isActive) = true ∧
        config.jwtExpiresIn.isSome ∧ config.jwtRefreshExpiresIn.isSome

/-- The strategy can take a refresh token: no secret of its own is configured, and it has not expired. -/
def Presentable (now : ℤ) (held : HeldToken τ) : Prop :=
  config.jwtRefreshSecret.all (· = "") = true ∧
    ∃ payload, config.scheme.openWith config.jwtSecret held.token = some payload ∧ unexpired now 0 payload = true

def Clear (held : HeldToken τ) : TokenCall → Prop
  | .refreshToken S now _ => held.kind ≠ .refresh → ¬ held.Refreshable config S now
  | .request now => held.kind = .refresh → ¬ held.Presentable config now

end HeldToken

/-! ### What is accepted -/

theorem isOk_generateTokens (S : AccessStore) (now : ℤ) (id : ℕ) (user : UserAccount) :
    (generateTokens config S now id user).isOk = true ↔
      config.jwtExpiresIn.isSome ∧ config.jwtRefreshExpiresIn.isSome := by
  unfold generateTokens
  cases config.jwtExpiresIn with
  | none => exact ⟨fun h => (by cases h), fun h => by cases h.1⟩
  | some expiresIn =>
    cases config.jwtRefreshExpiresIn with
    | none => exact ⟨fun h => (by cases h), fun h => by cases h.2⟩
    | some refreshExpiresIn => exact ⟨fun _ => ⟨rfl, rfl⟩, fun _ => rfl⟩

theorem jwtSecret_mem : config.jwtSecret ∈ getRefreshVerificationSecrets config := by
  refine List.mem_filter.mpr ⟨List.mem_append_right _ (List.mem_singleton_self _), ?_⟩
  exact decide_eq_true config.jwtSecret_ne

theorem refreshSecret_eq_iff : config.jwtSecret = refreshSecret config ↔
    config.jwtRefreshSecret.all (· = "") = true := by
  have hdistinct := config.distinct
  unfold refreshVerificationSecrets at hdistinct
  unfold refreshSecret
  cases hsecret : config.jwtRefreshSecret with
  | none => exact iff_of_true rfl rfl
  | some secret =>
    by_cases hempty : secret = ""
    · subst hempty
      exact iff_of_true rfl rfl
    · rw [Option.filter_some, if_pos (decide_eq_true hempty), Option.getD_some]
      refine iff_of_false (fun heq => ?_) fun h => hempty (of_decide_eq_true h)
      -- a secret of its own is listed before `JWT_SECRET`, so both are one only if the list repeats it
      dsimp only at hdistinct
      have hkept : decide (secret ≠ "") = true := decide_eq_true hempty
      rw [hsecret, Option.toList_some, List.singleton_append, List.cons_append,
        List.filter_cons, if_pos hkept, List.nodup_cons] at hdistinct
      refine hdistinct.1 (List.mem_filter.mpr ⟨?_, decide_eq_true hempty⟩)
      rw [← heq]
      exact List.mem_append_right _ (List.mem_singleton_self _)

variable (payload : JwtPayload) (kind : TokenKind)

theorem accepted_refreshToken_iff (S : AccessStore) (now : ℤ) (keepsRefresh : Bool) :
    HeldToken.Accepted config ⟨config.scheme.sign config.jwtSecret payload, kind⟩ (.refreshToken S now keepsRefresh) ↔
      HeldToken.Refreshable config S now ⟨config.scheme.sign config.jwtSecret payload, kind⟩ := by
  unfold HeldToken.Accepted HeldToken.Refreshable refreshToken
  dsimp only
  rw [config.scheme.openAny_sign, config.scheme.openWith_sign]
  by_cases hexpired : unexpired now 5 payload = true
  · rw [if_pos ⟨jwtSecret_mem config, hexpired⟩]
    dsimp only
    have hexists (P : JwtPayload → Prop) : (∃ found, some payload = some found ∧ P found) ↔ P payload :=
      ⟨fun ⟨_, h, hP⟩ => Option.some.inj h ▸ hP, fun hP => ⟨payload, rfl, hP⟩⟩
    rw [hexists, and_iff_right hexpired]
    by_cases htype : (payload.tokenType.filter (· ≠ "")).all (· = "refresh") = true
    · have hno : ¬ ((payload.tokenType.filter (· ≠ "")).any (· ≠ "refresh") = true) := by
        cases h : payload.tokenType.filter (· ≠ "") with
        | none => exact Bool.false_ne_true
        | some text =>
          rw [h] at htype
          rw [Option.any_some, decide_eq_true_iff]
          exact fun hne => hne (of_decide_eq_true htype)
      rw [if_neg hno, and_iff_right htype]
      cases huser : S.users.findLive payload.sub with
      | none => exact ⟨fun h => (by cases h), fun h => by cases h.1⟩
      | some user =>
        dsimp only
        rw [Option.any_some]
        by_cases hactive : user.isActive = true
        · rw [if_pos hactive, and_iff_right hactive, isOk_generateTokens]
        · rw [if_neg hactive]
          exact ⟨fun h => (by cases h), fun h => absurd h.1 hactive⟩
    · have hother : (payload.tokenType.filter (· ≠ "")).any (· ≠ "refresh") = true := by
        cases h : payload.tokenType.filter (· ≠ "") with
        | none => exact absurd (by rw [h]; rfl) htype
        | some text =>
          rw [h] at htype
          rw [Option.any_some, decide_eq_true_iff]
          exact fun heq => htype (decide_eq_true heq)
      rw [if_pos hother]
      exact ⟨fun h => (by cases h), fun h => absurd h.1 htype⟩
  · rw [if_neg fun h => hexpired h.2]
    exact ⟨fun h => (by cases h), fun ⟨_, hfound, h, _⟩ => absurd (Option.some.inj hfound ▸ h) hexpired⟩

theorem accepted_request_iff (now : ℤ) :
    HeldToken.Accepted config ⟨config.scheme.sign (refreshSecret config) payload, kind⟩ (.request now) ↔
      HeldToken.Presentable config now ⟨config.scheme.sign (refreshSecret config) payload, kind⟩ := by
  unfold HeldToken.Accepted HeldToken.Presentable JwtStrategy.authenticate
  dsimp only
  rw [config.scheme.openWith_sign_eq, ← refreshSecret_eq_iff]
  by_cases hsecret : config.jwtSecret = refreshSecret config
  · rw [if_pos hsecret, and_iff_right hsecret, Option.filter_some]
    by_cases hexpired : unexpired now 0 payload = true
    · rw [if_pos hexpired]
      exact ⟨fun _ => ⟨payload, rfl, hexpired⟩, fun _ => rfl⟩
    · rw [if_neg hexpired]
      exact ⟨fun h => (by cases h), fun ⟨_, hfound, h⟩ => absurd (Option.some.inj hfound ▸ h) hexpired⟩
  · rw [if_neg hsecret]
    exact ⟨fun h => (by cases h), fun h => absurd h.1 hsecret⟩

/-! ### Chains -/

def HeldToken.Signed (held : HeldToken τ) : Prop :=
  ∃ payload, held.token = config.scheme.sign
    (if held.kind = .refresh then refreshSecret config else config.jwtSecret) payload

variable {tokens : AuthTokens τ} {S : AccessStore} {now : ℤ} {held : HeldToken τ}

theorem signed_of_generateTokens {id : ℕ} {user : UserAccount}
    (h : generateTokens config S now id user = .ok tokens) (asRefresh : Bool) :
    (tokens.held asRefresh).Signed config := by
  unfold generateTokens at h
  split at h
  · obtain rfl := Except.ok.inj h
    cases asRefresh
    · exact ⟨_, rfl⟩
    · exact ⟨_, rfl⟩
  · cases h

theorem refreshToken_eq_ok {token : τ} (h : refreshToken config S now token = .ok tokens) :
    ∃ id user, generateTokens config S now id user = .ok tokens := by
  unfold refreshToken at h
  split at h
  · cases h
  · rename_i verified _
    split_ifs at h
    split at h
    · cases h
    · rename_i user _
      split_ifs at h
      exact ⟨verified.sub, user, h⟩

theorem HeldToken.step_of_ok (h : refreshToken config S now held.token = .ok tokens) (keepsRefresh : Bool) :
    held.step config (.refreshToken S now keepsRefresh) = tokens.held keepsRefresh := by
  unfold HeldToken.step
  dsimp only
  rw [h]

theorem HeldToken.step_of_error {e : AuthFailure}
    (h : refreshToken config S now held.token = .error e) (keepsRefresh : Bool) :
    held.step config (.refreshToken S now keepsRefresh) = held := by
  unfold HeldToken.step
  dsimp only
  rw [h]

theorem HeldToken.signed_step (held : HeldToken τ) (c : TokenCall) (h : held.Signed config) :
    (held.step config c).Signed config := by
  cases c with
  | refreshToken S now keepsRefresh =>
    cases hrefresh : refreshToken config S now held.token with
    | ok tokens =>
      obtain ⟨id, user, hgenerated⟩ := refreshToken_eq_ok config hrefresh
      rw [HeldToken.step_of_ok config hrefresh]
      exact signed_of_generateTokens config hgenerated keepsRefresh
    | error e => rwa [HeldToken.step_of_error config hrefresh]
  | request now => exact h

theorem TokenIssue.signed_held {issue : TokenIssue} (h : issue.held config = some held) : held.Signed config := by
  cases issue with
  | session S now id user asRefresh =>
    obtain ⟨tokens, htokens, rfl⟩ := Option.map_eq_some_iff.mp h
    cases hgenerated : generateTokens config S now id user with
    | ok generated =>
      rw [hgenerated] at htokens
      obtain rfl := Option.some.inj htokens
      exact signed_of_generateTokens config hgenerated asRefresh
    | error e => rw [hgenerated] at htokens; cases htokens
  | posSession now claims expiresIn =>
    obtain rfl := Option.some.inj h
    exact ⟨_, rfl⟩

theorem HeldToken.clear_iff (h : held.Signed config) (c : TokenCall) :
    (held.Accepted config c → held.IsFor c) ↔ held.Clear config c := by
  obtain ⟨token, kind⟩ := held
  obtain ⟨payload, hsigned⟩ := h
  cases c with
  | refreshToken S now keepsRefresh =>
    by_cases hkind : kind = .refresh
    · exact iff_of_true (fun _ => hkind) fun h => absurd hkind h
    · rw [if_neg hkind] at hsigned
      subst hsigned
      rw [accepted_refreshToken_iff]
      exact ⟨fun h _ hrefreshable => hkind (h hrefreshable), fun h hrefreshable => absurd hrefreshable (h hkind)⟩
  | request now =>
    by_cases hkind : kind = .refresh
    · rw [if_pos hkind] at hsigned
      subst hsigned
      rw [accepted_request_iff]
      exact ⟨fun h _ hpresentable => h hpresentable hkind, fun h hpresentable => absurd hpresentable (h hkind)⟩
    · exact iff_of_true (fun _ => hkind) fun h => absurd h hkind

theorem HeldToken.step_of_clear (h : held.Signed config) (hkind : held.kind = .access)
    {c : TokenCall} (hclear : held.Clear config c) : held.step config c = held := by
  cases c with
  | refreshToken S now keepsRefresh =>
    have hrefused : ¬ held.Accepted config (.refreshToken S now keepsRefresh) := fun haccepted => by
      have hrefresh : held.kind = .refresh := (HeldToken.clear_iff config h _).mpr hclear haccepted
      rw [hkind] at hrefresh
      cases hrefresh
    cases hresult : refreshToken config S now held.token with
    | ok tokens =>
      have haccepted : held.Accepted config (.refreshToken S now keepsRefresh) := by
        show (refreshToken config S now held.token).isOk = true
        rw [hresult]
        rfl
      exact absurd haccepted hrefused
    | error e => exact HeldToken.step_of_error config hresult keepsRefresh
  | request now => rfl

/-- **When the kinds of tokens are kept apart**: from a token that was issued, in any chain of calls, when
`refreshToken` is given no token of another kind that is still good, and no request a refresh token that was signed
with `JWT_SECRET` because no other secret is configured. -/
theorem token_kinds_separate_iff (issue : TokenIssue) (calls : List TokenCall) :
    (∀ held ∈ issue.held config, held.KindsSeparate config calls) ↔
      ∀ held ∈ issue.held config, Run.Along (HeldToken.step config) (fun held c => held.Clear config c) held calls := by
  refine forall₂_congr fun held hheld => ?_
  have hsigned := TokenIssue.signed_held config hheld
  have hiff : Run.Along (HeldToken.step config) (fun held c => held.Accepted config c → held.IsFor c) held calls ↔
      Run.Along (HeldToken.step config) (fun held c => held.Clear config c) held calls :=
    Run.along_congr (fun s c h => HeldToken.clear_iff config h c) (fun s c h _ => HeldToken.signed_step config s c h)
      hsigned
  refine ⟨fun h => hiff.mp h.accepted, fun hclear => ⟨hiff.mpr hclear, fun hkind expiry hexpires n => ?_⟩⟩
  have hsame : Run.after (HeldToken.step config) held (calls.take n) = held := by
    refine Run.after_induction (P := fun s => s = held) (fun s c hs hc => ?_) rfl (Run.along_take hclear n)
    subst hs
    exact HeldToken.step_of_clear config hsigned hkind hc
  rw [hsame]
  exact hexpires

end TokenKinds

/-- Two secrets; a session of an hour that can be refreshed for a week. -/
def sampleConfig : AuthConfig (String × JwtPayload) where
  scheme := .transparent
  jwtSecret := "access"
  jwtRefreshSecret := some "refresh"
  jwtRefreshPreviousSecrets := none
  jwtExpiresIn := some 3600
  jwtRefreshExpiresIn := some 604800
  jwtSecret_ne := by decide
  distinct := by decide

def sampleCustomer : UserAccount := { email := "customer@suuq.com", roles := [.customer] }

def oneCustomer : AccessStore := { AccessStore.empty with users := SerialTable.empty.add sampleCustomer }

/-- The access token of a customer is refreshed at the end of its hour. -/
theorem access_token_refreshed :
    ¬ ∀ held ∈ (TokenIssue.session oneCustomer 0 1 sampleCustomer false).held sampleConfig,
      held.KindsSeparate sampleConfig [.refreshToken oneCustomer 3599000 true] := by
  intro h
  have haccepted := (h _ rfl).accepted.1 (by unfold HeldToken.Accepted; decide)
  cases haccepted

end SuuqBackend
