import SuuqBackend.Common.Laws.TextNumbers
import SuuqBackend.PartnerCredentials.PartnerCredentials
import Mathlib.Data.Bool.AllAny
import Mathlib.Data.List.Find

/-!
# What a partner credential grants, and to whom

A stored digest opens its own credential, since a key that looks like a digest is not hashed again; and explicit scopes
without a preset are added to all there are.  `grants_asked_iff` says when neither matters: the newest active
credential that the key opens was created with this very key, and its scopes were asked for through a preset.
-/

namespace SuuqBackend

open Proc PartnerCredentials SerialTable

/-! ### Secrets -/

section Secrets

variable (sha : Sha256) {text key secret : String}

theorem hexDigits_spec : ∀ c ∈ hexDigits,
    isWhiteSpace c = false ∧ c.toLower ∈ hexDigits ∧ c.toLower.toLower = c.toLower :=
  List.all_iff_forall_prop.mp (by decide +kernel)

theorem mem_hexDigits_of_looksHashed (h : looksHashed text = true) : ∀ c ∈ text.toList, c ∈ hexDigits := by
  simpa using (Bool.and_eq_true_iff.mp h).2

theorem trim_of_looksHashed (h : looksHashed text = true) : trim text = text :=
  trim_of_forall fun c hc => (hexDigits_spec c (mem_hexDigits_of_looksHashed h c hc)).1

theorem isDigest_lowerAscii (h : looksHashed text = true) : IsDigest (lowerAscii text) := by
  have hmem := mem_hexDigits_of_looksHashed h
  unfold IsDigest looksHashed lowerAscii
  simp only [String.toList_ofList, List.length_map, List.map_map, List.all_map]
  refine ⟨?_, ?_⟩
  · rw [(Bool.and_eq_true_iff.mp h).1, Bool.true_and, List.all_eq_true]
    exact fun c hc => decide_eq_true (hexDigits_spec c (hmem c hc)).2.1
  · congr 1
    exact List.map_congr_left fun c hc => (hexDigits_spec c (hmem c hc)).2.2

theorem isDigest_normalizeCredentialSecret (secret : String) : IsDigest (normalizeCredentialSecret sha secret) := by
  unfold normalizeCredentialSecret
  dsimp only
  split_ifs with h
  · exact isDigest_lowerAscii h
  · exact sha.isDigest _

theorem matchesPresentedKey_iff (key secret : String) :
    matchesPresentedKey sha key (normalizeCredentialSecret sha secret) = true ↔
      normalizeCredentialSecret sha key = normalizeCredentialSecret sha secret := by
  obtain ⟨hhashed, hlower⟩ := isDigest_normalizeCredentialSecret sha secret
  unfold matchesPresentedKey
  dsimp only
  rw [trim_of_looksHashed hhashed, hlower]
  split_ifs <;> simp [String.toByteArray_inj]

/-- The key and the secret are the same up to blanks, and up to letter case where they look like digests; or one of
them is the digest of the other. -/
def Opens (key secret : String) : Prop :=
  match looksHashed (trim key), looksHashed (trim secret) with
  | true, true => lowerAscii (trim key) = lowerAscii (trim secret)
  | true, false => lowerAscii (trim key) = sha.digest (trim secret)
  | false, true => sha.digest (trim key) = lowerAscii (trim secret)
  | false, false => trim key = trim secret

instance (key secret : String) : Decidable (Opens sha key secret) := by
  unfold Opens
  split <;> infer_instance

theorem opens_iff (hfree : sha.digest (trim key) = sha.digest (trim secret) → trim key = trim secret) :
    Opens sha key secret ↔ normalizeCredentialSecret sha key = normalizeCredentialSecret sha secret := by
  have hnormal (text : String) : normalizeCredentialSecret sha text =
      if looksHashed (trim text) then lowerAscii (trim text) else sha.digest (trim text) := rfl
  rw [hnormal, hnormal, Opens]
  generalize looksHashed (trim key) = hashedKey
  generalize looksHashed (trim secret) = hashedSecret
  cases hashedKey <;> cases hashedSecret
  · exact ⟨congrArg sha.digest, hfree⟩
  all_goals exact Iff.rfl

end Secrets

/-! ### Scopes -/

section Scopes

variable {scope : PosPartnerScope} {dto : CreatePartnerCredentialDto}

theorem mem_resolveGrantedPosScopes {scopes : List String} :
    scope ∈ resolveGrantedPosScopes scopes ↔ ∃ raw ∈ scopes, scope ∈ scopesOf raw := by
  unfold resolveGrantedPosScopes
  rw [List.mem_eraseDups, List.mem_flatMap]

theorem mem_resolve_values (scopes : List PosPartnerScope) :
    scope ∈ resolveGrantedPosScopes (scopes.map PosPartnerScope.value) ↔ scope ∈ scopes := by
  rw [mem_resolveGrantedPosScopes]
  simp only [List.mem_map, scopesOf]
  constructor
  · rintro ⟨_, ⟨other, hother, rfl⟩, hmem⟩
    rw [PosPartnerScope.ofValue_value, List.mem_singleton] at hmem
    rwa [hmem]
  · intro hmem
    exact ⟨_, ⟨scope, hmem, rfl⟩, by rw [PosPartnerScope.ofValue_value]; exact List.mem_singleton_self _⟩

/-- **What a POS credential grants**: what its preset stands for, or all there is, and the scopes of the request. -/
theorem mem_granted_iff (hpos : dto.partnerType = .pos) :
    scope ∈ resolveGrantedPosScopes (resolveScopesForCreate dto) ↔
      scope ∈ resolvePosPresetScopes dto.scopePreset ∨ scope ∈ resolveGrantedPosScopes (dto.scopes.getD []) := by
  unfold resolveScopesForCreate
  dsimp only
  rw [if_neg (not_not.mpr hpos)]
  split_ifs with hscopes
  · rw [mem_resolve_values, hscopes]
    exact (or_iff_left List.not_mem_nil).symm
  · unfold canonicalizePosScopeInputs
    rw [if_neg fun h => hscopes (List.append_eq_nil_iff.mp h).2, mem_resolve_values, mem_resolveGrantedPosScopes]
    simp only [List.mem_append, or_and_right, exists_or]
    rw [← mem_resolveGrantedPosScopes, ← mem_resolveGrantedPosScopes, mem_resolve_values]

namespace CreatePartnerCredentialDto

/-- What the request asks for: its preset and its explicit scopes, or without either all there is. -/
def askedScopes (dto : CreatePartnerCredentialDto) : List PosPartnerScope :=
  if dto.scopePreset = none ∧ dto.scopes.getD [] = [] then PosPartnerScope.defaults
  else (dto.scopePreset.map PosPartnerScopePreset.scopes).getD [] ++ resolveGrantedPosScopes (dto.scopes.getD [])

/-- Explicit scopes come with a preset, or name all there is. -/
def AsksByPreset (dto : CreatePartnerCredentialDto) : Prop :=
  dto.scopePreset ≠ none ∨ dto.scopes.getD [] = [] ∨
    ∀ scope ∈ PosPartnerScope.defaults, scope ∈ resolveGrantedPosScopes (dto.scopes.getD [])
deriving Decidable

theorem granted_iff_asked (hpos : dto.partnerType = .pos) :
    (∀ scope, scope ∈ resolveGrantedPosScopes (resolveScopesForCreate dto) ↔ scope ∈ dto.askedScopes) ↔
      dto.AsksByPreset := by
  unfold askedScopes AsksByPreset
  simp only [mem_granted_iff hpos]
  rcases hpreset : dto.scopePreset with _ | preset
  · -- without a preset everything is granted
    by_cases hscopes : dto.scopes.getD [] = []
    · simp [hscopes, resolvePosPresetScopes, resolveGrantedPosScopes]
    · simp [hscopes, resolvePosPresetScopes, PosPartnerScope.mem_defaults]
  · simp [resolvePosPresetScopes]

end CreatePartnerCredentialDto

end Scopes

/-! ### Runs -/

namespace PartnerCredentials

theorem create_cases (sha : Sha256) (now : ℤ) (dto : CreatePartnerCredentialDto) (S : PartnerCredentialStore) :
    (∃ e, run (create sha now dto) S = (.error e, S)) ∨
      run (create sha now dto) S =
        (.ok S.credentials.next, { S with credentials := S.credentials.add (newCredential sha now dto) }) := by
  have hbinding : ∃ answer, run (assertBranchBinding dto) S = (answer, S) := by
    unfold assertBranchBinding
    rw [run_throwIf_bind]
    split_ifs
    · exact ⟨_, rfl⟩
    · cases dto.branchId with
      | none => exact ⟨_, rfl⟩
      | some branchId => exact ⟨_, run_throwIf _ _ _⟩
  obtain ⟨answer, hbinding⟩ := hbinding
  unfold create
  cases answer with
  | error e => exact .inl ⟨e, by rw [run_bind_of_error hbinding]⟩
  | ok _ =>
    rw [run_bind_of_ok hbinding]
    cases assertSupportedScopes dto with
    | error e => exact .inl ⟨e, rfl⟩
    | ok _ => exact .inr rfl

theorem revoke_cases (now : ℤ) (id : ℕ) (actorId : Option ℕ) (reason : Option String) (S : PartnerCredentialStore) :
    (run (revoke now id actorId reason) S).2 = S ∨
      ∃ row, S.credentials.find id = some row ∧ (run (revoke now id actorId reason) S).2 =
        { S with credentials := S.credentials.set id (revoked now actorId reason row) } := by
  unfold revoke findCredential
  cases hfind : S.credentials.find id with
  | none =>
    rw [run_bind, run_read_bind, hfind]
    exact .inl rfl
  | some row =>
    by_cases hstatus : row.status = .revoked
    · exact .inl (by simp [hfind, hstatus])
    · exact .inr ⟨row, rfl, by simp [hfind, hstatus, saveCredential]⟩

end PartnerCredentials

inductive CredentialCall where
  | create (now : ℤ) (dto : CreatePartnerCredentialDto)
  | revoke (now : ℤ) (id : ℕ) (actorId : Option ℕ) (reason : Option String)

/-- The tables, and the requests that the credentials were created with. -/
structure CredentialHistory where
  store : PartnerCredentialStore
  requests : SerialTable CreatePartnerCredentialDto

namespace CredentialHistory

def unissued (branches : List ℕ) : CredentialHistory := ⟨⟨.empty, branches⟩, .empty⟩

variable (sha : Sha256)

def step (H : CredentialHistory) : CredentialCall → CredentialHistory
  | .create now dto =>
    match run (create sha now dto) H.store with
    | (.ok _, S) => ⟨S, H.requests.add dto⟩
    | (.error _, S) => ⟨S, H.requests⟩
  | .revoke now id actorId reason => ⟨(run (revoke now id actorId reason) H.store).2, H.requests⟩

/-- The credential has the type, the scopes and the digest of the request. -/
def IssuedFor (dto : CreatePartnerCredentialDto) (row : PartnerCredentialRow) : Prop :=
  row.partnerType = dto.partnerType ∧ row.scopes = resolveScopesForCreate dto ∧
    row.keyHash = normalizeCredentialSecret sha dto.keyHash

theorem issuedFor_newCredential (now : ℤ) (dto : CreatePartnerCredentialDto) :
    IssuedFor sha dto (newCredential sha now dto) := by
  refine ⟨rfl, rfl, ?_⟩
  dsimp only [newCredential]

/-- Every credential is issued for its request. -/
def Traced (H : CredentialHistory) : Prop :=
  H.store.credentials.next = H.requests.next ∧ ∀ id row, H.store.credentials.find id = some row →
    ∃ dto, H.requests.find id = some dto ∧ IssuedFor sha dto row

variable {sha} {H : CredentialHistory}

theorem Traced.step (h : Traced sha H) (call : CredentialCall) : Traced sha (step sha H call) := by
  obtain ⟨hnext, hrows⟩ := h
  cases call with
  | create now dto =>
    rcases create_cases sha now dto H.store with ⟨e, hcreate⟩ | hcreate
    · have hsame : CredentialHistory.step sha H (.create now dto) = H := by
        dsimp only [CredentialHistory.step]
        rw [hcreate]
      rw [hsame]
      exact ⟨hnext, hrows⟩
    · have hadd : CredentialHistory.step sha H (.create now dto) =
          ⟨{ H.store with credentials := H.store.credentials.add (newCredential sha now dto) },
            H.requests.add dto⟩ := by
        dsimp only [CredentialHistory.step]
        rw [hcreate]
      rw [hadd]
      refine ⟨congrArg (· + 1) hnext, fun id row hfind => ?_⟩
      rcases eq_or_find_of_find_add hfind with ⟨rfl, rfl⟩ | hold
      · exact ⟨dto, by rw [hnext]; exact find_add_self _ _, issuedFor_newCredential sha now dto⟩
      · obtain ⟨dto', hdto', hissued⟩ := hrows id row hold
        exact ⟨dto', find_add_of_find hdto' dto, hissued⟩
  | revoke now id actorId reason =>
    dsimp only [CredentialHistory.step]
    rcases revoke_cases now id actorId reason H.store with hsame | ⟨row, hfind, hset⟩
    · rw [hsame]
      exact ⟨hnext, hrows⟩
    · rw [hset]
      refine ⟨hnext, fun id' row' hfind' => ?_⟩
      rcases eq_or_find_of_find_set hfind' with ⟨rfl, rfl⟩ | ⟨-, hold⟩
      · exact hrows id' row hfind
      · exact hrows id' row' hold

theorem traced_after (branches : List ℕ) (calls : List CredentialCall) :
    Traced sha (Run.after (step sha) (unissued branches) calls) := by
  refine Run.after_invariant (fun H call hH => hH.step call) ⟨rfl, fun id row hfind => ?_⟩ calls
  cases hfind

variable (sha) in
/-- The newest active POS credential whose secret the key opens. -/
def opened (H : CredentialHistory) (key : String) : Option (ℕ × PartnerCredentialRow) :=
  (candidates H.store).find? fun item => (H.requests.find item.1).any fun dto => Opens sha key dto.keyHash

variable (sha) in
/-- Who authenticates with the key has the secret of an active credential, which grants what was asked for. -/
def GrantsAsked (H : CredentialHistory) (now : ℤ) (key : String) (requiredScopes : List PosPartnerScope) : Prop :=
  ∀ id row, (run (authenticatePosCredential sha now key requiredScopes) H.store).1 = .ok (id, row) →
    row.status = .active ∧ ∃ dto, H.requests.find id = some dto ∧ dto.keyHash = key ∧
      ∀ scope, scope ∈ resolveGrantedPosScopes row.scopes ↔ scope ∈ dto.askedScopes

variable {row : PartnerCredentialRow} {S : PartnerCredentialStore} {key : String}

theorem mem_candidates_iff {id : ℕ} :
    (id, row) ∈ candidates S ↔ S.credentials.find id = some row ∧ row.partnerType = .pos ∧ row.status = .active := by
  unfold candidates
  rw [List.mem_insertionSort, mem_list_iff]
  simp

theorem authenticate_eq_ok {now : ℤ} {requiredScopes : List PosPartnerScope} {id : ℕ} :
    (run (authenticatePosCredential sha now key requiredScopes) S).1 = .ok (id, row) ↔
      ∃ found, (candidates S).find? (fun item => matchesPresentedKey sha key item.2.keyHash) = some (id, found) ∧
        GrantsOneOf requiredScopes found.scopes ∧ row = { found with lastUsedAt := some now } := by
  unfold authenticatePosCredential
  rw [run_read_bind]
  cases hfound : (candidates S).find? fun item => matchesPresentedKey sha key item.2.keyHash with
  | none => exact iff_of_false nofun fun ⟨_, h, _⟩ => nomatch h
  | some item =>
    obtain ⟨id', found⟩ := item
    by_cases hgrants : GrantsOneOf requiredScopes found.scopes
    · simp only [run_throwIf_bind, hgrants, not_true_eq_false, if_false]
      constructor
      · intro h
        cases h
        exact ⟨found, rfl, hgrants, rfl⟩
      · rintro ⟨_, h, -, rfl⟩
        cases h
        rfl
    · simp only [run_throwIf_bind, hgrants, not_false_eq_true, if_true]
      refine iff_of_false nofun fun ⟨_, h, hgranted, _⟩ => ?_
      cases h
      exact hgrants hgranted

theorem find_candidate {H : CredentialHistory} (h : Traced sha H) (hfree : ∀ id dto, H.requests.find id = some dto →
      sha.digest (trim key) = sha.digest (trim dto.keyHash) → trim key = trim dto.keyHash) :
    (candidates H.store).find? (fun item => matchesPresentedKey sha key item.2.keyHash) = H.opened sha key := by
  refine List.find?_congr fun item hitem => ?_
  obtain ⟨hfind, -, -⟩ := mem_candidates_iff.mp (show (item.1, item.2) ∈ candidates H.store from hitem)
  obtain ⟨dto, hdto, -, -, hhash⟩ := h.2 item.1 item.2 hfind
  rw [hdto, hhash, Option.any_some, Bool.eq_iff_iff, matchesPresentedKey_iff, decide_eq_true_iff,
    opens_iff sha (hfree item.1 dto hdto)]

end CredentialHistory

open CredentialHistory

/-- **Whoever authenticates holds the secret, and is granted what was asked for**, exactly when the newest active
credential that the key opens was created with this very key, and with a preset for its scopes. -/
theorem grants_asked_iff (sha : Sha256) (branches : List ℕ) (calls : List CredentialCall) (now : ℤ) (key : String)
    (requiredScopes : List PosPartnerScope)
    (hfree : ∀ id dto, (Run.after (step sha) (unissued branches) calls).requests.find id = some dto →
      sha.digest (trim key) = sha.digest (trim dto.keyHash) → trim key = trim dto.keyHash) :
    GrantsAsked sha (Run.after (step sha) (unissued branches) calls) now key requiredScopes ↔
      ∀ id row dto, (Run.after (step sha) (unissued branches) calls).opened sha key = some (id, row) →
        (Run.after (step sha) (unissued branches) calls).requests.find id = some dto →
          GrantsOneOf requiredScopes (resolveScopesForCreate dto) → dto.keyHash = key ∧ dto.AsksByPreset := by
  have htraced : Traced sha (Run.after (step sha) (unissued branches) calls) := traced_after branches calls
  revert hfree htraced
  generalize Run.after (step sha) (unissued branches) calls = H
  intro hfree htraced
  have hissued {id row} (h : H.opened sha key = some (id, row)) : row.status = .active ∧
      ∃ dto, H.requests.find id = some dto ∧ dto.partnerType = .pos ∧ row.scopes = resolveScopesForCreate dto := by
    obtain ⟨hfind, hpos, hactive⟩ := mem_candidates_iff.mp (List.mem_of_find?_eq_some h)
    obtain ⟨dto, hdto, htype, hscopes, -⟩ := htraced.2 id row hfind
    exact ⟨hactive, dto, hdto, htype.symm.trans hpos, hscopes⟩
  unfold GrantsAsked
  simp only [authenticate_eq_ok, find_candidate htraced hfree]
  constructor
  · intro h id row dto hopened hdto hgrants
    obtain ⟨-, dto', hdto', hpos, hscopes⟩ := hissued hopened
    obtain rfl := Option.mem_unique hdto' hdto
    obtain ⟨-, dto, hdto, hkey, hasked⟩ := h id _ ⟨row, hopened, hscopes ▸ hgrants, rfl⟩
    obtain rfl := Option.mem_unique hdto hdto'
    refine ⟨hkey, (CreatePartnerCredentialDto.granted_iff_asked hpos).mp ?_⟩
    rwa [← hscopes]
  · rintro h id _ ⟨row, hopened, hgrants, rfl⟩
    obtain ⟨hactive, dto, hdto, hpos, hscopes⟩ := hissued hopened
    obtain ⟨hkey, hpreset⟩ := h id row dto hopened hdto (hscopes ▸ hgrants)
    refine ⟨hactive, dto, hdto, hkey, ?_⟩
    rw [hscopes]
    exact (CreatePartnerCredentialDto.granted_iff_asked hpos).mpr hpreset

def secretDigest : String := "2bb80d537b1da3e38bd30361aa855686bde0eacd7162fef6a25fe97bf527a25b"

/-- A hash function that agrees with SHA-256 on that secret. -/
def terminalSha : Sha256 where
  digest text := if text = "secret" then secretDigest
    else "e3b0c44298fc1c149afbf4c8996fb92427ae41e4649b934ca495991b7852b855"
  isDigest text := by
    unfold IsDigest
    split <;> decide

def terminalRequest : CreatePartnerCredentialDto where
  name := "Front Lane Cashier"
  partnerType := .pos
  branchId := some 3
  scopePreset := some .cashierTerminal
  keyHash := "secret"

def issuedTerminal : CredentialHistory := Run.after (step terminalSha) (unissued [3]) [.create 0 terminalRequest]

theorem requests_issuedTerminal {id : ℕ} {dto : CreatePartnerCredentialDto}
    (h : issuedTerminal.requests.find id = some dto) : dto = terminalRequest := by
  rcases eq_or_find_of_find_add h with ⟨-, rfl⟩ | hold
  · rfl
  · cases hold

/-- The terminal itself is let in, and granted what was asked for. -/
theorem terminal_granted :
    (issuedTerminal.opened terminalSha "secret").isSome ∧
      GrantsAsked terminalSha issuedTerminal 1 "secret" [.checkoutWrite] := by
  refine ⟨by decide, (grants_asked_iff terminalSha [3] [.create 0 terminalRequest] 1 "secret" [.checkoutWrite]
    fun id dto hdto _ => ?_).mpr fun id row dto _ hdto _ => ?_⟩
  · rw [requests_issuedTerminal hdto]
    rfl
  · rw [requests_issuedTerminal hdto]
    exact ⟨rfl, by decide⟩

/-- Who has read the stored digest is let in with it, though it is not the secret. -/
theorem digest_granted :
    (∀ id dto, issuedTerminal.requests.find id = some dto → terminalSha.digest (trim secretDigest) =
      terminalSha.digest (trim dto.keyHash) → trim secretDigest = trim dto.keyHash) ∧
    ¬ GrantsAsked terminalSha issuedTerminal 1 secretDigest [.checkoutWrite] := by
  refine ⟨fun id dto hdto => ?_, fun hgrants => ?_⟩
  · rw [requests_issuedTerminal hdto]
    decide
  · have hrun : (run (authenticatePosCredential terminalSha 1 secretDigest [.checkoutWrite])
        issuedTerminal.store).1 = .ok (1, { newCredential terminalSha 0 terminalRequest with lastUsedAt := some 1 }) := by
      decide
    obtain ⟨-, dto, hdto, hkey, -⟩ := hgrants 1 _ hrun
    rw [requests_issuedTerminal hdto] at hkey
    exact absurd hkey (by decide)

end SuuqBackend
