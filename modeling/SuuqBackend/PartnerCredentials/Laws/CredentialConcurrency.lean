import SuuqBackend.PartnerCredentials.Laws.PartnerCredentials

/-!
# Requests on partner credentials beside each other

Each request saves all columns of the row that it has loaded.  A credential stays revoked, and no authentication moves
it to another branch, exactly when no request saves over a row that is revoked what it has loaded as active, and no
authentication saves over another branch than it has loaded (`stays_revoked_iff`).  `reactivated` is a request of a
terminal that undoes the revocation of its credential.
-/

namespace SuuqBackend

open Proc PartnerCredentials SerialTable

inductive CredentialRequest where
  | authenticate (now : ℤ) (presentedKey : String) (requiredScopes : List PosPartnerScope)
  | rotate (id nextBranchId : ℕ)
  | revoke (now : ℤ) (id : ℕ) (actorId : Option ℕ) (reason : Option String)

namespace CredentialRequest

variable (sha : Sha256)

def handler : CredentialRequest → PartnerCredentialProc Unit
  | authenticate now presentedKey requiredScopes => do
    let _ ← authenticatePosCredential sha now presentedKey requiredScopes
  | rotate id nextBranchId => rotateBranchAssignment id nextBranchId
  | revoke now id actorId reason => PartnerCredentials.revoke now id actorId reason

def IsAuthentication : CredentialRequest → Prop
  | authenticate .. => True
  | _ => False

def IsRevocation : CredentialRequest → Prop
  | revoke .. => True
  | _ => False

/-- The credential that the request has loaded, when it saves it next. -/
def saving : CredentialRequest → List PartnerCredentialStore → Option (ℕ × PartnerCredentialRow)
  | authenticate _ presentedKey requiredScopes, [S] =>
    ((candidates S).find? fun item => matchesPresentedKey sha presentedKey item.2.keyHash).filter fun item =>
      GrantsOneOf requiredScopes item.2.scopes
  | rotate id nextBranchId, [S, T] =>
    ((S.credentials.find id).filter fun row =>
      row.partnerType = .pos ∧ nextBranchId ∈ T.branches ∧ row.branchId ≠ some nextBranchId).map (id, ·)
  | revoke _ id _ _, [S] => ((S.credentials.find id).filter fun row => row.status ≠ .revoked).map (id, ·)
  | _, _ => none

def saved : CredentialRequest → PartnerCredentialRow → PartnerCredentialRow
  | authenticate now _ _, row => { row with lastUsedAt := some now }
  | rotate _ nextBranchId, row => { row with branchId := some nextBranchId }
  | revoke now _ actorId reason, row => revoked now actorId reason row

theorem action_saveCredential (id : ℕ) (row : PartnerCredentialRow) (seen : List PartnerCredentialStore)
    (S : PartnerCredentialStore) : ((saveCredential id row).resume seen).action S =
      if seen = [] then { S with credentials := S.credentials.set id row } else S := by
  cases seen with
  | nil => rfl
  | cons T seen =>
    rfl

variable (r : CredentialRequest) (seen : List PartnerCredentialStore) (S : PartnerCredentialStore)

theorem action_done : ((pure () : PartnerCredentialProc Unit).resume seen).action S = S := by
  rfl

theorem action_fail {p : PartnerCredentialProc Unit} {e : AuthFailure} (h : p = .fail e) (S : PartnerCredentialStore) :
    p.action S = S := by
  rw [h]
  rfl

/-- **The next action of a request**: it saves what it has loaded, or changes nothing. -/
theorem action_resume : ((r.handler sha).resume seen).action S = match r.saving sha seen with
      | some (id, loaded) => { S with credentials := S.credentials.set id (r.saved loaded) }
      | none => S := by
  rcases seen with _ | ⟨T, seen⟩
  · cases r <;> rfl
  cases r with
  | authenticate now presentedKey requiredScopes =>
    rw [handler, authenticatePosCredential, bind_assoc, resume_read_bind]
    cases hfind : (candidates T).find? fun item => matchesPresentedKey sha presentedKey item.2.keyHash with
    | none =>
      rw [action_fail (resume_throw_bind _ _ seen)]
      cases seen <;> simp [saving, hfind]
    | some item =>
      dsimp only
      by_cases hgrants : GrantsOneOf requiredScopes item.2.scopes
      · rw [throwIf, if_neg (not_not.mpr hgrants), pure_bind, bind_assoc]
        simp only [pure_bind, bind_pure_unit]
        rw [action_saveCredential]
        cases seen <;> simp [saving, hfind, hgrants, saved, Option.filter]
      · rw [throwIf, if_pos hgrants, bind_assoc, action_fail (resume_throw_bind _ _ seen)]
        cases seen <;> simp [saving, hfind, hgrants, Option.filter]
  | rotate id nextBranchId =>
    rw [handler, rotateBranchAssignment, findCredential, bind_assoc, resume_read_bind]
    cases hfind : T.credentials.find id with
    | none =>
      rw [action_fail (resume_throw_bind _ _ seen)]
      rcases seen with _ | ⟨U, _ | ⟨V, seen⟩⟩ <;> simp [saving, hfind]
    | some row =>
      rw [pure_bind]
      by_cases hpos : row.partnerType = .pos
      · rw [throwIf, if_neg (not_not.mpr hpos), pure_bind]
        rcases seen with _ | ⟨U, seen⟩
        · rfl
        rw [resume_read_bind]
        by_cases hbranch : nextBranchId ∈ U.branches
        · rw [throwIf, if_neg (not_not.mpr hbranch), pure_bind]
          split_ifs with hmoves
          · rw [action_saveCredential]
            cases seen <;> simp [saving, hfind, hpos, hbranch, hmoves, saved, Option.filter]
          · rw [action_done]
            cases seen <;> simp [saving, hfind, hpos, hbranch, not_not.mp hmoves, Option.filter]
        · rw [throwIf, if_pos hbranch, action_fail (resume_throw_bind _ _ seen)]
          cases seen <;> simp [saving, hfind, hbranch, Option.filter]
      · rw [throwIf, if_pos hpos, action_fail (resume_throw_bind _ _ seen)]
        rcases seen with _ | ⟨U, _ | ⟨V, seen⟩⟩ <;> simp [saving, hfind, hpos, Option.filter]
  | revoke now id actorId reason =>
    rw [handler, PartnerCredentials.revoke, findCredential, bind_assoc, resume_read_bind]
    cases hfind : T.credentials.find id with
    | none =>
      rw [action_fail (resume_throw_bind _ _ seen)]
      cases seen <;> simp [saving, hfind]
    | some row =>
      rw [pure_bind]
      split_ifs with hstatus
      · rw [action_saveCredential]
        cases seen <;> simp [saving, hfind, hstatus, saved, Option.filter]
      · rw [action_done]
        cases seen <;> simp [saving, hfind, not_not.mp hstatus, Option.filter]

/-- The stored row is not revoked, unless what the request saves is; and an authentication finds the branch that it has
loaded. -/
def UpToDate (r : CredentialRequest) (loaded row : PartnerCredentialRow) : Prop :=
  (row.status = .revoked → loaded.status = .revoked ∨ r.IsRevocation) ∧
    (r.IsAuthentication → row.branchId = loaded.branchId)

theorem status_saved (loaded : PartnerCredentialRow) :
    (r.saved loaded).status = .revoked ↔ loaded.status = .revoked ∨ r.IsRevocation := by
  cases r <;> simp [saved, IsRevocation, revoked]

theorem branchId_saved {r : CredentialRequest} (h : r.IsAuthentication) (loaded : PartnerCredentialRow) :
    (r.saved loaded).branchId = loaded.branchId := by
  cases r with
  | authenticate => rfl
  | rotate | revoke => exact h.elim

end CredentialRequest

/-! ### Every schedule -/

namespace PartnerCredentialStore

variable {S S' S'' : PartnerCredentialStore} {id : ℕ}

def IsRevoked (S : PartnerCredentialStore) (id : ℕ) : Prop :=
  ∃ row, S.credentials.find id = some row ∧ row.status = .revoked

def KeepsRevocations (S S' : PartnerCredentialStore) : Prop := ∀ id, S.IsRevoked id → S'.IsRevoked id

def KeepsBranches (S S' : PartnerCredentialStore) : Prop :=
  ∀ id, (S'.credentials.find id).map PartnerCredentialRow.branchId = (S.credentials.find id).map PartnerCredentialRow.branchId

variable {row new : PartnerCredentialRow}

theorem keepsRevocations_set_iff (hfind : S.credentials.find id = some row) :
    S.KeepsRevocations { S with credentials := S.credentials.set id new } ↔
      (row.status = .revoked → new.status = .revoked) := by
  constructor
  · intro h hstatus
    obtain ⟨row', hfind', hstatus'⟩ := h id ⟨row, hfind, hstatus⟩
    rw [find_set_self hfind] at hfind'
    rwa [Option.some.inj hfind']
  · rintro h id' ⟨row', hfind', hstatus'⟩
    by_cases hid : id' = id
    · subst hid
      obtain rfl := Option.mem_unique hfind hfind'
      exact ⟨new, find_set_self hfind new, h hstatus'⟩
    · exact ⟨row', (find_set_of_ne _ new hid).trans hfind', hstatus'⟩

theorem keepsBranches_set_iff (hfind : S.credentials.find id = some row) :
    S.KeepsBranches { S with credentials := S.credentials.set id new } ↔ row.branchId = new.branchId := by
  constructor
  · intro h
    have hbranch := h id
    rw [find_set_self hfind, hfind] at hbranch
    exact (Option.some.inj hbranch).symm
  · intro h id'
    by_cases hid : id' = id
    · subst hid
      rw [find_set_self hfind, hfind, Option.map_some, Option.map_some, h]
    · exact congrArg _ (find_set_of_ne _ new hid)

end PartnerCredentialStore

open PartnerCredentialStore CredentialRequest

section Schedules

variable {ι : Type} [DecidableEq ι] (sha : Sha256) (requests : ι → CredentialRequest)

abbrev requestStep : Pool ι PartnerCredentialStore → ι → Pool ι PartnerCredentialStore :=
  Pool.step fun i => (requests i).handler sha

/-- If the request is an authentication, its step leaves the credentials with their branches. -/
def LeavesBranches (P : Pool ι PartnerCredentialStore) (i : ι) : Prop :=
  (requests i).IsAuthentication → P.store.KeepsBranches (requestStep sha requests P i).store

def SavesUpToDate (P : Pool ι PartnerCredentialStore) (i : ι) : Prop :=
  ∀ id loaded row, (requests i).saving sha (P.seen i) = some (id, loaded) →
    P.store.credentials.find id = some row → (requests i).UpToDate loaded row

theorem step_keeps_iff (P : Pool ι PartnerCredentialStore) (i : ι) :
    P.store.KeepsRevocations (requestStep sha requests P i).store ∧ LeavesBranches sha requests P i ↔
      SavesUpToDate sha requests P i := by
  have hstore : (requestStep sha requests P i).store = _ :=
    (Pool.store_step _ P i).trans (action_resume sha (requests i) (P.seen i) P.store)
  unfold LeavesBranches SavesUpToDate UpToDate
  rw [hstore]
  have hsame : P.store.KeepsRevocations P.store ∧ ((requests i).IsAuthentication → P.store.KeepsBranches P.store) :=
    ⟨fun _ h => h, fun _ _ => rfl⟩
  rcases hsaving : (requests i).saving sha (P.seen i) with _ | ⟨id, loaded⟩
  · exact iff_of_true hsame fun _ _ _ h _ => by cases h
  · cases hfind : P.store.credentials.find id with
    | none =>
      dsimp only
      rw [set_of_eq_none hfind]
      refine iff_of_true hsame ?_
      rintro _ _ row ⟨⟩ hrow
      exact nomatch hfind.symm.trans hrow
    | some row =>
      rw [keepsRevocations_set_iff hfind, keepsBranches_set_iff hfind, status_saved]
      constructor
      · rintro ⟨hrevoked, hbranch⟩ _ _ row' ⟨⟩ hrow
        obtain rfl := Option.mem_unique hfind hrow
        exact ⟨hrevoked, fun hauth => (hbranch hauth).trans (branchId_saved hauth loaded)⟩
      · intro h
        obtain ⟨hrevoked, hbranch⟩ := h id loaded row rfl hfind
        exact ⟨hrevoked, fun hauth => (hbranch hauth).trans (branchId_saved hauth loaded).symm⟩

end Schedules

/-- **A revoked credential stays revoked**, and no authentication takes a credential back to the branch that it was
moved from, exactly when every request saves what is up to date. -/
theorem stays_revoked_iff {ι : Type} [DecidableEq ι] (sha : Sha256) (requests : ι → CredentialRequest)
    (S₀ : PartnerCredentialStore) (schedule : List ι) :
    let after (n : ℕ) := Run.after (requestStep sha requests) (Pool.init S₀) (schedule.take n)
    ((∀ n m, n ≤ m → (after n).store.KeepsRevocations (after m).store) ∧
      ∀ n i, schedule[n]? = some i → LeavesBranches sha requests (after n) i) ↔
    Run.Along (requestStep sha requests) (SavesUpToDate sha requests) (Pool.init S₀) schedule := by
  intro after
  have hrevocations : (∀ n m, n ≤ m → (after n).store.KeepsRevocations (after m).store) ↔
      Run.Along (requestStep sha requests)
        (fun P i => P.store.KeepsRevocations (requestStep sha requests P i).store) (Pool.init S₀) schedule :=
    Run.forall_rel_take_iff (I := fun _ => True)
      (R := fun P P' : Pool ι PartnerCredentialStore => P.store.KeepsRevocations P'.store)
      (fun _ _ h => h) (fun _ _ _ h h' id hid => h' id (h id hid)) (fun _ _ _ _ => trivial) (fun _ _ _ => Iff.rfl)
      trivial schedule
  rw [hrevocations, Run.forall_getElem?_iff (C := LeavesBranches sha requests), ← Run.along_and]
  exact Run.along_congr (I := fun _ => True) (fun P i _ => step_keeps_iff sha requests P i)
    (fun _ _ _ _ => trivial) trivial

/-! ### A revocation that is undone -/

def saleAndRevocation : Fin 2 → CredentialRequest
  | 0 => .authenticate 1 "secret" [.checkoutWrite]
  | 1 => .revoke 2 1 none (some "Lost")

/-- The terminal loads its credential before it is revoked, and saves it after that: it is active again. -/
theorem reactivated :
    let after (n : ℕ) :=
      Run.after (requestStep terminalSha saleAndRevocation) (Pool.init issuedTerminal.store)
        (([0, 1, 1, 0] : List (Fin 2)).take n)
    (after 3).store.IsRevoked 1 ∧ ¬ (after 4).store.IsRevoked 1 := by
  intro after
  have hrevoked : ((after 3).store.credentials.find 1).map PartnerCredentialRow.status = some .revoked := by decide
  have hactive : ((after 4).store.credentials.find 1).map PartnerCredentialRow.status = some .active := by decide
  refine ⟨?_, fun ⟨row, hrow, hstatus⟩ => ?_⟩
  · obtain ⟨row, hrow, hstatus⟩ := Option.map_eq_some_iff.mp hrevoked
    exact ⟨row, hrow, hstatus⟩
  · rw [hrow, Option.map_some, hstatus] at hactive
    cases hactive

end SuuqBackend
