import SuuqBackend.Users.Certification

/-!
# Certification and review

Status and flag of a user are two columns, and the tier is a third.  They agree in every state, and an approved request
leaves its user on the tier that was asked for, exactly when no call does one of three things
(`certified_iff_approved_iff`): `requestVerification` of an approved user, which keeps the flag; an update that takes
the approval away without the flag, or gives the flag without the approval; and the approval of a request for the tier
that `updateVerifiedFlag` then overwrites.
-/

namespace SuuqBackend

open Certification SerialTable

inductive CertificationCall where
  | requestVerification (userId : ℕ) (dto : RequestVerificationDto)
  | update (id : ℕ) (data : UpdateUserDto)
  | setVerificationStatus (now : ℤ) (userId : ℕ) (status : VerificationStatus) (actedBy reason : Option String)
  | approveSubscription (now : ℤ) (requestId : ℕ)
  | extendSubscription (now : ℤ) (userId : ℕ) (days : ℤ) (credited : Except HttpException Unit)

namespace CertificationCall

def proc : CertificationCall → CertificationProc Unit
  | requestVerification userId dto => Certification.requestVerification userId dto
  | update id data => Certification.update id data
  | setVerificationStatus now userId status actedBy reason =>
    Certification.setVerificationStatus now userId status actedBy reason
  | approveSubscription now requestId => Certification.approveSubscription now requestId
  | extendSubscription now userId days credited => Certification.extendSubscription now userId days credited

def step (S : CertificationStore) (call : CertificationCall) : CertificationStore := (Proc.run call.proc S).2

end CertificationCall

/-- The flag and the predicate are those of the status. -/
def VerifiedUser.Follows (user : VerifiedUser) : Prop :=
  (user.isCertifiedVendor = true ↔ user.verificationStatus = .approved) ∧
    (user.verified = true ↔ user.verificationStatus = .approved)

namespace CertificationStore

def AllNew (S : CertificationStore) : Prop := ∀ id user, S.users.find id = some user → user = {}

def Follows (S : CertificationStore) : Prop := ∀ id user, S.users.find id = some user → user.Follows

end CertificationStore

namespace CertificationCall

/-- A subscription request that the call approves leaves its user on the tier that was requested. -/
def GrantsTier (S : CertificationStore) : CertificationCall → Prop
  | call@(approveSubscription _ requestId) => (Proc.run call.proc S).1 = .ok () →
    ∀ request, S.requests.find requestId = some request →
      ∀ user, (step S call).users.find request.userId = some user → user.subscriptionTier = request.requestedTier
  | _ => True

def KeepsFlag (S : CertificationStore) : CertificationCall → Prop
  | requestVerification userId _ =>
    ∀ user, S.users.find userId = some user → user.verificationStatus ≠ .approved
  | update id data => ∀ user, S.users.find id = some user → data.verificationStatus = .approved ∨
    data.verified = some false ∨ (data.verified = none ∧ user.verificationStatus ≠ .approved)
  | _ => True

/-- A request that the call approves is for the tier that goes with the status of its user. -/
def AsksTierOfStatus (S : CertificationStore) : CertificationCall → Prop
  | approveSubscription _ requestId =>
    ∀ request, S.requests.find requestId = some request → request.status = .pending →
      ∀ user, S.users.find request.userId = some user →
        request.requestedTier = if user.verificationStatus = .approved then .pro else .free
  | _ => True

end CertificationCall

open CertificationCall
open Proc hiding step

/-! ### What the calls write -/

theorem follows_iff (user : VerifiedUser) :
    user.Follows ↔ (user.verified = true ↔ user.verificationStatus = .approved) := by
  unfold VerifiedUser.Follows VerifiedUser.isCertifiedVendor
  rw [Bool.or_eq_true, decide_eq_true_iff, or_iff_right_iff_imp]
  exact and_iff_right_of_imp Iff.mp

variable (now : ℤ)

@[simp] theorem tier_updateVerifiedFlag (user : VerifiedUser) :
    (updateVerifiedFlag now user).subscriptionTier = if user.verificationStatus = .approved then .pro else .free := by
  unfold updateVerifiedFlag
  split_ifs <;> rfl

theorem follows_updateVerifiedFlag (user : VerifiedUser) : (updateVerifiedFlag now user).Follows := by
  rw [follows_iff, updateVerifiedFlag]
  split_ifs with h
  · exact iff_of_true rfl h
  · exact iff_of_false id h

theorem follows_reviewed (status : VerificationStatus) (actedBy reason : Option String)
    (user : VerifiedUser) : (reviewed now status actedBy reason user).Follows :=
  follows_updateVerifiedFlag now _

variable {user : VerifiedUser} {S : CertificationStore}

theorem follows_updated_iff (h : user.Follows) (data : UpdateUserDto) :
    (updated data user).Follows ↔ data.verificationStatus = .approved ∨ data.verified = some false ∨
      (data.verified = none ∧ user.verificationStatus ≠ .approved) := by
  rw [follows_iff] at h ⊢
  dsimp only [updated]
  split_ifs with hstatus
  · exact iff_of_true (iff_of_true rfl hstatus) (.inl hstatus)
  rw [or_iff_right hstatus, iff_false_right hstatus]
  cases data.verified with
  | none => simpa using h.not
  | some verified => simp

theorem run_findById_bind (id : ℕ) (S : CertificationStore) (f : VerifiedUser → CertificationProc Unit) :
    run (findById id >>= f) S = match S.users.find id with
      | some user => run (f user) S
      | none => (.error (.notFound "User not found"), S) := by
  rw [findById]
  simp only [bind_assoc, run_read_bind]
  cases S.users.find id <;> rfl

def approvable (S : CertificationStore) (requestId : ℕ) : Option (SubscriptionRequest × VerifiedUser) := do
  let request ← (S.requests.find requestId).filter (·.status = .pending)
  let user ← S.users.find request.userId
  return (request, user)

/-- **The user that a call saves.** -/
def savedUser (S : CertificationStore) : CertificationCall → Option (ℕ × VerifiedUser)
  | .requestVerification userId dto => (S.users.find userId).map fun user => (userId, requested dto user)
  | .update id data => (S.users.find id).map fun user => (id, updated data user)
  | .setVerificationStatus now userId status actedBy reason =>
    (S.users.find userId).map fun user => (userId, reviewed now status actedBy reason user)
  | .approveSubscription now requestId => (approvable S requestId).map fun (request, user) =>
    (request.userId, updateVerifiedFlag now { user with subscriptionTier := request.requestedTier })
  | .extendSubscription now userId days _ => (S.users.find userId).map fun user => (userId, extended now days user)

theorem approvable_eq_some_iff {requestId : ℕ} {request : SubscriptionRequest}
    : approvable S requestId = some (request, user) ↔
      S.requests.find requestId = some request ∧ request.status = .pending ∧
        S.users.find request.userId = some user := by
  simp only [approvable, Option.bind_eq_bind, Option.bind_eq_some_iff, Option.filter_eq_some_iff, decide_eq_true_iff,
    Option.pure_def, Option.some.injEq, Prod.mk.injEq]
  constructor
  · rintro ⟨_, ⟨hrequest, hpending⟩, _, huser, rfl, rfl⟩
    exact ⟨hrequest, hpending, huser⟩
  · rintro ⟨hrequest, hpending, huser⟩
    exact ⟨request, ⟨hrequest, hpending⟩, user, huser, rfl, rfl⟩

/-- **What `approveSubscription` does**: it succeeds on a pending request with a user, and saves that user. -/
theorem run_approveSubscription (requestId : ℕ) (S : CertificationStore) :
    match approvable S requestId with
    | some (request, user) =>
      run (Certification.approveSubscription now requestId) S = (.ok (),
        { users := S.users.set request.userId
            (updateVerifiedFlag now { user with subscriptionTier := request.requestedTier })
          requests := S.requests.set requestId { request with status := .approved } })
    | none => (run (Certification.approveSubscription now requestId) S).1 ≠ .ok () ∧
        (run (Certification.approveSubscription now requestId) S).2.users = S.users := by
  rw [Certification.approveSubscription, run_read_bind, approvable]
  cases S.requests.find requestId with
  | none => exact ⟨fun h => (by cases h), rfl⟩
  | some request =>
    by_cases hpending : request.status = .pending
    · rw [Option.filter_some, if_pos (decide_eq_true hpending)]
      dsimp only [Option.bind_eq_bind, Option.bind_some]
      rw [run_throwIf_bind, if_neg (not_not.mpr hpending), run_write_bind, run_read_bind]
      cases S.users.find request.userId with
      | none => exact ⟨fun h => (by cases h), rfl⟩
      | some user => rfl
    · rw [Option.filter_some, if_neg (by simpa using hpending)]
      rw [run_throwIf_bind, if_pos hpending]
      exact ⟨fun h => (by cases h), rfl⟩

theorem users_step (S : CertificationStore) (call : CertificationCall) :
    (step S call).users = match savedUser S call with
      | some (id, user) => S.users.set id user
      | none => S.users := by
  cases call with
  | requestVerification userId dto =>
    dsimp only [step, proc, Certification.requestVerification, savedUser]
    rw [run_findById_bind]
    cases S.users.find userId <;> rfl
  | update id data =>
    dsimp only [step, proc, Certification.update, savedUser]
    rw [run_read_bind]
    cases S.users.find id <;> rfl
  | setVerificationStatus now userId status actedBy reason =>
    dsimp only [step, proc, Certification.setVerificationStatus, savedUser]
    rw [run_findById_bind]
    cases S.users.find userId <;> rfl
  | approveSubscription now requestId =>
    dsimp only [step, proc, savedUser]
    have hrun := run_approveSubscription now requestId S
    cases happrovable : approvable S requestId with
    | none =>
      rw [happrovable] at hrun
      exact hrun.2
    | some item =>
      rw [happrovable] at hrun
      exact congrArg (·.2.users) hrun
  | extendSubscription now userId days credited =>
    dsimp only [step, proc, Certification.extendSubscription, savedUser]
    rw [run_findById_bind]
    cases S.users.find userId with
    | none => rfl
    | some user =>
      dsimp only [Option.map_some]
      rw [saveUser, run_write_bind, run_ofExcept]

theorem find_of_savedUser {call : CertificationCall} {id : ℕ}
    (h : savedUser S call = some (id, user)) : ∃ loaded, S.users.find id = some loaded := by
  cases call with
  | approveSubscription now requestId =>
    obtain ⟨⟨request, loaded⟩, happrovable, heq⟩ := Option.map_eq_some_iff.mp h
    obtain ⟨rfl, -⟩ := Prod.mk.inj heq
    exact ⟨loaded, (approvable_eq_some_iff.mp happrovable).2.2⟩
  | _ =>
    obtain ⟨loaded, hload, heq⟩ := Option.map_eq_some_iff.mp h
    obtain ⟨rfl, -⟩ := Prod.mk.inj heq
    exact ⟨loaded, hload⟩

/-! ### The flag -/

/-- What is saved follows the review exactly when the call keeps the flag with the status. -/
theorem savedUser_follows_iff (h : S.Follows) (call : CertificationCall) :
    (∀ id user, savedUser S call = some (id, user) → user.Follows) ↔ KeepsFlag S call := by
  -- A row that is loaded and saved, when the saved row follows on a condition on the loaded one.
  have hloads (id : ℕ) (f : VerifiedUser → VerifiedUser) {C : VerifiedUser → Prop}
      (hf : ∀ user, user.Follows → ((f user).Follows ↔ C user)) :
      (∀ id' user, (S.users.find id).map (fun user => (id, f user)) = some (id', user) → user.Follows) ↔
        ∀ user, S.users.find id = some user → C user := by
    constructor
    · intro hsaved user hload
      exact (hf user (h id user hload)).mp (hsaved id (f user) (by rw [hload, Option.map_some]))
    · intro hC id' user hsaved
      obtain ⟨loaded, hload, heq⟩ := Option.map_eq_some_iff.mp hsaved
      obtain ⟨rfl, rfl⟩ := Prod.mk.inj heq
      exact (hf loaded (h id loaded hload)).mpr (hC loaded hload)
  cases call with
  | requestVerification userId dto =>
    refine hloads userId (requested dto) fun user huser => ?_
    rw [follows_iff] at huser ⊢
    rw [Ne, ← huser]
    exact iff_false_right fun h => by cases h
  | update id data => exact hloads id (updated data) fun user huser => follows_updated_iff huser data
  | setVerificationStatus now userId status actedBy reason =>
    refine iff_of_true (fun id user hsaved => ?_) trivial
    obtain ⟨loaded, -, heq⟩ := Option.map_eq_some_iff.mp hsaved
    obtain ⟨-, rfl⟩ := Prod.mk.inj heq
    exact follows_reviewed now status actedBy reason loaded
  | approveSubscription now requestId =>
    refine iff_of_true (fun id user hsaved => ?_) trivial
    obtain ⟨item, -, heq⟩ := Option.map_eq_some_iff.mp hsaved
    obtain ⟨-, rfl⟩ := Prod.mk.inj heq
    exact follows_updateVerifiedFlag now _
  | extendSubscription now userId days credited =>
    refine iff_of_true (fun id user hsaved => ?_) trivial
    obtain ⟨loaded, hload, heq⟩ := Option.map_eq_some_iff.mp hsaved
    obtain ⟨-, rfl⟩ := Prod.mk.inj heq
    exact h userId loaded hload

theorem follows_step_iff (h : S.Follows) (call : CertificationCall) : (step S call).Follows ↔ KeepsFlag S call := by
  rw [← savedUser_follows_iff h call]
  unfold CertificationStore.Follows
  rw [users_step]
  cases hsaved : savedUser S call with
  | none => exact iff_of_true h fun _ _ h' => by cases h'
  | some item =>
    obtain ⟨id, user⟩ := item
    obtain ⟨loaded, hload⟩ := find_of_savedUser hsaved
    constructor
    · rintro hafter _ _ heq
      obtain ⟨rfl, rfl⟩ := Prod.mk.inj (Option.some.inj heq)
      exact hafter id user (find_set_self hload user)
    · exact fun hfollows => forall_find_set h id (hfollows id user rfl)

/-! ### The tier -/

/-- **One step**: the user has the tier that was requested exactly when it goes with the status. -/
theorem grantsTier_iff (S : CertificationStore) (call : CertificationCall) :
    GrantsTier S call ↔ AsksTierOfStatus S call := by
  cases call with
  | approveSubscription now requestId =>
    dsimp only [GrantsTier, AsksTierOfStatus, step, proc]
    have hrun := run_approveSubscription now requestId S
    cases happrovable : approvable S requestId with
    | none =>
      rw [happrovable] at hrun
      refine iff_of_true (fun hok => absurd hok hrun.1) fun request hrequest hpending user huser => ?_
      rw [approvable_eq_some_iff.mpr ⟨hrequest, hpending, huser⟩] at happrovable
      cases happrovable
    | some item =>
      obtain ⟨request, user⟩ := item
      rw [happrovable] at hrun
      obtain ⟨hrequest, hpending, huser⟩ := approvable_eq_some_iff.mp happrovable
      have hset := find_set_self huser (updateVerifiedFlag now { user with subscriptionTier := request.requestedTier })
      simp only [hrun, hrequest, Option.some.injEq, forall_eq', forall_const, hpending, huser, hset,
        tier_updateVerifiedFlag]
      exact eq_comm
  | _ => exact Iff.rfl

/-! ### Runs -/

/-- **When certification follows the review**: for any new users and any subscription requests, in every state of a run
the predicate and the flag are those of the status, and every approved request grants its tier, exactly when every call
keeps the flag and asks for the tier of the status. -/
theorem certified_iff_approved_iff {S : CertificationStore} (hnew : S.AllNew) (calls : List CertificationCall) :
    ((∀ n, (Run.after step S (calls.take n)).Follows) ∧
      ∀ n call, calls[n]? = some call → GrantsTier (Run.after step S (calls.take n)) call) ↔
    Run.Along step (fun S call => KeepsFlag S call ∧ AsksTierOfStatus S call) S calls := by
  have hfollows : S.Follows := by
    intro id user hfind
    rw [hnew id user hfind, follows_iff]
    decide
  rw [Run.along_and, Run.forall_getElem?_iff]
  refine and_congr ?_ ?_
  · exact Run.forall_take_iff_along (I := CertificationStore.Follows) (fun _ => id) (fun _ call h => (follows_step_iff h call).mpr)
      (fun _ call h => (follows_step_iff h call).mp) hfollows calls
  · exact Run.along_congr (I := fun _ => True) (fun S call _ => grantsTier_iff S call) (fun _ _ _ _ => trivial) trivial

/-- One new user, and no request for a subscription. -/
def newVendor : CertificationStore where
  users := SerialTable.empty.add {}
  requests := .empty

theorem allNew_newVendor : newVendor.AllNew := by
  intro id user hfind
  obtain ⟨-, rfl⟩ | hfind := eq_or_find_of_find_add hfind
  · rfl
  · cases hfind

/-- A vendor that asks for a review, is approved, and has the subscription extended. -/
def reviewOfVendor : List CertificationCall :=
  [.requestVerification 1 { documents := [("license.pdf", "License")] },
    .setVerificationStatus 0 1 .approved (some "admin") none, .extendSubscription 0 1 30 (.ok ())]

theorem review_certifies : (∀ n, (Run.after step newVendor (reviewOfVendor.take n)).Follows) ∧
    ∀ n call, reviewOfVendor[n]? = some call → GrantsTier (Run.after step newVendor (reviewOfVendor.take n)) call := by
  refine (certified_iff_approved_iff allNew_newVendor reviewOfVendor).mpr ⟨⟨fun user hfind => ?_, trivial⟩,
    ⟨trivial, trivial⟩, ⟨trivial, trivial⟩, trivial⟩
  rw [allNew_newVendor 1 user hfind]
  decide

/-- An approved vendor asks for a review again, and stays certified while it is pending. -/
theorem certified_while_pending : ¬ ∀ (S : CertificationStore) (calls : List CertificationCall), S.AllNew →
    (Run.after step S calls).Follows := by
  intro h
  have hfollows := h newVendor [.setVerificationStatus 0 1 .approved none none,
    .requestVerification 1 { documents := [] }] allNew_newVendor 1
    (requested { documents := [] } (reviewed 0 .approved none none {})) rfl
  exact absurd hfollows.1 (by decide)

end SuuqBackend
