import SuuqBackend.Ebirr.Laws.CompletedTransactions
import SuuqBackend.PosWorkspace.Laws.PaymentReferences
import SuuqBackend.PosWorkspace.Laws.WorkspaceSteps

/-!
# One payment creates one branch

A run of starts and completions of branch creations is watched (`BranchRun`): what was submitted with each reference,
which references were completed, and which branches were created for them.  There is one branch for a reference, and
it is the one that was submitted with it, as long as no two starts share a reference and a completion that finds an
open slot finds its own reference in it (`created_as_submitted`).

The completion itself compares no references: it takes whatever the slot of the tenant remembers, which is what was
submitted last.  So the first of two payments creates the branch of the second (`created_for_another`).
-/

namespace SuuqBackend

open Proc PosWorkspaceActivation PosWorkspaceStore SerialTable

/-! ### Watched runs -/

structure BranchSubmission where
  reference : String
  user : WorkspaceUser
  dto : BranchCreationDto

namespace BranchSubmission

def branchName (submission : BranchSubmission) : String := trim submission.dto.branchName

/-- The owner that was submitted: the user with the address, or the one who pays. -/
def owner (env : PosWorkspaceRuntime) (s : PosWorkspaceStore) (submission : BranchSubmission) : ℕ :=
  ownerOf env s submission.user.id (pendingCreation env submission.user submission.dto submission.reference)

end BranchSubmission

inductive BranchCall where
  | start (now : ℤ) (user : WorkspaceUser) (dto : BranchCreationDto) (exchange : EbirrExchange)
  | complete (now : ℤ) (reference : String)

structure BranchRun where
  store : PosWorkspaceStore
  submitted : List BranchSubmission := []
  completed : List String := []
  created : List (String × WorkspaceBranch) := []

/-- Whether the start of a branch creation has completed it. -/
def isCreated : Except EbirrFailure (String × String × Option ℕ) → Bool
  | .ok (_, status, _) => status = "CREATED"
  | .error _ => false

namespace BranchRun

/-- A call for a reference has left `s'`.  The new branches were created for the reference. -/
def settled (o : BranchRun) (reference : String) (completes : Bool) (s' : PosWorkspaceStore) : BranchRun where
  store := s'
  submitted := o.submitted
  completed := if completes then o.completed ++ [reference] else o.completed
  created := o.created ++ (s'.branches.since o.store.branches.next).map fun branch => (reference, branch)

def step (env : PosWorkspaceRuntime) (o : BranchRun) : BranchCall → BranchRun
  | .start now user dto exchange =>
    let ran := run (startAdditionalBranchCreationPayment env now user dto exchange) o.store
    match o.store.payingTenant user with
    | none => { o with store := ran.2 }
    | some (tenantId, _) =>
      let reference := branchCreationReference tenantId user.id now
      let submitted : BranchRun := { o with submitted := o.submitted ++ [⟨reference, user, dto⟩] }
      submitted.settled reference (isCreated ran.1) ran.2
  | .complete now reference =>
    let ran := run (completeBranchCreationPayment env now reference) o.store
    o.settled reference ran.1.isOk ran.2

/-- The condition on a call: a start has a new reference, and a completion finds its own one in an open slot. -/
def Meets (o : BranchRun) : BranchCall → Prop
  | .start now user _ _ => ∀ found ∈ o.store.payingTenant user,
      branchCreationReference found.1 user.id now ∉ o.submitted.map (·.reference)
  | .complete _ reference => ∀ parsed ∈ parseBranchCreationReference reference,
      ∀ found ∈ o.store.awaiting parsed.1, found.2.2.referenceId = reference

instance (o : BranchRun) (call : BranchCall) : Decidable (o.Meets call) := by
  cases call with
  | start now user dto exchange => exact inferInstanceAs (Decidable (∀ found ∈ o.store.payingTenant user, _))
  | complete now reference => exact inferInstanceAs (Decidable (∀ parsed ∈ parseBranchCreationReference reference, _))

/-- There is at most one branch for each completed reference, with the name and the owner that were submitted. -/
structure OneEach (env : PosWorkspaceRuntime) (o : BranchRun) : Prop where
  count : o.created.length ≤ o.completed.dedup.length
  once : (o.created.map Prod.fst).Nodup
  asSubmitted : ∀ reference branch, (reference, branch) ∈ o.created →
    (∃ submission ∈ o.submitted, submission.reference = reference) ∧
    ∀ submission ∈ o.submitted, submission.reference = reference →
      branch.name = submission.branchName ∧ branch.ownerId = some (submission.owner env o.store)

/-! ### The slots remember what was submitted -/

/-- A slot of a tenant holds what was submitted, and perhaps the branch that was created. -/
structure Remembers (env : PosWorkspaceRuntime) (tenantId : ℕ) (submission : BranchSubmission)
    (pending : PendingBranchCreation) : Prop where
  reference : pending.referenceId = submission.reference
  madeOf : ∃ now, submission.reference = branchCreationReference tenantId submission.user.id now
  branchName : pending.branchName = submission.branchName
  owner : ∀ s, ownerOf env s submission.user.id pending = submission.owner env s

def slot (s : PosWorkspaceStore) (id : ℕ) : Option PendingBranchCreation :=
  (s.subscriptions.find id).bind fun row => row.metadata.pendingBranchCreation

/-- What holds as long as the calls meet the condition.  `users` are the users of the store that the run began with. -/
structure Sound (env : PosWorkspaceRuntime) (users : SerialTable String) (o : BranchRun) : Prop where
  users : o.store.users = users
  distinct : (o.submitted.map (·.reference)).Nodup
  remembered : ∀ id row pending, o.store.subscriptions.find id = some row →
    row.metadata.pendingBranchCreation = some pending →
      ∃ submission ∈ o.submitted, Remembers env row.tenantId submission pending
  single : ∀ id id' pending pending', slot o.store id = some pending → slot o.store id' = some pending' →
    pending.referenceId = pending'.referenceId → id = id'
  waits : ∀ id pending, slot o.store id = some pending → pending.createdBranchId = none →
    pending.referenceId ∉ o.created.map Prod.fst
  once : (o.created.map Prod.fst).Nodup
  completed : ∀ reference ∈ o.created.map Prod.fst, reference ∈ o.completed
  asSubmitted : ∀ reference branch, (reference, branch) ∈ o.created → ∃ submission ∈ o.submitted,
    submission.reference = reference ∧ branch.name = submission.branchName ∧
      branch.ownerId = some (submission.owner env o.store)

variable {env : PosWorkspaceRuntime} {users : SerialTable String} {o : BranchRun}

theorem slot_eq_some_iff {s : PosWorkspaceStore} {id : ℕ} {pending : PendingBranchCreation} :
    slot s id = some pending ↔
      ∃ row, s.subscriptions.find id = some row ∧ row.metadata.pendingBranchCreation = some pending :=
  Option.bind_eq_some_iff

section Saved

variable {s s' : PosWorkspaceStore} {id : ℕ} {row' : TenantSubscription}

theorem slot_of_set (hset : s'.subscriptions = s.subscriptions.set id row')
    {id' : ℕ} {pending : PendingBranchCreation} (h : slot s' id' = some pending) :
    id' = id ∧ row'.metadata.pendingBranchCreation = some pending ∨ id' ≠ id ∧ slot s id' = some pending := by
  obtain ⟨found, hfound, hpending⟩ := slot_eq_some_iff.mp h
  rw [hset] at hfound
  rcases eq_or_find_of_find_set hfound with ⟨hid, rfl⟩ | ⟨hid, hfound'⟩
  · exact .inl ⟨hid, hpending⟩
  · exact .inr ⟨hid, slot_eq_some_iff.mpr ⟨found, hfound', hpending⟩⟩

end Saved

variable {id tenantId : ℕ} {s : PosWorkspaceStore} {row : TenantSubscription}
  {pending : PendingBranchCreation}

theorem latest_of_payingTenant {user : WorkspaceUser} (h : s.payingTenant user = some (tenantId, id, row)) :
    s.latestSubscription tenantId = some (id, row) := by
  unfold payingTenant at h
  split_ifs at h
  obtain ⟨tenantId', -, hfound⟩ := Option.bind_eq_some_iff.mp h
  obtain ⟨found, hfilter, heq⟩ := Option.map_eq_some_iff.mp hfound
  cases heq
  exact (Option.filter_eq_some_iff.mp hfilter).1

theorem find_of_latestSubscription (h : s.latestSubscription tenantId = some (id, row)) :
    s.subscriptions.find id = some row ∧ row.tenantId = tenantId := by
  obtain ⟨hfind, htenant⟩ := find_of_last h
  exact ⟨hfind, of_decide_eq_true htenant⟩

theorem find_of_awaiting (h : s.awaiting tenantId = some (id, row, pending)) :
    s.subscriptions.find id = some row ∧ row.metadata.pendingBranchCreation = some pending ∧
      pending.createdBranchId = none := by
  obtain ⟨found, hlatest, hfound⟩ := Option.bind_eq_some_iff.mp h
  obtain ⟨pending', hfilter, heq⟩ := Option.map_eq_some_iff.mp hfound
  cases heq
  obtain ⟨hpending, hopen⟩ := Option.filter_eq_some_iff.mp hfilter
  exact ⟨(find_of_latestSubscription hlatest).1, hpending, (of_decide_eq_true hopen).2⟩

theorem remembers_pendingCreation (tenantId : ℕ) (now : ℤ) (user : WorkspaceUser) (dto : BranchCreationDto) :
    let reference := branchCreationReference tenantId user.id now
    Remembers env tenantId ⟨reference, user, dto⟩ (pendingCreation env user dto reference) :=
  ⟨rfl, ⟨now, rfl⟩, rfl, fun _ => rfl⟩

theorem Remembers.withBranch {submission : BranchSubmission}
    (h : Remembers env tenantId submission pending) (branchId : ℕ) (now : ℤ) :
    Remembers env tenantId submission { pending with createdBranchId := some branchId, createdAt := some now } :=
  ⟨h.reference, h.madeOf, h.branchName, h.owner⟩

namespace Sound

section

variable (h : Sound env users o)

include h

theorem oneEach : OneEach env o where
  count := by
    have hsubset : o.created.map Prod.fst ⊆ o.completed.dedup := fun reference hmem =>
      List.mem_dedup.mpr (h.completed reference hmem)
    have hlength := (List.subperm_of_subset h.once hsubset).length_le
    rwa [List.length_map] at hlength
  once := h.once
  asSubmitted reference branch hmem := by
    obtain ⟨submission, hsubmitted, href, hname, howner⟩ := h.asSubmitted reference branch hmem
    refine ⟨⟨submission, hsubmitted, href⟩, fun other hother href' => ?_⟩
    -- a reference is submitted once
    have heq : other = submission := List.inj_on_of_nodup_map h.distinct hother hsubmitted (href'.trans href.symm)
    rw [heq]
    exact ⟨hname, howner⟩

theorem unchanged (reference : String) (completes : Bool) :
    Sound env users (o.settled reference completes o.store) := by
  have hcreated : (o.settled reference completes o.store).created = o.created := by
    unfold settled
    rw [since_next, List.map_nil, List.append_nil]
  have hcompleted : ∀ r ∈ o.completed, r ∈ (o.settled reference completes o.store).completed := by
    intro r hr
    unfold settled
    split_ifs
    · exact List.mem_append_left _ hr
    · exact hr
  refine ⟨h.users, h.distinct, h.remembered, h.single, ?_, ?_, ?_, ?_⟩
  · rw [hcreated]
    exact h.waits
  · rw [hcreated]
    exact h.once
  · rw [hcreated]
    exact fun r hr => hcompleted r (h.completed r hr)
  · rw [hcreated]
    exact h.asSubmitted

theorem submit {now : ℤ} {user : WorkspaceUser} (dto : BranchCreationDto) {tenantId id : ℕ}
    {row : TenantSubscription} (hpays : o.store.payingTenant user = some (tenantId, id, row))
    (hnew : branchCreationReference tenantId user.id now ∉ o.submitted.map (·.reference)) (ebirr : EbirrStore) :
    let reference := branchCreationReference tenantId user.id now
    Sound env users { o with
      store := (o.store.withPending id row (pendingCreation env user dto reference)).withEbirr ebirr
      submitted := o.submitted ++ [⟨reference, user, dto⟩] } := by
  intro reference
  obtain ⟨hfind, htenant⟩ := find_of_latestSubscription (latest_of_payingTenant hpays)
  -- a slot that was there before holds another reference
  have hother : ∀ id' pending, slot o.store id' = some pending → pending.referenceId ≠ reference := by
    intro id' pending hslot heq
    obtain ⟨row', hrow', hpending⟩ := slot_eq_some_iff.mp hslot
    obtain ⟨submission, hmem, hremembers⟩ := h.remembered id' row' pending hrow' hpending
    exact hnew (List.mem_map.mpr ⟨submission, hmem, hremembers.reference.symm.trans heq⟩)
  refine ⟨h.users, ?_, ?_, ?_, ?_, h.once, h.completed, ?_⟩
  · rw [List.map_append]
    refine List.nodup_append.mpr ⟨h.distinct, List.nodup_singleton _, fun r hr r' hr' heq => hnew ?_⟩
    have href' : r' = reference := List.mem_singleton.mp hr'
    rw [heq, href'] at hr
    exact hr
  · intro id' row' pending hrow' hpending
    rcases eq_or_find_of_find_set hrow' with ⟨-, rfl⟩ | ⟨-, hrow'⟩
    · obtain rfl := Option.some.inj hpending
      refine ⟨⟨reference, user, dto⟩, List.mem_append_right _ (List.mem_singleton_self _), ?_⟩
      exact htenant ▸ remembers_pendingCreation tenantId now user dto
    · obtain ⟨submission, hmem, hremembers⟩ := h.remembered id' row' pending hrow' hpending
      exact ⟨submission, List.mem_append_left _ hmem, hremembers⟩
  · intro id₁ id₂ pending₁ pending₂ hslot₁ hslot₂ href
    rcases slot_of_set rfl hslot₁ with ⟨hid₁, hnew₁⟩ | ⟨hid₁, hslot₁⟩
    · rcases slot_of_set rfl hslot₂ with ⟨hid₂, hnew₂⟩ | ⟨hid₂, hslot₂⟩
      · rw [hid₁, hid₂]
      · rw [← Option.some.inj hnew₁] at href
        exact absurd href.symm (hother id₂ pending₂ hslot₂)
    · rcases slot_of_set rfl hslot₂ with ⟨hid₂, hnew₂⟩ | ⟨hid₂, hslot₂⟩
      · rw [← Option.some.inj hnew₂] at href
        exact absurd href (hother id₁ pending₁ hslot₁)
      · exact h.single id₁ id₂ pending₁ pending₂ hslot₁ hslot₂ href
  · intro id' pending hslot hopen
    rcases slot_of_set rfl hslot with ⟨hid, hpending⟩ | ⟨hid, hslot⟩
    · rw [← Option.some.inj hpending]
      intro hmem
      obtain ⟨⟨r, branch⟩, hcreated, hr⟩ := List.mem_map.mp hmem
      obtain ⟨submission, hsubmitted, href, -⟩ := h.asSubmitted r branch hcreated
      rw [show r = reference from hr] at href
      exact hnew (List.mem_map.mpr ⟨submission, hsubmitted, href⟩)
    · exact h.waits id' pending hslot hopen
  · intro r branch hcreated
    obtain ⟨submission, hsubmitted, hrest⟩ := h.asSubmitted r branch hcreated
    exact ⟨submission, List.mem_append_left _ hsubmitted, hrest⟩

theorem create (now : ℤ) {reference : String} {tenantId userId id : ℕ}
    {row : TenantSubscription} {pending : PendingBranchCreation} (code : String)
    (hparse : parseBranchCreationReference reference = some (tenantId, userId))
    (hawaits : o.store.awaiting tenantId = some (id, row, pending)) (hown : pending.referenceId = reference) :
    Sound env users (o.settled reference true (o.store.withBranch env now tenantId userId id row pending code)) := by
  obtain ⟨hfind, hpending, hopen⟩ := find_of_awaiting hawaits
  have hslot : slot o.store id = some pending := slot_eq_some_iff.mpr ⟨row, hfind, hpending⟩
  obtain ⟨submission, hsubmitted, hremembers⟩ := h.remembered id row pending hfind hpending
  have href : submission.reference = reference := hremembers.reference.symm.trans hown
  have huser : userId = submission.user.id := by
    obtain ⟨started, hmade⟩ := hremembers.madeOf
    rw [← href, hmade] at hparse
    exact (parse_branchCreationReference hparse).2
  have hfresh : reference ∉ o.created.map Prod.fst := hown ▸ h.waits id pending hslot hopen
  have hcreated : (o.settled reference true (o.store.withBranch env now tenantId userId id row pending code)).created =
      o.created ++ [(reference, createdBranch tenantId (ownerOf env o.store userId pending) code pending)] := by
    unfold settled withBranch
    rw [since_add, List.map_singleton]
  refine ⟨h.users, h.distinct, ?_, ?_, ?_, ?_, ?_, ?_⟩
  · intro id' row' pending' hrow' hpending'
    rcases eq_or_find_of_find_set hrow' with ⟨-, rfl⟩ | ⟨-, hrow'⟩
    · obtain rfl := Option.some.inj hpending'
      exact ⟨submission, hsubmitted, hremembers.withBranch _ _⟩
    · exact h.remembered id' row' pending' hrow' hpending'
  · intro id₁ id₂ pending₁ pending₂ hslot₁ hslot₂ heq
    -- the reference of each slot is the one that it held before
    have hbefore : ∀ id' pending', slot (o.store.withBranch env now tenantId userId id row pending code) id' =
        some pending' → ∃ old, slot o.store id' = some old ∧ old.referenceId = pending'.referenceId := by
      intro id' pending' hslot'
      rcases slot_of_set rfl hslot' with ⟨rfl, hpending'⟩ | ⟨-, hslot'⟩
      · exact ⟨pending, hslot, by rw [← Option.some.inj hpending']⟩
      · exact ⟨pending', hslot', rfl⟩
    obtain ⟨old₁, hold₁, heq₁⟩ := hbefore id₁ pending₁ hslot₁
    obtain ⟨old₂, hold₂, heq₂⟩ := hbefore id₂ pending₂ hslot₂
    exact h.single id₁ id₂ old₁ old₂ hold₁ hold₂ (by rw [heq₁, heq₂, heq])
  · intro id' pending' hslot' hopen'
    rcases slot_of_set rfl hslot' with ⟨-, hpending'⟩ | ⟨hid, hslot'⟩
    · rw [← Option.some.inj hpending'] at hopen'
      cases hopen'
    · rw [hcreated, List.map_append, List.mem_append, not_or]
      refine ⟨h.waits id' pending' hslot' hopen', fun hmem => hid ?_⟩
      have href' : pending'.referenceId = reference := List.mem_singleton.mp hmem
      exact h.single id' id pending' pending hslot' hslot (href'.trans hown.symm)
  · rw [hcreated, List.map_append]
    refine List.nodup_append.mpr ⟨h.once, List.nodup_singleton _, fun r hr r' hr' heq => hfresh ?_⟩
    have href' : r' = reference := List.mem_singleton.mp hr'
    rwa [← href', ← heq]
  · rw [hcreated, List.map_append]
    intro r hr
    rcases List.mem_append.mp hr with hr | hr
    · exact List.mem_append_left _ (h.completed r hr)
    · exact List.mem_append_right _ hr
  · rw [hcreated]
    intro r branch hmem
    rcases List.mem_append.mp hmem with hmem | hmem
    · exact h.asSubmitted r branch hmem
    · obtain ⟨rfl, rfl⟩ := Prod.mk.inj (List.mem_singleton.mp hmem)
      refine ⟨submission, hsubmitted, href, hremembers.branchName, ?_⟩
      rw [huser]
      exact congrArg some (hremembers.owner o.store)

theorem complete (now : ℤ) (reference : String) (completes : Bool) (hmeets : o.Meets (.complete now reference))
    (hcompletes : (run (completeBranchCreationPayment env now reference) o.store).1.isOk = true →
      completes = true) :
    Sound env users
      (o.settled reference completes (run (completeBranchCreationPayment env now reference) o.store).2) := by
  rcases completeBranchCreation_cases env now reference o.store with
    hsame | ⟨tenantId, userId, id, row, pending, code, hparse, hawaits, hrun⟩
  · rw [hsame]
    exact h.unchanged reference completes
  · rw [hrun] at hcompletes ⊢
    rw [hcompletes rfl]
    exact h.create now code hparse hawaits (hmeets _ hparse _ hawaits)

end

theorem meets_complete {s : PosWorkspaceStore} {now : ℤ} {user : WorkspaceUser} (dto : BranchCreationDto)
    {tenantId id : ℕ} {row : TenantSubscription} (hlatest : s.latestSubscription tenantId = some (id, row))
    (ebirr : EbirrStore) :
    let reference := branchCreationReference tenantId user.id now
    ∀ found, ((s.withPending id row (pendingCreation env user dto reference)).withEbirr ebirr).awaiting tenantId =
      some found → found.2.2.referenceId = reference := by
  intro reference found hawaits
  have hnewest : ((s.withPending id row (pendingCreation env user dto reference)).withEbirr ebirr).latestSubscription
      tenantId = some (id, { row with metadata := { row.metadata with
        pendingBranchCreation := some (pendingCreation env user dto reference) } }) :=
    last_set hlatest (find_of_last hlatest).2
  unfold awaiting at hawaits
  rw [hnewest] at hawaits
  obtain ⟨pending', hfilter, heq⟩ := Option.map_eq_some_iff.mp hawaits
  cases heq
  have hpending := (Option.filter_eq_some_iff.mp hfilter).1
  rw [← Option.some.inj hpending]
  rfl

theorem isCreated_of_ok (p : WorkspaceProc (ℕ × Bool)) (reference : String) (s : PosWorkspaceStore)
    (h : (run p s).1.isOk = true) :
    isCreated (run (p >>= fun created => pure (reference, "CREATED", some created.1)) s).1 = true := by
  rw [run_bind]
  rcases hrun : run p s with ⟨failure | created, s'⟩
  · rw [hrun] at h
    cases h
  · rfl

theorem step (h : Sound env users o) (call : BranchCall) (hmeets : o.Meets call) :
    Sound env users (o.step env call) := by
  cases call with
  | complete now reference => exact h.complete now reference _ hmeets fun hok => hok
  | start now user dto exchange =>
    unfold BranchRun.step
    dsimp only
    rcases startBranchCreation_cases env now user dto exchange o.store with
      ⟨hnone, failure, hrun⟩ | ⟨tenantId, id, row, ebirr, -, hpays, hcases⟩
    · rw [hnone, hrun]
      exact h
    · rw [hpays]
      have hnew := hmeets _ hpays
      have hsubmit := h.submit dto hpays hnew ebirr
      dsimp only at hsubmit hcases ⊢
      rcases hcases with ⟨outcome, hrun⟩ | ⟨-, hrun⟩
      · rw [hrun]
        exact hsubmit.unchanged _ _
      · have hcomplete := hsubmit.complete exchange.repliedAt (branchCreationReference tenantId user.id now)
          (isCreated (run (startAdditionalBranchCreationPayment env now user dto exchange) o.store).1) ?_ ?_
        · rw [hrun, snd_run_bind_readOnly _ fun _ => readOnly_pure _]
          rw [hrun] at hcomplete
          exact hcomplete
        · rintro ⟨tenantId', userId'⟩ hparse found hawaits
          obtain ⟨rfl, -⟩ := parse_branchCreationReference hparse
          exact meets_complete dto (latest_of_payingTenant hpays) ebirr found hawaits
        · intro hok
          rw [hrun]
          exact isCreated_of_ok _ _ _ hok

end Sound

/-- **One payment creates one branch**, the one that was submitted with it. -/
theorem created_as_submitted (env : PosWorkspaceRuntime) {s : PosWorkspaceStore}
    (hs : ∀ id row, s.subscriptions.find id = some row → row.metadata.pendingBranchCreation = none)
    {calls : List BranchCall} (h : Run.Along (step env) Meets { store := s } calls) (n : ℕ) :
    OneEach env (Run.after (step env) { store := s } (calls.take n)) := by
  have hsound : Sound env s.users { store := s } := by
    refine ⟨rfl, List.nodup_nil, ?_, ?_, fun _ _ _ _ => List.not_mem_nil, List.nodup_nil,
      fun _ h => absurd h List.not_mem_nil, fun _ _ h => absurd h List.not_mem_nil⟩
    · intro id row pending hrow hpending
      rw [hs id row hrow] at hpending
      cases hpending
    · intro id id' pending pending' hslot
      obtain ⟨row, hrow, hpending⟩ := slot_eq_some_iff.mp hslot
      rw [hs id row hrow] at hpending
      cases hpending
  exact (Run.after_induction (P := Sound env s.users) (fun _ call h => h.step call) hsound (Run.along_take h n)).oneEach

/-! ### Two payments at once -/

def workspaceRuntime : PosWorkspaceRuntime where
  ebirr := ebirrRuntime
  toLowerCase text := text
  periods _ := rfl

end BranchRun

/-- A tenant with one branch, a subscription and a manager. -/
def PosWorkspaceStore.withShop : PosWorkspaceStore where
  branches := SerialTable.empty.add
    { name := "Bole", code := some "BOLE-1", serviceFormat := some "RETAIL", ownerId := some 1,
      retailTenantId := some 1, isActive := true }
  tenants := Finmap.singleton 1 ⟨.active, some 1⟩
  subscriptions := SerialTable.empty.add
    { tenantId := 1, branchId := some 1, planCode := "POS_BRANCH_1Y", status := .active, billingInterval := .oneYear,
      amount := some 1900, currency := some "ETB", startsAt := 0, endsAt := none, autoRenew := true }
  moduleEntitlements := SerialTable.empty.add { tenantId := 1, retailModule := .posCore, enabled := true }
  staffAssignments := SerialTable.empty.add ⟨1, 1, .manager, true⟩
  users := SerialTable.empty.add "abebe@suuq.test"
  ebirr := ⟨.empty, .empty⟩

namespace BranchRun

/-- The owner starts to pay for two branches, and the first payment is completed. -/
def twoPayments : List BranchCall :=
  let exchange : EbirrExchange := ⟨.noAnswer false, 10, 20⟩
  let dto : BranchCreationDto := { branchName := "Piassa", serviceFormat := "RETAIL", phoneNumber := "251911000000" }
  [.start 100 ⟨1, none⟩ dto exchange, .start 200 ⟨1, none⟩ { dto with branchName := "Merkato" } exchange,
    .complete 300 "POSBRANCH-1-1-100"]

/-- The first payment creates the branch of the second. -/
theorem created_for_another :
    ¬ ∀ n, OneEach workspaceRuntime (Run.after (step workspaceRuntime) { store := .withShop } (twoPayments.take n)) := by
  intro h
  have hcreated : ("POSBRANCH-1-1-100", "Merkato") ∈
      (Run.after (step workspaceRuntime) { store := .withShop } (twoPayments.take 3)).created.map
        fun found => (found.1, found.2.name) := by decide +kernel
  have hsubmitted : ∃ submission ∈
      (Run.after (step workspaceRuntime) { store := .withShop } (twoPayments.take 3)).submitted,
        submission.reference = "POSBRANCH-1-1-100" ∧ submission.branchName = "Piassa" := by decide +kernel
  obtain ⟨⟨reference, branch⟩, hmem, heq⟩ := List.mem_map.mp hcreated
  obtain ⟨submission, hsubmission, href, hname⟩ := hsubmitted
  obtain ⟨rfl, hbranch⟩ := Prod.mk.inj heq
  have hclaim := (((h 3).asSubmitted _ branch hmem).2 submission hsubmission href).1
  rw [hbranch, hname] at hclaim
  exact absurd hclaim (by decide)

def onePayment : List BranchCall := [twoPayments.head (by decide), .complete 300 "POSBRANCH-1-1-100"]

theorem created_as_submitted_alone : Run.Along (step workspaceRuntime) Meets { store := .withShop } onePayment ∧
      OneEach workspaceRuntime (Run.after (step workspaceRuntime) { store := .withShop } (onePayment.take 2)) := by
  have hmeets : Run.Along (step workspaceRuntime) Meets { store := .withShop } onePayment := by decide +kernel
  refine ⟨hmeets, created_as_submitted workspaceRuntime ?_ hmeets 2⟩
  exact forall_find_add (fun _ _ h => nomatch h) rfl

end BranchRun

end SuuqBackend
