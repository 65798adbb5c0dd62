import SuuqBackend.PosSync.PosSync

/-!
# What `ingest` does

An ingested list either leaves the tables as they were (it was refused, or a job of it exists) or makes
one new job, whose entries are processed one after another.  `entryStep` is the store after one entry,
whether it goes through or throws, and `rejections` are the failed entries of a run over a list.

* `along_mem_rejections_iff`: the indexes of the failed entries are those of the entries that throw in
  the state that they are processed in.
-/

namespace SuuqBackend

open Proc InventoryRepository SerialTable

namespace PosSync

/-! ### One entry -/

section Entry

variable (env : PosSyncRuntime) (jobId : ℕ) (dto : IngestPosSyncDto) (actorId : Option ℕ)

/-- The product that the entry names, or that its alias resolves to. -/
def resolvedProductId (S : PosSyncStore) (entry : PosSyncEntryDto) : Except HttpException ℕ :=
  ((resolveProductId env dto entry).run S).1

theorem run_resolveProductId (S : PosSyncStore) (entry : PosSyncEntryDto) :
    (resolveProductId env dto entry).run S = (resolvedProductId env dto S entry, S) := by
  suffices h : ((resolveProductId env dto entry).run S).2 = S from Prod.ext rfl h
  unfold resolveProductId
  cases entry.productId with
  | some productId => rfl
  | none =>
    cases entry.aliasType with
    | none => rfl
    | some aliasType =>
      cases trimmed entry.aliasValue with
      | none => rfl
      | some text =>
        simp only [run_read_bind]
        split <;> rfl

variable {env dto} in
theorem run_processInventoryEntry {S : PosSyncStore} {entry : PosSyncEntryDto} {productId : ℕ}
    (h : resolvedProductId env dto S entry = .ok productId) (entryIndex : ℕ) :
    (processInventoryEntry env jobId dto entry entryIndex actorId).run S =
      (((applyEntry env jobId dto entry entryIndex actorId productId).run S.transfer).1, { S with transfer :=
            ((applyEntry env jobId dto entry entryIndex actorId productId).run S.transfer).2 }) := by
  unfold processInventoryEntry
  rw [run_bind_of_ok (h ▸ run_resolveProductId env dto S entry)]
  exact run_zoom ..

variable {env dto} in
theorem run_processInventoryEntry_of_error {S : PosSyncStore} {entry : PosSyncEntryDto}
    {e : HttpException} (h : resolvedProductId env dto S entry = .error e) (entryIndex : ℕ) :
    (processInventoryEntry env jobId dto entry entryIndex actorId).run S = (.error e, S) := by
  unfold processInventoryEntry
  rw [run_bind_of_error (h ▸ run_resolveProductId env dto S entry)]

/-- The store after an entry, whether it goes through or throws. -/
def entryStep (S : PosSyncStore) (x : PosSyncEntryDto × ℕ) : PosSyncStore :=
  ((processInventoryEntry env jobId dto x.1 x.2 actorId).run S).2

def Rejected (S : PosSyncStore) (x : PosSyncEntryDto × ℕ) : Prop :=
  ∃ e, ((processInventoryEntry env jobId dto x.1 x.2 actorId).run S).1 = .error e

/-- What the loop keeps of the entries that throw. -/
def rejections : PosSyncStore → List (PosSyncEntryDto × ℕ) → List PosSyncFailedEntry
  | _, [] => []
  | S, x :: xs =>
    match ((processInventoryEntry env jobId dto x.1 x.2 actorId).run S).1 with
    | .ok _ => rejections (entryStep env jobId dto actorId S x) xs
    | .error e => toFailedEntry x.2 x.1 e :: rejections (entryStep env jobId dto actorId S x) xs

variable {env jobId dto actorId} {S : PosSyncStore} {x : PosSyncEntryDto × ℕ}
  {xs : List (PosSyncEntryDto × ℕ)}

theorem rejections_cons_of_rejected (h : Rejected env jobId dto actorId S x) (xs : List (PosSyncEntryDto × ℕ)) :
    ∃ e, rejections env jobId dto actorId S (x :: xs) = toFailedEntry x.2 x.1 e ::
      rejections env jobId dto actorId (entryStep env jobId dto actorId S x) xs := by
  obtain ⟨e, he⟩ := h
  refine ⟨e, ?_⟩
  rw [rejections, he]

theorem rejections_cons_of_not_rejected (h : ¬ Rejected env jobId dto actorId S x)
    (xs : List (PosSyncEntryDto × ℕ)) : rejections env jobId dto actorId S (x :: xs) =
      rejections env jobId dto actorId (entryStep env jobId dto actorId S x) xs := by
  rw [rejections]
  cases ho : ((processInventoryEntry env jobId dto x.1 x.2 actorId).run S).1 with
  | ok u => rfl
  | error e => exact absurd ⟨e, ho⟩ h

theorem entryStep_eq (S : PosSyncStore) (x : PosSyncEntryDto × ℕ) :
    entryStep env jobId dto actorId S x = { S with transfer := (entryStep env jobId dto actorId S x).transfer } := by
  unfold entryStep
  cases h : resolvedProductId env dto S x.1 with
  | error e => rw [run_processInventoryEntry_of_error jobId actorId h]
  | ok productId => rw [run_processInventoryEntry jobId actorId h]

theorem jobs_entryStep (S : PosSyncStore) (x : PosSyncEntryDto × ℕ) :
    (entryStep env jobId dto actorId S x).jobs = S.jobs := by
  rw [entryStep_eq]

theorem jobs_after (S : PosSyncStore) (xs : List (PosSyncEntryDto × ℕ)) :
    (Run.after (entryStep env jobId dto actorId) S xs).jobs = S.jobs :=
  Run.after_invariant (P := fun T => T.jobs = S.jobs) (fun T x h => (jobs_entryStep T x).trans h) rfl xs

/-! ### The indexes of the failed entries -/

variable (env jobId dto actorId) in
theorem rejections_sublist (S : PosSyncStore) (xs : List (PosSyncEntryDto × ℕ)) :
    ((rejections env jobId dto actorId S xs).map PosSyncFailedEntry.entryIndex).Sublist (xs.map Prod.snd) := by
  induction xs generalizing S with
  | nil => exact List.Sublist.slnil
  | cons x xs ih =>
    by_cases hx : Rejected env jobId dto actorId S x
    · obtain ⟨e, hcons⟩ := rejections_cons_of_rejected hx xs
      rw [hcons]
      exact (ih _).cons_cons x.2
    · rw [rejections_cons_of_not_rejected hx]
      exact (ih _).cons x.2

theorem along_mem_rejections_iff (hnodup : (xs.map Prod.snd).Nodup) {indexes : List ℕ}
    (hindexes : ∀ x ∈ xs, x.2 ∈ indexes ↔
      x.2 ∈ (rejections env jobId dto actorId S xs).map PosSyncFailedEntry.entryIndex) :
    Run.Along (entryStep env jobId dto actorId)
      (fun S x => x.2 ∈ indexes ↔ Rejected env jobId dto actorId S x) S xs := by
  induction xs generalizing S with
  | nil => trivial
  | cons x xs ih =>
    rw [List.map_cons, List.nodup_cons] at hnodup
    obtain ⟨hnotMem, hnodup⟩ := hnodup
    have hrest := rejections_sublist env jobId dto actorId (entryStep env jobId dto actorId S x) xs
    have hx := hindexes x List.mem_cons_self
    by_cases hrejected : Rejected env jobId dto actorId S x
    · obtain ⟨e, hcons⟩ := rejections_cons_of_rejected hrejected xs
      refine ⟨iff_of_true (hx.mpr ?_) hrejected, ih hnodup fun y hy => ?_⟩
      · rw [hcons]
        exact List.mem_cons_self
      · have hne : y.2 ≠ x.2 := fun h => hnotMem (h ▸ List.mem_map_of_mem hy)
        rw [hindexes y (List.mem_cons_of_mem x hy), hcons, List.map_cons, List.mem_cons]
        exact or_iff_right hne
    · rw [rejections_cons_of_not_rejected hrejected] at hindexes hx
      refine ⟨iff_of_false (fun h => hnotMem ?_) hrejected, ih hnodup fun y hy => ?_⟩
      · exact hrest.subset (hx.mp h)
      · exact hindexes y (List.mem_cons_of_mem x hy)

/-- **The loop**: it runs over all entries and keeps the failed ones, unless the database refuses a
statement. -/
theorem processEntries_eq_ok {tally tally' : IngestTally} {S' : PosSyncStore}
    (h : (processEntries env jobId dto actorId xs tally).run S = (.ok tally', S')) :
    S' = Run.after (entryStep env jobId dto actorId) S xs ∧
      tally'.failedEntries = tally.failedEntries ++ rejections env jobId dto actorId S xs := by
  induction xs generalizing S tally with
  | nil =>
    cases h
    exact ⟨rfl, (List.append_nil _).symm⟩
  | cons x xs ih =>
    obtain ⟨entry, entryIndex⟩ := x
    rw [processEntries, run_bind_of_ok (run_attempt _ S)] at h
    have hcaught : ∀ e, ((processInventoryEntry env jobId dto entry entryIndex actorId).run S).1 =
        .error e → (processEntries env jobId dto actorId xs
          (tally.reject (toFailedEntry entryIndex entry e))).run
            (entryStep env jobId dto actorId S (entry, entryIndex)) = (.ok tally', S') →
        S' = Run.after (entryStep env jobId dto actorId) S ((entry, entryIndex) :: xs) ∧
          tally'.failedEntries = tally.failedEntries ++
            rejections env jobId dto actorId S ((entry, entryIndex) :: xs) := by
      intro e herror hrest
      obtain ⟨hstore, hfailed⟩ := ih hrest
      refine ⟨hstore, ?_⟩
      rw [hfailed, rejections, herror, IngestTally.reject, List.append_assoc]
      rfl
    cases ho : ((processInventoryEntry env jobId dto entry entryIndex actorId).run S).1 with
    | ok u =>
      simp only [ho] at h
      obtain ⟨hstore, hfailed⟩ := ih h
      refine ⟨hstore, ?_⟩
      rw [hfailed, rejections, ho]
      rfl
    | error e =>
      cases e with
      | badRequest m =>
        simp only [ho] at h
        exact hcaught _ ho h
      | notFound m =>
        simp only [ho] at h
        exact hcaught _ ho h
      | forbidden m =>
        simp only [ho] at h
        exact hcaught _ ho h
      | conflict m =>
        simp only [ho] at h
        exact hcaught _ ho h
      | queryFailed m =>
        simp only [ho, run_throw] at h
        cases h
      | internal m =>
        simp only [ho] at h
        exact hcaught _ ho h

end Entry

/-! ### Jobs -/

def withNewJob (dto : IngestPosSyncDto) (S : PosSyncStore) : PosSyncStore :=
  { S with jobs := S.jobs.add (newJob (ingestedJob dto)) }

theorem run_assertBranch_snd (branchId : Option ℕ) (S : PosSyncStore) : ((assertBranch branchId).run S).2 = S := by
  cases branchId with
  | none => rfl
  | some id =>
    unfold assertBranch findBranch
    have hread : (onTransfers (onInventory (Proc.read fun s => s.branches.lookup id))).run S =
        (.ok (S.transfer.inventory.branches.lookup id), S) := rfl
    rw [run_bind_of_ok hread, run_throwIf]

theorem run_assertPartnerCredential_snd (id : Option ℕ) (S : PosSyncStore) :
    ((assertPartnerCredential id).run S).2 = S := by
  cases id with
  | none => rfl
  | some id =>
    unfold assertPartnerCredential
    rw [run_read_bind, run_throwIf]

theorem createJob_eq_ok {dto : CreatePosSyncJobDto} {S S' : PosSyncStore} {a : ℕ × PosSyncJob}
    (h : (createJob dto).run S = (.ok a, S')) :
    a = (S.jobs.next, newJob dto) ∧ S' = { S with jobs := S.jobs.add (newJob dto) } := by
  unfold createJob at h
  simp only [run_throwIf_bind] at h
  split_ifs at h
  · cases h
  · obtain ⟨_, S₁, hbranch, hrest⟩ := run_bind_eq_ok.mp h
    obtain ⟨_, S₂, hpartner, hadd⟩ := run_bind_eq_ok.mp hrest
    have hsame₁ := run_assertBranch_snd dto.branchId S
    have hsame₂ := run_assertPartnerCredential_snd dto.partnerCredentialId S₁
    rw [hbranch] at hsame₁
    rw [hpartner] at hsame₂
    obtain rfl : S₁ = S := hsame₁
    obtain rfl : S₂ = S₁ := hsame₂
    cases hadd
    exact ⟨rfl, rfl⟩

variable {id : ℕ}

theorem lt_next_of_findExistingJob {dto : IngestPosSyncDto} {S S' : PosSyncStore}
    (h : (findExistingJobForIdempotency dto).run S = (.ok (some id), S')) : id < S.jobs.next := by
  have hfind : (List.range S.jobs.next).find?
      (fun id => (S.jobs.find id).any fun job => IsExisting dto job) = some id :=
    Except.ok.inj (congrArg Prod.fst h)
  exact List.mem_range.mp (List.mem_of_find?_eq_some hfind)

/-- The store after an ingested list made the new job `job`. -/
def ingestedStore (env : PosSyncRuntime) (dto : IngestPosSyncDto) (actorId : Option ℕ)
    (S : PosSyncStore) (job : PosSyncJob) : PosSyncStore :=
  { Run.after (entryStep env S.jobs.next dto actorId) (withNewJob dto S) dto.entries.zipIdx with
    jobs := (withNewJob dto S).jobs.set S.jobs.next job }

theorem run_findOneById (id : ℕ) (S : PosSyncStore) : (findOneById id).run S =
    (match S.jobs.find id with
      | some job => .ok job
      | none => .error (jobNotFound id), S) := by
  unfold findOneById
  rw [run_read_bind]
  cases S.jobs.find id <;> rfl

variable {env : PosSyncRuntime} {dto : IngestPosSyncDto} {actorId : Option ℕ} {S S' : PosSyncStore}

theorem ingestWithin_eq_ok (h : (ingestWithin env dto actorId).run S = (.ok id, S')) :
    (S' = S ∧ id < S.jobs.next) ∨
    ∃ job, id = S.jobs.next ∧ S' = ingestedStore env dto actorId S job ∧
      job.failedEntries = rejections env S.jobs.next dto actorId (withNewJob dto S) dto.entries.zipIdx := by
  obtain ⟨existing, S₁, hexisting, hrest⟩ := run_bind_eq_ok.mp h
  have hread : S₁ = S := (congrArg Prod.snd hexisting).symm
  subst hread
  cases existing with
  | some existingId =>
    cases hrest
    exact .inl ⟨rfl, lt_next_of_findExistingJob hexisting⟩
  | none =>
    right
    obtain ⟨a, S₂, hcreate, hrest⟩ := run_bind_eq_ok.mp hrest
    obtain ⟨rfl, hnew⟩ := createJob_eq_ok hcreate
    obtain ⟨tally, S₃, hloop, hsave⟩ := run_bind_eq_ok.mp hrest
    have hnew : S₂ = withNewJob dto S₁ := hnew
    rw [hnew] at hloop
    obtain ⟨hafter, hfailed⟩ := processEntries_eq_ok hloop
    have hjobs : S₃.jobs = (withNewJob dto S₁).jobs := by
      rw [hafter, jobs_after]
    cases hsave
    refine ⟨processedJob env.now (newJob (ingestedJob dto)) tally, rfl, ?_, hfailed⟩
    unfold ingestedStore
    rw [← hafter, ← hjobs]

theorem find_ingestedStore (job : PosSyncJob) :
    (ingestedStore env dto actorId S job).jobs.find S.jobs.next = some job :=
  find_set_self (find_add_self ..) job

theorem find_ingestedStore_of_ne (job : PosSyncJob) (hid : id ≠ S.jobs.next) :
    (ingestedStore env dto actorId S job).jobs.find id = S.jobs.find id := by
  have hset : (ingestedStore env dto actorId S job).jobs.find id = (S.jobs.add (newJob (ingestedJob dto))).find id :=
    find_set_of_ne _ job hid
  rw [hset, find_add_of_ne S.jobs _ hid]

/-- **An ingested list** leaves the tables alone, and then returns no new job, or it makes a new job
and keeps its failed entries there. -/
theorem ingest_cases (env : PosSyncRuntime) (dto : IngestPosSyncDto) (actorId : Option ℕ) (S : PosSyncStore) :
    (∃ o, (ingest env dto actorId).run S = (o, S) ∧ ∀ a, o = .ok a → a.1 < S.jobs.next) ∨
    ∃ job, (ingest env dto actorId).run S =
        (.ok (S.jobs.next, job), ingestedStore env dto actorId S job) ∧
      job.failedEntries = rejections env S.jobs.next dto actorId (withNewJob dto S) dto.entries.zipIdx := by
  have hrefused : ∀ (e : HttpException) (a : ℕ × PosSyncJob),
      (.error e : Except HttpException (ℕ × PosSyncJob)) = .ok a → a.1 < S.jobs.next := by
    intro e a h
    cases h
  unfold ingest
  simp only [run_throwIf_bind]
  split_ifs with hempty
  · exact .inl ⟨_, rfl, hrefused _⟩
  · rcases hrun : (ingestWithin env dto actorId).run S with ⟨e | id, S'⟩
    · rw [run_bind_of_error (run_transaction_of_error hrun)]
      exact .inl ⟨_, rfl, hrefused _⟩
    · rw [run_bind_of_ok (run_transaction_of_ok hrun), run_bind, run_findOneById]
      rcases ingestWithin_eq_ok hrun with ⟨rfl, hid⟩ | ⟨job, rfl, rfl, hfailed⟩
      · left
        cases S'.jobs.find id with
        | none => exact ⟨_, rfl, hrefused _⟩
        | some job =>
          refine ⟨_, rfl, ?_⟩
          intro a ha
          cases ha
          exact hid
      · right
        rw [find_ingestedStore]
        exact ⟨job, rfl, hfailed⟩

theorem ingest_eq_ok {job : PosSyncJob} (h : (ingest env dto actorId).run S = (.ok (S.jobs.next, job), S')) :
    S' = ingestedStore env dto actorId S job ∧
      job.failedEntries = rejections env S.jobs.next dto actorId (withNewJob dto S) dto.entries.zipIdx := by
  rcases ingest_cases env dto actorId S with ⟨o, hrun, hold⟩ | ⟨job', hrun, hfailed⟩
  · rw [hrun] at h
    cases h
    exact absurd (hold _ rfl) (Nat.lt_irrefl _)
  · rw [hrun] at h
    cases h
    exact ⟨rfl, hfailed⟩

end PosSync

end SuuqBackend
