import SuuqBackend.PosSync.Laws.RejectedEntries
import Mathlib.Data.List.NodupEquivFin

/-!
# Replays of failed entries

A replay ingests failed entries of a job as a new job, and the entries that fail again can be replayed
from there, so the replays of one job make a tree of jobs.  `ReplayHistory` keeps, beside the tables,
which failed entry of the original job each entry of the tree goes back to (`origin`), and which of
these have had an effect on the stock (`applied`).

A replay leaves the failed entries of its job as they were, and its external id is new, so nothing in
the tables tells that an entry has been replayed.  `SelectsPending` is the condition that a replay
selects no entry that has been applied.
-/

namespace SuuqBackend

open Proc PosSync

deriving instance DecidableEq for InventoryStore, SerialTable, TransferStore

namespace PosSync

/-! ### Entries with an effect -/

section Touched

variable (env : PosSyncRuntime) (jobId : ℕ) (dto : IngestPosSyncDto) (actorId : Option ℕ)

/-- The indexes of the entries that change the tables of the transfer service, in their order. -/
def touched : PosSyncStore → List (PosSyncEntryDto × ℕ) → List ℕ
  | _, [] => []
  | S, x :: xs =>
    let S' := entryStep env jobId dto actorId S x
    if S'.transfer = S.transfer then touched S' xs else x.2 :: touched S' xs

theorem touched_sublist (S : PosSyncStore) (xs : List (PosSyncEntryDto × ℕ)) :
    (touched env jobId dto actorId S xs).Sublist (xs.map Prod.snd) := by
  induction xs generalizing S with
  | nil => exact List.Sublist.slnil
  | cons x xs ih =>
    rw [touched]
    split_ifs
    · exact (ih _).cons x.2
    · exact (ih _).cons_cons x.2

end Touched

theorem replayFailedEntries_cases (env : PosSyncRuntime) (id : ℕ) (dto : ReplayPosSyncFailuresDto)
    (actorId partnerCredentialId : Option ℕ) (S : PosSyncStore) :
    (∃ e, (replayFailedEntries env id dto actorId partnerCredentialId).run S = (.error e, S)) ∨
    ∃ job, S.jobs.find id = some job ∧
      (replayFailedEntries env id dto actorId partnerCredentialId).run S =
        (ingest env (replayDto env.now id dto job partnerCredentialId) actorId).run S := by
  unfold replayFailedEntries
  rw [run_bind, run_findOneById]
  cases hfind : S.jobs.find id with
  | none => exact Or.inl ⟨_, rfl⟩
  | some job =>
    simp only [run_throwIf_bind]
    split_ifs
    · exact Or.inl ⟨_, rfl⟩
    · exact Or.inl ⟨_, rfl⟩
    · exact Or.inl ⟨_, rfl⟩
    · exact Or.inl ⟨_, rfl⟩
    · exact Or.inr ⟨job, rfl, rfl⟩

theorem failedEntriesToReplay_sublist (dto : ReplayPosSyncFailuresDto) (job : PosSyncJob) :
    (failedEntriesToReplay dto job).Sublist job.failedEntries := by
  unfold failedEntriesToReplay
  cases dto.entryIndexes.getD [] with
  | nil => exact List.Sublist.refl _
  | cons index indexes => exact List.filter_sublist

end PosSync

/-! ### Histories -/

/-- The tables, and what the replays have done with the failed entries of the original job. -/
structure ReplayHistory where
  store : PosSyncStore
  /-- The failed entry of the original job that an entry of a job goes back to. -/
  origin : ℕ → ℕ → Option ℕ
  /-- The failed entries of the original job that have changed the stock, once for each time. -/
  applied : List ℕ

namespace ReplayHistory

/-- The history after a request with the final store `S'`.  If it has made a new job, `lineage` says
where the entries of the job go back to, and `indexes` are those that had an effect. -/
def record (H : ReplayHistory) (S' : PosSyncStore) (lineage : ℕ → Option ℕ) (indexes : List ℕ) : ReplayHistory :=
  if S'.jobs.next = H.store.jobs.next then { H with store := S' }
  else {
    store := S'
    origin := Function.update H.origin H.store.jobs.next lineage
    applied := H.applied ++ indexes.filterMap lineage }

/-- The history of the job that an ingested list makes, from its start: an effect of an entry that
failed counts as well. -/
def start (env : PosSyncRuntime) (dto : IngestPosSyncDto) (actorId : Option ℕ) (S : PosSyncStore) : ReplayHistory :=
  let S' := ((ingest env dto actorId).run S).2
  let failed := match S'.jobs.find S.jobs.next with
    | some job => job.failedEntries.map PosSyncFailedEntry.entryIndex
    | none => []
  record ⟨S, fun _ _ => none, []⟩ S' (fun index => if index ∈ failed then some index else none)
    (touched env S.jobs.next dto actorId (withNewJob dto S) dto.entries.zipIdx)

/-- Where the entries of a replay of `selected` go back to. -/
def lineage (H : ReplayHistory) (id : ℕ) (selected : List PosSyncFailedEntry) (index : ℕ) : Option ℕ :=
  selected[index]?.bind fun entry => H.origin id entry.entryIndex

end ReplayHistory

/-- What happens between the creation of a job and any later moment. -/
inductive ReplayCall where
  | replay (env : PosSyncRuntime) (id : ℕ) (dto : ReplayPosSyncFailuresDto)
      (actorId partnerCredentialId : Option ℕ)
  /-- Another list is ingested. -/
  | ingest (env : PosSyncRuntime) (dto : IngestPosSyncDto) (actorId : Option ℕ)
  /-- Everything but the jobs is replaced. -/
  | repair (transfer : TransferStore) (productAliases : List ProductAlias)
      (partnerCredentials : Finset ℕ)

namespace ReplayHistory

/-- The history after the call, whether it succeeds or throws. -/
def step (H : ReplayHistory) : ReplayCall → ReplayHistory
  | .replay env id dto actorId partnerCredentialId =>
    match H.store.jobs.find id with
    | none => H
    | some job =>
      let request := replayDto env.now id dto job partnerCredentialId
      H.record ((replayFailedEntries env id dto actorId partnerCredentialId).run H.store).2
        (H.lineage id (failedEntriesToReplay dto job))
        (touched env H.store.jobs.next request actorId (withNewJob request H.store) request.entries.zipIdx)
  | .ingest env dto actorId =>
    H.record ((PosSync.ingest env dto actorId).run H.store).2 (fun _ => none) []
  | .repair transfer productAliases partnerCredentials =>
    { H with store := { H.store with transfer, productAliases, partnerCredentials } }

/-- A replay selects no failed entry that goes back to one which has been applied. -/
def SelectsPending (H : ReplayHistory) : ReplayCall → Prop
  | .replay _ id dto _ _ => ∀ job ∈ H.store.jobs.find id, ∀ entry ∈ failedEntriesToReplay dto job,
      ∀ index ∈ H.origin id entry.entryIndex, index ∉ H.applied
  | .ingest .. => True
  | .repair .. => True

instance (H : ReplayHistory) (c : ReplayCall) : Decidable (H.SelectsPending c) := by
  cases c <;> unfold SelectsPending <;> infer_instance

/-- No failed entry of the original job has been applied twice, and the failed entries of each job go
back to different ones. -/
structure AtMostOnce (H : ReplayHistory) : Prop where
  applied_nodup : H.applied.Nodup
  origins_nodup : ∀ id job, H.store.jobs.find id = some job →
    (job.failedEntries.filterMap fun entry => H.origin id entry.entryIndex).Nodup

variable {H : ReplayHistory}

theorem record_of_same (S' : PosSyncStore) (lineage : ℕ → Option ℕ) (indexes : List ℕ)
    (h : S'.jobs.next = H.store.jobs.next) : H.record S' lineage indexes = { H with store := S' } :=
  if_pos h

variable {indexes : List ℕ}

variable {job : PosSyncJob} {lineage : ℕ → Option ℕ} {α : Type}

/-- A new job whose entries go back to different entries that have not been applied keeps the
invariant. -/
theorem AtMostOnce.record (h : H.AtMostOnce) {env : PosSyncRuntime} {dto : IngestPosSyncDto}
    {actorId : Option ℕ} (hfailed : job.failedEntries = rejections env H.store.jobs.next dto actorId
      (withNewJob dto H.store) dto.entries.zipIdx) (hindexes : indexes.Sublist (dto.entries.zipIdx.map Prod.snd))
    (hnodup : ((dto.entries.zipIdx.map Prod.snd).filterMap lineage).Nodup)
    (hpending : ∀ o ∈ (dto.entries.zipIdx.map Prod.snd).filterMap lineage, o ∉ H.applied) :
    (H.record (ingestedStore env dto actorId H.store job) lineage indexes).AtMostOnce := by
  have hnext : (ingestedStore env dto actorId H.store job).jobs.next = H.store.jobs.next + 1 := rfl
  unfold ReplayHistory.record
  rw [if_neg (by omega)]
  have hsublist := hindexes.filterMap lineage
  constructor
  · apply List.nodup_append'.mpr
    refine ⟨h.applied_nodup, hnodup.sublist hsublist, ?_⟩
    intro o hold hnew
    exact hpending o (hsublist.subset hnew) hold
  · intro id job' hfind
    by_cases hid : id = H.store.jobs.next
    · subst hid
      rw [find_ingestedStore] at hfind
      cases hfind
      have hfailedIndexes := rejections_sublist env H.store.jobs.next dto actorId
        (withNewJob dto H.store) dto.entries.zipIdx
      rw [← hfailed] at hfailedIndexes
      show (job.failedEntries.filterMap fun entry =>
        Function.update H.origin H.store.jobs.next lineage H.store.jobs.next entry.entryIndex).Nodup
      rw [Function.update_self]
      have hcomp : (job.failedEntries.filterMap fun entry => lineage entry.entryIndex) =
          (job.failedEntries.map PosSyncFailedEntry.entryIndex).filterMap lineage := by
        rw [List.filterMap_map]
        rfl
      rw [hcomp]
      exact hnodup.sublist (hfailedIndexes.filterMap lineage)
    · have hfind' : H.store.jobs.find id = some job' :=
        (find_ingestedStore_of_ne job hid).symm.trans hfind
      have hsame := h.origins_nodup id job' hfind'
      show (job'.failedEntries.filterMap fun entry =>
        Function.update H.origin H.store.jobs.next lineage id entry.entryIndex).Nodup
      rw [Function.update_of_ne hid]
      exact hsame

theorem AtMostOnce.ingested (h : H.AtMostOnce) (env : PosSyncRuntime) (dto : IngestPosSyncDto)
    (actorId : Option ℕ) (hindexes : indexes.Sublist (dto.entries.zipIdx.map Prod.snd))
    (hnodup : ((dto.entries.zipIdx.map Prod.snd).filterMap lineage).Nodup)
    (hpending : ∀ o ∈ (dto.entries.zipIdx.map Prod.snd).filterMap lineage, o ∉ H.applied) :
    (H.record ((PosSync.ingest env dto actorId).run H.store).2 lineage indexes).AtMostOnce := by
  rcases ingest_cases env dto actorId H.store with ⟨o, hrun, -⟩ | ⟨job, hrun, hfailed⟩
  · rw [hrun, record_of_same _ _ _ rfl]
    exact h
  · rw [hrun]
    exact h.record hfailed hindexes hnodup hpending

/-! ### The entries of a replay -/

theorem map_snd_zipIdx (xs : List α) : xs.zipIdx.map Prod.snd = List.range xs.length := by
  rw [List.zipIdx_map_snd, List.range_eq_range']

theorem filterMap_getElem?_range (xs : List α) : (List.range xs.length).filterMap (fun i => xs[i]?) = xs := by
  induction xs with
  | nil => rfl
  | cons x xs ih =>
    rw [List.length_cons, List.range_succ_eq_map, List.filterMap_cons, List.filterMap_map]
    exact congrArg (List.cons x) ih

theorem filterMap_lineage (H : ReplayHistory) (id : ℕ) (selected : List PosSyncFailedEntry) :
    (List.range selected.length).filterMap (H.lineage id selected) =
      selected.filterMap fun entry => H.origin id entry.entryIndex := by
  conv_rhs => rw [← filterMap_getElem?_range selected, List.filterMap_filterMap]
  rfl

theorem AtMostOnce.replayed (h : H.AtMostOnce) (env : PosSyncRuntime) {id : ℕ}
    (dto : ReplayPosSyncFailuresDto) (actorId partnerCredentialId : Option ℕ) (hfind : H.store.jobs.find id = some job)
    (hpending : ∀ entry ∈ failedEntriesToReplay dto job, ∀ o ∈ H.origin id entry.entryIndex,
      o ∉ H.applied) (hindexes : indexes.Sublist
      ((replayDto env.now id dto job partnerCredentialId).entries.zipIdx.map Prod.snd)) :
    (H.record ((replayFailedEntries env id dto actorId partnerCredentialId).run H.store).2
      (H.lineage id (failedEntriesToReplay dto job)) indexes).AtMostOnce := by
  have hselected : ((replayDto env.now id dto job partnerCredentialId).entries.zipIdx.map
      Prod.snd).filterMap (H.lineage id (failedEntriesToReplay dto job)) =
      (failedEntriesToReplay dto job).filterMap fun entry => H.origin id entry.entryIndex := by
    rw [map_snd_zipIdx, ← filterMap_lineage]
    show (List.range (List.map _ _).length).filterMap _ = _
    rw [List.length_map]
  rcases replayFailedEntries_cases env id dto actorId partnerCredentialId H.store with
    ⟨e, hrun⟩ | ⟨job', hfind', hrun⟩
  · rw [hrun, record_of_same _ _ _ rfl]
    exact h
  · obtain rfl : job = job' := Option.some.inj (hfind ▸ hfind')
    rw [hrun]
    apply h.ingested env _ actorId hindexes
    · rw [hselected]
      have hsublist := (failedEntriesToReplay_sublist dto job).filterMap fun entry => H.origin id entry.entryIndex
      exact (h.origins_nodup id job hfind).sublist hsublist
    · rw [hselected]
      intro o ho
      obtain ⟨entry, hentry, horigin⟩ := List.mem_filterMap.mp ho
      exact hpending entry hentry o horigin

theorem AtMostOnce.step (h : H.AtMostOnce) (c : ReplayCall) (hc : H.SelectsPending c) : (H.step c).AtMostOnce := by
  cases c with
  | replay env id dto actorId partnerCredentialId =>
    dsimp only [ReplayHistory.step]
    cases hfind : H.store.jobs.find id with
    | none => exact h
    | some job =>
      exact h.replayed env dto actorId partnerCredentialId hfind (hc job hfind) (touched_sublist ..)
  | ingest env dto actorId =>
    have hnone : (dto.entries.zipIdx.map Prod.snd).filterMap (fun _ => (none : Option ℕ)) = [] :=
      List.filterMap_eq_nil_iff.mpr fun _ _ => rfl
    apply h.ingested env dto actorId (List.nil_sublist _)
    · rw [hnone]
      exact List.nodup_nil
    · rw [hnone]
      exact fun _ ho => absurd ho List.not_mem_nil
  | repair transfer productAliases partnerCredentials => exact ⟨h.applied_nodup, h.origins_nodup⟩

theorem atMostOnce_start (env : PosSyncRuntime) (dto : IngestPosSyncDto) (actorId : Option ℕ)
    (S : PosSyncStore) : (start env dto actorId S).AtMostOnce := by
  have hempty : AtMostOnce ⟨S, fun _ _ => none, []⟩ := by
    refine ⟨List.nodup_nil, fun id job _ => ?_⟩
    rw [List.filterMap_eq_nil_iff.mpr fun _ _ => rfl]
    exact List.nodup_nil
  apply hempty.ingested env dto actorId (touched_sublist ..)
  · apply List.Nodup.filterMap _ (nodup_snd_zipIdx dto.entries)
    intro i j o hi hj
    split_ifs at hi hj
    · exact (Option.some.inj hi).trans (Option.some.inj hj).symm
    · cases hj
    · cases hi
    · cases hi
  · exact fun _ _ => List.not_mem_nil

end ReplayHistory

/-- **A failed entry is applied at most once** in every sequence of calls whose replays select pending
entries: whichever replays of the job and of the jobs that they spawn are made, no failed entry of the
job has an effect on the stock twice. -/
theorem applied_at_most_once (env : PosSyncRuntime) (dto : IngestPosSyncDto) (actorId : Option ℕ)
    (S : PosSyncStore) (calls : List ReplayCall) (hpending : Run.Along ReplayHistory.step ReplayHistory.SelectsPending
      (ReplayHistory.start env dto actorId S) calls) :
    (Run.after ReplayHistory.step (ReplayHistory.start env dto actorId S) calls).applied.Nodup := by
  have h : (Run.after ReplayHistory.step (ReplayHistory.start env dto actorId S) calls).AtMostOnce :=
    Run.after_induction (P := ReplayHistory.AtMostOnce) (fun H c hH hc => hH.step c hc)
      (ReplayHistory.atMostOnce_start env dto actorId S) hpending
  exact h.applied_nodup

/-- A point of sale whose branches have no stock yet. -/
def noneAtPointOfSale : PosSyncStore :=
  ⟨⟨twoBranches, SerialTable.empty⟩, [], ∅, SerialTable.empty⟩

def twoFailedSales : ReplayHistory :=
  .start plainRuntime (stockDeltas [saleDelta 3, saleDelta 4]) none noneAtPointOfSale

def replayFirstJob (now : Date) (entryIndexes : List ℕ) : ReplayCall :=
  .replay { plainRuntime with now } 1 { branchId := 1, entryIndexes := some entryIndexes } none none

/-- Once ten are there, each sale is replayed on its own. -/
theorem applied_at_most_once_each :
    let calls := [.repair noTransfers [] ∅, replayFirstJob 1 [0], replayFirstJob 2 [1]]
    let H := Run.after ReplayHistory.step twoFailedSales calls
    Run.Along ReplayHistory.step ReplayHistory.SelectsPending twoFailedSales calls ∧
      H.applied = [0, 1] ∧ H.applied.Nodup := by
  intro calls H
  have hpending : Run.Along ReplayHistory.step ReplayHistory.SelectsPending twoFailedSales calls := by
    decide
  exact ⟨hpending, by decide, applied_at_most_once _ _ _ _ calls hpending⟩

/-- A second replay of the first sale takes its three units again. -/
theorem sale_applied_twice :
    let H := Run.after ReplayHistory.step twoFailedSales
      [.repair noTransfers [] ∅, replayFirstJob 1 [0], replayFirstJob 2 [0]]
    H.applied = [0, 0] ∧ ¬ H.applied.Nodup ∧
      noTransfers.inventory.onHandAt ⟨1, 7⟩ = 10 ∧
      H.store.transfer.inventory.onHandAt ⟨1, 7⟩ = 4 := by
  refine ⟨by decide, by decide, by decide, by decide⟩

end SuuqBackend
