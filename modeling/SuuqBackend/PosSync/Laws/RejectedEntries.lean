import SuuqBackend.PosSync.Laws.Ingest
import SuuqBackend.Branches.Laws.PartialTransfers
import SuuqBackend.Branches.Laws.TransferRuns

/-!
# Rejected entries

The loop of `ingest` catches what an entry throws and goes on in the same transaction, so a rejected
entry is without effect only if it has written nothing before it threw.  Entries that record a
movement check before they write.  A transfer writes first: an outbound one is requested before its
dispatch can fail, an inbound one releases its first item before the next step can fail.  `Feasible`
is the condition that no transfer of the entry stops on the way.
-/

namespace SuuqBackend

open Proc InventoryLedger InventoryRepository InventoryStore BranchTransfers PosSync

/-- The inventory rows, the stock movements and the transfers are the same. -/
structure TransferStore.SameTables (T T' : TransferStore) : Prop where
  inventory_eq : T'.inventory.inventory = T.inventory.inventory
  movements_eq : T'.inventory.movements = T.inventory.movements
  transfers_eq : T'.transfers = T.transfers

/-! ### Entries that record a movement -/

section Movement

variable {env : PosSyncRuntime} {jobId : ℕ} {dto : IngestPosSyncDto} {entry : PosSyncEntryDto}
  {entryIndex : ℕ} {actorId : Option ℕ} {productId : ℕ} {s s' : InventoryStore} {e : HttpException}
  {note : String}

theorem recordEntry_eq_error {movementType : StockMovementType} {d : ℤ}
    (h : (recordEntry env jobId dto entry actorId productId movementType d note).run s = (.error e, s')) : s' = s := by
  rcases run_bind_eq_error.mp h with hrecord | ⟨_, _, -, hrest⟩
  · exact recordMovement_eq_error hrecord
  · cases hrest

variable (env jobId dto entry actorId productId) in
theorem run_snapshotEntry (s : InventoryStore) : (snapshotEntry env jobId dto entry actorId productId).run s =
    if entry.quantity - s.onHandAt ⟨dto.branchId, productId⟩ ≠ 0 then
      (recordEntry env jobId dto entry actorId productId .adjustment
        (entry.quantity - s.onHandAt ⟨dto.branchId, productId⟩) "POS stock snapshot reconciliation").run s
    else (.ok (), s) := by
  have hread : (getOnHand dto.branchId productId).run s = (.ok (s.onHandAt ⟨dto.branchId, productId⟩), s) := by
    rw [← onHandAt_eq_lookup]
    rfl
  unfold snapshotEntry
  rw [run_bind_of_ok hread]
  dsimp only
  split_ifs <;> rfl

theorem snapshotEntry_eq_error (h : (snapshotEntry env jobId dto entry actorId productId).run s = (.error e, s')) :
    s' = s := by
  rw [run_snapshotEntry] at h
  split_ifs at h
  · exact recordEntry_eq_error h
  · cases h

theorem saleEntry_eq_error (h : (saleEntry env jobId dto entry actorId productId note).run s = (.error e, s')) :
    s' = s := by
  unfold saleEntry findProduct at h
  rw [run_read_bind] at h
  split_ifs at h
  · exact recordEntry_eq_error h
  · cases h

theorem onInventory_eq_error {α : Type} {p : InventoryProc α} {T T' : TransferStore}
    (hp : ∀ s', p.run T.inventory = (.error e, s') → s' = T.inventory)
    (h : (onInventory p).run T = (.error e, T')) : T' = T := by
  obtain ⟨s', hrun, rfl⟩ := run_zoom_eq.mp h
  rw [hp s' hrun]
  rfl

end Movement

/-! ### Entries that transfer -/

section Transfer

variable (env : PosSyncRuntime) (jobId : ℕ) (dto : IngestPosSyncDto) (entry : PosSyncEntryDto)
  (entryIndex : ℕ) (actorId : Option ℕ) (productId counterpartyBranchId transferId : ℕ)

/-- A transfer that passes the checks of a request can also be dispatched. -/
def OutboundFeasible (T : TransferStore) : Prop :=
  ∀ hneg : entry.quantity < 0,
    ValidRequest T.inventory (outboundRequest dto entry productId counterpartyBranchId hneg) →
      Dispatchable T.inventory env.replenish ⟨dto.branchId, productId⟩ |entry.quantity|

/-- If the entry describes a dispatched transfer, its receipt does not stop on the way. -/
def InboundFeasible (T : TransferStore) : Prop :=
  ∀ t, T.transfers.find transferId = some t → t.status = .dispatched →
    inboundError dto entry productId counterpartyBranchId transferId t = none → ReceiptFeasible T.inventory t

variable {env jobId dto entry entryIndex actorId productId counterpartyBranchId transferId}
  {T T' : TransferStore} {e : HttpException}

/-- The dispatch of an outbound entry, right after its request, goes through when the quantity can be
dispatched. -/
theorem dispatch_requested_ok_iff (env : PosSyncRuntime) (source : BranchTransferSource)
    {productId counterpartyBranchId : ℕ} {hneg : entry.quantity < 0} {draft : TransferDraft}
    (hdto : draft.toCreateBranchTransferDto =
      outboundRequest dto entry productId counterpartyBranchId hneg)
    (actorId : Option ℕ) (note : Option String) (T : TransferStore) :
    (∃ a T', (dispatch env.now T.transfers.next actorId note env.replenish true).run
        { T with transfers := T.transfers.add (requestedTransfer env.now draft actorId source) } =
      (.ok a, T')) ↔
      Dispatchable T.inventory env.replenish ⟨dto.branchId, productId⟩ |entry.quantity| := by
  let t := requestedTransfer env.now draft actorId source
  have hitems : t.items = (outboundRequest dto entry productId counterpartyBranchId hneg).items :=
    congrArg CreateBranchTransferDto.items hdto
  have hfrom : t.fromBranchId = dto.branchId := congrArg CreateBranchTransferDto.fromBranchId hdto
  have hdispatch := dispatch_ok_iff (T := { T with transfers := T.transfers.add t })
    (SerialTable.find_add_self T.transfers t) rfl hitems env.now actorId note env.replenish
  unfold originKey at hdispatch
  rw [hfrom] at hdispatch
  exact hdispatch

theorem outboundEntry_cases (env : PosSyncRuntime) (jobId : ℕ) (dto : IngestPosSyncDto)
    (entry : PosSyncEntryDto) (entryIndex : ℕ) (actorId : Option ℕ)
    (productId counterpartyBranchId : ℕ) (hneg : entry.quantity < 0) (T : TransferStore) :
    let request := outboundRequest dto entry productId counterpartyBranchId hneg
    let dispatchable :=
      Dispatchable T.inventory env.replenish ⟨dto.branchId, productId⟩ |entry.quantity|
    let p := outboundEntry env jobId dto entry entryIndex actorId productId counterpartyBranchId hneg
    (¬ ValidRequest T.inventory request ∧ ∃ e, p.run T = (.error e, T)) ∨
    (ValidRequest T.inventory request ∧ dispatchable ∧ ∃ T', p.run T = (.ok (), T')) ∨
    (ValidRequest T.inventory request ∧ ¬ dispatchable ∧
      ∃ e T', p.run T = (.error e, T') ∧ T'.transfers ≠ T.transfers) := by
  intro request dispatchable p
  have hp : p = outboundEntry env jobId dto entry entryIndex actorId productId counterpartyBranchId
    hneg := rfl
  unfold outboundEntry at hp
  rcases createTransfer_cases env.now request actorId (entrySource jobId entryIndex) T with
    ⟨hvalid, draft, hdto, hcreate⟩ | ⟨hvalid, e, hcreate⟩
  · right
    let note := some (entry.note.getD "POS transfer out")
    let t := requestedTransfer env.now draft actorId (entrySource jobId entryIndex)
    have hdispatch := dispatch_requested_ok_iff env (entrySource jobId entryIndex) hdto actorId note T
    rw [hp, run_bind_of_ok hcreate]
    rcases hrun : (dispatch env.now T.transfers.next actorId note env.replenish true).run
        { T with transfers := T.transfers.add t } with ⟨e | a, T'⟩
    · have hnot : ¬ dispatchable := by
        intro h
        obtain ⟨a, T'', hok⟩ := hdispatch.mpr h
        rw [hrun] at hok
        cases hok
      refine .inr ⟨hvalid, hnot, e, T', run_bind_of_error hrun _, ?_⟩
      -- the requested transfer is still there
      rw [dispatch_transfers_of_error hrun]
      intro h
      have hnext : T.transfers.next + 1 = T.transfers.next := congrArg SerialTable.next h
      omega
    · exact .inl ⟨hvalid, hdispatch.mp ⟨a, T', hrun⟩, T', run_bind_of_ok hrun _⟩
  · refine .inl ⟨hvalid, e, ?_⟩
    rw [hp, run_bind_of_error hcreate]

theorem outboundEntry_eq_of_error (hneg : entry.quantity < 0)
    (h : OutboundFeasible env dto entry productId counterpartyBranchId T)
    (hrun : (outboundEntry env jobId dto entry entryIndex actorId productId counterpartyBranchId
      hneg).run T = (.error e, T')) : T' = T := by
  rcases outboundEntry_cases env jobId dto entry entryIndex actorId productId counterpartyBranchId
    hneg T with ⟨-, e', hrefused⟩ | ⟨-, -, T'', hok⟩ | ⟨hvalid, hnot, -⟩
  · rw [hrefused] at hrun
    cases hrun
    rfl
  · rw [hok] at hrun
    cases hrun
  · exact absurd (h hneg hvalid) hnot

theorem outboundEntry_changes (hneg : entry.quantity < 0)
    (h : ¬ OutboundFeasible env dto entry productId counterpartyBranchId T) :
    ∃ e T', (outboundEntry env jobId dto entry entryIndex actorId productId counterpartyBranchId
      hneg).run T = (.error e, T') ∧ ¬ T.SameTables T' := by
  rcases outboundEntry_cases env jobId dto entry entryIndex actorId productId counterpartyBranchId
    hneg T with ⟨hvalid, -⟩ | ⟨-, hdispatchable, -⟩ | ⟨-, -, e, T', hrun, hchanged⟩
  · exact absurd (fun _ hvalid' => absurd hvalid' hvalid) h
  · exact absurd (fun _ _ => hdispatchable) h
  · exact ⟨e, T', hrun, fun hsame => hchanged hsame.transfers_eq⟩

theorem inboundEntry_eq_of_error (h : InboundFeasible dto entry productId counterpartyBranchId transferId T)
    (hrun : (inboundEntry env dto entry actorId productId counterpartyBranchId transferId).run T =
      (.error e, T')) : T' = T := by
  unfold inboundEntry at hrun
  cases hfind : T.transfers.find transferId with
  | none =>
    rw [run_bind_of_error (run_findOne_of_eq_none hfind)] at hrun
    cases hrun
    rfl
  | some t =>
    rw [run_bind_of_ok (run_findOne hfind)] at hrun
    cases hcheck : inboundError dto entry productId counterpartyBranchId transferId t with
    | some e' =>
      rw [hcheck] at hrun
      cases hrun
      rfl
    | none =>
      rw [hcheck] at hrun
      rcases run_bind_eq_error.mp hrun with hreceive | ⟨_, _, -, hrest⟩
      · refine receive_eq_of_error (fun t' hfind' hstatus => ?_) hreceive
        obtain rfl : t = t' := Option.some.inj (hfind ▸ hfind')
        exact h t hfind hstatus hcheck
      · cases hrest

theorem inboundEntry_changes (h : ¬ InboundFeasible dto entry productId counterpartyBranchId transferId T) :
    ∃ e T', (inboundEntry env dto entry actorId productId counterpartyBranchId transferId).run T =
      (.error e, T') ∧ ¬ T.SameTables T' := by
  unfold InboundFeasible at h
  push Not at h
  obtain ⟨t, hfind, hstatus, hcheck, hfeasible⟩ := h
  obtain ⟨e, s', hreceive, hchanged⟩ := receive_changes hfind hstatus hfeasible env.now actorId
    (some (entry.note.getD "POS transfer in"))
  refine ⟨e, { T with inventory := s' }, ?_, fun hsame => hchanged hsame.inventory_eq⟩
  unfold inboundEntry
  rw [run_bind_of_ok (run_findOne hfind), hcheck]
  exact run_bind_of_error hreceive _

/-- No transfer of the entry stops on the way; an id of zero counts as missing. -/
def TransferFeasible (env : PosSyncRuntime) (dto : IngestPosSyncDto) (entry : PosSyncEntryDto)
    (productId : ℕ) (T : TransferStore) : Prop :=
  entry.counterpartyBranchId.getD 0 ≠ 0 →
    (entry.quantity < 0 → OutboundFeasible env dto entry productId (entry.counterpartyBranchId.getD 0) T) ∧
    (0 ≤ entry.quantity → entry.transferId.getD 0 ≠ 0 →
      InboundFeasible dto entry productId (entry.counterpartyBranchId.getD 0) (entry.transferId.getD 0) T)

theorem transferEntry_eq_of_error (h : TransferFeasible env dto entry productId T)
    (hrun : (transferEntry env jobId dto entry entryIndex actorId productId).run T = (.error e, T')) : T' = T := by
  unfold transferEntry at hrun
  dsimp only at hrun
  split_ifs at hrun with hcounterparty hneg htransfer
  · cases hrun
    rfl
  · exact outboundEntry_eq_of_error hneg ((h hcounterparty).1 hneg) hrun
  · cases hrun
    rfl
  · exact inboundEntry_eq_of_error ((h hcounterparty).2 (not_lt.mp hneg) htransfer) hrun

theorem transferEntry_changes (h : ¬ TransferFeasible env dto entry productId T) :
    ∃ e T', (transferEntry env jobId dto entry entryIndex actorId productId).run T =
      (.error e, T') ∧ ¬ T.SameTables T' := by
  unfold TransferFeasible at h
  push Not at h
  obtain ⟨hcounterparty, hboth⟩ := h
  unfold transferEntry
  rw [if_neg hcounterparty]
  split_ifs with hneg htransfer
  · refine outboundEntry_changes hneg fun hfeasible => ?_
    obtain ⟨hnonneg, -⟩ := hboth fun _ => hfeasible
    omega
  · obtain ⟨-, htransfer', -⟩ := hboth fun hneg' => absurd hneg' hneg
    exact absurd htransfer htransfer'
  · obtain ⟨-, -, hfeasible⟩ := hboth fun hneg' => absurd hneg' hneg
    exact inboundEntry_changes hfeasible

end Transfer

/-! ### Any entry -/

section Entry

variable {env : PosSyncRuntime} {jobId : ℕ} {dto : IngestPosSyncDto} {entry : PosSyncEntryDto}
  {entryIndex : ℕ} {actorId : Option ℕ} {productId : ℕ} {T T' : TransferStore} {S : PosSyncStore}
  {x : PosSyncEntryDto × ℕ} {e : HttpException}

/-- Only an entry that transfers can have an effect and be rejected. -/
def EntryFeasible (env : PosSyncRuntime) (dto : IngestPosSyncDto) (entry : PosSyncEntryDto)
    (productId : ℕ) (T : TransferStore) : Prop :=
  dto.syncType = .stockDelta → entry.movementType = some .transfer → TransferFeasible env dto entry productId T

/-- The entry is feasible for the product that it names or that its alias resolves to. -/
def Feasible (env : PosSyncRuntime) (dto : IngestPosSyncDto) (S : PosSyncStore) (x : PosSyncEntryDto × ℕ) : Prop :=
  ∀ productId, resolvedProductId env dto S x.1 = .ok productId → EntryFeasible env dto x.1 productId S.transfer

theorem applyEntry_eq_of_error (h : EntryFeasible env dto entry productId T)
    (hrun : (applyEntry env jobId dto entry entryIndex actorId productId).run T = (.error e, T')) : T' = T := by
  unfold applyEntry at hrun
  cases hsync : dto.syncType with
  | stockSnapshot =>
    rw [hsync] at hrun
    exact onInventory_eq_error (fun s' => snapshotEntry_eq_error) hrun
  | salesSummary =>
    rw [hsync] at hrun
    exact onInventory_eq_error (fun s' => saleEntry_eq_error) hrun
  | stockDelta =>
    rw [hsync] at hrun
    rcases hmovement : entry.movementType with _ | _ | _ | _ | _
    · rw [hmovement] at hrun
      cases hrun
      rfl
    · rw [hmovement] at hrun
      exact onInventory_eq_error (fun s' => recordEntry_eq_error) hrun
    · rw [hmovement] at hrun
      exact transferEntry_eq_of_error (h hsync hmovement) hrun
    · rw [hmovement] at hrun
      exact onInventory_eq_error (fun s' => saleEntry_eq_error) hrun
    · rw [hmovement] at hrun
      exact onInventory_eq_error (fun s' => recordEntry_eq_error) hrun

theorem applyEntry_changes (h : ¬ EntryFeasible env dto entry productId T) (jobId entryIndex : ℕ) (actorId : Option ℕ) :
    ∃ e T', (applyEntry env jobId dto entry entryIndex actorId productId).run T = (.error e, T') ∧
      ¬ T.SameTables T' := by
  unfold EntryFeasible at h
  push Not at h
  obtain ⟨hsync, hmovement, hfeasible⟩ := h
  unfold applyEntry
  rw [hsync, hmovement]
  exact transferEntry_changes hfeasible

theorem entryStep_eq_of_feasible (h : Feasible env dto S x)
    (hrejected : Rejected env jobId dto actorId S x) : entryStep env jobId dto actorId S x = S := by
  obtain ⟨e, he⟩ := hrejected
  unfold entryStep
  cases hproduct : resolvedProductId env dto S x.1 with
  | error e' => rw [run_processInventoryEntry_of_error jobId actorId hproduct]
  | ok productId =>
    rw [run_processInventoryEntry jobId actorId hproduct] at he ⊢
    have hsame : ((applyEntry env jobId dto x.1 x.2 actorId productId).run S.transfer).2 = S.transfer :=
      applyEntry_eq_of_error (h productId hproduct) (Prod.ext he rfl)
    rw [hsame]

theorem changed_of_not_feasible (h : ¬ Feasible env dto S x) :
    Rejected env jobId dto actorId S x ∧ ¬ S.transfer.SameTables (entryStep env jobId dto actorId S x).transfer := by
  unfold Feasible at h
  push Not at h
  obtain ⟨productId, hproduct, hfeasible⟩ := h
  obtain ⟨e, T', hrun, hchanged⟩ := applyEntry_changes hfeasible jobId x.2 actorId
  unfold Rejected entryStep
  rw [run_processInventoryEntry jobId actorId hproduct, hrun]
  exact ⟨⟨e, rfl⟩, hchanged⟩

/-- **A rejection leaves the tables as they were exactly when the entry is feasible.** -/
theorem rejected_unchanged_iff : (Rejected env jobId dto actorId S x →
    S.transfer.SameTables (entryStep env jobId dto actorId S x).transfer) ↔ Feasible env dto S x := by
  constructor
  · intro h
    by_contra hfeasible
    obtain ⟨hrejected, hchanged⟩ := changed_of_not_feasible hfeasible
    exact hchanged (h hrejected)
  · intro h hrejected
    rw [entryStep_eq_of_feasible h hrejected]
    exact ⟨rfl, rfl, rfl⟩

end Entry

/-! ### Ingested lists -/

/-- The entries that end in the failed entries of the job have no effect: each one leaves the tables
as they were, and the others alone lead to the same tables. -/
structure RejectedWithoutEffect (env : PosSyncRuntime) (dto : IngestPosSyncDto)
    (actorId : Option ℕ) (S S' : PosSyncStore) (job : PosSyncJob) : Prop where
  unchanged : Run.Along (entryStep env S.jobs.next dto actorId)
    (fun T x => x.2 ∈ job.failedEntries.map PosSyncFailedEntry.entryIndex →
      T.transfer.SameTables (entryStep env S.jobs.next dto actorId T x).transfer)
    (withNewJob dto S) dto.entries.zipIdx
  accepted : S'.transfer.SameTables (Run.after (entryStep env S.jobs.next dto actorId)
    (withNewJob dto S) (dto.entries.zipIdx.filter fun x =>
      x.2 ∉ job.failedEntries.map PosSyncFailedEntry.entryIndex)).transfer

theorem nodup_snd_zipIdx {α : Type} (xs : List α) : (xs.zipIdx.map Prod.snd).Nodup := by
  rw [List.zipIdx_map_snd]
  exact List.nodup_range' ..

/-- An index is kept when the entry throws in the state that it is processed in. -/
theorem along_rejected_iff {env : PosSyncRuntime} {dto : IngestPosSyncDto} {actorId : Option ℕ} {S S' : PosSyncStore}
    {job : PosSyncJob} (hrun : (ingest env dto actorId).run S = (.ok (S.jobs.next, job), S')) :
    Run.Along (entryStep env S.jobs.next dto actorId)
      (fun T x => x.2 ∈ job.failedEntries.map PosSyncFailedEntry.entryIndex ↔
        Rejected env S.jobs.next dto actorId T x) (withNewJob dto S) dto.entries.zipIdx := by
  apply along_mem_rejections_iff (nodup_snd_zipIdx dto.entries)
  intro x _
  rw [(ingest_eq_ok hrun).2]

/-- **Rejected entries are without effect** in an ingested list that makes a new job exactly when
every entry is feasible in the state that it is processed in. -/
theorem rejected_without_effect_iff (env : PosSyncRuntime) (dto : IngestPosSyncDto)
    (actorId : Option ℕ) (S S' : PosSyncStore) (job : PosSyncJob)
    (hrun : (ingest env dto actorId).run S = (.ok (S.jobs.next, job), S')) :
    RejectedWithoutEffect env dto actorId S S' job ↔
      Run.Along (entryStep env S.jobs.next dto actorId) (Feasible env dto) (withNewJob dto S) dto.entries.zipIdx := by
  have hstore := (ingest_eq_ok hrun).1
  have hkept := along_rejected_iff hrun
  constructor
  · intro h
    refine Run.along_mono (fun T x hx => ?_) (Run.along_and.mpr ⟨hkept, h.unchanged⟩)
    exact rejected_unchanged_iff.mp fun hrejected => hx.2 (hx.1.mpr hrejected)
  · intro h
    have hboth := Run.along_and.mpr ⟨hkept, h⟩
    constructor
    · refine Run.along_mono (fun T x hx hmem => ?_) hboth
      exact rejected_unchanged_iff.mpr hx.2 (hx.1.mp hmem)
    · rw [hstore, Run.after_filter]
      · exact ⟨rfl, rfl, rfl⟩
      · refine Run.along_mono (fun T x hx hdropped => ?_) hboth
        have hmem : x.2 ∈ job.failedEntries.map PosSyncFailedEntry.entryIndex := by
          by_contra hmem
          rw [decide_eq_true hmem] at hdropped
          cases hdropped
        exact entryStep_eq_of_feasible hx.2 (hx.1.mp hmem)

/-- A point of sale at branch 1, which has ten of product 7. -/
def tenAtPointOfSale : PosSyncStore := ⟨noTransfers, [], ∅, SerialTable.empty⟩

def plainRuntime : PosSyncRuntime where
  now := 0
  toLowerCase := id
  replenish _ _ := []

def stockDeltas (entries : List PosSyncEntryDto) : IngestPosSyncDto where
  branchId := 1
  syncType := .stockDelta
  entries

def saleDelta (quantity : ℤ) : PosSyncEntryDto where
  productId := some 7
  quantity
  movementType := some .sale

def outboundDelta (quantity : ℤ) : PosSyncEntryDto where
  productId := some 7
  quantity
  movementType := some .transfer
  counterpartyBranchId := some 2

/-- Of two sales the second one is rejected, and only the first one has an effect. -/
theorem rejected_without_effect_sales :
    ∃ job S', (ingest plainRuntime (stockDeltas [saleDelta 3, saleDelta 20]) none).run
        tenAtPointOfSale = (.ok (1, job), S') ∧
      job.failedEntries.map PosSyncFailedEntry.entryIndex = [1] ∧
      RejectedWithoutEffect plainRuntime (stockDeltas [saleDelta 3, saleDelta 20]) none tenAtPointOfSale S' job := by
  refine ⟨_, _, rfl, by decide, ?_⟩
  refine (rejected_without_effect_iff _ _ _ _ _ _ rfl).mpr ⟨?_, ?_, trivial⟩
  · intro productId _ _ hmovement
    cases hmovement
  · intro productId _ _ hmovement
    cases hmovement

/-- A transfer of more than there is gets rejected, but it stays requested. -/
theorem rejected_transfer_stays :
    ∃ job S', (ingest plainRuntime (stockDeltas [outboundDelta (-12)]) none).run
        tenAtPointOfSale = (.ok (1, job), S') ∧
      job.failedEntries.map PosSyncFailedEntry.entryIndex = [0] ∧
      tenAtPointOfSale.transfer.transfers.find 1 = none ∧
      (S'.transfer.transfers.find 1).map BranchTransfer.status = some .requested ∧
      ¬ RejectedWithoutEffect plainRuntime (stockDeltas [outboundDelta (-12)]) none tenAtPointOfSale S' job := by
  refine ⟨_, _, rfl, by decide, by decide, by decide, fun h => ?_⟩
  have hnext := congrArg SerialTable.next h.accepted.transfers_eq
  revert hnext
  decide

end SuuqBackend
