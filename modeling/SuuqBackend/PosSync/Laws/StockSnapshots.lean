import SuuqBackend.PosSync.Laws.RejectedEntries

/-!
# Stock snapshots

An entry of a snapshot records what its count differs by from the row as it finds it, so afterwards the product has
what the entry counts, or the entry was rejected and nothing has changed.
-/

namespace SuuqBackend

open Proc InventoryLedger InventoryStore PosSync

variable {env : PosSyncRuntime} {jobId : ℕ} {dto : IngestPosSyncDto} {actorId : Option ℕ} {S T : PosSyncStore}
  {x : PosSyncEntryDto × ℕ}

/-- The row that an entry counts, if its product can be told. -/
def countedKey (env : PosSyncRuntime) (dto : IngestPosSyncDto) (S : PosSyncStore) (entry : PosSyncEntryDto) :
    Option InventoryKey :=
  (resolvedProductId env dto S entry).toOption.map fun productId => ⟨dto.branchId, productId⟩

/-- The same branches, products and aliases: what says which product an entry counts. -/
structure SameProducts (S T : PosSyncStore) : Prop where
  aliases_eq : T.productAliases = S.productAliases
  branches_eq : T.transfer.inventory.branches = S.transfer.inventory.branches
  known_iff : ∀ k, T.transfer.inventory.Known k ↔ S.transfer.inventory.Known k

theorem SameProducts.countedKey_eq {env' : PosSyncRuntime} {dto' : IngestPosSyncDto} (h : SameProducts S T)
    (hlower : env'.toLowerCase = env.toLowerCase) (hbranch : dto'.branchId = dto.branchId)
    (hpartner : dto'.partnerCredentialId = dto.partnerCredentialId) (entry : PosSyncEntryDto) :
    countedKey env' dto' T entry = countedKey env dto S entry := by
  obtain ⟨branchId, partnerCredentialId, syncType, externalJobId, idempotencyKey, entries⟩ := dto'
  subst hbranch hpartner
  unfold countedKey resolvedProductId resolveProductId
  congr 2
  cases entry.productId with
  | some productId => rfl
  | none =>
    cases entry.aliasType with
    | none => rfl
    | some aliasType =>
      cases trimmed entry.aliasValue with
      | none => rfl
      | some text =>
        simp only [run_read_bind, h.aliases_eq, h.branches_eq, hlower]
        split <;> rfl

theorem SameProducts.trans {U : PosSyncStore} (h : SameProducts S T) (h' : SameProducts T U) : SameProducts S U where
  aliases_eq := h'.aliases_eq.trans h.aliases_eq
  branches_eq := h'.branches_eq.trans h.branches_eq
  known_iff k := (h'.known_iff k).trans (h.known_iff k)

/-- **An entry of a snapshot** is rejected without effect, and then its product cannot be told or does not exist, or it
sets its product to what it counts. -/
theorem snapshot_step (jobId : ℕ) (hsnapshot : dto.syncType = .stockSnapshot) (hnonneg : 0 ≤ x.1.quantity)
    (T : PosSyncStore) :
    (Rejected env jobId dto actorId T x ∧ entryStep env jobId dto actorId T x = T ∧
      ∀ k ∈ countedKey env dto T x.1, ¬ T.transfer.inventory.Known k) ∨
    ¬ Rejected env jobId dto actorId T x ∧ ∃ k, countedKey env dto T x.1 = some k ∧
      SameProducts T (entryStep env jobId dto actorId T x) ∧
      (entryStep env jobId dto actorId T x).transfer.inventory.onHandAt =
        Function.update T.transfer.inventory.onHandAt k x.1.quantity ∧
      ((T.transfer.inventory.Known k → T.transfer.inventory.onHandAt k = x.1.quantity) →
        entryStep env jobId dto actorId T x = T) := by
  unfold Rejected entryStep countedKey
  cases hresolved : resolvedProductId env dto T x.1 with
  | error e =>
    rw [run_processInventoryEntry_of_error jobId actorId hresolved]
    exact .inl ⟨⟨e, rfl⟩, rfl, nofun⟩
  | ok productId =>
    rw [run_processInventoryEntry jobId actorId hresolved]
    let k : InventoryKey := ⟨dto.branchId, productId⟩
    have hentry : applyEntry env jobId dto x.1 x.2 actorId productId =
        Proc.zoom inventoryLens (snapshotEntry env jobId dto x.1 actorId productId) := by
      rw [applyEntry, hsnapshot]
      rfl
    have hrun := run_snapshotEntry env jobId dto x.1 actorId productId T.transfer.inventory
    rw [hentry]
    by_cases hd : x.1.quantity - T.transfer.inventory.onHandAt k ≠ 0
    · rw [if_pos hd] at hrun
      by_cases hk : T.transfer.inventory.Known k
      · -- the movement makes up the difference
        have hcan : T.transfer.inventory.CanMove k (x.1.quantity - T.transfer.inventory.onHandAt k) :=
          ⟨hk, by rwa [add_sub_cancel]⟩
        have hmovement := run_recordMovement_of_can (p := entryMovement jobId dto x.1 actorId productId .adjustment
          (x.1.quantity - T.transfer.inventory.onHandAt k) "POS stock snapshot reconciliation") hd hcan env.now true
        have hmoves := recordMovement_moves hd hmovement
        rw [recordEntry, run_bind_of_ok hmovement] at hrun
        rw [run_zoom_of hrun]
        refine .inr ⟨nofun, k, rfl, ⟨rfl, branches_syncProduct .., hmoves.known_iff⟩, hmoves.onHandAt_eq.trans ?_,
          fun hsame => absurd (hsame hk).symm (sub_ne_zero.mp hd)⟩
        ext k'
        by_cases hkey : k' = k
        · subst hkey
          rw [Function.update_self]
          exact (congrArg _ (atKey_self _ _)).trans (add_sub_cancel _ _)
        · rw [Function.update_of_ne hkey]
          exact (congrArg _ (atKey_of_ne hkey _)).trans (add_zero _)
      · obtain ⟨e, -, hmovement⟩ := run_recordMovement_of_not_known (p := entryMovement jobId dto x.1 actorId productId
          .adjustment _ "POS stock snapshot reconciliation") hd hk env.now true
        rw [recordEntry, run_bind_of_error hmovement] at hrun
        rw [run_zoom_of hrun]
        refine .inl ⟨⟨e, rfl⟩, rfl, fun k' hk' => ?_⟩
        cases hk'
        exact hk
    · rw [if_neg hd] at hrun
      rw [run_zoom_of hrun]
      refine .inr ⟨nofun, k, rfl, ⟨rfl, rfl, fun _ => Iff.rfl⟩, ?_, fun _ => rfl⟩
      rw [sub_eq_zero.mp (not_not.mp hd), Function.update_eq_self]
      rfl

/-! ### All entries -/

/-- The accepted entries that count a row. -/
def acceptedFor (env : PosSyncRuntime) (dto : IngestPosSyncDto) (S : PosSyncStore) (failed : List ℕ) (k : InventoryKey)
    (xs : List (PosSyncEntryDto × ℕ)) : List (PosSyncEntryDto × ℕ) :=
  xs.filter fun x => x.2 ∉ failed ∧ countedKey env dto S x.1 = some k

/-- What the last of these entries counts. -/
def countOr (onHand : ℤ) (entries : List (PosSyncEntryDto × ℕ)) : ℤ :=
  (entries.getLast?.map fun x => x.1.quantity).getD onHand

theorem countOr_cons (onHand : ℤ) (entries : List (PosSyncEntryDto × ℕ)) :
    countOr onHand (x :: entries) = countOr x.1.quantity entries := by
  unfold countOr
  rw [List.getLast?_cons]
  cases entries.getLast? <;> rfl

variable {failed : List ℕ} {xs : List (PosSyncEntryDto × ℕ)}

/-- **The entries of a snapshot**, from any state: a row has the count of the last accepted entry for it, and every
entry for a product that exists is accepted. -/
theorem onHandAt_after (hsnapshot : dto.syncType = .stockSnapshot) (hnonneg : ∀ x ∈ xs, 0 ≤ x.1.quantity)
    (hsame : SameProducts S T) (hkept : Run.Along (entryStep env jobId dto actorId)
      (fun T x => x.2 ∈ failed ↔ Rejected env jobId dto actorId T x) T xs) :
    let T' := Run.after (entryStep env jobId dto actorId) T xs
    SameProducts S T' ∧
    (∀ k, T'.transfer.inventory.onHandAt k =
      countOr (T.transfer.inventory.onHandAt k) (acceptedFor env dto S failed k xs)) ∧
    ∀ x ∈ xs, ∀ k ∈ countedKey env dto S x.1, S.transfer.inventory.Known k → x.2 ∉ failed := by
  induction xs generalizing T with
  | nil => exact ⟨hsame, fun k => rfl, nofun⟩
  | cons x xs ih =>
    obtain ⟨hx, hrest⟩ := hkept
    have hnonneg' : ∀ y ∈ xs, 0 ≤ y.1.quantity := fun y hy => hnonneg y (List.mem_cons_of_mem x hy)
    rcases snapshot_step jobId hsnapshot (hnonneg x List.mem_cons_self) T with
      ⟨hrejected, hstep, hunknown⟩ | ⟨haccepted, k₀, hcounted, hproducts, honHand, -⟩
    · rw [hstep] at hrest
      obtain ⟨hsame', hrows, haccepts⟩ := ih hnonneg' hsame hrest
      rw [Run.after_cons, hstep]
      refine ⟨hsame', fun k => (hrows k).trans ?_, fun y hy k hk hknown => ?_⟩
      · rw [acceptedFor, acceptedFor, List.filter_cons_of_neg (by simp [hx.mpr hrejected])]
      · rcases List.mem_cons.mp hy with rfl | hmem
        · rw [← hsame.countedKey_eq rfl rfl rfl] at hk
          exact absurd ((hsame.known_iff k).mpr hknown) (hunknown k hk)
        · exact haccepts y hmem k hk hknown
    · obtain ⟨hsame', hrows, haccepts⟩ := ih hnonneg' (hsame.trans hproducts) hrest
      rw [hsame.countedKey_eq rfl rfl rfl] at hcounted
      have hnot : x.2 ∉ failed := fun h => haccepted (hx.mp h)
      refine ⟨hsame', fun k => (hrows k).trans ?_, fun y hy k hk hknown => ?_⟩
      · rw [honHand, acceptedFor, acceptedFor]
        by_cases hkey : k = k₀
        · subst hkey
          rw [Function.update_self, List.filter_cons_of_pos (by simp [hnot, hcounted]), countOr_cons]
        · have hne : countedKey env dto S x.1 ≠ some k := fun h => hkey (Option.some.inj (h.symm.trans hcounted))
          rw [Function.update_of_ne hkey, List.filter_cons_of_neg (by simp [hne])]
      · rcases List.mem_cons.mp hy with rfl | hmem
        · exact hnot
        · exact haccepts y hmem k hk hknown

theorem after_eq_self (jobId : ℕ) (actorId : Option ℕ) (hsnapshot : dto.syncType = .stockSnapshot)
    (hnonneg : ∀ x ∈ xs, 0 ≤ x.1.quantity)
    (hcounts : ∀ x ∈ xs, ∀ k ∈ countedKey env dto T x.1, T.transfer.inventory.Known k →
      T.transfer.inventory.onHandAt k = x.1.quantity) : Run.after (entryStep env jobId dto actorId) T xs = T := by
  have hsteps : ∀ x ∈ xs, entryStep env jobId dto actorId T x = T := by
    intro x hx
    rcases snapshot_step jobId hsnapshot (hnonneg x hx) T with
      ⟨-, hstep, -⟩ | ⟨-, k, hcounted, -, -, hstep⟩
    · exact hstep
    · exact hstep (hcounts x hx k hcounted)
  refine Run.after_induction (P := (· = T)) (C := fun _ x => x ∈ xs) ?_ rfl (Run.along_of_forall fun x hx => hx)
  rintro _ x rfl hx
  exact hsteps x hx

theorem getLast?_filter_of_unique {α : Type} {l : List α} {p : α → Bool} {a : α} (ha : a ∈ l) (hp : p a)
    (hunique : ∀ b ∈ l, p b → b = a) : (l.filter p).getLast? = some a := by
  have hne : l.filter p ≠ [] := List.ne_nil_of_mem (List.mem_filter.mpr ⟨ha, hp⟩)
  obtain ⟨hmem, hpass⟩ := List.mem_filter.mp (List.getLast_mem hne)
  rw [List.getLast?_eq_some_getLast hne, hunique _ hmem hpass]

/-- **A snapshot sets the stock.**  Every row has the count of the last accepted entry for it, and what it had if there is
none; every entry for a product that exists is accepted; and when no two entries count the same row, the same entries
in a new job change nothing. -/
theorem snapshot_sets_stock (env : PosSyncRuntime) (dto : IngestPosSyncDto) (actorId : Option ℕ)
    (S S' : PosSyncStore) (job : PosSyncJob) (hsnapshot : dto.syncType = .stockSnapshot)
    (hnonneg : ∀ entry ∈ dto.entries, 0 ≤ entry.quantity)
    (hrun : (ingest env dto actorId).run S = (.ok (S.jobs.next, job), S')) :
    let failed := job.failedEntries.map PosSyncFailedEntry.entryIndex
    (∀ k, S'.transfer.inventory.onHandAt k =
      countOr (S.transfer.inventory.onHandAt k) (acceptedFor env dto S failed k dto.entries.zipIdx)) ∧
    (∀ x ∈ dto.entries.zipIdx, ∀ k ∈ countedKey env dto S x.1, S.transfer.inventory.Known k → x.2 ∉ failed) ∧
    (dto.entries.Pairwise (fun a b => ∀ k ∈ countedKey env dto S a, countedKey env dto S b ≠ some k) →
      ∀ now replenish actorId' externalJobId idempotencyKey job' S'',
        (ingest { env with now, replenish } { dto with externalJobId, idempotencyKey } actorId').run S' =
          (.ok (S'.jobs.next, job'), S'') →
        S''.transfer = S'.transfer) := by
  intro failed
  have hstore := (ingest_eq_ok hrun).1
  have hnonneg' : ∀ x ∈ dto.entries.zipIdx, 0 ≤ x.1.quantity := fun x hx =>
    hnonneg x.1 (List.fst_mem_of_mem_zipIdx hx)
  have hproducts : SameProducts S (withNewJob dto S) := ⟨rfl, rfl, fun _ => Iff.rfl⟩
  obtain ⟨hsame, hrows, haccepts⟩ := onHandAt_after hsnapshot hnonneg' hproducts (along_rejected_iff hrun)
  have hrows' : ∀ k, S'.transfer.inventory.onHandAt k =
      countOr (S.transfer.inventory.onHandAt k) (acceptedFor env dto S failed k dto.entries.zipIdx) := by
    rw [hstore]
    exact hrows
  refine ⟨hrows', haccepts, fun honce now replenish actorId' externalJobId idempotencyKey job' S'' hrun' => ?_⟩
  rw [(ingest_eq_ok hrun').1]
  have hsame' : SameProducts S S' := by
    rw [hstore]
    exact ⟨hsame.aliases_eq, hsame.branches_eq, hsame.known_iff⟩
  let dto' : IngestPosSyncDto := { dto with externalJobId, idempotencyKey }
  -- the one entry that counts a row was accepted and has set it
  have hcounts : ∀ x ∈ dto.entries.zipIdx, ∀ k ∈ countedKey { env with now, replenish } dto' (withNewJob dto' S') x.1,
      S'.transfer.inventory.Known k → S'.transfer.inventory.onHandAt k = x.1.quantity := by
    intro x hx k hk hknown
    have hsame'' : SameProducts S (withNewJob dto' S') := ⟨hsame'.aliases_eq, hsame'.branches_eq, hsame'.known_iff⟩
    have hcounted : countedKey env dto S x.1 = some k := (hsame''.countedKey_eq rfl rfl rfl x.1).symm.trans hk
    have haccepted := haccepts x hx k hcounted ((hsame'.known_iff k).mp hknown)
    rw [hrows' k, countOr, acceptedFor, getLast?_filter_of_unique hx (by simp [failed, haccepted, hcounted])]
    · rfl
    · intro y hy hpass
      have hy' : countedKey env dto S y.1 = some k := by simp_all
      by_contra hne
      rw [← List.zipIdx_map_fst 0 dto.entries, List.pairwise_map] at honce
      have hsymm : Std.Symm fun a b : PosSyncEntryDto × ℕ =>
        ∀ k ∈ countedKey env dto S a.1, countedKey env dto S b.1 ≠ some k := ⟨fun a b hab k hb ha => hab k ha hb⟩
      exact honce.forall hy hx hne k hy' hcounted
  have hself := congrArg PosSyncStore.transfer (after_eq_self S'.jobs.next actorId'
    (T := withNewJob dto' S') hsnapshot hnonneg' hcounts)
  exact hself

def twoCounts : IngestPosSyncDto :=
  { stockDeltas [{ productId := some 7, quantity := 3 }, { productId := some 7, quantity := 5 }] with
    syncType := .stockSnapshot }

/-- Of two counts of a product the second one stays. -/
theorem snapshot_sets_stock_counted_twice :
    ∃ job S', (ingest plainRuntime twoCounts none).run tenAtPointOfSale = (.ok (1, job), S') ∧
      S'.transfer.inventory.onHandAt ⟨1, 7⟩ = 5 := by
  have hnonneg : ∀ entry ∈ twoCounts.entries, 0 ≤ entry.quantity := by decide
  obtain ⟨job, S', hrun, hfailed⟩ : ∃ job S', (ingest plainRuntime twoCounts none).run tenAtPointOfSale =
      (.ok (1, job), S') ∧ job.failedEntries = [] := ⟨_, _, rfl, rfl⟩
  have hcount := (snapshot_sets_stock plainRuntime twoCounts none tenAtPointOfSale S' job rfl hnonneg hrun).1 ⟨1, 7⟩
  rw [hfailed] at hcount
  exact ⟨job, S', hrun, hcount.trans (by decide +kernel)⟩

end SuuqBackend
