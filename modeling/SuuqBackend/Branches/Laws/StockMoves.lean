import SuuqBackend.Branches.Laws.InventoryRuns

/-!
# What a handler moves

`Moves s s' onHand outbound movements` says how the store `s'` differs from `s` in what transfers are
about: by `onHand` in the quantities on hand, by `outbound` in the quantities set aside, and by the
stored `movements`.  Effects of handlers that run one after another add up (`Moves.trans`), and so do
those of the rounds of a loop (`Moves.forEach`).

* `adjustOutboundTransfers_moves`, `adjustInboundOpenPo_moves`, `recordMovement_moves`: the effects of
  the ledger operations that the transfer service calls.
-/

namespace SuuqBackend

open Proc InventoryLedger

namespace InventoryStore

def onHandAt (s : InventoryStore) (k : InventoryKey) : ℤ := (s.row k).quantityOnHand

def outboundAt (s : InventoryStore) (k : InventoryKey) : ℤ := (s.row k).outboundTransfers

def RowsValid (s : InventoryStore) : Prop := ∀ k, (s.row k).Valid

theorem onHandAt_eq_lookup (s : InventoryStore) (k : InventoryKey) :
    ((s.inventory.lookup k).map BranchInventory.quantityOnHand).getD 0 = s.onHandAt k := by
  unfold onHandAt row
  cases s.inventory.lookup k <;> rfl

end InventoryStore

open InventoryStore

/-- The amount `d` at one row. -/
def atKey (k : InventoryKey) (d : ℤ) : InventoryKey → ℤ := fun k' => if k' = k then d else 0

variable (k : InventoryKey)

theorem atKey_apply (k' : InventoryKey) (d : ℤ) : atKey k d k' = if k' = k then d else 0 := rfl

@[simp] theorem atKey_self (d : ℤ) : atKey k d k = d := if_pos rfl

theorem atKey_of_ne {k k' : InventoryKey} (h : k' ≠ k) (d : ℤ) : atKey k d k' = 0 := if_neg h

theorem atKey_neg (d : ℤ) : atKey k (-d) = -atKey k d := by
  ext k'
  rw [Pi.neg_apply, atKey, atKey]
  split_ifs <;> rfl

theorem atKey_nonneg {d : ℤ} (h : 0 ≤ d) : 0 ≤ atKey k d := by
  intro k'
  rw [atKey_apply]
  split_ifs
  · exact h
  · exact le_rfl

/-- The store has moved by `onHand` and `outbound`, and `movements` have been stored. -/
structure Moves (s s' : InventoryStore) (onHand outbound : InventoryKey → ℤ)
    (movements : List StockMovement) : Prop where
  onHandAt_eq : s'.onHandAt = s.onHandAt + onHand
  outboundAt_eq : s'.outboundAt = s.outboundAt + outbound
  movements_eq : s'.movements = s.movements ++ movements
  known_iff : ∀ k, s'.Known k ↔ s.Known k
  /-- Only operations of the ledger write, so valid rows stay valid. -/
  valid : s.RowsValid → s'.RowsValid

namespace Moves

variable {s s' s'' : InventoryStore} {onHand onHand' outbound outbound' : InventoryKey → ℤ}
  {movements movements' : List StockMovement}

theorem refl (s : InventoryStore) : Moves s s 0 0 [] where
  onHandAt_eq := (add_zero _).symm
  outboundAt_eq := (add_zero _).symm
  movements_eq := (List.append_nil _).symm
  known_iff _ := Iff.rfl
  valid h := h

section

variable (h : Moves s s' onHand outbound movements)

include h

theorem trans (h' : Moves s' s'' onHand' outbound' movements') :
    Moves s s'' (onHand + onHand') (outbound + outbound') (movements ++ movements') where
  onHandAt_eq := by rw [h'.onHandAt_eq, h.onHandAt_eq, add_assoc]
  outboundAt_eq := by rw [h'.outboundAt_eq, h.outboundAt_eq, add_assoc]
  movements_eq := by rw [h'.movements_eq, h.movements_eq, List.append_assoc]
  known_iff k := (h'.known_iff k).trans (h.known_iff k)
  valid hs := h'.valid (h.valid hs)

theorem onHandAt_apply (k : InventoryKey) : s'.onHandAt k = s.onHandAt k + onHand k :=
  congrFun h.onHandAt_eq k

theorem outboundAt_apply (k : InventoryKey) : s'.outboundAt k = s.outboundAt k + outbound k :=
  congrFun h.outboundAt_eq k

end

theorem forEach {β : Type} {body : β → InventoryProc Unit} {onHand outbound : β → InventoryKey → ℤ}
    {movements : β → List StockMovement} (hbody : ∀ x s s', (body x).run s = (.ok (), s') →
      Moves s s' (onHand x) (outbound x) (movements x))
    (xs : List β) {s s' : InventoryStore} (h : (Proc.forEach xs body).run s = (.ok (), s')) :
    Moves s s' (xs.map onHand).sum (xs.map outbound).sum (xs.flatMap movements) := by
  have hall : ∀ (xs : List β) s s', (Proc.forEach xs body).run s = (.ok (), s') →
      Moves s s' (xs.map onHand).sum (xs.map outbound).sum (xs.flatMap movements) := by
    apply forEach_induction
    · intro s
      exact Moves.refl s
    · intro x xs s s₁ s₂ hx hxs
      have hround := hbody x s s₁ hx
      exact hround.trans hxs
  exact hall xs s s' h

end Moves

/-! ### The ledger operations -/

variable {s s' : InventoryStore}

variable {p : AdjustProjectionParams} {r : BranchInventory} {now : Date} {manager : Bool}

variable (bucket : ProjectionBucket)

theorem adjusted_moves (hneg : 0 ≤ bucket.get (s.row p.key) + p.quantityDelta) (hk : s.Known p.key) :
    Moves s (adjusted bucket p s) 0 (if bucket = .outboundTransfers then atKey p.key p.quantityDelta else 0) [] where
  onHandAt_eq := by
    ext k
    show ((adjusted bucket p s).row k).quantityOnHand = (s.row k).quantityOnHand + 0
    rw [row_adjusted]
    split_ifs with h
    · rw [h, quantityOnHand_adjustedRow, add_zero]
    · rw [add_zero]
  outboundAt_eq := by
    ext k
    show ((adjusted bucket p s).row k).outboundTransfers = (s.row k).outboundTransfers + _
    rw [row_adjusted]
    by_cases hk : k = p.key
    · rw [if_pos hk, outboundTransfers_adjustedRow, hk]
      split_ifs
      · rw [atKey_self]
      · rfl
    · split_ifs
      · rw [atKey_of_ne hk, add_zero]
      · exact (add_zero _).symm
  movements_eq := (movements_syncProduct ..).trans (List.append_nil _).symm
  known_iff k := known_syncProduct ..
  valid h := (LedgerChange.adjust bucket p hk hneg).valid h

theorem adjust_moves (h : (adjust bucket p).run s = (.ok r, s')) :
    Moves s s' 0 (if bucket = .outboundTransfers then atKey p.key p.quantityDelta else 0) [] := by
  obtain ⟨hk, hneg, -, rfl⟩ := adjust_eq_ok h
  exact adjusted_moves bucket hneg hk

theorem adjustOutboundTransfers_moves (h : (adjustOutboundTransfers p).run s = (.ok r, s')) :
    Moves s s' 0 (atKey p.key p.quantityDelta) [] := by
  have hmoves := adjust_moves .outboundTransfers h
  rwa [if_pos rfl] at hmoves

theorem adjustInboundOpenPo_moves (h : (adjustInboundOpenPo p).run s = (.ok r, s')) : Moves s s' 0 0 [] := by
  have hmoves := adjust_moves .inboundOpenPo h
  rwa [if_neg (by decide)] at hmoves

variable {p : RecordMovementParams}

theorem recorded_moves (now : Date)
    (hneg : 0 ≤ (s.row p.key).quantityOnHand + p.quantityDelta) (hk : s.Known p.key) :
    Moves s (recorded now p s) (atKey p.key p.quantityDelta) 0 [p.movement] where
  onHandAt_eq := by
    ext k
    show ((recorded now p s).row k).quantityOnHand = (s.row k).quantityOnHand + _
    rw [row_recorded]
    by_cases h : k = p.key
    · rw [if_pos h, quantityOnHand_movedRow, h, atKey_self]
    · rw [if_neg h, atKey_of_ne h, add_zero]
  outboundAt_eq := by
    ext k
    show ((recorded now p s).row k).outboundTransfers = (s.row k).outboundTransfers + 0
    rw [row_recorded]
    split_ifs with h
    · rw [h, outboundTransfers_movedRow, add_zero]
    · rw [add_zero]
  movements_eq := movements_syncProduct ..
  known_iff k := known_syncProduct ..
  valid h := (LedgerChange.move now p hk hneg).valid h

theorem recordMovement_moves {a : MovementResult} (hd : p.quantityDelta ≠ 0)
    (h : (recordMovement now p manager).run s = (.ok a, s')) :
    Moves s s' (atKey p.key p.quantityDelta) 0 [p.movement] := by
  rcases recordMovement_eq_ok h with ⟨hzero, -⟩ | ⟨hzero, -⟩ | ⟨-, hk, hneg, rfl⟩
  · exact absurd hzero hd
  · exact absurd hzero hd
  · exact recorded_moves now hneg hk

theorem putRow_zero_moves {k : InventoryKey} (hmem : k ∉ s.inventory) (hk : s.Known k) :
    Moves s (s.putRow k .zero) 0 0 [] where
  onHandAt_eq := by
    ext k'
    show ((s.putRow k .zero).row k').quantityOnHand = (s.row k').quantityOnHand + 0
    rw [row_putRow_zero s hmem, add_zero]
  outboundAt_eq := by
    ext k'
    show ((s.putRow k .zero).row k').outboundTransfers = (s.row k').outboundTransfers + 0
    rw [row_putRow_zero s hmem, add_zero]
  movements_eq := (List.append_nil _).symm
  known_iff _ := Iff.rfl
  valid h := (LedgerChange.create hmem hk).valid h

variable {o : Except HttpException MovementResult}

theorem recordMovement_sets_nothing_aside (h : (recordMovement now p manager).run s = (o, s')) :
    ∃ onHand movements, Moves s s' onHand 0 movements := by
  cases o with
  | error e =>
    rw [recordMovement_eq_error h]
    exact ⟨0, [], Moves.refl s⟩
  | ok a =>
    rcases recordMovement_eq_ok h with ⟨-, -, rfl⟩ | ⟨-, hmem, hk, rfl⟩ | ⟨-, hk, hneg, rfl⟩
    · exact ⟨0, [], Moves.refl s'⟩
    · exact ⟨0, [], putRow_zero_moves hmem hk⟩
    · exact ⟨_, _, recorded_moves now hneg hk⟩

theorem recordMovement_onHandAt (h : (recordMovement now p manager).run s = (o, s')) :
    s'.onHandAt = s.onHandAt + atKey p.key
      (if s.Known p.key ∧ 0 ≤ s.onHandAt p.key + p.quantityDelta then p.quantityDelta else 0) := by
  have hnothing : ∀ d : ℤ, d = 0 → s.onHandAt = s.onHandAt + atKey p.key d := by
    intro d hd
    ext k
    rw [Pi.add_apply, hd, atKey_apply, ite_self, add_zero]
  cases o with
  | error e =>
    rw [recordMovement_eq_error h]
    apply hnothing
    split_ifs with hthrough
    · -- a movement of something that goes through does not throw
      by_contra hd
      have hneg : ¬ (s.row p.key).quantityOnHand + p.quantityDelta < 0 := not_lt.mpr hthrough.2
      rw [run_recordMovement hd hthrough.1, if_neg hneg] at h
      cases h
    · rfl
  | ok a =>
    rcases recordMovement_eq_ok h with ⟨hd, -, rfl⟩ | ⟨hd, hmem, hk, rfl⟩ | ⟨-, hk, hneg, rfl⟩
    · exact hnothing _ (by rw [hd, ite_self])
    · rw [(putRow_zero_moves hmem hk).onHandAt_eq, add_zero]
      exact hnothing _ (by rw [hd, ite_self])
    · rw [(recorded_moves now hneg hk).onHandAt_eq, if_pos ⟨hk, hneg⟩]

/-!
## The stock that the catalogue shows

`Mirrored s` says that every product with a row at some branch shows in the catalogue the sum of
what its rows have available.  `syncProductStockQuantity` establishes it for one product and leaves
the others alone; every operation ends with it, except that a movement of nothing which creates a
row does not.

* `mirrored_step_iff`: one call keeps the catalogue in step exactly when it is not such a movement
  on a product without rows whose catalogue shows something else than zero (`FirstRowOfNothing`).
* `catalogue_runs`: this, and over whole runs.
* `firstRow_unmirrored`: such a movement, after which the catalogue shows stock that no branch has.
-/

namespace InventoryStore

/-- If the product has a row at some branch, the catalogue shows what its rows have available. -/
def MirroredAt (s : InventoryStore) (p : ℕ) : Prop :=
  s.HasRows p → ∀ product, s.products.lookup p = some product → product.stockQuantity = some (s.available p)

/-- The catalogue shows what the branches have available. -/
def Mirrored (s : InventoryStore) : Prop := ∀ p, s.MirroredAt p

variable {p : ℕ} {s : InventoryStore} {k : InventoryKey}

theorem MirroredAt.congr {s' : InventoryStore} (h : s.MirroredAt p)
    (hrows : s'.HasRows p → s.HasRows p) (hproduct : s'.products.lookup p = s.products.lookup p)
    (havailable : s'.available p = s.available p) : s'.MirroredAt p := by
  intro hs' product hp
  rw [havailable]
  exact h (hrows hs') product (hproduct.symm.trans hp)

theorem mirroredAt_syncProduct_self (s : InventoryStore) (p : ℕ) : (s.syncProduct p).MirroredAt p := by
  intro hrows product hp
  have hs : s.HasRows p := (hasRows_congr p (inventory_syncProduct s p)).mp hrows
  have havailable : (s.syncProduct p).available p = s.available p :=
    productTotal_congr p _ (inventory_syncProduct s p)
  rw [syncProduct_of_hasRows hs, lookup_products_setStockQuantity, if_pos rfl] at hp
  obtain ⟨old, -, rfl⟩ := Option.map_eq_some_iff.mp hp
  rw [havailable]

theorem MirroredAt.syncProduct_of_ne {q : ℕ} (h : s.MirroredAt q) (hne : q ≠ p) : (s.syncProduct p).MirroredAt q := by
  refine h.congr (hasRows_congr q (inventory_syncProduct s p)).mp ?_
    (productTotal_congr q _ (inventory_syncProduct s p))
  unfold syncProduct
  split_ifs
  · rfl
  · rw [lookup_products_setStockQuantity, if_neg hne]

theorem available_putRow (s : InventoryStore) (k : InventoryKey) (r : BranchInventory) (p : ℕ) :
    (s.putRow k r).available p = s.available p +
      if k.productId = p then max 0 r.availableToSell - max 0 (s.row k).availableToSell else 0 :=
  productTotal_putRow s k r p _ rfl

theorem MirroredAt.putRow_of_ne {q : ℕ} (h : s.MirroredAt q) (hne : k.productId ≠ q) (r : BranchInventory) :
    (s.putRow k r).MirroredAt q := by
  refine h.congr (fun hrows => ?_) rfl ?_
  · exact ((hasRows_putRow s k r q).mp hrows).resolve_left hne
  · rw [available_putRow, if_neg hne, add_zero]

theorem mirrored_syncProduct (h : ∀ q, q ≠ p → s.MirroredAt q) : (s.syncProduct p).Mirrored := by
  intro q
  by_cases hq : q = p
  · rw [hq]
    exact mirroredAt_syncProduct_self s p
  · exact (h q hq).syncProduct_of_ne hq

/-- A row that has nothing available keeps a catalogue in step that the product's rows determine. -/
theorem MirroredAt.putRow_zero (h : s.MirroredAt k.productId) (hmem : k ∉ s.inventory) (hrows : s.HasRows k.productId) :
    (s.putRow k .zero).MirroredAt k.productId := by
  refine h.congr (fun _ => hrows) rfl ?_
  rw [available_putRow, if_pos rfl, row_of_notMem hmem, sub_self, add_zero]

theorem available_of_not_hasRows (h : ¬ s.HasRows p) : s.available p = 0 := by
  have hrows : s.rowsOfProduct p = 0 :=
    Multiset.card_eq_zero.mp ((card_rowsOfProduct_eq_zero s p).mpr h)
  rw [available, productTotal, hrows]
  rfl

theorem mirroredAt_putRow_zero_iff (hrows : ¬ s.HasRows k.productId) : (s.putRow k .zero).MirroredAt k.productId ↔
      ∀ product, s.products.lookup k.productId = some product → product.stockQuantity = some 0 := by
  have hmem : k ∉ s.inventory := fun h => hrows ⟨k.branchId, h⟩
  have havailable : (s.putRow k .zero).available k.productId = 0 := by
    rw [available_putRow, if_pos rfl, row_of_notMem hmem, sub_self, add_zero, available_of_not_hasRows hrows]
  unfold MirroredAt
  rw [havailable]
  exact ⟨fun h => h ((hasRows_putRow s k .zero _).mpr (.inl rfl)), fun h _ => h⟩

end InventoryStore

/-- The call is a movement of nothing on a product that no branch has a row of, while the catalogue
shows something else than a stock of zero. -/
def FirstRowOfNothing (s : InventoryStore) : LedgerCall → Prop
  | .recordMovement _ p _ => p.quantityDelta = 0 ∧ s.Known p.key ∧ ¬ s.HasRows p.productId ∧
      ∃ product, s.products.lookup p.productId = some product ∧ product.stockQuantity ≠ some 0
  | _ => False

variable {s : InventoryStore}

section

variable (h : s.Mirrored)

include h

theorem mirrored_recorded (now : Date) (p : RecordMovementParams) : (recorded now p s).Mirrored :=
  mirrored_syncProduct fun q hq => (h q).putRow_of_ne (Ne.symm hq) _

theorem mirrored_adjusted (bucket : ProjectionBucket) (p : AdjustProjectionParams) : (adjusted bucket p s).Mirrored :=
  mirrored_syncProduct fun q hq => (h q).putRow_of_ne (Ne.symm hq) _

theorem mirrored_transferred (p : TransferMovementParams) : (transferred p s).Mirrored :=
  mirrored_syncProduct fun q hq =>
    ((h q).putRow_of_ne (Ne.symm hq) _).putRow_of_ne (Ne.symm hq) _

/-- The row that a movement of nothing creates keeps the catalogue in step exactly when it is not
the first row of a product whose catalogue shows something else than zero. -/
theorem mirrored_putRow_zero_iff {k : InventoryKey} (hmem : k ∉ s.inventory) : (s.putRow k .zero).Mirrored ↔
      ¬ (¬ s.HasRows k.productId ∧ ∃ product, s.products.lookup k.productId = some product ∧
        product.stockQuantity ≠ some 0) := by
  have hother : ∀ q, q ≠ k.productId → (s.putRow k .zero).MirroredAt q :=
    fun q hq => (h q).putRow_of_ne (Ne.symm hq) _
  have hself : (s.putRow k .zero).Mirrored ↔ (s.putRow k .zero).MirroredAt k.productId :=
    ⟨fun hm => hm _, fun hm q => by
      by_cases hq : q = k.productId
      · rw [hq]
        exact hm
      · exact hother q hq⟩
  rw [hself]
  by_cases hrows : s.HasRows k.productId
  · exact iff_of_true ((h _).putRow_zero hmem hrows) fun hfirst => hfirst.1 hrows
  · rw [mirroredAt_putRow_zero_iff hrows]
    push Not
    exact ⟨fun hp _ => hp, fun hp => hp hrows⟩

theorem mirrored_adjust_step (bucket : ProjectionBucket)
    (p : AdjustProjectionParams) : ((adjust bucket p).run s).2.Mirrored := by
  rcases hrun : (adjust bucket p).run s with ⟨e | r, s'⟩
  · rw [adjust_eq_error hrun]
    exact h
  · obtain ⟨-, -, -, rfl⟩ := adjust_eq_ok hrun
    exact mirrored_adjusted h bucket p

theorem mirrored_transferStock_step (p : TransferMovementParams) : ((transferStock p).run s).2.Mirrored := by
  rcases hrun : (transferStock p).run s with ⟨e | r, s'⟩
  · rw [transferStock_eq_error hrun]
    exact h
  · obtain ⟨-, -, -, -, -, rfl⟩ := transferStock_eq_ok hrun
    exact mirrored_transferred h p

theorem mirrored_recordMovement_step_iff (now : Date)
    (p : RecordMovementParams) (manager : Bool) : ((recordMovement now p manager).run s).2.Mirrored ↔
      ¬ FirstRowOfNothing s (.recordMovement now p manager) := by
  rcases hrun : (recordMovement now p manager).run s with ⟨e | r, s'⟩
  · have hs' : s' = s := recordMovement_eq_error hrun
    rw [hs']
    refine iff_of_true h fun hfirst => ?_
    obtain ⟨hd, hk, hrows, -⟩ := hfirst
    have hmem : p.key ∉ s.inventory := fun hmem => hrows ⟨p.branchId, hmem⟩
    rw [recordMovement, if_pos hd, run_recordNothing, if_neg hmem, if_pos hk] at hrun
    cases hrun
  · rcases recordMovement_eq_ok hrun with ⟨-, hmem, rfl⟩ | ⟨hd, hmem, hk, rfl⟩ | ⟨hd, -, -, rfl⟩
    · exact iff_of_true h fun hfirst => hfirst.2.2.1 ⟨p.branchId, hmem⟩
    · rw [show FirstRowOfNothing s (.recordMovement now p manager) ↔ _ from
        ⟨fun hf => hf.2.2, fun hf => ⟨hd, hk, hf⟩⟩]
      exact mirrored_putRow_zero_iff h hmem
    · exact iff_of_true (mirrored_recorded h now p) fun hfirst => hd hfirst.1

/-- One call keeps the catalogue in step exactly when it is not a movement of nothing that creates
the first row of a product whose catalogue shows something else than zero. -/
theorem mirrored_step_iff (c : LedgerCall) : (c.step s).Mirrored ↔ ¬ FirstRowOfNothing s c := by
  unfold LedgerCall.step
  cases c with
  | recordMovement now p manager =>
    rw [LedgerCall.handler, run_discard]
    exact mirrored_recordMovement_step_iff h now p manager
  | transferStock p => exact iff_of_true (mirrored_transferStock_step h p) not_false
  | adjustInboundOpenPo p =>
    rw [LedgerCall.handler, run_discard]
    exact iff_of_true (mirrored_adjust_step h .inboundOpenPo p) not_false
  | adjustReservedOnline p =>
    rw [LedgerCall.handler, run_discard]
    exact iff_of_true (mirrored_adjust_step h .reservedOnline p) not_false
  | adjustOutboundTransfers p =>
    rw [LedgerCall.handler, run_discard]
    exact iff_of_true (mirrored_adjust_step h .outboundTransfers p) not_false

end

/-- **The catalogue mirrors the branches**: a call keeps it in step exactly when it does not create
the first row of a product out of nothing while the catalogue shows something else than zero, and
so does a run whose calls all do not. -/
theorem catalogue_runs (s₀ : InventoryStore) (h₀ : s₀.Mirrored) :
    (∀ c, (LedgerCall.step s₀ c).Mirrored ↔ ¬ FirstRowOfNothing s₀ c) ∧
    ∀ calls, Run.Along LedgerCall.step (fun s c => ¬ FirstRowOfNothing s c) s₀ calls →
      (Run.after LedgerCall.step s₀ calls).Mirrored :=
  ⟨mirrored_step_iff h₀, fun _ hcalls =>
    Run.after_induction (P := Mirrored) (fun _ c hs hc => (mirrored_step_iff hs c).mpr hc) h₀ hcalls⟩

theorem mirrored_of_empty (h : s.inventory = ∅) : s.Mirrored := by
  rintro p ⟨b, hb⟩
  rw [h] at hb
  exact absurd hb Finmap.notMem_empty

/-- A receipt, a sale and a transfer keep the catalogue of `twoBranches` in step. -/
theorem catalogue_runs_receipt :
    (Run.after LedgerCall.step twoBranches
      [.recordMovement 0 (sampleMovement 1 .purchaseReceipt 10) false,
        .transferStock ⟨1, 2, 7, 4, "SAMPLE", none, none, none⟩,
        .recordMovement 0 (sampleMovement 2 .sale (-3)) true]).Mirrored :=
  (catalogue_runs twoBranches (mirrored_of_empty rfl)).2 _
    ⟨fun h => absurd h.1 (by decide), not_false, fun h => absurd h.1 (by decide), trivial⟩

/-- An adjustment of nothing at the first branch: the catalogue of `twoBranches` goes on showing 30
while no branch has any. -/
theorem firstRow_unmirrored :
    LedgerCall.Succeeds (.recordMovement 0 (sampleMovement 1 .adjustment 0) false) twoBranches ∧
    ¬ (Run.after LedgerCall.step twoBranches [.recordMovement 0 (sampleMovement 1 .adjustment 0) false]).Mirrored := by
  refine ⟨by decide, fun h => ?_⟩
  have hshown := h 7 ⟨1, by decide⟩ ⟨some 30, true⟩ (by decide)
  exact absurd hshown (by decide)

end SuuqBackend
