import SuuqBackend.Branches.Laws.StockMoves
import SuuqBackend.PurchaseOrders.PurchaseOrders

/-!
# What purchase orders do to the inventory

`Receives s s' inbound movements` says how the store `s'` differs from `s` in what purchase orders are
about: by `inbound` in what is on order, and by the stored `movements`.  Like `Moves`, effects add up.

* `persistReceiptSideEffects_receives`: a receipt stores a movement for each line that has received
  something.
-/

namespace SuuqBackend

open Proc InventoryLedger PurchaseOrders

namespace InventoryStore

def inboundAt (s : InventoryStore) (k : InventoryKey) : ℤ := (s.row k).inboundOpenPo

end InventoryStore

open InventoryStore

/-- The store has moved by `inbound` in what is on order, and `movements` have been stored. -/
structure Receives (s s' : InventoryStore) (inbound : InventoryKey → ℤ)
    (movements : List StockMovement) : Prop where
  inboundAt_eq : s'.inboundAt = s.inboundAt + inbound
  movements_eq : s'.movements = s.movements ++ movements

namespace Receives

variable {s s' s'' : InventoryStore} {inbound inbound' : InventoryKey → ℤ}
  {movements movements' : List StockMovement}

theorem refl (s : InventoryStore) : Receives s s 0 [] where
  inboundAt_eq := (add_zero _).symm
  movements_eq := (List.append_nil _).symm

theorem trans (h : Receives s s' inbound movements) (h' : Receives s' s'' inbound' movements') :
    Receives s s'' (inbound + inbound') (movements ++ movements') where
  inboundAt_eq := by rw [h'.inboundAt_eq, h.inboundAt_eq, add_assoc]
  movements_eq := by rw [h'.movements_eq, h.movements_eq, List.append_assoc]

theorem inboundAt_apply (h : Receives s s' inbound movements) (k : InventoryKey) :
    s'.inboundAt k = s.inboundAt k + inbound k :=
  congrFun h.inboundAt_eq k

theorem forEach {β : Type} {body : β → InventoryProc Unit} {inbound : β → InventoryKey → ℤ}
    {movements : β → List StockMovement}
    (hbody : ∀ x s s', (body x).run s = (.ok (), s') → Receives s s' (inbound x) (movements x))
    (xs : List β) {s s' : InventoryStore} (h : (Proc.forEach xs body).run s = (.ok (), s')) :
    Receives s s' (xs.map inbound).sum (xs.flatMap movements) := by
  have hall : ∀ (xs : List β) s s', (Proc.forEach xs body).run s = (.ok (), s') →
      Receives s s' (xs.map inbound).sum (xs.flatMap movements) := by
    apply forEach_induction
    · intro s
      exact Receives.refl s
    · intro x xs s s₁ s₂ hx hxs
      have hround := hbody x s s₁ hx
      exact hround.trans hxs
  exact hall xs s s' h

end Receives

/-! ### The ledger operations -/

variable {s s' : InventoryStore}

theorem adjustInboundOpenPo_receives {p : AdjustProjectionParams} {r : BranchInventory}
    (h : (adjustInboundOpenPo p).run s = (.ok r, s')) : Receives s s' (atKey p.key p.quantityDelta) [] := by
  have hadjust : (adjust .inboundOpenPo p).run s = (.ok r, s') := h
  obtain ⟨hk, hneg, -, rfl⟩ := adjust_eq_ok hadjust
  constructor
  · ext k
    show ((adjusted .inboundOpenPo p s).row k).inboundOpenPo = (s.row k).inboundOpenPo + _
    rw [row_adjusted]
    by_cases h : k = p.key
    · rw [if_pos h, h, atKey_self]
      rfl
    · rw [if_neg h, atKey_of_ne h, add_zero]
  · exact (movements_syncProduct ..).trans (List.append_nil _).symm

theorem recordMovement_receives {now : Date} {p : RecordMovementParams} {manager : Bool}
    {a : MovementResult} (hd : p.quantityDelta ≠ 0)
    (h : (recordMovement now p manager).run s = (.ok a, s')) : Receives s s' 0 [p.movement] := by
  rcases recordMovement_eq_ok h with ⟨hzero, -⟩ | ⟨hzero, -⟩ | ⟨-, hk, hneg, rfl⟩
  · exact absurd hzero hd
  · exact absurd hzero hd
  · constructor
    · ext k
      show ((recorded now p s).row k).inboundOpenPo = (s.row k).inboundOpenPo + 0
      rw [row_recorded, add_zero]
      split_ifs with h
      · rw [h, (movedRow_buckets now p (s.row p.key)).2.2.2.2.1]
      · rfl
    · exact movements_syncProduct ..

/-! ### The projection of an order -/

/-- What the projection of an order puts on order at each row. -/
def PurchaseOrder.inbound (order : PurchaseOrder) (k : InventoryKey) : ℤ :=
  if order.branchId = k.branchId then inboundOpenPoOf order k.productId else 0

variable {keys : List ℕ} {productId : ℕ} {previous : PurchaseOrder}

theorem mem_insertionOrder {k : ℕ} : k ∈ insertionOrder keys ↔ k ∈ keys := by
  simp [insertionOrder]

theorem nodup_insertionOrder (keys : List ℕ) : (insertionOrder keys).Nodup :=
  List.nodup_reverse.mpr (List.nodup_dedup _)

variable {order : PurchaseOrder}

theorem inboundOpenPoOf_eq_zero (h : productId ∉ inboundProductIds order) : inboundOpenPoOf order productId = 0 := by
  unfold inboundProductIds at h
  unfold inboundOpenPoOf
  split_ifs with hactive
  · rw [if_pos hactive, mem_insertionOrder] at h
    refine List.sum_eq_zero fun x hx => ?_
    obtain ⟨item, hitem, rfl⟩ := List.mem_map.mp hx
    obtain ⟨hmem, hproduct⟩ := List.mem_filter.mp hitem
    by_contra hne
    have hpos : 0 < outstandingQuantity item := Nat.pos_of_ne_zero hne
    refine h (List.mem_map.mpr ⟨item, List.mem_filter.mpr ⟨hmem, ?_⟩, of_decide_eq_true hproduct⟩)
    exact decide_eq_true hpos
  · rfl

theorem sum_atKey (hnodup : keys.Nodup) (branchId : ℕ) (f : ℕ → ℤ) (k : InventoryKey) :
    (keys.map fun p => atKey ⟨branchId, p⟩ (f p)).sum k =
      if branchId = k.branchId ∧ k.productId ∈ keys then f k.productId else 0 := by
  induction keys with
  | nil => simp
  | cons p keys ih =>
    obtain ⟨hnot, hrest⟩ := List.nodup_cons.mp hnodup
    rw [List.map_cons, List.sum_cons, Pi.add_apply, ih hrest, atKey_apply]
    by_cases hk : k = ⟨branchId, p⟩
    · subst hk
      simp [hnot]
    · rw [if_neg hk, zero_add]
      by_cases hbranch : branchId = k.branchId
      · have hne : k.productId ≠ p := by
          intro hp
          apply hk
          rw [hbranch, ← hp]
        simp only [hbranch, List.mem_cons, hne, false_or]
      · simp only [hbranch, false_and]

theorem syncInboundOpenPo_receives (h : (syncInboundOpenPo previous order productId).run s = (.ok (), s')) :
    Receives s s' (atKey ⟨order.branchId, productId⟩
      (inboundOpenPoOf order productId - inboundOpenPoOf previous productId)) [] := by
  unfold syncInboundOpenPo at h
  dsimp only at h
  split_ifs at h with hzero
  · -- nothing is adjusted
    cases h
    rw [hzero]
    have hnothing : atKey ⟨order.branchId, productId⟩ 0 = 0 := by
      ext k
      rw [atKey_apply, ite_self]
      rfl
    rw [hnothing]
    exact Receives.refl s
  · obtain ⟨r, s₁, hadjust, hrest⟩ := run_bind_eq_ok.mp h
    cases hrest
    exact adjustInboundOpenPo_receives hadjust

/-- **The loop over the products** moves what is on order by the difference of the projections. -/
theorem syncInboundOpenPoProjection_receives (hbranch : previous.branchId = order.branchId)
    (h : (syncInboundOpenPoProjection previous order).run s = (.ok (), s')) :
    Receives s s' (order.inbound - previous.inbound) [] := by
  have hloop := Receives.forEach (fun p s s' hp => syncInboundOpenPo_receives hp) _ h
  rw [List.flatMap_eq_nil_iff.mpr fun _ _ => rfl] at hloop
  have hsum : ((insertionOrder (inboundProductIds previous ++ inboundProductIds order)).map fun p =>
      atKey ⟨order.branchId, p⟩ (inboundOpenPoOf order p - inboundOpenPoOf previous p)).sum =
        order.inbound - previous.inbound := by
    ext k
    rw [sum_atKey (nodup_insertionOrder _), Pi.sub_apply]
    unfold PurchaseOrder.inbound
    rw [hbranch]
    by_cases hk : order.branchId = k.branchId
    · simp only [hk, if_true, true_and, mem_insertionOrder, List.mem_append]
      split_ifs with hmem
      · rfl
      · -- the product is listed by neither projection
        rw [not_or] at hmem
        rw [inboundOpenPoOf_eq_zero hmem.1, inboundOpenPoOf_eq_zero hmem.2]
        rfl
    · simp only [hk, if_false, false_and, sub_zero]
  rwa [hsum] at hloop

/-! ### Receipts -/

section Receipt

variable (now : Date) (id : ℕ) (order : PurchaseOrder) (actorId : Option ℕ) (reason : Option String)

/-- The movement of a receipt line, if it has received something. -/
def lineMovements (line : ReceiptLineSummary) : List StockMovement :=
  if line.receivedQuantity = 0 then []
  else [(receiptMovement now id order actorId reason line).movement]

def receiptMovements (receiptSummary : List ReceiptLineSummary) : List StockMovement :=
  receiptSummary.flatMap (lineMovements now id order actorId reason)

variable {now id order actorId reason}

theorem recordReceiptLine_receives {line : ReceiptLineSummary}
    (h : (recordReceiptLine now id order actorId reason line).run s = (.ok (), s')) :
    Receives s s' 0 (lineMovements now id order actorId reason line) := by
  unfold recordReceiptLine at h
  unfold lineMovements
  split_ifs at h ⊢ with hzero
  · cases h
    exact Receives.refl s
  · obtain ⟨r, s₁, hrecord, hrest⟩ := run_bind_eq_ok.mp h
    cases hrest
    have hd : (receiptMovement now id order actorId reason line).quantityDelta ≠ 0 :=
      Int.natCast_ne_zero.mpr hzero
    exact recordMovement_receives hd hrecord

theorem persistReceiptSideEffects_receives {receiptSummary : List ReceiptLineSummary}
    (h : (persistReceiptSideEffects now id order receiptSummary actorId reason).run s = (.ok (), s')) :
    Receives s s' 0 (receiptMovements now id order actorId reason receiptSummary) := by
  have hloop := Receives.forEach (fun line s s' hline => recordReceiptLine_receives hline) _ h
  rwa [List.sum_map_zero] at hloop

end Receipt

end SuuqBackend
