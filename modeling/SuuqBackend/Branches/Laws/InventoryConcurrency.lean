import SuuqBackend.Lib.Interleave
import SuuqBackend.Branches.Laws.InventoryRuns
import Mathlib.Data.Fintype.Fin

/-!
# Concurrent movements

Any number of `recordMovement` calls whose repository steps interleave: each `findOne` and each
`save` is one atomic action, and a save writes the columns of the row that the call loaded.  The
row's `version` is written but never compared, and no lock is taken, so a save can overwrite what
another call saved since the load.
-/

namespace SuuqBackend

open Proc InventoryLedger InventoryRepository InventoryStore

/-! ### The steps of one call -/

namespace InventoryLedger

/-- `recordMovementWithManager` after it has loaded the row. -/
def recordLoaded (now : Date) (p : RecordMovementParams) (inventory : InventoryEntity) :
    InventoryProc MovementResult := do
  .throwIf (inventory.row.quantityOnHand + p.quantityDelta < 0) (onHandNegative p.branchId p.productId)
  let savedInventory ← saveInventory p.key
    { inventory with row := applyAvailabilityProjection (applyMovement now p inventory.row) }
  saveMovement p.movement
  syncProductStockQuantity p.productId
  return { inventory := savedInventory.row, movement := p.movement }

variable (now : Date) (p : RecordMovementParams) (k : InventoryKey)

theorem recordMovementWithManager_eq :
    recordMovementWithManager now p = loadOrCreateInventory p.key >>= recordLoaded now p := rfl

variable {α : Type}

theorem loadOrCreateInventory_bind (f : InventoryEntity → InventoryProc α) :
    loadOrCreateInventory k >>= f = .step id fun s => f (entity s k (s.row k)) := by
  refine congrArg (Proc.step id) (funext fun s => ?_)
  dsimp only [Proc.bind]
  cases h : s.inventory.lookup k with
  | none =>
    have hmem : k ∉ s.inventory := Finmap.lookup_eq_none.mp h
    rw [row_of_notMem hmem, entity, decide_eq_false hmem]
    rfl
  | some r =>
    rw [row_of_lookup h, entity, decide_eq_true (Finmap.mem_of_lookup_eq_some h)]
    rfl

theorem throwIf_bind (c : Prop) [Decidable c] (e : HttpException)
    (f : Unit → InventoryProc α) : Proc.throwIf c e >>= f = if c then .fail e else f () := by
  unfold Proc.throwIf
  split_ifs <;> rfl

/-- A movement of something reads the branch, the product and the row, and goes on from there. -/
theorem recordMovement_eq_steps {p : RecordMovementParams} (hd : p.quantityDelta ≠ 0) (now : Date) :
    recordMovement now p true = .step id fun s₁ => .step id fun s₂ =>
      if (s₁.branches.lookup p.branchId).isNone then .fail (.branchNotFound p.branchId)
      else if (s₂.products.lookup p.productId).isNone then .fail (.productNotFound p.productId)
      else .step id fun s => recordLoaded now p (entity s p.key (s.row p.key)) := by
  unfold recordMovement
  rw [if_neg hd, if_pos rfl, recordMovementWithManager_eq, loadOrCreateInventory_bind]
  refine congrArg (Proc.step id) (funext fun s₁ => congrArg (Proc.step id) (funext fun s₂ => ?_))
  show (Proc.throwIf _ _ >>= fun _ => Proc.throwIf _ _) >>= _ = _
  rw [bind_assoc, throwIf_bind, throwIf_bind]

/-- What is left after the save of the row: the movement and the catalogue. -/
def recordSaved (p : RecordMovementParams) (saved : InventoryEntity) : InventoryProc MovementResult := do
  saveMovement p.movement
  syncProductStockQuantity p.productId
  return { inventory := saved.row, movement := p.movement }

theorem recordLoaded_eq_steps (inventory : InventoryEntity) :
    recordLoaded now p inventory =
      if inventory.row.quantityOnHand + p.quantityDelta < 0 then
        .fail (onHandNegative p.branchId p.productId)
      else saveInventory p.key { inventory with row := movedRow now p inventory.row } >>=
          recordSaved p :=
  throwIf_bind ..

theorem saveInventory_bind (e : InventoryEntity) (f : InventoryEntity → InventoryProc α) :
    saveInventory k e >>= f =
      .step
        (fun s => match saveError k e s with
          | none => s.putRow k e.row
          | some _ => s)
        fun s => match saveError k e s with
          | none => f { e with persisted := true }
          | some error => .fail error := by
  refine congrArg (Proc.step _) (funext fun s => ?_)
  show Proc.bind (match saveError k e s with | none => _ | some error => _) f = _
  cases saveError k e s <;> rfl

variable {R : InventoryStore → InventoryStore → Prop}

theorem acts_saveInventory_bind {k : InventoryKey} {e : InventoryEntity} {f : InventoryEntity → InventoryProc α}
    (hrefl : ∀ s, R s s) (hput : ∀ s, saveError k e s = none → R s (s.putRow k e.row))
    (hf : (f { e with persisted := true }).Acts R) : (saveInventory k e >>= f).Acts R := by
  intro s
  dsimp only
  cases herror : saveError k e s with
  | none => exact ⟨hput s herror, hf⟩
  | some error => exact ⟨hrefl s, trivial⟩

theorem acts_syncProductStockQuantity (p : ℕ)
    (hrefl : ∀ s, R s s) (hset : ∀ s q v, R s (setStockQuantity s q v)) : (syncProductStockQuantity p).Acts R := by
  refine (acts_read hrefl _).bind fun rows => ?_
  split_ifs
  · trivial
  · exact acts_write fun s => hset s _ _

theorem total_syncProductStockQuantity (p : ℕ) : (syncProductStockQuantity p).Total := by
  refine Total.bind (fun _ => trivial) fun rows => ?_
  split_ifs
  · trivial
  · exact fun _ => trivial

theorem total_recordSaved (saved : InventoryEntity) : (recordSaved p saved).Total :=
  Total.bind (fun _ => trivial) fun _ =>
    (total_syncProductStockQuantity p.productId).bind fun _ => trivial

/-! ### What one call adds -/

section Gains

variable (now : Date) (p : RecordMovementParams) (k : InventoryKey)

theorem gain_onHand_recordSaved (saved : InventoryEntity) (seen : List InventoryStore) :
    (recordSaved p saved).gain (fun s => (s.row k).quantityOnHand) seen = 0 := by
  refine gain_eq_zero (Acts.bind (acts_write fun s => ?_) fun _ => Acts.bind ?_ fun _ => acts_pure _)
    seen
  · rfl
  · exact acts_syncProductStockQuantity _ (fun _ => rfl) fun s q v => by rw [row, row, inventory_setStockQuantity]

theorem gain_movementSum_sync (f : Unit → InventoryProc MovementResult)
    (hf : ∀ a, (f a).Acts fun s s' => s'.movementSum k = s.movementSum k) (seen : List InventoryStore) :
    (syncProductStockQuantity p.productId >>= f).gain (fun s => s.movementSum k) seen = 0 := by
  refine gain_eq_zero (Acts.bind ?_ hf) seen
  exact acts_syncProductStockQuantity _ (fun _ => rfl)
    fun s q v => by rw [movementSum, movementSum, movements_setStockQuantity]

variable {seen : List InventoryStore}

theorem gain_movementSum_recordSaved {saved : InventoryEntity}
    (hdone : ((recordSaved p saved).resume seen).isDone = true) :
    (recordSaved p saved).gain (fun s => s.movementSum k) seen = if p.key = k then p.quantityDelta else 0 := by
  cases seen with
  | nil => cases hdone
  | cons s seen =>
    show (s.addMovement p.movement).movementSum k - s.movementSum k +
      (syncProductStockQuantity p.productId >>= _).gain _ seen = _
    rw [gain_movementSum_sync p k _ (fun _ => acts_pure _), movementSum_addMovement, add_zero, add_sub_cancel_left]
    rfl

variable {inventory : InventoryEntity}

theorem gain_recordLoaded_of_fail (hfail : ((recordLoaded now p inventory).resume seen).isFail = true) :
    (recordLoaded now p inventory).gain (fun s => (s.row k).quantityOnHand) seen = 0 ∧
    (recordLoaded now p inventory).gain (fun s => s.movementSum k) seen = 0 := by
  rw [recordLoaded_eq_steps] at hfail ⊢
  split_ifs at hfail ⊢
  · exact ⟨gain_fail _ _ _, gain_fail _ _ _⟩
  · rw [saveInventory_bind] at hfail ⊢
    cases seen with
    | nil => cases hfail
    | cons s seen =>
      rw [resume_step_cons] at hfail
      rw [gain_step_cons, gain_step_cons]
      cases herror : saveError p.key { inventory with row := movedRow now p inventory.row } s with
      | none =>
        rw [herror, (total_recordSaved p _).isFail_resume] at hfail
        cases hfail
      | some e => simp

/-- **What a call adds after the load**: its save replaces the quantity that it finds by the one that
the call loaded plus the delta, and the movement adds the delta. -/
theorem gain_recordLoaded_of_done (hdone : ((recordLoaded now p inventory).resume seen).isDone = true) :
    ∃ found rest, seen = found :: rest ∧
      0 ≤ inventory.row.quantityOnHand + p.quantityDelta ∧
      saveError p.key { inventory with row := movedRow now p inventory.row } found = none ∧
      (recordLoaded now p inventory).gain (fun s => (s.row k).quantityOnHand) seen =
        (if p.key = k then inventory.row.quantityOnHand + p.quantityDelta - (found.row k).quantityOnHand else 0) ∧
      (recordLoaded now p inventory).gain (fun s => s.movementSum k) seen =
        if p.key = k then p.quantityDelta else 0 := by
  rw [recordLoaded_eq_steps] at hdone ⊢
  by_cases hneg : inventory.row.quantityOnHand + p.quantityDelta < 0
  · rw [if_pos hneg] at hdone
    cases hdone
  · rw [if_neg hneg, saveInventory_bind] at hdone ⊢
    cases seen with
    | nil => cases hdone
    | cons found rest =>
      rw [resume_step_cons] at hdone
      rw [gain_step_cons, gain_step_cons]
      cases herror : saveError p.key { inventory with row := movedRow now p inventory.row } found with
      | some e =>
        rw [herror] at hdone
        cases hdone
      | none =>
        rw [herror] at hdone
        refine ⟨found, rest, rfl, not_lt.mp hneg, herror, ?_, ?_⟩
        · rw [gain_onHand_recordSaved]
          split_ifs with hk
          · rw [hk, row_putRow_self, quantityOnHand_movedRow, add_zero]
          · rw [row_putRow_of_ne _ _ (Ne.symm hk), sub_self, add_zero]
        · rw [gain_movementSum_recordSaved p k hdone, movementSum_putRow, sub_self, zero_add]

theorem acts_recordNothing {R : InventoryStore → InventoryStore → Prop} (hrefl : ∀ s, R s s)
    (hcreate : ∀ s : InventoryStore, p.key ∉ s.inventory → R s (s.putRow p.key .zero)) : (recordNothing p).Acts R := by
  unfold recordNothing
  rw [loadOrCreateInventory_bind]
  refine fun s => ⟨hrefl s, ?_⟩
  by_cases hmem : p.key ∈ s.inventory
  · simp [hmem]
  · simp only [hmem, decide_false, if_false, Bool.false_eq_true, row_of_notMem hmem]
    refine acts_saveInventory_bind hrefl (fun found herror => ?_) (acts_pure _)
    refine hcreate found fun hfound => ?_
    simp [saveError, hfound] at herror

theorem gain_recordNothing (seen : List InventoryStore) :
    (recordNothing p).gain (fun s => (s.row k).quantityOnHand) seen = 0 ∧
    (recordNothing p).gain (fun s => s.movementSum k) seen = 0 :=
  ⟨gain_eq_zero (acts_recordNothing p (fun _ => rfl) fun s hmem => by rw [row_putRow_zero s hmem]) seen,
    gain_eq_zero (acts_recordNothing p (fun _ => rfl) fun _ _ => rfl) seen⟩

theorem gain_recordMovement_of_fail (hfail : ((recordMovement now p true).resume seen).isFail = true) :
    (recordMovement now p true).gain (fun s => (s.row k).quantityOnHand) seen = 0 ∧
    (recordMovement now p true).gain (fun s => s.movementSum k) seen = 0 := by
  by_cases hd : p.quantityDelta = 0
  · rw [recordMovement, if_pos hd]
    exact gain_recordNothing p k seen
  · rw [recordMovement_eq_steps hd] at hfail ⊢
    rcases seen with - | ⟨s₁, - | ⟨s₂, seen⟩⟩
    · cases hfail
    · cases hfail
    · simp only [resume_step_cons, gain_step_cons, id, sub_self, zero_add] at hfail ⊢
      split_ifs at hfail ⊢
      · simp
      · simp
      · cases seen with
        | nil => cases hfail
        | cons loaded seen =>
          simp only [resume_step_cons, gain_step_cons, id, sub_self, zero_add] at hfail ⊢
          exact gain_recordLoaded_of_fail now p k hfail

/-- **What a call adds**: a movement of something has loaded its row in its third step and saved it in
its fourth, and has added to the quantity on hand its delta and what it loaded beyond what its save
found; to the movements it has added its delta. -/
theorem gain_recordMovement_of_done
    (hdone : ((recordMovement now p true).resume seen).isDone = true) (hd : p.quantityDelta ≠ 0) :
    ∃ s₁ s₂ loaded found rest, seen = s₁ :: s₂ :: loaded :: found :: rest ∧
      0 ≤ (loaded.row p.key).quantityOnHand + p.quantityDelta ∧
      (p.key ∈ loaded.inventory ∨ p.key ∉ found.inventory) ∧
      (recordMovement now p true).gain (fun s => (s.row k).quantityOnHand) seen =
        (if p.key = k then (loaded.row p.key).quantityOnHand + p.quantityDelta
          - (found.row k).quantityOnHand else 0) ∧
      (recordMovement now p true).gain (fun s => s.movementSum k) seen = if p.key = k then p.quantityDelta else 0 := by
  rw [recordMovement_eq_steps hd] at hdone ⊢
  match seen with
  | [] => cases hdone
  | [_] => cases hdone
  | s₁ :: s₂ :: seen =>
    simp only [resume_step_cons, gain_step_cons, id, sub_self, zero_add] at hdone ⊢
    by_cases hb : (s₁.branches.lookup p.branchId).isNone = true
    · rw [if_pos hb] at hdone
      cases hdone
    by_cases hp : (s₂.products.lookup p.productId).isNone = true
    · rw [if_neg hb, if_pos hp] at hdone
      cases hdone
    · rw [if_neg hb, if_neg hp] at hdone ⊢
      cases seen with
      | nil => cases hdone
      | cons loaded seen =>
        obtain ⟨found, rest, rfl, hneg, herror, honHand, hsum⟩ :=
          gain_recordLoaded_of_done now p k hdone
        refine ⟨s₁, s₂, loaded, found, rest, rfl, hneg, ?_, ?_, ?_⟩
        · by_contra hcon
          push Not at hcon
          simp [saveError, hcon.1, hcon.2] at herror
        · rw [gain_step_cons, honHand, id, sub_self, zero_add]
        · rw [gain_step_cons, hsum, id, sub_self, zero_add]

end Gains

end InventoryLedger

/-! ### Any number of calls -/

section Calls

variable {ι : Type} [DecidableEq ι] (now : ι → Date) (p : ι → RecordMovementParams)

def movementCalls (i : ι) : InventoryProc MovementResult := recordMovement (now i) (p i) true

/-- The store from which a movement of something has loaded its row, when it has seen just enough to
save it: it has checked its branch, its product, and has loaded the row. -/
def loadedFrom : List InventoryStore → Option InventoryStore
  | [_, _, loaded] => some loaded
  | _ => none

/-- A call that has loaded its row from `loaded` now writes it to `found`: it moves something, does
not refuse, and does not insert a row that is there already. -/
def Writes (p : RecordMovementParams) (loaded found : InventoryStore) : Prop :=
  p.quantityDelta ≠ 0 ∧ 0 ≤ (loaded.row p.key).quantityOnHand + p.quantityDelta ∧
    (p.key ∈ loaded.inventory ∨ p.key ∉ found.inventory)
deriving Decidable

/-- If the next action of the call writes the row `k`, the row still has the quantity that the call
loaded. -/
def SavesFresh (k : InventoryKey) (P : Pool ι InventoryStore) (i : ι) : Prop :=
  (p i).key = k → ∀ loaded ∈ loadedFrom (P.seen i), Writes (p i) loaded P.store →
    (loaded.row k).quantityOnHand = (P.store.row k).quantityOnHand
deriving Decidable

/-- Every save so far of the row `k` found the quantity that its call had loaded. -/
def AllFresh (k : InventoryKey) (P : Pool ι InventoryStore) : Prop :=
  ∀ i, (p i).key = k → ∀ s₁ s₂ loaded found rest, P.seen i = s₁ :: s₂ :: loaded :: found :: rest →
    Writes (p i) loaded found → (loaded.row k).quantityOnHand = (found.row k).quantityOnHand

variable {k : InventoryKey} {P : Pool ι InventoryStore}

theorem AllFresh.step (h : AllFresh p k P) (i : ι)
    (hi : SavesFresh p k P i) : AllFresh p k (P.step (movementCalls now p) i) := by
  intro j hj s₁ s₂ loaded found rest hseen hwrites
  rcases P.seen_step (movementCalls now p) i j with hsame | ⟨rfl, hnew⟩
  · rw [hsame] at hseen
    exact h j hj s₁ s₂ loaded found rest hseen hwrites
  · rw [hnew] at hseen
    -- the store that was added is the one that the save found, or a later one
    rcases rest.eq_nil_or_concat with rfl | ⟨rest, last, rfl⟩
    · obtain ⟨hloads, hfound⟩ : P.seen j = [s₁, s₂, loaded] ∧ [P.store] = [found] :=
        List.append_inj' hseen rfl
      obtain rfl := List.head_eq_of_cons_eq hfound
      exact hi hj loaded (by rw [hloads]; rfl) hwrites
    · rw [List.concat_eq_append] at hseen
      obtain ⟨hearlier, -⟩ : P.seen j = s₁ :: s₂ :: loaded :: found :: rest ∧ [P.store] = [last] :=
        List.append_inj' hseen rfl
      exact h j hj s₁ s₂ loaded found rest hearlier hwrites

omit [DecidableEq ι] in
theorem gain_movementCalls (h : AllFresh p k P) (i : ι)
    (hrest : P.seen i = [] ∨ P.Succeeded (movementCalls now p) i ∨ P.Failed (movementCalls now p) i) :
    (movementCalls now p i).gain (fun s => (s.row k).quantityOnHand) (P.seen i) =
      (if (p i).key = k ∧ P.Succeeded (movementCalls now p) i then (p i).quantityDelta else 0) ∧
    (movementCalls now p i).gain (fun s => s.movementSum k) (P.seen i) =
      if (p i).key = k ∧ P.Succeeded (movementCalls now p) i then (p i).quantityDelta else 0 := by
  by_cases hd : (p i).quantityDelta = 0
  · have hprog : movementCalls now p i = recordNothing (p i) := if_pos hd
    rw [hd, ite_self, hprog]
    exact gain_recordNothing (p i) k (P.seen i)
  · by_cases hdone : P.Succeeded (movementCalls now p) i
    · obtain ⟨s₁, s₂, loaded, found, rest, hseen, hneg, hwrites, honHand, hsum⟩ :=
        gain_recordMovement_of_done (now i) (p i) k hdone hd
      refine ⟨honHand.trans ?_, hsum.trans ?_⟩
      · by_cases hk : (p i).key = k
        · rw [if_pos hk, if_pos ⟨hk, hdone⟩]
          subst hk
          have hfresh := h i rfl s₁ s₂ loaded found rest hseen ⟨hd, hneg, hwrites⟩
          omega
        · rw [if_neg hk, if_neg fun hboth => hk hboth.1]
      · by_cases hk : (p i).key = k
        · rw [if_pos hk, if_pos ⟨hk, hdone⟩]
        · rw [if_neg hk, if_neg fun hboth => hk hboth.1]
    · rw [if_neg fun hboth => hdone hboth.2]
      rcases hrest with hseen | hdone' | hfail
      · rw [hseen, gain_nil, gain_nil]
        exact ⟨rfl, rfl⟩
      · exact absurd hdone' hdone
      · exact gain_recordMovement_of_fail (now i) (p i) k hfail

/-- **No lost update**: in every interleaving of any number of calls in which each save of the row `k`
finds the quantity that its call loaded, whenever no call is under way the quantity on hand and the
stored movements of the row have both grown by the deltas of the successful calls on it; so a
quantity that was the sum of its movements still is. -/
theorem no_lost_update [Fintype ι] (s₀ : InventoryStore) (k : InventoryKey) (schedule : List ι)
    (hfresh : Run.Along (Pool.step (movementCalls now p)) (SavesFresh p k) (Pool.init s₀) schedule) :
    let P := Run.after (Pool.step (movementCalls now p)) (Pool.init s₀) schedule
    (∀ i, P.seen i = [] ∨ P.Succeeded (movementCalls now p) i ∨ P.Failed (movementCalls now p) i) →
    (P.store.row k).quantityOnHand = (s₀.row k).quantityOnHand +
      ∑ i with (p i).key = k ∧ P.Succeeded (movementCalls now p) i, (p i).quantityDelta ∧
    P.store.movementSum k = s₀.movementSum k +
      ∑ i with (p i).key = k ∧ P.Succeeded (movementCalls now p) i, (p i).quantityDelta ∧
    ((s₀.row k).quantityOnHand = s₀.movementSum k → (P.store.row k).quantityOnHand = P.store.movementSum k) := by
  intro P hrest
  have hall : AllFresh p k P := by
    refine Run.after_induction (P := AllFresh p k) (fun P i hP hi => hP.step now p i hi) ?_ hfresh
    intro i _ s₁ s₂ loaded found rest hseen
    cases hseen
  have hgain := fun i => gain_movementCalls now p hall i (hrest i)
  have honHand := Pool.measure_after (movementCalls now p) (fun s => (s.row k).quantityOnHand) s₀ schedule
  have hsum := Pool.measure_after (movementCalls now p) (fun s => s.movementSum k) s₀ schedule
  rw [Finset.sum_congr rfl fun i _ => (hgain i).1, ← Finset.sum_filter] at honHand
  rw [Finset.sum_congr rfl fun i _ => (hgain i).2, ← Finset.sum_filter] at hsum
  exact ⟨honHand, hsum, fun h => honHand.trans ((congrArg (· + _) h).trans hsum.symm)⟩

end Calls

def twoSales (_ : Fin 2) : RecordMovementParams := sampleMovement 1 .sale (-3)

/-- One after the other, the two sales leave four of ten. -/
theorem no_lost_update_serial :
    let schedule : List (Fin 2) := List.replicate 7 0 ++ List.replicate 7 1
    Run.Along (Pool.step (movementCalls (fun _ => 0) twoSales)) (SavesFresh twoSales ⟨1, 7⟩)
      (Pool.init tenOnHand) schedule ∧
    ((Run.after (Pool.step (movementCalls (fun _ => 0) twoSales)) (Pool.init tenOnHand)
      schedule).store.row ⟨1, 7⟩).quantityOnHand = 10 + ∑ _ : Fin 2, (-3) := by
  have hfresh : Run.Along (Pool.step (movementCalls (fun _ => 0) twoSales))
      (SavesFresh twoSales ⟨1, 7⟩) (Pool.init tenOnHand)
      (List.replicate 7 0 ++ List.replicate 7 1) := by decide
  refine ⟨hfresh, ?_⟩
  have h := no_lost_update (fun _ => 0) twoSales tenOnHand ⟨1, 7⟩ _ hfresh
    fun i => Or.inr (Or.inl (by revert i; decide))
  refine h.1.trans ?_
  decide

/-- Both sales load ten and both save seven: six were sold, three are missing from the row. -/
theorem lost_update :
    let P := Run.after (Pool.step (movementCalls (fun _ => 0) twoSales)) (Pool.init tenOnHand)
      (List.replicate 3 0 ++ List.replicate 3 1 ++ List.replicate 4 0 ++ List.replicate 4 1)
    (∀ i, P.Succeeded (movementCalls (fun _ => 0) twoSales) i) ∧
    (P.store.row ⟨1, 7⟩).quantityOnHand = 7 ∧ P.store.movementSum ⟨1, 7⟩ = 4 ∧
    (P.store.row ⟨1, 7⟩).quantityOnHand ≠ (tenOnHand.row ⟨1, 7⟩).quantityOnHand + ∑ i, (twoSales i).quantityDelta := by
  decide

end SuuqBackend
