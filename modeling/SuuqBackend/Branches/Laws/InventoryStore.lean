import SuuqBackend.Branches.InventoryStore

/-!
# Laws of the inventory tables

What each write of the tables changes and what it leaves alone: the simp set that later proofs use
in place of the definitions.

* `productTotal_putRow`: writing a row moves the total of its product by the difference of the new
  and the old row.
* `movementSum_addMovement`: the same for the movements of a row.
-/

namespace SuuqBackend.InventoryStore

variable (s : InventoryStore) (k k' : InventoryKey) (r r' : BranchInventory)

/-! ### Rows -/

@[simp] theorem inventory_putRow : (s.putRow k r).inventory = s.inventory.insert k r := rfl

@[simp] theorem row_putRow_self : (s.putRow k r).row k = r := by
  rw [row, inventory_putRow, Finmap.lookup_insert, Option.getD_some]

variable {k k'} in
theorem row_putRow_of_ne (h : k' ≠ k) : (s.putRow k r).row k' = s.row k' := by
  rw [row, row, inventory_putRow, Finmap.lookup_insert_of_ne _ h]

theorem putRow_putRow : (s.putRow k r).putRow k r' = s.putRow k r' := by
  have h : (s.inventory.insert k r).insert k r' = s.inventory.insert k r' :=
    Finmap.insert_insert ..
  unfold putRow
  rw [h]

variable {s k r} in
theorem row_of_lookup (h : s.inventory.lookup k = some r) : s.row k = r := by
  rw [row, h, Option.getD_some]

variable {s k} in
theorem row_of_notMem (h : k ∉ s.inventory) : s.row k = .zero := by
  rw [row, Finmap.lookup_eq_none.mpr h, Option.getD_none]

/-! ### Movements -/

variable (m : StockMovement)

@[simp] theorem movements_addMovement : (s.addMovement m).movements = s.movements ++ [m] := rfl

@[simp] theorem row_addMovement : (s.addMovement m).row k = s.row k := rfl

@[simp] theorem movementSum_putRow : (s.putRow k r).movementSum k' = s.movementSum k' := rfl

theorem movementSum_addMovement :
    (s.addMovement m).movementSum k = s.movementSum k + if m.key = k then m.quantityDelta else 0 := by
  unfold movementSum
  by_cases h : m.key = k
  · simp [h]
  · simp [h]

/-! ### The catalogue -/

variable (p q : ℕ) (v : ℤ)

@[simp] theorem inventory_setStockQuantity : (s.setStockQuantity p v).inventory = s.inventory := by
  unfold setStockQuantity
  split <;> rfl

@[simp] theorem branches_setStockQuantity : (s.setStockQuantity p v).branches = s.branches := by
  unfold setStockQuantity
  split <;> rfl

@[simp] theorem movements_setStockQuantity : (s.setStockQuantity p v).movements = s.movements := by
  unfold setStockQuantity
  split <;> rfl

theorem lookup_products_setStockQuantity :
    (s.setStockQuantity p v).products.lookup q =
      if q = p then (s.products.lookup p).map fun row => { row with stockQuantity := some v }
      else s.products.lookup q := by
  unfold setStockQuantity
  by_cases hq : q = p
  · subst hq
    rw [if_pos rfl]
    cases h : s.products.lookup q with
    | none => exact h
    | some row => exact Finmap.lookup_insert _
  · rw [if_neg hq]
    cases s.products.lookup p with
    | none => rfl
    | some row => exact Finmap.lookup_insert_of_ne _ hq

theorem mem_products_setStockQuantity : q ∈ (s.setStockQuantity p v).products ↔ q ∈ s.products := by
  rw [← Finmap.lookup_isSome, ← Finmap.lookup_isSome, lookup_products_setStockQuantity]
  by_cases hq : q = p
  · subst hq
    rw [if_pos rfl, Option.isSome_map]
  · rw [if_neg hq]

/-! ### Totals over the rows of a product -/

variable (f : BranchInventory → ℤ)

theorem rowsOfProduct_congr {s s' : InventoryStore} (h : s'.inventory = s.inventory) :
    s'.rowsOfProduct p = s.rowsOfProduct p := by
  rw [rowsOfProduct, rowsOfProduct, h]

theorem productTotal_congr {s s' : InventoryStore} (h : s'.inventory = s.inventory) :
    s'.productTotal p f = s.productTotal p f := by
  rw [productTotal, productTotal, rowsOfProduct_congr p h]

theorem productTotal_eq_total :
    s.productTotal p f = s.inventory.total fun k r => if k.productId = p then f r else 0 := by
  rw [productTotal, rowsOfProduct, Table.total]
  generalize s.inventory.entries = entries
  induction entries using Multiset.induction with
  | empty => rfl
  | cons e entries ih =>
    rw [Multiset.map_cons, Multiset.sum_cons, ← ih]
    by_cases he : e.1.productId = p
    · simp [he]
    · simp [he]

theorem productTotal_putRow (hf : f .zero = 0) :
    (s.putRow k r).productTotal p f = s.productTotal p f + if k.productId = p then f r - f (s.row k) else 0 := by
  rw [productTotal_eq_total, productTotal_eq_total, inventory_putRow, Table.total_insert]
  have hold : (s.inventory.lookup k).elim 0 f = f (s.row k) := by
    unfold row
    cases s.inventory.lookup k with
    | none => exact hf.symm
    | some r => rfl
  by_cases hp : k.productId = p
  · simp only [if_pos hp, hold]
    omega
  · have hzero : (s.inventory.lookup k).elim 0 (fun _ : BranchInventory => (0 : ℤ)) = 0 := by
      cases s.inventory.lookup k <;> rfl
    simp only [if_neg hp, hzero]
    omega

theorem card_rowsOfProduct_eq_zero : (s.rowsOfProduct p).card = 0 ↔ ¬ s.HasRows p := by
  rw [rowsOfProduct, Multiset.card_map, Multiset.card_eq_zero, Multiset.filter_eq_nil]
  constructor
  · rintro h ⟨b, hb⟩
    obtain ⟨r, hr⟩ := Finmap.mem_iff.mp hb
    exact h ⟨⟨b, p⟩, r⟩ (Finmap.lookup_eq_some_iff.mp hr) rfl
  · rintro h ⟨⟨b, p'⟩, r⟩ he hp
    have hp : p' = p := hp
    subst hp
    exact h ⟨b, Finmap.mem_of_lookup_eq_some (Finmap.lookup_eq_some_iff.mpr he)⟩

theorem hasRows_putRow : (s.putRow k r).HasRows p ↔ k.productId = p ∨ s.HasRows p := by
  simp only [HasRows, inventory_putRow, Finmap.mem_insert]
  constructor
  · rintro ⟨b, rfl | h⟩
    · exact Or.inl rfl
    · exact Or.inr ⟨b, h⟩
  · rintro (rfl | ⟨b, h⟩)
    · exact ⟨k.branchId, Or.inl rfl⟩
    · exact ⟨b, Or.inr h⟩

theorem hasRows_congr {s s' : InventoryStore} (h : s'.inventory = s.inventory) : s'.HasRows p ↔ s.HasRows p := by
  rw [HasRows, HasRows, h]

end SuuqBackend.InventoryStore
