import SuuqBackend.Branches.Laws.VariantRollup
import SuuqBackend.Lib.Interleave
import SuuqBackend.PosSync.Laws.CheckoutLedger

/-!
# Ingesting checkouts

`ingest` stores the row of a checkout first, and then moves the stock of its lines in one transaction,
so that the row tells how it went: a checkout that is `FAILED` has moved nothing, however many of its
lines went through before one of them threw, and one that is `PROCESSED` has moved each of its lines.
-/

namespace SuuqBackend

open Proc InventoryLedger InventoryRepository PosCheckouts PosCheckoutRepository SerialTable

namespace InventoryStore

variable (s : InventoryStore)

/-- Whether sales draw on the stock of the product. -/
def managesStock (productId : ℕ) : Bool :=
  ((s.products.lookup productId).map Product.manageStock).getD false

@[simp] theorem managesStock_syncProduct (p q : ℕ) :
    (s.syncProduct p).managesStock q = s.managesStock q := by
  unfold syncProduct
  split_ifs
  · rfl
  · unfold managesStock
    rw [lookup_products_setStockQuantity]
    by_cases hq : q = p
    · rw [if_pos hq, hq]
      cases s.products.lookup p <;> rfl
    · rw [if_neg hq]

variable (now : Date) (p : RecordMovementParams)

@[simp] theorem managesStock_recorded (q : ℕ) : (recorded now p s).managesStock q = s.managesStock q :=
  managesStock_syncProduct _ _ _

@[simp] theorem branches_recorded : (recorded now p s).branches = s.branches :=
  branches_syncProduct _ _

end InventoryStore

namespace PosCheckouts

/-! ### What a line leads to -/

section Lines

variable (env : PosCheckoutRuntime) (dto : IngestPosCheckoutDto)

/-- The product whose stock the line moves, with the line: that of a variant, or one that manages its
stock. -/
def stockLine (S : PosCheckoutStore) (item : PosCheckoutItemDto) : Option (ℕ × PosCheckoutItemDto) :=
  match ((resolveProductId env dto item).run S).1 with
  | .error _ => none
  | .ok productId =>
    match ((resolveCheckoutVariantId productId item.metadata).run S).1 with
    | .ok (some _) => some (productId, item)
    | _ => if S.variant.inventory.managesStock productId then some (productId, item) else none

def stockLines (S : PosCheckoutStore) (items : List PosCheckoutItemDto) :
    List (ℕ × PosCheckoutItemDto) :=
  items.filterMap (stockLine env dto S)

/-- The movement is that of the line: minus the quantity of a sale, plus that of a return. -/
structure IsMovementOf (id : ℕ) (line : ℕ × PosCheckoutItemDto) (m : StockMovement) : Prop where
  branchId_eq : m.branchId = dto.branchId
  productId_eq : m.productId = line.1
  quantityDelta_eq : (m.quantityDelta : ℚ) =
    if dto.transactionType = .sale then -line.2.quantity else line.2.quantity
  source_eq : m.sourceType = "POS_CHECKOUT" ∧ m.sourceReferenceId = some id

/-- The stock has moved by these movements, and nothing else has changed. -/
structure Moved (S S' : PosCheckoutStore) (movements : List StockMovement) : Prop where
  others_eq : S' = { S with variant := S'.variant }
  branches_eq : S'.variant.inventory.branches = S.variant.inventory.branches
  managesStock_eq : S'.variant.inventory.managesStock = S.variant.inventory.managesStock
  movements_eq : S'.variant.inventory.movements = S.variant.inventory.movements ++ movements
  onHandAt_eq : S'.variant.inventory.onHandAt = S.variant.inventory.onHandAt +
    (movements.map fun m => atKey m.key m.quantityDelta).sum

namespace Moved

variable {S S' S'' : PosCheckoutStore} {movements movements' : List StockMovement}

theorem refl (S : PosCheckoutStore) : Moved S S [] where
  others_eq := rfl
  branches_eq := rfl
  managesStock_eq := rfl
  movements_eq := (List.append_nil _).symm
  onHandAt_eq := (add_zero _).symm

theorem trans (h : Moved S S' movements) (h' : Moved S' S'' movements') :
    Moved S S'' (movements ++ movements') where
  others_eq := by
    rw [h'.others_eq, h.others_eq]
  branches_eq := h'.branches_eq.trans h.branches_eq
  managesStock_eq := h'.managesStock_eq.trans h.managesStock_eq
  movements_eq := by rw [h'.movements_eq, h.movements_eq, List.append_assoc]
  onHandAt_eq := by
    rw [h'.onHandAt_eq, h.onHandAt_eq, List.map_append, List.sum_append, add_assoc]

theorem of_recordMovement {now : Date} {p : RecordMovementParams} {m : MovementResult}
    {s' : InventoryStore} {variants : Table VariantKey BranchInventoryVariant}
    (hd : p.quantityDelta ≠ 0)
    (h : (recordMovement now p true).run S.variant.inventory = (.ok m, s')) :
    Moved S { S with variant := { S.variant with inventory := s', variants } } [p.movement] := by
  have hmoves := recordMovement_moves hd h
  have hrecorded : s' = recorded now p S.variant.inventory := by
    rcases recordMovement_eq_ok h with ⟨hzero, -⟩ | ⟨hzero, -⟩ | ⟨-, -, -, heq⟩
    · exact absurd hzero hd
    · exact absurd hzero hd
    · exact heq
  refine ⟨rfl, ?_, ?_, hmoves.movements_eq, ?_⟩
  · rw [hrecorded, InventoryStore.branches_recorded]
  · ext q
    rw [hrecorded, InventoryStore.managesStock_recorded]
  · rw [List.map_singleton, List.sum_singleton]
    exact hmoves.onHandAt_eq

end Moved

/-! ### Resolving a line -/

theorem onlyReads_resolveProductId (item : PosCheckoutItemDto) :
    OnlyReads (resolveProductId env dto item) := by
  unfold resolveProductId
  split
  · exact onlyReads_pure _
  · refine (onlyReads_read _).bind fun resolved => ?_
    rcases resolved with e | _ | productId
    · exact onlyReads_throw _
    · exact onlyReads_throw _
    · exact onlyReads_pure _
  · exact onlyReads_throw _

variable (productId : ℕ)

theorem onlyReads_findVariantById (rawId : Option ℚ) :
    OnlyReads (findVariantById productId rawId) := by
  unfold findVariantById
  split
  · exact onlyReads_pure _
  · exact (onlyReads_throwIf _ _).bind fun _ => onlyReads_read _

theorem onlyReads_findVariantByKey (variantKey : Option String) :
    OnlyReads (findVariantByKey productId variantKey) := by
  unfold findVariantByKey
  split
  · exact onlyReads_pure _
  · exact onlyReads_read _

theorem onlyReads_resolveCheckoutVariantId (metadata : Option PosCheckoutItemMetadata) :
    OnlyReads (resolveCheckoutVariantId productId metadata) := by
  cases metadata with
  | none => exact onlyReads_pure _
  | some metadata =>
    refine (onlyReads_findVariantById _ _).bind fun byId => ?_
    cases byId with
    | none => exact (onlyReads_findVariantByKey _ _).bind fun _ => onlyReads_pure _
    | some byId => exact onlyReads_pure _

theorem run_managesStock (S : PosCheckoutStore) :
    (managesStock productId).run S = (.ok (S.variant.inventory.managesStock productId), S) := rfl

/-- What the lines of a checkout are resolved from is the same. -/
structure SameCatalogue (S S' : PosCheckoutStore) : Prop where
  branches_eq : S'.variant.inventory.branches = S.variant.inventory.branches
  managesStock_eq : S'.variant.inventory.managesStock = S.variant.inventory.managesStock
  productAliases_eq : S'.productAliases = S.productAliases
  catalogueVariants_eq : S'.catalogueVariants = S.catalogueVariants

variable {S S' : PosCheckoutStore}

theorem Moved.sameCatalogue {movements : List StockMovement} (h : Moved S S' movements) :
    SameCatalogue S S' where
  branches_eq := h.branches_eq
  managesStock_eq := h.managesStock_eq
  productAliases_eq := by rw [h.others_eq]
  catalogueVariants_eq := by rw [h.others_eq]

theorem fst_run_resolveProductId_congr (h : SameCatalogue S S') (item : PosCheckoutItemDto) :
    ((resolveProductId env dto item).run S').1 = ((resolveProductId env dto item).run S).1 := by
  unfold resolveProductId
  split
  · rfl
  · apply (readOnly_read _).fst_run_bind_congr
    · rw [run_read, run_read, h.branches_eq, h.productAliases_eq]
    · rintro (e | _ | productId) <;> rfl
  · rfl

theorem fst_run_resolveCheckoutVariantId_congr (h : SameCatalogue S S') (productId : ℕ)
    (metadata : Option PosCheckoutItemMetadata) :
    ((resolveCheckoutVariantId productId metadata).run S').1 =
      ((resolveCheckoutVariantId productId metadata).run S).1 := by
  cases metadata with
  | none => rfl
  | some metadata =>
    apply (onlyReads_findVariantById _ _).readOnly.fst_run_bind_congr
    · unfold findVariantById
      split
      · rfl
      · apply (readOnly_throwIf _ _).fst_run_bind_congr
        · rw [run_throwIf, run_throwIf]
        · intro _
          rw [run_read, run_read, h.catalogueVariants_eq]
    · rintro (_ | byId)
      · apply (onlyReads_findVariantByKey _ _).readOnly.fst_run_bind_congr
        · unfold findVariantByKey
          split
          · rfl
          · rw [run_read, run_read, h.catalogueVariants_eq]
        · exact fun _ => rfl
      · rfl

theorem stockLines_congr (h : SameCatalogue S S') (items : List PosCheckoutItemDto) :
    stockLines env dto S' items = stockLines env dto S items := by
  have hline : stockLine env dto S' = stockLine env dto S := by
    funext item
    unfold stockLine
    rw [fst_run_resolveProductId_congr env dto h]
    simp only [fst_run_resolveCheckoutVariantId_congr h, h.managesStock_eq]
  unfold stockLines
  rw [hline]

end Lines

/-! ### Moving the stock of a line -/

section Items

variable {env : PosCheckoutRuntime} {dto : IngestPosCheckoutDto} {item : PosCheckoutItemDto}
  {id : ℕ} {occurredAt : Date} {actorId : Option ℕ} {S S' : PosCheckoutStore}

theorem cast_of_whole {q : ℚ} {n : ℤ} (h : whole q = some n) : (n : ℚ) = q := by
  unfold whole at h
  split_ifs at h with hden
  cases h
  exact Rat.coe_int_num_of_den_eq_one hden

theorem item_quantity_pos (item : PosCheckoutItemDto) : 0 < item.quantity :=
  lt_of_lt_of_le (by norm_num) item.quantity_min

theorem quantityDelta_eq : quantityDelta dto item =
    if dto.transactionType = .sale then -item.quantity else item.quantity := by
  unfold quantityDelta
  rw [abs_of_pos (item_quantity_pos item)]

theorem quantityDelta_ne_zero : quantityDelta dto item ≠ 0 := by
  have hpos := item_quantity_pos item
  rw [quantityDelta_eq]
  split_ifs
  · exact neg_ne_zero.mpr hpos.ne'
  · exact hpos.ne'

theorem ne_zero_of_whole {n : ℤ} (h : whole (quantityDelta dto item) = some n) : n ≠ 0 := by
  have hcast := cast_of_whole h
  have hne := @quantityDelta_ne_zero dto item
  rintro rfl
  exact hne (by rw [← hcast, Int.cast_zero])

variable {now : Date}

theorem recordMovementOf_eq_ok {p : RecordMovementParams} {d : ℚ} {s s' : InventoryStore}
    (h : (recordMovementOf now p d).run s = (.ok (), s')) :
    ∃ n, whole d = some n ∧
      ∃ m, (recordMovement now { p with quantityDelta := n } true).run s = (.ok m, s') := by
  unfold recordMovementOf at h
  cases hwhole : whole d with
  | some n =>
    rw [hwhole] at h
    obtain ⟨m, s₁, hrecord, hrest⟩ := run_bind_eq_ok.mp h
    cases hrest
    exact ⟨n, rfl, m, hrecord⟩
  | none =>
    -- the columns of integers refuse it in the end
    rw [hwhole] at h
    obtain ⟨_, s₁, -, h⟩ := run_bind_eq_ok.mp h
    obtain ⟨_, s₂, -, h⟩ := run_bind_eq_ok.mp h
    obtain ⟨_, s₃, -, h⟩ := run_bind_eq_ok.mp h
    cases h

theorem recordVariantMovementOf_eq_ok {p : RecordVariantMovementParams} {d : ℚ}
    {V V' : VariantStore} (h : (recordVariantMovementOf now p d).run V = (.ok (), V')) :
    ∃ n, whole d = some n ∧ ∃ a,
      (VariantInventory.recordVariantMovementWithin now { p with quantityDelta := n }).run V =
        (.ok a, V') := by
  unfold recordVariantMovementOf at h
  cases hwhole : whole d with
  | some n =>
    rw [hwhole] at h
    obtain ⟨a, V₁, hrecord, hrest⟩ := run_bind_eq_ok.mp h
    cases hrest
    exact ⟨n, rfl, a, hrecord⟩
  | none =>
    rw [hwhole] at h
    obtain ⟨_, V₁, -, h⟩ := run_bind_eq_ok.mp h
    obtain ⟨_, V₂, -, h⟩ := run_bind_eq_ok.mp h
    cases h

theorem variantLine_eq_ok {productId variantId : ℕ} (h : (onVariants (recordVariantMovementOf now
      (variantMovement dto item id occurredAt actorId productId variantId)
      (quantityDelta dto item))).run S = (.ok (), S')) :
    ∃ m, Moved S S' [m] ∧ IsMovementOf dto id (productId, item) m := by
  obtain ⟨V', hrun, rfl⟩ := run_zoom_eq.mp h
  obtain ⟨n, hwhole, a, hmove⟩ := recordVariantMovementOf_eq_ok hrun
  have hn := ne_zero_of_whole hwhole
  obtain ⟨-, -, s', rfl, hledger⟩ := recordVariantMovementWithin_eq_ok hmove
  rcases hledger with ⟨hzero, -⟩ | ⟨-, m, hrecord⟩
  · exact absurd hzero hn
  · refine ⟨_, Moved.of_recordMovement hn hrecord, rfl, rfl, ?_, rfl, rfl⟩
    rw [← quantityDelta_eq]
    exact cast_of_whole hwhole

theorem productLine_eq_ok {productId : ℕ} (h : (onInventory (recordMovementOf now
      (productMovement dto item id occurredAt actorId productId) (quantityDelta dto item))).run S =
        (.ok (), S')) :
    ∃ m, Moved S S' [m] ∧ IsMovementOf dto id (productId, item) m := by
  obtain ⟨V', hledger, rfl⟩ := run_zoom_eq.mp h
  obtain ⟨s', hmove, rfl⟩ := run_zoom_eq.mp hledger
  obtain ⟨n, hwhole, m, hrecord⟩ := recordMovementOf_eq_ok hmove
  refine ⟨_, Moved.of_recordMovement (ne_zero_of_whole hwhole) hrecord, rfl, rfl, ?_, rfl, rfl⟩
  rw [← quantityDelta_eq]
  exact cast_of_whole hwhole

/-- **What a line moves**: one movement if it is stock-managed, and nothing otherwise. -/
theorem processItem_eq_ok
    (h : (processItem env dto item id occurredAt actorId).run S = (.ok (), S')) :
    ∃ movements, Moved S S' movements ∧
      List.Forall₂ (IsMovementOf dto id) (stockLine env dto S item).toList movements := by
  obtain ⟨productId, S₁, hproduct, hresolved⟩ := run_bind_eq_ok.mp h
  rw [(onlyReads_resolveProductId env dto item).readOnly.eq_of_run hproduct] at hresolved
  obtain ⟨variantId, S₂, hvariant, hmove⟩ := run_bind_eq_ok.mp hresolved
  rw [(onlyReads_resolveCheckoutVariantId productId item.metadata).readOnly.eq_of_run hvariant] at hmove
  unfold stockLine
  rw [hproduct]
  dsimp only
  rw [hvariant]
  cases variantId with
  | some variantId =>
    obtain ⟨m, hmoved, hline⟩ := variantLine_eq_ok hmove
    exact ⟨[m], hmoved, .cons hline .nil⟩
  | none =>
    rw [run_bind_of_ok (run_managesStock productId S)] at hmove
    by_cases hmanaged : S.variant.inventory.managesStock productId = true
    · rw [if_pos hmanaged] at hmove ⊢
      obtain ⟨m, hmoved, hline⟩ := productLine_eq_ok hmove
      exact ⟨[m], hmoved, .cons hline .nil⟩
    · -- a product that is always available
      rw [if_neg hmanaged] at hmove ⊢
      cases hmove
      exact ⟨[], Moved.refl S, .nil⟩

/-- **What the loop moves**: one movement for each stock-managed line. -/
theorem forEach_processItem_eq_ok (items : List PosCheckoutItemDto)
    (h : (Proc.forEach items fun item => processItem env dto item id occurredAt actorId).run S =
      (.ok (), S')) :
    ∃ movements, Moved S S' movements ∧
      List.Forall₂ (IsMovementOf dto id) (stockLines env dto S items) movements := by
  have hall : ∀ (items : List PosCheckoutItemDto) (S S' : PosCheckoutStore),
      (Proc.forEach items fun item => processItem env dto item id occurredAt actorId).run S =
        (.ok (), S') →
      ∃ movements, Moved S S' movements ∧
        List.Forall₂ (IsMovementOf dto id) (stockLines env dto S items) movements := by
    apply forEach_induction
    · intro S
      exact ⟨[], Moved.refl S, .nil⟩
    · rintro item items S S₁ S₂ hitem ⟨movements', hmoved', hlines'⟩
      obtain ⟨movements, hmoved, hlines⟩ := processItem_eq_ok hitem
      refine ⟨movements ++ movements', hmoved.trans hmoved', ?_⟩
      rw [stockLines_congr env dto hmoved.sameCatalogue] at hlines'
      have hcons : stockLines env dto S (item :: items) =
          (stockLine env dto S item).toList ++ stockLines env dto S items := by
        unfold stockLines
        rw [List.filterMap_cons]
        cases stockLine env dto S item <;> rfl
      rw [hcons]
      exact List.rel_append hlines hlines'
  exact hall items S S' h

end Items

/-! ### The transaction -/

variable (dto : IngestPosCheckoutDto)

theorem onlyReads_assertRegisterSession :
    OnlyReads (assertRegisterSession dto) := by
  unfold assertRegisterSession
  cases dto.registerSessionId with
  | none => exact onlyReads_pure _
  | some id =>
    refine (onlyReads_read _).bind fun session => ?_
    cases session with
    | none => exact onlyReads_throw _
    | some session =>
      exact (onlyReads_throwIf _ _).bind fun _ => (onlyReads_throwIf _ _).bind fun _ =>
        (onlyReads_throwIf _ _).bind fun _ => onlyReads_pure _

theorem onlyReads_assertSuspendedCart (registerSession : Option (ℕ × PosRegisterSession)) :
    OnlyReads (assertSuspendedCart dto registerSession) := by
  unfold assertSuspendedCart
  cases dto.suspendedCartId with
  | none => exact onlyReads_pure _
  | some id =>
    refine (onlyReads_throwIf _ _).bind fun _ => (onlyReads_read _).bind fun cart => ?_
    cases cart with
    | none => exact onlyReads_throw _
    | some cart =>
      exact (onlyReads_throwIf _ _).bind fun _ => (onlyReads_throwIf _ _).bind fun _ =>
        (onlyReads_throwIf _ _).bind fun _ => (onlyReads_throwIf _ _).bind fun _ => onlyReads_pure _

theorem onlyReads_assertReturnSourceSaleProcessed :
    OnlyReads (assertReturnSourceSaleProcessed dto) := by
  unfold assertReturnSourceSaleProcessed
  split
  · refine (onlyReads_read _).bind fun processed => OnlyReads.ite ?_ (onlyReads_pure _)
    refine (onlyReads_read _).bind fun source => ?_
    cases source with
    | none => exact onlyReads_throw _
    | some source => exact onlyReads_throw _
  · exact onlyReads_pure _

theorem onlyReads_assertSources : OnlyReads (assertSources dto) :=
  (onlyReads_assertRegisterSession dto).bind fun registerSession =>
    (onlyReads_assertSuspendedCart dto registerSession).bind fun _ =>
      (onlyReads_assertReturnSourceSaleProcessed dto).bind fun _ => onlyReads_pure _

/-- The columns that the unique indexes are on are the same. -/
structure SameKeys (checkout checkout' : PosCheckout) : Prop where
  branchId_eq : checkout'.branchId = checkout.branchId
  idempotencyKey_eq : checkout'.idempotencyKey = checkout.idempotencyKey
  externalCheckoutId_eq : checkout'.externalCheckoutId = checkout.externalCheckoutId

section Transaction

variable {env : PosCheckoutRuntime} {dto : IngestPosCheckoutDto} {actor : PosActor} {id : ℕ}
  {checkout : PosCheckout} {S S' : PosCheckoutStore}

/-- What the transaction has done when it succeeds: the lines are moved, the cart is consumed, and the
checkout is stored. -/
theorem processCheckout_eq_ok {suspendedCart : Option (ℕ × PosSuspendedCart)}
    (h : (processCheckout env dto actor id checkout suspendedCart).run S = (.ok (), S')) :
    ∃ S₁ movements suspendedCarts, Moved S S₁ movements ∧
      List.Forall₂ (IsMovementOf dto id) (stockLines env dto S dto.items) movements ∧
      S' = { S₁ with
        suspendedCarts
        checkouts := S.checkouts.set id (processedCheckout env.now checkout) } := by
  obtain ⟨_, S₁, hloop, hrest⟩ := run_bind_eq_ok.mp h
  obtain ⟨movements, hmoved, hlines⟩ := forEach_processItem_eq_ok dto.items hloop
  have hcheckouts : S₁.checkouts = S.checkouts := by rw [hmoved.others_eq]
  cases suspendedCart with
  | none =>
    cases hrest
    refine ⟨S₁, movements, S₁.suspendedCarts, hmoved, hlines, ?_⟩
    rw [← hcheckouts]
  | some cart =>
    cases hrest
    refine ⟨S₁, movements, S₁.suspendedCarts.insert cart.1 (resumedCart actor env.now id cart.2),
      hmoved, hlines, ?_⟩
    rw [← hcheckouts]

theorem linkedCheckout_sameKeys (registerSession : Option (ℕ × PosRegisterSession))
    (suspendedCart : Option (ℕ × PosSuspendedCart)) :
    SameKeys checkout (linkedCheckout checkout registerSession suspendedCart) :=
  ⟨rfl, rfl, rfl⟩

/-- The transaction fails with the checkout as it is in memory, or it has done the following. -/
theorem run_ingestWithin (env : PosCheckoutRuntime) (dto : IngestPosCheckoutDto) (actor : PosActor)
    (id : ℕ) (checkout : PosCheckout) (S : PosCheckoutStore) :
    (∃ e checkout' S', (ingestWithin env dto actor id checkout).run S = (.error (e, checkout'), S') ∧
      SameKeys checkout checkout') ∨
    ∃ registerSession suspendedCart S₁ movements suspendedCarts, Moved S S₁ movements ∧
      List.Forall₂ (IsMovementOf dto id) (stockLines env dto S dto.items) movements ∧
      (ingestWithin env dto actor id checkout).run S = (.ok (), { S₁ with
        suspendedCarts
        checkouts := S.checkouts.set id
          (processedCheckout env.now (linkedCheckout checkout registerSession suspendedCart)) }) := by
  unfold ingestWithin
  rcases hsources : (assertSources dto).run S with ⟨e | ⟨registerSession, suspendedCart⟩, S₀⟩
  · -- a check fails before anything is known of the session
    refine .inl ⟨e, checkout, S₀, ?_, rfl, rfl, rfl⟩
    have hmap := run_mapError (fun e : HttpException => (e, checkout)) (assertSources dto) S
    rw [hsources] at hmap
    exact run_bind_of_error hmap _
  · have hS := (onlyReads_assertSources dto).readOnly.eq_of_run hsources
    rw [hS] at hsources
    have hmap : run (mapError (fun e : HttpException => (e, checkout)) (assertSources dto)) S =
        (.ok (registerSession, suspendedCart), S) := run_mapError_eq_ok.mpr hsources
    rw [run_bind_of_ok hmap]
    have hkeys := @linkedCheckout_sameKeys checkout registerSession suspendedCart
    rcases hprocess : (processCheckout env dto actor id
        (linkedCheckout checkout registerSession suspendedCart) suspendedCart).run S with ⟨e | _, S'⟩
    · refine .inl ⟨e, _, S', ?_, hkeys⟩
      rw [run_mapError, hprocess]
      rfl
    · obtain ⟨S₁, movements, suspendedCarts, hmoved, hlines, rfl⟩ := processCheckout_eq_ok hprocess
      exact .inr ⟨registerSession, suspendedCart, S₁, movements, suspendedCarts, hmoved, hlines,
        run_mapError_eq_ok.mpr hprocess⟩

end Transaction

/-! ### A call -/

theorem onlyReads_findOneById (id : ℕ) : OnlyReads (findOneById id) := by
  refine (onlyReads_read _).bind fun checkout => ?_
  cases checkout with
  | none => exact onlyReads_throw _
  | some checkout => exact onlyReads_pure _

theorem run_findOneById {S : PosCheckoutStore} {id : ℕ} {checkout : PosCheckout}
    (h : S.checkouts.find id = some checkout) : (findOneById id).run S = (.ok (id, checkout), S) := by
  unfold findOneById findCheckout
  rw [run_read_bind, h]
  rfl

theorem postCheckoutToLedger_writes (env : PosCheckoutRuntime) (id : ℕ) (checkout : PosCheckout)
    (S : PosCheckoutStore) :
    ∃ journal, ((postCheckoutToLedger env id checkout).run S).2 = { S with journal } := by
  by_cases haccepts : ∃ fc, checkout.metadata.financialClassification = some fc ∧
      LedgerAccepts env id checkout fc
  · obtain ⟨fc, hfc, haccepts⟩ := haccepts
    exact ⟨_, congrArg Prod.snd (run_postCheckoutToLedger hfc haccepts S)⟩
  · exact ⟨S.journal,
      run_postCheckoutToLedger_of_not (fun fc hfc hledger => haccepts ⟨fc, hfc, hledger⟩) S⟩

/-- The call has stored `row` as failed, and nothing else has changed. -/
structure Fails (S S' : PosCheckoutStore) (row : PosCheckout) : Prop where
  status_eq : row.status = .failed
  store_eq : S' = { S with checkouts := S.checkouts.add row }

/-- The call has stored `row` as processed: each stock-managed line has one movement, in their order,
there are no others, and the quantities on hand have moved by these. -/
structure Processes (env : PosCheckoutRuntime) (dto : IngestPosCheckoutDto) (S S' : PosCheckoutStore)
    (row : PosCheckout) : Prop where
  status_eq : row.status = .processed
  checkouts_eq : S'.checkouts = S.checkouts.add row
  moved : ∃ movements,
    List.Forall₂ (IsMovementOf dto S.checkouts.next) (stockLines env dto S dto.items) movements ∧
    S'.variant.inventory.movements = S.variant.inventory.movements ++ movements ∧
    S'.variant.inventory.onHandAt = S.variant.inventory.onHandAt +
      (movements.map fun m => atKey m.key m.quantityDelta).sum

/-- What the call has stored of the checkout, and what its posting has left of the journal. -/
structure Posts (env : PosCheckoutRuntime) (checkout : PosCheckout) (S S' : PosCheckoutStore) (row : PosCheckout) :
    Prop where
  row_eq : ∃ registerSession suspendedCart,
    row = processedCheckout env.now (linkedCheckout checkout registerSession suspendedCart)
  journal_eq : S'.journal = ((postCheckoutToLedger env S.checkouts.next row).run S).2.journal

section Call

variable (env : PosCheckoutRuntime) (dto : IngestPosCheckoutDto) (actor : PosActor)
  (S : PosCheckoutStore)

variable {T : PosCheckoutStore}

theorem journal_postCheckoutToLedger_congr {S : PosCheckoutStore} (id : ℕ) (row : PosCheckout)
    (hjournal : T.journal = S.journal) (horders : T.orders = S.orders) (hcosts : T.costPrices = S.costPrices) :
    ((postCheckoutToLedger env id row).run T).2.journal = ((postCheckoutToLedger env id row).run S).2.journal := by
  by_cases haccepts : ∃ fc, row.metadata.financialClassification = some fc ∧ LedgerAccepts env id row fc
  · obtain ⟨fc, hfc, haccepts⟩ := haccepts
    rw [run_postCheckoutToLedger hfc haccepts, run_postCheckoutToLedger hfc haccepts]
    have hrelieves : RelievesInventory env row fc T ↔ RelievesInventory env row fc S := by
      unfold RelievesInventory
      rw [horders, hcosts]
    by_cases h : RelievesInventory env row fc S
    · rw [journalWith_of_relieves h, journalWith_of_relieves (hrelieves.mpr h), hjournal, horders, hcosts]
    · rw [journalWith_of_not h, journalWith_of_not (mt hrelieves.mp h), hjournal]
  · have hnot : ∀ fc, row.metadata.financialClassification = some fc → ¬ LedgerAccepts env id row fc :=
      fun fc hfc hledger => haccepts ⟨fc, hfc, hledger⟩
    rw [run_postCheckoutToLedger_of_not hnot, run_postCheckoutToLedger_of_not hnot, hjournal]

theorem snd_run_processNew_of_ok {checkout row : PosCheckout} {id : ℕ}
    (hrun : (ingestWithin env dto actor id checkout).run S = (.ok (), T)) (hfind : T.checkouts.find id = some row) :
    ((processNew env dto actor id checkout).run S).2 = ((postCheckoutToLedger env id row).run T).2 := by
  unfold processNew
  rw [run_bind, run_attempt, run_transaction_of_ok hrun]
  dsimp only
  rw [run_bind_of_ok (run_findOneById hfind), run_bind, run_attempt]
  rfl

/-- The transaction is rolled back before the row is saved. -/
theorem snd_run_processNew_of_error {checkout checkout' : PosCheckout} {e : HttpException}
    (hrun : (ingestWithin env dto actor S.checkouts.next checkout).run
      { S with checkouts := S.checkouts.add checkout } = (.error (e, checkout'), T)) :
    ((processNew env dto actor S.checkouts.next checkout).run { S with checkouts := S.checkouts.add checkout }).2 =
      { S with checkouts := S.checkouts.add (failedCheckout env.now checkout' e) } := by
  rw [← set_add_next S.checkouts checkout (failedCheckout env.now checkout' e)]
  unfold processNew saveCheckout
  rw [run_bind, run_attempt, run_transaction_of_error hrun]
  cases e with
  | badRequest message => exact (onlyReads_findOneById _).readOnly _
  | notFound message => exact (onlyReads_findOneById _).readOnly _
  | _ => rfl

theorem processNew_cases (checkout : PosCheckout) :
    let S' := ((processNew env dto actor S.checkouts.next checkout).run
      { S with checkouts := S.checkouts.add checkout }).2
    ∃ row, SameKeys checkout row ∧
      (Fails S S' row ∨ Processes env dto S S' row ∧ Posts env checkout S S' row) := by
  intro S'
  have hset : ∀ row, (S.checkouts.add checkout).set S.checkouts.next row = S.checkouts.add row :=
    set_add_next S.checkouts checkout
  rcases run_ingestWithin env dto actor S.checkouts.next checkout
      { S with checkouts := S.checkouts.add checkout } with
    ⟨e, checkout', T, hrun, hkeys⟩ | ⟨registerSession, suspendedCart, S₁, movements, carts, hmoved, hlines, hrun⟩
  · exact ⟨failedCheckout env.now checkout' e, ⟨hkeys.1, hkeys.2, hkeys.3⟩,
      .inl ⟨rfl, snd_run_processNew_of_error env dto actor S hrun⟩⟩
  · set row := processedCheckout env.now (linkedCheckout checkout registerSession suspendedCart) with hrow
    refine ⟨row, ⟨rfl, rfl, rfl⟩, .inr ?_⟩
    have hfind : ((S.checkouts.add checkout).set S.checkouts.next row).find S.checkouts.next = some row := by
      rw [hset, find_add_self]
    set T : PosCheckoutStore :=
      { S₁ with suspendedCarts := carts, checkouts := (S.checkouts.add checkout).set S.checkouts.next row } with hT
    have hS' : S' = ((postCheckoutToLedger env S.checkouts.next row).run T).2 :=
      snd_run_processNew_of_ok env dto actor _ hrun hfind
    obtain ⟨journal, hledger⟩ := postCheckoutToLedger_writes env S.checkouts.next row T
    have hcatalogue : SameCatalogue S { S with checkouts := S.checkouts.add checkout } :=
      ⟨rfl, rfl, rfl, rfl⟩
    rw [stockLines_congr env dto hcatalogue] at hlines
    have hothers := hmoved.others_eq
    refine ⟨⟨rfl, ?_, movements, hlines, ?_, ?_⟩, ⟨registerSession, suspendedCart, hrow⟩, ?_⟩
    · rw [hS', hledger]
      exact hset row
    · rw [hS', hledger]
      exact hmoved.movements_eq
    · rw [hS', hledger]
      exact hmoved.onHandAt_eq
    · rw [hS']
      refine journal_postCheckoutToLedger_congr env _ row ?_ ?_ ?_
      · show S₁.journal = S.journal
        rw [hothers]
      · show S₁.orders = S.orders
        rw [hothers]
      · show S₁.costPrices = S.costPrices
        rw [hothers]

/-- The checks of the request, before any table is read. -/
def RequestAccepted : Prop := ∀ S, (assertRequest dto).run S = (.ok (), S)

theorem onlyReads_assertPricingSummary : OnlyReads (assertPricingSummary dto) := by
  unfold assertPricingSummary
  cases dto.pricingSummary with
  | none => exact onlyReads_pure _
  | some summary =>
    exact (onlyReads_throwIf _ _).bind fun _ => (onlyReads_throwIf _ _).bind fun _ =>
      onlyReads_throwIf _ _

theorem onlyReads_assertRequest : OnlyReads (assertRequest dto) :=
  (onlyReads_throwIf _ _).bind fun _ => (onlyReads_throwIf _ _).bind fun _ =>
    onlyReads_assertPricingSummary dto

theorem fst_run_assertRequest (S' : PosCheckoutStore) :
    ((assertRequest dto).run S').1 = ((assertRequest dto).run S).1 := by
  unfold assertRequest
  simp only [run_throwIf_bind]
  split_ifs
  · rfl
  · rfl
  · unfold assertPricingSummary
    cases dto.pricingSummary with
    | none => rfl
    | some summary =>
      simp only [run_throwIf_bind, run_throwIf]
      split_ifs <;> rfl

variable {dto S} in
theorem requestAccepted_of_run {S' : PosCheckoutStore}
    (h : (assertRequest dto).run S = (.ok (), S')) : RequestAccepted dto := by
  intro T
  rw [← Prod.mk.eta (p := (assertRequest dto).run T)]
  rw [fst_run_assertRequest dto S T, h, (onlyReads_assertRequest dto).readOnly T]

theorem onlyReads_assertScope (branchId : ℕ) (partnerCredentialId : Option ℕ) :
    OnlyReads (assertScope branchId partnerCredentialId) := by
  have hfind : OnlyReads (findBranch branchId) := onlyReads_read _
  have hbranch : OnlyReads (onInventory (findBranch branchId)) := by
    exact hfind.zoom.zoom
  refine hbranch.bind fun branch => (onlyReads_throwIf _ _).bind fun _ => ?_
  cases partnerCredentialId with
  | none => exact onlyReads_pure _
  | some id =>
    refine (onlyReads_read _).bind fun partnerCredential => ?_
    cases partnerCredential with
    | none => exact onlyReads_throw _
    | some partnerCredential => exact onlyReads_throwIf _ _

/-- The request is accepted, is no repeat, and its row can be inserted. -/
def Enters : Prop :=
  RequestAccepted dto ∧ (S.firstCheckout fun checkout => IsExisting dto checkout) = none ∧
    ((assertScope dto.branchId dto.partnerCredentialId).run S).1 = .ok () ∧
    insertError (newCheckout env dto actor) S = none

theorem snd_run_ingest_of_enters (h : Enters env dto actor S) :
    ((ingest env dto actor).run S).2 = ((processNew env dto actor S.checkouts.next (newCheckout env dto actor)).run
      { S with checkouts := S.checkouts.add (newCheckout env dto actor) }).2 := by
  obtain ⟨haccepted, hexisting, hscope, herror⟩ := h
  have hscope : (assertScope dto.branchId dto.partnerCredentialId).run S = (.ok (), S) :=
    Prod.ext hscope ((onlyReads_assertScope _ _).readOnly S)
  have hrun : (insertCheckout (newCheckout env dto actor)).run S =
      (.ok S.checkouts.next, { S with checkouts := S.checkouts.add (newCheckout env dto actor) }) := by
    unfold insertCheckout
    rw [run_step, herror]
    rfl
  unfold ingest findExistingForIdempotency
  rw [run_bind_of_ok (haccepted S), run_read_bind, hexisting]
  rw [run_bind_of_ok hscope, run_bind_of_ok hrun]

theorem snd_run_ingest_of_not (h : ¬ Enters env dto actor S) : ((ingest env dto actor).run S).2 = S := by
  unfold ingest
  rcases hrequest : (assertRequest dto).run S with ⟨e | _, S₀⟩
  · rw [run_bind_of_error hrequest]
    exact (onlyReads_assertRequest dto).readOnly.eq_of_run hrequest
  have haccepted := requestAccepted_of_run hrequest
  unfold findExistingForIdempotency
  rw [run_bind_of_ok (haccepted S), run_read_bind]
  cases hexisting : S.firstCheckout fun checkout => IsExisting dto checkout with
  | some existing => rfl
  | none =>
    rcases hscope : (assertScope dto.branchId dto.partnerCredentialId).run S with ⟨e | _, S₁⟩
    · rw [run_bind_of_error hscope]
      exact (onlyReads_assertScope _ _).readOnly.eq_of_run hscope
    rw [(onlyReads_assertScope _ _).readOnly.eq_of_run hscope] at hscope
    rw [run_bind_of_ok hscope]
    cases herror : insertError (newCheckout env dto actor) S with
    | some e =>
      -- the row is refused by the database
      have hrun : (insertCheckout (newCheckout env dto actor)).run S = (.error e, S) := by
        unfold insertCheckout
        rw [run_step, herror]
        rfl
      rw [run_bind_of_error hrun]
    | none => exact absurd ⟨haccepted, hexisting, congrArg Prod.fst hscope, herror⟩ h

/-- **What a call does**: it changes nothing, or it stores a new checkout that fails or is processed. -/
theorem ingest_cases :
    let S' := ((ingest env dto actor).run S).2
    S' = S ∨ ∃ row, RequestAccepted dto ∧ SameKeys (newCheckout env dto actor) row ∧
      ¬ S.HasConflict (newCheckout env dto actor) ∧
      (Fails S S' row ∨ Processes env dto S S' row ∧ Posts env (newCheckout env dto actor) S S' row) := by
  intro S'
  by_cases henters : Enters env dto actor S
  · have hnew : ¬ S.HasConflict (newCheckout env dto actor) := by
      intro hconflict
      have herror := henters.2.2.2
      unfold insertError at herror
      rw [if_pos hconflict] at herror
      cases herror
    obtain ⟨row, hkeys, hrow⟩ := processNew_cases env dto actor S (newCheckout env dto actor)
    rw [← snd_run_ingest_of_enters env dto actor S henters] at hrow
    exact .inr ⟨row, henters.1, hkeys, hnew, hrow⟩
  · exact .inl (snd_run_ingest_of_not env dto actor S henters)

end Call

/-! ### Unique keys -/

end PosCheckouts

/-- The unique indexes of `pos_checkouts`: no two rows have the same key in the same branch. -/
def PosCheckoutStore.UniqueKeys (S : PosCheckoutStore) : Prop :=
  ∀ id id' row row', S.checkouts.find id = some row → S.checkouts.find id' = some row' →
    row.Conflicts row' → id = id'

namespace PosCheckouts

section UniqueKeys

variable {S S' : PosCheckoutStore}

variable {c c' : PosCheckout} {p : PosCheckout → Bool}

theorem conflicts_comm (h : c.Conflicts c') : c'.Conflicts c := by
  obtain ⟨hbranch, ⟨hsome, heq⟩ | ⟨hsome, heq⟩⟩ := h
  · exact ⟨hbranch.symm, .inl ⟨heq ▸ hsome, heq.symm⟩⟩
  · exact ⟨hbranch.symm, .inr ⟨heq ▸ hsome, heq.symm⟩⟩

theorem SameKeys.conflicts_iff (h : SameKeys c c') (row : PosCheckout) :
    c'.Conflicts row ↔ c.Conflicts row := by
  unfold PosCheckout.Conflicts
  rw [h.branchId_eq, h.idempotencyKey_eq, h.externalCheckoutId_eq]

variable {row : PosCheckout} {id : ℕ}

theorem hasConflict_of_find {checkout : PosCheckout} (h : S.checkouts.find id = some row)
    (hconflicts : checkout.Conflicts row) : S.HasConflict checkout :=
  ⟨⟨id, row⟩, Finmap.lookup_eq_some_iff.mp h, hconflicts⟩

theorem UniqueKeys.add (h : S.UniqueKeys) (hnew : ¬ S.HasConflict row)
    (hcheckouts : S'.checkouts = S.checkouts.add row) : S'.UniqueKeys := by
  intro id id' c c' hid hid' hconflicts
  rw [hcheckouts] at hid hid'
  rcases eq_or_find_of_find_add hid with ⟨hnext, rfl⟩ | hold
  · rcases eq_or_find_of_find_add hid' with ⟨hnext', -⟩ | hold'
    · exact hnext.trans hnext'.symm
    · exact absurd (hasConflict_of_find hold' hconflicts) hnew
  · rcases eq_or_find_of_find_add hid' with ⟨-, rfl⟩ | hold'
    · exact absurd (hasConflict_of_find hold (conflicts_comm hconflicts)) hnew
    · exact h id id' c c' hold hold' hconflicts

theorem firstCheckout_eq_some
    (h : S.firstCheckout p = some (id, row)) : S.checkouts.find id = some row ∧ p row := by
  obtain ⟨id', -, hid'⟩ := List.exists_of_findSome?_eq_some h
  obtain ⟨row', hrow', heq⟩ := Option.map_eq_some_iff.mp hid'
  obtain ⟨rfl, rfl⟩ := Prod.mk.inj heq
  exact Option.filter_eq_some_iff.mp hrow'

theorem firstCheckout_isSome
    (hfind : S.checkouts.find id = some row) (hp : p row) : (S.firstCheckout p).isSome := by
  have hlt : id < S.checkouts.next := lt_next_of_find hfind
  rw [Option.isSome_iff_ne_none]
  intro hnone
  have hid := List.findSome?_eq_none_iff.mp hnone id (List.mem_range.mpr hlt)
  rw [hfind, Option.filter_some, if_pos hp] at hid
  cases hid

end UniqueKeys

end PosCheckouts

/-- A call of `ingest`. -/
structure IngestCall where
  env : PosCheckoutRuntime
  dto : IngestPosCheckoutDto
  actor : PosActor

namespace IngestCall

def result (c : IngestCall) (S : PosCheckoutStore) : Except HttpException (ℕ × PosCheckout) :=
  ((ingest c.env c.dto c.actor).run S).1

def step (S : PosCheckoutStore) (c : IngestCall) : PosCheckoutStore :=
  ((ingest c.env c.dto c.actor).run S).2

end IngestCall

namespace PosCheckouts

variable {S : PosCheckoutStore}

theorem uniqueKeys_step (h : S.UniqueKeys) (c : IngestCall) : (IngestCall.step S c).UniqueKeys := by
  rcases ingest_cases c.env c.dto c.actor S with hsame | ⟨row, -, hkeys, hnew, hrow⟩
  · have hstep : IngestCall.step S c = S := hsame
    rwa [hstep]
  · have hnew' : ¬ S.HasConflict row := by
      rintro ⟨e, he, hconflicts⟩
      exact hnew ⟨e, he, (hkeys.conflicts_iff e.2).mp hconflicts⟩
    rcases hrow with hfails | ⟨hprocesses, -⟩
    · exact UniqueKeys.add h hnew' (congrArg PosCheckoutStore.checkouts hfails.store_eq)
    · exact UniqueKeys.add h hnew' hprocesses.checkouts_eq

theorem find_step {id : ℕ} {row : PosCheckout} (h : S.checkouts.find id = some row) (c : IngestCall) :
    (IngestCall.step S c).checkouts.find id = some row := by
  rcases ingest_cases c.env c.dto c.actor S with hsame | ⟨row', -, -, -, hrow⟩
  · have hstep : IngestCall.step S c = S := hsame
    rwa [hstep]
  · have hcheckouts : (IngestCall.step S c).checkouts = S.checkouts.add row' := by
      rcases hrow with hfails | ⟨hprocesses, -⟩
      · exact congrArg PosCheckoutStore.checkouts hfails.store_eq
      · exact hprocesses.checkouts_eq
    rw [hcheckouts]
    exact find_add_of_find h row'

theorem repeat_returns (h : S.UniqueKeys) {id : ℕ} {row : PosCheckout} {key : String}
    (hfind : S.checkouts.find id = some row) (hkey : row.idempotencyKey = some key) (c : IngestCall)
    (hbranch : c.dto.branchId = row.branchId) (hdto : PosSync.trimmed c.dto.idempotencyKey = some key) :
    IngestCall.step S c = S ∧ (RequestAccepted c.dto → c.result S = .ok (id, row)) := by
  have hexisting : ∀ checkout, IsExisting c.dto checkout ↔
      checkout.branchId = row.branchId ∧ checkout.idempotencyKey = some key := by
    intro checkout
    unfold IsExisting
    rw [hdto, hbranch]
  have hfirst : (S.firstCheckout fun checkout => IsExisting c.dto checkout) = some (id, row) := by
    have hsome : (S.firstCheckout fun checkout => IsExisting c.dto checkout).isSome :=
      firstCheckout_isSome hfind (decide_eq_true ((hexisting row).mpr ⟨rfl, hkey⟩))
    obtain ⟨⟨id', row'⟩, heq⟩ := Option.isSome_iff_exists.mp hsome
    obtain ⟨hfind', hrow'⟩ := firstCheckout_eq_some heq
    obtain ⟨hbranch', hkey'⟩ := (hexisting row').mp (of_decide_eq_true hrow')
    have hid : id' = id := by
      refine h id' id row' row hfind' hfind ⟨hbranch', .inl ⟨?_, hkey'.trans hkey.symm⟩⟩
      rw [hkey']
      exact Option.some_ne_none key
    rw [hid, hfind] at hfind'
    cases hfind'
    rw [heq, hid]
  have hrun : RequestAccepted c.dto → (ingest c.env c.dto c.actor).run S = (.ok (id, row), S) := by
    intro haccepted
    unfold ingest findExistingForIdempotency
    rw [run_bind_of_ok (haccepted S), run_read_bind, hfirst]
    rfl
  refine ⟨?_, fun haccepted => congrArg Prod.fst (hrun haccepted)⟩
  show ((ingest c.env c.dto c.actor).run S).2 = S
  rcases hrequest : (assertRequest c.dto).run S with ⟨e | _, S₀⟩
  · unfold ingest
    rw [run_bind_of_error hrequest]
    exact (onlyReads_assertRequest c.dto).readOnly.eq_of_run hrequest
  · exact congrArg Prod.snd (hrun (requestAccepted_of_run hrequest))

/-- **Ingesting is all or nothing, and idempotent.**  From tables with unique keys, after any calls, a
call that stores no checkout changes nothing.  One that does stores it as failed, and changes nothing
else, or as processed, and each stock-managed line has its movement.  Keys stay unique, and a checkout
with a key is what every later request with that key returns, without changing anything. -/
theorem ingest_all_or_nothing (S₀ : PosCheckoutStore) (hunique : S₀.UniqueKeys)
    (calls : List IngestCall) (c : IngestCall) :
    let S := Run.after IngestCall.step S₀ calls
    let S' := IngestCall.step S c
    (S'.checkouts.find S.checkouts.next = none → S' = S) ∧
    (∀ row, S'.checkouts.find S.checkouts.next = some row → RequestAccepted c.dto ∧
      row.branchId = c.dto.branchId ∧ row.idempotencyKey = PosSync.trimmed c.dto.idempotencyKey ∧
      (Fails S S' row ∨ Processes c.env c.dto S S' row)) ∧
    S'.UniqueKeys ∧
    ∀ id row key, S'.checkouts.find id = some row → row.idempotencyKey = some key →
      ∀ later : List IngestCall,
        let S'' := Run.after IngestCall.step S' later
        S''.checkouts.find id = some row ∧
        ∀ c' : IngestCall, c'.dto.branchId = row.branchId →
          PosSync.trimmed c'.dto.idempotencyKey = some key →
          IngestCall.step S'' c' = S'' ∧
            (RequestAccepted c'.dto → c'.result S'' = .ok (id, row)) := by
  intro S S'
  have hstep : ∀ S c, S.UniqueKeys → (IngestCall.step S c).UniqueKeys :=
    fun S c h => uniqueKeys_step h c
  have hS : S.UniqueKeys := Run.after_invariant hstep hunique calls
  have hS' : S'.UniqueKeys := uniqueKeys_step hS c
  have hcases := ingest_cases c.env c.dto c.actor S
  refine ⟨fun hnone => ?_, fun row hrow => ?_, hS', fun id row key hfind hkey later => ?_⟩
  · rcases hcases with hsame | ⟨row, -, -, -, hfails | ⟨hprocesses, -⟩⟩
    · exact hsame
    · rw [show S'.checkouts = S.checkouts.add row from
        congrArg PosCheckoutStore.checkouts hfails.store_eq, find_add_self] at hnone
      cases hnone
    · rw [show S'.checkouts = S.checkouts.add row from hprocesses.checkouts_eq,
        find_add_self] at hnone
      cases hnone
  · rcases hcases with hsame | ⟨row', haccepted, hkeys, -, hrow'⟩
    · rw [show S' = S from hsame, find_next] at hrow
      cases hrow
    · have hcheckouts : S'.checkouts = S.checkouts.add row' := by
        rcases hrow' with hfails | ⟨hprocesses, -⟩
        · exact congrArg PosCheckoutStore.checkouts hfails.store_eq
        · exact hprocesses.checkouts_eq
      rw [hcheckouts, find_add_self] at hrow
      cases hrow
      exact ⟨haccepted, hkeys.branchId_eq, hkeys.idempotencyKey_eq, hrow'.imp_right And.left⟩
  · intro S''
    have hkept : ∀ S c, S.checkouts.find id = some row →
        (IngestCall.step S c).checkouts.find id = some row := fun S c h => find_step h c
    have hunique'' : S''.UniqueKeys := Run.after_invariant hstep hS' later
    have hfind'' : S''.checkouts.find id = some row := Run.after_invariant hkept hfind later
    exact ⟨hfind'', fun c' hbranch hdto => repeat_returns hunique'' hfind'' hkey c' hbranch hdto⟩

end PosCheckouts

def keyedSaleForTen : IngestCall where
  env := plainCheckoutRuntime
  dto := { cashSaleForTen with idempotencyKey := some " till-1 " }
  actor := {}

/-- The sale and its repeat. -/
theorem ingest_all_or_nothing_repeat :
    let S' := IngestCall.step tenInTheShop keyedSaleForTen
    let row := processedCheckout 0 (newCheckout plainCheckoutRuntime keyedSaleForTen.dto {})
    row.idempotencyKey = some "till-1" ∧
      (Fails tenInTheShop S' row ∨
        Processes plainCheckoutRuntime keyedSaleForTen.dto tenInTheShop S' row) ∧
      S'.variant.inventory.movements.map StockMovement.quantityDelta = [10, -2] ∧
      IngestCall.step S' keyedSaleForTen = S' ∧ keyedSaleForTen.result S' = .ok (1, row) := by
  intro S' row
  have hunique : tenInTheShop.UniqueKeys := by
    intro id id' row row' hid
    cases hid
  have hfind : S'.checkouts.find 1 = some row := by decide +kernel
  have hkey : row.idempotencyKey = some "till-1" := by decide +kernel
  obtain ⟨-, hnew, -, hrepeat⟩ := ingest_all_or_nothing tenInTheShop hunique [] keyedSaleForTen
  obtain ⟨haccepted, -, -, hrow⟩ := hnew row hfind
  obtain ⟨-, hreturns⟩ := hrepeat 1 row "till-1" hfind hkey []
  obtain ⟨hsame, hresult⟩ := hreturns keyedSaleForTen rfl (by decide +kernel)
  exact ⟨hkey, hrow, by decide +kernel, hsame, hresult haccepted⟩

/-- A second line that takes more than there is: the first one is rolled back. -/
example :
    let dto := { saleForTen 10 0 [] with
      items := [{ productId := some 7, quantity := 2, quantity_min := by norm_num },
        { productId := some 7, quantity := 9, quantity_min := by norm_num }] }
    let S' := ((ingest plainCheckoutRuntime dto {}).run tenInTheShop).2
    (S'.checkouts.find 1).map PosCheckout.status = some .failed ∧
      (S'.variant.inventory.row ⟨1, 7⟩).quantityOnHand = 10 ∧
      S'.variant.inventory.movements = tenOnHand.movements := by
  decide

end SuuqBackend
