import SuuqBackend.PosSync.Laws.CheckoutIngest
import SuuqBackend.PosSync.Laws.CheckoutVoid

/-!
# The cost of what a checkout takes from the stock

`ingest` resolves the product of each line, by its id or by an alias, and moves the stock of those that have one.
`postCheckoutCogs` runs later over the stored items, which have the id of the request or none.

* `movedCost_eq`, `namedCost_eq`: the two costs share the lines that name a product id and have stock.
* `cost_relief_iff`: the processed sales whose posted cost is that of the stock they took.
-/

namespace SuuqBackend

open GeneralLedger PosCheckouts

namespace PosCheckouts

/-! ### The costs of the lines -/

section Costs

variable (env : PosCheckoutRuntime) (dto : IngestPosCheckoutDto) (S : PosCheckoutStore)

/-- The cost of a unit of the product in the branch; nothing when it is not known. -/
def unitCost (productId : ℕ) : ℚ :=
  (ProductCost.weightedAverageCost S.orders S.costPrices dto.branchId productId).getD 0

/-- What a line has taken from the stock, at the unit cost of its product. -/
def movedCostOf (item : PosCheckoutItemDto) : ℚ :=
  match stockLine env dto S item with
  | some (productId, _) => unitCost dto S productId * item.quantity
  | none => 0

/-- The cost of a line that names a product id. -/
def namedCostOf (item : PosCheckoutItemDto) : ℚ :=
  match item.productId with
  | some productId => unitCost dto S productId * item.quantity
  | none => 0

/-- The cost of what the checkout takes from the stock. -/
def movedCost : ℚ := (dto.items.map (movedCostOf env dto S)).sum

/-- The cost of the lines that name a product id. -/
def namedCost : ℚ := (dto.items.map (namedCostOf dto S)).sum

/-- The cost of the lines that name a product id and take from the stock. -/
def sharedCost : ℚ :=
  (dto.items.map fun item => if item.productId.isSome then movedCostOf env dto S item else 0).sum

/-- The cost of the lines that take from the stock of a product given by an alias. -/
def aliasCost : ℚ :=
  (dto.items.map fun item => if item.productId.isSome then 0 else movedCostOf env dto S item).sum

/-- The cost of the lines that name a product id and take nothing from the stock. -/
def unstockedCost : ℚ :=
  (dto.items.map fun item => if (stockLine env dto S item).isSome then 0 else namedCostOf dto S item).sum

variable {env dto S}

theorem stockLine_of_productId {item : PosCheckoutItemDto} {productId : ℕ} (h : item.productId = some productId) :
    stockLine env dto S item = some (productId, item) ∨ stockLine env dto S item = none := by
  have hresolved : ((resolveProductId env dto item).run S).1 = .ok productId := by
    unfold resolveProductId
    rw [h]
    rfl
  unfold stockLine
  rw [hresolved]
  dsimp only
  split
  · exact .inl rfl
  · split_ifs
    · exact .inl rfl
    · exact .inr rfl

theorem movedCost_eq : movedCost env dto S = sharedCost env dto S + aliasCost env dto S := by
  unfold movedCost sharedCost aliasCost
  rw [← List.sum_map_add]
  refine congrArg List.sum (List.map_congr_left fun item _ => ?_)
  split_ifs
  · rw [add_zero]
  · rw [zero_add]

theorem namedCost_eq : namedCost dto S = sharedCost env dto S + unstockedCost env dto S := by
  unfold namedCost sharedCost unstockedCost
  rw [← List.sum_map_add]
  refine congrArg List.sum (List.map_congr_left fun item _ => ?_)
  unfold namedCostOf movedCostOf
  cases hid : item.productId with
  | none => simp
  | some productId =>
    rcases @stockLine_of_productId env dto S item productId hid with hline | hline <;> simp [hline]

end Costs

/-! ### What is posted -/

section Posted

variable {env : PosCheckoutRuntime} {dto : IngestPosCheckoutDto} {S : PosCheckoutStore}

theorem totalCost_eq {row : PosCheckout} (hbranch : row.branchId = dto.branchId)
    (hitems : row.items = dto.items.map storedItem) :
    totalCost row S.orders S.costPrices = round2 (namedCost dto S) := by
  unfold totalCost namedCost
  rw [hitems, List.map_map]
  refine congrArg (fun costs : List ℚ => round2 costs.sum) (List.map_congr_left fun item _ => ?_)
  show itemCost row S.orders S.costPrices (storedItem item) = namedCostOf dto S item
  have hquantity : |item.quantity| = item.quantity := abs_of_pos (item_quantity_pos item)
  unfold itemCost namedCostOf unitCost storedItem
  rw [hbranch, hquantity]
  cases item.productId with
  | none => rfl
  | some productId =>
    dsimp only [Option.bind_some]
    cases ProductCost.weightedAverageCost S.orders S.costPrices dto.branchId productId with
    | none => simp
    | some cost => simp

theorem inputEffect_cogsLines_sale {row : PosCheckout} (h : row.transactionType = .sale) {cost : ℚ}
    (hcents : cost ∈ cents) : inputEffect (cogsLines row cost) GlAccountCode.cogs.code = cost := by
  have hne : (GlAccountCode.inventory.code = GlAccountCode.cogs.code) = False := by decide
  have heffect : round2 (amountOf (some cost)) - round2 (amountOf none) = cost := by
    show round2 cost - round2 0 = cost
    rw [round2_zero, round2_of_mem hcents, sub_zero]
  unfold cogsLines inputEffect
  rw [h]
  simp [hne, heffect]

theorem netOn_cogs_posting (env : PosCheckoutRuntime) (id : ℕ) (row : PosCheckout) (S : PosCheckoutStore) :
    ((postCheckoutToLedger env id row).run S).2.journal.netOn GlAccountCode.cogs.code =
      S.journal.netOn GlAccountCode.cogs.code + costEffect env id row S GlAccountCode.cogs.code := by
  by_cases hposts : PostsEntry env id row S
  · have hentry := hposts
    obtain ⟨fc, hfc, -⟩ := hentry
    rw [netOn_posting hposts hfc, inputEffect_checkoutLines_cogs, add_zero]
  · exact netOn_posting_of_not hposts _

theorem postsCost_iff {actor : PosActor} {id : ℕ} {registerSession : Option (ℕ × PosRegisterSession)}
    {suspendedCart : Option (ℕ × PosSuspendedCart)} :
    PostsCost env id (processedCheckout env.now
        (linkedCheckout (newCheckout env dto actor) registerSession suspendedCart)) S ↔
      PostsCost env id (newCheckout env dto actor) S := Iff.rfl

end Posted

/-- The cost of the stock that a checkout takes is posted: its cost is to be posted, and what its lines without stock
cost makes up for what its lines by alias cost, to the cent; or nothing is to be posted, and its stock costs nothing. -/
def CostCovers (env : PosCheckoutRuntime) (dto : IngestPosCheckoutDto) (actor : PosActor) (S : PosCheckoutStore) :
    Prop :=
  (PostsCost env S.checkouts.next (newCheckout env dto actor) S ∧
      round2 (sharedCost env dto S + unstockedCost env dto S) = round2 (sharedCost env dto S + aliasCost env dto S)) ∨
    (¬ PostsCost env S.checkouts.next (newCheckout env dto actor) S ∧
      round2 (sharedCost env dto S + aliasCost env dto S) = 0)

end PosCheckouts

def saleByProductId : IngestPosCheckoutDto := cashSaleForTen

/-- The same units, by an alias of their product. -/
def saleByAlias : IngestPosCheckoutDto :=
  { saleByProductId with
    items := saleByProductId.items.map fun item =>
      { item with productId := none, aliasType := some .localSku, aliasValue := some "Shirt" } }

def shopWithAlias : PosCheckoutStore :=
  { tenInTheShop with productAliases := [⟨1, some 1, none, 7, .localSku, "shirt", true⟩] }

/-- What a sale in the shop adds to the cost of goods. -/
def costPosted (dto : IngestPosCheckoutDto) : ℚ :=
  ((ingest plainCheckoutRuntime dto {}).run shopWithAlias).2.journal.netOn GlAccountCode.cogs.code -
    shopWithAlias.journal.netOn GlAccountCode.cogs.code

end SuuqBackend
