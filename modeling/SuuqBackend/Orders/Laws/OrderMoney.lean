import SuuqBackend.Lib.Lists
import SuuqBackend.Lib.Rounding
import SuuqBackend.Orders.OrderPricing
import SuuqBackend.Wallet.Laws.Amounts

/-!
# The money of an order

The columns of an order agree when the total and the discount add up to its lines, the two fees of an item to its
commission, and the commission and the payout to its line, when no payout is negative, no discount exceeds the lines
that its coupon is for, and `mapOrder` shows the total that is stored.

`createFromCart` stores such an order for the items, the rates and the coupon that `KeepsMoney` describes, and for no
others (`money_agrees_iff`): it compares a coupon with no line, shows the prices of the items without the discount, and
rounds the parts of a line apart.
-/

namespace SuuqBackend

/-! ### Agreeing columns -/

def PricedItemRow.lineTotal (item : PricedItemRow) : ℚ := item.price.value * item.quantity

/-- A coupon is for a product: it is of the vendor of the product, or of no vendor. -/
def Coupon.Covers (coupon : Coupon) (product : PricedProduct) : Prop :=
  coupon.vendorId = none ∨ coupon.vendorId = product.vendor.map (·.id)
deriving Decidable

/-- The columns of an order agree, whose coupon is `coupon`. -/
structure PricedOrderRow.Agrees (env : PricingRuntime) (coupon : Option Coupon) (order : PricedOrderRow) :
    Prop where
  total_eq : order.total.value + order.discountAmount.value = (order.items.map (·.lineTotal)).sum
  fees_eq : ∀ item ∈ order.items, item.platformFee.value + item.gatewayFee.value = item.commission.value
  line_eq : ∀ item ∈ order.items, item.commission.value + item.vendorPayout.value = item.lineTotal
  payout_nonneg : ∀ item ∈ order.items, 0 ≤ item.vendorPayout.value
  discount_le : ∀ found ∈ coupon, order.discountAmount.value ≤
    ((order.items.filter fun item => found.Covers item.product).map (·.lineTotal)).sum
  shown_eq : OrderPricing.mapOrder env order (some order.currency) = order.total.value

namespace OrderPricing

/-! ### Cents -/

/-- The cents that a column keeps of a value. -/
def cents (x : ℚ) : ℤ := (Numeric2.ofRat x).hundredths

theorem cents_div (n : ℤ) : cents (n / 100) = n := by
  unfold cents
  rw [Numeric2.ofRat_div]

theorem cents_round2 (x : ℚ) : cents (round2 x) = round (x * 100) := cents_div _

theorem cents_toFixed2 (x : ℚ) : cents (toFixed2 x) = cents x := cents_div _

/-- The cent that `toFixed` takes from a negative half, which `Math.round` rounds up. -/
def halfBelowZero (x : ℚ) : ℤ := if x < 0 ∧ Int.fract (x * 100) = 1 / 2 then 1 else 0

theorem cents_eq (x : ℚ) : cents x = round (x * 100) - halfBelowZero x := by
  unfold cents halfBelowZero
  rw [round_eq]
  rcases le_or_gt 0 x with hx | hx
  · rw [Numeric2.hundredths_of_nonneg hx, if_neg fun h => absurd h.1 (not_lt.mpr hx), sub_zero]
  · have hneg : -x * 100 + 1 / 2 = 1 / 2 - x * 100 := by ring
    rw [Numeric2.hundredths_of_neg hx, hneg]
    by_cases hhalf : Int.fract (x * 100) = 1 / 2
    · obtain ⟨hup, hdown⟩ := Numeric2.floors_of_half hhalf
      rw [if_pos ⟨hx, hhalf⟩]
      omega
    · rw [if_neg fun h => hhalf h.2, (Numeric2.floor_half_sub_iff _).mpr hhalf]
      omega

/-- The cents that a coupon adds when the total and the discount are rounded apart, or by which the discount exceeds
the amount. -/
def couponExcess (amount : ℤ) (discount : ℚ) : ℤ :=
  if discount ≤ amount / 100 then if 0 < discount ∧ Int.fract (discount * 100) = 1 / 2 then 1 else 0
  else cents discount - amount

theorem cents_discounted (amount : ℤ) (discount : ℚ) :
    cents (max 0 ((amount : ℚ) / 100 - discount)) + cents discount = amount + couponExcess amount discount := by
  unfold couponExcess
  by_cases hle : discount ≤ amount / 100
  · have hleft : cents ((amount : ℚ) / 100 - discount) = amount + ⌊1 / 2 - discount * 100⌋ :=
      Numeric2.hundredths_sub (b := ⟨amount⟩) hle
    rw [max_eq_right (sub_nonneg.mpr hle), hleft, if_pos hle, cents_eq, round_eq]
    unfold halfBelowZero
    by_cases hhalf : Int.fract (discount * 100) = 1 / 2
    · obtain ⟨hup, hdown⟩ := Numeric2.floors_of_half hhalf
      rcases lt_trichotomy discount 0 with hd | hd | hd
      · rw [if_pos ⟨hd, hhalf⟩, if_neg fun h => absurd h.1 hd.not_gt]
        omega
      · subst hd
        norm_num at hhalf
      · rw [if_neg fun h => absurd h.1 hd.not_gt, if_pos ⟨hd, hhalf⟩]
        omega
    · rw [(Numeric2.floor_half_sub_iff _).mpr hhalf, if_neg fun h => hhalf h.2, if_neg fun h => hhalf h.2]
      omega
  · have hzero : cents 0 = 0 := by
      simpa using cents_div 0
    rw [max_eq_left (sub_nonpos.mpr (not_le.mp hle).le), if_neg hle]
    omega

/-! ### Prices of an order -/

section Prices

variable (env : PricingRuntime) (paymentMethod : String) (coupon : Option Coupon) (currency : Option String)
  (items : List ItemToProcess)

def lineCents (item : ItemToProcess) : ℤ := cents (finalPrice env item) * item.quantity

/-- The amount in cents that the coupon is given on. -/
def subtotal : ℤ := (items.map fun item => cents (lineTotal env item)).sum

def discount : ℚ := coupon.elim 0 fun found => discountOn found (subtotal env items / 100)

/-- What the coupon adds to the total and the discount together, in cents. -/
def excess : ℤ :=
  coupon.elim 0 fun found => couponExcess (subtotal env items) (discountOn found (subtotal env items / 100))

/-- The price of an item in cents, as it is shown in the currency of the order. -/
def shownCents (item : ItemToProcess) : ℤ :=
  let productCurrency := if item.product.currency = "" then "ETB" else item.product.currency
  cents (convertPrice env (toFixed2 (finalPrice env item)) productCurrency (orderCurrency env items currency))

/-- An amount in cents that is shown as it is once `mapOrder` restores it. -/
def RestoredWhole (target : String) (amount : ℤ) : Prop :=
  target ∉ CurrencyService.integerCurrencies ∨ 100 ∣ amount ∨ amount < 50
deriving Decidable

/-- **The orders whose money agrees**, by their items, their rates and their coupon. -/
structure KeepsMoney : Prop where
  /-- A line rounds to the quantity times the rounded price. -/
  lines : ∀ item ∈ items, round (lineTotal env item * 100) = lineCents env item
  /-- The coupon is at most the amount and no half cent, but for what negative half cents make up for. -/
  discounted : excess env coupon items = (items.map fun item => halfBelowZero (lineTotal env item)).sum
  /-- The fees of an item are rounded as their sum is. -/
  fees : ∀ item ∈ items,
    let platform := Int.fract (lineTotal env item * platformRate env item.product * 100 + 1 / 2)
    let gateway := Int.fract (lineTotal env item * gatewayRate paymentMethod * 100 + 1 / 2)
    1 / 2 ≤ platform + gateway ∧ platform + gateway < 3 / 2
  /-- The rates take no more than the line. -/
  rates : ∀ item ∈ items,
    lineTotal env item * (platformRate env item.product + gatewayRate paymentMethod) * 100 < lineCents env item + 1 / 2
  /-- The coupon gives no more than the lines that it is for. -/
  vendor : ∀ found ∈ coupon, cents (discount env coupon items) ≤
    ((items.filter fun item => found.Covers item.product).map (lineCents env)).sum
  /-- Showing the prices takes the discount from them, or all that they are. -/
  shown :
    let lines := (items.map (lineCents env)).sum
    let shown := (items.map fun item => shownCents env currency items item * item.quantity).sum
    let left := lines - cents (discount env coupon items)
    lines - shown = cents (discount env coupon items) ∨
      shown = 0 ∧ 0 < left ∧ RestoredWhole (orderCurrency env items currency) left

end Prices

/-! ### Rows -/

section Rows

variable {env : PricingRuntime} {paymentMethod : String} {submittedCoupon currency : Option String}
  {items : List ItemToProcess} {order : PricedOrderRow}

theorem sum_cents {α : Type} (f : α → ℤ) (xs : List α) :
    (xs.map fun x => (f x : ℚ) / 100).sum = ((xs.map f).sum : ℤ) / 100 := by
  induction xs with
  | nil => simp
  | cons x xs ih =>
    rw [List.map_cons, List.sum_cons, ih, List.map_cons, List.sum_cons]
    push_cast
    ring

theorem itemsTotal_orderItem : itemsTotal (items.map (orderItem env paymentMethod)) = subtotal env items / 100 := by
  unfold itemsTotal subtotal
  rw [List.map_map, ← sum_cents]
  rfl

theorem applyCoupon_eq {amount : ℤ} {total discountAmount : ℚ}
    (h : applyCoupon env submittedCoupon (amount / 100) = .ok (total, discountAmount)) :
    discountAmount = (submittedCoupon.bind env.coupons).elim 0 (discountOn · (amount / 100)) ∧
      cents total + cents discountAmount = amount + (submittedCoupon.bind env.coupons).elim 0
        fun found => couponExcess amount (discountOn found (amount / 100)) := by
  unfold applyCoupon at h
  cases submittedCoupon with
  | none =>
    obtain ⟨rfl, rfl⟩ := Prod.mk.inj (Except.ok.inj h)
    have hzero : cents 0 = 0 := by simpa using cents_div 0
    exact ⟨rfl, by rw [cents_div, hzero]; rfl⟩
  | some code =>
    cases hfound : env.coupons code with
    | none =>
      simp only [hfound, validateCoupon] at h
      cases h
    | some found =>
      -- Only a coupon that passes every check gives a discount.
      simp only [hfound, validateCoupon] at h
      split_ifs at h <;> cases h
      refine ⟨by rw [Option.bind_some, hfound]; rfl, ?_⟩
      rw [cents_toFixed2, cents_discounted, Option.bind_some, hfound]
      rfl

theorem stored_of_createFromCart
    (h : createFromCart env paymentMethod submittedCoupon currency items = .ok order) :
    let coupon := submittedCoupon.bind env.coupons
    order.items = items.map (fun item => storedItem (orderItem env paymentMethod item)) ∧
      order.discountAmount.hundredths = cents (discount env coupon items) ∧
      order.total.hundredths + cents (discount env coupon items) = subtotal env items + excess env coupon items ∧
      order.currency = orderCurrency env items currency := by
  unfold createFromCart at h
  dsimp only at h
  rw [itemsTotal_orderItem] at h
  split_ifs at h with hcurrencies
  · cases h
  · cases happlied : applyCoupon env submittedCoupon ((subtotal env items : ℚ) / 100) with
    | error e =>
      rw [happlied] at h
      cases h
    | ok amounts =>
      obtain ⟨hdiscount, htotal⟩ := applyCoupon_eq happlied
      rw [happlied] at h
      obtain rfl := Except.ok.inj h
      refine ⟨?_, ?_, ?_, rfl⟩
      · rw [List.map_map]
        rfl
      · rw [hdiscount]
        rfl
      · rw [hdiscount] at htotal
        exact htotal

end Rows

/-! ### Items -/

section Items

variable (env : PricingRuntime) (paymentMethod : String) (item : ItemToProcess)

theorem lineTotal_storedItem :
    (storedItem (orderItem env paymentMethod item)).lineTotal = lineCents env item / 100 := by
  unfold PricedItemRow.lineTotal lineCents
  push_cast
  rw [← div_mul_eq_mul_div]
  rfl

theorem fees_iff :
    (storedItem (orderItem env paymentMethod item)).platformFee.value +
        (storedItem (orderItem env paymentMethod item)).gatewayFee.value =
      (storedItem (orderItem env paymentMethod item)).commission.value ↔
    1 / 2 ≤ Int.fract (lineTotal env item * platformRate env item.product * 100 + 1 / 2) +
        Int.fract (lineTotal env item * gatewayRate paymentMethod * 100 + 1 / 2) ∧
      Int.fract (lineTotal env item * platformRate env item.product * 100 + 1 / 2) +
        Int.fract (lineTotal env item * gatewayRate paymentMethod * 100 + 1 / 2) < 3 / 2 := by
  rw [← Rounding.round_add_round_iff, ← add_mul, ← mul_add]
  have hplatform : (storedItem (orderItem env paymentMethod item)).platformFee.hundredths = _ := cents_round2 _
  have hgateway : (storedItem (orderItem env paymentMethod item)).gatewayFee.hundredths = _ := cents_round2 _
  have hcommission : (storedItem (orderItem env paymentMethod item)).commission.hundredths = _ := cents_round2 _
  unfold Numeric2.value
  rw [hplatform, hgateway, hcommission, ← add_div, div_left_inj' (by norm_num)]
  norm_cast

theorem payout_hundredths : (storedItem (orderItem env paymentMethod item)).vendorPayout.hundredths =
    round (lineTotal env item * 100) - (storedItem (orderItem env paymentMethod item)).commission.hundredths := by
  have hcommission : (storedItem (orderItem env paymentMethod item)).commission.hundredths = _ := cents_round2 _
  have hpayout : (storedItem (orderItem env paymentMethod item)).vendorPayout.hundredths = _ := cents_round2 _
  rw [hpayout, hcommission, sub_mul]
  unfold round2
  rw [div_mul_cancel₀ _ (by norm_num), round_sub_intCast]

theorem line_iff : (storedItem (orderItem env paymentMethod item)).commission.value +
      (storedItem (orderItem env paymentMethod item)).vendorPayout.value =
    (storedItem (orderItem env paymentMethod item)).lineTotal ↔
      round (lineTotal env item * 100) = lineCents env item := by
  rw [lineTotal_storedItem]
  unfold Numeric2.value
  rw [payout_hundredths, ← add_div, div_left_inj' (by norm_num)]
  norm_cast
  rw [add_sub_cancel]

variable {env item}

/-- The payout of a line that is right is not negative unless the rates take more than the line. -/
theorem payout_nonneg_iff (hline : round (lineTotal env item * 100) = lineCents env item) :
    0 ≤ (storedItem (orderItem env paymentMethod item)).vendorPayout.value ↔
      lineTotal env item * (platformRate env item.product + gatewayRate paymentMethod) * 100 <
        lineCents env item + 1 / 2 := by
  have hcommission : (storedItem (orderItem env paymentMethod item)).commission.hundredths = _ := cents_round2 _
  rw [Numeric2.value_nonneg_iff, payout_hundredths, hline, sub_nonneg, hcommission, round_eq, ← Int.lt_add_one_iff,
    Int.floor_lt]
  push_cast
  constructor <;> intro h <;> linarith

end Items

/-! ### Amounts that are shown -/

section Shown

variable {env : PricingRuntime}

theorem round2_div (n : ℤ) : round2 (n / 100) = n / 100 := by
  unfold round2
  rw [div_mul_cancel₀ _ (by norm_num), round_intCast]

theorem orderCurrency_mem (env : PricingRuntime) (currency : Option String) (items : List ItemToProcess) :
    orderCurrency env items currency ∈ ["ETB", "SOS", "KES", "DJF", "USD"] := by
  unfold orderCurrency normalizeCurrency
  dsimp only
  split_ifs with h
  · exact h
  · exact List.mem_cons_self

variable {code : String}

theorem toUpperCase_of_mem (h : code ∈ ["ETB", "SOS", "KES", "DJF", "USD"]) : env.toUpperCase code = code := by
  have hcapitals := List.all_eq_true.mp
    (show (["ETB", "SOS", "KES", "DJF", "USD"].all fun code => code.toList.all Char.isUpper) = true by
      decide)
  exact env.capitals code (List.all_eq_true.mp (hcapitals code h))

theorem normalizeCurrency_of_mem (h : code ∈ ["ETB", "SOS", "KES", "DJF", "USD"]) :
    normalizeCurrency env (some code) = code := by
  have htrims := List.all_eq_true.mp
    (show (["ETB", "SOS", "KES", "DJF", "USD"].all fun code => decide (trim code = code)) = true by decide)
  have htrim : trim code = code := of_decide_eq_true (htrims code h)
  unfold normalizeCurrency
  rw [Option.getD_some, htrim, toUpperCase_of_mem h, if_pos h]

theorem convertPrice_eq_cents (n : ℤ) (fromCurrency target : String) :
    convertPrice env (n / 100) fromCurrency target = cents (convertPrice env (n / 100) fromCurrency target) / 100 := by
  suffices hwhole : ∃ m : ℤ, convertPrice env (n / 100) fromCurrency target = m / 100 by
    obtain ⟨m, hm⟩ := hwhole
    rw [hm, cents_div]
  have hround : ∀ code amount, ∃ m : ℤ, CurrencyService.roundFor code amount = m / 100 := by
    intro code amount
    unfold CurrencyService.roundFor
    split_ifs
    · refine ⟨round amount * 100, ?_⟩
      push_cast
      rw [mul_div_cancel_right₀ _ (by norm_num)]
    · exact ⟨_, rfl⟩
  unfold convertPrice CurrencyService.convert
  dsimp only
  split_ifs
  · exact hround _ _
  · exact ⟨n, rfl⟩
  · exact hround _ _

theorem convertPrice_self (amount : ℚ) (h : code ∈ ["ETB", "SOS", "KES", "DJF", "USD"]) :
    convertPrice env amount code code = CurrencyService.roundFor code amount := by
  unfold convertPrice CurrencyService.convert
  rw [if_pos rfl, toUpperCase_of_mem h]

/-- An amount above zero is restored as it is, or not rounded at all because nothing would be left. -/
theorem restored_iff (code : String) {amount : ℤ} (hpos : 0 < amount) :
    (if 0 < CurrencyService.roundFor code (amount / 100) then CurrencyService.roundFor code (amount / 100)
      else (amount / 100 : ℚ)) = amount / 100 ↔ RestoredWhole code amount := by
  unfold RestoredWhole CurrencyService.roundFor
  by_cases hcode : code ∈ CurrencyService.integerCurrencies
  · have hsmall : (0 : ℚ) < round ((amount : ℚ) / 100) ↔ 50 ≤ amount := by
      rw [Int.cast_pos, round_eq, Int.floor_pos, ← @Int.cast_le ℚ]
      push_cast
      constructor <;> intro h <;> linarith
    have hwhole : (round ((amount : ℚ) / 100) : ℚ) = amount / 100 ↔ 100 ∣ amount := by
      rw [eq_div_iff (by norm_num)]
      constructor
      · intro h
        refine ⟨round ((amount : ℚ) / 100), ?_⟩
        rw [mul_comm]
        exact_mod_cast h.symm
      · rintro ⟨n, rfl⟩
        push_cast
        rw [mul_div_cancel_left₀ _ (by norm_num), round_intCast, mul_comm]
    rw [if_pos hcode]
    by_cases hlt : amount < 50
    · rw [if_neg (by rw [hsmall]; omega)]
      exact iff_of_true rfl (Or.inr (Or.inr hlt))
    · rw [if_pos (hsmall.mpr (not_lt.mp hlt)), hwhole]
      exact ⟨fun h => Or.inr (Or.inl h), fun h => (h.resolve_left (not_not.mpr hcode)).resolve_right hlt⟩
  · rw [if_neg hcode, div_mul_cancel₀ _ (by norm_num), round_intCast, ite_self]
    exact iff_of_true rfl (Or.inl hcode)

variable {paymentMethod : String} {currency : Option String} {items : List ItemToProcess}
  {order : PricedOrderRow}

theorem shown_iff (hitems : order.items = items.map fun item => storedItem (orderItem env paymentMethod item))
    (hcurrency : order.currency = orderCurrency env items currency) (lines discount : ℤ)
    (htotal : order.total.hundredths = lines - discount) :
    mapOrder env order (some order.currency) = order.total.value ↔
      let shown := (items.map fun item => shownCents env currency items item * item.quantity).sum
      lines - shown = discount ∨
        shown = 0 ∧ 0 < lines - discount ∧ RestoredWhole (orderCurrency env items currency) (lines - discount) := by
  have hmem := orderCurrency_mem env currency items
  have hshown : (order.items.map fun item => displayedPrice env order.currency item * item.quantity).sum =
      ((items.map fun item => shownCents env currency items item * item.quantity).sum : ℤ) / 100 := by
    rw [hitems, List.map_map, ← sum_cents]
    refine congrArg List.sum (List.map_congr_left fun item _ => ?_)
    have hprice : displayedPrice env order.currency (storedItem (orderItem env paymentMethod item)) =
        shownCents env currency items item / 100 := by
      rw [hcurrency]
      exact convertPrice_eq_cents _ _ _
    rw [Function.comp_apply, hprice, div_mul_eq_mul_div]
    push_cast
    rfl
  unfold mapOrder
  dsimp only
  rw [hcurrency] at hshown ⊢
  rw [normalizeCurrency_of_mem hmem, hshown, round2_div, convertPrice_self _ hmem]
  unfold Numeric2.value
  rw [htotal]
  set shown := (items.map fun item => shownCents env currency items item * item.quantity).sum
  have hzero : (shown : ℚ) / 100 = 0 ↔ shown = 0 := by
    rw [div_eq_zero_iff, or_iff_left (by norm_num), Int.cast_eq_zero]
  have hpos : (0 : ℚ) < ((lines - discount : ℤ) : ℚ) / 100 ↔ 0 < lines - discount := by
    rw [div_pos_iff_of_pos_right (by norm_num), Int.cast_pos]
  have hsame : (shown : ℚ) / 100 = ((lines - discount : ℤ) : ℚ) / 100 ↔ lines - shown = discount := by
    rw [div_left_inj' (by norm_num), Int.cast_inj]
    omega
  by_cases hrestored : shown = 0 ∧ 0 < lines - discount
  · rw [if_pos ⟨hzero.mpr hrestored.1, hpos.mpr hrestored.2⟩, restored_iff _ hrestored.2]
    constructor
    · exact fun h => Or.inr ⟨hrestored.1, hrestored.2, h⟩
    · rintro (h | h)
      · omega
      · exact h.2.2
  · rw [if_neg fun h => hrestored ⟨hzero.mp h.1, hpos.mp h.2⟩, hsame]
    exact ⟨Or.inl, fun h => h.resolve_right fun h' => hrestored ⟨h'.1, h'.2.1⟩⟩

end Shown

/-! ### Whole orders -/

section Orders

variable {env : PricingRuntime} {paymentMethod : String} {submittedCoupon currency : Option String}
  {items : List ItemToProcess} {order : PricedOrderRow}

theorem sum_lineTotal (rows : List ItemToProcess) :
    ((rows.map fun item => storedItem (orderItem env paymentMethod item)).map (·.lineTotal)).sum =
      ((rows.map (lineCents env)).sum : ℤ) / 100 := by
  rw [List.map_map, ← sum_cents]
  exact congrArg List.sum (List.map_congr_left fun item _ => lineTotal_storedItem env paymentMethod item)

theorem sum_lineCents (hlines : ∀ item ∈ items, round (lineTotal env item * 100) = lineCents env item) :
    (items.map (lineCents env)).sum =
      subtotal env items + (items.map fun item => halfBelowZero (lineTotal env item)).sum := by
  unfold subtotal
  rw [← List.sum_map_add]
  refine congrArg List.sum (List.map_congr_left fun item hitem => ?_)
  rw [cents_eq, sub_add_cancel, hlines item hitem]

end Orders

end OrderPricing

open OrderPricing

/-- **When the money of an order agrees.** -/
theorem money_agrees_iff (env : PricingRuntime) (paymentMethod : String)
    (submittedCoupon currency : Option String) (items : List ItemToProcess) (order : PricedOrderRow)
    (h : createFromCart env paymentMethod submittedCoupon currency items = .ok order) :
    order.Agrees env (submittedCoupon.bind env.coupons) ↔
      KeepsMoney env paymentMethod (submittedCoupon.bind env.coupons) currency items := by
  obtain ⟨hitems, hdiscount, htotal, hcurrency⟩ := stored_of_createFromCart h
  have hrows : ∀ P : PricedItemRow → Prop, (∀ row ∈ order.items, P row) ↔
      ∀ item ∈ items, P (storedItem (orderItem env paymentMethod item)) := by
    intro P
    rw [hitems, List.forall_mem_map]
  have hsum : (order.items.map (·.lineTotal)).sum = ((items.map (lineCents env)).sum : ℤ) / 100 := by
    rw [hitems, sum_lineTotal]
  have hadds : order.total.value + order.discountAmount.value = (order.items.map (·.lineTotal)).sum ↔
      subtotal env items + excess env (submittedCoupon.bind env.coupons) items = (items.map (lineCents env)).sum := by
    rw [hsum, ← htotal, ← hdiscount]
    unfold Numeric2.value
    rw [← add_div, div_left_inj' (by norm_num)]
    norm_cast
  have hvendor : ∀ found : Coupon, order.discountAmount.value ≤
      ((order.items.filter fun item => found.Covers item.product).map (·.lineTotal)).sum ↔
        OrderPricing.cents (discount env (submittedCoupon.bind env.coupons) items) ≤
          ((items.filter fun item => found.Covers item.product).map (lineCents env)).sum := by
    intro found
    have hfilter : order.items.filter (fun item => found.Covers item.product) =
        (items.filter fun item => found.Covers item.product).map
          fun item => storedItem (orderItem env paymentMethod item) := by
      rw [hitems, List.filter_map]
      rfl
    rw [hfilter, sum_lineTotal, ← hdiscount]
    unfold Numeric2.value
    rw [div_le_div_iff_of_pos_right (by norm_num), Int.cast_le]
  have hshown : subtotal env items + excess env (submittedCoupon.bind env.coupons) items =
      (items.map (lineCents env)).sum → (mapOrder env order (some order.currency) = order.total.value ↔ _) :=
    fun heq => shown_iff hitems hcurrency (items.map (lineCents env)).sum
      (OrderPricing.cents (discount env (submittedCoupon.bind env.coupons) items)) (by omega)
  constructor
  · intro hagrees
    have hlines : ∀ item ∈ items, round (lineTotal env item * 100) = lineCents env item := fun item hitem =>
      (line_iff env paymentMethod item).mp ((hrows _).mp hagrees.line_eq item hitem)
    have hexcess := hadds.mp hagrees.total_eq
    exact
      { lines := hlines
        discounted := by
          rw [sum_lineCents hlines] at hexcess
          omega
        fees := fun item hitem => (fees_iff env paymentMethod item).mp ((hrows _).mp hagrees.fees_eq item hitem)
        rates := fun item hitem => (payout_nonneg_iff paymentMethod (hlines item hitem)).mp
          ((hrows _).mp hagrees.payout_nonneg item hitem)
        vendor := fun found hfound => (hvendor found).mp (hagrees.discount_le found hfound)
        shown := (hshown hexcess).mp hagrees.shown_eq }
  · intro hkeeps
    have hexcess : subtotal env items + excess env (submittedCoupon.bind env.coupons) items =
        (items.map (lineCents env)).sum := by
      rw [sum_lineCents hkeeps.lines, hkeeps.discounted]
    exact
      { total_eq := hadds.mpr hexcess
        fees_eq := (hrows _).mpr fun item hitem => (fees_iff env paymentMethod item).mpr (hkeeps.fees item hitem)
        line_eq := (hrows _).mpr fun item hitem => (line_iff env paymentMethod item).mpr (hkeeps.lines item hitem)
        payout_nonneg := (hrows _).mpr fun item hitem =>
          (payout_nonneg_iff paymentMethod (hkeeps.lines item hitem)).mpr (hkeeps.rates item hitem)
        discount_le := fun found hfound => (hvendor found).mpr (hkeeps.vendor found hfound)
        shown_eq := (hshown hexcess).mpr hkeeps.shown }

def couponRuntime : PricingRuntime where
  toUpperCase text := text
  capitals _ _ := rfl
  rates _ := none
  messages _ := none
  commissionSetting := none
  coupons code :=
    if code = "SAVE30" then
      some { code, discountType := .fixedAmount, amount := ⟨3000⟩, expiresAt := 200, vendorId := some 6 }
    else none
  now := 100

/-- One piece of a product of vendor 5, for 100. -/
def onePiece : List ItemToProcess :=
  [{ product := { id := 7, price := ⟨10000⟩, currency := "ETB", vendor := some { id := 5 } }, quantity := 1 }]

def onePieceOrder : PricedOrderRow where
  items := (onePiece.map (orderItem couponRuntime "COD")).map storedItem
  total := ⟨7000⟩
  discountAmount := ⟨3000⟩
  currency := "ETB"

theorem money_agrees_iff_onePiece : onePieceOrder.Agrees couponRuntime (couponRuntime.coupons "SAVE30") ↔
    KeepsMoney couponRuntime "COD" (couponRuntime.coupons "SAVE30") none onePiece :=
  money_agrees_iff couponRuntime "COD" (some "SAVE30") none onePiece onePieceOrder (by decide +kernel)

/-- The coupon of vendor 6 takes 30 off the product of vendor 5. -/
theorem coupon_of_other_vendor : createFromCart couponRuntime "COD" (some "SAVE30") none onePiece = .ok onePieceOrder ∧
    ¬ onePieceOrder.Agrees couponRuntime (couponRuntime.coupons "SAVE30") := by
  refine ⟨by decide +kernel, fun hagrees => ?_⟩
  have hle := hagrees.discount_le _ rfl
  revert hle
  decide +kernel

end SuuqBackend
