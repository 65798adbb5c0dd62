import SuuqBackend.Common.Numeric
import SuuqBackend.PosSync.ProductAliases

/-!
# The prices of an order

What `OrdersService.createFromCart` computes for the items of an order, their fees, the coupon and the total, the columns
that it stores of that, and the total that `mapOrder` shows of the stored order.

Numbers are exact here.  `messages` are the rows of `messages`, `coupons` finds the active coupon of a code, and
`commissionSetting` is the value of the setting `vendor_commission_percentage`.
-/

namespace SuuqBackend

structure PricedVendor where
  id : ℕ
  commissionRate : Numeric2 := ⟨0⟩
deriving DecidableEq

/-- What prices use of a row of `products`, with its vendor. -/
structure PricedProduct where
  id : ℕ
  price : Numeric2
  salePrice : Option Numeric2 := none
  currency : String
  vendor : Option PricedVendor
deriving DecidableEq

/-- An entry of `itemsToProcess`; `offerId` is the one among its attributes. -/
structure ItemToProcess where
  product : PricedProduct
  quantity : ℤ
  offerId : Option ℕ := none

structure OfferContent where
  productId : String
  price : ℚ

/-- What prices use of a row of `messages`; the content is `none` when it is no JSON. -/
structure OfferMessage where
  isOffer : Bool
  content : Option OfferContent

inductive DiscountType where
  | percentage
  | fixedAmount
deriving DecidableEq

structure Coupon where
  code : String
  discountType : DiscountType
  amount : Numeric2
  expiresAt : ℤ
  usageLimit : ℤ := 0
  usedCount : ℤ := 0
  minOrderAmount : Numeric2 := ⟨0⟩
  vendorId : Option ℕ := none
  isActive : Bool := true

structure PricedItem where
  product : PricedProduct
  quantity : ℤ
  price : ℚ
  platformFee : ℚ
  gatewayFee : ℚ
  commission : ℚ
  vendorPayout : ℚ

/-- The prices of a row of `order_item`, with the product. -/
structure PricedItemRow where
  product : PricedProduct
  quantity : ℤ
  price : Numeric2
  platformFee : Numeric2
  gatewayFee : Numeric2
  commission : Numeric2
  vendorPayout : Numeric2
deriving DecidableEq

/-- The prices of a row of `order`, with its items. -/
structure PricedOrderRow where
  items : List PricedItemRow
  total : Numeric2
  discountAmount : Numeric2
  currency : String
deriving DecidableEq

/-- What the prices of an order are read from; `toUpperCase` leaves a text of capital letters as it is. -/
structure PricingRuntime where
  toUpperCase : String → String
  capitals : ∀ text : String, (∀ c ∈ text.toList, c.isUpper) → toUpperCase text = text
  rates : String → Option ℚ
  messages : ℕ → Option OfferMessage
  commissionSetting : Option ℚ
  coupons : String → Option Coupon
  now : ℤ

namespace OrderPricing

/-- `Math.round(x * 100) / 100`. -/
def round2 (x : ℚ) : ℚ := round (x * 100) / 100

/-- `Number(x.toFixed(2))`. -/
def toFixed2 (x : ℚ) : ℚ := (Numeric2.ofRat x).value

/-! ### Coupons -/

def discountOn (coupon : Coupon) (orderAmount : ℚ) : ℚ :=
  match coupon.discountType with
  | .fixedAmount => coupon.amount.value
  | .percentage => orderAmount * coupon.amount.value / 100

/-- `PromotionsService.validateCoupon`: the coupon and its discount. -/
def validateCoupon (now : ℤ) (found : Option Coupon) (orderAmount : ℚ) (vendorId : Option ℕ) :
    Except HttpException (Coupon × ℚ) :=
  match found with
  | none => .error (.notFound "Coupon not found")
  | some coupon =>
    if coupon.expiresAt < now then .error (.badRequest "Coupon expired")
    else if 0 < coupon.usageLimit ∧ coupon.usageLimit ≤ coupon.usedCount then
      .error (.badRequest "Coupon usage limit reached")
    else if orderAmount < coupon.minOrderAmount.value then
      .error (.badRequest s!"Minimum order amount is {coupon.minOrderAmount.text}")
    else if coupon.vendorId.isSome ∧ vendorId.isSome ∧ coupon.vendorId ≠ vendorId then
      .error (.badRequest "Coupon not valid for this vendor")
    else .ok (coupon, discountOn coupon orderAmount)

section Prices

variable (env : PricingRuntime)

/-! ### Items -/

/-- `globalRate`: a setting above 1 is a percentage. -/
def globalRate : ℚ :=
  let rawVal := env.commissionSetting.getD 0
  if 1 < rawVal then rawVal / 100 else rawVal

/-- The price of a product, or its sale price when that is lower. -/
def listedPrice (product : PricedProduct) : ℚ :=
  match product.salePrice with
  | some salePrice =>
    if 0 < salePrice.value ∧ salePrice.value < product.price.value then salePrice.value else product.price.value
  | none => product.price.value

def offeredPrice (item : ItemToProcess) : Option ℚ := do
  let offerId ← item.offerId
  let message ← env.messages offerId
  let content ← if message.isOffer then message.content else none
  if content.productId = toString item.product.id then some content.price else none

def finalPrice (item : ItemToProcess) : ℚ := (offeredPrice env item).getD (listedPrice item.product)

/-- `platformRate`: the rate of the vendor, unless it is 0. -/
def platformRate (product : PricedProduct) : ℚ :=
  match product.vendor with
  | some vendor => if vendor.commissionRate.hundredths = 0 then globalRate env else vendor.commissionRate.value
  | none => globalRate env

def gatewayRate (paymentMethod : String) : ℚ := if paymentMethod = "EBIRR" then 1 / 100 else 0

def lineTotal (item : ItemToProcess) : ℚ := finalPrice env item * item.quantity

/-- The item of the order for an entry of `itemsToProcess`. -/
def orderItem (paymentMethod : String) (item : ItemToProcess) : PricedItem :=
  let rate := platformRate env item.product + gatewayRate paymentMethod
  let commission := round2 (lineTotal env item * rate)
  { product := item.product
    quantity := item.quantity
    price := finalPrice env item
    platformFee := round2 (lineTotal env item * platformRate env item.product)
    gatewayFee := round2 (lineTotal env item * gatewayRate paymentMethod)
    commission
    vendorPayout := round2 (lineTotal env item - commission) }

/-- `total`, before a coupon. -/
def itemsTotal (items : List PricedItem) : ℚ := (items.map fun item => toFixed2 (item.price * item.quantity)).sum

/-! ### Orders -/

def normalizeCurrency (value : Option String) : String :=
  let upper := env.toUpperCase (trim (value.getD ""))
  if upper ∈ ["ETB", "SOS", "KES", "DJF", "USD"] then upper else "ETB"

/-- `currencyCode`: the currency of the products, or that of the request. -/
def orderCurrency (itemsToProcess : List ItemToProcess) (currency : Option String) : String :=
  let lockedCurrency := (itemsToProcess.map (·.product.currency)).head?
  normalizeCurrency env ((lockedCurrency.filter (· ≠ "")).or currency)

/-- `total` and `discountAmount`, with the coupon that was submitted. -/
def applyCoupon (submittedCoupon : Option String) (total : ℚ) : Except HttpException (ℚ × ℚ) :=
  match submittedCoupon with
  | none => .ok (total, 0)
  | some code => do
    let (_, discount) ← validateCoupon env.now (env.coupons code) total none
    return (toFixed2 (max 0 (total - discount)), discount)

def storedItem (item : PricedItem) : PricedItemRow where
  product := item.product
  quantity := item.quantity
  price := .ofRat item.price
  platformFee := .ofRat item.platformFee
  gatewayFee := .ofRat item.gatewayFee
  commission := .ofRat item.commission
  vendorPayout := .ofRat item.vendorPayout

/-- The prices of the order that `createFromCart` stores for `itemsToProcess`. -/
def createFromCart (paymentMethod : String) (submittedCoupon currency : Option String)
    (itemsToProcess : List ItemToProcess) : Except HttpException PricedOrderRow := do
  let lockedCurrency := (itemsToProcess.map (·.product.currency)).head?
  if itemsToProcess.any fun item => some item.product.currency ≠ lockedCurrency then
    throw (.badRequest ("All products in the order must imply the same currency. " ++
      "Please order products of different currencies separately."))
  let orderItems := itemsToProcess.map (orderItem env paymentMethod)
  let (total, discountAmount) ← applyCoupon env submittedCoupon (itemsTotal orderItems)
  return {
    items := orderItems.map storedItem
    total := .ofRat total
    discountAmount := .ofRat discountAmount
    currency := orderCurrency env itemsToProcess currency }

/-! ### `mapOrder` -/

/-- `convertPrice`: an amount that cannot be converted stays. -/
def convertPrice (amount : ℚ) (fromCurrency target : String) : ℚ :=
  match CurrencyService.convert env.toUpperCase env.rates amount fromCurrency target with
  | .ok converted => converted
  | .error _ => amount

/-- `displayedPrice` of an item. -/
def displayedPrice (target : String) (item : PricedItemRow) : ℚ :=
  let productCurrency := if item.product.currency = "" then "ETB" else item.product.currency
  convertPrice env item.price.value productCurrency target

/-- The total that `mapOrder` shows of a stored order. -/
def mapOrder (order : PricedOrderRow) (currency : Option String) : ℚ :=
  let target := normalizeCurrency env currency
  let totalConverted := (order.items.map fun item => displayedPrice env target item * item.quantity).sum
  let finalAmount := round2 totalConverted
  let originalTotal := order.total.value
  if finalAmount = 0 ∧ 0 < originalTotal then
    let restoredAmount := convertPrice env originalTotal order.currency target
    if 0 < restoredAmount then restoredAmount else originalTotal
  else finalAmount

end Prices

end OrderPricing

end SuuqBackend
