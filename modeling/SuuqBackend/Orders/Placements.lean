import SuuqBackend.Branches.InventoryLedger
import SuuqBackend.Orders.OrderStore

/-!
# Placements

What a row of `order` keeps of its placement, and nothing changes afterwards: the buyer, the total and the coupon.  It is
kept beside the other columns of the row, which are in `OrderStore`.
-/

namespace SuuqBackend

inductive PaymentMethod where
  | cod
  | stripe
  | mpesa
  | telebirr
  | ebirr
  | cbe
  | waafi
  | dmoney
  | bankTransfer
  | credit
deriving DecidableEq

/-- The columns of a row of `order` that its placement writes. -/
structure Placement where
  userId : Option ℕ
  total : Numeric2
  paymentMethod : PaymentMethod
  discountAmount : Numeric2 := ⟨0⟩
  couponCode : Option String := none
  createdAt : ℤ

end SuuqBackend

/-!
## Online reservations of orders

`applyOnlineReservation` and `releaseOnlineReservation` of `OrdersService`: the items of an order are reserved in its
branch, and taken back once.  Both leave the order to be saved by their callers.  The items of an order have products,
which the database keeps as long as the items are there.
-/

namespace SuuqBackend.OnlineReservations

def adjustItem (branchId : ℕ) (quantity : ℤ) (loaded : LoadedItem) : OrderProc Unit :=
  match loaded.product with
  | none => pure ()
  | some (productId, _) => do
    let _ ← Proc.zoom OrderStore.inventoryLens (InventoryLedger.adjustReservedOnline
      { branchId, productId, quantityDelta := quantity })

def applyOnlineReservation (order : Order) (items : List LoadedItem) : OrderProc Order :=
  match order.fulfillmentBranchId with
  | none => pure order
  | some branchId =>
    if items = [] then pure order
    else do
      Proc.forEach items fun loaded => adjustItem branchId loaded.item.quantity loaded
      return { order with onlineReservationReleasedAt := none }

def releaseOnlineReservation (now : ℤ) (order : Order) (items : List LoadedItem) : OrderProc Order :=
  match order.fulfillmentBranchId with
  | none => pure order
  | some branchId =>
    if items = [] ∨ order.onlineReservationReleasedAt.isSome then pure order
    else do
      Proc.forEach items fun loaded => adjustItem branchId (-loaded.item.quantity) loaded
      return { order with onlineReservationReleasedAt := some now }

end SuuqBackend.OnlineReservations
