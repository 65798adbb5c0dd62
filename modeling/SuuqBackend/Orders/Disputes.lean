import SuuqBackend.Orders.Placements

/-!
# Disputes of orders

`OrdersService`: `disputeOrder` opens the dispute of an order, and `resolveDispute` and `refundDispute` close it, for the
vendors or for the buyer.  An order has one dispute (`REL_dispute_order`).

The notification of the buyer is left out.
-/

namespace SuuqBackend

/-- `DisputeStatus`; `opened` is `OPEN`. -/
inductive DisputeStatus where
  | opened
  | resolved
  | refunded
deriving DecidableEq

structure Dispute where
  orderId : ℕ
  reason : String
  details : Option String
  status : DisputeStatus := .opened
  resolutionNotes : Option String := none
  resolvedBy : Option ℕ := none
  resolvedAt : Option ℤ := none

structure DisputeStore where
  order : OrderStore
  placements : Table ℕ Placement
  disputes : SerialTable Dispute

abbrev DisputeProc : Type → Type := Proc DisputeStore HttpException

namespace DisputeStore

def orderLens : Proc.Lens DisputeStore OrderStore where
  get s := s.order
  set s order := { s with order }

def disputeOf (s : DisputeStore) (orderId : ℕ) : Option (ℕ × Dispute) :=
  s.disputes.first fun dispute => dispute.orderId = orderId

/-- `order.user`. -/
def buyerOf (s : DisputeStore) (orderId : ℕ) : Option ℕ :=
  ((s.placements.lookup orderId).bind (·.userId)).filter fun userId => (s.order.wallet.users.lookup userId).isSome

/-- `order.total`. -/
def totalOf (s : DisputeStore) (orderId : ℕ) : Numeric2 := ((s.placements.lookup orderId).map (·.total)).getD ⟨0⟩

end DisputeStore

namespace Disputes

def inOrders {α : Type} (p : OrderProc α) : DisputeProc α := Proc.zoom DisputeStore.orderLens p

variable (now : ℤ) (orderId : ℕ)

/-- `save` of a new dispute: its reason is not null, and it is the only one of the order. -/
def insertDispute (reason details : Option String) : DisputeProc Unit :=
  match reason with
  | none => throw (.queryFailed "null value in column \"reason\" of relation \"dispute\" violates not-null constraint")
  | some reason =>
    .step (fun s => if (s.disputeOf orderId).isSome then s
        else { s with disputes := s.disputes.add { orderId, reason, details } })
      fun s => if (s.disputeOf orderId).isSome then
        .fail (.queryFailed "duplicate key value violates unique constraint \"REL_dispute_order\"")
      else .done ()

/-- `save` of a dispute that was loaded. -/
def saveDispute (disputeId : ℕ) (dispute : Dispute) : DisputeProc Unit :=
  Proc.write fun s => { s with disputes := s.disputes.set disputeId dispute }

def disputeOrder (reason details : Option String) : DisputeProc Unit := do
  let some order ← Proc.read fun s : DisputeStore => s.order.orders.lookup orderId
    | throw (.notFound s!"Order #{orderId} not found")
  .throwIf (order.status = .disputed) (.badRequest "Order is already disputed")
  insertDispute orderId reason details
  inOrders (Proc.write fun s => s.saveOrder orderId { order with status := .disputed })

/-- The order is saved with another status, and its items are no longer reserved. -/
def closeOrder (order : Order) (items : List LoadedItem) (status : OrderStatus) : OrderProc Unit := do
  let released ← OnlineReservations.releaseOnlineReservation now { order with status } items
  Proc.write fun s => s.saveOrder orderId released

def openDispute (disputeId : ℕ) : DisputeProc Dispute := do
  let some dispute ← Proc.read fun s : DisputeStore => s.disputes.find disputeId
    | throw (.notFound "Dispute not found")
  .throwIf (dispute.status ≠ .opened) (.badRequest "Dispute already closed")
  return dispute

def closed (adminId : ℕ) (resolutionNotes : Option String) (status : DisputeStatus) (dispute : Dispute) : Dispute :=
  { dispute with
    status
    resolvedBy := some adminId
    resolutionNotes := resolutionNotes.or dispute.resolutionNotes
    resolvedAt := some now }

def resolveDispute (disputeId adminId : ℕ) (resolutionNotes : Option String) : DisputeProc Unit := do
  let dispute ← openDispute disputeId
  let found ← Proc.read fun s : DisputeStore => s.order.loadOrder dispute.orderId
  saveDispute disputeId (closed now adminId resolutionNotes .resolved dispute)
  match found with
  | none => throw (.internal "Cannot set properties of null (setting 'status')")
  | some (order, items) => inOrders (closeOrder now dispute.orderId order items .delivered)

/-- The earnings of an item are taken back from its vendor. -/
def clawBack (loaded : LoadedItem) : OrderProc Unit :=
  match loaded.vendor with
  | none => pure ()
  | some (vendorId, _) =>
    if 0 < loaded.item.vendorPayout.value then do
      let _ ← Proc.zoom OrderStore.walletLens (Wallets.creditWallet vendorId (-loaded.item.vendorPayout.value) .refund
        (some s!"Refund (Dispute Loss) for Order #{orderId}") (some orderId) false)
    else pure ()

def refundBuyer (total : Numeric2) (buyer : Option ℕ) : OrderProc Unit :=
  match buyer with
  | none => pure ()
  | some userId => do
    let _ ← Proc.zoom OrderStore.walletLens (Wallets.creditWallet userId total.value .refund
      (some s!"Refund (Dispute Win) for Order #{orderId}") (some orderId) false)

def refundDispute (disputeId adminId : ℕ) (resolutionNotes : Option String) : DisputeProc Unit := do
  let dispute ← openDispute disputeId
  let found ← Proc.read fun s : DisputeStore => s.order.loadOrder dispute.orderId
  let total ← Proc.read fun s : DisputeStore => s.totalOf dispute.orderId
  let buyer ← Proc.read fun s : DisputeStore => s.buyerOf dispute.orderId
  match found with
  | none => throw (.internal "Cannot read properties of null (reading 'items')")
  | some (order, items) =>
    inOrders (Proc.forEach items (clawBack dispute.orderId))
    inOrders (refundBuyer dispute.orderId total buyer)
    saveDispute disputeId (closed now adminId resolutionNotes .refunded dispute)
    inOrders (closeOrder now dispute.orderId order items .cancelled)

end Disputes

end SuuqBackend
