import SuuqBackend.Orders.Laws.AggregateStatuses
import SuuqBackend.Orders.Laws.DisputeRefunds
import SuuqBackend.Vendor.Laws.UnpaidOrders

/-!
# Runs that keep the status of an order and those of its items together

The update of an item stores the item, and then the order with another status and the items from before, if the routine
of the service makes another status of the items.  An assignment and a payment store a status that no items are looked
at for.  `status_reflects` says in which runs the status of every order is the one that its items determine: those in
which every call leaves the items such that they determine the status that is stored.
-/

namespace SuuqBackend

open Proc OrderPayments

/-! ### Calls -/

/-- The order is delivered or cancelled in one of the three ways. -/
def OrderStatus.IsClosed (status : OrderStatus) : Prop := status = .delivered ∨ status.IsCancelled
deriving Decidable

/-- A status that a closed order is not to get any more. -/
def OrderStatus.IsOpen (status : OrderStatus) : Prop := status = .pending ∨ status = .processing ∨ status = .shipped
deriving Decidable

/-- The status of every order is the one that its items determine. -/
def FulfillmentStore.Reflecting (s : FulfillmentStore) : Prop :=
  ∀ orderId, ∀ order ∈ s.order.orders.lookup orderId, Reflects order.items order.status

/-- No order that is cancelled or delivered is opened again. -/
def FulfillmentStore.KeepsClosed (s s' : FulfillmentStore) : Prop :=
  ∀ orderId, ∀ order ∈ s.order.orders.lookup orderId, ∀ order' ∈ s'.order.orders.lookup orderId,
    order.status.IsClosed → ¬ order'.status.IsOpen

/-- A call that gives an order or an item a status. -/
inductive StatusCall where
  | vendor (call : VendorCall)
  | updateOrderItemStatus (env : FulfillmentRuntime) (orderId itemId : ℕ) (next : OrderStatus)
  | assignDeliverer (env : FulfillmentRuntime) (orderId delivererId : ℕ)
  | completeOrder (env : PaymentRuntime) (orderId : ℕ)

namespace StatusCall

def proc : StatusCall → FulfillmentProc Unit
  | vendor call => call.proc
  | updateOrderItemStatus env orderId itemId next =>
    Proc.zoom FulfillmentStore.orderLens (OrderItems.updateOrderItemStatus env orderId itemId next)
  | assignDeliverer env orderId delivererId => OrderItems.assignDeliverer env orderId delivererId
  | completeOrder env orderId => do
    let _ ← Proc.zoom FulfillmentStore.orderLens (triggerPostPaymentProcessing env orderId)

def step (s : FulfillmentStore) (call : StatusCall) : FulfillmentStore := (call.proc.run s).2

def orderId : StatusCall → ℕ
  | vendor call => call.orderId
  | updateOrderItemStatus _ orderId _ _ | assignDeliverer _ orderId _ | completeOrder _ orderId => orderId

/-- The items of the order determine the status that the call leaves it with, and the routine of the service finds that
status: the routine of the vendors looks at the cancelled items where all others are delivered, and that of the
administrators where some are cancelled and some are not. -/
def FollowsItems (order : Order) (s : FulfillmentStore) : StatusCall → Prop
  | vendor (.updateOrderStatus env vendorId orderId status) =>
    (VendorCall.updateOrderStatus env vendorId orderId status).Allowed s order → Reflects order.items status
  | vendor (.updateOrderItemStatus env vendorId orderId itemId next) =>
    (VendorCall.updateOrderItemStatus env vendorId orderId itemId next).Allowed s order →
      Reflects (order.updated itemId next).items order.status ∧
        ((∀ item ∈ (order.updated itemId next).items, ¬ item.status.IsCancelled) ∨
          ∃ item ∈ (order.updated itemId next).items, ¬ item.status.IsCancelled ∧ item.status ≠ .delivered)
  | vendor (.createShipment vendorId orderId items) =>
    (VendorCall.createShipment vendorId orderId items).Allowed s order →
      Reflects (order.shipped (VendorOrders.rowsOf items order)).items order.status
  | vendor (.assignDelivererByVendor env vendorId orderId delivererId) =>
    (VendorCall.assignDelivererByVendor env vendorId orderId delivererId).Allowed s order →
      Reflects order.items .shipped
  | updateOrderItemStatus _ _ itemId next =>
    (∃ item ∈ order.items, item.id = itemId) →
      Reflects (order.updated itemId next).items order.status ∧
        ((∀ item ∈ (order.updated itemId next).items, ¬ item.status.IsCancelled) ∨
          ∀ item ∈ (order.updated itemId next).items, item.status.IsCancelled)
  | assignDeliverer _ _ delivererId => s.HasRole delivererId .deliverer → Reflects order.items .shipped
  | completeOrder _ _ =>
    order.paymentStatus ≠ .paid → Reflects (order.items.map processedItem) .processing

instance (order : Order) (s : FulfillmentStore) : ∀ call : StatusCall, Decidable (call.FollowsItems order s)
  | vendor (.updateOrderStatus ..) | vendor (.createShipment ..) | vendor (.assignDelivererByVendor ..)
  | assignDeliverer .. | completeOrder .. => inferInstanceAs (Decidable (_ → _))
  | vendor (.updateOrderItemStatus ..) => inferInstanceAs (Decidable (_ → _ ∧ (_ ∨ ∃ _ ∈ _, _ ∧ _)))
  | updateOrderItemStatus .. => inferInstanceAs (Decidable ((∃ _ ∈ _, _) → _ ∧ (_ ∨ _)))

/-- The same for the order that the call is on, if there is one. -/
def Follows (s : FulfillmentStore) (call : StatusCall) : Prop :=
  ∀ order ∈ s.order.orders.lookup call.orderId, call.FollowsItems order s
deriving Decidable

end StatusCall

/-! ### Items -/

section Items

variable {order : Order} {items : List OrderItem} {status : OrderStatus}

theorem Reflects.eq_aggregate (h : Reflects items status) (hsees : (∀ item ∈ items, ¬ item.status.IsCancelled) ∨
    ∃ item ∈ items, ¬ item.status.IsCancelled ∧ item.status ≠ .delivered) :
    status = VendorOrders.computeAggregateStatus items := by
  have hnot : ¬ (items ≠ [] ∧ ∀ item ∈ items, item.status.IsCancelled) := by
    rintro ⟨hne, hall⟩
    rcases hsees with hnone | ⟨item, hitem, hlive, -⟩
    · obtain ⟨item, hitem⟩ := List.exists_mem_of_ne_nil items hne
      exact hnone item hitem (hall item hitem)
    · exact hlive (hall item hitem)
  rw [← computeAggregateStatus_liveItems hsees]
  exact (reflects_iff_of_not hnot).mp h

theorem ids_withItem (order : Order) (item : OrderItem) :
    (order.withItem item).items.map (·.id) = order.items.map (·.id) := by
  unfold Order.withItem
  rw [List.map_map]
  refine List.map_congr_left fun other _ => ?_
  dsimp only [Function.comp_apply]
  split_ifs with hid
  · exact hid.symm
  · rfl

theorem mem_withItem {item : OrderItem} (h : item.id ∈ order.items.map (·.id)) : item ∈ (order.withItem item).items := by
  obtain ⟨other, hother, hid⟩ := List.mem_map.mp h
  exact List.mem_map.mpr ⟨other, hother, if_pos hid⟩

theorem ids_shipped (order : Order) (rows : List OrderItem) :
    (order.shipped rows).items.map (·.id) = order.items.map (·.id) := by
  unfold Order.shipped
  induction rows generalizing order with
  | nil => rfl
  | cons item rows ih => rw [List.foldl_cons, ih, ids_withItem]

theorem exists_shipped {rows : List OrderItem} (hne : rows ≠ []) (hrows : ∀ item ∈ rows, item ∈ order.items) :
    ∃ item ∈ (order.shipped rows).items, item.status = .shipped := by
  have hsplit := List.dropLast_append_getLast hne
  have hlast : (rows.getLast hne).id ∈ (order.shipped rows.dropLast).items.map (·.id) := by
    rw [ids_shipped]
    exact List.mem_map_of_mem (hrows _ (List.getLast_mem hne))
  have hshipped : order.shipped rows =
      (order.shipped rows.dropLast).withItem ((rows.getLast hne).withStatus .shipped) := by
    conv_lhs => rw [← hsplit]
    unfold Order.shipped
    rw [List.foldl_append, List.foldl_cons, List.foldl_nil]
  refine ⟨(rows.getLast hne).withStatus .shipped, ?_, rfl⟩
  rw [hshipped]
  exact mem_withItem hlast

theorem status_updated (order : Order) (itemId : ℕ) (next : OrderStatus) :
    (order.updated itemId next).status = order.status := by
  unfold Order.updated
  cases order.items.find? fun item => item.id = itemId <;> rfl

theorem status_shipped (order : Order) (rows : List OrderItem) : (order.shipped rows).status = order.status := by
  unfold Order.shipped
  induction rows generalizing order with
  | nil => rfl
  | cons item rows ih =>
    rw [List.foldl_cons, ih]
    rfl

theorem aggregated_eq {order' : Order} (h : order.status = VendorOrders.computeAggregateStatus order'.items) :
    aggregated order order' = order' := by
  unfold aggregated
  rw [if_neg (not_not.mpr h)]

theorem map_processedItem_of_isClosed (h : Reflects items status) (hclosed : status.IsClosed) :
    items.map processedItem = items := by
  have hall : ∀ item ∈ items, item.status.IsCancelled ∨ item.status = .delivered := by
    intro item hitem
    rcases hclosed with rfl | hcancelled
    · exact h.all_delivered item hitem
    · exact .inl ((h.all_cancelled hcancelled).2 item hitem)
  refine (List.map_congr_left fun item hitem => ?_).trans (List.map_id _)
  refine if_neg fun hpending => ?_
  have hitem := hall item hitem
  rw [hpending] at hitem
  exact absurd hitem (by decide)

end Items

/-! ### Steps -/

section Steps

variable {s : FulfillmentStore} {orderId : ℕ} {order : Order}

theorem orders_storeAggregate (env : FulfillmentRuntime) (orderId : ℕ) (order : Order) (items : List LoadedItem)
    (aggregate : OrderStatus) (t : OrderStore) :
    (run (OrderItems.storeAggregate env orderId order items aggregate) t).2.orders = t.orders ∨
      ∃ time, (run (OrderItems.storeAggregate env orderId order items aggregate) t).2.orders =
        t.orders.insert orderId { order.withReleasedAt time with status := aggregate } := by
  unfold OrderItems.storeAggregate OrderItems.releaseFor
  by_cases hends : OrderItems.EndsReservation aggregate
  · rw [if_pos hends]
    have hstock := restocked_releaseOnlineReservation env.now order items t
    rcases hrun : run (OnlineReservations.releaseOnlineReservation env.now order items) t with ⟨outcome, t'⟩
    rw [hrun] at hstock
    obtain ⟨inventory, rfl⟩ := hstock
    cases outcome with
    | error failure =>
      rw [run_bind_of_error hrun]
      exact .inl rfl
    | ok released =>
      obtain ⟨time, rfl⟩ := released_eq env.now order items hrun
      rw [run_bind_of_ok hrun, run_write_bind, readOnly_ofExcept env.notifyOrderStatusChange]
      exact .inr ⟨time, rfl⟩
  · rw [if_neg hends, pure_bind, run_write_bind, readOnly_ofExcept env.notifyOrderStatusChange]
    exact .inr ⟨order.onlineReservationReleasedAt, rfl⟩

theorem orders_updateOrderItemStatus (h : s.order.orders.lookup orderId = some order) (env : FulfillmentRuntime)
    (itemId : ℕ) (next : OrderStatus) :
    let aggregate := OrderItems.computeAggregateStatus (order.updated itemId next).items
    let t := (run (OrderItems.updateOrderItemStatus env orderId itemId next) s.order).2
    ((¬ ∃ item ∈ order.items, item.id = itemId) ∧ t = s.order) ∨
      ((∃ item ∈ order.items, item.id = itemId) ∧
        (t.orders = s.order.orders.insert orderId (order.updated itemId next) ∨
          order.status ≠ aggregate ∧ ∃ time, t.orders = s.order.orders.insert orderId
            { order.withReleasedAt time with status := aggregate })) := by
  have hfind : s.order.findItem orderId itemId =
      (order.items.find? fun item => item.id = itemId).map fun item => (order, item) := by
    unfold OrderStore.findItem
    rw [h]
    exact Option.map_eq_bind.symm
  unfold OrderItems.updateOrderItemStatus
  rw [run_read_bind, hfind]
  cases hitem : order.items.find? fun item => item.id = itemId with
  | none =>
    refine .inl ⟨?_, rfl⟩
    rintro ⟨item, hmem, hid⟩
    have hnot := List.find?_eq_none.mp hitem item hmem
    rw [decide_eq_true_eq] at hnot
    exact hnot hid
  | some item =>
    have hfound : ∃ item ∈ order.items, item.id = itemId :=
      ⟨item, List.mem_of_find?_eq_some hitem, by simpa using List.find?_some hitem⟩
    have hupdated : order.updated itemId next = order.withItem (item.withStatus next) := by
      unfold Order.updated
      rw [hitem]
    have hsaved : s.order.saveItem orderId (item.withStatus next) =
        s.order.saveOrder orderId (order.updated itemId next) := by
      rw [OrderStore.saveItem_of_lookup h, hupdated]
    have hitems : (s.order.saveOrder orderId (order.updated itemId next)).itemsOf orderId =
        (order.updated itemId next).items := by
      unfold OrderStore.saveOrder OrderStore.itemsOf
      rw [Finmap.lookup_insert]
      rfl
    refine .inr ⟨hfound, ?_⟩
    dsimp only [Option.map_some]
    unfold OrderItem.withStatus at hsaved
    rw [run_read_bind, run_write_bind, hsaved, run_read_bind, hitems]
    by_cases hsame : order.status ≠ OrderItems.computeAggregateStatus (order.updated itemId next).items
    · rw [if_pos hsame]
      rcases orders_storeAggregate env orderId order (order.items.map s.order.loadItem)
          (OrderItems.computeAggregateStatus (order.updated itemId next).items)
          (s.order.saveOrder orderId (order.updated itemId next)) with hkept | ⟨time, hstored⟩
      · exact .inl hkept
      · refine .inr ⟨hsame, time, ?_⟩
        rw [hstored]
        exact Finmap.insert_insert _
    · rw [if_neg hsame]
      exact .inl rfl

theorem orders_triggerPostPaymentProcessing (h : s.order.orders.lookup orderId = some order) (env : PaymentRuntime) :
    (run (triggerPostPaymentProcessing env orderId) s.order).2.orders =
      if order.paymentStatus = .paid then s.order.orders else s.order.orders.insert orderId (paidOrder order) := by
  unfold triggerPostPaymentProcessing
  rw [run_read_bind, loadOrder_eq h]
  dsimp only
  by_cases hpaid : order.paymentStatus = .paid
  · rw [if_pos hpaid, if_pos hpaid]
    rfl
  · rw [if_neg hpaid, if_neg hpaid, run_write_bind, snd_run_bind_readOnly _ fun _ => readOnly_pure _]
    have henters := OrderStore.entersOnly_run (acts_forEach fun loaded (_ : loaded ∈ order.items.map s.order.loadItem) =>
      (acts_processItem env orderId loaded).mono fun _ _ => OrderStore.EntersOnly.mono fun tx _ => trivial)
      (s.order.saveOrder orderId (paidOrder order))
    exact henters.orders_eq

/-- The orders stay, or one is stored with a status that its items determine, and stays closed if it was. -/
def StoresReflecting (s s' : FulfillmentStore) (orderId : ℕ) : Prop :=
  s'.order.orders = s.order.orders ∨ ∃ order ∈ s.order.orders.lookup orderId, ∃ order',
    s'.order.orders = s.order.orders.insert orderId order' ∧ Reflects order'.items order'.status ∧
      (order.status.IsClosed → order'.status.IsClosed)

theorem storesReflecting_vendor (h : s.order.orders.lookup orderId = some order) (hI : Reflects order.items order.status)
    {call : VendorCall} (hid : call.orderId = orderId) (hfollows : (StatusCall.vendor call).FollowsItems order s) :
    StoresReflecting s (call.step s) orderId := by
  subst hid
  rw [vendor_step_of_lookup h]
  by_cases hallowed : call.Allowed s order
  swap
  · rw [if_neg hallowed]
    exact .inl rfl
  rw [if_pos hallowed]
  refine .inr ⟨order, h, call.stored order, rfl, ?_⟩
  have hunique {status : OrderStatus} (hnew : Reflects order.items status) (hclosed : order.status.IsClosed) :
      status.IsClosed := by
    rcases hI.unique hnew with rfl | ⟨-, hcancelled⟩
    · exact hclosed
    · exact .inr hcancelled
  cases call with
  | updateOrderStatus env vendorId orderId status => exact ⟨hfollows hallowed, hunique (hfollows hallowed)⟩
  | updateOrderItemStatus env vendorId orderId itemId next =>
    obtain ⟨hreflects, hsees⟩ := hfollows hallowed
    have hstored : VendorCall.stored order (.updateOrderItemStatus env vendorId orderId itemId next) =
        order.updated itemId next := aggregated_eq (hreflects.eq_aggregate hsees)
    rw [hstored, status_updated]
    exact ⟨hreflects, id⟩
  | createShipment vendorId orderId items =>
    have hreflects := hfollows hallowed
    obtain ⟨hempty, hlength, -⟩ := hallowed
    have hrows : VendorOrders.rowsOf items order ≠ [] := by
      intro hnil
      rw [hnil] at hlength
      exact hempty (List.length_eq_zero_iff.mp hlength.symm)
    obtain ⟨item, hitem, hshipped⟩ := exists_shipped hrows fun item hitem => List.mem_of_mem_filter hitem
    have hlive : ¬ item.status.IsCancelled ∧ item.status ≠ .delivered := by
      rw [hshipped]
      decide
    have hstored : VendorCall.stored order (.createShipment vendorId orderId items) =
        order.shipped (VendorOrders.rowsOf items order) :=
      aggregated_eq (hreflects.eq_aggregate (.inr ⟨item, hitem, hlive⟩))
    rw [hstored, status_shipped]
    exact ⟨hreflects, id⟩
  | assignDelivererByVendor env vendorId orderId delivererId =>
    exact ⟨hfollows hallowed, hunique (hfollows hallowed)⟩

variable {env : FulfillmentRuntime} {call : StatusCall}

section

variable (h : s.order.orders.lookup orderId = some order)

include h

section

variable (hI : Reflects order.items order.status)

include hI

theorem storesReflecting_updateOrderItemStatus {itemId : ℕ} {next : OrderStatus}
    (hfollows : (StatusCall.updateOrderItemStatus env orderId itemId next).FollowsItems order s) :
    StoresReflecting s ((StatusCall.updateOrderItemStatus env orderId itemId next).step s) orderId := by
  have hstep : (StatusCall.updateOrderItemStatus env orderId itemId next).step s = FulfillmentStore.orderLens.set s
      (run (OrderItems.updateOrderItemStatus env orderId itemId next) s.order).2 := by
    unfold StatusCall.step StatusCall.proc
    rw [run_zoom]
    rfl
  rw [hstep]
  rcases orders_updateOrderItemStatus h env itemId next with ⟨-, hsame⟩ | ⟨hfound, hstored⟩
  · rw [hsame]
    exact .inl rfl
  obtain ⟨hreflects, hsees⟩ := hfollows hfound
  rcases hstored with hitems | ⟨hne, time, hstatus⟩
  · refine .inr ⟨order, h, order.updated itemId next, hitems, ?_⟩
    rw [status_updated]
    exact ⟨hreflects, id⟩
  · -- The routine finds another status: all items are cancelled, and were so before.
    refine .inr ⟨order, h, _, hstatus, ?_⟩
    have hnone : ¬ ∀ item ∈ (order.updated itemId next).items, ¬ item.status.IsCancelled := by
      intro hnone
      exact hne ((hreflects.eq_aggregate (.inl hnone)).trans (aggregates_eq hnone).symm)
    have hall := hsees.resolve_left hnone
    have hempty : (order.updated itemId next).items ≠ [] := by
      intro hnil
      rw [hnil] at hnone
      exact hnone fun item hitem => absurd hitem List.not_mem_nil
    have hcancelled := (reflects_iff_of_all hempty hall).mp hreflects
    obtain ⟨item, hitem⟩ := List.exists_mem_of_ne_nil _ hempty
    have haggregate := aggregate_isCancelled ⟨item, hitem, hall item hitem⟩
    obtain ⟨hempty', hall'⟩ := hI.all_cancelled hcancelled
    exact ⟨(reflects_iff_of_all hempty' hall').mpr haggregate, fun _ => .inr haggregate⟩

/-- An assignment by an administrator of an order that its items determine to be shipped. -/
theorem storesReflecting_assignDeliverer {delivererId : ℕ}
    (hfollows : (StatusCall.assignDeliverer env orderId delivererId).FollowsItems order s) :
    StoresReflecting s ((StatusCall.assignDeliverer env orderId delivererId).step s) orderId := by
  unfold StatusCall.step StatusCall.proc OrderItems.assignDeliverer
  rw [run_read_bind, h]
  rw [run_read_bind, run_throwIf_bind]
  by_cases hrole : s.HasRole delivererId .deliverer
  swap
  · rw [if_pos (decide_eq_false hrole)]
    exact .inl rfl
  rw [if_neg fun hfalse => of_decide_eq_false hfalse hrole, run_write_bind, run_write_bind,
    FulfillmentStore.saveOrder_saveOrder, ((readOnly_ofExcept _).bind fun _ => readOnly_ofExcept _)]
  have hnew : Reflects order.items .shipped := hfollows hrole
  refine .inr ⟨order, h, _, rfl, hnew, fun hclosed => ?_⟩
  rcases hI.unique hnew with heq | ⟨-, hcancelled⟩
  · rw [heq] at hclosed
    exact hclosed
  · exact .inr hcancelled

theorem storesReflecting_completeOrder {env : PaymentRuntime}
    (hfollows : (StatusCall.completeOrder env orderId).FollowsItems order s) :
    StoresReflecting s ((StatusCall.completeOrder env orderId).step s) orderId := by
  have hstep : (StatusCall.completeOrder env orderId).step s = FulfillmentStore.orderLens.set s
      (run (triggerPostPaymentProcessing env orderId) s.order).2 := by
    unfold StatusCall.step StatusCall.proc
    rw [snd_run_bind_readOnly _ fun _ => readOnly_pure _, run_zoom]
    rfl
  have horders := orders_triggerPostPaymentProcessing h env
  rw [hstep]
  by_cases hpaid : order.paymentStatus = .paid
  · rw [if_pos hpaid] at horders
    exact .inl horders
  · rw [if_neg hpaid] at horders
    have hnew := hfollows hpaid
    refine .inr ⟨order, h, _, horders, hnew, fun hclosed => ?_⟩
    have hsame := map_processedItem_of_isClosed hI hclosed
    rw [hsame] at hnew
    rcases hI.unique hnew with heq | ⟨-, hcancelled⟩
    · rw [heq] at hclosed
      exact absurd hclosed (by decide)
    · exact absurd hcancelled (by decide)

end

end

theorem status_step_of_unknown (h : s.order.orders.lookup call.orderId = none) : call.step s = s := by
  cases call with
  | vendor call => exact vendor_step_of_unknown h
  | updateOrderItemStatus env orderId itemId next =>
    have hfind : s.order.findItem orderId itemId = none := by
      unfold OrderStore.findItem
      rw [show s.order.orders.lookup orderId = none from h]
      rfl
    unfold StatusCall.step StatusCall.proc OrderItems.updateOrderItemStatus
    rw [run_zoom, run_read_bind, show FulfillmentStore.orderLens.get s = s.order from rfl, hfind]
    rfl
  | assignDeliverer env orderId delivererId =>
    unfold StatusCall.step StatusCall.proc OrderItems.assignDeliverer
    rw [run_read_bind, show s.order.orders.lookup orderId = none from h]
    rfl
  | completeOrder env orderId =>
    have hload : s.order.loadOrder orderId = none := by
      unfold OrderStore.loadOrder
      rw [show s.order.orders.lookup orderId = none from h]
      rfl
    unfold StatusCall.step StatusCall.proc triggerPostPaymentProcessing
    rw [snd_run_bind_readOnly _ fun _ => readOnly_pure _, run_zoom, run_read_bind,
      show FulfillmentStore.orderLens.get s = s.order from rfl, hload]
    rfl

/-- **A call that follows the items** leaves every order with the status that its items determine. -/
theorem storesReflecting_step (hI : s.Reflecting) (hfollows : call.Follows s) :
    StoresReflecting s (call.step s) call.orderId := by
  cases hlookup : s.order.orders.lookup call.orderId with
  | none =>
    rw [status_step_of_unknown hlookup]
    exact .inl rfl
  | some order =>
    have horder := hI call.orderId order hlookup
    have hfollows := hfollows order hlookup
    cases call with
    | vendor call => exact storesReflecting_vendor hlookup horder rfl hfollows
    | updateOrderItemStatus env orderId itemId next =>
      exact storesReflecting_updateOrderItemStatus hlookup horder hfollows
    | assignDeliverer env orderId delivererId => exact storesReflecting_assignDeliverer hlookup horder hfollows
    | completeOrder env orderId => exact storesReflecting_completeOrder hlookup horder hfollows

end Steps

/-! ### Runs -/

section Runs

variable {s s' s'' : FulfillmentStore}

def KeepsClosedOrders (s s' : FulfillmentStore) : Prop :=
  ∀ orderId, ∀ order ∈ s.order.orders.lookup orderId, order.status.IsClosed →
    ∃ order' ∈ s'.order.orders.lookup orderId, order'.status.IsClosed

theorem KeepsClosedOrders.refl (s : FulfillmentStore) : KeepsClosedOrders s s :=
  fun _ order horder hclosed => ⟨order, horder, hclosed⟩

theorem KeepsClosedOrders.trans (h : KeepsClosedOrders s s') (h' : KeepsClosedOrders s' s'') :
    KeepsClosedOrders s s'' := by
  intro orderId order horder hclosed
  obtain ⟨order', horder', hclosed'⟩ := h orderId order horder hclosed
  exact h' orderId order' horder' hclosed'

theorem KeepsClosedOrders.keepsClosed (h : KeepsClosedOrders s s') : s.KeepsClosed s' := by
  intro orderId order horder order' horder' hclosed hopen
  obtain ⟨found, hfound, hclosed'⟩ := h orderId order horder hclosed
  obtain rfl : order' = found := Option.mem_unique horder' hfound
  cases hstatus : order'.status <;> rw [hstatus] at hclosed' hopen <;> revert hclosed' hopen <;> decide

theorem StoresReflecting.keeps {orderId : ℕ} (h : StoresReflecting s s' orderId) (hI : s.Reflecting) :
    s'.Reflecting ∧ KeepsClosedOrders s s' := by
  rcases h with hsame | ⟨order, horder, order', hstored, hreflects, hcloses⟩
  · unfold FulfillmentStore.Reflecting KeepsClosedOrders
    rw [hsame]
    exact ⟨hI, KeepsClosedOrders.refl s⟩
  · have hself : s'.order.orders.lookup orderId = some order' := by
      rw [hstored]
      exact Finmap.lookup_insert _
    have hother {id : ℕ} (hid : id ≠ orderId) : s'.order.orders.lookup id = s.order.orders.lookup id := by
      rw [hstored]
      exact Finmap.lookup_insert_of_ne _ hid
    constructor
    · intro id found hfound
      by_cases hid : id = orderId
      · subst hid
        obtain rfl : order' = found := Option.mem_unique hself hfound
        exact hreflects
      · exact hI id found (hother hid ▸ hfound)
    · intro id found hfound hclosed
      by_cases hid : id = orderId
      · subst hid
        obtain rfl : order = found := Option.mem_unique horder hfound
        exact ⟨order', hself, hcloses hclosed⟩
      · exact ⟨found, (hother hid).symm ▸ hfound, hclosed⟩

/-- **The status of an order is the one that its items determine, and closed orders stay closed**, in every run whose
calls follow the items; and the two routines agree on the items that are none of them cancelled. -/
theorem status_reflects {s : FulfillmentStore} (hs : s.Reflecting) {calls : List StatusCall}
    (hcalls : Run.Along StatusCall.step (fun s call => call.Follows s) s calls) :
    (∀ n, (Run.after StatusCall.step s (calls.take n)).Reflecting) ∧
    (∀ n m, n ≤ m → (Run.after StatusCall.step s (calls.take n)).KeepsClosed
      (Run.after StatusCall.step s (calls.take m))) ∧
    ∀ items, OrderItems.computeAggregateStatus items = VendorOrders.computeAggregateStatus items ↔
      ∀ item ∈ items, ¬ item.status.IsCancelled := by
  have hstep (t : FulfillmentStore) (call : StatusCall) (ht : t.Reflecting) (hfollows : call.Follows t) :
      (call.step t).Reflecting ∧ KeepsClosedOrders t (call.step t) := (storesReflecting_step ht hfollows).keeps ht
  refine ⟨fun n => ?_, fun n m hnm => KeepsClosedOrders.keepsClosed ?_, aggregates_agree_iff⟩
  · exact Run.after_induction (fun t call ht hfollows => (hstep t call ht hfollows).1) hs (Run.along_take hcalls n)
  · exact Run.rel_take KeepsClosedOrders.refl (fun _ _ _ => KeepsClosedOrders.trans) hstep hs hcalls hnm

end Runs

def twoItemOrder : Order where
  items := [⟨11, some 7, 1, ⟨10000⟩, ⟨9500⟩, .pending⟩, ⟨12, some 7, 2, ⟨10000⟩, ⟨9500⟩, .pending⟩]
  paymentStatus := .unpaid
  status := .pending
  currency := "ETB"

/-- It is paid, and one of its items is cancelled by the vendor. -/
def cancellingCalls : List StatusCall :=
  [.completeOrder (payoutRuntime payoutMade) 1,
    .vendor (.updateOrderItemStatus fulfillmentRuntime 5 1 12 .cancelledBySeller)]

theorem reflecting_of_orders {s : FulfillmentStore} {orderId : ℕ} {order : Order}
    (horders : s.order.orders = Finmap.singleton orderId order) (h : Reflects order.items order.status) :
    s.Reflecting := by
  intro id found hfound
  rw [horders] at hfound
  by_cases hid : id = orderId
  · subst hid
    obtain rfl : order = found := Option.some.inj ((Finmap.lookup_singleton_eq).symm.trans hfound)
    exact h
  · have hnone : (Finmap.singleton orderId order : Table ℕ Order).lookup id = none := by
      rw [Finmap.lookup_eq_none, Finmap.mem_singleton]
      exact hid
    exact nomatch hnone.symm.trans hfound

/-- The order and its items, in the tables of `mpesaOrder`. -/
def twoItemStore : FulfillmentStore :=
  { mpesaOrder with order := { oneItemOrder 0 with orders := Finmap.singleton 1 twoItemOrder } }

theorem status_reflects_cancellingCalls :
    let state (n : ℕ) := Run.after StatusCall.step twoItemStore (cancellingCalls.take n)
    ((state 2).order.statusOf 1 = some .processing ∧
      ((state 2).order.itemsOf 1).map (·.status) = [.processing, .cancelledBySeller]) ∧
    ∀ n, (state n).Reflecting :=
  ⟨by decide +kernel, (status_reflects (reflecting_of_orders rfl (by decide +kernel)) (by decide +kernel)).1⟩

/-- The vendor cancels the only item of an order, and the order stays `PENDING`; an order that was delivered and is
given to a deliverer is `SHIPPED` again; and the two services make different statuses of a cancelled item. -/
theorem status_of_cancelled_item :
    let delivered : FulfillmentStore := { mpesaOrder with
      order := { oneItemOrder 0 with
        orders := Finmap.singleton 1 { twoItemOrder with
          items := [⟨11, some 7, 1, ⟨10000⟩, ⟨9500⟩, .delivered⟩], status := .delivered } } }
    let cancelled := (StatusCall.vendor (.updateOrderItemStatus fulfillmentRuntime 5 1 11 .cancelledBySeller)).step
      mpesaOrder
    let assigned := (StatusCall.vendor (.assignDelivererByVendor fulfillmentRuntime 5 1 40)).step delivered
    (cancelled.order.statusOf 1 = some .pending ∧
      (cancelled.order.itemsOf 1).map (·.status) = [.cancelledBySeller] ∧
      ¬ Reflects (cancelled.order.itemsOf 1) .pending) ∧
    (delivered.order.statusOf 1 = some .delivered ∧ assigned.order.statusOf 1 = some .shipped) ∧
    OrderItems.computeAggregateStatus (cancelled.order.itemsOf 1) ≠
      VendorOrders.computeAggregateStatus (cancelled.order.itemsOf 1) := by
  decide

end SuuqBackend
