import SuuqBackend.Vendor.VendorOrders

/-!
# What a call of a vendor does

A call that passes its checks stores the order once more, and a call that does not stores nothing (`vendor_step_of_lookup`,
`vendor_step_of_unknown`).  The order that is stored after an update of its items has either the items as they were
updated, or another status and the items as they were before (`aggregated`).
-/

namespace SuuqBackend

open Proc VendorOrders

inductive VendorCall where
  | updateOrderStatus (env : FulfillmentRuntime) (vendorId orderId : ℕ) (status : OrderStatus)
  | updateOrderItemStatus (env : FulfillmentRuntime) (vendorId orderId itemId : ℕ) (next : OrderStatus)
  | createShipment (vendorId orderId : ℕ) (items : List ℕ)
  | assignDelivererByVendor (env : FulfillmentRuntime) (vendorId orderId delivererId : ℕ)

/-- The order as it is stored after an update of its items. -/
def aggregated (before after : Order) : Order :=
  let aggregate := computeAggregateStatus after.items
  if before.status ≠ aggregate then { before with status := aggregate } else after

def OrderItem.withStatus (item : OrderItem) (status : OrderStatus) : OrderItem := { item with status }

def Order.updated (order : Order) (itemId : ℕ) (next : OrderStatus) : Order :=
  match order.items.find? fun item => item.id = itemId with
  | none => order
  | some item => order.withItem (item.withStatus next)

def Order.shipped (order : Order) (rows : List OrderItem) : Order :=
  rows.foldl (fun order item => order.withItem (item.withStatus .shipped)) order

namespace VendorCall

def proc : VendorCall → FulfillmentProc Unit
  | updateOrderStatus env vendorId orderId status => VendorOrders.updateOrderStatus env vendorId orderId status
  | updateOrderItemStatus env vendorId orderId itemId next =>
    VendorOrders.updateOrderItemStatus env vendorId orderId itemId next
  | createShipment vendorId orderId items => VendorOrders.createShipment vendorId orderId items
  | assignDelivererByVendor env vendorId orderId delivererId =>
    VendorOrders.assignDelivererByVendor env vendorId orderId delivererId

def step (s : FulfillmentStore) (call : VendorCall) : FulfillmentStore := (call.proc.run s).2

def orderId : VendorCall → ℕ
  | updateOrderStatus _ _ orderId _ | updateOrderItemStatus _ _ orderId _ _ | createShipment _ orderId _
  | assignDelivererByVendor _ _ orderId _ => orderId

def Allowed (s : FulfillmentStore) (order : Order) : VendorCall → Prop
  | updateOrderStatus _ vendorId orderId status =>
    (order.items ≠ [] ∧ ∀ item ∈ order.items, s.order.vendorIdOf item = some vendorId) ∧
      status ∈ allowedNextOfOrder order.status ∧ ¬ (status = .shipped ∧ s.Owes orderId order)
  | updateOrderItemStatus _ vendorId orderId itemId next =>
    ∃ item ∈ order.items.find? fun item => item.id = itemId, s.order.vendorIdOf item = some vendorId ∧
      next ∈ allowedNextOfItem item.status ∧ ¬ (next.IsShippingLike ∧ s.Owes orderId order)
  | createShipment vendorId orderId items =>
    items ≠ [] ∧ (rowsOf items order).length = items.length ∧
      (∀ item ∈ rowsOf items order, s.order.vendorIdOf item = some vendorId) ∧
      (∀ item ∈ rowsOf items order, ShipsFrom item.status) ∧ ¬ s.Owes orderId order
  | assignDelivererByVendor _ vendorId _ delivererId =>
    (∃ item ∈ order.items, s.order.vendorIdOf item = some vendorId) ∧ s.HasRole delivererId .deliverer

instance (s : FulfillmentStore) (order : Order) : ∀ call : VendorCall, Decidable (call.Allowed s order)
  | updateOrderStatus .. => inferInstanceAs (Decidable ((_ ∧ _) ∧ _ ∧ ¬ (_ ∧ _)))
  | updateOrderItemStatus .. => inferInstanceAs (Decidable (∃ _ ∈ _, _ ∧ _ ∧ ¬ (_ ∧ _)))
  | createShipment .. => inferInstanceAs (Decidable (_ ∧ _ ∧ _ ∧ _ ∧ _))
  | assignDelivererByVendor .. => inferInstanceAs (Decidable ((∃ _ ∈ _, _) ∧ _))

def stored (order : Order) : VendorCall → Order
  | updateOrderStatus _ _ _ status => { order with status }
  | updateOrderItemStatus _ _ _ itemId next => aggregated order (order.updated itemId next)
  | createShipment _ _ items => aggregated order (order.shipped (rowsOf items order))
  | assignDelivererByVendor env _ _ delivererId => assignedOrder env delivererId order

end VendorCall

section Steps

variable {s : FulfillmentStore} {orderId : ℕ} {order : Order}

theorem OrderStore.saveOrder_saveOrder (s : OrderStore) (orderId : ℕ) (order order' : Order) :
    (s.saveOrder orderId order).saveOrder orderId order' = s.saveOrder orderId order' := by
  unfold OrderStore.saveOrder
  rw [Finmap.insert_insert]

theorem FulfillmentStore.saveOrder_saveOrder (s : FulfillmentStore) (orderId : ℕ) (order order' : Order) :
    (s.saveOrder orderId order).saveOrder orderId order' = s.saveOrder orderId order' := by
  unfold FulfillmentStore.saveOrder
  rw [OrderStore.saveOrder_saveOrder]

theorem OrderStore.saveItem_saveOrder (s : OrderStore) (orderId : ℕ) (order : Order) (item : OrderItem) :
    (s.saveOrder orderId order).saveItem orderId item = s.saveOrder orderId (order.withItem item) := by
  have hlookup : (s.saveOrder orderId order).orders.lookup orderId = some order := Finmap.lookup_insert _
  unfold OrderStore.saveItem
  rw [hlookup]
  exact OrderStore.saveOrder_saveOrder s orderId order _

theorem OrderStore.saveItem_of_lookup {s : OrderStore} (h : s.orders.lookup orderId = some order) (item : OrderItem) :
    s.saveItem orderId item = s.saveOrder orderId (order.withItem item) := by
  unfold OrderStore.saveItem
  rw [h]

theorem OrderStore.saveItems_saveOrder (s : OrderStore) (orderId : ℕ) (rows : List OrderItem) (order : Order) :
    rows.foldl (fun t item => t.saveItem orderId (item.withStatus .shipped)) (s.saveOrder orderId order) =
      s.saveOrder orderId (order.shipped rows) := by
  induction rows generalizing order with
  | nil => rfl
  | cons item rows ih =>
    rw [List.foldl_cons, OrderStore.saveItem_saveOrder]
    exact ih (order.withItem (item.withStatus .shipped))

theorem run_storeAggregate_bind {α : Type} (after : Order) (f : OrderStatus → FulfillmentProc α) :
    run (storeAggregate orderId order >>= f) (s.saveOrder orderId after) =
      run (f (computeAggregateStatus after.items)) (s.saveOrder orderId (aggregated order after)) := by
  have hitems : (s.saveOrder orderId after).order.itemsOf orderId = after.items := by
    unfold FulfillmentStore.saveOrder OrderStore.saveOrder OrderStore.itemsOf
    rw [Finmap.lookup_insert]
    rfl
  unfold storeAggregate aggregated
  rw [bind_assoc, run_read_bind, hitems]
  by_cases hsame : order.status ≠ computeAggregateStatus after.items
  · rw [if_pos hsame, if_pos hsame, bind_assoc, run_write_bind, FulfillmentStore.saveOrder_saveOrder]
    rfl
  · rw [if_neg hsame, if_neg hsame]
    rfl

section

variable (h : s.order.orders.lookup orderId = some order)

include h

variable (env : FulfillmentRuntime)

theorem snd_run_updateOrderStatus (vendorId : ℕ) (status : OrderStatus) :
    (run (VendorOrders.updateOrderStatus env vendorId orderId status) s).2 =
      if (VendorCall.updateOrderStatus env vendorId orderId status).Allowed s order then
        s.saveOrder orderId { order with status } else s := by
  unfold VendorOrders.updateOrderStatus
  rw [run_read_bind, h]
  rw [run_read_bind, run_throwIf_bind]
  by_cases hown : order.items ≠ [] ∧ ∀ item ∈ order.items, s.order.vendorIdOf item = some vendorId
  swap
  · rw [if_pos (decide_eq_false hown)]
    exact (if_neg fun hall => hown hall.1).symm
  rw [if_neg fun hfalse => of_decide_eq_false hfalse hown, run_read_bind]
  unfold moveOrder
  rw [run_throwIf_bind]
  by_cases hnext : status ∈ allowedNextOfOrder order.status
  swap
  · rw [if_pos hnext]
    exact (if_neg fun hall => hnext hall.2.1).symm
  rw [if_neg (not_not.mpr hnext), run_throwIf_bind]
  by_cases howes : status = .shipped ∧ s.Owes orderId order
  · rw [if_pos ⟨howes.1, decide_eq_true howes.2⟩]
    exact (if_neg fun hall => hall.2.2 howes).symm
  · have hallowed : (VendorCall.updateOrderStatus env vendorId orderId status).Allowed s order := ⟨hown, hnext, howes⟩
    rw [if_neg fun hboth => howes ⟨hboth.1, of_decide_eq_true hboth.2⟩, if_pos hallowed]
    exact readOnly_ofExcept env.notifyOrderStatusChange _

theorem snd_run_moveItem {item : OrderItem} (owes : Bool) (next : OrderStatus) :
    (run (moveItem env orderId order item owes next) s).2 =
      if next ∈ allowedNextOfItem item.status ∧ ¬ (next.IsShippingLike ∧ owes = true) then
        s.saveOrder orderId (aggregated order (order.withItem (item.withStatus next))) else s := by
  unfold moveItem
  rw [run_throwIf_bind]
  by_cases hnext : next ∈ allowedNextOfItem item.status
  swap
  · rw [if_pos hnext, if_neg fun hall => hnext hall.1]
  rw [if_neg (not_not.mpr hnext), run_throwIf_bind]
  by_cases howes : next.IsShippingLike ∧ owes = true
  · rw [if_pos howes, if_neg fun hall => hall.2 howes]
  have hsaved : ({ s with order := s.order.saveItem orderId (item.withStatus next) } : FulfillmentStore) =
      s.saveOrder orderId (order.withItem (item.withStatus next)) := by
    rw [OrderStore.saveItem_of_lookup h]
    rfl
  unfold OrderItem.withStatus at hsaved ⊢
  rw [if_neg howes, if_pos ⟨hnext, howes⟩, run_write_bind, hsaved, run_storeAggregate_bind]
  split_ifs
  · exact readOnly_ofExcept env.notifyOrderStatusChange _
  · rfl

theorem snd_run_updateOrderItemStatus (vendorId itemId : ℕ) (next : OrderStatus) :
    (run (VendorOrders.updateOrderItemStatus env vendorId orderId itemId next) s).2 =
      if (VendorCall.updateOrderItemStatus env vendorId orderId itemId next).Allowed s order then
        s.saveOrder orderId (aggregated order (order.updated itemId next)) else s := by
  have hfind : s.order.findItem orderId itemId =
      (order.items.find? fun item => item.id = itemId).map fun item => (order, item) := by
    unfold OrderStore.findItem
    rw [h]
    exact Option.map_eq_bind.symm
  unfold VendorOrders.updateOrderItemStatus Order.updated
  rw [run_read_bind, hfind]
  cases hitem : order.items.find? fun item => item.id = itemId with
  | none =>
    refine (if_neg ?_).symm
    rintro ⟨item, hfound, -⟩
    exact nomatch hitem.symm.trans hfound
  | some item =>
    dsimp only [Option.map_some]
    rw [run_read_bind, run_throwIf_bind]
    by_cases hown : s.order.vendorIdOf item = some vendorId
    · rw [if_neg (not_not.mpr hown), run_read_bind, snd_run_moveItem h]
      refine if_congr ?_ rfl rfl
      rw [decide_eq_true_eq]
      constructor
      · exact fun hall => ⟨item, hitem, hown, hall⟩
      · rintro ⟨item', hitem', -, hall⟩
        obtain rfl : item = item' := Option.mem_unique hitem hitem'
        exact hall
    · rw [if_pos hown]
      refine (if_neg ?_).symm
      rintro ⟨item', hitem', hvendor, -⟩
      obtain rfl : item = item' := Option.mem_unique hitem hitem'
      exact hown hvendor

theorem snd_run_shipItems {rows : List OrderItem} (hrows : rows ≠ []) (owes : Bool) :
    (run (shipItems orderId order rows owes) s).2 =
      if (∀ item ∈ rows, ShipsFrom item.status) ∧ owes = false then
        s.saveOrder orderId (aggregated order (order.shipped rows)) else s := by
  unfold shipItems
  cases hfind : rows.find? fun item => ¬ ShipsFrom item.status with
  | some item =>
    have hnot : ¬ ShipsFrom item.status := by simpa using List.find?_some hfind
    exact (if_neg fun hall => hnot (hall.1 item (List.mem_of_find?_eq_some hfind))).symm
  | none =>
    have hships : ∀ item ∈ rows, ShipsFrom item.status := by simpa using hfind
    rw [run_throwIf_bind]
    cases owes with
    | true => rw [if_pos rfl, if_neg fun hall => nomatch hall.2]
    | false =>
      have hsaved : FulfillmentStore.orderLens.set s
          (rows.foldl (fun t item => t.saveItem orderId (item.withStatus .shipped)) s.order) =
            s.saveOrder orderId (order.shipped rows) := by
        obtain ⟨item, rows', rfl⟩ := List.exists_cons_of_ne_nil hrows
        rw [List.foldl_cons, OrderStore.saveItem_of_lookup h, OrderStore.saveItems_saveOrder]
        rfl
      unfold FulfillmentStore.orderLens OrderItem.withStatus at hsaved
      dsimp only at hsaved
      unfold saveShipped
      rw [if_neg (fun hfalse => Bool.false_ne_true hfalse), if_pos ⟨hships, rfl⟩, run_write_bind, hsaved,
        run_storeAggregate_bind]
      rfl

theorem snd_run_createShipment (vendorId : ℕ) (items : List ℕ) :
    (run (VendorOrders.createShipment vendorId orderId items) s).2 =
      if (VendorCall.createShipment vendorId orderId items).Allowed s order then
        s.saveOrder orderId (aggregated order (order.shipped (rowsOf items order))) else s := by
  unfold VendorOrders.createShipment
  rw [run_throwIf_bind]
  by_cases hempty : items = []
  · rw [if_pos hempty]
    exact (if_neg fun hall => hall.1 hempty).symm
  rw [if_neg hempty, run_read_bind, h]
  rw [run_throwIf_bind]
  by_cases hlength : (rowsOf items order).length = items.length
  swap
  · rw [if_pos hlength]
    exact (if_neg fun hall => hlength hall.2.1).symm
  rw [if_neg (not_not.mpr hlength), run_read_bind, run_throwIf_bind]
  by_cases hown : ∀ item ∈ rowsOf items order, s.order.vendorIdOf item = some vendorId
  swap
  · rw [if_pos (decide_eq_false hown)]
    exact (if_neg fun hall => hown hall.2.2.1).symm
  have hrows : rowsOf items order ≠ [] := by
    intro hnil
    rw [hnil] at hlength
    exact hempty (List.length_eq_zero_iff.mp hlength.symm)
  rw [if_neg fun hfalse => of_decide_eq_false hfalse hown, run_read_bind, snd_run_shipItems h hrows]
  refine if_congr ?_ rfl rfl
  rw [decide_eq_false_iff_not]
  exact ⟨fun hall => ⟨hempty, hlength, hown, hall⟩, fun hall => hall.2.2.2⟩

theorem snd_run_assignDelivererByVendor (vendorId delivererId : ℕ) :
    (run (VendorOrders.assignDelivererByVendor env vendorId orderId delivererId) s).2 =
      if (VendorCall.assignDelivererByVendor env vendorId orderId delivererId).Allowed s order then
        s.saveOrder orderId (assignedOrder env delivererId order) else s := by
  unfold VendorOrders.assignDelivererByVendor
  rw [run_read_bind, h]
  rw [run_read_bind, run_throwIf_bind]
  by_cases hown : ∃ item ∈ order.items, s.order.vendorIdOf item = some vendorId
  swap
  · rw [if_pos (decide_eq_false hown)]
    exact (if_neg fun hall => hown hall.1).symm
  rw [if_neg fun hfalse => of_decide_eq_false hfalse hown, run_read_bind, run_throwIf_bind]
  by_cases hrole : s.HasRole delivererId .deliverer
  · have hallowed : (VendorCall.assignDelivererByVendor env vendorId orderId delivererId).Allowed s order :=
      ⟨hown, hrole⟩
    rw [if_neg fun hfalse => of_decide_eq_false hfalse hrole, if_pos hallowed]
    exact readOnly_ofExcept env.notifyOrderStatusChange _
  · rw [if_pos (decide_eq_false hrole)]
    exact (if_neg fun hall => hrole hall.2).symm

end

/-- **What a call of a vendor does**: if its checks let it, it stores the order once more. -/
theorem vendor_step_of_lookup {call : VendorCall} (h : s.order.orders.lookup call.orderId = some order) :
    call.step s = if call.Allowed s order then s.saveOrder call.orderId (call.stored order) else s := by
  cases call with
  | updateOrderStatus env vendorId orderId status => exact snd_run_updateOrderStatus h env vendorId status
  | updateOrderItemStatus env vendorId orderId itemId next =>
    exact snd_run_updateOrderItemStatus h env vendorId itemId next
  | createShipment vendorId orderId items => exact snd_run_createShipment h vendorId items
  | assignDelivererByVendor env vendorId orderId delivererId =>
    exact snd_run_assignDelivererByVendor h env vendorId delivererId

theorem vendor_step_of_unknown {call : VendorCall} (h : s.order.orders.lookup call.orderId = none) :
    call.step s = s := by
  unfold VendorCall.step
  cases call with
  | updateOrderStatus env vendorId orderId status =>
    unfold VendorCall.proc VendorOrders.updateOrderStatus
    rw [run_read_bind, show s.order.orders.lookup orderId = none from h]
    rfl
  | updateOrderItemStatus env vendorId orderId itemId next =>
    have hfind : s.order.findItem orderId itemId = none := by
      unfold OrderStore.findItem
      rw [show s.order.orders.lookup orderId = none from h]
      rfl
    unfold VendorCall.proc VendorOrders.updateOrderItemStatus
    rw [run_read_bind, hfind]
    rfl
  | createShipment vendorId orderId items =>
    unfold VendorCall.proc VendorOrders.createShipment
    rw [run_throwIf_bind]
    split_ifs
    · rfl
    · rw [run_read_bind, show s.order.orders.lookup orderId = none from h]
      rfl
  | assignDelivererByVendor env vendorId orderId delivererId =>
    unfold VendorCall.proc VendorOrders.assignDelivererByVendor
    rw [run_read_bind, show s.order.orders.lookup orderId = none from h]
    rfl

end Steps

end SuuqBackend
