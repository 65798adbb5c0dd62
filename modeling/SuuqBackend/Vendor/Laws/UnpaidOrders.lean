import SuuqBackend.Deliverer.Laws.DeliveredItems
import SuuqBackend.Vendor.Laws.VendorSteps

/-!
# Orders that are not paid

An order that is neither paid nor paid for in cash at its delivery is not to be shipped.  `updateOrderStatus`,
`updateOrderItemStatus` and `createShipment` look at the payment of the order; `assignDelivererByVendor`, which ships
an order as well, does not, nor does any operation of a deliverer (`unpaid_unshipped_iff`, `assigned_unpaid`).
-/

namespace SuuqBackend

open Proc VendorOrders

/-! ### The rule -/

/-- The order or one of its items gets a status that an unpaid order is not to have. -/
def Order.Ships (order order' : Order) : Prop :=
  (order'.status.IsShippingLike ∧ order'.status ≠ order.status) ∨
    ∃ item' ∈ order'.items, item'.status.IsShippingLike ∧
      ∀ item ∈ order.items, item.id = item'.id → item.status ≠ item'.status

/-- No order that is to be paid before is shipped. -/
def FulfillmentStore.Gated (s s' : FulfillmentStore) : Prop :=
  ∀ orderId, ∀ order ∈ s.order.orders.lookup orderId, ∀ order' ∈ s'.order.orders.lookup orderId,
    s.Owes orderId order → ¬ order.Ships order'

inductive ShippingCall where
  | vendor (call : VendorCall)
  | delivery (call : DeliveryCall)

namespace ShippingCall

def proc : ShippingCall → FulfillmentProc Unit
  | vendor call => call.proc
  | delivery call => Proc.zoom FulfillmentStore.orderLens call.proc

def step (s : FulfillmentStore) (call : ShippingCall) : FulfillmentStore := (call.proc.run s).2

/-- The call meets an order that is to be paid before, and ships it nevertheless: it gives the order to a deliverer, it
is a call of a deliverer, or it gives the order the status of items that were shipped before. -/
def SkipsPayment (s : FulfillmentStore) : ShippingCall → Prop
  | vendor (.updateOrderStatus ..) | vendor (.createShipment ..) => False
  | vendor (.assignDelivererByVendor env vendorId orderId delivererId) =>
    ∃ order ∈ s.order.orders.lookup orderId, s.Owes orderId order ∧
      (VendorCall.assignDelivererByVendor env vendorId orderId delivererId).Allowed s order ∧ order.status ≠ .shipped
  | vendor (.updateOrderItemStatus env vendorId orderId itemId next) =>
    ∃ order ∈ s.order.orders.lookup orderId, s.Owes orderId order ∧
      (VendorCall.updateOrderItemStatus env vendorId orderId itemId next).Allowed s order ∧
      (computeAggregateStatus (order.updated itemId next).items).IsShippingLike ∧
      computeAggregateStatus (order.updated itemId next).items ≠ order.status
  | delivery call =>
    ∃ order ∈ s.order.orders.lookup call.orderId, s.Owes call.orderId order ∧
      ∃ status ∈ call.targetFor order, status.IsShippingLike ∧ status ≠ order.status

instance (s : FulfillmentStore) : ∀ call : ShippingCall, Decidable (call.SkipsPayment s)
  | vendor (.updateOrderStatus ..) | vendor (.createShipment ..) => inferInstanceAs (Decidable False)
  | vendor (.assignDelivererByVendor ..) => inferInstanceAs (Decidable (∃ _ ∈ _, _ ∧ _ ∧ _))
  | vendor (.updateOrderItemStatus ..) => inferInstanceAs (Decidable (∃ _ ∈ _, _ ∧ _ ∧ _ ∧ _))
  | delivery _ => inferInstanceAs (Decidable (∃ _ ∈ _, _ ∧ ∃ _ ∈ _, _ ∧ _))

end ShippingCall

/-! ### Orders -/

section Orders

variable {order order' : Order}

/-- An order that keeps its items is shipped when it gets a status that it has not had. -/
theorem ships_iff_of_items (hitems : order'.items = order.items) :
    order.Ships order' ↔ order'.status.IsShippingLike ∧ order'.status ≠ order.status := by
  unfold Order.Ships
  rw [hitems]
  refine or_iff_left ?_
  rintro ⟨item, hitem, -, hne⟩
  exact hne item hitem rfl rfl

theorem not_ships_self (order : Order) : ¬ order.Ships order := by
  rw [ships_iff_of_items rfl]
  exact fun h => h.2 rfl

theorem not_ships_updated {itemId : ℕ} {next : OrderStatus} (hnext : ¬ next.IsShippingLike) :
    ¬ order.Ships (order.updated itemId next) := by
  unfold Order.updated
  cases order.items.find? fun item => item.id = itemId with
  | none => exact not_ships_self order
  | some found =>
    rintro (⟨-, hne⟩ | ⟨item', hitem', hships, hne⟩)
    · exact hne rfl
    · obtain ⟨item, hitem, rfl⟩ := List.mem_map.mp hitem'
      split_ifs at hships hne with hid
      · exact hnext hships
      · exact hne item hitem rfl rfl

theorem ships_aggregated_iff (hnot : ¬ order.Ships order') :
    order.Ships (aggregated order order') ↔ (computeAggregateStatus order'.items).IsShippingLike ∧
      computeAggregateStatus order'.items ≠ order.status := by
  unfold aggregated
  by_cases hsame : order.status ≠ computeAggregateStatus order'.items
  · rw [if_pos hsame]
    exact ships_iff_of_items rfl
  · rw [if_neg hsame]
    exact iff_of_false hnot fun h => hsame (Ne.symm h.2)

end Orders

/-! ### Steps -/

section Steps

variable {s s' : FulfillmentStore} {orderId : ℕ} {order order' : Order}

theorem Gated.refl (s : FulfillmentStore) : s.Gated s := by
  intro orderId order horder order' horder' _
  obtain rfl : order = order' := Option.mem_unique horder horder'
  exact not_ships_self order

theorem gated_saveOrder_iff (h : s.order.orders.lookup orderId = some order) :
    s.Gated (s.saveOrder orderId order') ↔ (s.Owes orderId order → ¬ order.Ships order') := by
  have hself : (s.saveOrder orderId order').order.orders.lookup orderId = some order' := Finmap.lookup_insert _
  constructor
  · exact fun hgated => hgated orderId order h order' hself
  · intro hnot id found hfound found' hfound'
    by_cases hid : id = orderId
    · subst hid
      obtain rfl : order = found := Option.mem_unique h hfound
      obtain rfl : order' = found' := Option.mem_unique hself hfound'
      exact hnot
    · have hother : (s.saveOrder orderId order').order.orders.lookup id = s.order.orders.lookup id :=
        Finmap.lookup_insert_of_ne _ hid
      rw [hother] at hfound'
      exact Gated.refl s id found hfound found' hfound'

/-- Of the statuses that a vendor may give an order, only `SHIPPED` sends it on its way. -/
theorem shipped_of_allowedNextOfOrder {current status : OrderStatus} (h : status ∈ allowedNextOfOrder current) :
    status = .shipped ∨ ¬ status.IsShippingLike := by
  cases current <;> cases status <;> first | exact .inl rfl | exact .inr (by decide) | exact absurd h (by decide)

theorem gated_vendor_step_iff (s : FulfillmentStore) (call : VendorCall) :
    s.Gated (call.step s) ↔ ¬ (ShippingCall.vendor call).SkipsPayment s := by
  cases hlookup : s.order.orders.lookup call.orderId with
  | none =>
    rw [vendor_step_of_unknown hlookup]
    refine iff_of_true (Gated.refl s) ?_
    cases call with
    | updateOrderStatus | createShipment => exact id
    | updateOrderItemStatus | assignDelivererByVendor =>
      rintro ⟨order, horder, -⟩
      exact nomatch hlookup.symm.trans horder
  | some order =>
    rw [vendor_step_of_lookup hlookup]
    by_cases hallowed : call.Allowed s order
    swap
    · rw [if_neg hallowed]
      refine iff_of_true (Gated.refl s) ?_
      cases call with
      | updateOrderStatus | createShipment => exact id
      | updateOrderItemStatus | assignDelivererByVendor =>
        rintro ⟨order', horder', -, hallowed', -⟩
        obtain rfl : order = order' := Option.mem_unique hlookup horder'
        exact hallowed hallowed'
    rw [if_pos hallowed, gated_saveOrder_iff hlookup]
    cases call with
    | updateOrderStatus env vendorId orderId status =>
      obtain ⟨-, hnext, hgate⟩ := hallowed
      refine iff_of_true (fun howes hships => ?_) id
      have hitems : (VendorCall.stored order (.updateOrderStatus env vendorId orderId status)).items = order.items := rfl
      obtain ⟨hlike, -⟩ := (ships_iff_of_items hitems).mp hships
      rcases shipped_of_allowedNextOfOrder hnext with hshipped | hother
      · exact hgate ⟨hshipped, howes⟩
      · exact hother hlike
    | updateOrderItemStatus env vendorId orderId itemId next =>
      obtain ⟨item, hitem, hown, hnext, hgate⟩ := hallowed
      have hupdated (howes : s.Owes orderId order) : ¬ order.Ships (order.updated itemId next) :=
        not_ships_updated fun hlike => hgate ⟨hlike, howes⟩
      have hships (howes : s.Owes orderId order) := ships_aggregated_iff (hupdated howes)
      constructor
      · rintro hnot ⟨order', horder', howes, -, hlike, hne⟩
        obtain rfl : order = order' := Option.mem_unique hlookup horder'
        exact hnot howes ((hships howes).mpr ⟨hlike, hne⟩)
      · intro hskips howes hshipped
        obtain ⟨hlike, hne⟩ := (hships howes).mp hshipped
        exact hskips ⟨order, hlookup, howes, ⟨item, hitem, hown, hnext, hgate⟩, hlike, hne⟩
    | createShipment vendorId orderId items =>
      exact iff_of_true (fun howes _ => hallowed.2.2.2.2 howes) id
    | assignDelivererByVendor env vendorId orderId delivererId =>
      have hitems : (assignedOrder env delivererId order).items = order.items := rfl
      have hships : order.Ships (assignedOrder env delivererId order) ↔ order.status ≠ .shipped := by
        rw [ships_iff_of_items hitems]
        exact ⟨fun h => Ne.symm h.2, fun h => ⟨.inl rfl, Ne.symm h⟩⟩
      constructor
      · rintro hnot ⟨order', horder', howes, -, hne⟩
        obtain rfl : order = order' := Option.mem_unique hlookup horder'
        exact hnot howes (hships.mpr hne)
      · exact fun hskips howes hshipped => hskips ⟨order, hlookup, howes, hallowed, hships.mp hshipped⟩

theorem gated_of_sameItems {t : OrderStore} (hitems : s.order.SameItems t)
    (h : ∀ orderId, ∀ order ∈ s.order.orders.lookup orderId, ∀ order' ∈ t.orders.lookup orderId,
      s.Owes orderId order → ¬ (order'.status.IsShippingLike ∧ order'.status ≠ order.status)) :
    s.Gated (FulfillmentStore.orderLens.set s t) := by
  intro orderId order horder order' horder' howes hships
  have hsame := hitems orderId
  rw [Option.mem_def.mp horder, show t.orders.lookup orderId = some order' from horder'] at hsame
  exact h orderId order horder order' horder' howes ((ships_iff_of_items (Option.some.inj hsame)).mp hships)

theorem gated_delivery_step_iff (s : FulfillmentStore) (call : DeliveryCall) :
    s.Gated ((ShippingCall.delivery call).step s) ↔ ¬ (ShippingCall.delivery call).SkipsPayment s := by
  have hstep : (ShippingCall.delivery call).step s = FulfillmentStore.orderLens.set s (call.step s.order) := by
    unfold ShippingCall.step ShippingCall.proc
    rw [run_zoom]
    rfl
  have hitems := sameItems_step s.order call
  rw [hstep]
  cases hlookup : s.order.orders.lookup call.orderId with
  | none =>
    rw [step_of_unknown hlookup]
    refine iff_of_true (Gated.refl s) ?_
    rintro ⟨order, horder, -⟩
    exact nomatch hlookup.symm.trans horder
  | some order =>
    have hmoved := step_of_lookup hlookup
    cases htarget : call.targetFor order with
    | none =>
      rw [htarget] at hmoved
      refine iff_of_true (gated_of_sameItems hitems fun id found hfound found' hfound' _ => ?_) ?_
      · have hstatus := hmoved.statusOf_eq id
        rw [OrderStore.statusOf_eq_of_lookup hfound, OrderStore.statusOf_eq_of_lookup hfound'] at hstatus
        exact fun hships => hships.2 (Option.some.inj hstatus)
      · rintro ⟨order', horder', -, status, hstatus, -⟩
        obtain rfl : order = order' := Option.mem_unique hlookup horder'
        exact nomatch htarget.symm.trans hstatus
    | some new =>
      rw [htarget] at hmoved
      constructor
      · rintro hgated ⟨order', horder', howes, status, hstatus, hlike, hne⟩
        obtain rfl : order = order' := Option.mem_unique hlookup horder'
        obtain rfl : new = status := Option.mem_unique htarget hstatus
        have hafter := hmoved.after
        obtain ⟨found', hfound', rfl⟩ := Option.map_eq_some_iff.mp hafter
        exact hgated call.orderId order hlookup found' hfound' howes (.inl ⟨hlike, hne⟩)
      · intro hskips
        refine gated_of_sameItems hitems fun id found hfound found' hfound' howes hships => ?_
        by_cases hid : id = call.orderId
        · subst hid
          obtain rfl : order = found := Option.mem_unique hlookup hfound
          have hnew : some found'.status = some new :=
            (OrderStore.statusOf_eq_of_lookup hfound').symm.trans hmoved.after
          obtain rfl : found'.status = new := Option.some.inj hnew
          exact hskips ⟨order, hlookup, howes, found'.status, htarget, hships⟩
        · have hother := hmoved.other id hid
          rw [OrderStore.statusOf_eq_of_lookup hfound, OrderStore.statusOf_eq_of_lookup hfound'] at hother
          exact hships.2 (Option.some.inj hother)

theorem gated_step_iff (s : FulfillmentStore) (call : ShippingCall) :
    s.Gated (call.step s) ↔ ¬ call.SkipsPayment s := by
  cases call with
  | vendor call => exact gated_vendor_step_iff s call
  | delivery call => exact gated_delivery_step_iff s call

end Steps

/-- **Unpaid orders are not shipped**, in a run of calls of vendors and deliverers, if and only if no call skips the
payment. -/
theorem unpaid_unshipped_iff (s : FulfillmentStore) (calls : List ShippingCall) :
    (∀ n, (Run.after ShippingCall.step s (calls.take n)).Gated
        (Run.after ShippingCall.step s (calls.take (n + 1)))) ↔
      Run.Along ShippingCall.step (fun s call => ¬ call.SkipsPayment s) s calls := by
  rw [Run.forall_succ_iff Gated.refl]
  exact Run.along_congr (fun s call (_ : True) => gated_step_iff s call) (fun _ _ _ _ => trivial) trivial

/-! ### An order on its way -/

/-- An order that is to be paid with M-Pesa and has not been, its vendor and a deliverer. -/
def mpesaOrder : FulfillmentStore where
  order := oneItemOrder 0
  placements := Finmap.singleton 1 { userId := some 9, total := ⟨10000⟩, paymentMethod := .mpesa, createdAt := 0 }
  roles := Finmap.singleton 40 [.deliverer]

def fulfillmentRuntime : FulfillmentRuntime where
  now := 1700000000000
  notifyOrderStatusChange := .ok ()
  notifyDeliverer := .ok ()

/-- The vendor gives the order to the deliverer. -/
theorem assigned_unpaid :
    let s := (ShippingCall.vendor (.assignDelivererByVendor fulfillmentRuntime 5 1 40)).step mpesaOrder
    (mpesaOrder.order.orders.lookup 1).all (fun order => order.status = .pending ∧ mpesaOrder.Owes 1 order) = true ∧
      s.order.statusOf 1 = some .shipped ∧ ¬ mpesaOrder.Gated s := by
  have hskips : (ShippingCall.vendor (.assignDelivererByVendor fulfillmentRuntime 5 1 40)).SkipsPayment mpesaOrder := by
    decide
  exact ⟨by decide, by decide, fun hgated => (gated_step_iff _ _).mp hgated hskips⟩

end SuuqBackend
