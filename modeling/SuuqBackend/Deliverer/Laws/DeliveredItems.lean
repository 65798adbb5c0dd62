import SuuqBackend.Deliverer.Laws.DeliveryStates

/-!
# Deliveries and the items of orders

A deliverer changes the status of an order, and not those of its items (`sameItems_step`).
-/

namespace SuuqBackend

open Proc Deliveries OrderStore

def OrderStore.SameItems (s s' : OrderStore) : Prop :=
  ∀ orderId, (s'.orders.lookup orderId).map (·.items) = (s.orders.lookup orderId).map (·.items)

section Items

variable {s s' : OrderStore} {orderId : ℕ} {order order' : Order}

theorem SameItems.refl (s : OrderStore) : SameItems s s := fun _ => rfl

theorem SameItems.saveOrder (h : SameItems s s') (horder : s.orders.lookup orderId = some order)
    (hitems : order'.items = order.items) : SameItems s (s'.saveOrder orderId order') := by
  intro id
  unfold OrderStore.saveOrder
  by_cases hid : id = orderId
  · rw [hid, Finmap.lookup_insert, horder, Option.map_some, Option.map_some, hitems]
  · rw [Finmap.lookup_insert_of_ne _ hid]
    exact h id

theorem allowsOthers_sameItems (s : OrderStore) : AllowsOthers fun s₁ s₂ => SameItems s s₁ → SameItems s s₂ where
  wallet _ _ := id
  inventory _ _ := id
  products _ _ := id
  refl _ := id

variable (env : DeliveryRuntime) (delivererId : ℕ)

theorem sameItems_onOrderDelivered (h : SameItems s s') (horder : s.orders.lookup orderId = some order)
    (hitems : order'.items = order.items) (items : List LoadedItem) :
    SameItems s (run (onOrderDelivered env orderId order' items) s').2 := by
  have hacts := acts_settleDelivered (allowsOthers_sameItems s) env order' items fun s₁ hs₁ =>
    SameItems.saveOrder hs₁ horder (show (order'.withReleasedAt (some env.now)).items = order.items from hitems)
  exact hacts.rel_run (fun _ => id) (fun _ _ _ h₁ h₂ hs => h₂ (h₁ hs)) _ h

theorem sameItems_complete (horder : s.orders.lookup orderId = some order) (hitems : order'.items = order.items)
    (previous : OrderStatus) (items : List LoadedItem) :
    SameItems s (run (Deliveries.saveOrder orderId order' >>= fun _ => Proc.ofExcept env.notifyOrderStatusChange >>=
      fun _ => completeDelivery env orderId previous order' items) s).2 := by
  have hsaved := SameItems.saveOrder (SameItems.refl s) horder hitems
  cases env.notifyOrderStatusChange with
  | error e => exact hsaved
  | ok u =>
    unfold completeDelivery
    split_ifs
    · exact sameItems_onOrderDelivered env hsaved horder hitems items
    · exact hsaved

theorem sameItems_updateDeliveryStatus (horder : s.orders.lookup orderId = some order) (newStatus : OrderStatus) :
    SameItems s (run (updateDeliveryStatus env delivererId orderId newStatus) s).2 := by
  have hitems : (updatedOrder env newStatus order).items = order.items := rfl
  have hupdated := sameItems_complete env horder hitems order.status (order.items.map s.loadItem)
  unfold updateDeliveryStatus
  rw [run_read_bind, loadOrder_eq horder]
  rw [run_throwIf_bind]
  split_ifs
  · exact SameItems.refl s
  · exact hupdated

theorem sameItems_step (s : OrderStore) (call : DeliveryCall) : SameItems s (call.step s) := by
  cases hlookup : s.orders.lookup call.orderId with
  | none =>
    rw [step_of_unknown hlookup]
    exact SameItems.refl s
  | some order =>
    have hsave : ∀ order' : Order, order'.items = order.items → SameItems s (s.saveOrder call.orderId order') :=
      fun order' hitems => SameItems.saveOrder (SameItems.refl s) hlookup hitems
    unfold DeliveryCall.step
    cases call with
    | acceptAssignment env delivererId orderId =>
      have hlookup : s.orders.lookup orderId = some order := hlookup
      have hrun := snd_run_acceptAssignment env delivererId hlookup
      unfold DeliveryCall.proc
      rw [hrun]
      split_ifs
      · exact SameItems.refl s
      · exact hsave _ rfl
    | rejectAssignment env delivererId orderId =>
      have hlookup : s.orders.lookup orderId = some order := hlookup
      have hrun := snd_run_rejectAssignment env delivererId hlookup
      unfold DeliveryCall.proc
      rw [hrun]
      split_ifs
      · exact hsave _ rfl
      · exact SameItems.refl s
    | confirmPickup env delivererId orderId =>
      have hlookup : s.orders.lookup orderId = some order := hlookup
      have hrun := snd_run_confirmPickup env delivererId hlookup
      unfold DeliveryCall.proc
      rw [hrun]
      split_ifs
      · exact hsave _ rfl
      · exact SameItems.refl s
    | verifyDelivery env delivererId orderId code =>
      have hlookup : s.orders.lookup orderId = some order := hlookup
      unfold DeliveryCall.proc verifyDelivery
      rw [run_findOrder_bind hlookup, run_throwIf_bind]
      split_ifs
      · exact SameItems.refl s
      · exact SameItems.refl s
      rw [run_throwIf_bind]
      split_ifs
      · exact SameItems.refl s
      cases order.deliveryCode.filter (· ≠ "") with
      | none => exact SameItems.refl s
      | some deliveryCode =>
        dsimp only
        unfold verifyCode
        split_ifs
        · exact sameItems_updateDeliveryStatus env delivererId hlookup .delivered
        · exact hsave (attemptedOrder order) rfl
    | failDelivery env delivererId orderId reasonCode proofOfDeliveryUrl notes =>
      have hlookup : s.orders.lookup orderId = some order := hlookup
      have hrun := snd_run_failDelivery env delivererId reasonCode proofOfDeliveryUrl notes hlookup
      unfold DeliveryCall.proc
      rw [hrun]
      split_ifs
      · exact hsave _ rfl
      · exact SameItems.refl s
    | updateDeliveryStatus env delivererId orderId newStatus =>
      exact sameItems_updateDeliveryStatus env delivererId hlookup newStatus
    | adminForceDelivery env orderId =>
      have hlookup : s.orders.lookup orderId = some order := hlookup
      unfold DeliveryCall.proc adminForceDelivery
      rw [run_read_bind, loadOrder_eq hlookup]
      dsimp only
      split_ifs
      · exact SameItems.refl s
      · cases env.notifyOrderStatusChange with
        | error e => exact hsave (forcedOrder env order) rfl
        | ok u =>
          have hforced : (forcedOrder env order).items = order.items := rfl
          exact sameItems_onOrderDelivered env (hsave _ hforced) hlookup hforced (order.items.map s.loadItem)

end Items

end SuuqBackend
