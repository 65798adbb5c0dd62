import SuuqBackend.Orders.Placements

/-!
# What reservations leave as it is

The reservation of an order, and its release, write in the inventory only, and change nothing of the order but
`onlineReservationReleasedAt`.
-/

namespace SuuqBackend

open Proc OnlineReservations

def OrderStore.Restocked (s s' : OrderStore) : Prop := ∃ inventory, s' = OrderStore.inventoryLens.set s inventory

namespace OrderStore

variable {s s' s'' : OrderStore}

theorem Restocked.refl (s : OrderStore) : Restocked s s := ⟨s.inventory, rfl⟩

theorem Restocked.trans (h : Restocked s s') (h' : Restocked s' s'') : Restocked s s'' := by
  obtain ⟨inventory, rfl⟩ := h
  obtain ⟨inventory', rfl⟩ := h'
  exact ⟨inventory', rfl⟩

end OrderStore

open OrderStore

def Order.withReleasedAt (order : Order) (time : Option ℤ) : Order := { order with onlineReservationReleasedAt := time }

theorem acts_adjustItem (branchId : ℕ) (quantity : ℤ) (loaded : LoadedItem) :
    (adjustItem branchId quantity loaded).Acts Restocked := by
  unfold adjustItem
  cases loaded.product with
  | none => exact acts_pure _
  | some found => exact (acts_zoom (fun _ inventory => ⟨inventory, rfl⟩) _).bind fun _ => acts_pure _

section Release

variable (now : ℤ) (order : Order) (items : List LoadedItem)

theorem acts_releaseOnlineReservation : (releaseOnlineReservation now order items).Acts Restocked := by
  unfold releaseOnlineReservation
  cases order.fulfillmentBranchId with
  | none => exact acts_pure _
  | some branchId =>
    refine Acts.ite (acts_pure _) (Acts.bind ?_ fun _ => acts_pure _)
    exact acts_forEach fun loaded _ => acts_adjustItem branchId _ loaded

theorem restocked_releaseOnlineReservation (s : OrderStore) :
    Restocked s (run (releaseOnlineReservation now order items) s).2 :=
  (acts_releaseOnlineReservation now order items).rel_run Restocked.refl (fun _ _ _ => Restocked.trans) s

theorem released_eq {s s' : OrderStore} {released : Order}
    (h : run (releaseOnlineReservation now order items) s = (.ok released, s')) :
    ∃ time, released = order.withReleasedAt time := by
  unfold releaseOnlineReservation at h
  rcases hbranch : order.fulfillmentBranchId with _ | branchId
  · rw [hbranch] at h
    cases h
    exact ⟨order.onlineReservationReleasedAt, rfl⟩
  · rw [hbranch] at h
    split_ifs at h
    · cases h
      exact ⟨order.onlineReservationReleasedAt, rfl⟩
    · obtain ⟨_, _, -, hdone⟩ := run_bind_eq_ok.mp h
      cases hdone
      refine ⟨some now, ?_⟩
      unfold Order.withReleasedAt
      rw [hbranch]

end Release

end SuuqBackend
