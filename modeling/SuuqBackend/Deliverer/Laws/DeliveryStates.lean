import SuuqBackend.Deliverer.Deliveries
import SuuqBackend.Orders.Laws.ItemPayouts
import SuuqBackend.Orders.Laws.Reservations

/-!
# What the completion of a delivery writes

After the delivery has been listed, its completion saves the order once, with the time of the release, and writes
otherwise in the tables of the products, the wallets and the inventory (`acts_settleDelivered`).
-/

namespace SuuqBackend

open Proc Deliveries

/-- The relation allows any change of the other tables that a completion writes to. -/
structure OrderStore.AllowsOthers (R : OrderStore → OrderStore → Prop) : Prop where
  wallet : ∀ s wallet, R s (OrderStore.walletLens.set s wallet)
  inventory : ∀ s inventory, R s (OrderStore.inventoryLens.set s inventory)
  products : ∀ s products, R s { s with products }
  refl : ∀ s, R s s

/-- `onOrderDelivered` after the delivery has been listed. -/
def settleDelivered (env : DeliveryRuntime) (orderId : ℕ) (order : Order) (items : List LoadedItem) :
    OrderProc Unit := do
  releaseOnlineReservation env orderId order items
  .ofExcept env.notifyOrderComplete
  Proc.forEach (productIds items) (countSales items)
  Proc.forEach (vendorIds items) (Deliveries.creditVendor env orderId order items)
  creditDeliverer env orderId order

section Completion

variable {R : OrderStore → OrderStore → Prop} (hR : OrderStore.AllowsOthers R) (env : DeliveryRuntime) {orderId : ℕ}
  (order : Order) (items : List LoadedItem)

include hR

theorem acts_releaseItem_of_allows (branchId : ℕ) (loaded : LoadedItem) : (releaseItem branchId loaded).Acts R := by
  unfold releaseItem
  cases loaded.product with
  | none => exact acts_pure _
  | some found => exact (acts_zoom hR.inventory _).bind fun _ => acts_pure _

theorem acts_releaseReservation_of_allows
    (hsave : ∀ s : OrderStore, R s (s.saveOrder orderId (order.withReleasedAt (some env.now)))) :
    (Deliveries.releaseOnlineReservation env orderId order items).Acts R := by
  have hsaved : (Deliveries.saveOrder orderId (order.withReleasedAt (some env.now))).Acts R := acts_write hsave
  unfold Order.withReleasedAt at hsaved
  unfold Deliveries.releaseOnlineReservation
  generalize Deliveries.saveOrder orderId _ = saved at hsaved ⊢
  cases order.fulfillmentBranchId with
  | none => exact acts_pure _
  | some branchId =>
    refine Acts.ite (acts_pure _) ((acts_forEach fun loaded _ => ?_).bind fun _ => hsaved)
    exact acts_releaseItem_of_allows hR branchId loaded

theorem acts_countSales_of_allows (productId : ℕ) : (countSales items productId).Acts R := by
  refine acts_write fun s => ?_
  cases s.products.lookup productId with
  | none => exact hR.refl s
  | some product => exact hR.products s _

theorem acts_creditUser_of_allows (orderId userId : ℕ) (amount : ℚ) (currency description : String) :
    (creditUser env orderId userId amount currency description).Acts R := by
  refine (acts_zoom hR.wallet _).bind fun wallet => Acts.bind ?_ fun amountToCredit =>
    (acts_zoom hR.wallet _).bind fun _ => acts_pure _
  refine Acts.ite ?_ (acts_pure _)
  cases CurrencyService.convert env.toUpperCase env.rates amount currency (orDefault wallet.currency "KES") with
  | ok converted => exact acts_pure _
  | error message => exact acts_throw _

theorem acts_creditVendor_of_allows (orderId vendorId : ℕ) :
    (Deliveries.creditVendor env orderId order items vendorId).Acts R := by
  exact Acts.ite ((acts_creditUser_of_allows hR env _ _ _ _ _).attempt.bind fun _ => acts_pure _) (acts_pure _)

theorem acts_creditDeliverer_of_allows (orderId : ℕ) : (creditDeliverer env orderId order).Acts R := by
  unfold creditDeliverer
  split
  · exact Acts.ite ((acts_creditUser_of_allows hR env _ _ _ _ _).attempt.bind fun _ => acts_pure _) (acts_pure _)
  · exact acts_pure _

/-- The completion of a delivery saves the order once, and writes otherwise in other tables. -/
theorem acts_settleDelivered
    (hsave : ∀ s : OrderStore, R s (s.saveOrder orderId (order.withReleasedAt (some env.now)))) :
    (settleDelivered env orderId order items).Acts R := by
  refine (acts_releaseReservation_of_allows hR env order items hsave).bind fun _ => (acts_ofExcept _).bind fun _ => ?_
  refine (acts_forEach fun productId _ => acts_countSales_of_allows hR items productId).bind fun _ => ?_
  refine (acts_forEach fun vendorId _ => acts_creditVendor_of_allows hR env order items orderId vendorId).bind
    fun _ => ?_
  exact acts_creditDeliverer_of_allows hR env order orderId

end Completion

/-!
## The states of a delivery

Only `failDelivery`, `adminForceDelivery` and `verifyDelivery` look at the status of an order before they change it,
and the last two only whether it is `DELIVERED`.  An order that is moved back can be delivered once more.

* `DeliveryCall.target`: the status that the checks of a call let it store.
* `delivery_final_and_once_iff`: orders keep their last status, and are completed once, exactly when no call stores
  another status for an order that is delivered or cancelled.
-/

def OrderStatus.IsFinal (status : OrderStatus) : Prop := status = .delivered ∨ status = .cancelled
deriving Decidable

namespace OrderStore

def statusOf (s : OrderStore) (orderId : ℕ) : Option OrderStatus := (s.orders.lookup orderId).map (·.status)

/-- The orders that are delivered or cancelled keep their status. -/
def KeepsFinal (s s' : OrderStore) : Prop :=
  ∀ orderId status, s.statusOf orderId = some status → status.IsFinal → s'.statusOf orderId = some status

/-- `onOrderDelivered` has run for delivered orders only, and once at most for each. -/
def CompletedOnce (s : OrderStore) : Prop :=
  ∀ orderId, s.deliveries.count orderId ≤ if s.statusOf orderId = some .delivered then 1 else 0

structure SameOrderStatuses (s s' : OrderStore) : Prop where
  statusOf_eq : ∀ id, s'.statusOf id = s.statusOf id
  deliveries_eq : s'.deliveries = s.deliveries

/-- A status of an order stays, and so do the other orders and the completed deliveries. -/
structure KeepsStatus (orderId : ℕ) (status : OrderStatus) (s s' : OrderStore) : Prop where
  self : s.statusOf orderId = some status → s'.statusOf orderId = some status
  other : ∀ id ≠ orderId, s'.statusOf id = s.statusOf id
  deliveries_eq : s'.deliveries = s.deliveries

/-- An order has got another status.  Its delivery is completed at most when it becomes delivered. -/
structure OrderMoved (orderId : ℕ) (old new : OrderStatus) (s s' : OrderStore) : Prop where
  before : s.statusOf orderId = some old
  after : s'.statusOf orderId = some new
  other : ∀ id ≠ orderId, s'.statusOf id = s.statusOf id
  deliveries : s'.deliveries = s.deliveries ∨
    s'.deliveries = s.deliveries ++ [orderId] ∧ old ≠ .delivered ∧ new = .delivered

variable {s s' s'' : OrderStore} {orderId : ℕ} {status old new : OrderStatus} {order order' : Order}

theorem statusOf_eq_of_lookup (h : s.orders.lookup orderId = some order) : s.statusOf orderId = some order.status := by
  unfold statusOf
  rw [h]
  rfl

theorem statusOf_saveOrder_self (s : OrderStore) (orderId : ℕ) (order : Order) :
    (s.saveOrder orderId order).statusOf orderId = some order.status := by
  unfold statusOf saveOrder
  rw [Finmap.lookup_insert]
  rfl

theorem statusOf_saveOrder_of_ne (s : OrderStore) (order : Order) {id : ℕ} (h : id ≠ orderId) :
    (s.saveOrder orderId order).statusOf id = s.statusOf id := by
  unfold statusOf saveOrder
  rw [Finmap.lookup_insert_of_ne _ h]

theorem KeepsFinal.refl (s : OrderStore) : KeepsFinal s s := fun _ _ h _ => h

theorem KeepsFinal.trans (h : KeepsFinal s s') (h' : KeepsFinal s' s'') : KeepsFinal s s'' :=
  fun orderId status hstatus hfinal => h' orderId status (h orderId status hstatus hfinal) hfinal

theorem SameOrderStatuses.refl (s : OrderStore) : SameOrderStatuses s s := ⟨fun _ => rfl, rfl⟩

theorem SameOrderStatuses.keepsStatus (h : SameOrderStatuses s s') : KeepsStatus orderId status s s' :=
  ⟨fun hstatus => (h.statusOf_eq orderId).trans hstatus, fun id _ => h.statusOf_eq id, h.deliveries_eq⟩

theorem KeepsStatus.refl (s : OrderStore) : KeepsStatus orderId status s s := (SameOrderStatuses.refl s).keepsStatus

theorem KeepsStatus.trans (h : KeepsStatus orderId status s s') (h' : KeepsStatus orderId status s' s'') :
    KeepsStatus orderId status s s'' :=
  ⟨fun hstatus => h'.self (h.self hstatus), fun id hid => (h'.other id hid).trans (h.other id hid),
    h'.deliveries_eq.trans h.deliveries_eq⟩

theorem keepsStatus_saveOrder (s : OrderStore) (orderId : ℕ) (h : order.status = status) :
    KeepsStatus orderId status s (s.saveOrder orderId order) :=
  ⟨fun _ => h ▸ statusOf_saveOrder_self s orderId order, fun _ hid => statusOf_saveOrder_of_ne s order hid, rfl⟩

section

variable (h : s.orders.lookup orderId = some order)

include h

theorem moved_saveOrder (hnew : order'.status = new) :
    OrderMoved orderId order.status new s (s.saveOrder orderId order') :=
  ⟨statusOf_eq_of_lookup h, hnew ▸ statusOf_saveOrder_self s orderId order',
    fun _ hid => statusOf_saveOrder_of_ne s order' hid, .inl rfl⟩

theorem orderMoved_refl : OrderMoved orderId order.status order.status s s :=
  ⟨statusOf_eq_of_lookup h, statusOf_eq_of_lookup h, fun _ _ => rfl, .inl rfl⟩

theorem sameOrderStatuses_saveOrder (hstatus : order'.status = order.status) :
    SameOrderStatuses s (s.saveOrder orderId order') := by
  refine ⟨fun id => ?_, rfl⟩
  by_cases hid : id = orderId
  · rw [hid, statusOf_saveOrder_self, hstatus, statusOf_eq_of_lookup h]
  · exact statusOf_saveOrder_of_ne s order' hid

end

theorem SameOrderStatuses.keepsFinal (h : SameOrderStatuses s s') : KeepsFinal s s' :=
  fun orderId _ hstatus _ => (h.statusOf_eq orderId).trans hstatus

theorem SameOrderStatuses.completedOnce (h : SameOrderStatuses s s') (hs : CompletedOnce s) : CompletedOnce s' := by
  intro orderId
  rw [h.deliveries_eq, h.statusOf_eq]
  exact hs orderId

theorem OrderMoved.keepsFinal_iff (h : OrderMoved orderId old new s s') : KeepsFinal s s' ↔ ¬ (old.IsFinal ∧ new ≠ old) := by
  constructor
  · rintro hkeeps ⟨hfinal, hne⟩
    have hkept := hkeeps orderId old h.before hfinal
    rw [h.after] at hkept
    exact hne (Option.some_inj.mp hkept)
  · intro hnot id status hstatus hfinal
    by_cases hid : id = orderId
    · subst hid
      have hold : old = status := Option.some_inj.mp (h.before.symm.trans hstatus)
      subst hold
      rw [h.after]
      by_contra hne
      exact hnot ⟨hfinal, fun heq => hne (congrArg some heq)⟩
    · rw [h.other id hid]
      exact hstatus

theorem OrderMoved.completedOnce (h : OrderMoved orderId old new s s') (hs : CompletedOnce s)
    (hkeeps : ¬ (old.IsFinal ∧ new ≠ old)) : CompletedOnce s' := by
  intro id
  by_cases hid : id = orderId
  · subst hid
    have hcount := hs id
    rw [h.before] at hcount
    rw [h.after]
    rcases h.deliveries with hsame | ⟨hmore, hold, hnew⟩
    · rw [hsame]
      by_cases hdelivered : old = .delivered
      · have hnew : new = old := by
          by_contra hne
          exact hkeeps ⟨.inl hdelivered, hne⟩
        rw [hnew]
        exact hcount
      · rw [if_neg fun heq => hdelivered (Option.some_inj.mp heq)] at hcount
        omega
    · rw [if_neg fun heq => hold (Option.some_inj.mp heq)] at hcount
      rw [hmore, List.count_append, hnew, if_pos rfl, List.count_singleton_self]
      omega
  · have hcount := hs id
    rw [h.other id hid]
    rcases h.deliveries with hsame | ⟨hmore, -, -⟩
    · rw [hsame]
      exact hcount
    · rw [hmore, List.count_append, List.count_singleton, if_neg (by simpa using Ne.symm hid)]
      exact hcount

end OrderStore

open OrderStore

/-! ### Completed deliveries -/

section Completed

variable {orderId : ℕ} {status : OrderStatus} (env : DeliveryRuntime) (order : Order) (items : List LoadedItem)

theorem allowsOthers_keepsStatus : AllowsOthers (KeepsStatus orderId status) where
  wallet _ _ := SameOrderStatuses.keepsStatus ⟨fun _ => rfl, rfl⟩
  inventory _ _ := SameOrderStatuses.keepsStatus ⟨fun _ => rfl, rfl⟩
  products _ _ := SameOrderStatuses.keepsStatus ⟨fun _ => rfl, rfl⟩
  refl := KeepsStatus.refl

theorem keepsStatus_onOrderDelivered (s : OrderStore) :
    KeepsStatus orderId order.status { s with deliveries := s.deliveries ++ [orderId] }
      (run (onOrderDelivered env orderId order items) s).2 := by
  refine Acts.rel_run KeepsStatus.refl (fun _ _ _ => KeepsStatus.trans) ?_ _
  exact acts_settleDelivered allowsOthers_keepsStatus env order items fun s => keepsStatus_saveOrder s orderId rfl

theorem moved_onOrderDelivered {s s' : OrderStore} {old : OrderStatus} (h : OrderMoved orderId old order.status s s')
    (hsame : s'.deliveries = s.deliveries) (hold : old ≠ .delivered) (hnew : order.status = .delivered) :
    OrderMoved orderId old order.status s (run (onOrderDelivered env orderId order items) s').2 := by
  have hkeeps : KeepsStatus orderId order.status { s' with deliveries := s'.deliveries ++ [orderId] }
      (run (onOrderDelivered env orderId order items) s').2 := keepsStatus_onOrderDelivered env order items s'
  refine ⟨h.before, hkeeps.self h.after, fun id hid => (hkeeps.other id hid).trans (h.other id hid), .inr ?_⟩
  rw [hkeeps.deliveries_eq, hsame]
  exact ⟨rfl, hold, hnew⟩

end Completed

/-! ### Calls -/

inductive DeliveryCall where
  | acceptAssignment (env : DeliveryRuntime) (delivererId orderId : ℕ)
  | rejectAssignment (env : DeliveryRuntime) (delivererId orderId : ℕ)
  | confirmPickup (env : DeliveryRuntime) (delivererId orderId : ℕ)
  | verifyDelivery (env : DeliveryRuntime) (delivererId orderId : ℕ) (code : String)
  | failDelivery (env : DeliveryRuntime) (delivererId orderId : ℕ) (reasonCode proofOfDeliveryUrl : String)
    (notes : Option String)
  | updateDeliveryStatus (env : DeliveryRuntime) (delivererId orderId : ℕ) (newStatus : OrderStatus)
  | adminForceDelivery (env : DeliveryRuntime) (orderId : ℕ)

namespace DeliveryCall

def proc : DeliveryCall → OrderProc Unit
  | acceptAssignment env delivererId orderId => Deliveries.acceptAssignment env delivererId orderId
  | rejectAssignment env delivererId orderId => Deliveries.rejectAssignment env delivererId orderId
  | confirmPickup env delivererId orderId => Deliveries.confirmPickup env delivererId orderId
  | verifyDelivery env delivererId orderId code => Deliveries.verifyDelivery env delivererId orderId code
  | failDelivery env delivererId orderId reasonCode proofOfDeliveryUrl notes =>
    Deliveries.failDelivery env delivererId orderId reasonCode proofOfDeliveryUrl notes
  | updateDeliveryStatus env delivererId orderId newStatus =>
    Deliveries.updateDeliveryStatus env delivererId orderId newStatus
  | adminForceDelivery env orderId => Deliveries.adminForceDelivery env orderId

def step (s : OrderStore) (call : DeliveryCall) : OrderStore := (call.proc.run s).2

def orderId : DeliveryCall → ℕ
  | acceptAssignment _ _ orderId | rejectAssignment _ _ orderId | confirmPickup _ _ orderId
  | verifyDelivery _ _ orderId _ | failDelivery _ _ orderId _ _ _ | updateDeliveryStatus _ _ orderId _
  | adminForceDelivery _ orderId => orderId

/-- The status that the checks of the call let it store for the order. -/
def targetFor (order : Order) : DeliveryCall → Option OrderStatus
  | acceptAssignment _ delivererId _ =>
    if order.delivererId.any fun id => id ≠ delivererId then none
    else some (if order.status = .pending then .processing else order.status)
  | rejectAssignment _ delivererId _ => if order.delivererId = some delivererId then some .processing else none
  | confirmPickup _ delivererId _ =>
    if order.delivererId = some delivererId ∧ order.deliveryAcceptanceStatus = some .accepted then some .outForDelivery
    else none
  | verifyDelivery _ delivererId _ code =>
    if order.delivererId = some delivererId ∧ order.status ≠ .delivered ∧ order.deliveryAttemptCount < 5 ∧
        order.deliveryCode.filter (· ≠ "") = some code then some .delivered
    else none
  | failDelivery env delivererId _ reasonCode _ _ =>
    if env.toUpperCase (trim reasonCode) ∈ deliveryFailureReasonCodes ∧ order.delivererId = some delivererId ∧
        order.status = .outForDelivery then some .deliveryFailed
    else none
  | updateDeliveryStatus _ delivererId _ newStatus =>
    if order.delivererId = some delivererId then some newStatus else none
  | adminForceDelivery _ _ => some .delivered

/-- The call finds an order that is delivered or cancelled, and its checks let it store another status. -/
def LeavesFinal (s : OrderStore) (call : DeliveryCall) : Prop :=
  ∃ order ∈ s.orders.lookup call.orderId, order.status.IsFinal ∧ ∃ status ∈ call.targetFor order, status ≠ order.status
deriving Decidable

end DeliveryCall

section Calls

variable {s : OrderStore} {orderId : ℕ} {order : Order} (env : DeliveryRuntime) (delivererId : ℕ)

theorem run_findOrder_bind_of_none {α : Type} (h : s.orders.lookup orderId = none) (f : Order → OrderProc α) :
    run (findOrder orderId >>= f) s = (.error orderNotFound, s) := by
  unfold findOrder
  rw [bind_assoc, run_read_bind, h]
  rfl

theorem run_findOrder_bind {α : Type} (h : s.orders.lookup orderId = some order) (f : Order → OrderProc α) :
    run (findOrder orderId >>= f) s = run (f order) s := by
  unfold findOrder
  rw [bind_assoc, run_read_bind, h]
  rfl

theorem loadOrder_eq (h : s.orders.lookup orderId = some order) :
    s.loadOrder orderId = some (order, order.items.map s.loadItem) := by
  unfold loadOrder
  rw [h]
  rfl

theorem snd_run_notifications (outcome outcome' : Except HttpException Unit) (s : OrderStore) :
    (run (Proc.ofExcept outcome >>= fun _ => (Proc.ofExcept outcome' : OrderProc Unit)) s).2 = s :=
  ((readOnly_ofExcept outcome).bind fun _ => readOnly_ofExcept outcome') s

section

variable (h : s.orders.lookup orderId = some order)

include h

theorem snd_run_acceptAssignment : (run (acceptAssignment env delivererId orderId) s).2 =
      if order.delivererId.any fun id => id ≠ delivererId then s
      else s.saveOrder orderId (acceptedOrder env delivererId order) := by
  unfold acceptAssignment
  rw [run_findOrder_bind h, run_throwIf_bind]
  split_ifs <;> rfl

theorem snd_run_rejectAssignment : (run (rejectAssignment env delivererId orderId) s).2 =
      if order.delivererId = some delivererId then s.saveOrder orderId (rejectedOrder order) else s := by
  unfold rejectAssignment
  rw [run_findOrder_bind h]
  cases hdeliverer : order.delivererId with
  | none => rfl
  | some assignedId =>
    rw [run_throwIf_bind]
    by_cases hsame : assignedId = delivererId
    · rw [if_neg (not_not.mpr hsame), if_pos (congrArg some hsame)]
      exact readOnly_ofExcept env.notifyVendors _
    · rw [if_pos hsame, if_neg fun heq => hsame (Option.some_inj.mp heq)]

theorem snd_run_confirmPickup : (run (confirmPickup env delivererId orderId) s).2 =
      if order.delivererId = some delivererId ∧ order.deliveryAcceptanceStatus = some .accepted ∧
          order.status ≠ .outForDelivery then s.saveOrder orderId (pickedUpOrder env order) else s := by
  unfold confirmPickup
  rw [run_findOrder_bind h, run_throwIf_bind]
  by_cases hdeliverer : order.delivererId = some delivererId
  · rw [if_neg (not_not.mpr hdeliverer), run_throwIf_bind]
    by_cases haccepted : order.deliveryAcceptanceStatus = some .accepted
    · rw [if_neg (not_not.mpr haccepted)]
      by_cases hout : order.status = .outForDelivery
      · rw [if_pos hout, if_neg fun hall => hall.2.2 hout]
        rfl
      · rw [if_neg hout, if_pos ⟨hdeliverer, haccepted, hout⟩]
        exact snd_run_notifications _ _ _
    · rw [if_pos haccepted, if_neg fun hall => haccepted hall.2.1]
  · rw [if_pos hdeliverer, if_neg fun hall => hdeliverer hall.1]

end

theorem snd_run_failDelivery (reasonCode proofOfDeliveryUrl : String) (notes : Option String)
    (h : s.orders.lookup orderId = some order) :
    (run (failDelivery env delivererId orderId reasonCode proofOfDeliveryUrl notes) s).2 =
      if env.toUpperCase (trim reasonCode) ∈ deliveryFailureReasonCodes ∧ order.delivererId = some delivererId ∧
          order.status = .outForDelivery then
        s.saveOrder orderId
          (failedOrder env (env.toUpperCase (trim reasonCode)) proofOfDeliveryUrl notes order) else s := by
  unfold failDelivery
  rw [run_throwIf_bind]
  by_cases hreason : env.toUpperCase (trim reasonCode) ∈ deliveryFailureReasonCodes
  · rw [if_neg (not_not.mpr hreason), run_findOrder_bind h, run_throwIf_bind]
    by_cases hdeliverer : order.delivererId = some delivererId
    · rw [if_neg (not_not.mpr hdeliverer), run_throwIf_bind]
      by_cases hout : order.status = .outForDelivery
      · rw [if_neg (not_not.mpr hout), if_pos ⟨hreason, hdeliverer, hout⟩]
        exact snd_run_notifications _ _ _
      · rw [if_pos hout, if_neg fun hall => hout hall.2.2]
    · rw [if_pos hdeliverer, if_neg fun hall => hdeliverer hall.2.1]
  · rw [if_pos hreason, if_neg fun hall => hreason hall.1]

/-- A status is stored, and the delivery completed unless a notification fails before that. -/
theorem moved_complete {new : OrderStatus} {order' : Order} (h : s.orders.lookup orderId = some order)
    (hnew : order'.status = new) (items : List LoadedItem) :
    OrderMoved orderId order.status new s (run (Deliveries.saveOrder orderId order' >>= fun _ =>
      Proc.ofExcept env.notifyOrderStatusChange >>= fun _ =>
        completeDelivery env orderId order.status order' items) s).2 := by
  have hsaved := moved_saveOrder h hnew
  cases env.notifyOrderStatusChange with
  | error e => exact hsaved
  | ok u =>
    unfold completeDelivery
    by_cases hfirst : order.status ≠ .delivered ∧ order'.status = .delivered
    · rw [if_pos hfirst]
      subst hnew
      exact moved_onOrderDelivered env order' items hsaved rfl hfirst.1 hfirst.2
    · rw [if_neg hfirst]
      exact hsaved

theorem moved_updateDeliveryStatus (newStatus : OrderStatus) (h : s.orders.lookup orderId = some order)
    (hdeliverer : order.delivererId = some delivererId) :
    OrderMoved orderId order.status newStatus s (run (updateDeliveryStatus env delivererId orderId newStatus) s).2 := by
  unfold updateDeliveryStatus
  rw [run_read_bind, loadOrder_eq h]
  rw [run_throwIf_bind, if_neg (not_not.mpr hdeliverer)]
  have hupdated := moved_complete env h (rfl : (updatedOrder env newStatus order).status = newStatus)
    (order.items.map s.loadItem)
  exact hupdated

theorem moved_adminForceDelivery (h : s.orders.lookup orderId = some order) (hnot : order.status ≠ .delivered) :
    OrderMoved orderId order.status .delivered s (run (adminForceDelivery env orderId) s).2 := by
  have hforced := moved_complete env h (rfl : (forcedOrder env order).status = .delivered) (order.items.map s.loadItem)
  unfold adminForceDelivery
  rw [run_read_bind, loadOrder_eq h]
  dsimp only
  rw [if_neg hnot]
  have hcomplete : completeDelivery env orderId order.status (forcedOrder env order) (order.items.map s.loadItem) =
      onOrderDelivered env orderId (forcedOrder env order) (order.items.map s.loadItem) := if_pos ⟨hnot, rfl⟩
  rw [hcomplete] at hforced
  exact hforced

variable {call : DeliveryCall}

theorem step_of_unknown (h : s.orders.lookup call.orderId = none) : call.step s = s := by
  have hload : s.loadOrder call.orderId = none := by
    unfold loadOrder
    rw [h]
    rfl
  unfold DeliveryCall.step
  cases call with
  | acceptAssignment env delivererId orderId => exact congrArg Prod.snd (run_findOrder_bind_of_none h _)
  | rejectAssignment env delivererId orderId => exact congrArg Prod.snd (run_findOrder_bind_of_none h _)
  | confirmPickup env delivererId orderId => exact congrArg Prod.snd (run_findOrder_bind_of_none h _)
  | verifyDelivery env delivererId orderId code => exact congrArg Prod.snd (run_findOrder_bind_of_none h _)
  | failDelivery env delivererId orderId reasonCode proofOfDeliveryUrl notes =>
    unfold DeliveryCall.proc failDelivery
    rw [run_throwIf_bind]
    by_cases hreason : env.toUpperCase (trim reasonCode) ∈ deliveryFailureReasonCodes
    · rw [if_neg (not_not.mpr hreason)]
      exact congrArg Prod.snd (run_findOrder_bind_of_none h _)
    · rw [if_pos hreason]
  | updateDeliveryStatus env delivererId orderId newStatus =>
    have hload : s.loadOrder orderId = none := hload
    unfold DeliveryCall.proc updateDeliveryStatus
    rw [run_read_bind, hload]
    rfl
  | adminForceDelivery env orderId =>
    have hload : s.loadOrder orderId = none := hload
    unfold DeliveryCall.proc adminForceDelivery
    rw [run_read_bind, hload]
    rfl

theorem verifyDelivery_cases (code : String) (h : s.orders.lookup orderId = some order) :
    if order.delivererId = some delivererId ∧ order.status ≠ .delivered ∧ order.deliveryAttemptCount < 5 ∧
        order.deliveryCode.filter (· ≠ "") = some code then
      OrderMoved orderId order.status .delivered s (run (verifyDelivery env delivererId orderId code) s).2
    else SameOrderStatuses s (run (verifyDelivery env delivererId orderId code) s).2 := by
  unfold verifyDelivery
  rw [run_findOrder_bind h, run_throwIf_bind]
  by_cases hdeliverer : order.delivererId = some delivererId
  swap
  · rw [if_neg fun hall => hdeliverer hall.1, if_pos hdeliverer]
    exact SameOrderStatuses.refl s
  rw [if_neg (not_not.mpr hdeliverer)]
  by_cases hdelivered : order.status = .delivered
  · rw [if_neg fun hall => hall.2.1 hdelivered, if_pos hdelivered]
    exact SameOrderStatuses.refl s
  rw [if_neg hdelivered, run_throwIf_bind]
  by_cases hattempts : order.deliveryAttemptCount ≥ 5
  · rw [if_neg fun hall => not_lt_of_ge hattempts hall.2.2.1, if_pos hattempts]
    exact SameOrderStatuses.refl s
  rw [if_neg hattempts]
  cases hcode : order.deliveryCode.filter (· ≠ "") with
  | none =>
    rw [if_neg fun hall => by cases hall.2.2.2]
    exact SameOrderStatuses.refl s
  | some deliveryCode =>
    dsimp only
    unfold verifyCode
    by_cases hright : code = deliveryCode
    · rw [if_pos ⟨hdeliverer, hdelivered, not_le.mp hattempts, congrArg some hright.symm⟩, if_pos hright]
      exact moved_updateDeliveryStatus env delivererId .delivered h hdeliverer
    · rw [if_neg fun hall => hright (Option.some_inj.mp hall.2.2.2).symm, if_neg hright]
      exact sameOrderStatuses_saveOrder h rfl

/-- **What a call does to an order**: when its checks let it store a status, it moves the order there; otherwise all
statuses stay. -/
theorem step_of_lookup (h : s.orders.lookup call.orderId = some order) :
    (call.targetFor order).elim (SameOrderStatuses s (call.step s)) fun new =>
      OrderMoved call.orderId order.status new s (call.step s) := by
  unfold DeliveryCall.step
  cases call with
  | acceptAssignment env delivererId orderId =>
    have h : s.orders.lookup orderId = some order := h
    have hrun := snd_run_acceptAssignment env delivererId h
    dsimp only [DeliveryCall.targetFor, DeliveryCall.proc]
    rw [hrun]
    split_ifs with hother hpending
    · exact SameOrderStatuses.refl s
    · exact moved_saveOrder h (if_pos hpending)
    · exact moved_saveOrder h (if_neg hpending)
  | rejectAssignment env delivererId orderId =>
    have h : s.orders.lookup orderId = some order := h
    have hrun := snd_run_rejectAssignment env delivererId h
    dsimp only [DeliveryCall.targetFor, DeliveryCall.proc]
    rw [hrun]
    split_ifs
    · exact moved_saveOrder h rfl
    · exact SameOrderStatuses.refl s
  | confirmPickup env delivererId orderId =>
    have h : s.orders.lookup orderId = some order := h
    have hrun := snd_run_confirmPickup env delivererId h
    dsimp only [DeliveryCall.targetFor, DeliveryCall.proc]
    rw [hrun]
    by_cases hmine : order.delivererId = some delivererId ∧ order.deliveryAcceptanceStatus = some .accepted
    · rw [if_pos hmine]
      by_cases hout : order.status = .outForDelivery
      · rw [if_neg fun hall => hall.2.2 hout, ← hout]
        exact orderMoved_refl h
      · rw [if_pos ⟨hmine.1, hmine.2, hout⟩]
        exact moved_saveOrder h rfl
    · rw [if_neg hmine, if_neg fun hall => hmine ⟨hall.1, hall.2.1⟩]
      exact SameOrderStatuses.refl s
  | verifyDelivery env delivererId orderId code =>
    have h : s.orders.lookup orderId = some order := h
    have hcases := verifyDelivery_cases env delivererId code h
    dsimp only [DeliveryCall.targetFor, DeliveryCall.proc]
    split_ifs at hcases ⊢
    · exact hcases
    · exact hcases
  | failDelivery env delivererId orderId reasonCode proofOfDeliveryUrl notes =>
    have h : s.orders.lookup orderId = some order := h
    have hrun := snd_run_failDelivery env delivererId reasonCode proofOfDeliveryUrl notes h
    dsimp only [DeliveryCall.targetFor, DeliveryCall.proc]
    rw [hrun]
    split_ifs
    · exact moved_saveOrder h rfl
    · exact SameOrderStatuses.refl s
  | updateDeliveryStatus env delivererId orderId newStatus =>
    have h : s.orders.lookup orderId = some order := h
    dsimp only [DeliveryCall.targetFor, DeliveryCall.proc]
    by_cases hdeliverer : order.delivererId = some delivererId
    · rw [if_pos hdeliverer]
      exact moved_updateDeliveryStatus env delivererId newStatus h hdeliverer
    · rw [if_neg hdeliverer]
      unfold updateDeliveryStatus
      rw [run_read_bind, loadOrder_eq h]
      rw [run_throwIf_bind, if_pos hdeliverer]
      exact SameOrderStatuses.refl s
  | adminForceDelivery env orderId =>
    have h : s.orders.lookup orderId = some order := h
    by_cases hdelivered : order.status = .delivered
    · have hsame : (run (adminForceDelivery env orderId) s).2 = s := by
        unfold adminForceDelivery
        rw [run_read_bind, loadOrder_eq h]
        dsimp only
        rw [if_pos hdelivered]
        rfl
      show OrderMoved orderId order.status .delivered s (run (adminForceDelivery env orderId) s).2
      rw [hsame, ← hdelivered]
      exact orderMoved_refl h
    · exact moved_adminForceDelivery env h hdelivered

theorem delivery_step_cases (s : OrderStore) (call : DeliveryCall) :
    ¬ call.LeavesFinal s ∧ SameOrderStatuses s (call.step s) ∨ ∃ old new,
      (call.LeavesFinal s ↔ old.IsFinal ∧ new ≠ old) ∧ OrderMoved call.orderId old new s (call.step s) := by
  cases hlookup : s.orders.lookup call.orderId with
  | none =>
    refine .inl ⟨?_, (step_of_unknown hlookup).symm ▸ SameOrderStatuses.refl s⟩
    rintro ⟨order, horder, -⟩
    cases hlookup.symm.trans horder
  | some order =>
    have hstep := step_of_lookup hlookup
    cases htarget : call.targetFor order with
    | none =>
      rw [htarget] at hstep
      refine .inl ⟨?_, hstep⟩
      rintro ⟨order', horder, -, status, hstatus, -⟩
      cases hlookup.symm.trans horder
      cases htarget.symm.trans hstatus
    | some new =>
      rw [htarget] at hstep
      refine .inr ⟨order.status, new, ?_, hstep⟩
      constructor
      · rintro ⟨order', horder, hfinal, status, hstatus, hne⟩
        cases hlookup.symm.trans horder
        cases htarget.symm.trans hstatus
        exact ⟨hfinal, hne⟩
      · rintro ⟨hfinal, hne⟩
        exact ⟨order, hlookup, hfinal, new, htarget, hne⟩

theorem keepsFinal_step_iff (s : OrderStore) (call : DeliveryCall) :
    KeepsFinal s (call.step s) ↔ ¬ call.LeavesFinal s := by
  rcases delivery_step_cases s call with ⟨hnot, hsame⟩ | ⟨old, new, hleaves, hmoved⟩
  · exact iff_of_true hsame.keepsFinal hnot
  · rw [hleaves]
    exact hmoved.keepsFinal_iff

theorem completedOnce_step (hs : CompletedOnce s) (hnot : ¬ call.LeavesFinal s) : CompletedOnce (call.step s) := by
  rcases delivery_step_cases s call with ⟨-, hsame⟩ | ⟨old, new, hleaves, hmoved⟩
  · exact hsame.completedOnce hs
  · exact hmoved.completedOnce hs fun hboth => hnot (hleaves.mpr hboth)

/-- **A delivery is final and completed once**: in every run, an order that is `DELIVERED` or `CANCELLED` in one state
has that status in all later ones, and `onOrderDelivered` runs at most once for each order, if and only if no call
finds an order that is `DELIVERED` or `CANCELLED` and has checks that let it store another status. -/
theorem delivery_final_and_once_iff {s₀ : OrderStore} (hs₀ : CompletedOnce s₀) (calls : List DeliveryCall) :
    ((∀ n m, n ≤ m → KeepsFinal (Run.after DeliveryCall.step s₀ (calls.take n))
        (Run.after DeliveryCall.step s₀ (calls.take m))) ∧
      ∀ n orderId, (Run.after DeliveryCall.step s₀ (calls.take n)).deliveries.count orderId ≤ 1) ↔
      Run.Along DeliveryCall.step (fun s call => ¬ call.LeavesFinal s) s₀ calls := by
  have hstep : ∀ s call, CompletedOnce s → ¬ DeliveryCall.LeavesFinal s call → CompletedOnce (call.step s) :=
    fun s call hs hnot => completedOnce_step hs hnot
  have hfinal : (∀ n m, n ≤ m → KeepsFinal (Run.after DeliveryCall.step s₀ (calls.take n))
      (Run.after DeliveryCall.step s₀ (calls.take m))) ↔
      Run.Along DeliveryCall.step (fun s call => ¬ call.LeavesFinal s) s₀ calls :=
    Run.forall_rel_take_iff KeepsFinal.refl (fun _ _ _ => KeepsFinal.trans) hstep
      (fun s call _ => keepsFinal_step_iff s call) hs₀ calls
  rw [hfinal]
  refine and_iff_left_of_imp fun halong n orderId => ?_
  have honce := Run.after_induction hstep hs₀ (Run.along_take halong n) orderId
  refine honce.trans ?_
  split_ifs <;> omega

end Calls

/-! ### Runs -/

/-- A runtime whose notifications all arrive. -/
def deliveryRuntime : DeliveryRuntime where
  now := 1700000000000
  code := "4711"
  toUpperCase text := String.ofList (text.toList.map Char.toUpper)
  rates _ := none
  inThirtyDays := 1702592000000
  deliveryBaseFee := some 50
  vendorCommissionPercent := none
  notifyOrderStatusChange := .ok ()
  notifyVendors := .ok ()
  notifyOrderComplete := .ok ()

/-- An order is accepted, picked up and delivered, at the second attempt. -/
def deliveringCalls : List DeliveryCall :=
  [.acceptAssignment deliveryRuntime 40 1, .confirmPickup deliveryRuntime 40 1,
    .verifyDelivery deliveryRuntime 40 1 "0000", .verifyDelivery deliveryRuntime 40 1 "4711",
    .adminForceDelivery deliveryRuntime 1, .failDelivery deliveryRuntime 40 1 "OTHER" "proof.jpg" none]

theorem completedOnce_oneItemOrder (balance : ℤ) : CompletedOnce (oneItemOrder balance) := fun _ => Nat.zero_le _

theorem delivery_final_and_once_deliveringCalls :
    let state (n : ℕ) := Run.after DeliveryCall.step (oneItemOrder 0) (deliveringCalls.take n)
    ((state 3).statusOf 1 = some .outForDelivery ∧ (state 6).statusOf 1 = some .delivered ∧
      (state 6).deliveries = [1]) ∧
      (∀ n m, n ≤ m → KeepsFinal (state n) (state m)) ∧ ∀ n orderId, (state n).deliveries.count orderId ≤ 1 :=
  ⟨by decide +kernel, (delivery_final_and_once_iff (completedOnce_oneItemOrder 0) deliveringCalls).mpr
    (by decide +kernel)⟩

/-- The deliverer rejects an order that was delivered, and delivers it again. -/
theorem delivered_twice :
    let state (n : ℕ) := Run.after DeliveryCall.step (oneItemOrder 0)
      ((deliveringCalls.take 4 ++ [DeliveryCall.rejectAssignment deliveryRuntime 40 1] ++ deliveringCalls.take 4).take n)
    ((state 4).statusOf 1 = some .delivered ∧ (state 4).deliveries = [1]) ∧
      (state 5).statusOf 1 = some .processing ∧
        (state 9).statusOf 1 = some .delivered ∧ (state 9).deliveries = [1, 1] := by
  decide +kernel

end SuuqBackend
