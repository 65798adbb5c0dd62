import SuuqBackend.Orders.Disputes
import SuuqBackend.Orders.Laws.PaymentConcurrency
import SuuqBackend.Orders.Laws.Reservations

/-!
# What a refund pays out

A refund credits the total of an order to its buyer, and takes the payouts of the items back from their vendors with
credits of negative amounts.  It asks neither whether the order was paid, nor whether the vendors were; and a credit
writes a transaction with the absolute value of its amount, so that the transactions of a vendor add up to twice the
payout.
-/

namespace SuuqBackend

open Proc OrderStore SerialTable

/-! ### Bills -/

namespace OrderStore

def billedOf (s : OrderStore) (orderId : ℕ) : Option (List (Option ℕ × ItemTerms)) :=
  (s.loadOrder orderId).map fun found => found.2.map LoadedItem.billed

/-- The payment of an order credits a vendor. -/
def Earns (s : OrderStore) (orderId : ℕ) : Prop :=
  ∃ items ∈ s.billedOf orderId, ∃ item ∈ items, item.1.isSome ∧ 0 < item.2.vendorPayout.value
deriving Decidable

def IsVendor (s : OrderStore) (orderId vendorId : ℕ) : Prop :=
  ∃ items ∈ s.billedOf orderId, ∃ item ∈ items, item.1 = some vendorId
deriving Decidable

end OrderStore

/-! ### Runs -/

variable (orderId : ℕ)

/-- What a call does to an order; its response is left out. -/
def OrderPaymentCall.handler : OrderPaymentCall → OrderProc Unit
  | triggerPostPaymentProcessing env => do
    let _ ← OrderPayments.triggerPostPaymentProcessing env orderId
  | approveBankTransfer env => OrderPayments.approveBankTransfer env orderId
  | completeOrderFromPaymentCallback env => do
    let _ ← OrderPayments.completeOrderFromPaymentCallback env orderId
  | verifyAndCompleteEbirrOrder env => do
    let _ ← OrderPayments.verifyAndCompleteEbirrOrder env orderId
  | handleWebhook env => OrderPayments.handleWebhook env orderId

inductive DisputeCall where
  | payment (orderId : ℕ) (call : OrderPaymentCall)
  | disputeOrder (orderId : ℕ) (reason details : Option String)
  | resolveDispute (now : ℤ) (disputeId adminId : ℕ) (resolutionNotes : Option String)
  | refundDispute (now : ℤ) (disputeId adminId : ℕ) (resolutionNotes : Option String)

def DisputeCall.handler : DisputeCall → DisputeProc Unit
  | payment orderId call => Disputes.inOrders (call.handler orderId)
  | disputeOrder orderId reason details => Disputes.disputeOrder orderId reason details
  | resolveDispute now disputeId adminId resolutionNotes =>
    Disputes.resolveDispute now disputeId adminId resolutionNotes
  | refundDispute now disputeId adminId resolutionNotes => Disputes.refundDispute now disputeId adminId resolutionNotes

def netOf (tx : WalletTransaction) : ℤ := if tx.orderId = some orderId then tx.amount.hundredths else 0

def refundOf (tx : WalletTransaction) : ℤ :=
  if tx.orderId = some orderId ∧ tx.type = .refund then tx.amount.hundredths else 0

def countOf (tx : WalletTransaction) : ℤ :=
  if tx.orderId = some orderId ∧ tx.type = .refund then 1 else 0

namespace DisputeStore

def step (s : DisputeStore) (call : DisputeCall) : DisputeStore := (run call.handler s).2

def collected (s : DisputeStore) (orderId : ℕ) : ℤ :=
  if s.order.IsPaid orderId then max (s.totalOf orderId).hundredths 0 else 0

def Refunded (s : DisputeStore) (orderId : ℕ) : Prop := ∃ found ∈ s.disputeOf orderId, found.2.status = .refunded
deriving Decidable

def IsBuyer (s : DisputeStore) (orderId userId : ℕ) : Prop :=
  ∃ placement ∈ s.placements.lookup orderId, placement.userId = some userId

/-- The dispute of an order pays out no more than was collected. -/
structure SettlesDispute (orderId : ℕ) (s : DisputeStore) : Prop where
  refunded_le : ∀ userId, s.IsBuyer orderId userId →
    s.order.wallet.tally (refundOf orderId) userId ≤ s.collected orderId
  refunded_once : ∀ userId, s.IsBuyer orderId userId → s.order.wallet.tally (countOf orderId) userId ≤ 1
  vendors_even : s.Refunded orderId →
    ∀ vendorId, s.order.IsVendor orderId vendorId → s.order.wallet.tally (netOf orderId) vendorId = 0

/-- The refund of an order gives back what was paid, and there is nothing to take back from the vendors. -/
def RefundsEvenly (s : DisputeStore) (orderId : ℕ) : Prop :=
  ¬ s.order.Earns orderId ∧ ∀ userId ∈ s.buyerOf orderId,
    (s.totalOf orderId).hundredths = 0 ∨
      s.order.IsPaid orderId ∧ 0 ≤ (s.totalOf orderId).hundredths ∧ ¬ s.order.IsVendor orderId userId

def Meets (orderId : ℕ) (s : DisputeStore) : DisputeCall → Prop
  | .refundDispute _ disputeId _ _ => ∀ dispute ∈ s.disputes.find disputeId,
      dispute.status = .opened → dispute.orderId = orderId → s.RefundsEvenly orderId
  | _ => True

/-- An order that has not been disputed, and that no transaction names. -/
structure Undisputed (orderId : ℕ) (s : DisputeStore) : Prop where
  linked : s.order.wallet.Linked
  disputeOf_eq : s.disputeOf orderId = none
  unnamed : ∀ id tx, s.order.wallet.transactions.find id = some tx → tx.orderId ≠ some orderId

end DisputeStore

/-! ### What a call leaves of an order -/

namespace OrderStore

/-- The orders and the products stay as they are, and the wallets get no other transactions than such as `Q` says. -/
structure EntersOnly (Q : WalletTransaction → Prop) (s s' : OrderStore) : Prop where
  orders_eq : s'.orders = s.orders
  products_eq : s'.products = s.products
  wallet : s.wallet.Linked → WalletStore.AddsOnly Q s.wallet s'.wallet

/-- An order is billed as before and stays paid, and the wallets get no transactions of it but for its earnings. -/
structure MovesOrder (orderId : ℕ) (s s' : OrderStore) : Prop where
  billedOf_eq : s'.billedOf orderId = s.billedOf orderId
  paid : s.IsPaid orderId → s'.IsPaid orderId
  wallet : WalletStore.AddsOnly (fun tx => tx.orderId = some orderId → tx.type ≠ .refund ∧ s.Earns orderId)
    s.wallet s'.wallet

variable {s s' s'' : OrderStore} {Q Q' : WalletTransaction → Prop} {orderId orderId' : ℕ}

theorem EntersOnly.refl (s : OrderStore) : EntersOnly Q s s := ⟨rfl, rfl, WalletStore.AddsOnly.refl⟩

theorem EntersOnly.trans (h : EntersOnly Q s s') (h' : EntersOnly Q s' s'') : EntersOnly Q s s'' where
  orders_eq := h'.orders_eq.trans h.orders_eq
  products_eq := h'.products_eq.trans h.products_eq
  wallet hlinked := (h.wallet hlinked).trans (h'.wallet (h.wallet hlinked).linked)

theorem EntersOnly.mono (hQ : ∀ tx, Q tx → Q' tx) (h : EntersOnly Q s s') : EntersOnly Q' s s' :=
  ⟨h.orders_eq, h.products_eq, fun hlinked => (h.wallet hlinked).mono hQ⟩

theorem entersOnly_run {α : Type} {p : OrderProc α} (hp : p.Acts (EntersOnly Q)) (s : OrderStore) :
    EntersOnly Q s (run p s).2 :=
  hp.rel_run EntersOnly.refl (fun _ _ _ => EntersOnly.trans) s

theorem billedOf_congr (husers : s'.wallet.users = s.wallet.users) (hproducts : s'.products = s.products)
    (hterms : (s'.orders.lookup orderId).map (·.items.map OrderItem.terms) =
      (s.orders.lookup orderId).map (·.items.map OrderItem.terms)) : s'.billedOf orderId = s.billedOf orderId := by
  have hbilled (t : OrderStore) : t.billedOf orderId =
      ((t.orders.lookup orderId).map (·.items.map OrderItem.terms)).map (List.map fun terms =>
        (terms.productId.bind fun productId => (t.sellerOf productId).bind fun seller =>
          seller.bind fun vendorId => (t.wallet.users.lookup vendorId).map fun _ => vendorId, terms)) := by
    unfold billedOf loadOrder
    rw [Option.map_map, Option.map_map]
    refine congrArg (Option.map · _) (funext fun order => ?_)
    dsimp only [Function.comp_apply]
    rw [List.map_map, List.map_map]
    exact List.map_congr_left fun item _ => Prod.ext (vendorId_loadItem t item) rfl
  rw [hbilled, hbilled, hterms]
  unfold sellerOf
  rw [husers, hproducts]

theorem earns_congr (h : s'.billedOf orderId = s.billedOf orderId) : s'.Earns orderId ↔ s.Earns orderId := by
  unfold Earns
  rw [h]

theorem isVendor_congr (h : s'.billedOf orderId = s.billedOf orderId) (vendorId : ℕ) :
    s'.IsVendor orderId vendorId ↔ s.IsVendor orderId vendorId := by
  unfold IsVendor
  rw [h]

theorem MovesOrder.refl (h : s.wallet.Linked) : MovesOrder orderId s s := ⟨rfl, id, WalletStore.AddsOnly.refl h⟩

theorem MovesOrder.trans (h : MovesOrder orderId s s') (h' : MovesOrder orderId s' s'') : MovesOrder orderId s s'' where
  billedOf_eq := h'.billedOf_eq.trans h.billedOf_eq
  paid hpaid := h'.paid (h.paid hpaid)
  wallet := h.wallet.trans (h'.wallet.mono fun _ htx horder =>
    ⟨(htx horder).1, (earns_congr h.billedOf_eq).mp (htx horder).2⟩)

theorem EntersOnly.moves (h : EntersOnly Q s s') (hlinked : s.wallet.Linked)
    (hQ : ∀ tx, Q tx → tx.orderId = some orderId → tx.type ≠ .refund ∧ s.Earns orderId) : MovesOrder orderId s s' where
  billedOf_eq := billedOf_congr (h.wallet hlinked).users_eq h.products_eq (by rw [h.orders_eq])
  paid := by
    unfold IsPaid
    rw [h.orders_eq]
    exact id
  wallet := (h.wallet hlinked).mono hQ

theorem moves_saveOrder {order order' : Order} (hlinked : s.wallet.Linked)
    (hlookup : s.orders.lookup orderId' = some order)
    (hterms : order'.items.map OrderItem.terms = order.items.map OrderItem.terms)
    (hpaid : order.paymentStatus = .paid → order'.paymentStatus = .paid) :
    MovesOrder orderId s (s.saveOrder orderId' order') := by
  by_cases hid : orderId = orderId'
  · subst hid
    have hsaved : (s.saveOrder orderId order').orders.lookup orderId = some order' := Finmap.lookup_insert _
    refine ⟨billedOf_congr rfl rfl ?_, ?_, WalletStore.AddsOnly.refl hlinked⟩
    · rw [hsaved, hlookup, Option.map_some, Option.map_some, hterms]
    · rintro ⟨found, hfound, hstatus⟩
      obtain rfl : order = found := Option.mem_unique hlookup hfound
      exact ⟨order', hsaved, hpaid hstatus⟩
  · have hsaved : (s.saveOrder orderId' order').orders.lookup orderId = s.orders.lookup orderId :=
      Finmap.lookup_insert_of_ne _ hid
    refine ⟨billedOf_congr rfl rfl (by rw [hsaved]), ?_, WalletStore.AddsOnly.refl hlinked⟩
    unfold IsPaid
    rw [hsaved]
    exact id

end OrderStore

/-! ### Payments -/

section Payments

open OrderPayments

variable {s : OrderStore} {orderId : ℕ}

theorem acts_credit (userId : ℕ) (amount : ℚ) (type : TransactionType) (description : Option String)
    (orderId : Option ℕ) :
    (zoom OrderStore.walletLens (Wallets.creditWallet userId amount type description orderId false)).Acts
      (EntersOnly fun tx => tx.type = type ∧ tx.orderId = orderId) :=
  Acts.zoom (R := fun wallet wallet' => wallet.Linked → WalletStore.AddsOnly _ wallet wallet')
    (acts_transaction fun _ hlinked => addsOnly_creditWallet amount type description orderId hlinked userId)
    fun _ _ hwallet => ⟨rfl, rfl, hwallet⟩

theorem acts_debit (userId : ℕ) (amount : ℚ) (type : TransactionType) (description : Option String)
    (orderId : Option ℕ) :
    (zoom OrderStore.walletLens (Wallets.debitWallet userId amount type description orderId false)).Acts
      (EntersOnly fun tx => tx.type = type ∧ tx.orderId = orderId) :=
  Acts.zoom (R := fun wallet wallet' => wallet.Linked → WalletStore.AddsOnly _ wallet wallet')
    (acts_transaction fun _ hlinked => addsOnly_debitWallet amount type description orderId hlinked userId)
    fun _ _ hwallet => ⟨rfl, rfl, hwallet⟩

variable (env : PaymentRuntime) (orderId' : ℕ)

theorem acts_creditAndPayOut (loaded : LoadedItem) (product : OrderedProduct)
    (vendorId : ℕ) : (creditAndPayOut env orderId' loaded product vendorId).Acts
      (EntersOnly fun tx => tx.type ≠ .refund ∧ tx.orderId = some orderId') := by
  have hdebit (loaded : LoadedItem) (vendorId : ℕ) : (debitVendor env orderId' loaded vendorId).Acts
      (EntersOnly fun tx => tx.type ≠ .refund ∧ tx.orderId = some orderId') := by
    unfold debitVendor
    cases env.debitFails loaded.item.id with
    | some message => exact acts_throw _
    | none =>
      refine (acts_debit vendorId _ .payout _ (some orderId')).mono fun _ _ => EntersOnly.mono fun tx htx => ?_
      exact ⟨fun htype => (by decide : TransactionType.payout ≠ .refund) (htx.1.symm.trans htype), htx.2⟩
  have hlogs (s s' : OrderStore) (hwallet : s'.wallet = s.wallet) (horders : s'.orders = s.orders)
      (hproducts : s'.products = s.products) :
      EntersOnly (fun tx => tx.type ≠ .refund ∧ tx.orderId = some orderId') s s' := by
    refine ⟨horders, hproducts, fun hlinked => ?_⟩
    rw [hwallet]
    exact WalletStore.AddsOnly.refl hlinked
  refine Acts.bind ?_ fun _ => acts_tryAutoEbirrPayoutForItem env orderId' hlogs hdebit loaded false
  refine (acts_credit vendorId _ .earning _ (some orderId')).mono fun _ _ => EntersOnly.mono fun tx htx => ?_
  exact ⟨fun htype => (by decide : TransactionType.earning ≠ .refund) (htx.1.symm.trans htype), htx.2⟩

theorem acts_processItem (loaded : LoadedItem) :
    (processItem env orderId' loaded).Acts (EntersOnly fun tx => (tx.type ≠ .refund ∧ tx.orderId = some orderId') ∧
      loaded.vendorId.isSome ∧ 0 < loaded.item.vendorPayout.value) := by
  unfold processItem LoadedItem.vendorId
  cases loaded.product with
  | none => exact acts_pure _
  | some product =>
    cases loaded.vendor with
    | none => exact acts_pure _
    | some vendor =>
      by_cases hpositive : 0 < loaded.item.vendorPayout.value
      · dsimp only
        rw [if_pos hpositive]
        refine Acts.bind (Acts.attempt ?_) fun _ => acts_pure _
        exact (acts_creditAndPayOut env orderId' loaded product.2 vendor.1).mono fun _ _ =>
          EntersOnly.mono fun tx htx => ⟨htx, rfl, hpositive⟩
      · dsimp only
        rw [if_neg hpositive]
        exact acts_pure _

/-- **A completion of a payment** enters no more of an order than its earnings. -/
theorem moves_triggerPostPaymentProcessing (hlinked : s.wallet.Linked) :
    MovesOrder orderId s (run (triggerPostPaymentProcessing env orderId') s).2 := by
  unfold triggerPostPaymentProcessing
  rw [run_read_bind]
  cases hload : s.loadOrder orderId' with
  | none => exact MovesOrder.refl hlinked
  | some found =>
    obtain ⟨order, items⟩ := found
    obtain ⟨hlookup, -⟩ := lookup_of_loadOrder hload
    dsimp only
    by_cases hpaid : order.paymentStatus = .paid
    · rw [if_pos hpaid]
      exact MovesOrder.refl hlinked
    · rw [if_neg hpaid, run_write_bind, snd_run_bind_readOnly _ fun _ => readOnly_pure _]
      have hsaved : MovesOrder orderId s (s.saveOrder orderId' (paidOrder order)) := by
        refine moves_saveOrder hlinked hlookup ?_ fun _ => rfl
        unfold paidOrder
        rw [List.map_map]
        refine List.map_congr_left fun item _ => ?_
        dsimp only [Function.comp_apply]
        unfold processedItem
        split_ifs <;> rfl
      refine hsaved.trans (EntersOnly.moves (Q := fun tx => (tx.type ≠ .refund ∧ tx.orderId = some orderId') ∧
        ∃ loaded ∈ items, loaded.vendorId.isSome ∧ 0 < loaded.item.vendorPayout.value) (entersOnly_run
          (acts_forEach fun loaded hmem => (acts_processItem env orderId' loaded).mono fun _ _ =>
            EntersOnly.mono fun tx htx => ⟨htx.1, loaded, hmem, htx.2⟩) _) hlinked fun tx htx horder => ?_)
      obtain ⟨⟨htype, horder'⟩, loaded, hmem, hsome, hpositive⟩ := htx
      obtain rfl : orderId = orderId' := Option.mem_unique horder horder'
      refine ⟨htype, (earns_congr hsaved.billedOf_eq).mpr ⟨items.map LoadedItem.billed, ?_, loaded.billed,
        List.mem_map_of_mem hmem, hsome, hpositive⟩⟩
      show Option.map _ _ = _
      rw [hload]
      rfl

theorem snd_run_handler (call : OrderPaymentCall) (orderId' : ℕ) (s : OrderStore) :
    (run (call.handler orderId') s).2 = s ∨
      ∃ env, (run (call.handler orderId') s).2 = (run (triggerPostPaymentProcessing env orderId') s).2 := by
  unfold OrderPaymentCall.handler
  cases call with
  | triggerPostPaymentProcessing env => exact .inr ⟨env, snd_run_bind_readOnly _ (fun _ => readOnly_pure _) s⟩
  | approveBankTransfer env => exact .inr ⟨env, snd_run_bind_readOnly _ (fun _ => readOnly_pure _) s⟩
  | completeOrderFromPaymentCallback env => exact .inr ⟨env, snd_run_bind_readOnly _ (fun _ => readOnly_pure _) s⟩
  | verifyAndCompleteEbirrOrder env =>
    rw [snd_run_bind_readOnly _ fun _ => readOnly_pure _]
    unfold OrderPayments.verifyAndCompleteEbirrOrder
    rw [run_read_bind]
    cases s.orders.lookup orderId' with
    | none => exact .inl rfl
    | some order =>
      dsimp only
      split_ifs
      · exact .inl rfl
      · exact .inr ⟨env, snd_run_bind_readOnly _ (fun _ => readOnly_pure _) s⟩
  | handleWebhook env =>
    unfold OrderPayments.handleWebhook
    rw [run_read_bind]
    split_ifs
    · exact .inl rfl
    · exact .inr ⟨env, snd_run_bind_readOnly _ (fun _ => readOnly_pure _) s⟩

theorem moves_payment (call : OrderPaymentCall) (orderId' : ℕ) (hlinked : s.wallet.Linked) :
    MovesOrder orderId s (run (call.handler orderId') s).2 := by
  rcases snd_run_handler call orderId' s with hsame | ⟨env, hrun⟩
  · rw [hsame]
    exact MovesOrder.refl hlinked
  · rw [hrun]
    exact moves_triggerPostPaymentProcessing env orderId' hlinked

end Payments

/-! ### Disputes -/

section Disputes

variable {s s' : OrderStore} {orderId : ℕ}

theorem moves_closeOrder (now : ℤ) (orderId' : ℕ) {order : Order} (items : List LoadedItem) (status : OrderStatus)
    (hlinked : s.wallet.Linked) (hlookup : s.orders.lookup orderId' = some order) :
    MovesOrder orderId s (run (Disputes.closeOrder now orderId' order items status) s).2 := by
  obtain ⟨inventory, hstock⟩ := restocked_releaseOnlineReservation now { order with status } items s
  have hmoves : MovesOrder orderId s (OrderStore.inventoryLens.set s inventory) :=
    ⟨billedOf_congr rfl rfl rfl, id, WalletStore.AddsOnly.refl hlinked⟩
  unfold Disputes.closeOrder
  rw [run_bind]
  rcases hrun : run (OnlineReservations.releaseOnlineReservation now { order with status } items) s with
    ⟨e | released, s₁⟩
  · rw [hrun] at hstock
    obtain rfl : s₁ = _ := hstock
    exact hmoves
  · obtain ⟨time, rfl⟩ := released_eq now _ items hrun
    rw [hrun] at hstock
    obtain rfl : s₁ = _ := hstock
    exact hmoves.trans (moves_saveOrder hlinked hlookup rfl id)

theorem acts_clawBack (orderId' : ℕ) (loaded : LoadedItem) :
    (Disputes.clawBack orderId' loaded).Acts (EntersOnly fun tx => tx.orderId = some orderId') := by
  unfold Disputes.clawBack
  cases loaded.vendor with
  | none => exact acts_pure _
  | some vendor =>
    refine Acts.ite (Acts.bind ?_ fun _ => acts_pure _) (acts_pure _)
    exact (acts_credit _ _ _ _ _).mono fun _ _ => EntersOnly.mono fun tx htx => htx.2

theorem acts_refundBuyer (orderId' : ℕ) (total : Numeric2) (buyer : Option ℕ) :
    (Disputes.refundBuyer orderId' total buyer).Acts (EntersOnly fun tx => tx.orderId = some orderId') := by
  cases buyer with
  | none => exact acts_pure _
  | some userId =>
    refine Acts.bind ?_ fun _ => acts_pure _
    exact (acts_credit _ _ _ _ _).mono fun _ _ => EntersOnly.mono fun tx htx => htx.2

end Disputes

namespace DisputeStore

def OneDispute (orderId : ℕ) (s : DisputeStore) : Prop :=
  ∀ id dispute, s.disputes.find id = some dispute → dispute.orderId = orderId → s.disputeOf orderId = some (id, dispute)

variable {s : DisputeStore} {orderId disputeId : ℕ} {dispute dispute' : Dispute}

theorem oneDispute_set {disputes : SerialTable Dispute} (h : s.OneDispute orderId)
    (hfind : s.disputes.find disputeId = some dispute) (horder : dispute'.orderId = dispute.orderId)
    (hset : disputes = s.disputes.set disputeId dispute') (order : OrderStore) :
    OneDispute orderId { s with disputes, order } ∧
      disputeOf { s with disputes, order } orderId =
        if dispute.orderId = orderId then some (disputeId, dispute') else s.disputeOf orderId := by
  subst hset
  have hof : disputeOf { s with disputes := s.disputes.set disputeId dispute', order } orderId =
      if dispute.orderId = orderId then some (disputeId, dispute') else s.disputeOf orderId := by
    split_ifs with hmine
    · exact first_set (h disputeId dispute hfind hmine) (decide_eq_true (horder.trans hmine))
    · exact first_congr (filter_find_set hfind (decide_eq_false hmine) (decide_eq_false (horder ▸ hmine)))
  refine ⟨fun id found hfound hmine => ?_, hof⟩
  rw [hof]
  rcases eq_or_find_of_find_set hfound with ⟨rfl, rfl⟩ | ⟨hid, hkept⟩
  · rw [if_pos (horder.symm.trans hmine)]
  · have hfirst := h id found hkept hmine
    rw [if_neg, hfirst]
    intro hother
    have hsame := (h disputeId dispute hfind hother).symm.trans hfirst
    exact hid (congrArg Prod.fst (Option.some.inj hsame)).symm

theorem oneDispute_add (h : s.OneDispute orderId) (hnone : s.disputeOf dispute.orderId = none) (order : OrderStore) :
    OneDispute orderId { s with disputes := s.disputes.add dispute, order } ∧
      disputeOf { s with disputes := s.disputes.add dispute, order } orderId =
        if dispute.orderId = orderId then some (s.disputes.next, dispute) else s.disputeOf orderId := by
  have hof : disputeOf { s with disputes := s.disputes.add dispute, order } orderId =
      if dispute.orderId = orderId then some (s.disputes.next, dispute) else s.disputeOf orderId := by
    split_ifs with hmine
    · subst hmine
      exact first_add_of_eq_none hnone (decide_eq_true rfl)
    · exact first_congr (filter_find_add (decide_eq_false hmine))
  refine ⟨fun id found hfound hmine => ?_, hof⟩
  rw [hof]
  rcases eq_or_find_of_find_add hfound with ⟨rfl, rfl⟩ | hkept
  · rw [if_pos hmine]
  · have hfirst := h id found hkept hmine
    rw [if_neg, hfirst]
    intro hother
    rw [hother, hfirst] at hnone
    cases hnone

/-! ### The invariant -/

structure Sound (orderId : ℕ) (s : DisputeStore) : Prop where
  linked : s.order.wallet.Linked
  oneDispute : s.OneDispute orderId
  before : ¬ s.Refunded orderId → ∀ userId, s.order.wallet.tally (refundOf orderId) userId = 0 ∧
    s.order.wallet.tally (countOf orderId) userId = 0 ∧
    (¬ s.order.Earns orderId → s.order.wallet.tally (netOf orderId) userId = 0)
  after : s.Refunded orderId → ¬ s.order.Earns orderId ∧ ∀ userId,
    s.order.wallet.tally (refundOf orderId) userId ≤ s.collected orderId ∧
    s.order.wallet.tally (countOf orderId) userId ≤ 1 ∧
    (s.order.IsVendor orderId userId → s.order.wallet.tally (netOf orderId) userId = 0)

theorem collected_nonneg (s : DisputeStore) (orderId : ℕ) : 0 ≤ s.collected orderId := by
  unfold collected
  split_ifs
  · exact le_max_right _ _
  · exact le_rfl

theorem collected_le {s' : DisputeStore} (hplacements : s'.placements = s.placements)
    (hpaid : s.order.IsPaid orderId → s'.order.IsPaid orderId) : s.collected orderId ≤ s'.collected orderId := by
  have htotal : s'.totalOf orderId = s.totalOf orderId := by
    unfold totalOf
    rw [hplacements]
  have hnonneg := collected_nonneg s' orderId
  unfold collected at hnonneg ⊢
  by_cases h : s.order.IsPaid orderId
  · rw [if_pos h, if_pos (hpaid h), htotal]
  · rw [if_neg h]
    exact hnonneg

theorem Sound.settles (h : Sound orderId s) : SettlesDispute orderId s := by
  by_cases hrefunded : s.Refunded orderId
  · obtain ⟨-, hafter⟩ := h.after hrefunded
    exact ⟨fun userId _ => (hafter userId).1, fun userId _ => (hafter userId).2.1,
      fun _ vendorId hvendor => (hafter vendorId).2.2 hvendor⟩
  · have hbefore := h.before hrefunded
    refine ⟨fun userId _ => ?_, fun userId _ => ?_, fun hdone => absurd hdone hrefunded⟩
    · rw [(hbefore userId).1]
      exact collected_nonneg s orderId
    · rw [(hbefore userId).2.1]
      exact zero_le_one

/-- A call that enters no more of the order than its earnings, and neither refunds it nor undoes that. -/
theorem Sound.moves {s' : DisputeStore} (h : Sound orderId s) (hplacements : s'.placements = s.placements)
    (hone : s'.OneDispute orderId) (hrefunded : s'.Refunded orderId ↔ s.Refunded orderId)
    (hmoves : MovesOrder orderId s.order s'.order) : Sound orderId s' := by
  have hrefund (userId : ℕ) := hmoves.wallet.tally_eq (refundOf orderId) (fun tx htx => by
    exact if_neg fun hboth => (htx hboth.1).1 hboth.2) userId
  have hcount (userId : ℕ) := hmoves.wallet.tally_eq (countOf orderId) (fun tx htx => by
    exact if_neg fun hboth => (htx hboth.1).1 hboth.2) userId
  have hnet (hfree : ¬ s.order.Earns orderId) (userId : ℕ) := hmoves.wallet.tally_eq (netOf orderId) (fun tx htx => by
    exact if_neg fun hmine => hfree (htx hmine).2) userId
  have hearns := earns_congr hmoves.billedOf_eq
  refine ⟨hmoves.wallet.linked, hone, fun hnot userId => ?_, fun hdone => ?_⟩
  · obtain ⟨hr, hc, hn⟩ := h.before (fun hdone => hnot (hrefunded.mpr hdone)) userId
    refine ⟨(hrefund userId).trans hr, (hcount userId).trans hc, fun hfree => ?_⟩
    have hfree' : ¬ s.order.Earns orderId := fun he => hfree (hearns.mpr he)
    exact (hnet hfree' userId).trans (hn hfree')
  · obtain ⟨hfree, hafter⟩ := h.after (hrefunded.mp hdone)
    refine ⟨fun he => hfree (hearns.mp he), fun userId => ?_⟩
    obtain ⟨hr, hc, hn⟩ := hafter userId
    rw [hrefund, hcount, hnet hfree]
    exact ⟨hr.trans (collected_le hplacements hmoves.paid), hc,
      fun hvendor => hn ((isVendor_congr hmoves.billedOf_eq userId).mp hvendor)⟩

/-! ### Steps -/

variable {α : Type}

theorem snd_run_inOrders (p : OrderProc α) (s : DisputeStore) :
    (run (Disputes.inOrders p) s).2 = { s with order := (run p s.order).2 } := by
  unfold Disputes.inOrders
  rw [run_zoom]
  rfl

theorem run_openDispute_bind (f : Dispute → DisputeProc α) (hfind : s.disputes.find disputeId = some dispute)
    (hopen : dispute.status = .opened) : run (Disputes.openDispute disputeId >>= f) s = run (f dispute) s := by
  unfold Disputes.openDispute
  rw [bind_assoc, run_read_bind, hfind]
  rw [bind_assoc, run_throwIf_bind, if_neg (not_not.mpr hopen)]
  rfl

theorem snd_run_openDispute_bind (f : Dispute → DisputeProc α)
    (h : ∀ dispute, s.disputes.find disputeId = some dispute → dispute.status ≠ .opened) :
    (run (Disputes.openDispute disputeId >>= f) s).2 = s := by
  unfold Disputes.openDispute
  rw [bind_assoc, run_read_bind]
  cases hfind : s.disputes.find disputeId with
  | none => rfl
  | some dispute =>
    rw [bind_assoc, run_throwIf_bind, if_pos (h dispute hfind)]

theorem Sound.disputeOrder (h : Sound orderId s) (orderId' : ℕ) (reason details : Option String) :
    Sound orderId (run (Disputes.disputeOrder orderId' reason details) s).2 := by
  unfold Disputes.disputeOrder
  rw [run_read_bind]
  cases hlookup : s.order.orders.lookup orderId' with
  | none => exact h
  | some order =>
    rw [run_throwIf_bind]
    split_ifs
    · exact h
    · unfold Disputes.insertDispute
      cases reason with
      | none => exact h
      | some reason =>
        cases hnone : s.disputeOf orderId' with
        | some found =>
          rw [run_bind, run_step, hnone]
          exact h
        | none =>
          rw [run_bind, run_step, hnone]
          show Sound orderId { s with
            disputes := s.disputes.add { orderId := orderId', reason, details }
            order := s.order.saveOrder orderId' { order with status := .disputed } }
          have hnone' : s.disputeOf ({ orderId := orderId', reason, details } : Dispute).orderId = none := hnone
          obtain ⟨hone, hof⟩ := oneDispute_add h.oneDispute hnone'
            (s.order.saveOrder orderId' { order with status := .disputed })
          refine h.moves rfl hone ?_ (moves_saveOrder h.linked hlookup rfl id)
          unfold Refunded
          rw [hof]
          split_ifs with hmine
          · rw [← hmine, hnone]
            constructor
            · rintro ⟨found, hfound, hstatus⟩
              cases hfound
              cases hstatus
            · rintro ⟨found, hfound, -⟩
              cases hfound
          · exact Iff.rfl

theorem Sound.resolveDispute (h : Sound orderId s) (now : ℤ) (disputeId adminId : ℕ) (resolutionNotes : Option String) :
    Sound orderId (run (Disputes.resolveDispute now disputeId adminId resolutionNotes) s).2 := by
  unfold Disputes.resolveDispute
  by_cases hopen : ∃ dispute, s.disputes.find disputeId = some dispute ∧ dispute.status = .opened
  · obtain ⟨dispute, hfind, hopened⟩ := hopen
    rw [run_openDispute_bind _ hfind hopened, run_read_bind]
    unfold Disputes.saveDispute
    rw [run_write_bind]
    have hsaved (order : OrderStore) (hmoves : MovesOrder orderId s.order order) : Sound orderId { s with
        disputes := s.disputes.set disputeId (Disputes.closed now adminId resolutionNotes .resolved dispute)
        order } := by
      have horder : (Disputes.closed now adminId resolutionNotes .resolved dispute).orderId = dispute.orderId := rfl
      obtain ⟨hone, hof⟩ := oneDispute_set h.oneDispute hfind horder rfl order
      refine h.moves rfl hone ?_ hmoves
      unfold Refunded
      rw [hof]
      split_ifs with hmine
      · rw [h.oneDispute disputeId dispute hfind hmine]
        constructor
        · rintro ⟨found, hfound, hstatus⟩
          cases hfound
          cases hstatus
        · rintro ⟨found, hfound, hstatus⟩
          cases hfound
          rw [hopened] at hstatus
          cases hstatus
      · exact Iff.rfl
    cases hload : s.order.loadOrder dispute.orderId with
    | none => exact hsaved s.order (MovesOrder.refl h.linked)
    | some found =>
      obtain ⟨order, items⟩ := found
      rw [snd_run_inOrders]
      exact hsaved _ (moves_closeOrder now dispute.orderId items .delivered h.linked (lookup_of_loadOrder hload).1)
  · rw [snd_run_openDispute_bind _ fun dispute hfind hopened => hopen ⟨dispute, hfind, hopened⟩]
    exact h

theorem run_clawBack_of_not_earns {t : OrderStore} {order : Order} {items : List LoadedItem} (orderId : ℕ)
    (hload : t.loadOrder orderId = some (order, items)) (hfree : ¬ t.Earns orderId) (t' : OrderStore) :
    run (forEach items (Disputes.clawBack orderId)) t' = (.ok (), t') := by
  have hskips : ∀ loaded ∈ items, run (Disputes.clawBack orderId loaded) t' = (.ok (), t') := by
    intro loaded hmem
    unfold Disputes.clawBack
    cases hvendor : loaded.vendor with
    | none => rfl
    | some vendor =>
      dsimp only
      rw [if_neg]
      · rfl
      · intro hpositive
        refine hfree ⟨items.map LoadedItem.billed, ?_, loaded.billed, List.mem_map_of_mem hmem, ?_, hpositive⟩
        · show Option.map _ _ = _
          rw [hload]
          rfl
        · show (loaded.vendor.map Prod.fst).isSome = true
          rw [hvendor]
          rfl
  clear hload
  induction items with
  | nil => rfl
  | cons loaded items ih =>
    rw [forEach_cons, run_bind_of_ok (hskips loaded List.mem_cons_self)]
    exact ih fun other hother => hskips other (List.mem_cons_of_mem loaded hother)

theorem refund_entry {tx : WalletTransaction} {total : Numeric2} (orderId : ℕ) (hnonneg : 0 ≤ total.hundredths)
    (hamount : tx.amount = .ofRat |total.value|) (htype : tx.type = .refund) (horder : tx.orderId = some orderId) :
    refundOf orderId tx = total.hundredths ∧ countOf orderId tx = 1 ∧ netOf orderId tx = total.hundredths := by
  have hsame : tx.amount = total := by
    rw [hamount, abs_of_nonneg (Numeric2.value_nonneg_iff.mpr hnonneg), Numeric2.ofRat_value]
  unfold refundOf countOf netOf
  rw [if_pos ⟨horder, htype⟩, if_pos ⟨horder, htype⟩, if_pos horder, hsame]
  exact ⟨rfl, rfl, rfl⟩

section Refund

variable {order : Order} {items : List LoadedItem} (now : ℤ) (adminId : ℕ) (resolutionNotes : Option String)

def closeRefund (disputeId : ℕ) (dispute : Dispute) (order : Order) (items : List LoadedItem) : DisputeProc Unit := do
  Disputes.saveDispute disputeId (Disputes.closed now adminId resolutionNotes .refunded dispute)
  Disputes.inOrders (Disputes.closeOrder now dispute.orderId order items .cancelled)

theorem snd_run_closeRefund (disputeId : ℕ) (dispute : Dispute) (order : Order) (items : List LoadedItem)
    (s : DisputeStore) : (run (closeRefund now adminId resolutionNotes disputeId dispute order items) s).2 = { s with
      disputes := s.disputes.set disputeId (Disputes.closed now adminId resolutionNotes .refunded dispute)
      order := (run (Disputes.closeOrder now dispute.orderId order items .cancelled) s.order).2 } := by
  unfold closeRefund Disputes.saveDispute
  rw [run_write_bind, snd_run_inOrders]

theorem Sound.refund_other (h : Sound orderId s) (hfind : s.disputes.find disputeId = some dispute)
    (hother : dispute.orderId ≠ orderId) (hlookup : s.order.orders.lookup dispute.orderId = some order) :
    Sound orderId (run (Disputes.inOrders (forEach items (Disputes.clawBack dispute.orderId)) >>= fun _ =>
      Disputes.inOrders (Disputes.refundBuyer dispute.orderId (s.totalOf dispute.orderId)
        (s.buyerOf dispute.orderId)) >>= fun _ =>
          closeRefund now adminId resolutionNotes disputeId dispute order items) s).2 := by
  have henters {t t' : OrderStore} (ht : t.wallet.Linked)
      (hentered : EntersOnly (fun tx => tx.orderId = some dispute.orderId) t t') : MovesOrder orderId t t' :=
    hentered.moves ht fun tx htx hmine => absurd (Option.mem_unique htx hmine) hother
  have hkept (t : OrderStore) (hmoves : MovesOrder orderId s.order t) : Sound orderId { s with order := t } :=
    h.moves rfl h.oneDispute Iff.rfl hmoves
  have hclaw := entersOnly_run
    (acts_forEach fun loaded (_ : loaded ∈ items) => acts_clawBack dispute.orderId loaded) s.order
  have hclaw' := snd_run_inOrders (forEach items (Disputes.clawBack dispute.orderId)) s
  rw [run_bind]
  rcases hrun : run (Disputes.inOrders (forEach items (Disputes.clawBack dispute.orderId))) s with ⟨e | u, s₁⟩
  · rw [hrun] at hclaw'
    obtain rfl : s₁ = _ := hclaw'
    exact hkept _ (henters h.linked hclaw)
  rw [hrun] at hclaw'
  obtain rfl : s₁ = _ := hclaw'
  dsimp only
  have hbuyer := entersOnly_run
    (acts_refundBuyer dispute.orderId (s.totalOf dispute.orderId) (s.buyerOf dispute.orderId))
    (run (forEach items (Disputes.clawBack dispute.orderId)) s.order).2
  have hall := hclaw.trans hbuyer
  have hbuyer' := snd_run_inOrders (Disputes.refundBuyer dispute.orderId (s.totalOf dispute.orderId)
    (s.buyerOf dispute.orderId))
    { s with order := (run (forEach items (Disputes.clawBack dispute.orderId)) s.order).2 }
  rw [run_bind]
  rcases hrun' : run (Disputes.inOrders (Disputes.refundBuyer dispute.orderId (s.totalOf dispute.orderId)
    (s.buyerOf dispute.orderId)))
    { s with order := (run (forEach items (Disputes.clawBack dispute.orderId)) s.order).2 } with ⟨e | u', s₂⟩
  · rw [hrun'] at hbuyer'
    obtain rfl : s₂ = _ := hbuyer'
    exact hkept _ (henters h.linked hall)
  rw [hrun'] at hbuyer'
  obtain rfl : s₂ = _ := hbuyer'
  rw [snd_run_closeRefund]
  have hmoves := henters h.linked hall
  have horder : (Disputes.closed now adminId resolutionNotes .refunded dispute).orderId = dispute.orderId := rfl
  obtain ⟨hone, hof⟩ := oneDispute_set h.oneDispute hfind horder rfl
    (run (Disputes.closeOrder now dispute.orderId order items .cancelled) (run (Disputes.refundBuyer dispute.orderId
      (s.totalOf dispute.orderId) (s.buyerOf dispute.orderId))
      (run (forEach items (Disputes.clawBack dispute.orderId)) s.order).2).2).2
  refine h.moves rfl hone ?_
    (hmoves.trans (moves_closeOrder now dispute.orderId items .cancelled hmoves.wallet.linked ?_))
  · unfold Refunded
    rw [hof, if_neg hother]
  · rw [hall.orders_eq]
    exact hlookup

theorem Sound.refund_even (h : Sound orderId s) (hfind : s.disputes.find disputeId = some dispute)
    (hmine : dispute.orderId = orderId) (hopen : dispute.status = .opened)
    (hload : s.order.loadOrder orderId = some (order, items)) (heven : s.RefundsEvenly orderId) :
    Sound orderId (run (Disputes.inOrders (forEach items (Disputes.clawBack dispute.orderId)) >>= fun _ =>
      Disputes.inOrders (Disputes.refundBuyer dispute.orderId (s.totalOf dispute.orderId)
        (s.buyerOf dispute.orderId)) >>= fun _ =>
          closeRefund now adminId resolutionNotes disputeId dispute order items) s).2 := by
  subst hmine
  obtain ⟨hfree, hbuyers⟩ := heven
  have hnot : ¬ s.Refunded dispute.orderId := by
    rintro ⟨found, hfound, hstatus⟩
    rw [h.oneDispute disputeId dispute hfind rfl] at hfound
    cases hfound
    rw [hopen] at hstatus
    cases hstatus
  have hbefore := h.before hnot
  have hzero (userId : ℕ) := (hbefore userId).2.2 hfree
  have hclaw : run (Disputes.inOrders (forEach items (Disputes.clawBack dispute.orderId))) s = (.ok (), s) := by
    unfold Disputes.inOrders
    rw [run_zoom, run_clawBack_of_not_earns dispute.orderId hload hfree]
    rfl
  rw [run_bind_of_ok hclaw]
  have hlookup := (lookup_of_loadOrder hload).1
  have horder : (Disputes.closed now adminId resolutionNotes .refunded dispute).orderId = dispute.orderId := rfl
  -- what the buyer gets is entered before the dispute and the order are saved
  have hclose (t : OrderStore) (horders : t.orders = s.order.orders) (hproducts : t.products = s.order.products)
      (husers : t.wallet.users = s.order.wallet.users) (hlinked : t.wallet.Linked)
      (hentered : ∀ userId, t.wallet.tally (refundOf dispute.orderId) userId ≤ s.collected dispute.orderId ∧
        t.wallet.tally (countOf dispute.orderId) userId ≤ 1 ∧ (s.order.IsVendor dispute.orderId userId →
          t.wallet.tally (netOf dispute.orderId) userId = 0)) :
      Sound dispute.orderId (run (closeRefund now adminId resolutionNotes disputeId dispute order items)
        { s with order := t }).2 := by
    have hbill : t.billedOf dispute.orderId = s.order.billedOf dispute.orderId :=
      billedOf_congr husers hproducts (by rw [horders])
    obtain ⟨hone, hof⟩ := oneDispute_set h.oneDispute hfind horder rfl t
    rw [if_pos rfl] at hof
    have hrefunded : Refunded { s with
        disputes := s.disputes.set disputeId (Disputes.closed now adminId resolutionNotes .refunded dispute)
        order := t } dispute.orderId := by
      unfold Refunded
      rw [hof]
      exact ⟨_, rfl, rfl⟩
    have hsaved : Sound dispute.orderId { s with
        disputes := s.disputes.set disputeId (Disputes.closed now adminId resolutionNotes .refunded dispute)
        order := t } := by
      refine ⟨hlinked, hone, fun hundone => absurd hrefunded hundone, fun _ => ⟨fun he => ?_, fun userId => ?_⟩⟩
      · exact hfree ((earns_congr hbill).mp he)
      · obtain ⟨hr, hc, hn⟩ := hentered userId
        refine ⟨hr.trans (collected_le rfl ?_), hc, fun hvendor => hn ((isVendor_congr hbill userId).mp hvendor)⟩
        unfold IsPaid
        rw [horders]
        exact id
    rw [snd_run_closeRefund]
    obtain ⟨hone', hof'⟩ := oneDispute_set h.oneDispute hfind horder rfl
      (run (Disputes.closeOrder now dispute.orderId order items .cancelled) t).2
    rw [if_pos rfl] at hof'
    refine hsaved.moves rfl hone' (iff_of_true ?_ hrefunded)
      (moves_closeOrder now dispute.orderId items .cancelled hlinked (horders ▸ hlookup))
    unfold Refunded
    rw [hof']
    exact ⟨_, rfl, rfl⟩
  cases hbuyer : s.buyerOf dispute.orderId with
  | none =>
    refine hclose s.order rfl rfl rfl h.linked fun userId => ?_
    obtain ⟨hr, hc, -⟩ := hbefore userId
    rw [hr, hc, hzero]
    exact ⟨collected_nonneg s dispute.orderId, zero_le_one, fun _ => rfl⟩
  | some buyerId =>
    have hcan : s.order.wallet.CanCredit buyerId := .inr (of_decide_eq_true (by
      simpa using (Option.filter_eq_some_iff.mp hbuyer).2))
    obtain ⟨tx, hrun, ⟨hamount, htype, hnamed⟩, hlinked, husers, htally⟩ := tally_creditWallet
      (s.totalOf dispute.orderId).value .refund (some s!"Refund (Dispute Win) for Order #{dispute.orderId}")
      (some dispute.orderId) h.linked hcan
    have hnonneg : 0 ≤ (s.totalOf dispute.orderId).hundredths :=
      (hbuyers buyerId hbuyer).elim (fun hz => hz.ge) fun hpaid => hpaid.2.1
    obtain ⟨hr, hc, hn⟩ := refund_entry dispute.orderId hnonneg hamount htype hnamed
    have hcredited : run (Disputes.inOrders (Disputes.refundBuyer dispute.orderId (s.totalOf dispute.orderId)
        (some buyerId))) s = (.ok (), { s with order := { s.order with
          wallet := (run (Wallets.creditWallet buyerId (s.totalOf dispute.orderId).value .refund
            (some s!"Refund (Dispute Win) for Order #{dispute.orderId}") (some dispute.orderId) false)
            s.order.wallet).2 } }) := by
      unfold Disputes.inOrders Disputes.refundBuyer
      rw [run_zoom]
      rw [run_bind, run_zoom]
      have hwallet : run (Wallets.creditWallet buyerId (s.totalOf dispute.orderId).value .refund
          (some s!"Refund (Dispute Win) for Order #{dispute.orderId}") (some dispute.orderId) false)
          (OrderStore.walletLens.get (DisputeStore.orderLens.get s)) = _ := hrun
      rw [hwallet]
      rfl
    rw [run_bind_of_ok hcredited]
    refine hclose _ rfl rfl husers hlinked fun userId => ?_
    have hpaysTotal : (s.totalOf dispute.orderId).hundredths ≤ s.collected dispute.orderId := by
      rcases hbuyers buyerId hbuyer with hz | ⟨hpaid, -, -⟩
      · rw [hz]
        exact collected_nonneg s dispute.orderId
      · unfold collected
        rw [if_pos hpaid]
        exact le_max_left _ _
    rw [htally, htally, htally, hn, (hbefore userId).1, (hbefore userId).2.1, hzero]
    split_ifs with hsame
    · subst hsame
      refine ⟨by omega, by omega, fun hvendor => ?_⟩
      rcases hbuyers userId hbuyer with hz | ⟨-, -, hnot⟩
      · rw [hz, add_zero]
      · exact absurd hvendor hnot
    · exact ⟨collected_nonneg s dispute.orderId, by omega, fun _ => rfl⟩

end Refund

theorem Sound.refundDispute (h : Sound orderId s) (now : ℤ) (disputeId adminId : ℕ) (resolutionNotes : Option String)
    (hmeets : s.Meets orderId (.refundDispute now disputeId adminId resolutionNotes)) :
    Sound orderId (run (Disputes.refundDispute now disputeId adminId resolutionNotes) s).2 := by
  unfold Disputes.refundDispute
  by_cases hopen : ∃ dispute, s.disputes.find disputeId = some dispute ∧ dispute.status = .opened
  · obtain ⟨dispute, hfind, hopened⟩ := hopen
    rw [run_openDispute_bind _ hfind hopened, run_read_bind]
    cases hload : s.order.loadOrder dispute.orderId with
    | none => exact h
    | some found =>
      by_cases hmine : dispute.orderId = orderId
      · exact h.refund_even now adminId resolutionNotes hfind hmine hopened (hmine ▸ hload)
          (hmeets dispute hfind hopened hmine)
      · exact h.refund_other now adminId resolutionNotes hfind hmine (lookup_of_loadOrder hload).1
  · rw [snd_run_openDispute_bind _ fun dispute hfind hopened => hopen ⟨dispute, hfind, hopened⟩]
    exact h

theorem Sound.step (h : Sound orderId s) (call : DisputeCall) (hmeets : s.Meets orderId call) :
    Sound orderId (s.step call) := by
  unfold DisputeStore.step DisputeCall.handler
  cases call with
  | payment orderId' call =>
    rw [snd_run_inOrders]
    exact h.moves rfl h.oneDispute Iff.rfl (moves_payment call orderId' h.linked)
  | disputeOrder orderId' reason details => exact h.disputeOrder orderId' reason details
  | resolveDispute now disputeId adminId resolutionNotes => exact h.resolveDispute now disputeId adminId resolutionNotes
  | refundDispute now disputeId adminId resolutionNotes =>
    exact h.refundDispute now disputeId adminId resolutionNotes hmeets

theorem Undisputed.sound (h : Undisputed orderId s) : Sound orderId s := by
  have hzero (f : WalletTransaction → ℤ) (hf : ∀ tx, tx.orderId ≠ some orderId → f tx = 0) (userId : ℕ) :
      s.order.wallet.tally f userId = 0 := by
    unfold WalletStore.tally SerialTable.total
    refine Table.total_eq_zero fun id tx htx => ?_
    dsimp only
    rw [hf tx (h.unnamed id tx htx), ite_self]
  have hnot : ¬ s.Refunded orderId := by
    rintro ⟨found, hfound, -⟩
    rw [h.disputeOf_eq] at hfound
    cases hfound
  refine ⟨h.linked, fun id dispute hfind hmine => ?_, fun _ userId => ⟨hzero _ ?_ userId, hzero _ ?_ userId, fun _ =>
    hzero _ ?_ userId⟩, fun hdone => absurd hdone hnot⟩
  · have hnone := any_find_of_first_eq_none h.disputeOf_eq id
    rw [hfind, Option.any_some, decide_eq_true hmine] at hnone
    cases hnone
  · exact fun tx hother => if_neg fun hboth => hother hboth.1
  · exact fun tx hother => if_neg fun hboth => hother hboth.1
  · exact fun tx hother => if_neg hother

/-- **A dispute pays out no more than was collected** in the runs whose refunds of the order are even. -/
theorem refund_settles {s₀ : DisputeStore} {orderId : ℕ} (h₀ : Undisputed orderId s₀) {calls : List DisputeCall}
    (h : Run.Along step (Meets orderId) s₀ calls) (n : ℕ) :
    SettlesDispute orderId (Run.after step s₀ (calls.take n)) := by
  have hsound : Sound orderId (Run.after step s₀ (calls.take n)) :=
    Run.after_induction (P := Sound orderId) (fun s call hs hmeets => hs.step call hmeets) h₀.sound (Run.along_take h n)
  exact hsound.settles

/-! ### An order that nobody has paid for -/

def withBuyer (payout : ℤ) : DisputeStore where
  order :=
    let wallet := { (oneItemOrder 0).wallet with users := (oneItemOrder 0).wallet.users.insert 6 {} }
    let order : Order :=
      { items := [⟨11, some 7, 1, ⟨10000⟩, ⟨payout⟩, .pending⟩], paymentStatus := .unpaid, status := .pending,
        currency := "ETB" }
    { oneItemOrder 0 with wallet, orders := Finmap.singleton 1 order }
  placements := Finmap.singleton 1 { userId := some 6, total := ⟨10000⟩, paymentMethod := .ebirr, createdAt := 0 }
  disputes := .empty

theorem undisputed_withBuyer (payout : ℤ) : Undisputed 1 (withBuyer payout) := by
  refine ⟨fun id tx htx => ?_, rfl, fun id tx htx => ?_⟩
  · cases htx
  · cases htx

def refundedDispute : List DisputeCall := [.disputeOrder 1 (some "Damaged") none, .refundDispute 10 1 9 none]

/-- The buyer gets back what was never paid. -/
theorem refunded_unpaid :
    Undisputed 1 (withBuyer 9500) ∧
      ¬ ∀ n, SettlesDispute 1 (Run.after step (withBuyer 9500) (refundedDispute.take n)) := by
  refine ⟨undisputed_withBuyer 9500, fun h => ?_⟩
  have hbuyer : IsBuyer (Run.after step (withBuyer 9500) (refundedDispute.take 2)) 1 6 := by
    unfold IsBuyer
    decide +kernel
  have hclaim := (h 2).refunded_le 6 hbuyer
  exact absurd hclaim (by decide +kernel)

/-- A payment of an order without earnings, and its refund. -/
def paidAndRefunded : List DisputeCall :=
  .payment 1 (.approveBankTransfer (payoutRuntime payoutMade)) :: refundedDispute

theorem refund_settles_paid :
    Run.Along step (Meets 1) (withBuyer 0) paidAndRefunded ∧
      SettlesDispute 1 (Run.after step (withBuyer 0) (paidAndRefunded.take 3)) := by
  have hcalls : Run.Along step (Meets 1) (withBuyer 0) paidAndRefunded := by
    refine ⟨trivial, trivial, fun dispute _ _ _ => ⟨by decide +kernel, ?_⟩, trivial⟩
    intro userId hbuyer
    obtain rfl : 6 = userId := Option.some.inj (Eq.trans (by decide +kernel) hbuyer)
    exact .inr (by decide +kernel)
  exact ⟨hcalls, refund_settles (undisputed_withBuyer 0) hcalls 3⟩

end DisputeStore

end SuuqBackend
