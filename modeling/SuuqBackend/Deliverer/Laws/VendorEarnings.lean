import SuuqBackend.Deliverer.Laws.DeliveryStates
import SuuqBackend.Orders.Laws.PaymentEarnings
import SuuqBackend.Lib.Lists
import SuuqBackend.PurchaseOrders.Laws.InboundStock

/-!
# What a vendor earns from an order

A payment credits each item with its `vendorPayout`; the completion of a delivery credits each vendor once more, with
the price of its items without the commission.  Neither looks at what the other has credited.
-/

namespace SuuqBackend

open Proc Deliveries OrderStore

def inHundredths (amount : Numeric2) (_ : Option String) : ℤ := amount.hundredths

def OrderStore.earned (s : OrderStore) (orderId vendorId : ℕ) : ℤ :=
  s.wallet.earnings inHundredths orderId vendorId

/-! ### Credits of a delivery -/

section DeliveryCredits

variable (env : DeliveryRuntime)

def amountIn (amount : ℚ) (currency walletCurrency : String) : Except String ℚ :=
  if currency ≠ walletCurrency then CurrencyService.convert env.toUpperCase env.rates amount currency walletCurrency
  else .ok amount

def creditIn (amount : ℚ) (currency walletCurrency : String) : ℤ :=
  match amountIn env amount currency walletCurrency with
  | .ok credited => (Numeric2.ofRat |credited|).hundredths
  | .error _ => 0

/-- What the completion of a delivery credits a vendor for its items. -/
def vendorCredit (items : List LoadedItem) (currency : String) (vendorId : ℕ) : ℤ :=
  let net := netOf env (grossOf items vendorId)
  if 0 < net then creditIn env net currency currency else 0

def delivererCredit (order : Order) (currency : String) (userId : ℕ) : ℤ :=
  match order.delivererId, env.deliveryBaseFee with
  | some delivererId, some fee => if userId = delivererId ∧ 0 < fee then creditIn env fee "ETB" currency else 0
  | _, _ => 0

def deliveryCredit (order : Order) (items : List LoadedItem) (vendorId : ℕ) : ℤ :=
  let currency := orDefault order.currency "ETB"
  vendorCredit env items currency vendorId + delivererCredit env order currency vendorId

def OrderStore.listed (s : OrderStore) (orderId : ℕ) : OrderStore :=
  { s with deliveries := s.deliveries ++ [orderId] }

/-- The completion of a delivery gets to its credits: the reservation is released and `notifyOrderComplete` does not
fail. -/
def ReachesCredits (orderId : ℕ) (order : Order) (items : List LoadedItem) (s : OrderStore) : Prop :=
  (run (releaseOnlineReservation env orderId order items) (s.listed orderId)).1.isOk = true ∧
    env.notifyOrderComplete.isOk = true
deriving Decidable

theorem creditIn_nonneg (amount : ℚ) (currency walletCurrency : String) :
    0 ≤ creditIn env amount currency walletCurrency := by
  unfold creditIn
  cases amountIn env amount currency walletCurrency with
  | error message => exact le_rfl
  | ok credited =>
    dsimp only
    rw [Numeric2.hundredths_of_nonneg (abs_nonneg credited)]
    have habs := abs_nonneg credited
    exact Int.floor_nonneg.mpr (by linarith)

theorem deliveryCredit_nonneg (order : Order) (items : List LoadedItem) (vendorId : ℕ) :
    0 ≤ deliveryCredit env order items vendorId := by
  have hvendor : ∀ currency, 0 ≤ vendorCredit env items currency vendorId := by
    intro currency
    unfold vendorCredit
    dsimp only
    split_ifs
    · exact creditIn_nonneg env _ _ _
    · exact le_rfl
  have hdeliverer : ∀ currency, 0 ≤ delivererCredit env order currency vendorId := by
    intro currency
    unfold delivererCredit
    split
    · split_ifs
      · exact creditIn_nonneg env _ _ _
      · exact le_rfl
    · exact le_rfl
  exact add_nonneg (hvendor _) (hdeliverer _)

variable {V : ℕ → Prop} {currency : String} {orderId : ℕ} {bill : Bill} {s : OrderStore}

theorem run_amountFor (amount : ℚ) (currency walletCurrency : String) (s : OrderStore) :
    run (amountFor env amount currency walletCurrency) s =
      ((amountIn env amount currency walletCurrency).mapError HttpException.internal, s) := by
  unfold amountFor amountIn
  split_ifs
  · rw [run_mapError, run_ofExcept]
  · rfl

theorem earned_creditUser_of_mem (hcurrency : currency ≠ "") (h : s.Billed V (some currency) orderId bill) {userId : ℕ}
    (hV : V userId) (amount : ℚ) (amountCurrency description : String) :
    Earned V (some currency) inHundredths orderId bill
      (fun userId' => if userId' = userId then creditIn env amount amountCurrency currency else 0) s
      (run (creditUser env orderId userId amount amountCurrency description) s).2 := by
  obtain ⟨wallet, wallets, hok, hin, hgot⟩ :=
    credited_getWallet_of_earnsIn inHundredths orderId h.ready userId env.wallets (h.ready.earnsIn userId hV)
  have hs₁ := earned_wallet h hgot
  have hown : orDefault wallet.currency "KES" = currency := by
    unfold orDefault
    rw [hin, if_neg hcurrency]
  unfold creditUser creditIn
  rw [run_bind_of_ok (run_zoom_of hok), hown]
  cases hamount : amountIn env amount amountCurrency currency with
  | error message =>
    have hfail : run (amountFor env amount amountCurrency currency) (walletLens.set s wallets) =
        (.error (HttpException.internal message), walletLens.set s wallets) := by
      rw [run_amountFor, hamount]
      rfl
    rw [run_bind_of_error hfail]
    exact hs₁.congr fun userId' _ => (ite_self _).symm
  | ok credited =>
    have hamountFor : run (amountFor env amount amountCurrency currency) (walletLens.set s wallets) =
        (.ok credited, walletLens.set s wallets) := by
      rw [run_amountFor, hamount]
      rfl
    rw [run_bind_of_ok hamountFor, snd_run_bind_readOnly _ fun _ => readOnly_pure _, run_zoom]
    exact hs₁.zero_trans (earned_wallet hs₁.billed
      (credited_creditWallet inHundredths orderId hs₁.billed.ready userId credited (some description)))

theorem earned_creditUser_of_notMem (h : s.Billed V (some currency) orderId bill) {userId : ℕ} (hV : ¬ V userId) (amount : ℚ)
    (amountCurrency description : String) :
    Earned V (some currency) inHundredths orderId bill (fun _ => 0) s
      (run (creditUser env orderId userId amount amountCurrency description) s).2 := by
  have hgot : Earned V (some currency) inHundredths orderId bill (fun _ => 0) s
      (run (Proc.zoom walletLens (Wallets.getWallet env.wallets userId) : OrderProc Wallet) s).2 := by
    rw [run_zoom]
    exact earned_wallet h (credited_getWallet inHundredths orderId userId env.wallets h.ready)
  unfold creditUser
  rcases hrun : run (Proc.zoom walletLens (Wallets.getWallet env.wallets userId) : OrderProc Wallet) s with
    ⟨e | wallet, s₁⟩
  · rw [hrun] at hgot
    rw [run_bind_of_error hrun]
    exact hgot
  rw [hrun] at hgot
  rw [run_bind_of_ok hrun]
  cases hamount : (amountIn env amount amountCurrency (orDefault wallet.currency "KES")).mapError
      HttpException.internal with
  | error e =>
    rw [run_bind_of_error ((run_amountFor env _ _ _ s₁).trans (congrArg (·, s₁) hamount))]
    exact hgot
  | ok credited =>
    rw [run_bind_of_ok ((run_amountFor env _ _ _ s₁).trans (congrArg (·, s₁) hamount)),
      snd_run_bind_readOnly _ fun _ => readOnly_pure _, run_zoom]
    refine hgot.zero_trans ((earned_wallet hgot.billed
      (credited_creditWallet inHundredths orderId hgot.billed.ready userId credited (some description))).congr ?_)
    intro userId' hV'
    refine if_neg ?_
    rintro rfl
    exact hV hV'

theorem earned_creditUser (hcurrency : currency ≠ "") (h : s.Billed V (some currency) orderId bill) (userId : ℕ) (amount : ℚ)
    (amountCurrency description : String) :
    Earned V (some currency) inHundredths orderId bill
      (fun userId' => if userId' = userId then creditIn env amount amountCurrency currency else 0) s
      (run (creditUser env orderId userId amount amountCurrency description) s).2 := by
  by_cases hV : V userId
  · exact earned_creditUser_of_mem env hcurrency h hV amount amountCurrency description
  · refine (earned_creditUser_of_notMem env h hV amount amountCurrency description).congr fun userId' hV' => ?_
    refine (if_neg ?_).symm
    rintro rfl
    exact hV hV'

variable {order : Order} {items : List LoadedItem}

theorem orDefault_ne_empty (text : String) {other : String} (hother : other ≠ "") : orDefault text other ≠ "" := by
  unfold orDefault
  split_ifs with hempty
  · exact hother
  · exact hempty

theorem earned_creditVendor (hcurrency : currency = orDefault order.currency "ETB") (h : s.Billed V (some currency) orderId bill)
    (vendorId : ℕ) :
    (run (Deliveries.creditVendor env orderId order items vendorId) s).1 = .ok () ∧
      Earned V (some currency) inHundredths orderId bill
        (fun userId => if userId = vendorId then vendorCredit env items currency userId else 0) s
        (run (Deliveries.creditVendor env orderId order items vendorId) s).2 := by
  have hnonempty : currency ≠ "" := hcurrency ▸ orDefault_ne_empty order.currency (by decide)
  unfold Deliveries.creditVendor
  rw [← hcurrency]
  by_cases hpositive : 0 < netOf env (grossOf items vendorId)
  · rw [if_pos hpositive, run_attempt_bind_pure]
    refine ⟨rfl, (earned_creditUser env hnonempty h vendorId _ _ _).congr fun userId _ => ?_⟩
    by_cases heq : userId = vendorId
    · unfold vendorCredit
      rw [if_pos heq, if_pos heq, heq, if_pos hpositive]
    · rw [if_neg heq, if_neg heq]
  · rw [if_neg hpositive]
    refine ⟨rfl, (Earned.refl h).congr fun userId _ => ?_⟩
    by_cases heq : userId = vendorId
    · unfold vendorCredit
      rw [if_pos heq, heq, if_neg hpositive]
    · rw [if_neg heq]

theorem earned_creditDeliverer (hcurrency : currency = orDefault order.currency "ETB")
    (h : s.Billed V (some currency) orderId bill) :
    Earned V (some currency) inHundredths orderId bill (delivererCredit env order currency) s
      (run (creditDeliverer env orderId order) s).2 := by
  have hnonempty : currency ≠ "" := hcurrency ▸ orDefault_ne_empty order.currency (by decide)
  unfold creditDeliverer delivererCredit
  cases order.delivererId with
  | none => exact Earned.refl h
  | some delivererId =>
    cases env.deliveryBaseFee with
    | none => exact Earned.refl h
    | some fee =>
      dsimp only
      by_cases hpositive : 0 < fee
      · rw [if_pos hpositive, snd_run_attempt_bind_pure]
        refine (earned_creditUser env hnonempty h delivererId fee "ETB" _).congr fun userId _ => ?_
        exact if_congr ⟨fun heq => ⟨heq, hpositive⟩, fun hboth => hboth.1⟩ rfl rfl
      · rw [if_neg hpositive]
        exact (Earned.refl h).congr fun userId _ => (if_neg fun hboth => hpositive hboth.2).symm

/-! ### The completion of a delivery -/

theorem quiet_saveOrder {order' : Order} (hbill : order'.bill = bill) :
    Quiet V (some currency) inHundredths orderId bill s (s.saveOrder orderId order') := by
  intro h
  refine ⟨WalletStore.Credited.refl h.ready, ?_, fun _ => rfl⟩
  unfold billOf OrderStore.saveOrder
  rw [Finmap.lookup_insert, Option.map_some, hbill]

theorem acts_releaseItem (branchId : ℕ) (loaded : LoadedItem) :
    (releaseItem branchId loaded).Acts (Quiet V (some currency) inHundredths orderId bill) := by
  unfold releaseItem
  cases loaded.product with
  | none => exact acts_pure _
  | some found => exact (acts_zoom (fun _ _ => quiet_of_eq rfl rfl rfl) _).bind fun _ => acts_pure _

theorem quiet_releaseOnlineReservation :
    (releaseOnlineReservation env orderId order items).Acts (Quiet V (some currency) inHundredths orderId order.bill) := by
  unfold releaseOnlineReservation
  cases order.fulfillmentBranchId with
  | none => exact acts_pure _
  | some branchId =>
    refine Acts.ite (acts_pure _) ((acts_forEach fun loaded _ => acts_releaseItem branchId loaded).bind fun _ => ?_)
    exact acts_write fun s => quiet_saveOrder rfl

theorem quiet_countSales (productId : ℕ) (h : s.Billed V (some currency) orderId bill) :
    (run (countSales items productId) s).1 = .ok () ∧ Earned V (some currency) inHundredths orderId bill (fun _ => 0) s
      (run (countSales items productId) s).2 := by
  refine ⟨rfl, ?_⟩
  unfold countSales
  rw [run_write]
  cases hproduct : s.products.lookup productId with
  | none => exact Earned.refl h
  | some product =>
    refine ⟨WalletStore.Credited.refl h.ready, h.bill, fun productId' => ?_⟩
    unfold sellerOf
    by_cases heq : productId' = productId
    · subst heq
      rw [Finmap.lookup_insert, hproduct]
      rfl
    · rw [Finmap.lookup_insert_of_ne _ heq]

/-- **The completion of a delivery** credits each vendor for its items, and the deliverer, if it gets there. -/
theorem earned_onOrderDelivered (hcurrency : currency = orDefault order.currency "ETB")
    (hV : ∀ vendorId, V vendorId ↔ vendorId ∈ vendorIds items) (h : s.Billed V (some currency) orderId order.bill) :
    Earned V (some currency) inHundredths orderId order.bill
      (fun vendorId => if ReachesCredits env orderId order items s then deliveryCredit env order items vendorId else 0) s
      (run (onOrderDelivered env orderId order items) s).2 := by
  have hlisted : Earned V (some currency) inHundredths orderId order.bill (fun _ => 0) s (s.listed orderId) :=
    quiet_of_eq rfl rfl rfl h
  have hreleased : Earned V (some currency) inHundredths orderId order.bill (fun _ => 0) (s.listed orderId)
      (run (releaseOnlineReservation env orderId order items) (s.listed orderId)).2 :=
    earned_of_acts (quiet_releaseOnlineReservation env) hlisted.billed
  show Earned V (some currency) inHundredths orderId order.bill _ s (run (releaseOnlineReservation env orderId order items >>=
    _) (s.listed orderId)).2
  rcases hrelease : run (releaseOnlineReservation env orderId order items) (s.listed orderId) with ⟨e | u, s₁⟩
  · have hnot : ¬ ReachesCredits env orderId order items s := by
      rintro ⟨hok, -⟩
      rw [hrelease] at hok
      cases hok
    rw [run_bind_of_error hrelease]
    rw [hrelease] at hreleased
    exact (hlisted.zero_trans hreleased).congr fun vendorId _ => (if_neg hnot).symm
  rw [run_bind_of_ok hrelease]
  rw [hrelease] at hreleased
  have hs₁ := hlisted.zero_trans hreleased
  cases hcomplete : env.notifyOrderComplete with
  | error e =>
    have hnot : ¬ ReachesCredits env orderId order items s := by
      rintro ⟨-, hok⟩
      rw [hcomplete] at hok
      cases hok
    exact hs₁.congr fun vendorId _ => (if_neg hnot).symm
  | ok u' =>
    have hreaches : ReachesCredits env orderId order items s := by
      refine ⟨?_, ?_⟩
      · rw [hrelease]
        rfl
      · rw [hcomplete]
        rfl
    have hquiet : ∀ productId ∈ productIds items, ∀ s : OrderStore, s.Billed V (some currency) orderId order.bill →
        (run (countSales items productId) s).1 = .ok () ∧
          Earned V (some currency) inHundredths orderId order.bill (fun _ => 0) s
            (run (countSales items productId) s).2 :=
      fun productId _ s hs => quiet_countSales productId hs
    obtain ⟨hcounted, hsales⟩ := earned_forEach (δ := fun _ _ => 0) hquiet hs₁.billed
    have hs₂ := hs₁.trans_zero (hsales.congr fun _ _ => List.sum_map_zero)
    obtain ⟨hcredited, hvendors⟩ := earned_forEach
      (fun vendorId (_ : vendorId ∈ vendorIds items) s hs => earned_creditVendor env hcurrency hs vendorId) hs₂.billed
    have hs₃ := hs₂.zero_trans hvendors
    have hdeliverer : Earned V (some currency) inHundredths orderId order.bill (delivererCredit env order currency) _
        (run (creditDeliverer env orderId order) _).2 := earned_creditDeliverer env hcurrency hs₃.billed
    rw [run_bind_of_ok (run_ofExcept (.ok u') s₁), run_bind_of_ok (Prod.ext hcounted rfl),
      run_bind_of_ok (Prod.ext hcredited rfl)]
    refine (hs₃.trans hdeliverer).congr fun vendorId hvendor => ?_
    have hnodup : (vendorIds items).Nodup := nodup_insertionOrder _
    rw [if_pos hreaches, sum_map_ite_eq hnodup ((hV vendorId).mp hvendor)]
    unfold deliveryCredit
    rw [← hcurrency]

end DeliveryCredits

/-! ### Calls -/

/-- A completion of the payment of an order, or a delivery of it. -/
inductive EarningCall where
  | triggerPostPaymentProcessing (env : PaymentRuntime)
  | approveBankTransfer (env : PaymentRuntime)
  | completeOrderFromPaymentCallback (env : PaymentRuntime)
  | verifyAndCompleteEbirrOrder (env : PaymentRuntime)
  | handleWebhook (env : PaymentRuntime)
  | updateDeliveryStatus (env : DeliveryRuntime) (delivererId : ℕ) (newStatus : OrderStatus)
  | verifyDelivery (env : DeliveryRuntime) (delivererId : ℕ) (code : String)
  | adminForceDelivery (env : DeliveryRuntime)

namespace EarningCall

/-- What the call does to an order; its response is left out. -/
def proc (orderId : ℕ) : EarningCall → OrderProc Unit
  | triggerPostPaymentProcessing env => do
    let _ ← OrderPayments.triggerPostPaymentProcessing env orderId
  | approveBankTransfer env => OrderPayments.approveBankTransfer env orderId
  | completeOrderFromPaymentCallback env => do
    let _ ← OrderPayments.completeOrderFromPaymentCallback env orderId
  | verifyAndCompleteEbirrOrder env => do
    let _ ← OrderPayments.verifyAndCompleteEbirrOrder env orderId
  | handleWebhook env => OrderPayments.handleWebhook env orderId
  | updateDeliveryStatus env delivererId newStatus =>
    Deliveries.updateDeliveryStatus env delivererId orderId newStatus
  | verifyDelivery env delivererId code => Deliveries.verifyDelivery env delivererId orderId code
  | adminForceDelivery env => Deliveries.adminForceDelivery env orderId

def step (orderId : ℕ) (s : OrderStore) (call : EarningCall) : OrderStore := ((call.proc orderId).run s).2

def isPayment : EarningCall → Bool
  | triggerPostPaymentProcessing _ | approveBankTransfer _ | completeOrderFromPaymentCallback _
  | verifyAndCompleteEbirrOrder _ | handleWebhook _ => true
  | updateDeliveryStatus _ _ _ | verifyDelivery _ _ _ | adminForceDelivery _ => false

/-- The order as the checks of a delivery let it be saved. -/
def delivered (order : Order) : EarningCall → Option (DeliveryRuntime × Order)
  | updateDeliveryStatus env delivererId newStatus =>
    if order.delivererId = some delivererId then some (env, updatedOrder env newStatus order) else none
  | verifyDelivery env delivererId code =>
    if order.delivererId = some delivererId ∧ order.status ≠ .delivered ∧ order.deliveryAttemptCount < 5 ∧
        order.deliveryCode.filter (· ≠ "") = some code then some (env, updatedOrder env .delivered order)
    else none
  | adminForceDelivery env => if order.status = .delivered then none else some (env, forcedOrder env order)
  | _ => none

end EarningCall

/-- A saved order is completed: it becomes delivered, and nothing fails before its credits. -/
def Completes (orderId : ℕ) (order : Order) (items : List LoadedItem) (s : OrderStore)
    (saved : DeliveryRuntime × Order) : Prop :=
  (order.status ≠ .delivered ∧ saved.2.status = .delivered) ∧ saved.1.notifyOrderStatusChange.isOk = true ∧
    ReachesCredits saved.1 orderId saved.2 items (s.saveOrder orderId saved.2)
deriving Decidable

namespace EarningCall

/-- A payment of an unpaid order finds that its vendors have earned nothing, and no item with a negative payout.  A
delivery that is completed has nothing to credit when the order is paid, and otherwise no more than is still owed. -/
def Fits (orderId : ℕ) (s : OrderStore) (call : EarningCall) : Prop :=
  match s.loadOrder orderId with
  | none => True
  | some (order, items) =>
    (call.isPayment = true → order.paymentStatus ≠ .paid →
      (∀ vendorId ∈ vendorIds items, s.earned orderId vendorId = 0) ∧
        ∀ loaded ∈ items, loaded.vendorId.isSome = true → 0 ≤ loaded.item.vendorPayout.hundredths) ∧
    ∀ saved ∈ call.delivered order, Completes orderId order items s saved → ∀ vendorId ∈ vendorIds items,
      if order.paymentStatus = .paid then deliveryCredit saved.1 saved.2 items vendorId = 0
      else s.earned orderId vendorId + deliveryCredit saved.1 saved.2 items vendorId ≤ vendorOwed items vendorId

instance (orderId : ℕ) (s : OrderStore) (call : EarningCall) : Decidable (call.Fits orderId s) := by
  unfold Fits
  split <;> infer_instance

end EarningCall

section Calls

variable {V : ℕ → Prop} {currency : String} {orderId : ℕ} {s : OrderStore} {order : Order} {items : List LoadedItem}

theorem earned_complete (hcurrency : currency = orDefault order.currency "ETB")
    (hV : ∀ vendorId, V vendorId ↔ vendorId ∈ vendorIds items) (h : s.Billed V (some currency) orderId order.bill)
    (saved : DeliveryRuntime × Order) (hbill : saved.2.bill = order.bill) :
    Earned V (some currency) inHundredths orderId order.bill
      (fun vendorId => if Completes orderId order items s saved then deliveryCredit saved.1 saved.2 items vendorId else 0)
      s (run (Deliveries.saveOrder orderId saved.2 >>= fun _ =>
        Proc.ofExcept saved.1.notifyOrderStatusChange >>= fun _ =>
          completeDelivery saved.1 orderId order.status saved.2 items) s).2 := by
  obtain ⟨env, order'⟩ := saved
  have hsaved : Earned V (some currency) inHundredths orderId order.bill (fun _ => 0) s (s.saveOrder orderId order') :=
    quiet_saveOrder hbill h
  unfold Deliveries.saveOrder
  rw [run_write_bind]
  rcases hnotified : run (Proc.ofExcept env.notifyOrderStatusChange : OrderProc Unit) (s.saveOrder orderId order') with
    ⟨e | u, s₁⟩
  · have hnot : ¬ Completes orderId order items s (env, order') := by
      rintro ⟨-, hok, -⟩
      have hfails : env.notifyOrderStatusChange = .error e :=
        (congrArg Prod.fst (run_ofExcept _ _)).symm.trans (congrArg Prod.fst hnotified)
      rw [hfails] at hok
      cases hok
    have hsame : s₁ = s.saveOrder orderId order' := (readOnly_ofExcept _).eq_of_run hnotified
    rw [run_bind_of_error hnotified, hsame]
    exact hsaved.congr fun vendorId _ => (if_neg hnot).symm
  have hok : env.notifyOrderStatusChange = .ok u :=
    (congrArg Prod.fst (run_ofExcept _ _)).symm.trans (congrArg Prod.fst hnotified)
  have hsame : s₁ = s.saveOrder orderId order' := (readOnly_ofExcept _).eq_of_run hnotified
  rw [run_bind_of_ok hnotified, hsame]
  unfold completeDelivery
  by_cases hfirst : order.status ≠ .delivered ∧ order'.status = .delivered
  · rw [if_pos hfirst]
    have hcurrency' : currency = orDefault order'.currency "ETB" := by
      rw [hcurrency, show order'.currency = order.currency from congrArg Bill.currency hbill]
    have hbilled : (s.saveOrder orderId order').Billed V (some currency) orderId order'.bill := ⟨h.ready, hbill ▸ hsaved.bill⟩
    have hcompleted := earned_onOrderDelivered env hcurrency' hV hbilled
    rw [hbill] at hcompleted
    refine (hsaved.zero_trans hcompleted).congr fun vendorId _ => if_congr ?_ rfl rfl
    constructor
    · exact fun hreaches => ⟨hfirst, by rw [hok]; rfl, hreaches⟩
    · exact fun hall => hall.2.2
  · rw [if_neg hfirst]
    exact hsaved.congr fun vendorId _ => (if_neg fun hall => hfirst hall.1).symm

variable (hload : s.loadOrder orderId = some (order, items))
include hload

variable {call : EarningCall}

theorem step_of_isPayment (hpayment : call.isPayment = true) :
    ∃ env, call.step orderId s = (run (OrderPayments.triggerPostPaymentProcessing env orderId) s).2 := by
  obtain ⟨hlookup, -⟩ := lookup_of_loadOrder hload
  have hpaid (env : PaymentRuntime) (hpaid : order.paymentStatus = .paid) :
      s = (run (OrderPayments.triggerPostPaymentProcessing env orderId) s).2 :=
    (snd_run_triggerPostPaymentProcessing_of_paid env hload hpaid).symm
  unfold EarningCall.step
  cases call with
  | triggerPostPaymentProcessing env => exact ⟨env, snd_run_bind_readOnly _ (fun _ => readOnly_pure _) s⟩
  | approveBankTransfer env => exact ⟨env, snd_run_bind_readOnly _ (fun _ => readOnly_pure _) s⟩
  | completeOrderFromPaymentCallback env => exact ⟨env, snd_run_bind_readOnly _ (fun _ => readOnly_pure _) s⟩
  | verifyAndCompleteEbirrOrder env =>
    refine ⟨env, (snd_run_bind_readOnly _ (fun _ => readOnly_pure _) s).trans ?_⟩
    unfold OrderPayments.verifyAndCompleteEbirrOrder
    rw [run_read_bind, hlookup]
    dsimp only
    by_cases hstatus : order.paymentStatus = .paid
    · rw [if_pos hstatus]
      exact hpaid env hstatus
    · rw [if_neg hstatus]
      exact snd_run_bind_readOnly _ (fun _ => readOnly_pure _) s
  | handleWebhook env =>
    refine ⟨env, ?_⟩
    dsimp only [EarningCall.proc]
    unfold OrderPayments.handleWebhook
    rw [run_read_bind, hlookup, Option.any_some]
    by_cases hstatus : order.paymentStatus = .paid
    · rw [if_pos (decide_eq_true hstatus)]
      exact hpaid env hstatus
    · rw [if_neg (by simpa using hstatus)]
      exact snd_run_bind_readOnly _ (fun _ => readOnly_pure _) s
  | updateDeliveryStatus env delivererId newStatus => cases hpayment
  | verifyDelivery env delivererId code => cases hpayment
  | adminForceDelivery env => cases hpayment

theorem snd_run_updateDeliveryStatus (env : DeliveryRuntime) {delivererId : ℕ} (newStatus : OrderStatus)
    (hdeliverer : order.delivererId = some delivererId) :
    (run (updateDeliveryStatus env delivererId orderId newStatus) s).2 =
      (run (Deliveries.saveOrder orderId (updatedOrder env newStatus order) >>= fun _ =>
        Proc.ofExcept env.notifyOrderStatusChange >>= fun _ =>
          completeDelivery env orderId order.status (updatedOrder env newStatus order) items) s).2 := by
  unfold updateDeliveryStatus
  rw [run_read_bind, hload]
  rw [run_throwIf_bind, if_neg (not_not.mpr hdeliverer)]

theorem step_of_delivered {saved : DeliveryRuntime × Order}
    (h : call.delivered order = some saved) : saved.2.bill = order.bill ∧
      call.step orderId s = (run (Deliveries.saveOrder orderId saved.2 >>= fun _ =>
        Proc.ofExcept saved.1.notifyOrderStatusChange >>= fun _ =>
          completeDelivery saved.1 orderId order.status saved.2 items) s).2 := by
  obtain ⟨hlookup, -⟩ := lookup_of_loadOrder hload
  cases call with
  | updateDeliveryStatus env delivererId newStatus =>
    dsimp only [EarningCall.delivered] at h
    split_ifs at h with hdeliverer
    cases h
    exact ⟨rfl, snd_run_updateDeliveryStatus hload env newStatus hdeliverer⟩
  | verifyDelivery env delivererId code =>
    dsimp only [EarningCall.delivered] at h
    split_ifs at h with hall
    cases h
    obtain ⟨hdeliverer, hstatus, hattempts, hcode⟩ := hall
    refine ⟨rfl, ?_⟩
    rw [← snd_run_updateDeliveryStatus hload env .delivered hdeliverer]
    show (run (verifyDelivery env delivererId orderId code) s).2 = _
    unfold verifyDelivery
    rw [run_findOrder_bind hlookup, run_throwIf_bind, if_neg (not_not.mpr hdeliverer), if_neg hstatus,
      run_throwIf_bind, if_neg (not_le.mpr hattempts), hcode]
    dsimp only
    unfold verifyCode
    rw [if_pos rfl]
  | adminForceDelivery env =>
    dsimp only [EarningCall.delivered] at h
    split_ifs at h with hstatus
    cases h
    refine ⟨rfl, ?_⟩
    show (run (adminForceDelivery env orderId) s).2 = _
    have hcomplete : completeDelivery env orderId order.status (forcedOrder env order) items =
        onOrderDelivered env orderId (forcedOrder env order) items := if_pos ⟨hstatus, rfl⟩
    unfold adminForceDelivery
    rw [run_read_bind, hload, hcomplete]
    dsimp only
    rw [if_neg hstatus]
  | _ => cases h

theorem earned_of_not_delivered (hpayment : call.isPayment = false)
    (h : call.delivered order = none) (hbilled : s.Billed V (some currency) orderId order.bill) :
    Earned V (some currency) inHundredths orderId order.bill (fun _ => 0) s (call.step orderId s) := by
  obtain ⟨hlookup, -⟩ := lookup_of_loadOrder hload
  have hsame : Earned V (some currency) inHundredths orderId order.bill (fun _ => 0) s s := Earned.refl hbilled
  cases call with
  | updateDeliveryStatus env delivererId newStatus =>
    dsimp only [EarningCall.delivered] at h
    split_ifs at h with hdeliverer
    show Earned V (some currency) inHundredths orderId order.bill _ s
      (run (updateDeliveryStatus env delivererId orderId newStatus) s).2
    unfold updateDeliveryStatus
    rw [run_read_bind, hload]
    rw [run_throwIf_bind, if_pos hdeliverer]
    exact hsame
  | verifyDelivery env delivererId code =>
    dsimp only [EarningCall.delivered] at h
    split_ifs at h with hall
    show Earned V (some currency) inHundredths orderId order.bill _ s (run (verifyDelivery env delivererId orderId code) s).2
    unfold verifyDelivery
    rw [run_findOrder_bind hlookup, run_throwIf_bind]
    by_cases hdeliverer : order.delivererId = some delivererId
    swap
    · rw [if_pos hdeliverer]
      exact hsame
    rw [if_neg (not_not.mpr hdeliverer)]
    by_cases hstatus : order.status = .delivered
    · rw [if_pos hstatus]
      exact hsame
    rw [if_neg hstatus, run_throwIf_bind]
    by_cases hattempts : order.deliveryAttemptCount ≥ 5
    · rw [if_pos hattempts]
      exact hsame
    rw [if_neg hattempts]
    cases hcode : order.deliveryCode.filter (· ≠ "") with
    | none => exact hsame
    | some deliveryCode =>
      have hwrong : code ≠ deliveryCode := by
        rintro rfl
        exact hall ⟨hdeliverer, hstatus, not_le.mp hattempts, hcode⟩
      dsimp only
      unfold verifyCode
      rw [if_neg hwrong]
      exact quiet_saveOrder rfl hbilled
  | adminForceDelivery env =>
    dsimp only [EarningCall.delivered] at h
    split_ifs at h with hstatus
    show Earned V (some currency) inHundredths orderId order.bill _ s (run (adminForceDelivery env orderId) s).2
    unfold adminForceDelivery
    rw [run_read_bind, hload]
    dsimp only
    rw [if_pos hstatus]
    exact hsame
  | _ => cases hpayment

/-- **What a call credits**: the items of an order that it pays, the completion of a delivery, or nothing. -/
theorem earning_step_cases (hcurrency : currency = orDefault order.currency "ETB")
    (hV : ∀ vendorId, V vendorId ↔ vendorId ∈ vendorIds items) (hready : s.wallet.ReadyFor V (some currency))
    (call : EarningCall) :
    (call.isPayment = true ∧ order.paymentStatus ≠ .paid ∧
      Earned V (some currency) inHundredths orderId (OrderPayments.paidOrder order).bill
        (fun vendorId => (items.map fun loaded => creditOf inHundredths orderId loaded vendorId).sum) s
        (call.step orderId s)) ∨
    (call.isPayment = false ∧ ∃ saved ∈ call.delivered order, Completes orderId order items s saved ∧
      Earned V (some currency) inHundredths orderId order.bill
        (fun vendorId => deliveryCredit saved.1 saved.2 items vendorId) s (call.step orderId s)) ∨
    call.Fits orderId s ∧
      Earned V (some currency) inHundredths orderId order.bill (fun _ => 0) s (call.step orderId s) := by
  obtain ⟨hlookup, -⟩ := lookup_of_loadOrder hload
  have hbilled : s.Billed V (some currency) orderId order.bill := ⟨hready, by unfold billOf; rw [hlookup, Option.map_some]⟩
  cases hpayment : call.isPayment with
  | true =>
    obtain ⟨env, hstep⟩ := step_of_isPayment hload hpayment
    have hnone : call.delivered order = none := by
      cases call <;> first | rfl | cases hpayment
    rw [hstep]
    by_cases hpaid : order.paymentStatus = .paid
    · refine .inr (.inr ⟨?_, ?_⟩)
      · unfold EarningCall.Fits
        rw [hload]
        refine ⟨fun _ hunpaid => absurd hpaid hunpaid, fun saved hsaved => ?_⟩
        rw [hnone] at hsaved
        cases hsaved
      · rw [snd_run_triggerPostPaymentProcessing_of_paid env hload hpaid]
        exact Earned.refl hbilled
    · exact .inl ⟨rfl, hpaid, earned_triggerPostPaymentProcessing env hready hload hpaid⟩
  | false =>
    refine .inr ?_
    have hno : call.isPayment ≠ true := Bool.eq_false_iff.mp hpayment
    cases hdelivered : call.delivered order with
    | none =>
      refine .inr ⟨?_, earned_of_not_delivered hload hpayment hdelivered hbilled⟩
      unfold EarningCall.Fits
      rw [hload]
      refine ⟨fun hyes => absurd hyes hno, fun saved hsaved => ?_⟩
      rw [hdelivered] at hsaved
      cases hsaved
    | some saved =>
      obtain ⟨hbill, hstep⟩ := step_of_delivered hload hdelivered
      have hcompleted := earned_complete hcurrency hV hbilled saved hbill
      rw [← hstep] at hcompleted
      by_cases hcompletes : Completes orderId order items s saved
      · exact .inl ⟨rfl, saved, rfl, hcompletes, hcompleted.congr fun vendorId _ => if_pos hcompletes⟩
      · refine .inr ⟨?_, hcompleted.congr fun vendorId _ => if_neg hcompletes⟩
        unfold EarningCall.Fits
        rw [hload]
        refine ⟨fun hyes => absurd hyes hno, fun saved' hsaved' => ?_⟩
        rw [hdelivered] at hsaved'
        cases hsaved'
        exact fun hall => absurd hall hcompletes

end Calls

/-! ### Credits and what is owed -/

section CreditsOwed

variable {items items' : List LoadedItem} {orderId vendorId : ℕ}

theorem vendorIds_congr (h : items'.map LoadedItem.billed = items.map LoadedItem.billed) :
    vendorIds items' = vendorIds items := by
  have hbilled : ∀ items : List LoadedItem, (items.filterMap fun loaded => loaded.vendor.map Prod.fst) =
      (items.map LoadedItem.billed).filterMap Prod.fst := by
    intro items
    rw [List.filterMap_map]
    rfl
  unfold vendorIds
  rw [hbilled, hbilled, h]

theorem mem_vendorIds : vendorId ∈ vendorIds items ↔ ∃ loaded ∈ items, loaded.vendorId = some vendorId :=
  mem_insertionOrder.trans List.mem_filterMap

theorem owed_eq_sum (items : List LoadedItem) (vendorId : ℕ) : vendorOwed items vendorId =
    (items.map fun loaded => if loaded.vendorId = some vendorId then loaded.item.vendorPayout.hundredths else 0).sum := by
  unfold vendorOwed
  induction items with
  | nil => rfl
  | cons loaded items ih =>
    rw [List.map_cons, List.sum_cons, ← ih]
    by_cases hvendor : loaded.vendorId = some vendorId
    · rw [List.filter_cons_of_pos (by simpa using hvendor), List.map_cons, List.sum_cons, if_pos hvendor]
    · rw [List.filter_cons_of_neg (by simpa using hvendor), if_neg hvendor, zero_add]

theorem isSome_product_loadItem (s : OrderStore) (item : OrderItem) (h : (s.loadItem item).vendor.isSome = true) :
    (s.loadItem item).product.isSome = true := by
  unfold loadItem at h ⊢
  cases hproduct : s.productOf item with
  | none =>
    rw [hproduct] at h
    cases h
  | some found => rfl

theorem creditOf_inHundredths (orderId : ℕ) {loaded : LoadedItem}
    (hproduct : loaded.vendor.isSome = true → loaded.product.isSome = true) (vendorId : ℕ) :
    creditOf inHundredths orderId loaded vendorId =
      if loaded.vendorId = some vendorId then max 0 loaded.item.vendorPayout.hundredths else 0 := by
  unfold creditOf LoadedItem.vendorId
  cases hvendor : loaded.vendor with
  | none =>
    cases loaded.product with
    | none => rfl
    | some found => rfl
  | some vendor =>
    rw [hvendor] at hproduct
    obtain ⟨found, hfound⟩ := Option.isSome_iff_exists.mp (hproduct rfl)
    rw [hfound, Option.map_some]
    dsimp only
    by_cases hsame : vendor.1 = vendorId
    · rw [if_pos (congrArg some hsame)]
      by_cases hpositive : 0 < loaded.item.vendorPayout.value
      · rw [if_pos ⟨hsame.symm, hpositive⟩, max_eq_right (Numeric2.value_nonneg_iff.mp hpositive.le)]
        rfl
      · have hnonpos : ¬ 0 < loaded.item.vendorPayout.hundredths := by
          intro hlt
          refine hpositive (lt_of_le_of_ne (Numeric2.value_nonneg_iff.mpr hlt.le) fun hzero => ?_)
          have hmul := Numeric2.value_mul loaded.item.vendorPayout
          rw [← hzero] at hmul
          have : loaded.item.vendorPayout.hundredths = 0 := by exact_mod_cast hmul.symm
          omega
        rw [if_neg fun hboth => hpositive hboth.2, max_eq_left (not_lt.mp hnonpos)]
    · rw [if_neg fun heq => hsame (Option.some_inj.mp heq), if_neg fun hboth => hsame hboth.1.symm]

variable (hproducts : ∀ loaded ∈ items, loaded.vendor.isSome = true → loaded.product.isSome = true)
include hproducts

theorem sum_creditOf (hnonneg : ∀ loaded ∈ items, loaded.vendorId.isSome = true →
    0 ≤ loaded.item.vendorPayout.hundredths) :
    (items.map fun loaded => creditOf inHundredths orderId loaded vendorId).sum = vendorOwed items vendorId := by
  rw [owed_eq_sum]
  refine congrArg List.sum (List.map_congr_left fun loaded hloaded => ?_)
  rw [creditOf_inHundredths orderId (hproducts loaded hloaded)]
  split_ifs with hvendor
  · exact max_eq_right (hnonneg loaded hloaded (by rw [hvendor, Option.isSome_some]))
  · rfl

theorem owed_le_sum_creditOf :
    vendorOwed items vendorId ≤ (items.map fun loaded => creditOf inHundredths orderId loaded vendorId).sum := by
  rw [owed_eq_sum]
  refine List.sum_le_sum fun loaded hloaded => ?_
  rw [creditOf_inHundredths orderId (hproducts loaded hloaded)]
  split_ifs
  · exact le_max_right _ _
  · exact le_rfl

theorem nonneg_of_sum_creditOf_le
    (hle : (items.map fun loaded => creditOf inHundredths orderId loaded vendorId).sum ≤ vendorOwed items vendorId)
    {loaded : LoadedItem} (hloaded : loaded ∈ items) (hvendor : loaded.vendorId = some vendorId) :
    0 ≤ loaded.item.vendorPayout.hundredths := by
  by_contra hneg
  have hlt : vendorOwed items vendorId < (items.map fun loaded => creditOf inHundredths orderId loaded vendorId).sum := by
    rw [owed_eq_sum]
    refine List.sum_lt_sum _ _ (fun other hother => ?_) ⟨loaded, hloaded, ?_⟩
    · rw [creditOf_inHundredths orderId (hproducts other hother)]
      split_ifs
      · exact le_max_right _ _
      · exact le_rfl
    · rw [creditOf_inHundredths orderId (hproducts loaded hloaded), if_pos hvendor]
      omega
  omega

end CreditsOwed

/-! ### Runs -/

def OrderStore.PaidAndDelivered (s : OrderStore) (orderId : ℕ) : Prop :=
  ∃ order ∈ s.orders.lookup orderId, order.paymentStatus = .paid ∧ order.status = .delivered
deriving Decidable

/-- The vendors of the items have earned no more than they are owed, and exactly that once the order is paid. -/
structure SettlesVendors (orderId : ℕ) (currency : String) (items₀ : List LoadedItem) (s : OrderStore) : Prop where
  ready : s.wallet.ReadyFor (fun vendorId => vendorId ∈ vendorIds items₀) (some currency)
  order : ∃ order items, s.loadOrder orderId = some (order, items) ∧
    items.map LoadedItem.billed = items₀.map LoadedItem.billed ∧ currency = orDefault order.currency "ETB" ∧
      ∀ vendorId ∈ vendorIds items₀, 0 ≤ s.earned orderId vendorId ∧
        s.earned orderId vendorId ≤ vendorOwed items₀ vendorId ∧
          (order.paymentStatus = .paid → s.earned orderId vendorId = vendorOwed items₀ vendorId)

section Runs

variable {orderId : ℕ} {currency : String} {items₀ items : List LoadedItem} {order : Order} {s s' : OrderStore}

theorem settles_of_earned {bill : Bill} {δ : ℕ → ℤ} (hload : s.loadOrder orderId = some (order, items))
    (hsame : items.map LoadedItem.billed = items₀.map LoadedItem.billed)
    (hcurrency : currency = orDefault order.currency "ETB")
    (hearned : Earned (fun vendorId => vendorId ∈ vendorIds items₀) (some currency) inHundredths orderId bill δ s s')
    (hitems : bill.items = order.bill.items) (hbill : bill.currency = order.currency)
    (hbounds : ∀ vendorId ∈ vendorIds items₀, 0 ≤ s.earned orderId vendorId + δ vendorId ∧
      s.earned orderId vendorId + δ vendorId ≤ vendorOwed items₀ vendorId ∧
        (bill.paymentStatus = .paid → s.earned orderId vendorId + δ vendorId = vendorOwed items₀ vendorId)) :
    SettlesVendors orderId currency items₀ s' := by
  obtain ⟨order', items', hload', hbill', hterms⟩ :=
    loadOrder_of_bill hload hearned.bill hitems hearned.wallet.users_eq hearned.sellerOf_eq
  refine ⟨hearned.wallet.ready, order', items', hload', hterms.trans hsame, ?_, fun vendorId hvendor => ?_⟩
  · rw [hcurrency, ← hbill, ← hbill']
    rfl
  · have hvalue : s'.earned orderId vendorId = s.earned orderId vendorId + δ vendorId :=
      hearned.wallet.earnings_eq vendorId hvendor
    obtain ⟨hnonneg, hle, hpaid⟩ := hbounds vendorId hvendor
    rw [hvalue]
    refine ⟨hnonneg, hle, fun hstatus => hpaid ?_⟩
    rw [← hbill']
    exact hstatus

theorem products_of_loadOrder (hload : s.loadOrder orderId = some (order, items)) :
    ∀ loaded ∈ items, loaded.vendor.isSome = true → loaded.product.isSome = true := by
  obtain ⟨-, rfl⟩ := lookup_of_loadOrder hload
  intro loaded hloaded
  obtain ⟨item, -, rfl⟩ := List.mem_map.mp hloaded
  exact isSome_product_loadItem s item

theorem settles_step (h : SettlesVendors orderId currency items₀ s) {call : EarningCall} (hfits : call.Fits orderId s) :
    SettlesVendors orderId currency items₀ (call.step orderId s) := by
  obtain ⟨order, items, hload, hsame, hcurrency, hbounds⟩ := h.order
  have hvendors : vendorIds items = vendorIds items₀ := vendorIds_congr hsame
  have hV : ∀ vendorId, vendorId ∈ vendorIds items₀ ↔ vendorId ∈ vendorIds items := fun vendorId => by rw [hvendors]
  rcases earning_step_cases hload hcurrency hV h.ready call with
    ⟨hpayment, hunpaid, hearned⟩ | ⟨-, saved, hsaved, hcompletes, hearned⟩ | ⟨-, hearned⟩
  · unfold EarningCall.Fits at hfits
    rw [hload] at hfits
    obtain ⟨hnothing, hnonneg⟩ := hfits.1 hpayment hunpaid
    have hkept : (OrderPayments.paidOrder order).bill.items = order.bill.items := by
      show (order.items.map OrderPayments.processedItem).map OrderItem.terms = order.items.map OrderItem.terms
      rw [List.map_map]
      refine List.map_congr_left fun item _ => ?_
      show (OrderPayments.processedItem item).terms = item.terms
      unfold OrderPayments.processedItem
      split_ifs <;> rfl
    refine settles_of_earned hload hsame hcurrency hearned hkept rfl fun vendorId hvendor => ?_
    rw [hnothing vendorId ((hV vendorId).mp hvendor), sum_creditOf (products_of_loadOrder hload) hnonneg,
      owed_congr hsame, zero_add]
    have hbound := hbounds vendorId hvendor
    exact ⟨by omega, le_rfl, fun _ => rfl⟩
  · unfold EarningCall.Fits at hfits
    rw [hload] at hfits
    refine settles_of_earned hload hsame hcurrency hearned rfl rfl fun vendorId hvendor => ?_
    have hcredit := hfits.2 saved hsaved hcompletes vendorId ((hV vendorId).mp hvendor)
    have hnonneg := deliveryCredit_nonneg saved.1 saved.2 items vendorId
    obtain ⟨hold, hle, hpaid⟩ := hbounds vendorId hvendor
    rw [owed_congr hsame] at hcredit
    by_cases hstatus : order.paymentStatus = .paid
    · rw [if_pos hstatus] at hcredit
      rw [hcredit, add_zero]
      exact hbounds vendorId hvendor
    · rw [if_neg hstatus] at hcredit
      exact ⟨by omega, hcredit, fun hpaid' => absurd hpaid' hstatus⟩
  · refine settles_of_earned hload hsame hcurrency hearned rfl rfl fun vendorId hvendor => ?_
    rw [add_zero]
    exact hbounds vendorId hvendor

theorem fits_of_earned_le (h : SettlesVendors orderId currency items₀ s) {call : EarningCall}
    (hle : ∀ vendorId ∈ vendorIds items₀, (call.step orderId s).earned orderId vendorId ≤ vendorOwed items₀ vendorId) :
    call.Fits orderId s := by
  obtain ⟨order, items, hload, hsame, hcurrency, hbounds⟩ := h.order
  have hvendors : vendorIds items = vendorIds items₀ := vendorIds_congr hsame
  have hV : ∀ vendorId, vendorId ∈ vendorIds items₀ ↔ vendorId ∈ vendorIds items := fun vendorId => by rw [hvendors]
  rcases earning_step_cases hload hcurrency hV h.ready call with
    ⟨hpayment, hunpaid, hearned⟩ | ⟨hpayment, saved, hsaved, hcompletes, hearned⟩ | ⟨hfits, -⟩
  · have hafter : ∀ vendorId ∈ vendorIds items₀, s.earned orderId vendorId +
        (items.map fun loaded => creditOf inHundredths orderId loaded vendorId).sum ≤ vendorOwed items vendorId := by
      intro vendorId hvendor
      have hvalue : (call.step orderId s).earned orderId vendorId = s.earned orderId vendorId +
          (items.map fun loaded => creditOf inHundredths orderId loaded vendorId).sum :=
        hearned.wallet.earnings_eq vendorId hvendor
      rw [owed_congr hsame, ← hvalue]
      exact hle vendorId hvendor
    have hproducts := products_of_loadOrder hload
    have hnone : call.delivered order = none := by
      cases call <;> first | rfl | cases hpayment
    unfold EarningCall.Fits
    rw [hload]
    refine ⟨fun _ _ => ⟨fun vendorId hvendor => ?_, fun loaded hloaded hsome => ?_⟩, fun saved hsaved => ?_⟩
    · have hmem := (hV vendorId).mpr hvendor
      have hnonneg := (hbounds vendorId hmem).1
      have hmore := hafter vendorId hmem
      have hleast : vendorOwed items vendorId ≤ (items.map fun loaded => creditOf inHundredths orderId loaded vendorId).sum :=
        owed_le_sum_creditOf hproducts
      omega
    · obtain ⟨vendorId, hvendor⟩ := Option.isSome_iff_exists.mp hsome
      have hmem := (hV vendorId).mpr (mem_vendorIds.mpr ⟨loaded, hloaded, hvendor⟩)
      have hnonneg := (hbounds vendorId hmem).1
      have hmore := hafter vendorId hmem
      have hcredits : (items.map fun loaded => creditOf inHundredths orderId loaded vendorId).sum ≤
          vendorOwed items vendorId := by omega
      exact nonneg_of_sum_creditOf_le hproducts hcredits hloaded hvendor
    · rw [hnone] at hsaved
      cases hsaved
  · have hno : call.isPayment ≠ true := Bool.eq_false_iff.mp hpayment
    unfold EarningCall.Fits
    rw [hload]
    refine ⟨fun hyes => absurd hyes hno, fun saved' hsaved' _ vendorId hvendor => ?_⟩
    have heq : saved' = saved := Option.some_inj.mp (hsaved'.symm.trans hsaved)
    subst heq
    have hmem := (hV vendorId).mpr hvendor
    have hvalue : (call.step orderId s).earned orderId vendorId =
        s.earned orderId vendorId + deliveryCredit saved'.1 saved'.2 items vendorId :=
      hearned.wallet.earnings_eq vendorId hmem
    have hafter := hle vendorId hmem
    have hnonneg := deliveryCredit_nonneg saved'.1 saved'.2 items vendorId
    obtain ⟨-, -, hpaid⟩ := hbounds vendorId hmem
    rw [owed_congr hsame]
    split_ifs with hstatus
    · have hall := hpaid hstatus
      omega
    · omega
  · exact hfits

theorem settles_of_unpaid (hload : s.loadOrder orderId = some (order, items)) (hunpaid : order.paymentStatus ≠ .paid)
    (hlinked : s.wallet.Linked)
    (hcurrency : ∀ vendorId ∈ vendorIds items, s.wallet.EarnsIn (some (orDefault order.currency "ETB")) vendorId)
    (hnothing : ∀ vendorId ∈ vendorIds items, s.earned orderId vendorId = 0)
    (howed : ∀ vendorId ∈ vendorIds items, 0 ≤ vendorOwed items vendorId) :
    SettlesVendors orderId (orDefault order.currency "ETB") items s := by
  refine ⟨⟨hlinked, hcurrency⟩, order, items, hload, rfl, rfl, fun vendorId hvendor => ?_⟩
  rw [hnothing vendorId hvendor]
  exact ⟨le_rfl, howed vendorId hvendor, fun hpaid => absurd hpaid hunpaid⟩

theorem earned_of_settles (h : SettlesVendors orderId currency items₀ s) :
    ∀ vendorId ∈ vendorIds items₀, s.earned orderId vendorId ≤ vendorOwed items₀ vendorId ∧
      (s.PaidAndDelivered orderId → s.earned orderId vendorId = vendorOwed items₀ vendorId) := by
  obtain ⟨order, items, hload, -, -, hbounds⟩ := h.order
  intro vendorId hvendor
  obtain ⟨-, hle, hpaid⟩ := hbounds vendorId hvendor
  refine ⟨hle, ?_⟩
  rintro ⟨order', hlookup, hstatus, -⟩
  obtain ⟨hlookup', -⟩ := lookup_of_loadOrder hload
  cases hlookup'.symm.trans hlookup
  exact hpaid hstatus

/-- **A vendor earns an order once**: in every run of payments and deliveries of an order that was unpaid and had earned
its vendors nothing, no vendor has ever earned more than the payouts of its items, and each has earned exactly them
whenever the order is paid and delivered, if and only if no vendor is owed a negative sum and every call fits: no
payment of an unpaid order comes after a credit of its vendors or meets a negative payout, and no delivery that is
completed credits a vendor more than is still owed, so nothing at all when the order is paid. -/
theorem earns_once_iff {s₀ : OrderStore} (hload : s₀.loadOrder orderId = some (order, items))
    (hunpaid : order.paymentStatus ≠ .paid) (hlinked : s₀.wallet.Linked)
    (hcurrency : ∀ vendorId ∈ vendorIds items, s₀.wallet.EarnsIn (some (orDefault order.currency "ETB")) vendorId)
    (hnothing : ∀ vendorId ∈ vendorIds items, s₀.earned orderId vendorId = 0) (calls : List EarningCall) :
    (∀ n, ∀ vendorId ∈ vendorIds items,
      let state := Run.after (EarningCall.step orderId) s₀ (calls.take n)
      state.earned orderId vendorId ≤ vendorOwed items vendorId ∧
        (state.PaidAndDelivered orderId → state.earned orderId vendorId = vendorOwed items vendorId)) ↔
      (∀ vendorId ∈ vendorIds items, 0 ≤ vendorOwed items vendorId) ∧
        Run.Along (EarningCall.step orderId) (fun s call => call.Fits orderId s) s₀ calls := by
  have hstep : ∀ s call, SettlesVendors orderId (orDefault order.currency "ETB") items s → EarningCall.Fits orderId s call →
      SettlesVendors orderId (orDefault order.currency "ETB") items (EarningCall.step orderId s call) :=
    fun s call hs hfits => settles_step hs hfits
  have hruns (howed : ∀ vendorId ∈ vendorIds items, 0 ≤ vendorOwed items vendorId) :=
    Run.forall_take_iff_along (P := fun s => ∀ vendorId ∈ vendorIds items,
        s.earned orderId vendorId ≤ vendorOwed items vendorId ∧
          (s.PaidAndDelivered orderId → s.earned orderId vendorId = vendorOwed items vendorId))
      (fun s hs => earned_of_settles hs) hstep
      (fun s call hs hP => fits_of_earned_le hs fun vendorId hvendor => (hP vendorId hvendor).1)
      (settles_of_unpaid hload hunpaid hlinked hcurrency hnothing howed) calls
  constructor
  · intro h
    have howed : ∀ vendorId ∈ vendorIds items, 0 ≤ vendorOwed items vendorId := by
      intro vendorId hvendor
      have hstart : s₀.earned orderId vendorId ≤ vendorOwed items vendorId := (h 0 vendorId hvendor).1
      rw [hnothing vendorId hvendor] at hstart
      exact hstart
    exact ⟨howed, (hruns howed).mp h⟩
  · exact fun h => (hruns h.1).mpr h.2

end Runs

/-! ### Examples of runs -/

/-- An order is paid, delivered by an administrator, and paid once more. -/
def earningCalls (vendorCommissionPercent : ℚ) : List EarningCall :=
  [.triggerPostPaymentProcessing (payoutRuntime payoutMade),
    .adminForceDelivery { deliveryRuntime with vendorCommissionPercent := some vendorCommissionPercent },
    .handleWebhook (payoutRuntime payoutMade)]

/-- A commission of 100 percent leaves nothing to credit at the delivery. -/
theorem earns_once_earningCalls :
    let state (n : ℕ) := Run.after (EarningCall.step 1) (oneItemOrder 0) ((earningCalls 100).take n)
    ((state 1).earned 1 5 = 9500 ∧ (state 3).earned 1 5 = 9500 ∧ (state 3).PaidAndDelivered 1) ∧
      ∀ n, ∀ vendorId ∈ vendorIds (((oneItemOrder 0).loadOrder 1).elim [] Prod.snd),
        (state n).earned 1 vendorId ≤ vendorOwed (((oneItemOrder 0).loadOrder 1).elim [] Prod.snd) vendorId ∧
          ((state n).PaidAndDelivered 1 →
            (state n).earned 1 vendorId = vendorOwed (((oneItemOrder 0).loadOrder 1).elim [] Prod.snd) vendorId) := by
  have hlinked : (oneItemOrder 0).wallet.Linked := by
    intro id tx htx
    cases htx
  exact ⟨by decide +kernel, (earns_once_iff rfl (by decide +kernel) hlinked (by decide +kernel) (by decide +kernel)
    (earningCalls 100)).mpr ⟨by decide +kernel, by decide +kernel⟩⟩

/-- With a commission of 5 percent the vendor gets the payout of 95.00 of its item once more at the delivery. -/
theorem earns_twice :
    let state (n : ℕ) := Run.after (EarningCall.step 1) (oneItemOrder 0) ((earningCalls 5).take n)
    vendorOwed (((oneItemOrder 0).loadOrder 1).elim [] Prod.snd) 5 = 9500 ∧ (state 1).earned 1 5 = 9500 ∧
      (state 2).earned 1 5 = 19000 ∧ (state 2).PaidAndDelivered 1 := by
  decide +kernel

end SuuqBackend
