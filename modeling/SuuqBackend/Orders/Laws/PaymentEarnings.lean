import SuuqBackend.Orders.OrderPayments
import SuuqBackend.Wallet.Laws.OrderEarnings

/-!
# What a payment credits

`triggerPostPaymentProcessing` credits the vendor of each item with a positive payout, once an order, and only when it
finds the order unpaid.

* `Earned V currency g orderId bill δ s s'`: from `s` to `s'` the vendors `V` have earned `δ` more from the order, whose
  bill is `bill` and whose items have the same vendors.
-/

namespace SuuqBackend

open Proc OrderPayments

/-! ### Bills -/

/-- What an item costs, and what its vendor is to get. -/
structure ItemTerms where
  productId : Option ℕ
  quantity : ℤ
  price : Numeric2
  vendorPayout : Numeric2

def OrderItem.terms (item : OrderItem) : ItemTerms := ⟨item.productId, item.quantity, item.price, item.vendorPayout⟩

/-- The part of an order that says what is owed. -/
structure Bill where
  paymentStatus : PaymentStatus
  currency : String
  items : List ItemTerms

def Order.bill (order : Order) : Bill := ⟨order.paymentStatus, order.currency, order.items.map OrderItem.terms⟩

namespace OrderStore

def billOf (s : OrderStore) (orderId : ℕ) : Option Bill := (s.orders.lookup orderId).map Order.bill

def sellerOf (s : OrderStore) (productId : ℕ) : Option (Option ℕ) := (s.products.lookup productId).map (·.vendorId)

/-- The order has the bill, and the vendors `V` have their wallets in one currency, if one is given. -/
structure Billed (V : ℕ → Prop) (currency : Option String) (orderId : ℕ) (bill : Bill) (s : OrderStore) : Prop where
  ready : s.wallet.ReadyFor V currency
  bill : s.billOf orderId = some bill

/-- The vendors `V` have earned `δ` more from the order, whose bill is `bill`. -/
structure Earned (V : ℕ → Prop) (currency : Option String) (g : Numeric2 → Option String → ℤ) (orderId : ℕ) (bill : Bill)
    (δ : ℕ → ℤ) (s s' : OrderStore) : Prop where
  wallet : WalletStore.Credited V currency g orderId δ s.wallet s'.wallet
  bill : s'.billOf orderId = some bill
  sellerOf_eq : ∀ productId, s'.sellerOf productId = s.sellerOf productId

variable {V : ℕ → Prop} {currency : Option String} {g : Numeric2 → Option String → ℤ} {orderId : ℕ} {bill : Bill}
  {δ δ' : ℕ → ℤ} {s s' s'' : OrderStore}

theorem Earned.billed (h : Earned V currency g orderId bill δ s s') : s'.Billed V currency orderId bill :=
  ⟨h.wallet.ready, h.bill⟩

theorem Earned.refl (h : s.Billed V currency orderId bill) : Earned V currency g orderId bill (fun _ => 0) s s :=
  ⟨WalletStore.Credited.refl h.ready, h.bill, fun _ => rfl⟩

theorem Earned.trans (h : Earned V currency g orderId bill δ s s') (h' : Earned V currency g orderId bill δ' s' s'') :
    Earned V currency g orderId bill (fun userId => δ userId + δ' userId) s s'' :=
  ⟨h.wallet.trans h'.wallet, h'.bill, fun productId => (h'.sellerOf_eq productId).trans (h.sellerOf_eq productId)⟩

theorem Earned.congr (h : Earned V currency g orderId bill δ s s') (hδ : ∀ userId, V userId → δ userId = δ' userId) :
    Earned V currency g orderId bill δ' s s' :=
  ⟨h.wallet.congr hδ, h.bill, h.sellerOf_eq⟩

theorem Earned.zero_trans (h : Earned V currency g orderId bill (fun _ => 0) s s')
    (h' : Earned V currency g orderId bill δ s' s'') : Earned V currency g orderId bill δ s s'' :=
  (h.trans h').congr fun _ _ => zero_add _

theorem Earned.trans_zero (h : Earned V currency g orderId bill δ s s')
    (h' : Earned V currency g orderId bill (fun _ => 0) s' s'') : Earned V currency g orderId bill δ s s'' :=
  (h.trans h').congr fun _ _ => add_zero _

variable (V currency g orderId bill) in
/-- Nothing is earned, wherever the order has the bill. -/
def Quiet (s s' : OrderStore) : Prop :=
  s.Billed V currency orderId bill → Earned V currency g orderId bill (fun _ => 0) s s'

theorem Quiet.refl (s : OrderStore) : Quiet V currency g orderId bill s s := Earned.refl

theorem Quiet.trans (h : Quiet V currency g orderId bill s s') (h' : Quiet V currency g orderId bill s' s'') :
    Quiet V currency g orderId bill s s'' :=
  fun hs => (h hs).zero_trans (h' (h hs).billed)

theorem earned_of_acts {α : Type} {p : OrderProc α} (hp : p.Acts (Quiet V currency g orderId bill))
    (h : s.Billed V currency orderId bill) : Earned V currency g orderId bill (fun _ => 0) s (run p s).2 :=
  Acts.rel_run (R := Quiet V currency g orderId bill) Quiet.refl (fun _ _ _ => Quiet.trans) hp s h

theorem earned_wallet {wallet : WalletStore} (h : s.Billed V currency orderId bill)
    (hwallet : WalletStore.Credited V currency g orderId δ s.wallet wallet) :
    Earned V currency g orderId bill δ s (walletLens.set s wallet) :=
  ⟨hwallet, h.bill, fun _ => rfl⟩

theorem quiet_of_eq (hwallet : s'.wallet = s.wallet) (horders : s'.orders = s.orders)
    (hproducts : s'.products = s.products) : Quiet V currency g orderId bill s s' := by
  intro h
  refine ⟨?_, ?_, fun productId => ?_⟩
  · rw [hwallet]
    exact WalletStore.Credited.refl h.ready
  · unfold billOf
    rw [horders]
    exact h.bill
  · unfold sellerOf
    rw [hproducts]

end OrderStore

open OrderStore

/-! ### Automatic payouts -/

section AutoPayout

variable {R : OrderStore → OrderStore → Prop} (env : PaymentRuntime) (orderId : ℕ)
  (hlogs : ∀ s s' : OrderStore, s'.wallet = s.wallet → s'.orders = s.orders → s'.products = s.products → R s s')
include hlogs

theorem acts_insertPayoutLog (log : OrderPayoutLog) : (insertPayoutLog log).Acts R :=
  acts_step (fun s => hlogs s _ rfl rfl rfl) fun _ => acts_pure _

theorem acts_savePayoutLog (logId : ℕ) (log : OrderPayoutLog) : (savePayoutLog logId log).Acts R :=
  acts_write fun s => hlogs s _ rfl rfl rfl

variable (hdebit : ∀ loaded vendorId, (debitVendor env orderId loaded vendorId).Acts R)
  (loaded : LoadedItem) (vendorId : ℕ) (phone : String)
include hdebit

theorem acts_payoutSent (logId : ℕ) (data : PayoutData) :
    (payoutSent env orderId loaded vendorId phone logId data).Acts R := by
  refine (acts_savePayoutLog hlogs logId _).bind fun _ => (hdebit loaded vendorId).attempt.bind ?_
  rintro (debitError | tx)
  · refine (acts_savePayoutLog hlogs logId _).bind fun _ => (acts_insertPayoutLog hlogs _).bind fun _ => acts_pure _
  · exact acts_pure _

theorem acts_requestPayout : (requestPayout env orderId loaded vendorId phone).Acts R := by
  refine (acts_insertPayoutLog hlogs _).bind fun logId => Acts.bind (Acts.attempt ?_) ?_
  · unfold sendPayout
    cases env.sendPayout (payoutOf orderId loaded phone) with
    | ok data => exact Acts.bind (R := R) (acts_write fun s => hlogs s _ rfl rfl rfl) fun _ => acts_pure _
    | error message => exact acts_throw _
  · rintro (message | data)
    · exact acts_savePayoutLog hlogs logId _
    · exact acts_payoutSent env orderId hlogs hdebit loaded vendorId phone logId data

theorem acts_tryAutoEbirrPayoutForItem (force : Bool) :
    (tryAutoEbirrPayoutForItem env orderId loaded force).Acts R := by
  refine Acts.ite (acts_pure _) ?_
  cases loaded.vendor with
  | none => exact acts_pure _
  | some found =>
    have hread := acts_read (ε := HttpException) (fun s => hlogs s s rfl rfl rfl)
      fun s : OrderStore => s.latestPayout loaded.item.id
    refine Acts.ite (acts_pure _) (hread.bind fun existing => Acts.ite (acts_pure _) ?_)
    refine Acts.ite ((acts_insertPayoutLog hlogs _).bind fun _ => acts_pure _) ?_
    exact acts_requestPayout env orderId hlogs hdebit loaded found.1 _

end AutoPayout

section Quiet

variable {V : ℕ → Prop} {currency : Option String} {g : Numeric2 → Option String → ℤ} {orderId : ℕ} {bill : Bill}
  (env : PaymentRuntime) (orderId' : ℕ) (loaded : LoadedItem)

theorem acts_debitVendor (vendorId : ℕ) :
    (debitVendor env orderId' loaded vendorId).Acts (Quiet V currency g orderId bill) := by
  unfold debitVendor
  cases env.debitFails loaded.item.id with
  | some message => exact acts_throw _
  | none =>
    refine Acts.zoom (R := fun wallet wallet' => wallet.ReadyFor V currency →
      WalletStore.Credited V currency g orderId (fun _ => 0) wallet wallet') (acts_transaction fun wallet hready => ?_)
      fun s wallet hwallet h => earned_wallet h (hwallet h.ready)
    exact credited_debitWallet g orderId hready vendorId _ _ _

theorem quiet_tryAutoEbirrPayoutForItem (force : Bool) :
    (tryAutoEbirrPayoutForItem env orderId' loaded force).Acts (Quiet V currency g orderId bill) :=
  acts_tryAutoEbirrPayoutForItem env orderId' (fun _ _ => quiet_of_eq) (fun loaded => acts_debitVendor env orderId' loaded)
    loaded force

end Quiet

/-! ### Credits -/

def creditOf (g : Numeric2 → Option String → ℤ) (orderId : ℕ) (loaded : LoadedItem) (userId : ℕ) : ℤ :=
  match loaded.product, loaded.vendor with
  | some (_, product), some (vendorId, _) =>
    if userId = vendorId ∧ 0 < loaded.item.vendorPayout.value then
      g loaded.item.vendorPayout (some (payoutDescription orderId product))
    else 0
  | _, _ => 0

section Credits

variable {V : ℕ → Prop} {currency : Option String} {g : Numeric2 → Option String → ℤ} {orderId : ℕ} {bill : Bill}
  {s : OrderStore} (env : PaymentRuntime) (loaded : LoadedItem)

theorem earned_creditAndPayOut (h : s.Billed V currency orderId bill) (product : OrderedProduct) (vendorId : ℕ) :
    Earned V currency g orderId bill (fun userId => if userId = vendorId then
        g (.ofRat |loaded.item.vendorPayout.value|) (some (payoutDescription orderId product)) else 0) s
      (run (creditAndPayOut env orderId loaded product vendorId) s).2 := by
  have hcredit : Earned V currency g orderId bill (fun userId => if userId = vendorId then
      g (.ofRat |loaded.item.vendorPayout.value|) (some (payoutDescription orderId product)) else 0) s
      (run (OrderPayments.creditVendor orderId loaded product vendorId) s).2 := by
    unfold OrderPayments.creditVendor
    rw [run_zoom]
    exact earned_wallet h (credited_creditWallet g orderId h.ready vendorId _ _)
  unfold creditAndPayOut
  rcases hrun : run (OrderPayments.creditVendor orderId loaded product vendorId) s with ⟨e | tx, s₁⟩
  · rw [hrun] at hcredit
    rw [run_bind_of_error hrun]
    exact hcredit
  · rw [hrun] at hcredit
    rw [run_bind_of_ok hrun]
    exact hcredit.trans_zero (earned_of_acts (quiet_tryAutoEbirrPayoutForItem env orderId loaded false) hcredit.billed)

/-- **What is done for an item**: its vendor is credited, once and if there is something to credit. -/
theorem earned_processItem (h : s.Billed V currency orderId bill) :
    (run (processItem env orderId loaded) s).1 = .ok () ∧
      Earned V currency g orderId bill (creditOf g orderId loaded) s (run (processItem env orderId loaded) s).2 := by
  unfold processItem creditOf
  cases loaded.product with
  | none => exact ⟨rfl, Earned.refl h⟩
  | some found =>
    cases loaded.vendor with
    | none => exact ⟨rfl, Earned.refl h⟩
    | some vendor =>
      dsimp only
      by_cases hpositive : 0 < loaded.item.vendorPayout.value
      · rw [if_pos hpositive, run_attempt_bind_pure]
        refine ⟨rfl, (earned_creditAndPayOut env loaded h found.2 vendor.1).congr fun userId _ => ?_⟩
        rw [abs_of_pos hpositive, Numeric2.ofRat_value]
        exact if_congr ⟨fun heq => ⟨heq, hpositive⟩, fun hboth => hboth.1⟩ rfl rfl
      · rw [if_neg hpositive]
        exact ⟨rfl, (Earned.refl h).congr fun userId _ => (if_neg fun hboth => hpositive hboth.2).symm⟩

theorem earned_forEach {β : Type} {body : β → OrderProc Unit} {δ : β → ℕ → ℤ} {xs : List β}
    (hbody : ∀ x ∈ xs, ∀ s, s.Billed V currency orderId bill →
      (run (body x) s).1 = .ok () ∧ Earned V currency g orderId bill (δ x) s (run (body x) s).2)
    (h : s.Billed V currency orderId bill) :
    (run (forEach xs body) s).1 = .ok () ∧
      Earned V currency g orderId bill (fun userId => (xs.map fun x => δ x userId).sum) s
        (run (forEach xs body) s).2 := by
  induction xs generalizing s with
  | nil => exact ⟨rfl, Earned.refl h⟩
  | cons x xs ih =>
    obtain ⟨hok, hround⟩ := hbody x List.mem_cons_self s h
    have hrun : run (body x) s = (.ok (), (run (body x) s).2) := Prod.ext hok rfl
    rw [forEach_cons, run_bind_of_ok hrun]
    obtain ⟨hdone, hrest⟩ := ih (fun y hy => hbody y (List.mem_cons_of_mem x hy)) hround.billed
    refine ⟨hdone, (hround.trans hrest).congr fun userId _ => ?_⟩
    rw [List.map_cons, List.sum_cons]

variable {order : Order} {items : List LoadedItem}

/-- **A payment of an unpaid order** credits its items once each, and the order is then paid. -/
theorem earned_triggerPostPaymentProcessing (hready : s.wallet.ReadyFor V currency)
    (hload : s.loadOrder orderId = some (order, items)) (hunpaid : order.paymentStatus ≠ .paid) :
    Earned V currency g orderId (paidOrder order).bill
      (fun userId => (items.map fun loaded => creditOf g orderId loaded userId).sum) s
      (run (triggerPostPaymentProcessing env orderId) s).2 := by
  have hbilled : (s.saveOrder orderId (paidOrder order)).Billed V currency orderId (paidOrder order).bill := by
    refine ⟨hready, ?_⟩
    unfold billOf saveOrder
    rw [Finmap.lookup_insert, Option.map_some]
  obtain ⟨-, hloop⟩ := earned_forEach (g := g)
    (fun loaded (_ : loaded ∈ items) s hs => earned_processItem env loaded hs) hbilled
  unfold triggerPostPaymentProcessing
  rw [run_read_bind, hload]
  dsimp only
  rw [if_neg hunpaid, run_write_bind, snd_run_bind_readOnly _ fun _ => readOnly_pure _]
  exact ⟨hloop.wallet, hloop.bill, hloop.sellerOf_eq⟩

theorem snd_run_triggerPostPaymentProcessing_of_paid (hload : s.loadOrder orderId = some (order, items))
    (hpaid : order.paymentStatus = .paid) : (run (triggerPostPaymentProcessing env orderId) s).2 = s := by
  unfold triggerPostPaymentProcessing
  rw [run_read_bind, hload]
  dsimp only
  rw [if_pos hpaid]
  rfl

end Credits

/-! ### What is owed -/

def LoadedItem.vendorId (loaded : LoadedItem) : Option ℕ := loaded.vendor.map Prod.fst

def LoadedItem.billed (loaded : LoadedItem) : Option ℕ × ItemTerms := (loaded.vendorId, loaded.item.terms)

theorem lookup_of_loadOrder {s : OrderStore} {orderId : ℕ} {order : Order} {items : List LoadedItem}
    (h : s.loadOrder orderId = some (order, items)) :
    s.orders.lookup orderId = some order ∧ items = order.items.map s.loadItem := by
  obtain ⟨order', hlookup, heq⟩ := Option.map_eq_some_iff.mp h
  cases heq
  exact ⟨hlookup, rfl⟩

/-- The sum of the payouts of the items of a vendor, in hundredths. -/
def vendorOwed (items : List LoadedItem) (vendorId : ℕ) : ℤ :=
  ((items.filter fun loaded => loaded.vendorId = some vendorId).map
    fun loaded => loaded.item.vendorPayout.hundredths).sum

section Owed

variable {s s' : OrderStore} {orderId : ℕ} {order : Order} {items items' : List LoadedItem} {bill : Bill}

theorem owed_congr (h : items'.map LoadedItem.billed = items.map LoadedItem.billed) (vendorId : ℕ) :
    vendorOwed items' vendorId = vendorOwed items vendorId := by
  have hbilled : ∀ items : List LoadedItem, vendorOwed items vendorId =
      (((items.map LoadedItem.billed).filter fun billed => billed.1 = some vendorId).map
        fun billed => billed.2.vendorPayout.hundredths).sum := by
    intro items
    rw [List.filter_map, List.map_map]
    rfl
  rw [hbilled, hbilled, h]

theorem vendorId_loadItem (s : OrderStore) (item : OrderItem) :
    (s.loadItem item).vendorId = item.productId.bind fun productId => (s.sellerOf productId).bind fun seller =>
      seller.bind fun vendorId => (s.wallet.users.lookup vendorId).map fun _ => vendorId := by
  unfold LoadedItem.vendorId loadItem productOf sellerOf
  cases item.productId with
  | none => rfl
  | some productId =>
    dsimp only [Option.bind_eq_bind, Option.bind_some]
    cases s.products.lookup productId with
    | none => rfl
    | some product =>
      dsimp only [Option.bind_some, Option.map_some, vendorOf, Option.bind_eq_bind, Option.pure_def]
      cases product.vendorId with
      | none => rfl
      | some vendorId =>
        dsimp only [Option.bind_some]
        cases s.wallet.users.lookup vendorId with
        | none => rfl
        | some user => rfl

theorem billed_loadItem (husers : s'.wallet.users = s.wallet.users)
    (hsellers : ∀ productId, s'.sellerOf productId = s.sellerOf productId) {item item' : OrderItem}
    (hterms : item'.terms = item.terms) : (s'.loadItem item').billed = (s.loadItem item).billed := by
  have hproduct : item'.productId = item.productId := congrArg ItemTerms.productId hterms
  have hvendor : (s'.loadItem item').vendorId = (s.loadItem item).vendorId := by
    rw [vendorId_loadItem, vendorId_loadItem, hproduct, husers]
    simp only [hsellers]
  exact Prod.ext hvendor hterms

theorem loadOrder_of_bill (hload : s.loadOrder orderId = some (order, items)) (hbill : s'.billOf orderId = some bill)
    (hitems : bill.items = order.bill.items) (husers : s'.wallet.users = s.wallet.users)
    (hsellers : ∀ productId, s'.sellerOf productId = s.sellerOf productId) :
    ∃ order' items', s'.loadOrder orderId = some (order', items') ∧ order'.bill = bill ∧
      items'.map LoadedItem.billed = items.map LoadedItem.billed := by
  obtain ⟨order', horder', hbill'⟩ := Option.map_eq_some_iff.mp hbill
  obtain ⟨order₀, -, hsame⟩ := Option.map_eq_some_iff.mp hload
  cases hsame
  refine ⟨order', order'.items.map s'.loadItem, ?_, hbill', ?_⟩
  · unfold loadOrder
    rw [horder', Option.map_some]
  · have hterms : order'.items.map OrderItem.terms = order.items.map OrderItem.terms :=
      (congrArg Bill.items hbill').trans hitems
    generalize order.items = olds at hterms ⊢
    generalize order'.items = news at hterms ⊢
    induction olds generalizing news with
    | nil => rw [List.map_eq_nil_iff.mp hterms]; rfl
    | cons old olds ih =>
      cases news with
      | nil => cases hterms
      | cons new news =>
        rw [List.map_cons, List.map_cons] at hterms ⊢
        obtain ⟨hhead, htail⟩ := List.cons_eq_cons.mp hterms
        rw [ih news htail]
        exact congrArg (· :: _) (billed_loadItem husers hsellers hhead)

end Owed

end SuuqBackend
