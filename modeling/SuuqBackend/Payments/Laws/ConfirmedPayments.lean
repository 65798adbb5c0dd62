import SuuqBackend.Payments.PaymentCallbacks

/-!
# Confirmed payments

The callbacks of Telebirr and M-Pesa write the status that the notice reports, whatever the order's status is, and a
notice of a boost promotes its product, whether or not one of the same payment has done so before.

`step_tables` says all that a callback does to orders and products.  From them: an order that is
paid stays paid exactly when no notice of a failure meets it, and each boost is applied once exactly when its success
is reported once (`confirmed_stays`).
-/

namespace SuuqBackend

open Proc Payments

inductive PaymentCallback where
  | telebirr (now : ℤ) (body : TelebirrCallbackBody)
  | mpesa (stkCallback : Option StkCallback)

def PaymentStore.IsPaid (s : PaymentStore) (orderId : ℕ) : Prop :=
  (s.orders.lookup orderId).any (fun order => order.paymentStatus = .paid) = true

/-- The payment status of the order that a notice is about becomes what the notice reports. -/
def PaymentStore.report (s : PaymentStore) : Option (ℕ × Order × Bool) → PaymentStore
  | none => s
  | some (orderId, order, succeeded) =>
    let paymentStatus : PaymentStatus := if succeeded then .paid else .failed
    { s with orders := s.orders.insert orderId { order with paymentStatus } }

def PaymentStore.promote (s : PaymentStore) (env : PaymentsRuntime) (now : ℤ) :
    Option (ℕ × PromotedProduct × BoostOption) → PaymentStore
  | none => s
  | some (productId, product, option) =>
    { s with products := s.products.insert productId (promotedProduct env now option product) }

@[simp] theorem PaymentStore.products_report (s : PaymentStore) (noticed : Option (ℕ × Order × Bool)) :
    (s.report noticed).products = s.products := by
  cases noticed <;> rfl

@[simp] theorem PaymentStore.orders_promote (s : PaymentStore) (env : PaymentsRuntime) (now : ℤ)
    (bought : Option (ℕ × PromotedProduct × BoostOption)) : (s.promote env now bought).orders = s.orders := by
  cases bought <;> rfl

def PaymentStore.productAt (s : PaymentStore) (id : ℤ) : Option (ℕ × PromotedProduct) :=
  if id < 0 then none else (s.products.lookup id.toNat).map fun product => (id.toNat, product)

def PaymentStore.boosted (s : PaymentStore) (id : Option ℤ) (tier : String) :
    Option (ℕ × PromotedProduct × BoostOption) :=
  (id.bind s.productAt).bind fun found =>
    if found.2.deletedAt = none ∧ found.2.vendorId.isSome then
      (boostOptions.find? fun option => option.tier = tier).map fun option => (found.1, found.2, option)
    else none

namespace PaymentCallback

variable (env : PaymentsRuntime)

def proc : PaymentCallback → PaymentProc CallbackAnswer
  | .telebirr now body => telebirrCallback env now body
  | .mpesa stkCallback => mpesaCallback stkCallback

def step (s : PaymentStore) (c : PaymentCallback) : PaymentStore := (run (c.proc env) s).2

/-- The number of the order that a notice is about, and whether it reports success. -/
def orderNotice : PaymentCallback → Option (ℤ × Bool)
  | .telebirr _ body =>
    if env.verifySignature body = true ∧ ¬ Texts.StartsWith (outTradeNoOf body) "BOOST-" then
      (orderIdOf (outTradeNoOf body)).map (·, decide (ReportsSuccess env body))
    else none
  | .mpesa stkCallback => stkCallback.bind fun callback =>
      (orderIdOf (callback.AccountReference.getD "")).map (·, decide (callback.ResultCode.getD (-1) = 0))

/-- The product and the tier of a boost that a notice reports as paid. -/
def boostNotice : PaymentCallback → Option (Option ℤ × String)
  | .telebirr _ body =>
    if env.verifySignature body = true ∧ Texts.StartsWith (outTradeNoOf body) "BOOST-" ∧ ReportsSuccess env body then
      boostOf (outTradeNoOf body)
    else none
  | .mpesa _ => none

def reference : PaymentCallback → Option String
  | .telebirr _ body => some (outTradeNoOf body)
  | .mpesa _ => none

def time : PaymentCallback → ℤ
  | .telebirr now _ => now
  | .mpesa _ => 0

def purchase (s : PaymentStore) (c : PaymentCallback) : Option (ℕ × PromotedProduct × BoostOption) :=
  (c.boostNotice env).bind fun boost => s.boosted boost.1 boost.2

/-- The order that the notice is about, and whether it reports success. -/
def noticedOrder (s : PaymentStore) (c : PaymentCallback) : Option (ℕ × Order × Bool) :=
  (c.orderNotice env).bind fun notice => (orderById s notice.1).map fun found => (found.1, found.2, notice.2)

/-- The notice confirms the payment of a boost that can be applied. -/
def Buys (s : PaymentStore) (reference : String) (c : PaymentCallback) : Prop :=
  c.reference = some reference ∧ (c.purchase env s).isSome = true
deriving Decidable

/-- The notice reports the failure of a payment that is confirmed. -/
def Unpays (s : PaymentStore) (c : PaymentCallback) : Prop :=
  (c.noticedOrder env s).any (fun noticed => noticed.2.1.paymentStatus = .paid ∧ noticed.2.2 = false) = true
deriving Decidable

end PaymentCallback

variable (env : PaymentsRuntime)

/-- How many notices of a payment promote a product in the course of a run. -/
def promotions (reference : String) : PaymentStore → List PaymentCallback → ℕ
  | _, [] => 0
  | s, c :: cs =>
    (if c.reference = some reference ∧ (c.step env s).products ≠ s.products then 1 else 0) +
      promotions reference (c.step env s) cs

/-! ### What a callback does -/

section Steps

variable (s : PaymentStore)

variable (now : ℤ) (body : TelebirrCallbackBody)

theorem run_noteTransaction :
    ∃ transactions, run (noteTransaction env body) s = (.ok (), { s with telebirrTransactions := transactions }) := by
  unfold noteTransaction
  rw [run_read_bind]
  cases s.telebirrTransactions.first fun tx => body.outTradeNo.all (tx.merchOrderId = ·) with
  | none => exact ⟨s.telebirrTransactions, rfl⟩
  | some found => exact ⟨_, rfl⟩

theorem run_productsById_bind {α : Type} (id : ℤ) (k : Option (ℕ × PromotedProduct) → PaymentProc α) :
    run (productsById (some id) >>= k) s = run (k (s.productAt id)) s := by
  unfold productsById PaymentStore.productAt
  dsimp only
  split_ifs <;> rfl

theorem run_promoteProduct_own {id : ℤ} (tier : String) {productId : ℕ} {product : PromotedProduct}
    {vendorId : ℕ} (hproduct : s.productAt id = some (productId, product))
    (hvendor : product.vendorId = some vendorId) :
    run (promoteProduct env now (some id) tier product.vendorId) s =
      match boostOptions.find? fun option => option.tier = tier with
      | none => (.error (.badRequest "Invalid boost tier"), s)
      | some option =>
        (.ok (), { s with products := s.products.insert productId (promotedProduct env now option product) }) := by
  unfold promoteProduct
  rw [run_productsById_bind, hproduct]
  dsimp only
  rw [hvendor]
  cases boostOptions.find? fun option => option.tier = tier with
  | none => simp
  | some option => simp [saveProduct]

/-- A promotion fails and leaves everything as it is, or saves the product that it is for. -/
theorem run_promoteAsVendor (id : Option ℤ) (tier : String) :
    ∃ outcome, run (promoteAsVendor env now id tier) s = (outcome, s.promote env now (s.boosted id tier)) := by
  cases id with
  | none => exact ⟨_, rfl⟩
  | some id =>
    unfold PaymentStore.boosted promoteAsVendor findProduct
    rw [bind_assoc, run_productsById_bind, Option.bind_some]
    cases hproduct : s.productAt id with
    | none => exact ⟨_, rfl⟩
    | some found =>
      obtain ⟨productId, product⟩ := found
      rw [Option.bind_some, Option.filter_some]
      by_cases hdeleted : product.deletedAt = none
      · rw [if_pos (decide_eq_true hdeleted)]
        cases hvendor : product.vendorId with
        | none =>
          rw [if_neg fun h => Bool.false_ne_true h.2, pure_bind]
          unfold promoteProduct
          rw [run_productsById_bind, hproduct]
          dsimp only
          rw [hvendor]
          exact ⟨_, rfl⟩
        | some vendorId =>
          have hown := run_promoteProduct_own env s now tier hproduct hvendor
          rw [hvendor] at hown
          rw [if_pos ⟨hdeleted, rfl⟩, pure_bind]
          dsimp only
          rw [hvendor, hown]
          cases boostOptions.find? fun option => option.tier = tier with
          | none => exact ⟨_, rfl⟩
          | some option => exact ⟨_, rfl⟩
      · rw [if_neg fun h => hdeleted (of_decide_eq_true h), if_neg fun h => hdeleted h.1]
        exact ⟨_, rfl⟩

theorem run_orderCallback (reference : String) (succeeded : Prop) [Decidable succeeded] :
    (run (orderCallback reference succeeded) s).2 =
      s.report (((orderIdOf reference).map (·, decide succeeded)).bind fun notice =>
        (orderById s notice.1).map fun found => (found.1, found.2, notice.2)) := by
  unfold orderCallback
  cases orderIdOf reference with
  | none => rfl
  | some id =>
    dsimp only [Option.map_some, Option.bind_some]
    rw [run_read_bind]
    cases orderById s id with
    | none => rfl
    | some found =>
      by_cases hsucceeded : succeeded
      · simp only [if_pos hsucceeded, decide_eq_true hsucceeded]
        rfl
      · simp only [if_neg hsucceeded, decide_eq_false hsucceeded]
        rfl

theorem run_boostCallback : (run (boostCallback env now body) s).2 = s.promote env now
      ((if ReportsSuccess env body then boostOf (outTradeNoOf body) else none).bind
        fun boost => s.boosted boost.1 boost.2) := by
  unfold boostCallback
  cases boostOf (outTradeNoOf body) with
  | none =>
    rw [ite_self]
    rfl
  | some boost =>
    obtain ⟨id, tier⟩ := boost
    by_cases hsucceeded : ReportsSuccess env body
    · obtain ⟨outcome, hrun⟩ := run_promoteAsVendor env s now id tier
      simp only [if_pos hsucceeded]
      rw [Option.bind_some, snd_run_bind_readOnly _ fun outcome => ?_, run_attempt, hrun]
      cases outcome <;> exact fun _ => rfl
    · simp only [if_neg hsucceeded]
      rfl

theorem step_tables (c : PaymentCallback) :
    (c.step env s).orders = (s.report (c.noticedOrder env s)).orders ∧
    (c.step env s).products = (s.promote env c.time (c.purchase env s)).products := by
  cases c with
  | telebirr now body =>
    unfold PaymentCallback.step PaymentCallback.proc PaymentCallback.noticedOrder PaymentCallback.purchase
    unfold PaymentCallback.orderNotice PaymentCallback.boostNotice telebirrCallback
    dsimp only
    by_cases hsigned : env.verifySignature body = true
    · -- Nothing reads the audit log again.
      obtain ⟨transactions, hnoted⟩ := run_noteTransaction env s body
      rw [if_neg (by simp [hsigned] : ¬ env.verifySignature body = false), run_bind_of_ok hnoted]
      by_cases hboost : Texts.StartsWith (outTradeNoOf body) "BOOST-"
      · rw [if_pos hboost, run_boostCallback]
        simp only [hsigned, hboost, true_and]
        refine ⟨PaymentStore.orders_promote _ env now _, ?_⟩
        generalize (if ReportsSuccess env body then boostOf (outTradeNoOf body) else none) = boost
        cases boost with
        | none => rfl
        | some boost =>
          show (PaymentStore.promote _ env now (s.boosted boost.1 boost.2)).products = _
          rw [Option.bind_some]
          cases s.boosted boost.1 boost.2 <;> rfl
      · rw [if_neg hboost, if_pos ⟨hsigned, hboost⟩, if_neg fun h => hboost h.2.1, run_orderCallback]
        refine ⟨?_, PaymentStore.products_report _ _⟩
        generalize (orderIdOf (outTradeNoOf body)).map (·, decide (ReportsSuccess env body)) = notice
        cases notice with
        | none => rfl
        | some notice =>
          show (PaymentStore.report _ ((orderById s notice.1).map _)).orders = _
          rw [Option.bind_some]
          cases orderById s notice.1 <;> rfl
    · rw [if_pos (Bool.eq_false_iff.mpr hsigned), if_neg fun h => hsigned h.1, if_neg fun h => hsigned h.1]
      exact ⟨rfl, rfl⟩
  | mpesa stkCallback =>
    cases stkCallback with
    | none => exact ⟨rfl, rfl⟩
    | some callback =>
      unfold PaymentCallback.step PaymentCallback.proc mpesaCallback
      rw [run_orderCallback]
      exact ⟨rfl, PaymentStore.products_report _ _⟩

end Steps

/-! ### One callback -/

variable {env : PaymentsRuntime} {s : PaymentStore} {c : PaymentCallback}

theorem lookup_of_noticedOrder {orderId : ℕ} {order : Order} {succeeded : Bool}
    (h : c.noticedOrder env s = some (orderId, order, succeeded)) : s.orders.lookup orderId = some order := by
  obtain ⟨notice, -, h⟩ := Option.bind_eq_some_iff.mp h
  obtain ⟨found, hfound, heq⟩ := Option.map_eq_some_iff.mp h
  unfold orderById at hfound
  split_ifs at hfound
  obtain ⟨row, hrow, rfl⟩ := Option.map_eq_some_iff.mp hfound
  obtain ⟨rfl, rfl, -⟩ := Prod.mk.injEq .. ▸ heq
  exact hrow

/-- An order that is paid stays so exactly when the notice does not report a failure of it. -/
theorem keeps_isPaid_iff : (∀ orderId, s.IsPaid orderId → (c.step env s).IsPaid orderId) ↔ ¬ c.Unpays env s := by
  unfold PaymentStore.IsPaid PaymentCallback.Unpays
  rw [(step_tables env s c).1]
  cases hnoticed : c.noticedOrder env s with
  | none => exact iff_of_true (fun _ h => h) Bool.false_ne_true
  | some noticed =>
    obtain ⟨noticedId, order, succeeded⟩ := noticed
    have hlookup := lookup_of_noticedOrder hnoticed
    have hself : ((s.report (some (noticedId, order, succeeded))).orders.lookup noticedId).any
        (fun order => order.paymentStatus = .paid) = succeeded := by
      show ((s.orders.insert noticedId _).lookup noticedId).any _ = succeeded
      rw [Finmap.lookup_insert]
      cases succeeded <;> rfl
    constructor
    · intro h hunpays
      obtain ⟨hpaid, hfailed⟩ : order.paymentStatus = .paid ∧ succeeded = false := by simpa using hunpays
      have hstill := h noticedId (by rw [hlookup]; simpa using hpaid)
      rw [hself, hfailed] at hstill
      exact Bool.false_ne_true hstill
    · intro hnot orderId hpaid
      by_cases hid : orderId = noticedId
      · subst hid
        rw [hself]
        by_contra hfailed
        rw [hlookup] at hpaid
        exact hnot (by simpa using ⟨by simpa using hpaid, Bool.eq_false_iff.mpr hfailed⟩)
      · show ((s.orders.insert noticedId _).lookup orderId).any _ = true
        rw [Finmap.lookup_insert_of_ne _ hid]
        exact hpaid

theorem purchase_spec {productId : ℕ} {product : PromotedProduct} {option : BoostOption}
    (h : c.purchase env s = some (productId, product, option)) :
    s.products.lookup productId = some product ∧ option ∈ boostOptions := by
  obtain ⟨boost, -, h⟩ := Option.bind_eq_some_iff.mp h
  obtain ⟨found, hfound, h⟩ := Option.bind_eq_some_iff.mp h
  obtain ⟨id, -, hproduct⟩ := Option.bind_eq_some_iff.mp hfound
  split_ifs at h
  obtain ⟨found, hfind, heq⟩ := Option.map_eq_some_iff.mp h
  unfold PaymentStore.productAt at hproduct
  split_ifs at hproduct
  obtain ⟨row, hrow, rfl⟩ := Option.map_eq_some_iff.mp hproduct
  obtain ⟨rfl, hrest⟩ := Prod.mk.inj heq
  obtain ⟨rfl, rfl⟩ := Prod.mk.inj hrest
  exact ⟨hrow, List.mem_of_find?_eq_some hfind⟩

theorem promotedProduct_ne (now : ℤ) {option : BoostOption} (h : option ∈ boostOptions) (product : PromotedProduct) :
    promotedProduct env now option product ≠ product := by
  intro heq
  have hexpiry := congrArg PromotedProduct.featuredExpiresAt heq
  have hduration : 0 < BoostOption.durationMs option := by
    have hall : ∀ option ∈ boostOptions, 0 < BoostOption.durationMs option := by decide
    exact hall option h
  change some (max now (product.featuredExpiresAt.getD now) + BoostOption.durationMs option) =
    product.featuredExpiresAt at hexpiry
  rw [← hexpiry, Option.getD_some] at hexpiry
  have := Option.some.inj hexpiry
  omega

theorem products_step_ne_iff : (c.step env s).products ≠ s.products ↔ (c.purchase env s).isSome = true := by
  rw [(step_tables env s c).2]
  cases hpurchase : c.purchase env s with
  | none => exact iff_of_false (fun h => h rfl) Bool.false_ne_true
  | some bought =>
    obtain ⟨productId, product, option⟩ := bought
    obtain ⟨hlookup, hoption⟩ := purchase_spec hpurchase
    refine iff_of_true (fun heq => ?_) rfl
    have hsame : (s.products.insert productId (promotedProduct env c.time option product)).lookup productId =
        s.products.lookup productId := congrArg (Finmap.lookup productId) heq
    rw [Finmap.lookup_insert, hlookup] at hsame
    exact promotedProduct_ne c.time hoption product (Option.some.inj hsame)

theorem product_step (id : ℕ) :
    ((c.step env s).products.lookup id).map (fun product => (product.deletedAt, product.vendorId)) =
      (s.products.lookup id).map fun product => (product.deletedAt, product.vendorId) := by
  rw [(step_tables env s c).2]
  cases hpurchase : c.purchase env s with
  | none => rfl
  | some bought =>
    obtain ⟨productId, product, option⟩ := bought
    obtain ⟨hlookup, -⟩ := purchase_spec hpurchase
    show ((s.products.insert productId _).lookup id).map _ = _
    by_cases hid : id = productId
    · subst hid
      rw [Finmap.lookup_insert, hlookup]
      rfl
    · rw [Finmap.lookup_insert_of_ne _ hid]

theorem isSome_boosted_step (id : Option ℤ) (tier : String) :
    ((c.step env s).boosted id tier).isSome = (s.boosted id tier).isSome := by
  have hboosted (s : PaymentStore) : (s.boosted id tier).isSome =
      ((id.filter (0 ≤ ·)).any fun id =>
        ((s.products.lookup id.toNat).map fun product => (product.deletedAt, product.vendorId)).any fun product =>
          product.1 = none ∧ product.2.isSome ∧ (boostOptions.find? fun option => option.tier = tier).isSome) := by
    unfold PaymentStore.boosted PaymentStore.productAt
    generalize (boostOptions.find? fun option => option.tier = tier) = option
    cases id with
    | none => rfl
    | some id =>
      by_cases hneg : id < 0
      · simp [hneg]
      · cases hlookup : s.products.lookup id.toNat with
        | none => simp [hneg, hlookup]
        | some product =>
          by_cases hready : product.deletedAt = none ∧ product.vendorId.isSome
          · simp [hneg, not_lt.mp hneg, hlookup, hready]
          · have hnot : product.deletedAt = none → ¬ product.vendorId.isSome := fun h h' => hready ⟨h, h'⟩
            simp [hneg, not_lt.mp hneg, hlookup, hready]
            exact fun h h' => absurd h' (hnot h)
  rw [hboosted, hboosted]
  simp only [product_step]

theorem buys_step_iff (reference : String) (c' : PaymentCallback) :
    c'.Buys env (c.step env s) reference ↔ c'.Buys env s reference := by
  unfold PaymentCallback.Buys PaymentCallback.purchase
  cases c'.boostNotice env with
  | none => exact Iff.rfl
  | some boost => rw [Option.bind_some, Option.bind_some, isSome_boosted_step]

/-! ### Runs -/

theorem promotions_eq_countP (reference : String) (calls : List PaymentCallback) :
    promotions env reference s calls = calls.countP fun c => c.Buys env s reference := by
  induction calls generalizing s with
  | nil => rfl
  | cons c calls ih =>
    have hbuys : (c.reference = some reference ∧ (c.step env s).products ≠ s.products) ↔ c.Buys env s reference :=
      and_congr_right fun _ => products_step_ne_iff
    unfold promotions
    rw [ih, List.countP_cons, add_comm, if_congr hbuys rfl rfl]
    simp only [buys_step_iff, decide_eq_true_eq]

/-- **What is confirmed stays confirmed**, and every boost that is paid for is applied once, exactly when no notice of
a failure meets an order that is paid and no boost is confirmed twice. -/
theorem confirmed_stays (env : PaymentsRuntime) (s : PaymentStore) (calls : List PaymentCallback) :
    ((∀ n m, n ≤ m → ∀ orderId, (Run.after (PaymentCallback.step env) s (calls.take n)).IsPaid orderId →
          (Run.after (PaymentCallback.step env) s (calls.take m)).IsPaid orderId) ∧
        ∀ reference, promotions env reference s calls = if ∃ c ∈ calls, c.Buys env s reference then 1 else 0) ↔
      Run.Along (PaymentCallback.step env) (fun s c => ¬ c.Unpays env s) s calls ∧
        ∀ reference, (calls.countP fun c => c.Buys env s reference) ≤ 1 := by
  have hpaid : (∀ n m, n ≤ m → ∀ orderId, (Run.after (PaymentCallback.step env) s (calls.take n)).IsPaid orderId →
      (Run.after (PaymentCallback.step env) s (calls.take m)).IsPaid orderId) ↔
        Run.Along (PaymentCallback.step env) (fun s c => ¬ c.Unpays env s) s calls :=
    Run.forall_rel_take_iff (I := fun _ => True) (R := fun s s' : PaymentStore => ∀ orderId, s.IsPaid orderId → s'.IsPaid orderId)
      (fun _ _ h => h) (fun _ _ _ h h' orderId hs => h' orderId (h orderId hs)) (fun _ _ _ _ => trivial)
      (fun _ _ _ => keeps_isPaid_iff) trivial calls
  refine and_congr hpaid (forall_congr' fun reference => ?_)
  rw [promotions_eq_countP]
  by_cases hbought : ∃ c ∈ calls, c.Buys env s reference
  · have hpos : 0 < calls.countP fun c => c.Buys env s reference := by
      obtain ⟨c, hc, hbuys⟩ := hbought
      exact List.countP_pos_iff.mpr ⟨c, hc, decide_eq_true hbuys⟩
    rw [if_pos hbought]
    omega
  · have hzero : (calls.countP fun c => c.Buys env s reference) = 0 :=
      List.countP_eq_zero.mpr fun c hc hbuys => hbought ⟨c, hc, of_decide_eq_true hbuys⟩
    rw [if_neg hbought]
    omega

/-- Every signature is good, and nothing is converted. -/
def paymentsRuntime : PaymentsRuntime where
  toUpperCase text := text
  rates _ := none
  verifySignature _ := true
  stringify _ := ""

/-- An order that has not been paid, and a product. -/
def unpaidOrder : PaymentStore where
  orders := Finmap.singleton 7 { items := [], paymentStatus := .unpaid, status := .pending, currency := "ETB" }
  products := Finmap.singleton 12 { vendorId := some 3, currency := "ETB" }
  telebirrTransactions := .empty

/-- M-Pesa reports a success, then a failure; Telebirr reports the success of a boost twice. -/
def repeatedNotices : List PaymentCallback :=
  let boost : PaymentCallback :=
    .telebirr 0 { outTradeNo := some "BOOST-12-starter-1700", tradeStatus := some "SUCCESS" }
  [.mpesa (some { ResultCode := some 0, AccountReference := some "ORDER-7" }),
    .mpesa (some { ResultCode := some 1032, AccountReference := some "ORDER-7" }), boost, boost]

/-- The order does not stay paid, and the boost is applied twice. -/
theorem confirmed_undone :
    ¬ ((∀ n m, n ≤ m → ∀ orderId,
          (Run.after (PaymentCallback.step paymentsRuntime) unpaidOrder (repeatedNotices.take n)).IsPaid orderId →
          (Run.after (PaymentCallback.step paymentsRuntime) unpaidOrder (repeatedNotices.take m)).IsPaid orderId) ∧
        ∀ reference, promotions paymentsRuntime reference unpaidOrder repeatedNotices =
          if ∃ c ∈ repeatedNotices, c.Buys paymentsRuntime unpaidOrder reference then 1 else 0) ∧
      ¬ (Run.after (PaymentCallback.step paymentsRuntime) unpaidOrder (repeatedNotices.take 2)).IsPaid 7 ∧
      promotions paymentsRuntime "BOOST-12-starter-1700" unpaidOrder repeatedNotices = 2 := by
  have hpaid : (Run.after (PaymentCallback.step paymentsRuntime) unpaidOrder (repeatedNotices.take 1)).IsPaid 7 := by
    unfold PaymentStore.IsPaid
    decide
  have hunpaid :
      ¬ (Run.after (PaymentCallback.step paymentsRuntime) unpaidOrder (repeatedNotices.take 2)).IsPaid 7 := by
    unfold PaymentStore.IsPaid
    decide
  exact ⟨fun h => hunpaid (h.1 1 2 (by decide) 7 hpaid), hunpaid, by decide⟩

end SuuqBackend
