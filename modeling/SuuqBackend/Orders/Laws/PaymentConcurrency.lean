import SuuqBackend.Lib.Interleave
import SuuqBackend.Orders.Laws.ItemPayouts
import SuuqBackend.Orders.Laws.PaymentEarnings

/-!
# Completions of a payment beside each other

`triggerPostPaymentProcessing` looks at the payment status of an order and saves the order as paid in a later step.
Its callers look at the status once more before, and no later.

The credits of a call are the steps of their transactions; the debit of an automatic payout locks the wallet at its
first step, and is one action.
-/

namespace SuuqBackend

open Proc OrderPayments OrderStore

namespace OrderStore

def IsUnpaid (s : OrderStore) (orderId : ℕ) : Prop := ∃ order ∈ s.orders.lookup orderId, order.paymentStatus ≠ .paid
deriving Decidable

def IsPaid (s : OrderStore) (orderId : ℕ) : Prop := ∃ order ∈ s.orders.lookup orderId, order.paymentStatus = .paid
deriving Decidable

end OrderStore

/-! ### Steps -/

namespace OrderPayments

variable (env : PaymentRuntime) (orderId : ℕ)

/-- `creditWallet` of the payout of an item, in the steps of its transaction. -/
def creditVendorSteps (loaded : LoadedItem) (product : OrderedProduct) (vendorId : ℕ) : OrderProc WalletTransaction :=
  Proc.zoom OrderStore.walletLens (isolated (Wallets.runCredit vendorId loaded.item.vendorPayout.value .earning
    (some (payoutDescription orderId product)) (some orderId)))

/-- `creditAndPayOut` in these steps. -/
def creditAndPayOutSteps (loaded : LoadedItem) (product : OrderedProduct) (vendorId : ℕ) : OrderProc Unit := do
  let _ ← creditVendorSteps orderId loaded product vendorId
  tryAutoEbirrPayoutForItem env orderId loaded false

/-- `processItem` in these steps. -/
def processItemSteps (loaded : LoadedItem) : OrderProc Unit :=
  match loaded.product, loaded.vendor with
  | some (_, product), some (vendorId, _) =>
    if 0 < loaded.item.vendorPayout.value then do
      let _ : Except HttpException Unit ← attempt (creditAndPayOutSteps env orderId loaded product vendorId)
    else pure ()
  | _, _ => pure ()

/-- The order is saved as paid, and its items are processed. -/
def payOrderSteps (order : Order) (items : List LoadedItem) : OrderProc Unit := do
  Proc.write fun s => s.saveOrder orderId (paidOrder order)
  Proc.forEach items (processItemSteps env orderId)

/-- `triggerPostPaymentProcessing` in these steps; its response is left out. -/
def triggerSteps : OrderProc Unit := do
  let some (order, items) ← Proc.read fun s : OrderStore => s.loadOrder orderId
    | throw (.notFound s!"Order {orderId} not found during processing.")
  if order.paymentStatus = .paid then return
  payOrderSteps env orderId order items

end OrderPayments

inductive OrderPaymentCall where
  | triggerPostPaymentProcessing (env : PaymentRuntime)
  | approveBankTransfer (env : PaymentRuntime)
  | completeOrderFromPaymentCallback (env : PaymentRuntime)
  | verifyAndCompleteEbirrOrder (env : PaymentRuntime)
  | handleWebhook (env : PaymentRuntime)

namespace OrderPaymentCall

/-- What the call does to an order; its response is left out. -/
def proc (orderId : ℕ) : OrderPaymentCall → OrderProc Unit
  | triggerPostPaymentProcessing env | approveBankTransfer env | completeOrderFromPaymentCallback env =>
    triggerSteps env orderId
  | verifyAndCompleteEbirrOrder env => do
    let some order ← Proc.read fun s : OrderStore => s.orders.lookup orderId
      | return
    if order.paymentStatus = .paid then return
    triggerSteps env orderId
  | handleWebhook env => do
    let order ← Proc.read fun s : OrderStore => s.orders.lookup orderId
    if order.any fun order => order.paymentStatus = .paid then return
    triggerSteps env orderId

/-- The call has read the order as unpaid, and saves it in its next step. -/
def Saves (orderId : ℕ) : OrderPaymentCall → List OrderStore → Prop
  | triggerPostPaymentProcessing _, [s] | approveBankTransfer _, [s] | completeOrderFromPaymentCallback _, [s] =>
    s.IsUnpaid orderId
  | verifyAndCompleteEbirrOrder _, [s, t] => s.IsUnpaid orderId ∧ t.IsUnpaid orderId
  | handleWebhook _, [s, t] => ¬ s.IsPaid orderId ∧ t.IsUnpaid orderId
  | _, _ => False

instance (orderId : ℕ) (call : OrderPaymentCall) (seen : List OrderStore) : Decidable (call.Saves orderId seen) := by
  unfold Saves
  split <;> infer_instance

end OrderPaymentCall

/-! ### What a call does before it saves -/

section Steps

variable {orderId : ℕ} {s : OrderStore} {order : Order} {items : List LoadedItem} (env : PaymentRuntime)

theorem isUnpaid_iff (hload : s.loadOrder orderId = some (order, items)) :
    s.IsUnpaid orderId ↔ order.paymentStatus ≠ .paid := by
  obtain ⟨order', hlookup, heq⟩ := Option.map_eq_some_iff.mp hload
  cases heq
  constructor
  · rintro ⟨found, hfound, hunpaid⟩
    cases hlookup.symm.trans hfound
    exact hunpaid
  · exact fun hunpaid => ⟨order, hlookup, hunpaid⟩

theorem resume_triggerSteps_of_not (h : ¬ s.IsUnpaid orderId) (seen : List OrderStore) :
    ((triggerSteps env orderId).resume (s :: seen)).Reads := by
  unfold triggerSteps
  rw [resume_read_bind]
  cases hload : s.loadOrder orderId with
  | none =>
    exact (congrArg Proc.Reads (resume_fail _ seen)).mpr trivial
  | some found =>
    have hpaid : found.1.paymentStatus = .paid := not_not.mp fun hunpaid => h ((isUnpaid_iff hload).mpr hunpaid)
    dsimp only
    rw [if_pos hpaid]
    exact (congrArg Proc.Reads (resume_done () seen)).mpr trivial

theorem resume_triggerSteps (hload : s.loadOrder orderId = some (order, items)) (hunpaid : order.paymentStatus ≠ .paid)
    (seen : List OrderStore) :
    (triggerSteps env orderId).resume (s :: seen) = (payOrderSteps env orderId order items).resume seen := by
  unfold triggerSteps
  rw [resume_read_bind, hload]
  dsimp only
  rw [if_neg hunpaid]

theorem reads_triggerSteps {seen : List OrderStore}
    (hbefore : ∀ s rest, seen = s :: rest → rest ≠ [] → ¬ s.IsUnpaid orderId)
    (hnot : ∀ s, seen = [s] → ¬ s.IsUnpaid orderId) : ((triggerSteps env orderId).resume seen).Reads := by
  cases seen with
  | nil =>
    rfl
  | cons s rest =>
    refine resume_triggerSteps_of_not env ?_ rest
    cases rest with
    | nil => exact hnot s rfl
    | cons t rest => exact hbefore s (t :: rest) rfl (List.cons_ne_nil t rest)

theorem acts_payItems (items : List LoadedItem) :
    (Proc.forEach items (processItemSteps env orderId)).Acts fun s s' => s.IsPaid orderId → s'.IsPaid orderId := by
  have horders : ∀ s s' : OrderStore, s'.orders = s.orders → s.IsPaid orderId → s'.IsPaid orderId := by
    intro s s' hsame hpaid
    unfold IsPaid
    rw [hsame]
    exact hpaid
  have hdebit : ∀ loaded vendorId, (debitVendor env orderId loaded vendorId).Acts
      fun s s' => s.IsPaid orderId → s'.IsPaid orderId := by
    intro loaded vendorId
    unfold debitVendor
    cases env.debitFails loaded.item.id with
    | some message => exact acts_throw _
    | none => exact acts_zoom (fun s _ => horders s _ rfl) _
  refine acts_forEach fun loaded _ => ?_
  unfold processItemSteps
  cases loaded.product with
  | none => exact acts_pure _
  | some found =>
    cases loaded.vendor with
    | none => exact acts_pure _
    | some vendor =>
      refine Acts.ite (Acts.bind (Acts.attempt ?_) fun _ => acts_pure _) (acts_pure _)
      refine Acts.bind (acts_zoom (fun s _ => horders s _ rfl) _) fun _ => ?_
      exact acts_tryAutoEbirrPayoutForItem env orderId (fun s s' _ hsame _ => horders s s' hsame) hdebit loaded false

theorem isPaid_saveOrder (s : OrderStore) (orderId : ℕ) (order : Order) :
    (s.saveOrder orderId (paidOrder order)).IsPaid orderId := by
  refine ⟨paidOrder order, ?_, rfl⟩
  show (s.orders.insert orderId (paidOrder order)).lookup orderId = some (paidOrder order)
  rw [Finmap.lookup_insert]

end Steps

/-! ### Where a call stands -/

section Calls

variable {orderId : ℕ}

variable (env : PaymentRuntime) (s : OrderStore) (seen : List OrderStore)

theorem resume_verifyAndCompleteEbirrOrder :
    ((OrderPaymentCall.verifyAndCompleteEbirrOrder env).proc orderId).resume (s :: seen) =
      if s.IsUnpaid orderId then (triggerSteps env orderId).resume seen else .done () := by
  dsimp only [OrderPaymentCall.proc]
  rw [resume_read_bind]
  by_cases hunpaid : s.IsUnpaid orderId
  · rw [if_pos hunpaid]
    obtain ⟨order, hlookup, hne⟩ := hunpaid
    rw [show s.orders.lookup orderId = some order from hlookup]
    dsimp only
    rw [if_neg hne]
  · rw [if_neg hunpaid]
    cases hlookup : s.orders.lookup orderId with
    | none => exact resume_done () seen
    | some order =>
      have hpaid : order.paymentStatus = .paid := not_not.mp fun hne => hunpaid ⟨order, hlookup, hne⟩
      dsimp only
      rw [if_pos hpaid]
      exact resume_done () seen

theorem resume_handleWebhook : ((OrderPaymentCall.handleWebhook env).proc orderId).resume (s :: seen) =
      if s.IsPaid orderId then .done () else (triggerSteps env orderId).resume seen := by
  dsimp only [OrderPaymentCall.proc]
  rw [resume_read_bind]
  have hany : (s.orders.lookup orderId).any (fun order => order.paymentStatus = .paid) = true ↔ s.IsPaid orderId := by
    rw [Option.any_eq_true]
    unfold IsPaid
    simp only [decide_eq_true_iff, Option.mem_def]
  by_cases hpaid : s.IsPaid orderId
  · rw [if_pos (hany.mpr hpaid), if_pos hpaid]
    exact resume_done () seen
  · rw [if_neg fun h => hpaid (hany.mp h), if_neg hpaid]

theorem reads_proc (call : OrderPaymentCall) {seen : List OrderStore} (hbefore : Before (call.Saves orderId) seen)
    (hnot : ¬ call.Saves orderId seen) : ((call.proc orderId).resume seen).Reads := by
  have htrigger (env : PaymentRuntime) (hdirect : ∀ s, call.Saves orderId [s] ↔ s.IsUnpaid orderId) :
      ((triggerSteps env orderId).resume seen).Reads := by
    refine reads_triggerSteps env (fun s rest hseen hrest => ?_) fun s hseen => ?_
    · have hlength : 1 < seen.length := by
        rw [hseen, List.length_cons]
        have hpos := List.length_pos_of_ne_nil hrest
        omega
      have hone := hbefore 1 hlength
      rw [hseen] at hone
      exact fun hunpaid => hone ((hdirect s).mpr hunpaid)
    · rw [hseen] at hnot
      exact fun hunpaid => hnot ((hdirect s).mpr hunpaid)
  have hchecked (env : PaymentRuntime) {s : OrderStore} {rest : List OrderStore} (hseen : seen = s :: rest)
      (hlook : ∀ t, t.IsUnpaid orderId → call.Saves orderId [s, t]) : ((triggerSteps env orderId).resume rest).Reads := by
    refine reads_triggerSteps env (fun t rest' hrest hne => ?_) fun t hrest => ?_
    · have hlength : 2 < seen.length := by
        rw [hseen, hrest, List.length_cons, List.length_cons]
        have hpos := List.length_pos_of_ne_nil hne
        omega
      have htwo := hbefore 2 hlength
      rw [hseen, hrest] at htwo
      exact fun hunpaid => htwo (hlook t hunpaid)
    · rw [hseen, hrest] at hnot
      exact fun hunpaid => hnot (hlook t hunpaid)
  cases call with
  | triggerPostPaymentProcessing env => exact htrigger env fun _ => Iff.rfl
  | approveBankTransfer env => exact htrigger env fun _ => Iff.rfl
  | completeOrderFromPaymentCallback env => exact htrigger env fun _ => Iff.rfl
  | verifyAndCompleteEbirrOrder env =>
    cases seen with
    | nil =>
      rfl
    | cons s rest =>
      rw [resume_verifyAndCompleteEbirrOrder]
      split_ifs with hunpaid
      · exact hchecked env rfl fun t ht => ⟨hunpaid, ht⟩
      · trivial
  | handleWebhook env =>
    cases seen with
    | nil =>
      rfl
    | cons s rest =>
      rw [resume_handleWebhook]
      split_ifs with hpaid
      · trivial
      · exact hchecked env rfl fun t ht => ⟨hpaid, ht⟩

/-- **The step that saves the order**, and that nothing after it makes the order unpaid. -/
theorem writes_proc {call : OrderPaymentCall} {seen : List OrderStore} (h : call.Saves orderId seen)
    {act : OrderStore → OrderStore} {next : OrderStore → OrderProc Unit}
    (hleft : (call.proc orderId).resume seen = .step act next) (s : OrderStore) :
    (act s).IsPaid orderId ∧ (next s).Acts fun s s' => s.IsPaid orderId → s'.IsPaid orderId := by
  have htrigger (env : PaymentRuntime) {t : OrderStore} (ht : t.IsUnpaid orderId)
      (hresume : (triggerSteps env orderId).resume [t] = .step act next) :
      (act s).IsPaid orderId ∧ (next s).Acts fun s s' => s.IsPaid orderId → s'.IsPaid orderId := by
    obtain ⟨order, hlookup, hunpaid⟩ := ht
    have hload : t.loadOrder orderId = some (order, order.items.map t.loadItem) := by
      unfold loadOrder
      rw [show t.orders.lookup orderId = some order from hlookup]
      rfl
    rw [resume_triggerSteps env hload hunpaid] at hresume
    cases hresume
    exact ⟨isPaid_saveOrder s orderId order, acts_payItems env _⟩
  match call, seen, h with
  | .triggerPostPaymentProcessing env, [t], h => exact htrigger env h hleft
  | .approveBankTransfer env, [t], h => exact htrigger env h hleft
  | .completeOrderFromPaymentCallback env, [t], h => exact htrigger env h hleft
  | .verifyAndCompleteEbirrOrder env, [t, u], h =>
    rw [resume_verifyAndCompleteEbirrOrder, if_pos h.1] at hleft
    exact htrigger env h.2 hleft
  | .handleWebhook env, [t, u], h =>
    rw [resume_handleWebhook, if_neg h.1] at hleft
    exact htrigger env h.2 hleft

end Calls

/-! ### A call alone -/

section Alone

variable {orderId : ℕ} {s : OrderStore} {order : Order} {items : List LoadedItem} (env : PaymentRuntime)

theorem run_creditVendorSteps (loaded : LoadedItem) (product : OrderedProduct) (vendorId : ℕ) (s : OrderStore) :
    run (creditVendorSteps orderId loaded product vendorId) s =
      run (OrderPayments.creditVendor orderId loaded product vendorId) s := by
  unfold creditVendorSteps OrderPayments.creditVendor
  rw [run_zoom, run_zoom, run_isolated]
  rfl

theorem run_processItemSteps (loaded : LoadedItem) (s : OrderStore) :
    run (processItemSteps env orderId loaded) s = run (processItem env orderId loaded) s := by
  unfold processItemSteps processItem
  cases loaded.product with
  | none => rfl
  | some found =>
    cases loaded.vendor with
    | none => rfl
    | some vendor =>
      split_ifs
      · unfold creditAndPayOutSteps creditAndPayOut
        rw [run_attempt_bind_pure, run_attempt_bind_pure, run_bind, run_bind, run_creditVendorSteps]
      · rfl

theorem run_forEach_processItemSteps (items : List LoadedItem) (s : OrderStore) :
    run (forEach items (processItemSteps env orderId)) s = run (forEach items (processItem env orderId)) s := by
  induction items generalizing s with
  | nil => rfl
  | cons loaded items ih =>
    rw [forEach_cons, forEach_cons, run_bind, run_bind, run_processItemSteps]
    simp only [ih]

theorem snd_run_triggerSteps (s : OrderStore) :
    (run (triggerSteps env orderId) s).2 = (run (triggerPostPaymentProcessing env orderId) s).2 := by
  unfold triggerSteps triggerPostPaymentProcessing
  rw [run_read_bind, run_read_bind]
  cases s.loadOrder orderId with
  | none => rfl
  | some found =>
    dsimp only
    split_ifs
    · rfl
    · unfold payOrderSteps
      rw [run_write_bind, run_write_bind, run_forEach_processItemSteps, snd_run_bind_readOnly _ fun _ => readOnly_pure _]

theorem snd_run_proc (hunpaid : s.IsUnpaid orderId) (call : OrderPaymentCall) :
    ∃ env, (run (call.proc orderId) s).2 = (run (triggerPostPaymentProcessing env orderId) s).2 := by
  obtain ⟨order, hlookup, hne⟩ := hunpaid
  have hlookup : s.orders.lookup orderId = some order := hlookup
  cases call with
  | triggerPostPaymentProcessing env => exact ⟨env, snd_run_triggerSteps env s⟩
  | approveBankTransfer env => exact ⟨env, snd_run_triggerSteps env s⟩
  | completeOrderFromPaymentCallback env => exact ⟨env, snd_run_triggerSteps env s⟩
  | verifyAndCompleteEbirrOrder env =>
    refine ⟨env, Eq.trans ?_ (snd_run_triggerSteps env s)⟩
    dsimp only [OrderPaymentCall.proc]
    rw [run_read_bind, hlookup]
    dsimp only
    rw [if_neg hne]
  | handleWebhook env =>
    refine ⟨env, Eq.trans ?_ (snd_run_triggerSteps env s)⟩
    dsimp only [OrderPaymentCall.proc]
    rw [run_read_bind, hlookup, if_neg (by simpa using hne)]

theorem earnings_triggerPostPaymentProcessing (hlinked : s.wallet.Linked)
    (hload : s.loadOrder orderId = some (order, items)) (hunpaid : order.paymentStatus ≠ .paid) {loaded : LoadedItem}
    (hloaded : loaded ∈ items) {vendorId : ℕ} (hvendor : loaded.vendorId = some vendorId)
    (g : Numeric2 → Option String → ℤ) :
    (run (triggerPostPaymentProcessing env orderId) s).2.wallet.earnings g orderId vendorId =
      s.wallet.earnings g orderId vendorId + (items.map fun loaded => creditOf g orderId loaded vendorId).sum := by
  have hready : s.wallet.ReadyFor (fun userId => (s.wallet.users.lookup userId).isSome = true) none := by
    refine ⟨hlinked, fun userId huser => ?_⟩
    obtain ⟨user, huser⟩ := Option.isSome_iff_exists.mp huser
    exact ⟨user, huser, fun given hgiven => by cases hgiven⟩
  have hknown : (s.wallet.users.lookup vendorId).isSome = true := by
    obtain ⟨order', -, heq⟩ := Option.map_eq_some_iff.mp hload
    cases heq
    obtain ⟨item, -, rfl⟩ := List.mem_map.mp hloaded
    rw [vendorId_loadItem] at hvendor
    obtain ⟨productId, -, hvendor⟩ := Option.bind_eq_some_iff.mp hvendor
    obtain ⟨seller, -, hvendor⟩ := Option.bind_eq_some_iff.mp hvendor
    obtain ⟨vendorId', -, hvendor⟩ := Option.bind_eq_some_iff.mp hvendor
    obtain ⟨user, huser, heq⟩ := Option.map_eq_some_iff.mp hvendor
    rw [← heq, huser, Option.isSome_some]
  exact (earned_triggerPostPaymentProcessing (g := g) env hready hload hunpaid).wallet.earnings_eq vendorId hknown

end Alone

/-! ### All calls together -/

/-- **Every item is credited once**: in every schedule of the steps of any number of completions of a payment, from
tables in which the order is unpaid, when no call saves the order after another one has made it paid, and when all
calls have ended, the credits of the order for the vendor of an item are those from before and one for each of the
vendor's items with a positive payout, whatever is counted of them: their amounts, or those with a given amount and
description. -/
theorem order_credited_once {ι : Type} [DecidableEq ι] [Nonempty ι] {calls : ι → OrderPaymentCall} {s₀ : OrderStore} {orderId : ℕ}
    {order : Order} {items : List LoadedItem} (hload : s₀.loadOrder orderId = some (order, items))
    (hunpaid : order.paymentStatus ≠ .paid) (hlinked : s₀.wallet.Linked) {schedule : List ι}
    (hfirst : Run.Along (Pool.step fun i => (calls i).proc orderId)
      (fun P i => (calls i).Saves orderId (P.seen i) → ¬ P.store.IsPaid orderId) (Pool.init s₀) schedule)
    (hended : ∀ i, (Run.after (Pool.step fun i => (calls i).proc orderId) (Pool.init s₀) schedule).Succeeded
        (fun i => (calls i).proc orderId) i ∨
      (Run.after (Pool.step fun i => (calls i).proc orderId) (Pool.init s₀) schedule).Failed
        (fun i => (calls i).proc orderId) i) :
    ∀ loaded ∈ items, ∀ vendorId, loaded.vendorId = some vendorId → ∀ g : Numeric2 → Option String → ℤ,
      (Run.after (Pool.step fun i => (calls i).proc orderId) (Pool.init s₀) schedule).store.wallet.earnings g orderId
          vendorId =
        s₀.wallet.earnings g orderId vendorId + (items.map fun loaded => creditOf g orderId loaded vendorId).sum := by
  intro loaded hloaded vendorId hvendor g
  obtain ⟨k, hstore⟩ := Pool.ends_as_one (G := fun i => (calls i).Saves orderId) (F := fun s => s.IsPaid orderId)
    (fun i seen hbefore hnot => reads_proc (calls i) hbefore hnot)
    (fun i seen act next s hsaves hleft => writes_proc hsaves hleft s) hfirst hended
  obtain ⟨env, hrun⟩ := snd_run_proc ((isUnpaid_iff hload).mpr hunpaid) (calls k)
  rw [hstore, hrun]
  exact earnings_triggerPostPaymentProcessing env hlinked hload hunpaid hloaded hvendor g

/-! ### Examples of schedules -/

def webhookAndApproval : Bool → OrderPaymentCall
  | true => .handleWebhook { payoutRuntime payoutMade with autoEbirrPayout := false }
  | false => .approveBankTransfer { payoutRuntime payoutMade with autoEbirrPayout := false }

def countCredits (_ : Numeric2) (_ : Option String) : ℤ := 1

/-- The webhook looks at the order before the approval saves it, and once more after that. -/
theorem order_credited_once_webhookAndApproval :
    let final := Run.after (Pool.step fun i => (webhookAndApproval i).proc 1) (Pool.init (oneItemOrder 0))
      ([true, false, false, true] ++ List.replicate 4 false)
    final.store.wallet.earnings countCredits 1 5 = 1 ∧
      ∀ loaded ∈ ((oneItemOrder 0).loadOrder 1).elim [] Prod.snd, ∀ vendorId, loaded.vendorId = some vendorId → ∀ g,
        final.store.wallet.earnings g 1 vendorId = (oneItemOrder 0).wallet.earnings g 1 vendorId +
          ((((oneItemOrder 0).loadOrder 1).elim [] Prod.snd).map fun loaded => creditOf g 1 loaded vendorId).sum := by
  have hlinked : (oneItemOrder 0).wallet.Linked := by
    intro id tx htx
    cases htx
  exact ⟨by decide +kernel, order_credited_once rfl (by decide +kernel) hlinked (by decide +kernel) (by decide +kernel)⟩

/-- Both calls have read the unpaid order before one of them saves it, and both credit its item. -/
theorem credited_by_both :
    let final := Run.after (Pool.step fun i => (webhookAndApproval i).proc 1) (Pool.init (oneItemOrder 0))
      ([true, true, false, false, true] ++ List.replicate 4 false ++ List.replicate 4 true)
    (∀ i, final.Succeeded (fun i => (webhookAndApproval i).proc 1) i) ∧
      (oneItemOrder 0).wallet.earnings countCredits 1 5 = 0 ∧ final.store.wallet.earnings countCredits 1 5 = 2 := by
  decide +kernel

end SuuqBackend
