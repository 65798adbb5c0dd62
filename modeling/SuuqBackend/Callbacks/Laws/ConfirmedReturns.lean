import SuuqBackend.Callbacks.EbirrCallbacks
import SuuqBackend.Orders.Laws.Reservations
import SuuqBackend.Payments.Laws.ConfirmedPayments
import SuuqBackend.PosWorkspace.Laws.Activations

/-!
# What Ebirr has not confirmed

A call unlocks something when a subscription becomes active, a branch is created, or an order becomes paid.  Starts do
so only when Ebirr approves the payment, and the webhook only when the transaction is completed.  The return of a user
does so whatever the status of the transaction is: it asks for no more than a reference that is known, and for an order
for a text in the query that the user can write (`activated_without_payment`).  So what is unlocked is confirmed in the
runs in which every return that takes effect finds its transaction confirmed (`unlocked_confirmed`).
-/

namespace SuuqBackend

open Proc PosWorkspaceActivation EbirrCallbacks EbirrPayments EbirrOrders SerialTable

/-! ### What is unlocked -/

namespace EbirrCallbackStore

def orders (s : EbirrCallbackStore) : Table ℕ Order := s.workspace.ebirr.order.orders

def OrderPaid (s s' : EbirrCallbackStore) : Prop :=
  ∃ orderId order, s'.orders.lookup orderId = some order ∧ order.paymentStatus = .paid ∧
    ¬ ∃ old ∈ s.orders.lookup orderId, old.paymentStatus = .paid

/-- A subscription becomes active, a branch is created, or an order becomes paid. -/
def Unlocks (s s' : EbirrCallbackStore) : Prop :=
  ¬ ActivationRun.NoneActivated s.workspace s'.workspace ∨
    s'.workspace.branches.since s.workspace.branches.next ≠ [] ∨ s.OrderPaid s'

/-- The transaction of a reference is completed. -/
def Confirmed (s : EbirrCallbackStore) (reference : String) : Prop :=
  ∃ found ∈ s.workspace.ebirr.byReference reference, found.2.status = .completed
deriving Decidable

end EbirrCallbackStore

/-! ### Runs -/

inductive EbirrCallbackCall where
  | startActivation (now : ℤ) (user : WorkspaceUser) (params : ActivationPaymentParams) (exchange : EbirrExchange)
  | startBranch (now : ℤ) (user : WorkspaceUser) (dto : BranchCreationDto) (exchange : EbirrExchange)
  | startOrder (orderId : ℕ) (phoneNumber : String) (exchange : EbirrExchange)
  | webhook (now : ℤ) (authorized : Except HttpException Unit) (body : EbirrNotice)
  | finish (now : ℤ) (trusted : Except HttpException Unit) (query : EbirrQuery)

/-- A store, and the references whose payments Ebirr has approved at once. -/
structure CallbackRun where
  store : EbirrCallbackStore
  approved : List String := []

namespace EbirrCallbackCall

/-- What a call does; its result is not used here. -/
def handler (env : EbirrCallbackRuntime) : EbirrCallbackCall → EbirrCallbackProc Unit
  | startActivation now user params exchange => do
    let _ ← inWorkspace (startEbirrActivationPayment env.workspace now user params exchange)
  | startBranch now user dto exchange => do
    let _ ← inWorkspace (startAdditionalBranchCreationPayment env.workspace now user dto exchange)
  | startOrder orderId phoneNumber exchange => do
    let _ ← inEbirr (processEbirrPaymentAsync env.workspace.ebirr orderId phoneNumber exchange)
  | webhook now authorized body => handleEbirrWebhook env now authorized body
  | finish now trusted query => do
    let _ ← handleEbirrReturn env now trusted query

def approvedReference (s : EbirrCallbackStore) : EbirrCallbackCall → Option String
  | startActivation now _ params exchange =>
    if exchange.Approves then some (activationReference params.branchId now) else none
  | startBranch now user _ exchange =>
    if exchange.Approves then
      (s.workspace.payingTenant user).map fun found => branchCreationReference found.1 user.id now
    else none
  | startOrder orderId _ exchange => if exchange.Approves then some s!"REF-{orderId}" else none
  | _ => none

end EbirrCallbackCall

namespace CallbackRun

variable (env : EbirrCallbackRuntime)

/-- A step of a run.  A payment is approved when its transaction is stored. -/
def step (o : CallbackRun) (call : EbirrCallbackCall) : CallbackRun :=
  let s' := (run (call.handler env) o.store).2
  { store := s'
    approved := o.approved ++ ((call.approvedReference o.store).filter fun reference =>
      (o.store.workspace.ebirr.byReference reference).isNone ∧
        (s'.workspace.ebirr.byReference reference).isSome).toList }

/-- Ebirr has reported that the payment of a call was successful. -/
def Evidence (o : CallbackRun) (s' : EbirrCallbackStore) : EbirrCallbackCall → Prop
  | .startActivation _ _ _ exchange => exchange.Approves
  | .startBranch _ _ _ exchange => exchange.Approves
  | .startOrder _ _ exchange => exchange.Approves
  | .webhook _ _ body => ∃ reference ∈ orText body.referenceId body.merchOrderId, s'.Confirmed reference
  | .finish _ _ query => ∃ reference, queryReference query = some (.text reference) ∧
      (s'.Confirmed reference ∨ reference ∈ o.approved)

/-- What a call unlocks, it unlocks for a payment that Ebirr has reported successful. -/
def UnlocksConfirmed (o : CallbackRun) (call : EbirrCallbackCall) : Prop :=
  o.store.Unlocks (o.step env call).store → o.Evidence (o.step env call).store call

/-- The order that a return completes: it reports a success, or the deployment asks for none, and it is not paid. -/
def CompletesOrder (s : EbirrCallbackStore) (query : EbirrQuery) (reference : String) : Prop :=
  (HasExplicitSuccessSignal env.orders query ∨ env.allowUnverifiedReturn = true) ∧
    ∃ orderId ∈ returnedOrderId reference, 0 ≤ orderId ∧
      ∃ order ∈ s.orders.lookup orderId.toNat, order.paymentStatus ≠ .paid

def AcceptsReturn (s : EbirrCallbackStore) (reference : String) : Prop :=
  ∃ found ∈ s.workspace.ebirr.byReference reference,
    ¬ ((parseOrderIdFromReference reference).isSome ∧
      (parseOrderIdFromInvoice found.2.invoiceId).isSome ∧
      parseOrderIdFromReference reference ≠ parseOrderIdFromInvoice found.2.invoiceId)

/-- A return is accepted, and the completion that it goes on with takes effect. -/
def TakesEffect (s : EbirrCallbackStore) (now : ℤ) (query : EbirrQuery) (reference : String) : Prop :=
  AcceptsReturn s reference ∧
    ((IsPosWorkspaceActivationReference (some reference) ∧ (s.workspace.grantedTo reference now).isSome) ∨
    (IsBranchCreationPaymentReference (some reference) ∧
      ∃ parsed ∈ parseBranchCreationReference reference, (s.workspace.awaiting parsed.1).isSome) ∨
    (¬ IsPosWorkspaceActivationReference (some reference) ∧ ¬ IsBranchCreationPaymentReference (some reference) ∧
      CompletesOrder env s query reference))

/-- The condition on a call: a return that takes effect finds its transaction completed, or its payment approved. -/
def Meets (o : CallbackRun) : EbirrCallbackCall → Prop
  | .finish now trusted query => trusted.isOk = true →
      ∀ reference, queryReference query = some (.text reference) →
        TakesEffect env o.store now query reference → o.store.Confirmed reference ∨ reference ∈ o.approved
  | _ => True

end CallbackRun

/-! ### Calls that unlock nothing -/

/-- A call that unlocks nothing, and leaves the transactions of Ebirr confirmed. -/
structure EbirrCallbackStore.Locked (s s' : EbirrCallbackStore) : Prop where
  activated : ActivationRun.NoneActivated s.workspace s'.workspace
  branches : s'.workspace.branches = s.workspace.branches
  paid : ∀ orderId order, s'.orders.lookup orderId = some order → order.paymentStatus = .paid →
    ∃ old, s.orders.lookup orderId = some old ∧ old.paymentStatus = .paid

namespace EbirrCallbackStore.Locked

variable {s s' s'' : EbirrCallbackStore}

theorem not_unlocks (h : s.Locked s') : ¬ s.Unlocks s' := by
  rintro (hactivated | hbranches | ⟨orderId, order, hlookup, hpaid, hnot⟩)
  · exact hactivated h.activated
  · rw [h.branches, since_next] at hbranches
    exact hbranches rfl
  · exact hnot (h.paid orderId order hlookup hpaid)

theorem trans (h : s.Locked s') (h' : s'.Locked s'') : s.Locked s'' where
  activated := by
    intro id row hrow hactive
    obtain ⟨old, hold, hwas⟩ := h'.activated id row hrow hactive
    exact h.activated id old hold hwas
  branches := h'.branches.trans h.branches
  paid := by
    intro orderId order hlookup hpaid
    obtain ⟨old, hold, hwas⟩ := h'.paid orderId order hlookup hpaid
    exact h.paid orderId old hold hwas

theorem of_same (hsubscriptions : s'.workspace.subscriptions = s.workspace.subscriptions)
    (hbranches : s'.workspace.branches = s.workspace.branches) (horders : s'.orders = s.orders) : s.Locked s' where
  activated := ActivationRun.noneActivated_of_same hsubscriptions
  branches := hbranches
  paid := by
    rw [horders]
    exact fun orderId order hlookup hpaid => ⟨order, hlookup, hpaid⟩

theorem refl (s : EbirrCallbackStore) : s.Locked s := of_same rfl rfl rfl

end EbirrCallbackStore.Locked

open EbirrCallbackStore

section Starts

variable {env : EbirrCallbackRuntime} {s : EbirrCallbackStore}

theorem snd_run_inWorkspace {α : Type} (p : WorkspaceProc α) (s : EbirrCallbackStore) :
    (run (inWorkspace p) s).2 = { s with workspace := (run p s.workspace).2 } := by
  unfold inWorkspace
  rw [run_zoom]
  rfl

theorem snd_run_inEbirr {α : Type} (p : EbirrProc α) (s : EbirrCallbackStore) :
    (run (inEbirr p) s).2 = { s with workspace := { s.workspace with ebirr := (run p s.workspace.ebirr).2 } } := by
  unfold inEbirr
  rw [run_zoom]
  rfl

variable {exchange : EbirrExchange}

variable (orderId : ℕ) (now : ℤ)

theorem locked_startActivation (user : WorkspaceUser) (params : ActivationPaymentParams) (hopen : ¬ exchange.Approves) :
    s.Locked (run (inWorkspace (startEbirrActivationPayment env.workspace now user params exchange)) s).2 := by
  rw [snd_run_inWorkspace]
  by_cases hasks : s.workspace.AsksForActivation env.workspace now user params
  · have hactivated := ActivationRun.noneActivated_open hasks hopen
    rcases run_startActivation_of_open hasks hopen with hrun | ⟨id, row, pending, -, hrun⟩
    · rw [hrun] at hactivated ⊢
      exact ⟨hactivated, rfl, (Locked.refl s).paid⟩
    · rw [hrun] at hactivated ⊢
      exact ⟨hactivated, rfl, (Locked.refl s).paid⟩
  · rw [run_startActivation_of_not_asks hasks]
    exact Locked.refl s

theorem locked_startBranch (user : WorkspaceUser) (dto : BranchCreationDto) (hopen : ¬ exchange.Approves) :
    s.Locked (run (inWorkspace (startAdditionalBranchCreationPayment env.workspace now user dto exchange)) s).2 := by
  rw [snd_run_inWorkspace]
  rcases startBranchCreation_cases env.workspace now user dto exchange s.workspace with
    ⟨-, failure, hrun⟩ | ⟨tenantId, id, row, ebirr, horder, hpays, ⟨outcome, hrun⟩ | ⟨happroves, -⟩⟩
  · rw [hrun]
    exact Locked.refl s
  · rw [hrun]
    have hfind := (BranchRun.find_of_latestSubscription (BranchRun.latest_of_payingTenant hpays)).1
    have hactivated : ActivationRun.NoneActivated s.workspace (s.workspace.withPending id row
        (pendingCreation env.workspace user dto (branchCreationReference tenantId user.id now))) :=
      (ActivationRun.noneActivated_of_same rfl).saved fun hactive => ⟨row, hfind, hactive⟩
    refine ⟨hactivated, rfl, ?_⟩
    show ∀ orderId order, ebirr.order.orders.lookup orderId = some order → _
    rw [horder]
    exact (Locked.refl s).paid
  · exact absurd happroves hopen

def NonePaid (t t' : OrderStore) : Prop :=
  ∀ orderId order, t'.orders.lookup orderId = some order → order.paymentStatus = .paid →
    ∃ old, t.orders.lookup orderId = some old ∧ old.paymentStatus = .paid

theorem nonePaid_of_same {t t' : OrderStore} (h : t'.orders = t.orders) : NonePaid t t' := by
  intro orderId order hlookup hpaid
  rw [h] at hlookup
  exact ⟨order, hlookup, hpaid⟩

theorem NonePaid.trans {t t' t'' : OrderStore} (h : NonePaid t t') (h' : NonePaid t' t'') : NonePaid t t'' := by
  intro orderId order hlookup hpaid
  obtain ⟨old, hold, hwas⟩ := h' orderId order hlookup hpaid
  exact h orderId old hold hwas

theorem nonePaid_saveOrder (t : OrderStore) (orderId : ℕ) {order : Order} (h : order.paymentStatus ≠ .paid) :
    NonePaid t (t.saveOrder orderId order) := by
  intro id found hlookup hpaid
  have hinsert : (t.orders.insert orderId order).lookup id = some found := hlookup
  by_cases hid : id = orderId
  · subst hid
    rw [Finmap.lookup_insert] at hinsert
    rw [← Option.some.inj hinsert] at hpaid
    exact absurd hpaid h
  · rw [Finmap.lookup_insert_of_ne _ hid] at hinsert
    exact ⟨found, hinsert, hpaid⟩

theorem nonePaid_cancelUnpaid (t : OrderStore) : NonePaid t (run (cancelUnpaid orderId now) t).2 := by
  have hacts : (cancelUnpaid orderId now).Acts NonePaid := by
    refine (acts_read (fun t => nonePaid_of_same rfl) _).bind fun found => ?_
    cases found with
    | none => exact acts_pure _
    | some found =>
      refine Acts.ite (acts_pure _) (Acts.bind ?_ fun released => ?_)
      · refine (acts_releaseOnlineReservation now found.1 found.2).mono fun t t' hstock => ?_
        obtain ⟨inventory, rfl⟩ := hstock
        exact nonePaid_of_same rfl
      · exact acts_write fun t => nonePaid_saveOrder t orderId fun h => by cases h
  exact hacts.rel_run (fun t => nonePaid_of_same rfl) (fun _ _ _ => NonePaid.trans) t

theorem nonePaid_processEbirrPaymentAsync (env : EbirrRuntime) (orderId : ℕ) (phoneNumber : String)
    (hopen : ¬ exchange.Approves) (t : EbirrStore) :
    NonePaid t.order (run (processEbirrPaymentAsync env orderId phoneNumber exchange) t).2.order := by
  have hcancel : ∀ (t' : EbirrStore) (failure : EbirrFailure), t'.order = t.order → NonePaid t.order
      (run (inOrders (cancelUnpaid orderId exchange.repliedAt) >>= fun _ =>
        (throw failure : EbirrProc String)) t').2.order := by
    intro t' failure horder
    rw [snd_run_bind_readOnly _ fun _ => readOnly_throw _]
    unfold inOrders
    rw [run_mapError, run_zoom, ← horder]
    exact nonePaid_cancelUnpaid orderId exchange.repliedAt t'.order
  unfold processEbirrPaymentAsync
  rw [run_bind, run_attempt, run_bind]
  by_cases haccepts : t.Accepts env (orderRequest orderId phoneNumber)
  · rw [run_initiatePayment_of_accepts haccepts]
    cases hanswer : answerOf exchange.reply with
    | error failure => exact hcancel _ failure rfl
    | ok response =>
      have hpending : ¬ ApprovedImmediately response := by
        intro happroved
        apply hopen
        unfold EbirrExchange.Approves
        rw [eq_data_of_answerOf hanswer]
        exact happroved
      dsimp only
      unfold settleOrder
      rw [if_neg hpending]
      exact nonePaid_of_same rfl
  · obtain ⟨failure, hrun⟩ := run_initiatePayment_of_not_accepts haccepts exchange.reply exchange.requestedAt
      exchange.repliedAt
    rw [hrun]
    exact hcancel t failure rfl

theorem locked_startOrder (phoneNumber : String) (hopen : ¬ exchange.Approves) :
    s.Locked (run (inEbirr (processEbirrPaymentAsync env.workspace.ebirr orderId phoneNumber exchange)) s).2 := by
  rw [snd_run_inEbirr]
  exact ⟨ActivationRun.noneActivated_of_same rfl, rfl,
    nonePaid_processEbirrPaymentAsync env.workspace.ebirr orderId phoneNumber hopen s.workspace.ebirr⟩

end Starts

/-! ### The webhook -/

section Webhook

variable {env : EbirrCallbackRuntime} {now : ℤ} {s : EbirrCallbackStore}

theorem byReference_completeOrder (env : EbirrRuntime) (orderId : Option ℕ) (t : EbirrStore) (reference : String) :
    (run (completeOrder env orderId) t).2.byReference reference = t.byReference reference := by
  unfold completeOrder
  cases orderId with
  | none => rfl
  | some orderId =>
    rw [snd_run_attempt_bind_pure, run_zoom]
    rfl

theorem processCallback_cases (env : EbirrRuntime) (now : ℤ) (body : EbirrNotice) (t : EbirrStore) :
    (∃ result, (run (processCallback env now body) t).1 = .ok result ∧ result.status ≠ "COMPLETED") ∧
        (run (processCallback env now body) t).2.order = t.order ∨
    ∃ reference ∈ orText body.referenceId body.merchOrderId,
      ∃ found ∈ (run (processCallback env now body) t).2.byReference reference, found.2.status = .completed := by
  unfold processCallback
  cases hreference : (orText body.referenceId body.merchOrderId).filter (· ≠ "") with
  | none => exact .inl ⟨⟨_, rfl, by decide⟩, rfl⟩
  | some refId =>
    have hmem := (Option.filter_eq_some_iff.mp hreference).1
    rw [run_read_bind]
    cases htx : t.byReference refId with
    | none => exact .inl ⟨⟨_, rfl, by dsimp only; decide⟩, rfl⟩
    | some found =>
      obtain ⟨id, tx⟩ := found
      dsimp only
      by_cases hcompleted : tx.status = .completed
      · rw [if_pos hcompleted]
        exact .inr ⟨refId, hmem, (id, tx), htx, hcompleted⟩
      · rw [if_neg hcompleted]
        unfold settleCallback saveTransaction
        rw [run_write_bind, snd_run_bind_readOnly _ fun _ => readOnly_pure _]
        by_cases hsuccess : IsSuccessfulCallbackPayload env body
        · have hnoticed : (noticedTransaction env body tx).status = .completed := by
            unfold noticedTransaction
            rw [if_pos hsuccess]
          have hreference' : (noticedTransaction env body tx).merchOrderId = refId := by
            unfold noticedTransaction
            rw [if_pos hsuccess]
            exact of_decide_eq_true (find_of_first htx).2
          refine .inr ⟨refId, hmem, (id, { noticedTransaction env body tx with updatedAt := now }), ?_, hnoticed⟩
          rw [byReference_completeOrder]
          exact first_set htx (decide_eq_true hreference')
        · have hnoticed : (noticedTransaction env body tx).status = .failed := by
            unfold noticedTransaction
            rw [if_neg hsuccess]
          rw [hnoticed]
          exact .inl ⟨⟨_, rfl, by dsimp only; decide⟩, rfl⟩

theorem ebirr_completeBranchCreation (env : PosWorkspaceRuntime) (now : ℤ) (reference : String)
    (t : PosWorkspaceStore) : (run (completeBranchCreationPayment env now reference) t).2.ebirr = t.ebirr := by
  rcases completeBranchCreation_cases env now reference t with hsame | ⟨_, _, _, _, _, _, -, -, hrun⟩
  · rw [hsame]
  · rw [hrun]
    rfl

theorem ebirr_completeWorkspacePayment (env : EbirrCallbackRuntime) (now : ℤ) (reference : String)
    (s : EbirrCallbackStore) :
    (run (completeWorkspacePayment env now reference) s).2.workspace.ebirr = s.workspace.ebirr := by
  unfold completeWorkspacePayment
  split_ifs
  · rw [snd_run_bind_readOnly _ fun _ => readOnly_pure _, snd_run_inWorkspace]
    exact ActivationRun.ebirr_complete env.workspace s.workspace now reference none
  · rw [snd_run_bind_readOnly _ fun _ => readOnly_pure _, snd_run_inWorkspace]
    exact ebirr_completeBranchCreation env.workspace now reference s.workspace
  · rfl

theorem run_completeReported_of_not {result : EbirrCallbackResult} (h : result.status ≠ "COMPLETED")
    (s : EbirrCallbackStore) : run (completeReported env now result) s = (.ok (), s) := by
  unfold completeReported
  cases result.referenceId with
  | none => rfl
  | some reference =>
    dsimp only
    rw [if_neg h]
    rfl

theorem ebirr_completeReported (now : ℤ) (result : EbirrCallbackResult) (s : EbirrCallbackStore) :
    (run (completeReported env now result) s).2.workspace.ebirr = s.workspace.ebirr := by
  unfold completeReported
  cases result.referenceId with
  | none => rfl
  | some reference =>
    split_ifs
    · rw [snd_run_bind_readOnly _ fun _ => readOnly_pure _]
      exact ebirr_completeWorkspacePayment env now reference s
    · rfl

theorem evidence_webhook (now : ℤ) (authorized : Except HttpException Unit) (body : EbirrNotice)
    (h : s.Unlocks (run (handleEbirrWebhook env now authorized body) s).2) :
    ∃ reference ∈ orText body.referenceId body.merchOrderId,
      (run (handleEbirrWebhook env now authorized body) s).2.Confirmed reference := by
  cases authorized with
  | error failure => exact absurd h (Locked.refl s).not_unlocks
  | ok _ =>
    have hcases := processCallback_cases env.workspace.ebirr now body s.workspace.ebirr
    have hprocessed := snd_run_inEbirr (processCallback env.workspace.ebirr now body) s
    change s.Unlocks (run (inEbirr (processCallback env.workspace.ebirr now body) >>= fun result =>
      completeReported env now result) s).2 at h
    show ∃ reference ∈ _, (run (inEbirr (processCallback env.workspace.ebirr now body) >>=
      fun result => completeReported env now result) s).2.Confirmed reference
    have houtcome : (run (inEbirr (processCallback env.workspace.ebirr now body)) s).1 =
        (run (processCallback env.workspace.ebirr now body) s.workspace.ebirr).1 := by
      unfold inEbirr
      rw [run_zoom]
      rfl
    rw [run_bind] at h ⊢
    rcases hrun : run (inEbirr (processCallback env.workspace.ebirr now body)) s with ⟨outcome, s₁⟩
    rw [hrun] at h hprocessed houtcome
    rcases hcases with ⟨⟨result, hresult, hstatus⟩, horder⟩ | ⟨reference, hreference, found, hfound, hcompleted⟩
    · rw [hresult] at houtcome
      obtain rfl : outcome = .ok result := houtcome
      obtain rfl : s₁ = _ := hprocessed
      dsimp only at h
      rw [run_completeReported_of_not hstatus] at h
      have hlocked : s.Locked { s with workspace := { s.workspace with
          ebirr := (run (processCallback env.workspace.ebirr now body) s.workspace.ebirr).2 } } :=
        Locked.of_same rfl rfl (congrArg OrderStore.orders horder)
      exact absurd h hlocked.not_unlocks
    · refine ⟨reference, hreference, found, ?_, hcompleted⟩
      obtain rfl : s₁ = _ := hprocessed
      cases outcome with
      | error failure => exact hfound
      | ok result =>
        rw [ebirr_completeReported]
        exact hfound

end Webhook

/-! ### The return -/

section Return

variable {env : EbirrCallbackRuntime} {now : ℤ} {query : EbirrQuery} {reference : String} {s : EbirrCallbackStore}

theorem verifyReturnCallback_cases (now : ℤ) (query : EbirrQuery) (t : EbirrStore) :
    (∃ result, run (verifyReturnCallback now query) t = (.ok result, t) ∧ result.accepted = false) ∨
    ∃ reference id tx orderId, queryReference query = some (.text reference) ∧
      t.byReference reference = some (id, tx) ∧
      ¬ ((parseOrderIdFromReference reference).isSome ∧
        (parseOrderIdFromInvoice tx.invoiceId).isSome ∧
        parseOrderIdFromReference reference ≠ parseOrderIdFromInvoice tx.invoiceId) ∧
      run (verifyReturnCallback now query) t = (.ok { accepted := true, orderId, referenceId := some reference },
          t.saveTransaction id { tx with updatedAt := now }) := by
  unfold verifyReturnCallback
  cases hquery : queryReference query with
  | none => exact .inl ⟨_, rfl, rfl⟩
  | some value =>
    cases value with
    | nested written => exact .inl ⟨_, rfl, rfl⟩
    | text reference =>
      rw [run_read_bind]
      cases htx : t.byReference reference with
      | none => exact .inl ⟨_, rfl, rfl⟩
      | some found =>
        obtain ⟨id, tx⟩ := found
        dsimp only
        unfold acceptReturn saveTransaction
        by_cases hmismatch : (parseOrderIdFromReference reference).isSome ∧
            (parseOrderIdFromInvoice tx.invoiceId).isSome ∧
            parseOrderIdFromReference reference ≠ parseOrderIdFromInvoice tx.invoiceId
        · left
          rw [if_pos hmismatch]
          exact ⟨_, rfl, rfl⟩
        · right
          rw [if_neg hmismatch]
          exact ⟨reference, id, tx, _, rfl, htx, hmismatch, rfl⟩

theorem snd_run_completeReturn_of_completes {α : Type} {p : WorkspaceProc α}
    (h : completeWorkspacePayment env now reference = inWorkspace p >>= fun _ => pure true) (s : EbirrCallbackStore) :
    (run (completeReturn env now query reference) s).2 = { s with workspace := (run p s.workspace).2 } := by
  unfold completeReturn
  rw [h, bind_assoc]
  show (run (inWorkspace p >>= fun _ =>
    (pure (.portal "success" (some reference) none) : EbirrCallbackProc EbirrRedirect)) s).2 = _
  rw [snd_run_bind_readOnly _ fun _ => readOnly_pure _, snd_run_inWorkspace]

theorem completeWorkspacePayment_of_activation (h : IsPosWorkspaceActivationReference (some reference)) :
    completeWorkspacePayment env now reference =
      inWorkspace (completeEbirrActivationPayment env.workspace now reference none) >>= fun _ => pure true := by
  unfold completeWorkspacePayment
  rw [if_pos h]

theorem completeWorkspacePayment_of_branch (hnot : ¬ IsPosWorkspaceActivationReference (some reference))
    (h : IsBranchCreationPaymentReference (some reference)) : completeWorkspacePayment env now reference =
      inWorkspace (completeBranchCreationPayment env.workspace now reference) >>= fun _ => pure true := by
  unfold completeWorkspacePayment
  rw [if_neg hnot, if_pos h]

theorem workspace_boostProduct (env : EbirrCallbackRuntime) (now : ℤ) (reference : String) (s : EbirrCallbackStore) :
    (run (boostProduct env now reference) s).2.workspace = s.workspace := by
  unfold boostProduct
  cases (if Texts.StartsWith reference "BOOST-" then Payments.boostOf reference else none) with
  | none => rfl
  | some boost =>
    obtain ⟨productId, tier⟩ := boost
    rw [snd_run_bind_readOnly _ fun outcome => ?_, run_attempt, run_zoom]
    · obtain ⟨outcome, hrun⟩ := run_promoteAsVendor env.promotions (EbirrCallbackStore.paymentLens.get s) now
        productId tier
      have horders := congrArg (fun result => result.2.orders) hrun
      rw [PaymentStore.orders_promote] at horders
      show { s.workspace with ebirr := { s.workspace.ebirr with order := { s.workspace.ebirr.order with
        orders := (run (Payments.promoteAsVendor env.promotions now productId tier)
          (EbirrCallbackStore.paymentLens.get s)).2.orders } } } = s.workspace
      rw [horders]
      rfl
    · cases outcome <;> exact readOnly_pure _

theorem orders_verifyAndComplete {t : OrderStore} (hquery : queryReference query = some (.text reference))
    (h : ¬ ((HasExplicitSuccessSignal env.orders query ∨ env.allowUnverifiedReturn = true) ∧
      ∃ orderId ∈ returnedOrderId reference, 0 ≤ orderId ∧
        ∃ order ∈ t.orders.lookup orderId.toNat, order.paymentStatus ≠ .paid)) :
    (run (verifyAndCompleteEbirrOrder env.orders query) t).2 = t := by
  have hreturned : returnedReference query ["REF-"] = some (.text reference) := by
    unfold returnedReference
    rw [hquery]
    rfl
  unfold verifyAndCompleteEbirrOrder
  rw [hreturned]
  dsimp only
  cases horderId : returnedOrderId reference with
  | none => rfl
  | some orderId =>
    dsimp only
    split_ifs with hunsure hnegative
    · rfl
    · rfl
    · have hsure : HasExplicitSuccessSignal env.orders query ∨ env.allowUnverifiedReturn = true := by
        by_contra hnot
        rw [not_or, Bool.not_eq_true] at hnot
        exact hunsure hnot
      rw [snd_run_bind_readOnly _ fun _ => readOnly_pure _]
      unfold OrderPayments.verifyAndCompleteEbirrOrder
      rw [run_read_bind]
      cases hlookup : t.orders.lookup orderId.toNat with
      | none => rfl
      | some order =>
        have hpaid : order.paymentStatus = .paid := by
          by_contra hunpaid
          exact h ⟨hsure, orderId, horderId, not_lt.mp hnegative, order, hlookup, hunpaid⟩
        dsimp only
        rw [if_pos hpaid]
        rfl

theorem workspace_completeReturn_of_order (env : EbirrCallbackRuntime) (now : ℤ) (query : EbirrQuery)
    (hactivation : ¬ IsPosWorkspaceActivationReference (some reference))
    (hbranch : ¬ IsBranchCreationPaymentReference (some reference)) (s : EbirrCallbackStore) :
    (run (completeReturn env now query reference) s).2.workspace = s.workspace ∨
      (run (completeReturn env now query reference) s).2.workspace =
        { s.workspace with ebirr := { s.workspace.ebirr with
          order := (run (verifyAndCompleteEbirrOrder env.orders query) s.workspace.ebirr.order).2 } } := by
  have hnone : completeWorkspacePayment env now reference = pure false := by
    unfold completeWorkspacePayment
    rw [if_neg hactivation, if_neg hbranch]
  have hworkspace := workspace_boostProduct env now reference s
  unfold completeReturn
  rw [hnone, pure_bind, if_neg Bool.false_ne_true, run_bind]
  rcases hrun : run (boostProduct env now reference) s with ⟨outcome, s₁⟩
  rw [hrun] at hworkspace
  cases outcome with
  | error failure => exact .inl hworkspace
  | ok boosted =>
    dsimp only
    cases boosted with
    | true => exact .inl hworkspace
    | false =>
      right
      rw [if_neg Bool.false_ne_true]
      unfold finishOrder inOrders
      rw [snd_run_bind_readOnly _ fun _ => readOnly_pure _, snd_run_inEbirr, run_mapError, run_zoom, hworkspace]
      rfl

theorem byReference_completeReturn (s : EbirrCallbackStore) (other : String) :
    (run (completeReturn env now query reference) s).2.workspace.ebirr.byReference other =
      s.workspace.ebirr.byReference other := by
  by_cases hactivation : IsPosWorkspaceActivationReference (some reference)
  · rw [snd_run_completeReturn_of_completes (completeWorkspacePayment_of_activation hactivation)]
    exact congrArg (EbirrStore.byReference · other)
      (ActivationRun.ebirr_complete env.workspace s.workspace now reference none)
  · by_cases hbranch : IsBranchCreationPaymentReference (some reference)
    · rw [snd_run_completeReturn_of_completes (completeWorkspacePayment_of_branch hactivation hbranch)]
      exact congrArg (EbirrStore.byReference · other)
        (ebirr_completeBranchCreation env.workspace now reference s.workspace)
    · rcases workspace_completeReturn_of_order env now query hactivation hbranch s with
        hworkspace | hworkspace
      · rw [hworkspace]
      · rw [hworkspace]
        rfl

theorem locked_completeReturn (env : EbirrCallbackRuntime) (now : ℤ)
    (hquery : queryReference query = some (.text reference))
    (hactivation : IsPosWorkspaceActivationReference (some reference) → s.workspace.grantedTo reference now = none)
    (hbranch : IsBranchCreationPaymentReference (some reference) →
      ∀ parsed ∈ parseBranchCreationReference reference, s.workspace.awaiting parsed.1 = none)
    (horder : ¬ IsPosWorkspaceActivationReference (some reference) →
      ¬ IsBranchCreationPaymentReference (some reference) → ¬ CallbackRun.CompletesOrder env s query reference) :
    s.Locked (run (completeReturn env now query reference) s).2 := by
  by_cases hact : IsPosWorkspaceActivationReference (some reference)
  · rw [snd_run_completeReturn_of_completes (completeWorkspacePayment_of_activation hact),
      run_completeActivation_of_none (hactivation hact)]
    exact Locked.refl s
  · by_cases hbr : IsBranchCreationPaymentReference (some reference)
    · rw [snd_run_completeReturn_of_completes (completeWorkspacePayment_of_branch hact hbr)]
      rcases completeBranchCreation_cases env.workspace now reference s.workspace with
        hsame | ⟨tenantId, userId, id, row, pending, code, hparse, hawaiting, -⟩
      · rw [hsame]
        exact Locked.refl s
      · rw [hbranch hbr (tenantId, userId) hparse] at hawaiting
        cases hawaiting
    · rcases workspace_completeReturn_of_order env now query hact hbr s with
        hworkspace | hworkspace
      · exact Locked.of_same (congrArg (·.subscriptions) hworkspace) (congrArg (·.branches) hworkspace)
          (congrArg (·.ebirr.order.orders) hworkspace)
      · rw [orders_verifyAndComplete hquery (horder hact hbr)] at hworkspace
        exact Locked.of_same (congrArg (·.subscriptions) hworkspace) (congrArg (·.branches) hworkspace)
          (congrArg (·.ebirr.order.orders) hworkspace)

theorem snd_run_settleReturn_of_accepted {result : EbirrReturnResult} (haccepted : result.accepted = true)
    (hreference : result.referenceId = some reference) (s : EbirrCallbackStore) :
    (run (settleReturn env now query result) s).2 = (run (completeReturn env now query reference) s).2 := by
  unfold settleReturn
  rw [hreference, haccepted, Option.filter_some, if_pos rfl]
  rw [snd_run_bind_readOnly _ fun outcome => ?_, run_attempt]
  cases outcome <;> exact readOnly_pure _

theorem run_settleReturn_of_refused {result : EbirrReturnResult} (h : result.accepted = false)
    (s : EbirrCallbackStore) : run (settleReturn env now query result) s = (.ok (refusedReturn result), s) := by
  have hnone : (result.referenceId.filter fun _ => result.accepted) = none := by
    rw [h]
    cases result.referenceId <;> rfl
  unfold settleReturn
  rw [hnone]
  rfl

/-- **The return** unlocks only what is confirmed, if a return that takes effect is. -/
theorem evidence_finish {o : CallbackRun} {trusted : Except HttpException Unit}
    (hmeets : o.Meets env (.finish now trusted query))
    (h : o.store.Unlocks (run (handleEbirrReturn env now trusted query) o.store).2) :
    ∃ reference, queryReference query = some (.text reference) ∧
      ((run (handleEbirrReturn env now trusted query) o.store).2.Confirmed reference ∨ reference ∈ o.approved) := by
  obtain ⟨s, approved⟩ := o
  cases trusted with
  | error failure => exact absurd h (Locked.refl s).not_unlocks
  | ok _ =>
    change s.Unlocks (run (inEbirr (verifyReturnCallback now query) >>= fun verifiedReturn =>
      settleReturn env now query verifiedReturn) s).2 at h
    show ∃ reference, _ ∧ ((run (inEbirr (verifyReturnCallback now query) >>= fun verifiedReturn =>
      settleReturn env now query verifiedReturn) s).2.Confirmed reference ∨ _)
    unfold inEbirr at h ⊢
    rw [run_bind, run_zoom] at h ⊢
    rcases verifyReturnCallback_cases now query s.workspace.ebirr with
      ⟨result, hrun, hrefused⟩ | ⟨reference, id, tx, orderId, hquery, htx, hmatch, hrun⟩
    · change run _ (ebirrLens.get s) = _ at hrun
      rw [hrun] at h
      dsimp only at h
      rw [run_settleReturn_of_refused hrefused] at h
      exact absurd h (Locked.refl s).not_unlocks
    · change run _ (ebirrLens.get s) = _ at hrun
      rw [hrun] at h ⊢
      rw [snd_run_settleReturn_of_accepted rfl rfl] at h ⊢
      refine ⟨reference, hquery, ?_⟩
      have hsaved : (s.workspace.ebirr.saveTransaction id { tx with updatedAt := now }).byReference reference =
          some (id, { tx with updatedAt := now }) :=
        first_set htx (find_of_first htx).2
      have hconfirmed : s.Confirmed reference →
          (run (completeReturn env now query reference) (ebirrLens.set s
            (s.workspace.ebirr.saveTransaction id { tx with updatedAt := now }))).2.Confirmed reference := by
        rintro ⟨found, hfound, hstatus⟩
        obtain rfl : (id, tx) = found := Option.mem_unique htx hfound
        refine ⟨(id, { tx with updatedAt := now }), ?_, hstatus⟩
        rw [byReference_completeReturn]
        exact hsaved
      by_contra hnot
      rw [not_or] at hnot
      have hidle : ¬ CallbackRun.TakesEffect env s now query reference := fun htakes =>
        (hmeets rfl reference hquery htakes).elim (fun hc => hnot.1 (hconfirmed hc)) hnot.2
      have haccepts : CallbackRun.AcceptsReturn s reference := ⟨(id, tx), htx, hmatch⟩
      -- what the completion looks at is not changed by the saving of the transaction
      have hlocked := locked_completeReturn env now
        (s := ebirrLens.set s (s.workspace.ebirr.saveTransaction id { tx with updatedAt := now })) hquery
        (fun hact => Option.not_isSome_iff_eq_none.mp fun hsome => hidle ⟨haccepts, .inl ⟨hact, hsome⟩⟩)
        (fun hbr parsed hparsed => Option.not_isSome_iff_eq_none.mp fun hsome =>
          hidle ⟨haccepts, .inr (.inl ⟨hbr, parsed, hparsed, hsome⟩)⟩)
        fun hact hbr hcompletes => hidle ⟨haccepts, .inr (.inr ⟨hact, hbr, hcompletes⟩)⟩
      have hfirst : s.Locked (ebirrLens.set s
        (s.workspace.ebirr.saveTransaction id { tx with updatedAt := now })) := Locked.of_same rfl rfl rfl
      exact (hfirst.trans hlocked).not_unlocks h

end Return

/-! ### Runs -/

namespace CallbackRun

variable {env : EbirrCallbackRuntime}

theorem approves_of_unlocks {exchange : EbirrExchange} {s s' : EbirrCallbackStore}
    (hlocked : ¬ exchange.Approves → s.Locked s') (h : s.Unlocks s') : exchange.Approves := by
  by_contra hopen
  exact (hlocked hopen).not_unlocks h

theorem unlocksConfirmed (o : CallbackRun) (call : EbirrCallbackCall) (h : o.Meets env call) :
    o.UnlocksConfirmed env call := by
  intro hunlocks
  unfold step at hunlocks ⊢
  unfold EbirrCallbackCall.handler at hunlocks ⊢
  cases call with
  | startActivation now user params exchange =>
    rw [snd_run_bind_readOnly _ fun _ => readOnly_pure _] at hunlocks
    exact approves_of_unlocks (locked_startActivation now user params) hunlocks
  | startBranch now user dto exchange =>
    rw [snd_run_bind_readOnly _ fun _ => readOnly_pure _] at hunlocks
    exact approves_of_unlocks (locked_startBranch now user dto) hunlocks
  | startOrder orderId phoneNumber exchange =>
    rw [snd_run_bind_readOnly _ fun _ => readOnly_pure _] at hunlocks
    exact approves_of_unlocks (locked_startOrder orderId phoneNumber) hunlocks
  | webhook now authorized body => exact evidence_webhook now authorized body hunlocks
  | finish now trusted query =>
    rw [snd_run_bind_readOnly _ fun _ => readOnly_pure _] at hunlocks ⊢
    exact evidence_finish h hunlocks

/-- **What is unlocked is confirmed** in the runs in which every return that takes effect finds its transaction
confirmed. -/
theorem unlocked_confirmed (env : EbirrCallbackRuntime) (o : CallbackRun) {calls : List EbirrCallbackCall}
    (h : Run.Along (step env) (Meets env) o calls) : Run.Along (step env) (UnlocksConfirmed env) o calls :=
  Run.along_mono (fun o call hcall => unlocksConfirmed o call hcall) h

/-! ### A reference is enough -/

/-- Nothing that is asked of the outside matters here. -/
def callbackRuntime : EbirrCallbackRuntime where
  workspace := BranchRun.workspaceRuntime
  promotions := paymentsRuntime
  allowUnverifiedReturn := false

def expiredWorkspace : CallbackRun where
  store := { workspace := ActivationRun.expiredShop, products := ∅, telebirrTransactions := .empty }

/-- The owner starts to pay for a month; Ebirr waits for the confirmation of the payer. -/
def startForMonth : EbirrCallbackCall :=
  .startActivation 100 ⟨1, none⟩ { branchId := 1, phoneNumber := "251911000000", subscriptionPeriod := some "MONTHLY" }
    ⟨.data { errorCode := some "0" }, 10, 20⟩

/-- A return with the reference, which the response to the start has shown. -/
def openReturn : EbirrCallbackCall := .finish 300 (.ok ()) [("referenceId", .text "POSACT-1-100")]

/-- The return activates the subscription without a payment. -/
theorem activated_without_payment :
    ¬ Run.Along (step callbackRuntime) (UnlocksConfirmed callbackRuntime) expiredWorkspace
      [startForMonth, openReturn] := by
  rintro ⟨-, hreturn, -⟩
  have hactive : ∃ row, ((expiredWorkspace.step callbackRuntime startForMonth).step callbackRuntime
      openReturn).store.workspace.subscriptions.find 1 = some row ∧ row.status = .active := by
    refine ⟨_, Option.eq_some_of_isSome (by decide), by decide⟩
  have hwas : ((expiredWorkspace.step callbackRuntime startForMonth).store.workspace.subscriptions.find 1).all
      (·.status ≠ .active) = true := by decide
  have hunlocks : (expiredWorkspace.step callbackRuntime startForMonth).store.Unlocks
      ((expiredWorkspace.step callbackRuntime startForMonth).step callbackRuntime openReturn).store := by
    obtain ⟨row, hrow, hstatus⟩ := hactive
    refine .inl fun hnone => ?_
    obtain ⟨old, hold, hold'⟩ := hnone 1 row hrow hstatus
    rw [hold] at hwas
    exact of_decide_eq_true hwas hold'
  obtain ⟨reference, hquery, hevidence⟩ := hreturn hunlocks
  obtain rfl : "POSACT-1-100" = reference := by
    cases hquery
    rfl
  revert hevidence
  decide

/-- Ebirr reports the payment before the payer returns. -/
def confirmedReturn : List EbirrCallbackCall :=
  [startForMonth, .webhook 200 (.ok ()) { referenceId := some "POSACT-1-100", status := some "APPROVED" }, openReturn]

theorem unlocked_confirmed_of_webhook :
    Run.Along (step callbackRuntime) (Meets callbackRuntime) expiredWorkspace confirmedReturn ∧
      Run.Along (step callbackRuntime) (UnlocksConfirmed callbackRuntime) expiredWorkspace confirmedReturn := by
  have hmeets : Run.Along (step callbackRuntime) (Meets callbackRuntime) expiredWorkspace confirmedReturn := by
    refine ⟨trivial, trivial, fun _ reference hquery _ => Or.inl ?_, trivial⟩
    obtain rfl : "POSACT-1-100" = reference := by
      cases hquery
      rfl
    decide
  exact ⟨hmeets, unlocked_confirmed callbackRuntime expiredWorkspace hmeets⟩

end CallbackRun

end SuuqBackend
