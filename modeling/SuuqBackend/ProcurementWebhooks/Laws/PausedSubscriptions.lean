import SuuqBackend.ProcurementWebhooks.Laws.DeliveryAttempts

/-!
# Paused subscriptions

Deliveries run beside each other and beside the administrators of the subscriptions.  An attempt saves the subscription
as it was loaded before the request, with the status that it had then; `savesNext` is that status when the save comes
next, by what the handler has seen.

* `keepsPaused_step_iff`: one step of a schedule.
* `paused_stays_paused_iff`: the schedules in which only a resumption ends a pause.
-/

namespace SuuqBackend

open Proc ProcurementWebhooks

def WebhookStore.statusOf (s : WebhookStore) (id : ℕ) : Option ProcurementWebhookSubscriptionStatus :=
  (s.subscriptions.find id).map (·.status)

/-- The subscriptions that are paused in the first state are in the second one, but for the one that is resumed. -/
def KeepsPaused (resumed : Option ℕ) (s s' : WebhookStore) : Prop :=
  ∀ id, resumed ≠ some id → s.statusOf id = some .paused → s'.statusOf id = some .paused

/-! ### The handlers -/

abbrev SavedStatus : Type := ℕ × ProcurementWebhookSubscriptionStatus

def DeliveryAttempt.savesNext (a : DeliveryAttempt) : List WebhookStore → Option SavedStatus
  | [_, _] => some (a.delivery.subscriptionId, a.subscription.status)
  | _ => none

def afterLoad {α : Type} (load : WebhookProc α) (rest : α → List WebhookStore → Option SavedStatus) :
    List WebhookStore → Option SavedStatus :=
  viewBind load (fun _ => none) rest

section Handlers

variable (env : WebhookRuntime)

/-- What `deliverToSubscription` saves next. -/
def deliverySavesNext (subscriptionId : ℕ) (subscription : ProcurementWebhookSubscription)
    (input : DispatchProcurementWebhookInput) (replayedFrom : Option ℕ) : List WebhookStore → Option SavedStatus :=
  afterLoad (insertDelivery subscriptionId subscription input replayedFrom) DeliveryAttempt.savesNext

/-- One of the deliveries of `dispatchProcurementEvent`, with its load of the subscription. -/
def deliverMatching (subscriptionId : ℕ) (input : DispatchProcurementWebhookInput) : WebhookProc Unit := do
  let found ← Proc.read fun s : WebhookStore => (s.subscriptions.find subscriptionId).filter fun subscription =>
    subscription.status = .active ∧ Matches input subscription
  match found with
  | none => pure ()
  | some subscription => do
    let _ ← deliverToSubscription env subscriptionId subscription input none
    return ()

/-- One round of `replayEach`. -/
def replayOne (times : ℕ → ℤ) : LoadedDelivery → WebhookProc Unit
  | (_, _, none) => pure ()
  | (id, delivery, some subscription) => do
    let _ ← deliverToSubscription env delivery.subscriptionId subscription
      (replayInput "bulk-replay" (times id) delivery) (some id)
    return ()

def retrySavesNext : List LoadedDelivery → List WebhookStore → Option SavedStatus
  | [] => fun _ => none
  | (deliveryId, delivery, found) :: rows =>
    match found.filter fun subscription => subscription.status = .active with
    | none => retrySavesNext rows
    | some subscription =>
      viewBind (retryExistingDelivery env deliveryId delivery subscription)
        (DeliveryAttempt.savesNext ⟨deliveryId, delivery, subscription, max delivery.attemptCount 1 + 1⟩)
        fun _ => retrySavesNext rows

def replaySavesNext (times : ℕ → ℤ) : LoadedDelivery → List WebhookStore → Option SavedStatus
  | (_, _, none) => fun _ => none
  | (id, delivery, some subscription) =>
    deliverySavesNext delivery.subscriptionId subscription (replayInput "bulk-replay" (times id) delivery) (some id)

end Handlers

/-- A handler: one of the deliveries of an event, a batch of retries, a replay, a batch of replays, or a change of the
status by an administrator. -/
inductive WebhookHandler where
  | deliver (subscriptionId : ℕ) (input : DispatchProcurementWebhookInput)
  | retryFailedDeliveries (now limit : ℤ)
  | replayDelivery (now : ℤ) (id : ℕ)
  | replayTerminalFailures (now : ℤ) (times : ℕ → ℤ) (dto : ReplayTerminalFailuresDto)
  | updateSubscriptionStatus (now : ℤ) (actorId : Option ℕ) (id : ℕ) (dto : UpdateSubscriptionStatusDto)

namespace WebhookHandler

variable (env : WebhookRuntime)

def proc : WebhookHandler → WebhookProc Unit
  | .deliver subscriptionId input => deliverMatching env subscriptionId input
  | .retryFailedDeliveries now limit => do
    let _ ← ProcurementWebhooks.retryFailedDeliveries env now limit
    return ()
  | .replayDelivery now id => do
    let _ ← ProcurementWebhooks.replayDelivery env now id
    return ()
  | .replayTerminalFailures now times dto => ProcurementWebhooks.replayTerminalFailures env now times dto
  | .updateSubscriptionStatus now actorId id dto => ProcurementWebhooks.updateSubscriptionStatus now actorId id dto

def resumes : WebhookHandler → Option ℕ
  | .updateSubscriptionStatus _ _ id dto => if dto.status = .active then some id else none
  | _ => none

def savesNext : WebhookHandler → List WebhookStore → Option SavedStatus
  | .deliver subscriptionId input =>
    afterLoad (Proc.read fun s : WebhookStore => (s.subscriptions.find subscriptionId).filter fun subscription =>
      subscription.status = .active ∧ Matches input subscription) fun
        | none => fun _ => none
        | some subscription => deliverySavesNext subscriptionId subscription input none
  | .retryFailedDeliveries now limit => afterLoad (Proc.read (dueDeliveries now limit)) (retrySavesNext env)
  | .replayDelivery now id =>
    afterLoad (Proc.read fun s : WebhookStore =>
      (s.deliveries.find id).map fun delivery => (delivery, s.subscriptions.find delivery.subscriptionId)) fun
        | some (delivery, some subscription) =>
          deliverySavesNext delivery.subscriptionId subscription (replayInput "replay" now delivery) (some id)
        | _ => fun _ => none
  | .replayTerminalFailures now times dto =>
    afterLoad (getReplayTerminalFailureCandidates env dto) fun candidates =>
      afterLoad (assertReplayTerminalFailureExecutionAllowed env now dto candidates.replaySignature
        candidates.totalMatchedTerminalFailureCount) fun _ =>
          Proc.viewEach (replayOne env times) (replaySavesNext times) none candidates.pagedDeliveries
  | .updateSubscriptionStatus _ _ _ _ => fun _ => none

end WebhookHandler

/-! ### What the steps of a handler do -/

/-- The action stores the status that was loaded, or keeps the paused subscriptions paused. -/
def SavesStatus (resumed : Option ℕ) (saved : Option SavedStatus) (act : WebhookStore → WebhookStore) : Prop :=
  ∀ s, match saved with
    | none => KeepsPaused resumed s (act s)
    | some (id, status) => resumed = none ∧ (act s).statusOf id = (s.statusOf id).map (fun _ => status) ∧
        ∀ id' ≠ id, (act s).statusOf id' = s.statusOf id'

theorem KeepsPaused.refl (resumed : Option ℕ) (s : WebhookStore) : KeepsPaused resumed s s := fun _ _ h => h

theorem savesStatus_none_id {resumed : Option ℕ} : SavesStatus resumed none id := fun s => .refl resumed s

section Status

variable {s : WebhookStore} {id : ℕ} {subscription : ProcurementWebhookSubscription}

theorem statusOf_saveSubscription_self :
    (s.saveSubscription id subscription).statusOf id = (s.statusOf id).map fun _ => subscription.status := by
  unfold WebhookStore.statusOf WebhookStore.saveSubscription
  cases hfind : s.subscriptions.find id with
  | none => rw [SerialTable.find_set_of_eq_none hfind]; rfl
  | some found => rw [SerialTable.find_set_self hfind]; rfl

theorem statusOf_saveSubscription_of_ne {id' : ℕ} (h : id' ≠ id) :
    (s.saveSubscription id subscription).statusOf id' = s.statusOf id' := by
  unfold WebhookStore.statusOf WebhookStore.saveSubscription
  rw [SerialTable.find_set_of_ne s.subscriptions subscription h]

theorem keepsPaused_saveSubscription {resumed : Option ℕ} (h : resumed ≠ some id → subscription.status = .paused) :
    KeepsPaused resumed s (s.saveSubscription id subscription) := by
  intro id' hnot hpaused
  by_cases hid : id' = id
  · subst hid
    rw [statusOf_saveSubscription_self, hpaused, h hnot]
    rfl
  · rw [statusOf_saveSubscription_of_ne hid, hpaused]

end Status

section ActsBy

variable {env : WebhookRuntime}

theorem actsBy_afterLoad {α β : Type} {load : WebhookProc α} (hload : load.OnlyReads)
    {rest : α → List WebhookStore → Option SavedStatus} {f : α → WebhookProc β}
    (hrest : ∀ a, ActsBy (SavesStatus none) (rest a) (f a)) :
    ActsBy (SavesStatus none) (afterLoad load rest) (load >>= f) := by
  have hkeeps : load.Acts (KeepsPaused none) := hload.mono fun s s' heq => heq ▸ .refl none s
  exact ActsBy.bind (Acts.actsBy (fun act hact => hact) (.refl none) hkeeps) hrest

theorem acts_afterAttempt (saved : ProcurementWebhookDelivery) (subscription : ProcurementWebhookSubscription) :
    (afterAttempt saved subscription).Acts (KeepsPaused none) := by
  unfold afterAttempt
  split
  · refine Acts.ite (acts_pure _) (Acts.bind (acts_read (.refl none) _) fun count => ?_)
    refine Acts.ite (acts_pure _) (acts_write fun s => ?_)
    exact keepsPaused_saveSubscription fun _ => rfl
  · exact acts_pure _

/-- **One attempt**: the request, the delivery, the subscription with the status that was loaded. -/
theorem actsBy_executeDeliveryAttempt (a : DeliveryAttempt) :
    ActsBy (SavesStatus none) a.savesNext (executeDeliveryAttempt env a) := by
  refine actsBy_step (fun s => .refl none _) fun s => ?_
  refine actsBy_step (fun s => .refl none _) fun _ => ?_
  refine actsBy_step (fun t => ?_) fun _ => ?_
  · have hstatus : (delivered (attempted env a (env.exchange s.posts.length)) a.subscription).status =
        a.subscription.status := rfl
    have hid : (attempted env a (env.exchange s.posts.length)).subscriptionId = a.delivery.subscriptionId := by
      simp
    refine ⟨rfl, ?_, fun id hne => ?_⟩
    · rw [← hid, statusOf_saveSubscription_self, hstatus]
    · exact statusOf_saveSubscription_of_ne (hid ▸ hne)
  · refine ActsBy.bind_return ?_ _
    exact Acts.actsBy (fun act hact => hact) (.refl none) (acts_afterAttempt _ _)

theorem actsBy_deliverToSubscription (subscriptionId : ℕ) (subscription : ProcurementWebhookSubscription)
    (input : DispatchProcurementWebhookInput) (replayedFrom : Option ℕ) :
    ActsBy (SavesStatus none) (deliverySavesNext subscriptionId subscription input replayedFrom)
      (deliverToSubscription env subscriptionId subscription input replayedFrom) := by
  refine ActsBy.bind ?_ fun a => actsBy_executeDeliveryAttempt a
  unfold insertDelivery
  split_ifs
  · exact actsBy_throw (fun _ => savesStatus_none_id) _
  · exact actsBy_step (fun s => .refl none _) fun _ => actsBy_pure (fun _ => savesStatus_none_id) _

theorem actsBy_retryEach (rows : List LoadedDelivery) (succeeded failed : ℕ) :
    ActsBy (SavesStatus none) (retrySavesNext env rows) (retryEach env rows succeeded failed) := by
  induction rows generalizing succeeded failed with
  | nil => exact actsBy_pure (fun _ => savesStatus_none_id) _
  | cons row rows ih =>
    obtain ⟨id, delivery, found⟩ := row
    unfold retryEach retrySavesNext
    cases found.filter fun subscription => subscription.status = .active with
    | none => exact ih succeeded failed
    | some subscription =>
      refine ActsBy.bind (actsBy_executeDeliveryAttempt _) fun retried => ?_
      split_ifs
      · exact ih (succeeded + 1) failed
      · exact ih succeeded (failed + 1)

theorem actsBy_replayOne (times : ℕ → ℤ) (row : LoadedDelivery) :
    ActsBy (SavesStatus none) (replaySavesNext times row) (replayOne env times row) := by
  obtain ⟨id, delivery, found⟩ := row
  cases found with
  | none => exact actsBy_pure (fun _ => savesStatus_none_id) _
  | some subscription => exact (actsBy_deliverToSubscription _ _ _ _).bind_return _

theorem replayEach_eq (times : ℕ → ℤ) (rows : List LoadedDelivery) :
    replayEach env times rows = Proc.forEach rows (replayOne env times) := by
  refine congrArg (Proc.forEach rows) (funext fun row => ?_)
  obtain ⟨id, delivery, found⟩ := row
  cases found <;> rfl

theorem onlyReads_checkResume (now : ℤ) (id : ℕ) (dto : UpdateSubscriptionStatusDto)
    (subscription : ProcurementWebhookSubscription) : OnlyReads (checkResume now id dto subscription) := by
  unfold checkResume
  split_ifs
  · exact (onlyReads_read _).bind fun _ => onlyReads_throwIf _ _
  · exact onlyReads_pure _

theorem acts_updateSubscriptionStatus (now : ℤ) (actorId : Option ℕ) (id : ℕ) (dto : UpdateSubscriptionStatusDto) :
    (updateSubscriptionStatus now actorId id dto).Acts
      (KeepsPaused (WebhookHandler.updateSubscriptionStatus now actorId id dto).resumes) := by
  set resumed := (WebhookHandler.updateSubscriptionStatus now actorId id dto).resumes with hresumed
  refine Acts.bind (acts_read (KeepsPaused.refl resumed) _) fun found => ?_
  cases found with
  | none => exact acts_throw _
  | some subscription =>
    have hcheck : (checkResume now id dto subscription).Acts (KeepsPaused resumed) :=
      (onlyReads_checkResume now id dto subscription).mono fun s s' heq => heq ▸ .refl resumed s
    refine hcheck.bind fun _ => acts_write fun s => keepsPaused_saveSubscription fun hnot => ?_
    cases hstatus : dto.status with
    | active => exact absurd (hresumed.trans (if_pos hstatus)) hnot
    | paused => rfl

theorem actsBy_proc (c : WebhookHandler) : ActsBy (SavesStatus c.resumes) (c.savesNext env) (c.proc env) := by
  cases c with
  | deliver subscriptionId input =>
    refine actsBy_afterLoad (onlyReads_read _) fun found => ?_
    cases found with
    | none => exact actsBy_pure (fun _ => savesStatus_none_id) _
    | some subscription => exact (actsBy_deliverToSubscription _ _ _ _).bind_return _
  | retryFailedDeliveries now limit =>
    refine ActsBy.bind_return (actsBy_afterLoad (onlyReads_read _) fun deliveries => ?_) _
    exact (actsBy_retryEach deliveries 0 0).bind_return _
  | replayDelivery now id =>
    refine ActsBy.bind_return (actsBy_afterLoad (onlyReads_read _) fun found => ?_) _
    rcases found with _ | ⟨delivery, _ | subscription⟩
    · exact actsBy_throw (fun _ => savesStatus_none_id) _
    · exact actsBy_throw (fun _ => savesStatus_none_id) _
    · exact actsBy_deliverToSubscription _ _ _ _
  | replayTerminalFailures now times dto =>
    refine actsBy_afterLoad (onlyReads_getReplayTerminalFailureCandidates dto) fun candidates => ?_
    refine actsBy_afterLoad (onlyReads_assertReplayTerminalFailureExecutionAllowed _ _ _ _) fun _ => ?_
    rw [replayEach_eq]
    exact actsBy_forEach savesStatus_none_id (actsBy_replayOne times) _
  | updateSubscriptionStatus now actorId id dto =>
    have hupdates := acts_updateSubscriptionStatus now actorId id dto
    exact Acts.actsBy (fun act hact => hact) (KeepsPaused.refl _) hupdates

end ActsBy

/-- What was loaded as active is stored while the subscription is paused. -/
def EndsPause (saved : Option SavedStatus) (s : WebhookStore) : Prop :=
  ∃ status ∈ saved, status.2 = .active ∧ s.statusOf status.1 = some .paused

instance (saved : Option SavedStatus) (s : WebhookStore) : Decidable (EndsPause saved s) :=
  match saved with
  | none => .isFalse fun ⟨_, hmem, _⟩ => by cases hmem
  | some status => decidable_of_iff (status.2 = .active ∧ s.statusOf status.1 = some .paused)
      ⟨fun h => ⟨status, rfl, h⟩, fun ⟨_, hmem, h⟩ => Option.some.inj hmem ▸ h⟩

theorem keepsPaused_iff_of_savesStatus {resumed : Option ℕ} {saved : Option SavedStatus}
    {act : WebhookStore → WebhookStore} (h : SavesStatus resumed saved act) (s : WebhookStore) :
    KeepsPaused resumed s (act s) ↔ ¬ EndsPause saved s := by
  cases saved with
  | none =>
    refine iff_of_true (h s) ?_
    rintro ⟨status, hmem, -⟩
    cases hmem
  | some saved =>
    obtain ⟨id, status⟩ := saved
    obtain ⟨rfl, hself, hothers⟩ := h s
    constructor
    · rintro hkeeps ⟨loaded, hmem, hactive, hpaused⟩
      obtain rfl := Option.some.inj hmem
      have hactive : status = .active := hactive
      have hstill := hkeeps id nofun hpaused
      rw [hself, hpaused, hactive] at hstill
      cases hstill
    · intro hnot id' _ hpaused
      by_cases hid : id' = id
      · subst hid
        rw [hself, hpaused]
        cases status with
        | active => exact absurd ⟨_, rfl, rfl, hpaused⟩ hnot
        | paused => rfl
      · rw [hothers id' hid, hpaused]

section Pool

variable {ι : Type} [DecidableEq ι] (env : WebhookRuntime) (handlers : ι → WebhookHandler)

theorem keepsPaused_step_iff (P : Pool ι WebhookStore) (i : ι) :
    KeepsPaused (handlers i).resumes P.store (P.step (fun j => (handlers j).proc env) i).store ↔
      ¬ EndsPause ((handlers i).savesNext env (P.seen i)) P.store := by
  rw [Pool.store_step]
  exact keepsPaused_iff_of_savesStatus (actsBy_proc (handlers i) (P.seen i)) P.store

/-- **When a paused subscription stays paused** until it is resumed: exactly in the schedules in which no delivery saves
a subscription that it has loaded as active while the subscription is stored as paused. -/
theorem paused_stays_paused_iff (s : WebhookStore) (schedule : List ι) :
    let pool n := Run.after (Pool.step fun j => (handlers j).proc env) (.init s) (schedule.take n)
    (∀ n i, schedule[n]? = some i → KeepsPaused (handlers i).resumes (pool n).store
        ((pool n).step (fun j => (handlers j).proc env) i).store) ↔
      Run.Along (Pool.step fun j => (handlers j).proc env)
        (fun P i => ¬ EndsPause ((handlers i).savesNext env (P.seen i)) P.store) (.init s) schedule := by
  intro pool
  rw [← Run.forall_getElem?_iff]
  exact forall_congr' fun n => forall_congr' fun i => imp_congr_right fun _ =>
    keepsPaused_step_iff env handlers (pool n) i

end Pool

def oneSubscription : WebhookStore where
  subscriptions := SerialTable.empty.add
    { name := "Stock", endpointUrl := "https://shop.example/hook", signingSecret := "secret"
      eventTypes := [.purchaseOrderUpdated] }
  deliveries := .empty
  posts := []

def answeringRuntime : WebhookRuntime where
  hmac secret text := secret ++ text
  isoText time := toString time
  parseCursor _ := none
  parseConfirmation _ := none
  exchange n := ⟨n, n, .answered 200 (some "ok"), n, n, n⟩

/-- A delivery to the subscription, and an administrator who pauses it. -/
def deliveryAndPause : Bool → WebhookHandler
  | true => .deliver 1 { eventType := .purchaseOrderUpdated, eventKey := "order-7", payload := "[]" }
  | false => .updateSubscriptionStatus 0 (some 9) 1 { status := .paused }

/-- The subscription is paused while the request is under way; the delivery then saves it as it was loaded. -/
theorem not_paused_after_delivery :
    let pool n := Run.after (Pool.step fun j => (deliveryAndPause j).proc answeringRuntime) (.init oneSubscription)
      ([true, true, true, false, false, true, true].take n)
    ¬ ∀ n i, [true, true, true, false, false, true, true][n]? = some i →
      KeepsPaused (deliveryAndPause i).resumes (pool n).store
        ((pool n).step (fun j => (deliveryAndPause j).proc answeringRuntime) i).store := by
  intro pool h
  have hpaused : (pool 6).store.statusOf 1 = some .paused := by decide
  have hstill := h 6 true rfl 1 nofun hpaused
  cases hstill

end SuuqBackend
