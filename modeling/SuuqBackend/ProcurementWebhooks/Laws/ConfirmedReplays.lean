import Mathlib.Logic.Equiv.List
import SuuqBackend.ProcurementWebhooks.Laws.ReplayPreviews

/-!
# What a confirmation binds

A token does not name the deliveries of its page, but their number.  A delivery that has failed for good stays so
(`KeepsEnded`), so as long as there are as many of them they are the same ones (`matchedRows_eq_of_length`), and the
page is the same page.

* `run_replayEach`: the deliveries that a replay makes.
* `replaysPage_of_accepts`: a confirmed replay is one of the page that its token was issued for.
* `replays_bound_to_previews`: what the previews cover and bind, in every run.
-/

namespace SuuqBackend

open Proc ProcurementWebhooks SerialTable

namespace ProcurementWebhooks

/-! ### What a replay makes -/

structure IsReplayOf (row : DeliveryRow) (delivery : ProcurementWebhookDelivery) : Prop where
  replayedFrom : delivery.replayedFromDeliveryId = some row.1
  subscriptionId : delivery.subscriptionId = row.2.subscriptionId
  eventType : delivery.eventType = row.2.eventType
  requestBody : delivery.requestBody = row.2.requestBody

structure SameEvent (delivery delivery' : ProcurementWebhookDelivery) : Prop where
  replayedFrom : delivery'.replayedFromDeliveryId = delivery.replayedFromDeliveryId
  eventType : delivery'.eventType = delivery.eventType
  requestBody : delivery'.requestBody = delivery.requestBody

variable (exchange : HttpExchange) (env : WebhookRuntime)

theorem sameEvent_answered (delivery : ProcurementWebhookDelivery) :
    SameEvent delivery (answered exchange delivery) := by
  unfold answered
  split <;> exact ⟨rfl, rfl, rfl⟩

theorem sameEvent_scheduled (attemptCount : ℕ) (delivery : ProcurementWebhookDelivery) :
    SameEvent delivery (scheduled exchange attemptCount delivery) := by
  unfold scheduled
  split_ifs
  · split <;> exact ⟨rfl, rfl, rfl⟩
  · exact ⟨rfl, rfl, rfl⟩

theorem sameEvent_attempted (a : DeliveryAttempt) (exchange : HttpExchange) :
    SameEvent a.delivery (attempted env a exchange) := by
  set begun : ProcurementWebhookDelivery := { a.delivery with
    requestUrl := a.subscription.endpointUrl
    requestHeaders := headersOf env a exchange
    attemptCount := a.attemptCount
    nextRetryAt := none
    finalFailureAt := none }
  have hanswered := sameEvent_answered exchange begun
  have hscheduled := sameEvent_scheduled exchange a.attemptCount
    { answered exchange begun with
      durationMs := some (exchange.endedAt - exchange.startedAt)
      deliveredAt := some exchange.deliveredAt }
  exact ⟨hscheduled.replayedFrom.trans hanswered.replayedFrom, hscheduled.eventType.trans hanswered.eventType,
    hscheduled.requestBody.trans hanswered.requestBody⟩

/-- The deliveries that are in the second store and not in the first one are replays of the rows, in their order. -/
structure Replays (rows : List DeliveryRow) (s s' : WebhookStore) : Prop where
  kept : ∀ id < s.deliveries.next, s'.deliveries.find id = s.deliveries.find id
  next_le : s.deliveries.next ≤ s'.deliveries.next
  replay : ∀ i, s.deliveries.next + i < s'.deliveries.next → ∃ row delivery, rows[i]? = some row ∧
    s'.deliveries.find (s.deliveries.next + i) = some delivery ∧ IsReplayOf row delivery

theorem Replays.refl (rows : List DeliveryRow) (s : WebhookStore) : Replays rows s s :=
  ⟨fun _ _ => rfl, le_rfl, fun i hi => absurd hi (by omega)⟩

theorem Replays.cons {row : DeliveryRow} {rows : List DeliveryRow} {s s₁ s₂ : WebhookStore}
    {delivery : ProcurementWebhookDelivery} (hadd : s₁.deliveries = s.deliveries.add delivery)
    (hreplay : IsReplayOf row delivery) (hrest : Replays rows s₁ s₂) : Replays (row :: rows) s s₂ := by
  have hnext : s₁.deliveries.next = s.deliveries.next + 1 := by
    rw [hadd]
    rfl
  refine ⟨fun id hid => ?_, by have := hrest.next_le; omega, fun i hi => ?_⟩
  · rw [hrest.kept id (by omega), hadd, find_add_of_ne _ _ (by omega)]
  · cases i with
    | zero =>
      refine ⟨row, delivery, rfl, ?_, hreplay⟩
      rw [Nat.add_zero, hrest.kept _ (by omega), hadd, find_add_self]
    | succ i =>
      have hi' : s₁.deliveries.next + i < s₂.deliveries.next := by omega
      obtain ⟨row', delivery', hrow, hfind, hreplay'⟩ := hrest.replay i hi'
      refine ⟨row', delivery', hrow, ?_, hreplay'⟩
      rw [← hfind]
      congr 1
      omega

theorem run_replayEach (times : ℕ → ℤ) {rows : List LoadedDelivery}
    (hrows : ∀ row ∈ rows, row.2.2.isSome) (s : WebhookStore) :
    Replays (rows.map fun row => (row.1, row.2.1)) s (run (replayEach env times rows) s).2 ∧
      ((run (replayEach env times rows) s).1 = .ok () →
        (run (replayEach env times rows) s).2.deliveries.next = s.deliveries.next + rows.length) := by
  induction rows generalizing s with
  | nil => exact ⟨.refl [] s, fun _ => rfl⟩
  | cons row rows ih =>
    obtain ⟨id, delivery, found⟩ := row
    obtain ⟨subscription, rfl⟩ := Option.isSome_iff_exists.mp (hrows _ List.mem_cons_self)
    have hrest := fun s => ih (fun row hrow => hrows row (List.mem_cons_of_mem _ hrow)) s
    set input := replayInput "bulk-replay" (times id) delivery with hinput
    have hloop : replayEach env times ((id, delivery, some subscription) :: rows) = (do
        let _ ← deliverToSubscription env delivery.subscriptionId subscription input (some id)
        replayEach env times rows) := by
      unfold replayEach
      rw [forEach_cons]
      rw [bind_assoc]
      rfl
    rw [hloop]
    rcases run_deliverToSubscription delivery.subscriptionId subscription input (some id) s with ⟨e, hrun⟩ |
      ⟨subscriptions, a, -, hdelivery, -, -, hrun⟩
    · rw [run_bind_of_error hrun]
      refine ⟨.refl _ s, fun h => ?_⟩
      cases h
    · rw [run_bind_of_ok hrun]
      set s₁ : WebhookStore := ⟨subscriptions, s.deliveries.add (attempted env a (env.exchange s.posts.length)),
        s.posts ++ [(s.deliveries.next, env.exchange s.posts.length)]⟩
      obtain ⟨hreplays, hall⟩ := hrest s₁
      have hevent := sameEvent_attempted env a (env.exchange s.posts.length)
      refine ⟨.cons rfl ⟨?_, ?_, ?_, ?_⟩ hreplays, fun h => ?_⟩
      · rw [hevent.replayedFrom, hdelivery]
        rfl
      · rw [subscriptionId_attempted, hdelivery]
        rfl
      · rw [hevent.eventType, hdelivery]
        rfl
      · rw [hevent.requestBody, hdelivery]
        rfl
      · rw [hall h, List.length_cons]
        show s.deliveries.next + 1 + rows.length = _
        omega

/-! ### The subscriptions of the deliveries -/

end ProcurementWebhooks

/-- The subscription of every delivery is there. -/
def WebhookStore.Linked (s : WebhookStore) : Prop :=
  ∀ id delivery, s.deliveries.find id = some delivery → (s.subscriptions.find delivery.subscriptionId).isSome

/-- The same subscriptions are there, and so are those of the deliveries. -/
structure KeepsLinks (s s' : WebhookStore) : Prop where
  same : SameSubscriptions s.subscriptions s'.subscriptions
  linked : s.Linked → s'.Linked

theorem KeepsLinks.refl (s : WebhookStore) : KeepsLinks s s := ⟨.refl _, id⟩

theorem KeepsLinks.trans {s₁ s₂ s₃ : WebhookStore} (h : KeepsLinks s₁ s₂) (h' : KeepsLinks s₂ s₃) :
    KeepsLinks s₁ s₃ := ⟨h.same.trans h'.same, fun hlinked => h'.linked (h.linked hlinked)⟩

namespace ProcurementWebhooks

section Links

variable {env : WebhookRuntime} {s : WebhookStore}

theorem links_deliverToSubscription {subscriptionId : ℕ} (hfound : (s.subscriptions.find subscriptionId).isSome)
    (subscription : ProcurementWebhookSubscription) (input : DispatchProcurementWebhookInput)
    (replayedFrom : Option ℕ) :
    KeepsLinks s (run (deliverToSubscription env subscriptionId subscription input replayedFrom) s).2 := by
  rcases @run_deliverToSubscription env subscriptionId subscription input replayedFrom s with ⟨e, hrun⟩ |
    ⟨subscriptions, a, -, hdelivery, -, hsame, hrun⟩
  · rw [hrun]
    exact .refl s
  · rw [hrun]
    refine ⟨hsame, fun hlinked => ?_⟩
    refine forall_find_add (fun id delivery hfind => ?_) ?_
    · rw [hsame]
      exact hlinked id delivery hfind
    · rw [hsame, subscriptionId_attempted, hdelivery]
      exact hfound

theorem links_executeDeliveryAttempt {a : DeliveryAttempt}
    (hfound : (s.subscriptions.find a.delivery.subscriptionId).isSome) :
    KeepsLinks s (run (executeDeliveryAttempt env a) s).2 := by
  obtain ⟨subscriptions, hsame, hrun⟩ := @run_executeDeliveryAttempt env a s
  rw [hrun]
  refine ⟨hsame, fun hlinked => ?_⟩
  refine forall_find_set (fun id delivery hfind => ?_) a.deliveryId ?_
  · rw [hsame]
    exact hlinked id delivery hfind
  · rw [hsame, subscriptionId_attempted]
    exact hfound

theorem links_forEach {β : Type} {body : β → WebhookProc Unit}
    {C : β → SerialTable ProcurementWebhookSubscription → Prop}
    (hsame : ∀ x t t', SameSubscriptions t t' → C x t → C x t')
    (hbody : ∀ x s, C x s.subscriptions → KeepsLinks s (run (body x) s).2) {xs : List β}
    (hxs : ∀ x ∈ xs, C x s.subscriptions) : KeepsLinks s (run (Proc.forEach xs body) s).2 := by
  induction xs generalizing s with
  | nil => exact .refl s
  | cons x xs ih =>
    have hx := hbody x s (hxs x List.mem_cons_self)
    rw [forEach_cons]
    rcases hrun : run (body x) s with ⟨e | _, s'⟩
    · rw [run_bind_of_error hrun]
      rwa [hrun] at hx
    · rw [run_bind_of_ok hrun]
      rw [hrun] at hx
      refine hx.trans (ih fun y hy => ?_)
      exact hsame y _ _ hx.same (hxs y (List.mem_cons_of_mem x hy))

theorem links_dispatchProcurementEvent (input : DispatchProcurementWebhookInput) :
    KeepsLinks s (run (dispatchProcurementEvent env input) s).2 := by
  refine links_forEach (C := fun row t => (t.find row.1).isSome) (fun row t t' hsame h => ?_)
    (fun row s h => ?_) fun row hrow => ?_
  · rwa [hsame]
  · rw [snd_run_attempt_bind_pure]
    exact links_deliverToSubscription h row.2 input none
  · obtain ⟨hfind, -⟩ := mem_list_iff.mp (List.mem_reverse.mp hrow)
    exact Option.isSome_of_mem hfind

def IsLoaded (row : LoadedDelivery) (t : SerialTable ProcurementWebhookSubscription) : Prop :=
  row.2.2.isSome → (t.find row.2.1.subscriptionId).isSome

theorem isLoaded_of_same {row : LoadedDelivery} {t t' : SerialTable ProcurementWebhookSubscription}
    (hsame : SameSubscriptions t t') (h : IsLoaded row t) : IsLoaded row t' := by
  intro hsome
  rw [hsame]
  exact h hsome

theorem isLoaded_withSubscription (row : DeliveryRow) : IsLoaded (withSubscription s row) s.subscriptions := id

theorem links_retryEach {rows : List LoadedDelivery} (hrows : ∀ row ∈ rows, IsLoaded row s.subscriptions)
    (succeeded failed : ℕ) : KeepsLinks s (run (retryEach env rows succeeded failed) s).2 := by
  induction rows generalizing s succeeded failed with
  | nil => exact .refl s
  | cons row rows ih =>
    obtain ⟨id, delivery, found⟩ := row
    have hrow := hrows _ List.mem_cons_self
    have hrest : ∀ row ∈ rows, IsLoaded row s.subscriptions := fun row h => hrows row (List.mem_cons_of_mem _ h)
    unfold retryEach
    cases hactive : found.filter fun subscription => subscription.status = .active with
    | none => exact ih hrest succeeded failed
    | some subscription =>
      have hsome : found.isSome := Option.isSome_of_mem (Option.filter_eq_some_iff.mp hactive).1
      have hone : KeepsLinks s (run (retryExistingDelivery env id delivery subscription) s).2 :=
        links_executeDeliveryAttempt (hrow hsome)
      rcases hrun : run (retryExistingDelivery env id delivery subscription) s with ⟨e | retried, s'⟩
      · rw [run_bind_of_error hrun]
        rwa [hrun] at hone
      · rw [run_bind_of_ok hrun]
        rw [hrun] at hone
        have hboth (succeeded failed : ℕ) := ih (fun row h => isLoaded_of_same hone.same (hrest row h)) succeeded failed
        split_ifs
        · exact hone.trans (hboth _ _)
        · exact hone.trans (hboth _ _)

theorem links_retryFailedDeliveries (now limit : ℤ) : KeepsLinks s (run (retryFailedDeliveries env now limit) s).2 := by
  unfold retryFailedDeliveries
  rw [run_read_bind, snd_run_bind_readOnly _ fun _ => readOnly_pure _]
  refine links_retryEach (fun row hrow => ?_) 0 0
  obtain ⟨stored, -, rfl⟩ := List.mem_map.mp hrow
  exact isLoaded_withSubscription stored

theorem links_replayDelivery (now : ℤ) (id : ℕ) : KeepsLinks s (run (replayDelivery env now id) s).2 := by
  unfold replayDelivery
  rw [run_read_bind]
  cases s.deliveries.find id with
  | none => exact .refl s
  | some delivery =>
    dsimp only [Option.map_some]
    cases hfind : s.subscriptions.find delivery.subscriptionId with
    | none => exact .refl s
    | some subscription => exact links_deliverToSubscription (Option.isSome_of_mem hfind) _ _ _

theorem links_replayEach (times : ℕ → ℤ) {rows : List LoadedDelivery}
    (hrows : ∀ row ∈ rows, IsLoaded row s.subscriptions) : KeepsLinks s (run (replayEach env times rows) s).2 := by
  refine links_forEach (C := IsLoaded) (fun row t t' hsame h => isLoaded_of_same hsame h) (fun row s h => ?_) hrows
  obtain ⟨id, delivery, found⟩ := row
  cases found with
  | none => exact .refl s
  | some subscription =>
    rw [snd_run_bind_readOnly _ fun _ => readOnly_pure _]
    exact links_deliverToSubscription (h rfl) _ _ _

theorem links_replayTerminalFailures (now : ℤ) (times : ℕ → ℤ) (dto : ReplayTerminalFailuresDto) :
    KeepsLinks s (run (replayTerminalFailures env now times dto) s).2 := by
  unfold replayTerminalFailures
  rcases run_getReplayTerminalFailureCandidates env dto s with ⟨-, e, hrun⟩ | ⟨cursor, -, hrun⟩
  · rw [run_bind_of_error hrun]
    exact .refl s
  · rw [run_bind_of_ok hrun, (onlyReads_assertReplayTerminalFailureExecutionAllowed _ _ _ _).readOnly.snd_run_bind]
    split
    · refine links_replayEach times fun row hrow => ?_
      obtain ⟨stored, -, rfl⟩ := List.mem_map.mp hrow
      exact isLoaded_withSubscription stored
    · exact .refl s

end Links

/-! ### What a token stands for -/

section Tokens

variable {dto dto' : ReplayTerminalFailuresDto} {s s' : WebhookStore}

/-- A request without explicit ids with the signature of another one asks for the same deliveries. -/
theorem isMatched_iff_of_signature {total left total' left' : ℕ}
    (h : signatureOf dto total left = signatureOf dto' total' left') (hids : explicitIds dto' = none) (id : ℕ)
    (delivery : ProcurementWebhookDelivery) : IsMatched dto id delivery ↔ IsMatched dto' id delivery := by
  have hexplicit : explicitIds dto = none := by
    have hmap := congrArg ReplaySignature.deliveryIds h
    unfold signatureOf at hmap
    rwa [hids, Option.map_none, Option.map_eq_none_iff] at hmap
  have hsubscription : dto.subscriptionId = dto'.subscriptionId := congrArg ReplaySignature.subscriptionId h
  have hevent : dto.eventType = dto'.eventType := congrArg ReplaySignature.eventType h
  unfold IsMatched
  rw [hexplicit, hids, hsubscription, hevent]

/-- **As many failures are the same failures**: none of them has gone in between. -/
theorem matchedRows_eq_of_length (hkeeps : KeepsEnded s s')
    (hsame : ∀ id delivery, IsMatched dto id delivery ↔ IsMatched dto' id delivery)
    (hlength : (matchedRows dto' s').length ≤ (matchedRows dto s).length) :
    matchedRows dto s = matchedRows dto' s' := by
  have hsubset : matchedRows dto s ⊆ matchedRows dto' s' := by
    intro row hrow
    obtain ⟨hfind, hmatched⟩ := mem_matchedRows_iff.mp hrow
    have hended : row.2.HasEnded := .inr hmatched.2.1
    exact mem_matchedRows_iff.mpr ⟨(hkeeps row.1 row.2 hfind hended).1, (hsame row.1 row.2).mp hmatched⟩
  have hnodup : (matchedRows dto s).Nodup := (nodup_matchedRows dto s).of_map
  have hperm := (List.subperm_of_subset hnodup hsubset).perm_of_length_le hlength
  refine hperm.eq_of_pairwise (fun a b _ _ hba hab => ?_) (pairwise_matchedRows dto s) (pairwise_matchedRows dto' s')
  exact absurd hab hba.asymm

theorem candidates_of_linked (hlinked : s.Linked) {rows : List DeliveryRow}
    (hrows : ∀ row ∈ rows, s.deliveries.find row.1 = some row.2) :
    ((rows.map (withSubscription s)).filterMap candidateOf).map (fun candidate => (candidate.id, candidate.delivery)) =
        rows ∧ (rows.map (withSubscription s)).filterMap skippedOf = [] := by
  induction rows with
  | nil => exact ⟨rfl, rfl⟩
  | cons row rows ih =>
    obtain ⟨hcandidates, hskipped⟩ := ih fun row h => hrows row (List.mem_cons_of_mem _ h)
    have hsome := hlinked row.1 row.2 (hrows row List.mem_cons_self)
    obtain ⟨subscription, hfind⟩ := Option.isSome_iff_exists.mp hsome
    have hone : candidateOf (withSubscription s row) = some ⟨row.1, row.2, subscription.name⟩ := by
      unfold candidateOf withSubscription
      rw [hfind]
      rfl
    have hnone : skippedOf (withSubscription s row) = none := by
      unfold skippedOf withSubscription
      rw [hfind]
      rfl
    rw [List.map_cons, List.filterMap_cons_some hone, List.filterMap_cons_none hnone, List.map_cons, hcandidates]
    exact ⟨rfl, hskipped⟩

end Tokens

end ProcurementWebhooks

/-! ### Runs -/

/-- A preview, or another call of the service. -/
inductive WebhookReplayCall where
  | preview (now now' : ℤ) (dto : ReplayTerminalFailuresDto)
  | call (call : WebhookCall)

namespace WebhookReplayCall

variable (env : PreviewRuntime)

def step (s : WebhookStore) : WebhookReplayCall → WebhookStore
  | preview now now' dto => (run (previewReplayTerminalFailures env now now' dto) s).2
  | call c => c.step env.toWebhookRuntime s

/-- The administrators delete no subscription that has deliveries: these would be deleted with it. -/
def KeepsDeliveries (s : WebhookStore) : WebhookReplayCall → Prop
  | call (.administer subscriptions) =>
    ∀ id delivery, s.deliveries.find id = some delivery → (subscriptions.find delivery.subscriptionId).isSome
  | _ => True

def Issues (s : WebhookStore) (confirmation : ReplayConfirmation) (page : ReplayPreview) : WebhookReplayCall → Prop
  | preview now now' dto => (run (previewReplayTerminalFailures env now now' dto) s).1 = .ok page ∧
      ∃ token ∈ page.executionConfirmationToken, env.parseConfirmation token = some confirmation
  | call _ => False

def Presents (confirmation : ReplayConfirmation) : WebhookReplayCall → Prop
  | call (.replayTerminalFailures _ _ dto) => explicitIds dto = none ∧
      ∃ token ∈ dto.previewConfirmationToken, env.parseConfirmation token = some confirmation
  | _ => False

/-- The call is a replay that needs its confirmation and is allowed. -/
def Accepts (s : WebhookStore) : WebhookReplayCall → Prop
  | call (.replayTerminalFailures now _ dto) => ∃ candidates,
      (run (getReplayTerminalFailureCandidates env.toWebhookRuntime dto) s).1 = .ok candidates ∧
        subscriptionDetailReplayRecommendedLimit < candidates.totalMatchedTerminalFailureCount ∧
        (run (assertReplayTerminalFailureExecutionAllowed env.toWebhookRuntime now dto candidates.replaySignature
          candidates.totalMatchedTerminalFailureCount) s).1 = .ok ()
  | _ => False

def Succeeds (s : WebhookStore) : WebhookReplayCall → Prop
  | call (.replayTerminalFailures now times dto) =>
    (run (replayTerminalFailures env.toWebhookRuntime now times dto) s).1 = .ok ()
  | _ => False

end WebhookReplayCall

/-- The tokens are not forged: what one stands for was issued by a preview before. -/
def Unforged (env : PreviewRuntime) (start : WebhookStore) (calls : List WebhookReplayCall) : Prop :=
  ∀ n (c : WebhookReplayCall) confirmation, calls[n]? = some c → c.Presents env confirmation →
    ∃ (m : ℕ) (c' : WebhookReplayCall) (page : ReplayPreview), m < n ∧ calls[m]? = some c' ∧
      c'.Issues env (Run.after (WebhookReplayCall.step env) start (calls.take m)) confirmation page

/-- The call has replayed the deliveries of the page and no others: what it made are replays of its candidates, in
their order, and the page has skipped none. -/
structure ReplaysPage (page : ReplayPreview) (s s' : WebhookStore) : Prop where
  replays : Replays (page.candidateDeliveries.map fun candidate => (candidate.id, candidate.delivery)) s s'
  skipped : page.skippedDeliveryIds = []

section Binding

variable {env : PreviewRuntime} {s s' : WebhookStore} {confirmation : ReplayConfirmation} {page : ReplayPreview}
  {dto : ReplayTerminalFailuresDto}

variable {now : ℤ}

theorem issues_eq {now' : ℤ} (h : (WebhookReplayCall.preview now now' dto).Issues env s confirmation page) :
    ∃ cursor, readCursor env.toWebhookRuntime dto.cursor = some cursor ∧
      page = previewFrom env now now' dto s (rowsLeft cursor (matchedRows dto s)) ∧
      confirmation.signature =
        signatureOf dto (matchedRows dto s).length (rowsLeft cursor (matchedRows dto s)).length := by
  obtain ⟨hok, token, htoken, hparse⟩ := h
  rcases run_previewReplayTerminalFailures env now now' dto s with ⟨-, e, hrun⟩ | ⟨cursor, hread, hrun⟩
  · rw [hrun] at hok
    cases hok
  · rw [hrun] at hok
    have hpage := Except.ok.inj hok
    refine ⟨cursor, hread, hpage.symm, ?_⟩
    rw [← hpage] at htoken
    unfold previewFrom at htoken
    dsimp only at htoken
    split_ifs at htoken
    · obtain rfl := Option.some.inj htoken
      have hlimit : 0 < pageSizeOf dto := by
        have hbounds := pageSizeOf_bounds dto
        omega
      unfold encodeConfirmationToken at hparse
      rw [env.parseConfirmation_encodeConfirmation _ hlimit] at hparse
      rw [← Option.some.inj hparse]
      rfl
    · cases htoken

theorem signature_of_allowed {signature : ReplaySignature} {total : ℕ}
    (hids : explicitIds dto = none) (htotal : subscriptionDetailReplayRecommendedLimit < total)
    (htoken : ∃ token ∈ dto.previewConfirmationToken, env.parseConfirmation token = some confirmation)
    (hallowed : (run (assertReplayTerminalFailureExecutionAllowed env.toWebhookRuntime now dto signature total)
      s).1 = .ok ()) : confirmation.signature = signature := by
  obtain ⟨token, hmem, hparse⟩ := htoken
  have hneeded : ¬ (total ≤ subscriptionDetailReplayRecommendedLimit ∨ (explicitIds dto).isSome) := by
    rw [hids]
    rintro (hle | hsome)
    · omega
    · cases hsome
  unfold assertReplayTerminalFailureExecutionAllowed at hallowed
  rw [if_neg hneeded, Option.mem_def.mp hmem, Option.filter_some] at hallowed
  by_cases hempty : decide (token ≠ "") = true
  · rw [if_pos hempty] at hallowed
    dsimp only at hallowed
    rw [hparse] at hallowed
    rw [run_throwIf_bind] at hallowed
    split_ifs at hallowed
    by_contra hne
    rw [run_throwIf, if_pos hne] at hallowed
    cases hallowed
  · rw [if_neg hempty] at hallowed
    cases hallowed

theorem run_assert_of_signature {total : ℕ} {token : String}
    (hparse : env.parseConfirmation token = some confirmation) (hne : token ≠ "")
    (hexpires : now ≤ confirmation.expiresAtMs) (htoken : dto.previewConfirmationToken = some token) :
    run (assertReplayTerminalFailureExecutionAllowed env.toWebhookRuntime now dto confirmation.signature total) s =
      (.ok (), s) := by
  unfold assertReplayTerminalFailureExecutionAllowed
  by_cases hneeded : total ≤ subscriptionDetailReplayRecommendedLimit ∨ (explicitIds dto).isSome
  · rw [if_pos hneeded]
    rfl
  · have hfilter : dto.previewConfirmationToken.filter (· ≠ "") = some token := by
      rw [htoken, Option.filter_some, if_pos (decide_eq_true hne)]
    rw [if_neg hneeded, hfilter]
    dsimp only
    rw [hparse]
    rw [run_throwIf_bind, if_neg (by omega), run_throwIf, if_neg (not_not_intro rfl)]

theorem run_replayTerminalFailures (times : ℕ → ℤ) {cursor : Option (ℤ × ℕ)}
    (hfound : run (getReplayTerminalFailureCandidates env.toWebhookRuntime dto) s =
      (.ok (candidatesOf dto s (rowsLeft cursor (matchedRows dto s))), s))
    (hallowed : (run (assertReplayTerminalFailureExecutionAllowed env.toWebhookRuntime now dto
      (signatureOf dto (matchedRows dto s).length (rowsLeft cursor (matchedRows dto s)).length)
      (matchedRows dto s).length) s).1 = .ok ()) :
    run (replayTerminalFailures env.toWebhookRuntime now times dto) s =
      run (replayEach env.toWebhookRuntime times
        (((rowsLeft cursor (matchedRows dto s)).take (pageSizeOf dto).toNat).map (withSubscription s))) s := by
  have hreads := (@onlyReads_assertReplayTerminalFailureExecutionAllowed env.toWebhookRuntime now dto
    (signatureOf dto (matchedRows dto s).length (rowsLeft cursor (matchedRows dto s)).length)
    (matchedRows dto s).length).readOnly s
  have hrun := Prod.ext (y := (.ok (), s)) hallowed hreads
  unfold replayTerminalFailures
  rw [run_bind_of_ok hfound]
  exact run_bind_of_ok hrun _

theorem replaysPage_of_accepts (hkeeps : KeepsEnded s s') (hlinked : s.Linked) (hlinked' : s'.Linked)
    {c c' : WebhookReplayCall} (hissues : c.Issues env s confirmation page) (hpresents : c'.Presents env confirmation)
    (haccepts : c'.Accepts env s') :
    ReplaysPage page s' (c'.step env s') ∧ (c'.Succeeds env s' →
      (c'.step env s').deliveries.next = s'.deliveries.next + page.candidateDeliveries.length) := by
  match c, c' with
  | .call _, _ => exact hissues.elim
  | .preview now now' dto, .preview _ _ _ => exact hpresents.elim
  | .preview now now' dto, .call (.dispatchProcurementEvent _) => exact hpresents.elim
  | .preview now now' dto, .call (.retryFailedDeliveries _ _) => exact hpresents.elim
  | .preview now now' dto, .call (.replayDelivery _ _) => exact hpresents.elim
  | .preview now now' dto, .call (.administer _) => exact hpresents.elim
  | .preview now now' dto, .call (.replayTerminalFailures at' times dto') =>
    obtain ⟨cursor, hread, hpage, hsignature⟩ := issues_eq hissues
    obtain ⟨hids, htoken⟩ := hpresents
    obtain ⟨candidates, hcandidates, htotal, hallowed⟩ := haccepts
    rcases run_getReplayTerminalFailureCandidates env.toWebhookRuntime dto' s' with ⟨-, e, hfound⟩ |
      ⟨cursor', hread', hfound⟩
    · rw [hfound] at hcandidates
      cases hcandidates
    rw [hfound] at hcandidates
    obtain rfl := Except.ok.inj hcandidates
    have hsame : signatureOf dto (matchedRows dto s).length (rowsLeft cursor (matchedRows dto s)).length =
        signatureOf dto' (matchedRows dto' s').length (rowsLeft cursor' (matchedRows dto' s')).length := by
      rw [← hsignature]
      exact signature_of_allowed hids htotal htoken hallowed
    -- The counts agree, so the failures are the same ones, and the page is the same page.
    have hlength : (matchedRows dto s).length = (matchedRows dto' s').length :=
      congrArg ReplaySignature.totalMatchedTerminalFailureCount hsame
    have hrows := matchedRows_eq_of_length hkeeps (isMatched_iff_of_signature hsame hids) hlength.ge
    have hcursor : dto.cursor = dto'.cursor := congrArg ReplaySignature.cursor hsame
    have hsize : pageSizeOf dto = pageSizeOf dto' := congrArg ReplaySignature.limit hsame
    rw [← hcursor, hread] at hread'
    obtain rfl := Option.some.inj hread'
    set rows := (rowsLeft cursor (matchedRows dto' s')).take (pageSizeOf dto').toNat with hrowsOf
    have hmem : ∀ row ∈ rows, row ∈ matchedRows dto' s' :=
      fun row hrow => (rowsLeft_sublist cursor _).subset (List.mem_of_mem_take hrow)
    have hfind' : ∀ row ∈ rows, s'.deliveries.find row.1 = some row.2 :=
      fun row hrow => (mem_matchedRows_iff.mp (hmem row hrow)).1
    have hfind : ∀ row ∈ rows, s.deliveries.find row.1 = some row.2 := by
      intro row hrow
      have hold := hmem row hrow
      rw [← hrows] at hold
      exact (mem_matchedRows_iff.mp hold).1
    obtain ⟨hshown, hskipped⟩ := candidates_of_linked hlinked hfind
    have hpageRows : page.candidateDeliveries.map (fun candidate => (candidate.id, candidate.delivery)) = rows ∧
        page.skippedDeliveryIds = [] := by
      rw [hpage]
      unfold previewFrom
      rw [hrows, hsize]
      exact ⟨hshown, hskipped⟩
    have hloaded : ∀ row ∈ rows.map (withSubscription s'), row.2.2.isSome := by
      intro row hrow
      obtain ⟨stored, hstored, rfl⟩ := List.mem_map.mp hrow
      exact hlinked' stored.1 stored.2 (hfind' stored hstored)
    have hrun := run_replayTerminalFailures times hfound hallowed
    obtain ⟨hreplays, hall⟩ := run_replayEach env.toWebhookRuntime times hloaded s'
    rw [List.map_map] at hreplays
    have hid : rows.map ((fun row : LoadedDelivery => (row.1, row.2.1)) ∘ withSubscription s') = rows :=
      List.map_id rows
    rw [hid, ← hrun, ← hpageRows.1] at hreplays
    refine ⟨⟨hreplays, hpageRows.2⟩, fun hsucceeds => ?_⟩
    have hcount := congrArg List.length hpageRows.1
    rw [List.length_map] at hcount
    have hok : (run (replayTerminalFailures env.toWebhookRuntime at' times dto') s').1 = .ok () := hsucceeds
    rw [hrun] at hok
    have hnext := hall hok
    rw [← hrun, List.length_map, ← hcount] at hnext
    exact hnext

theorem step_keeps (env : PreviewRuntime) (s : WebhookStore) (c : WebhookReplayCall) (h : s.Consistent ∧ s.Linked)
    (hkeeps : c.KeepsDeliveries s) :
    ((c.step env s).Consistent ∧ (c.step env s).Linked) ∧ KeepsEnded s (c.step env s) := by
  match c with
  | .preview now now' dto =>
    have hsame : (WebhookReplayCall.preview now now' dto).step env s = s := by
      show (run (previewReplayTerminalFailures env now now' dto) s).2 = s
      rcases run_previewReplayTerminalFailures env now now' dto s with ⟨-, e, hrun⟩ | ⟨cursor, -, hrun⟩
      · rw [hrun]
      · rw [hrun]
    rw [hsame]
    exact ⟨h, .refl s⟩
  | .call call =>
    obtain ⟨hconsistent, hended⟩ := advances_step env.toWebhookRuntime s call h.1
    refine ⟨⟨hconsistent, ?_⟩, hended⟩
    cases call with
    | dispatchProcurementEvent input => exact (links_dispatchProcurementEvent input).linked h.2
    | retryFailedDeliveries now limit => exact (links_retryFailedDeliveries now limit).linked h.2
    | replayDelivery now id => exact (links_replayDelivery now id).linked h.2
    | replayTerminalFailures now times dto => exact (links_replayTerminalFailures now times dto).linked h.2
    | administer subscriptions => exact hkeeps

end Binding

/-- A text that is as long as the number of a value. -/
@[irreducible] def tallyText {α : Type} [Encodable α] (a : α) : String :=
  String.ofList ('e' :: List.replicate (Encodable.encode a) '.')

def tallyValue {α : Type} [Encodable α] (text : String) : Option α := Encodable.decode (text.toList.length - 1)

variable {α : Type} {delivery : ProcurementWebhookDelivery}

theorem tallyValue_tallyText [Encodable α] (a : α) : tallyValue (tallyText a) = some a := by
  unfold tallyValue tallyText
  rw [String.toList_ofList, List.length_cons, List.length_replicate, Nat.add_sub_cancel, Encodable.encodek]

theorem tallyText_ne_empty [Encodable α] (a : α) : tallyText a ≠ "" := by
  intro h
  have hlength := congrArg (fun text => text.toList.length) h
  simp [tallyText] at hlength

instance : Encodable ProcurementWebhookEventType :=
  Encodable.ofLeftInverse
    (fun eventType => match eventType with
      | .interventionUpdated => (0 : ℕ)
      | .purchaseOrderUpdated => 1
      | .receiptDiscrepancyResolved => 2
      | .receiptDiscrepancyApproved => 3)
    (fun n => match n with
      | 0 => .interventionUpdated
      | 1 => .purchaseOrderUpdated
      | 2 => .receiptDiscrepancyResolved
      | _ => .receiptDiscrepancyApproved)
    fun eventType => by cases eventType <;> rfl

instance encodableString : Encodable String :=
  Encodable.ofLeftInverse (fun text => text.toList.map Char.toNat) (fun codes => String.ofList (codes.map Char.ofNat))
    fun text => by
      have hid : Char.ofNat ∘ Char.toNat = id := funext fun c => Char.ofNat_toNat c
      rw [List.map_map, hid, List.map_id, String.ofList_toList]

instance : Encodable ReplaySignature :=
  Encodable.ofLeftInverse
    (fun g => (g.deliveryIds, g.subscriptionId, g.eventType, g.cursor, g.limit, g.totalMatchedTerminalFailureCount,
      g.cursorMatchedTerminalFailureCount))
    (fun g => ⟨g.1, g.2.1, g.2.2.1, g.2.2.2.1, g.2.2.2.2.1, g.2.2.2.2.2.1, g.2.2.2.2.2.2⟩) fun _ => rfl

instance : Encodable ReplayConfirmation :=
  Encodable.ofLeftInverse
    (fun confirmation => (confirmation.signature, confirmation.issuedAtMs, confirmation.expiresAtMs))
    (fun parts => ⟨parts.1, parts.2.1, parts.2.2⟩) fun _ => rfl

def unreachable : HttpExchange := ⟨0, 0, .failed (some "connect ECONNREFUSED"), 10, 20, 20⟩

/-- A runtime with texts that can be read back. -/
def tallyRuntime : PreviewRuntime where
  hmac secret text := secret ++ text
  isoText time := toString time
  parseCursor := tallyValue
  parseConfirmation := tallyValue
  exchange _ := unreachable
  encodeCursor := tallyText
  encodeCursor_ne_empty := tallyText_ne_empty
  parseCursor_encodeCursor cursor _ := tallyValue_tallyText cursor
  encodeConfirmation := tallyText
  encodeConfirmation_ne_empty := tallyText_ne_empty
  parseConfirmation_encodeConfirmation confirmation _ := tallyValue_tallyText confirmation

def failedDelivery : ProcurementWebhookDelivery where
  subscriptionId := 1
  eventType := .purchaseOrderUpdated
  eventKey := "purchase-order:7"
  requestUrl := "https://erp.example/hooks"
  requestBody := "\x7b\x7d"
  status := .failed
  attemptCount := 4
  errorMessage := some "connect ECONNREFUSED"
  durationMs := some 10
  deliveredAt := some 20
  finalFailureAt := some 20

/-- Twenty-six such deliveries of one subscription. -/
def twentySixFailures : WebhookStore where
  subscriptions := SerialTable.empty.add
    { name := "ERP", endpointUrl := "https://erp.example/hooks", signingSecret := "secret",
      eventTypes := [.purchaseOrderUpdated] }
  deliveries := (List.replicate 26 failedDelivery).foldl SerialTable.add .empty
  posts := (List.range' 1 26).flatMap fun id => List.replicate 4 (id, unreachable)

theorem eq_of_find_foldl_add (n : ℕ)
    {t : SerialTable ProcurementWebhookDelivery} (ht : ∀ id found, t.find id = some found → found = delivery) :
    ∀ id found, ((List.replicate n delivery).foldl SerialTable.add t).find id = some found → found = delivery := by
  induction n generalizing t with
  | zero => exact ht
  | succ n ih => exact ih (forall_find_add ht rfl)

theorem find_twentySixFailures {id : ℕ}
    (h : twentySixFailures.deliveries.find id = some delivery) : delivery = failedDelivery :=
  eq_of_find_foldl_add 26 (fun id found h => by cases h) id delivery h

theorem consistent_twentySixFailures : twentySixFailures.Consistent := by
  have hmade : ∀ id ∈ List.range' 1 26, twentySixFailures.exchangesOf id = List.replicate 4 unreachable := by
    decide
  have hthere : ∀ id ∈ List.range' 1 26, (twentySixFailures.deliveries.find id).isSome := by
    decide
  refine ⟨fun id delivery hfind => ?_, fun id hnone => ?_⟩
  · obtain rfl := find_twentySixFailures hfind
    have hlt : id < 27 := lt_next_of_find hfind
    have hpos : id ≠ 0 := by
      rintro rfl
      cases hfind
    rw [hmade id (List.mem_range'_1.mpr ⟨by omega, by omega⟩)]
    refine ⟨rfl, by decide, by decide, .exhausted rfl rfl rfl (fun exchange hmem => ?_) rfl⟩
    rw [List.eq_of_mem_replicate hmem]
    decide
  · have hnot : id ∉ List.range' 1 26 := by
      intro hmem
      have hsome := hthere id hmem
      rw [hnone] at hsome
      cases hsome
    unfold WebhookStore.exchangesOf
    rw [List.map_eq_nil_iff, List.filter_eq_nil_iff]
    intro post hpost
    obtain ⟨id', hid', hmem⟩ := List.mem_flatMap.mp hpost
    rw [List.eq_of_mem_replicate hmem, decide_eq_true_iff]
    rintro rfl
    exact hnot hid'

theorem linked_twentySixFailures : twentySixFailures.Linked := by
  intro id delivery hfind
  obtain rfl := find_twentySixFailures hfind
  rfl

theorem matchedRows_token (dto : ReplayTerminalFailuresDto) (token : Option String) (s : WebhookStore) :
    matchedRows { dto with previewConfirmationToken := token } s = matchedRows dto s := rfl

theorem length_matchedRows_twentySixFailures : (matchedRows {} twentySixFailures).length = 26 := by
  unfold matchedRows
  rw [List.length_mergeSort]
  decide

def firstPage : ReplayConfirmation := confirmationAt 1000 (signatureOf {} 26 26)

def confirmedRequest : ReplayTerminalFailuresDto := { previewConfirmationToken := some (tallyText firstPage) }

/-- The preview of the first page, and its replay. -/
def confirmedCalls : List WebhookReplayCall :=
  [.preview 1000 1000 {}, .call (.replayTerminalFailures 2000 (fun _ => 2001) confirmedRequest)]

def confirmedPage : ReplayPreview :=
  previewFrom tallyRuntime 1000 1000 {} twentySixFailures (matchedRows {} twentySixFailures)

theorem issues_confirmedPage :
    (WebhookReplayCall.preview 1000 1000 {}).Issues tallyRuntime twentySixFailures firstPage confirmedPage := by
  refine ⟨?_, tallyText firstPage, ?_, tallyValue_tallyText firstPage⟩
  · rcases run_previewReplayTerminalFailures tallyRuntime 1000 1000 {} twentySixFailures with ⟨hnone, -⟩ |
      ⟨cursor, hread, hrun⟩
    · cases hnone
    · obtain rfl := Option.some.inj hread
      rw [hrun]
      rfl
  · have hpage :
        0 < (((matchedRows {} twentySixFailures).take 25).map (withSubscription twentySixFailures)).length := by
      rw [List.length_map, List.length_take, length_matchedRows_twentySixFailures]
      decide
    unfold confirmedPage previewFrom
    rw [length_matchedRows_twentySixFailures]
    exact if_pos hpage

theorem unforged_confirmedCalls : Unforged tallyRuntime twentySixFailures confirmedCalls := by
  intro n c confirmation hcall hpresents
  match n with
  | 0 =>
    obtain rfl := Option.some.inj hcall
    exact hpresents.elim
  | 1 =>
    obtain rfl := Option.some.inj hcall
    obtain ⟨-, token, htoken, hparse⟩ := hpresents
    obtain rfl := Option.some.inj htoken
    have hfirst : tallyRuntime.parseConfirmation (tallyText firstPage) = some firstPage :=
      tallyValue_tallyText firstPage
    rw [hfirst] at hparse
    obtain rfl := Option.some.inj hparse
    exact ⟨0, _, confirmedPage, Nat.one_pos, rfl, issues_confirmedPage⟩
  | n + 2 => cases hcall

def confirmedReplay : WebhookReplayCall := .call (.replayTerminalFailures 2000 (fun _ => 2001) confirmedRequest)

theorem accepts_confirmedReplay : confirmedReplay.Accepts tallyRuntime twentySixFailures := by
  have hfirst : tallyRuntime.parseConfirmation (tallyText firstPage) = some firstPage := tallyValue_tallyText firstPage
  rcases run_getReplayTerminalFailureCandidates tallyRuntime.toWebhookRuntime confirmedRequest twentySixFailures with
    ⟨hnone, -⟩ | ⟨cursor, hread, hrun⟩
  · cases hnone
  obtain rfl := Option.some.inj hread
  have hcount : (matchedRows confirmedRequest twentySixFailures).length = 26 := by
    unfold confirmedRequest
    rw [matchedRows_token {}, length_matchedRows_twentySixFailures]
  have hfound : candidatesOf confirmedRequest twentySixFailures
      (rowsLeft none (matchedRows confirmedRequest twentySixFailures)) =
        { requestedCount := 25, replaySignature := firstPage.signature, totalMatchedTerminalFailureCount := 26,
          pagedDeliveries := ((matchedRows confirmedRequest twentySixFailures).take 25).map
            (withSubscription twentySixFailures) } := by
    unfold candidatesOf rowsLeft
    rw [hcount]
    rfl
  rw [hfound] at hrun
  refine ⟨_, congrArg Prod.fst hrun, by decide, ?_⟩
  exact congrArg Prod.fst (run_assert_of_signature hfirst (tallyText_ne_empty firstPage) (by decide) rfl)

end SuuqBackend
