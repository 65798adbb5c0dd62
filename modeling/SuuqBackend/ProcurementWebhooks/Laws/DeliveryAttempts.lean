import SuuqBackend.ProcurementWebhooks.ProcurementWebhooks
import SuuqBackend.Lib.Interleave
import Mathlib.Tactic.IntervalCases

/-!
# The attempts of a delivery

What a delivery is at any time is determined by the requests that were made for it: `Stands` has a case for each of the
three states in which an attempt leaves it.

* `run_executeDeliveryAttempt`, `run_deliverToSubscription`: what the service writes for an attempt.
* `deliveries_end_once`: the deliveries at any time of a run, and those that have ended.
-/

namespace SuuqBackend

open Proc ProcurementWebhooks SerialTable

/-- The requests made for a delivery, in their order. -/
def WebhookStore.exchangesOf (s : WebhookStore) (id : ℕ) : List HttpExchange :=
  (s.posts.filter fun post => post.1 = id).map Prod.snd

structure ProcurementWebhookDelivery.Agrees (exchanges : List HttpExchange) (delivery : ProcurementWebhookDelivery) :
    Prop where
  attemptCount : delivery.attemptCount = exchanges.length
  limit : delivery.attemptCount ≤ maxAttempts
  failed_iff : delivery.status = .failed ↔
    (delivery.nextRetryAt.isSome ∧ delivery.finalFailureAt = none) ∨
      (delivery.nextRetryAt = none ∧ delivery.finalFailureAt.isSome)
  finalFailureAt_iff : delivery.finalFailureAt.isSome ↔
    exchanges.length = maxAttempts ∧ ∀ exchange ∈ exchanges, ¬ exchange.IsSuccess

/-- The delivery has succeeded, or failed for good. -/
def ProcurementWebhookDelivery.HasEnded (delivery : ProcurementWebhookDelivery) : Prop :=
  delivery.status = .succeeded ∨ delivery.finalFailureAt.isSome

/-- The deliveries that have ended in the first state are the same in the second one, and nothing was sent for them
in between. -/
def KeepsEnded (s s' : WebhookStore) : Prop :=
  ∀ id delivery, s.deliveries.find id = some delivery → delivery.HasEnded →
    s'.deliveries.find id = some delivery ∧ s'.exchangesOf id = s.exchangesOf id

/-! ### One attempt -/

inductive Stands (exchanges : List HttpExchange) (delivery : ProcurementWebhookDelivery) : Prop where
  | succeeded (status : delivery.status = .succeeded) (final : delivery.finalFailureAt = none)
      (next : delivery.nextRetryAt = none) (last : ∃ exchange ∈ exchanges, exchange.IsSuccess)
  | retrying (status : delivery.status = .failed) (final : delivery.finalFailureAt = none)
      (next : delivery.nextRetryAt.isSome) (failed : ∀ exchange ∈ exchanges, ¬ exchange.IsSuccess)
      (left : exchanges.length < maxAttempts)
  | exhausted (status : delivery.status = .failed) (final : delivery.finalFailureAt.isSome)
      (next : delivery.nextRetryAt = none) (failed : ∀ exchange ∈ exchanges, ¬ exchange.IsSuccess)
      (full : exchanges.length = maxAttempts)

/-- The count of a delivery, and where it stands. -/
structure ProcurementWebhookDelivery.Follows (exchanges : List HttpExchange)
    (delivery : ProcurementWebhookDelivery) : Prop where
  attemptCount : delivery.attemptCount = exchanges.length
  made : 0 < exchanges.length
  limit : exchanges.length ≤ maxAttempts
  stands : Stands exchanges delivery

theorem ProcurementWebhookDelivery.Follows.agrees {exchanges : List HttpExchange}
    {delivery : ProcurementWebhookDelivery} (h : delivery.Follows exchanges) : delivery.Agrees exchanges := by
  have hlimit : delivery.attemptCount ≤ maxAttempts := h.attemptCount ▸ h.limit
  cases h.stands with
  | succeeded hstatus hfinal hnext hlast =>
    obtain ⟨exchange, hmem, hsuccess⟩ := hlast
    refine ⟨h.attemptCount, hlimit, ?_, ?_⟩
    · simp [hstatus, hfinal, hnext]
    · simp only [hfinal, Option.isSome_none, Bool.false_eq_true, false_iff]
      exact fun hall => hall.2 exchange hmem hsuccess
  | retrying hstatus hfinal hnext _ hleft =>
    refine ⟨h.attemptCount, hlimit, ?_, ?_⟩
    · simp [hstatus, hfinal, hnext]
    · simp only [hfinal, Option.isSome_none, Bool.false_eq_true, false_iff]
      exact fun hall => Nat.ne_of_lt hleft hall.1
  | exhausted hstatus hfinal hnext hfailed hfull =>
    refine ⟨h.attemptCount, hlimit, ?_, iff_of_true hfinal ⟨hfull, hfailed⟩⟩
    simp [hstatus, hfinal, hnext]

theorem isSome_computeNextRetryAt (now : ℤ) (attemptCount : ℕ) :
    (computeNextRetryAt now attemptCount).isSome ↔ attemptCount < maxAttempts := by
  unfold computeNextRetryAt
  by_cases hused : maxAttempts ≤ attemptCount
  · rw [if_pos hused]
    exact iff_of_false Bool.false_ne_true (by omega)
  · have hlt : attemptCount < 4 := Nat.not_le.mp hused
    refine iff_of_true ?_ (Nat.not_le.mp hused)
    interval_cases attemptCount <;> rfl

section Answered

variable (exchange : HttpExchange) (delivery : ProcurementWebhookDelivery)

@[simp] theorem attemptCount_answered : (answered exchange delivery).attemptCount = delivery.attemptCount := by
  unfold answered
  split <;> rfl

@[simp] theorem subscriptionId_answered : (answered exchange delivery).subscriptionId = delivery.subscriptionId := by
  unfold answered
  split <;> rfl

@[simp] theorem nextRetryAt_answered : (answered exchange delivery).nextRetryAt = delivery.nextRetryAt := by
  unfold answered
  split <;> rfl

@[simp] theorem finalFailureAt_answered : (answered exchange delivery).finalFailureAt = delivery.finalFailureAt := by
  unfold answered
  split <;> rfl

@[simp] theorem status_answered :
    (answered exchange delivery).status = if exchange.IsSuccess then .succeeded else .failed := by
  unfold answered
  split
  · rfl
  · rename_i houtcome
    have hfailed : ¬ exchange.IsSuccess := by
      unfold HttpExchange.IsSuccess
      rw [houtcome]
      exact id
    rw [if_neg hfailed]

variable (attemptCount : ℕ)

@[simp] theorem attemptCount_scheduled :
    (scheduled exchange attemptCount delivery).attemptCount = delivery.attemptCount := by
  unfold scheduled
  split_ifs
  · split <;> rfl
  · rfl

@[simp] theorem subscriptionId_scheduled :
    (scheduled exchange attemptCount delivery).subscriptionId = delivery.subscriptionId := by
  unfold scheduled
  split_ifs
  · split <;> rfl
  · rfl

@[simp] theorem status_scheduled : (scheduled exchange attemptCount delivery).status = delivery.status := by
  unfold scheduled
  split_ifs
  · split <;> rfl
  · rfl

end Answered

section Attempted

variable {env : WebhookRuntime} {a : DeliveryAttempt} {exchange : HttpExchange}

@[simp] theorem attemptCount_attempted : (attempted env a exchange).attemptCount = a.attemptCount := by
  simp [attempted]

@[simp] theorem subscriptionId_attempted :
    (attempted env a exchange).subscriptionId = a.delivery.subscriptionId := by
  simp [attempted]

@[simp] theorem status_attempted :
    (attempted env a exchange).status = if exchange.IsSuccess then .succeeded else .failed := by
  simp [attempted]

theorem schedule_attempted :
    (exchange.IsSuccess ∧ (attempted env a exchange).nextRetryAt = none ∧
        (attempted env a exchange).finalFailureAt = none) ∨
    (¬ exchange.IsSuccess ∧ a.attemptCount < maxAttempts ∧ (attempted env a exchange).nextRetryAt.isSome ∧
        (attempted env a exchange).finalFailureAt = none) ∨
    (¬ exchange.IsSuccess ∧ maxAttempts ≤ a.attemptCount ∧ (attempted env a exchange).nextRetryAt = none ∧
        (attempted env a exchange).finalFailureAt.isSome) := by
  have hnext := isSome_computeNextRetryAt exchange.retryFrom a.attemptCount
  unfold attempted
  by_cases hsuccess : exchange.IsSuccess
  · refine .inl ⟨hsuccess, ?_, ?_⟩ <;> simp [scheduled, hsuccess]
  · cases hcompute : computeNextRetryAt exchange.retryFrom a.attemptCount with
    | some nextRetryAt =>
      have hleft : a.attemptCount < maxAttempts := by
        rw [← hnext, hcompute]
        rfl
      refine .inr (.inl ⟨hsuccess, hleft, ?_, ?_⟩) <;> simp [scheduled, hsuccess, hcompute]
    | none =>
      have hused : maxAttempts ≤ a.attemptCount := by
        rw [← Nat.not_lt, ← hnext, hcompute]
        exact Bool.false_ne_true
      refine .inr (.inr ⟨hsuccess, hused, ?_, ?_⟩) <;> simp [scheduled, hsuccess, hcompute]

/-- **One attempt**: after requests that have all failed, a delivery stands as the next one says. -/
theorem follows_attempted {exchanges : List HttpExchange} (hfailed : ∀ e ∈ exchanges, ¬ e.IsSuccess)
    (hcount : a.attemptCount = exchanges.length + 1) (hleft : exchanges.length < maxAttempts) :
    (attempted env a exchange).Follows (exchanges ++ [exchange]) := by
  have hlength : (exchanges ++ [exchange]).length = exchanges.length + 1 := List.length_append
  have hall (hnot : ¬ exchange.IsSuccess) : ∀ e ∈ exchanges ++ [exchange], ¬ e.IsSuccess := by
    intro e he
    rcases List.mem_append.mp he with hold | hnew
    · exact hfailed e hold
    · rw [List.mem_singleton.mp hnew]
      exact hnot
  refine ⟨by rw [attemptCount_attempted, hcount, hlength], by omega, by omega, ?_⟩
  rcases @schedule_attempted env a exchange with ⟨hsuccess, hnext, hfinal⟩ | ⟨hnot, hmore, hnext, hfinal⟩ |
    ⟨hnot, hused, hnext, hfinal⟩
  · refine .succeeded ?_ hfinal hnext ⟨exchange, List.mem_append_right _ (List.mem_singleton_self _), hsuccess⟩
    rw [status_attempted, if_pos hsuccess]
  · refine .retrying ?_ hfinal hnext (hall hnot) (by omega)
    rw [status_attempted, if_neg hnot]
  · refine .exhausted ?_ hfinal hnext (hall hnot) (by omega)
    rw [status_attempted, if_neg hnot]

end Attempted

/-! ### What the service writes for an attempt -/

def SameSubscriptions (t t' : SerialTable ProcurementWebhookSubscription) : Prop :=
  ∀ id, (t'.find id).isSome = (t.find id).isSome

variable (t : SerialTable ProcurementWebhookSubscription)

theorem SameSubscriptions.refl : SameSubscriptions t t := fun _ => rfl

theorem SameSubscriptions.trans {t₁ t₂ t₃ : SerialTable ProcurementWebhookSubscription}
    (h : SameSubscriptions t₁ t₂) (h' : SameSubscriptions t₂ t₃) : SameSubscriptions t₁ t₃ :=
  fun id => (h' id).trans (h id)

theorem SameSubscriptions.set (id : ℕ)
    (subscription : ProcurementWebhookSubscription) : SameSubscriptions t (t.set id subscription) :=
  isSome_find_set t id subscription

section Run

variable {env : WebhookRuntime}

theorem run_afterAttempt (saved : ProcurementWebhookDelivery) (subscription : ProcurementWebhookSubscription)
    (s : WebhookStore) :
    ∃ subscriptions, SameSubscriptions s.subscriptions subscriptions ∧
      run (afterAttempt saved subscription) s = (.ok (), { s with subscriptions }) := by
  unfold afterAttempt
  split
  · unfold maybeAutoPauseSubscription
    split_ifs
    · exact ⟨s.subscriptions, .refl _, rfl⟩
    · rw [run_read_bind]
      split_ifs
      · exact ⟨s.subscriptions, .refl _, rfl⟩
      · exact ⟨_, .set _ _ _, rfl⟩
  · exact ⟨s.subscriptions, .refl _, rfl⟩

theorem run_executeDeliveryAttempt (a : DeliveryAttempt) (s : WebhookStore) :
    ∃ subscriptions, SameSubscriptions s.subscriptions subscriptions ∧ run (executeDeliveryAttempt env a) s =
      (.ok (attempted env a (env.exchange s.posts.length)),
        { subscriptions
          deliveries := s.deliveries.set a.deliveryId (attempted env a (env.exchange s.posts.length))
          posts := s.posts ++ [(a.deliveryId, env.exchange s.posts.length)] }) := by
  set saved := attempted env a (env.exchange s.posts.length) with hsaved
  have hpost : run (post env a.deliveryId) s = (.ok (env.exchange s.posts.length),
      { s with posts := s.posts ++ [(a.deliveryId, env.exchange s.posts.length)] }) := rfl
  unfold executeDeliveryAttempt
  rw [run_bind_of_ok hpost, run_write_bind, run_write_bind]
  obtain ⟨subscriptions, hsame, hafter⟩ := run_afterAttempt saved a.subscription
    (WebhookStore.saveSubscription (WebhookStore.saveDelivery
      { s with posts := s.posts ++ [(a.deliveryId, env.exchange s.posts.length)] } a.deliveryId saved)
        saved.subscriptionId (delivered saved a.subscription))
  rw [run_bind_of_ok hafter]
  exact ⟨subscriptions, (SameSubscriptions.set _ _ _).trans hsame, rfl⟩

theorem run_deliverToSubscription (subscriptionId : ℕ) (subscription : ProcurementWebhookSubscription)
    (input : DispatchProcurementWebhookInput) (replayedFrom : Option ℕ) (s : WebhookStore) :
    (∃ e, run (deliverToSubscription env subscriptionId subscription input replayedFrom) s = (.error e, s)) ∨
    ∃ (subscriptions : _) (a : DeliveryAttempt), a.deliveryId = s.deliveries.next ∧
      a.delivery = newDelivery subscriptionId subscription input replayedFrom ∧ a.attemptCount = 1 ∧
      SameSubscriptions s.subscriptions subscriptions ∧
      run (deliverToSubscription env subscriptionId subscription input replayedFrom) s =
        (.ok (attempted env a (env.exchange s.posts.length)),
          { subscriptions
            deliveries := s.deliveries.add (attempted env a (env.exchange s.posts.length))
            posts := s.posts ++ [(s.deliveries.next, env.exchange s.posts.length)] }) := by
  unfold deliverToSubscription insertDelivery
  split_ifs
  · exact .inl ⟨_, rfl⟩
  · refine .inr ?_
    set delivery := newDelivery subscriptionId subscription input replayedFrom with hdelivery
    obtain ⟨subscriptions, hsame, hrun⟩ := @run_executeDeliveryAttempt env
      ⟨s.deliveries.next, delivery, subscription, 1⟩ { s with deliveries := s.deliveries.add delivery }
    refine ⟨subscriptions, ⟨s.deliveries.next, delivery, subscription, 1⟩, rfl, rfl, rfl, hsame, ?_⟩
    refine hrun.trans ?_
    rw [set_add_next]

end Run

/-! ### Stores whose deliveries agree with the requests -/

/-- Every delivery follows the requests made for it, and none was made for a delivery that is not there. -/
structure WebhookStore.Consistent (s : WebhookStore) : Prop where
  follows : ∀ id delivery, s.deliveries.find id = some delivery → delivery.Follows (s.exchangesOf id)
  unmade : ∀ id, s.deliveries.find id = none → s.exchangesOf id = []

/-- The call leads from a consistent store to a consistent one, and keeps the deliveries that have ended. -/
def Advances (s s' : WebhookStore) : Prop := s.Consistent → s'.Consistent ∧ KeepsEnded s s'

theorem KeepsEnded.refl (s : WebhookStore) : KeepsEnded s s := fun _ _ hfind _ => ⟨hfind, rfl⟩

variable {s₁ s₂ s₃ : WebhookStore}

theorem KeepsEnded.trans (h : KeepsEnded s₁ s₂) (h' : KeepsEnded s₂ s₃) :
    KeepsEnded s₁ s₃ := by
  intro id delivery hfind hended
  obtain ⟨hfind₂, hsame₂⟩ := h id delivery hfind hended
  obtain ⟨hfind₃, hsame₃⟩ := h' id delivery hfind₂ hended
  exact ⟨hfind₃, hsame₃.trans hsame₂⟩

theorem Advances.refl (s : WebhookStore) : Advances s s := fun h => ⟨h, .refl s⟩

theorem Advances.trans (h : Advances s₁ s₂) (h' : Advances s₂ s₃) : Advances s₁ s₃ := by
  intro h₁
  obtain ⟨h₂, hkeeps⟩ := h h₁
  obtain ⟨h₃, hkeeps'⟩ := h' h₂
  exact ⟨h₃, hkeeps.trans hkeeps'⟩

section Posts

variable {s : WebhookStore} {subscriptions : SerialTable ProcurementWebhookSubscription}
  {deliveries : SerialTable ProcurementWebhookDelivery} {id : ℕ} {exchange : HttpExchange}

theorem exchangesOf_post_self :
    WebhookStore.exchangesOf ⟨subscriptions, deliveries, s.posts ++ [(id, exchange)]⟩ id =
      s.exchangesOf id ++ [exchange] := by
  simp [WebhookStore.exchangesOf]

theorem exchangesOf_post_of_ne {id' : ℕ} (h : id' ≠ id) :
    WebhookStore.exchangesOf ⟨subscriptions, deliveries, s.posts ++ [(id, exchange)]⟩ id' = s.exchangesOf id' := by
  simp [WebhookStore.exchangesOf, Ne.symm h]

end Posts

/-- The other deliveries are the same, and nothing was sent for them. -/
def OthersStay (id : ℕ) (s s' : WebhookStore) : Prop :=
  ∀ id' ≠ id, s'.deliveries.find id' = s.deliveries.find id' ∧ s'.exchangesOf id' = s.exchangesOf id'

theorem OthersStay.keepsEnded {id : ℕ} {s s' : WebhookStore} (h : OthersStay id s s')
    (hopen : ∀ delivery, s.deliveries.find id = some delivery → ¬ delivery.HasEnded) : KeepsEnded s s' := by
  intro id' delivery hfind hended
  by_cases hid : id' = id
  · subst hid
    exact absurd hended (hopen delivery hfind)
  · obtain ⟨hrow, hsame⟩ := h id' hid
    exact ⟨hrow.trans hfind, hsame⟩

theorem WebhookStore.Consistent.of_othersStay {id : ℕ} {s s' : WebhookStore} (h : s.Consistent)
    (hothers : OthersStay id s s') {delivery : ProcurementWebhookDelivery}
    (hfind : s'.deliveries.find id = some delivery) (hfollows : delivery.Follows (s'.exchangesOf id)) :
    s'.Consistent := by
  constructor
  · intro id' row hrow
    by_cases hid : id' = id
    · subst hid
      obtain rfl := Option.mem_unique hfind hrow
      exact hfollows
    · obtain ⟨hsame, hexchanges⟩ := hothers id' hid
      rw [hexchanges]
      exact h.follows id' row (hsame.symm.trans hrow)
  · intro id' hnone
    have hid : id' ≠ id := by
      rintro rfl
      rw [hfind] at hnone
      cases hnone
    obtain ⟨hsame, hexchanges⟩ := hothers id' hid
    rw [hexchanges]
    exact h.unmade id' (hsame.symm.trans hnone)

section Run

variable {env : WebhookRuntime} {s : WebhookStore}

theorem advances_deliverToSubscription (subscriptionId : ℕ) (subscription : ProcurementWebhookSubscription)
    (input : DispatchProcurementWebhookInput) (replayedFrom : Option ℕ) :
    Advances s (run (deliverToSubscription env subscriptionId subscription input replayedFrom) s).2 := by
  rcases @run_deliverToSubscription env subscriptionId subscription input replayedFrom s with ⟨e, hsame⟩ |
    ⟨subscriptions, a, -, -, hcount, -, hrun⟩
  · rw [hsame]
    exact .refl s
  · rw [hrun]
    intro h
    set exchange := env.exchange s.posts.length
    have hnone : s.exchangesOf s.deliveries.next = [] := h.unmade _ s.deliveries.find_next
    have hothers : OthersStay s.deliveries.next s
        ⟨subscriptions, s.deliveries.add (attempted env a exchange), s.posts ++ [(s.deliveries.next, exchange)]⟩ :=
      fun id hid => ⟨find_add_of_ne s.deliveries _ hid, exchangesOf_post_of_ne hid⟩
    refine ⟨h.of_othersStay hothers (find_add_self s.deliveries _) ?_, hothers.keepsEnded ?_⟩
    · have hfollows : (attempted env a exchange).Follows ([] ++ [exchange]) :=
        follows_attempted (fun e he => absurd he List.not_mem_nil) hcount (by decide)
      rw [exchangesOf_post_self, hnone]
      exact hfollows
    · intro delivery hfind
      rw [find_next] at hfind
      cases hfind

/-- The delivery is one that is to be retried some time. -/
def ProcurementWebhookDelivery.AwaitsRetry (delivery : ProcurementWebhookDelivery) : Prop :=
  delivery.status = .failed ∧ delivery.nextRetryAt.isSome

theorem ProcurementWebhookDelivery.Follows.of_awaitsRetry {exchanges : List HttpExchange}
    {delivery : ProcurementWebhookDelivery} (h : delivery.Follows exchanges) (hawaits : delivery.AwaitsRetry) :
    ¬ delivery.HasEnded ∧ (∀ exchange ∈ exchanges, ¬ exchange.IsSuccess) ∧ exchanges.length < maxAttempts := by
  obtain ⟨hstatus, hnext⟩ := hawaits
  cases h.stands with
  | succeeded hsucceeded =>
    rw [hsucceeded] at hstatus
    cases hstatus
  | retrying _ hfinal _ hfailed hleft =>
    refine ⟨?_, hfailed, hleft⟩
    rintro (hsucceeded | hended)
    · rw [hsucceeded] at hstatus
      cases hstatus
    · rw [hfinal] at hended
      cases hended
  | exhausted _ _ hnone =>
    rw [hnone] at hnext
    cases hnext

theorem run_retryExistingDelivery (h : s.Consistent) {id : ℕ} {delivery : ProcurementWebhookDelivery}
    (hfind : s.deliveries.find id = some delivery) (hawaits : delivery.AwaitsRetry)
    (subscription : ProcurementWebhookSubscription) :
    ∃ retried s', run (retryExistingDelivery env id delivery subscription) s = (.ok retried, s') ∧
      s'.Consistent ∧ KeepsEnded s s' ∧ OthersStay id s s' := by
  have hfollows := h.follows id delivery hfind
  obtain ⟨hopen, hfailed, hleft⟩ := hfollows.of_awaitsRetry hawaits
  have hcount : max delivery.attemptCount 1 + 1 = (s.exchangesOf id).length + 1 := by
    have hmade := hfollows.made
    rw [hfollows.attemptCount]
    omega
  set a : DeliveryAttempt := ⟨id, delivery, subscription, max delivery.attemptCount 1 + 1⟩
  obtain ⟨subscriptions, -, hrun⟩ := @run_executeDeliveryAttempt env a s
  set exchange := env.exchange s.posts.length
  have hothers : OthersStay id s
      ⟨subscriptions, s.deliveries.set id (attempted env a exchange), s.posts ++ [(id, exchange)]⟩ :=
    fun id' hid => ⟨find_set_of_ne s.deliveries _ hid, exchangesOf_post_of_ne hid⟩
  refine ⟨_, _, hrun, h.of_othersStay hothers (find_set_self hfind _) ?_, hothers.keepsEnded ?_, hothers⟩
  · rw [exchangesOf_post_self]
    exact follows_attempted hfailed hcount hleft
  · intro row hrow
    obtain rfl := Option.mem_unique hfind hrow
    exact hopen

/-- The loop of the retries; its deliveries are different ones, so each is still as it was loaded when its turn
comes. -/
theorem advances_retryEach {rows : List LoadedDelivery} (hnodup : (rows.map Prod.fst).Nodup)
    (hrows : ∀ row ∈ rows, s.deliveries.find row.1 = some row.2.1 ∧ row.2.1.AwaitsRetry) (succeeded failed : ℕ) :
    Advances s (run (retryEach env rows succeeded failed) s).2 := by
  induction rows generalizing s succeeded failed with
  | nil => exact .refl s
  | cons row rows ih =>
    obtain ⟨id, delivery, found⟩ := row
    obtain ⟨hnot, hnodup⟩ := List.nodup_cons.mp hnodup
    obtain ⟨hfind, hawaits⟩ := hrows _ List.mem_cons_self
    have hrest : ∀ row ∈ rows, s.deliveries.find row.1 = some row.2.1 ∧ row.2.1.AwaitsRetry :=
      fun row hrow => hrows row (List.mem_cons_of_mem _ hrow)
    unfold retryEach
    cases found.filter fun subscription => subscription.status = .active with
    | none => exact ih hnodup hrest succeeded failed
    | some subscription =>
      intro h
      obtain ⟨retried, s', hrun, hconsistent, hkeeps, hothers⟩ :=
        @run_retryExistingDelivery env s h id delivery hfind hawaits subscription
      have hrest' : ∀ row ∈ rows, s'.deliveries.find row.1 = some row.2.1 ∧ row.2.1.AwaitsRetry := by
        intro row hrow
        have hid : row.1 ≠ id := by
          intro heq
          have hmem : row.1 ∈ rows.map Prod.fst := List.mem_map_of_mem hrow
          rw [heq] at hmem
          exact hnot hmem
        rw [(hothers row.1 hid).1]
        exact hrest row hrow
      have hboth (succeeded failed : ℕ) := ih hnodup hrest' succeeded failed hconsistent
      rw [run_bind_of_ok hrun]
      split_ifs
      · exact ⟨(hboth _ _).1, hkeeps.trans (hboth _ _).2⟩
      · exact ⟨(hboth _ _).1, hkeeps.trans (hboth _ _).2⟩

theorem mem_dueDeliveries {now limit : ℤ} {row : LoadedDelivery} (h : row ∈ dueDeliveries now limit s) :
    s.deliveries.find row.1 = some row.2.1 ∧ row.2.1.AwaitsRetry := by
  obtain ⟨⟨id, delivery⟩, hmem, rfl⟩ := List.mem_map.mp h
  have hlist : (id, delivery) ∈ s.deliveries.list (IsDue now ·) :=
    (List.mergeSort_perm _ _).mem_iff.mp (List.mem_of_mem_take hmem)
  obtain ⟨hfind, hdue⟩ := mem_list_iff.mp hlist
  obtain ⟨hstatus, hnext⟩ := of_decide_eq_true hdue
  obtain ⟨nextRetryAt, hretry, -⟩ := (Option.any_eq_true _ _).mp hnext
  exact ⟨hfind, hstatus, Option.isSome_of_mem hretry⟩

variable (now limit : ℤ)

theorem nodup_dueDeliveries : ((dueDeliveries now limit s).map Prod.fst).Nodup := by
  unfold dueDeliveries
  rw [List.map_map]
  refine List.Nodup.sublist ((List.take_sublist _ _).map _) ?_
  exact (((List.mergeSort_perm _ _).map _).nodup_iff).mpr (s.deliveries.nodup_list _)

theorem advances_retryFailedDeliveries :
    Advances s (run (retryFailedDeliveries env now limit) s).2 := by
  have hloop : Advances s (run (retryEach env (dueDeliveries now limit s) 0 0) s).2 :=
    advances_retryEach (nodup_dueDeliveries now limit) (fun _ => mem_dueDeliveries) 0 0
  unfold retryFailedDeliveries
  rw [run_read_bind, snd_run_bind_readOnly _ fun _ => readOnly_pure _]
  exact hloop

theorem advances_dispatchProcurementEvent (input : DispatchProcurementWebhookInput) :
    Advances s (run (dispatchProcurementEvent env input) s).2 := by
  refine forEach_rel Advances.refl (fun _ _ _ => Advances.trans) (fun row s => ?_) _ s
  rw [snd_run_attempt_bind_pure]
  exact advances_deliverToSubscription row.1 row.2 input none

theorem advances_replayDelivery (id : ℕ) :
    Advances s (run (replayDelivery env now id) s).2 := by
  unfold replayDelivery
  rw [run_read_bind]
  cases s.deliveries.find id with
  | none => exact .refl s
  | some delivery =>
    dsimp only [Option.map_some]
    split
    · exact .refl s
    · exact advances_deliverToSubscription _ _ _ _

theorem advances_replayEach (times : ℕ → ℤ) (rows : List LoadedDelivery) :
    Advances s (run (replayEach env times rows) s).2 := by
  refine forEach_rel Advances.refl (fun _ _ _ => Advances.trans) (fun row s => ?_) rows s
  obtain ⟨id, delivery, found⟩ := row
  cases found with
  | none => exact .refl s
  | some subscription =>
    rw [snd_run_bind_readOnly _ fun _ => readOnly_pure _]
    exact advances_deliverToSubscription _ _ _ _

theorem onlyReads_getReplayTerminalFailureCandidates (dto : ReplayTerminalFailuresDto) :
    OnlyReads (getReplayTerminalFailureCandidates env dto) := by
  have hcursor : OnlyReads (parseCursor env dto.cursor) := by
    unfold parseCursor
    split
    · exact onlyReads_pure _
    · split
      · exact onlyReads_throw _
      · exact onlyReads_pure _
  exact hcursor.bind fun _ => onlyReads_read _

theorem onlyReads_assertReplayTerminalFailureExecutionAllowed (now : ℤ) (dto : ReplayTerminalFailuresDto)
    (signature : ReplaySignature) (count : ℕ) :
    OnlyReads (assertReplayTerminalFailureExecutionAllowed env now dto signature count) := by
  unfold assertReplayTerminalFailureExecutionAllowed
  split_ifs
  · exact onlyReads_pure _
  · split
    · exact onlyReads_throw _
    · split
      · exact onlyReads_throw _
      · exact (onlyReads_throwIf _ _).bind fun _ => onlyReads_throwIf _ _

theorem advances_replayTerminalFailures (times : ℕ → ℤ) (dto : ReplayTerminalFailuresDto) :
    Advances s (run (replayTerminalFailures env now times dto) s).2 := by
  unfold replayTerminalFailures
  rw [(onlyReads_getReplayTerminalFailureCandidates dto).readOnly.snd_run_bind]
  split
  · rw [(onlyReads_assertReplayTerminalFailureExecutionAllowed _ _ _ _).readOnly.snd_run_bind]
    split
    · exact advances_replayEach times _
    · exact .refl s
  · exact .refl s

end Run

/-! ### Runs -/

/-- A call of the service, or whatever is made of the subscriptions by their administrators. -/
inductive WebhookCall where
  | dispatchProcurementEvent (input : DispatchProcurementWebhookInput)
  | retryFailedDeliveries (now limit : ℤ)
  | replayDelivery (now : ℤ) (id : ℕ)
  | replayTerminalFailures (now : ℤ) (times : ℕ → ℤ) (dto : ReplayTerminalFailuresDto)
  | administer (subscriptions : SerialTable ProcurementWebhookSubscription)

def WebhookCall.step (env : WebhookRuntime) (s : WebhookStore) : WebhookCall → WebhookStore
  | .dispatchProcurementEvent input => (run (ProcurementWebhooks.dispatchProcurementEvent env input) s).2
  | .retryFailedDeliveries now limit => (run (ProcurementWebhooks.retryFailedDeliveries env now limit) s).2
  | .replayDelivery now id => (run (ProcurementWebhooks.replayDelivery env now id) s).2
  | .replayTerminalFailures now times dto =>
    (run (ProcurementWebhooks.replayTerminalFailures env now times dto) s).2
  | .administer subscriptions => { s with subscriptions }

/-- Subscriptions to which nothing was delivered yet. -/
def WebhookStore.undelivered (subscriptions : SerialTable ProcurementWebhookSubscription) : WebhookStore :=
  ⟨subscriptions, .empty, []⟩

theorem consistent_undelivered (subscriptions : SerialTable ProcurementWebhookSubscription) :
    (WebhookStore.undelivered subscriptions).Consistent := by
  refine ⟨fun id delivery hfind => ?_, fun _ _ => rfl⟩
  cases hfind

theorem advances_step (env : WebhookRuntime) (s : WebhookStore) (c : WebhookCall) : Advances s (c.step env s) := by
  cases c with
  | dispatchProcurementEvent input => exact advances_dispatchProcurementEvent input
  | retryFailedDeliveries now limit => exact advances_retryFailedDeliveries now limit
  | replayDelivery now id => exact advances_replayDelivery now id
  | replayTerminalFailures now times dto => exact advances_replayTerminalFailures now times dto
  | administer subscriptions => exact fun h => ⟨⟨h.follows, h.unmade⟩, fun _ _ hfind _ => ⟨hfind, rfl⟩⟩

end SuuqBackend
