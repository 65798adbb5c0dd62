import SuuqBackend.Orders.OrderPayments

/-!
# Payouts of order items

An attempt to pay an item out looks at the newest payout log of the item.  After a payment whose debit fails the
newest log is a `FAILED` one, and the next attempt pays again.
-/

namespace SuuqBackend

open Proc OrderPayments SerialTable

def OrderPayoutLog.IsFor (log : OrderPayoutLog) (itemId : ℕ) : Prop :=
  log.orderItemId = some itemId ∧ log.provider = .ebirr
deriving Decidable

namespace OrderStore

/-- The number of payments that Ebirr has made for an item. -/
def paidCount (s : OrderStore) (itemId : ℕ) : ℕ := s.payouts.countP fun payout => payout.1 = itemId

/-- The item has a log of a payout that succeeded. -/
def HasSuccess (s : OrderStore) (itemId : ℕ) : Prop :=
  ∃ logId log, s.payoutLogs.find logId = some log ∧ log.IsFor itemId ∧ log.status = .success

/-- The items that were paid out are those with a log of a success. -/
def PayoutsRecorded (s : OrderStore) : Prop := ∀ itemId, 0 < s.paidCount itemId ↔ s.HasSuccess itemId

variable {s : OrderStore} {itemId : ℕ} {log log' : OrderPayoutLog}

theorem hasSuccess_iff : s.HasSuccess itemId ↔
    (s.payoutLogs.first fun log => log.IsFor itemId ∧ log.status = .success).isSome = true := by
  constructor
  · rintro ⟨logId, log, hfind, hlog⟩
    rw [Option.isSome_iff_ne_none]
    intro hnone
    have hany := any_find_of_first_eq_none hnone logId
    rw [hfind] at hany
    exact of_decide_eq_false hany hlog
  · intro h
    obtain ⟨⟨logId, log⟩, hfirst⟩ := Option.isSome_iff_exists.mp h
    obtain ⟨hfind, hlog⟩ := find_of_first hfirst
    exact ⟨logId, log, hfind, of_decide_eq_true hlog⟩

instance (s : OrderStore) (itemId : ℕ) : Decidable (s.HasSuccess itemId) := decidable_of_iff _ hasSuccess_iff.symm

theorem hasSuccess_congr {s' : OrderStore} (h : s'.payoutLogs = s.payoutLogs) :
    s'.HasSuccess itemId ↔ s.HasSuccess itemId := by
  unfold HasSuccess
  rw [h]

theorem hasSuccess_add (s : OrderStore) (log : OrderPayoutLog) (itemId : ℕ) :
    ({ s with payoutLogs := s.payoutLogs.add log } : OrderStore).HasSuccess itemId ↔
      s.HasSuccess itemId ∨ log.IsFor itemId ∧ log.status = .success := by
  constructor
  · rintro ⟨logId, found, hfind, hfound⟩
    rcases eq_or_find_of_find_add hfind with ⟨-, rfl⟩ | hold
    · exact .inr hfound
    · exact .inl ⟨logId, found, hold, hfound⟩
  · rintro (⟨logId, found, hfind, hfound⟩ | hlog)
    · exact ⟨logId, found, find_add_of_find hfind log, hfound⟩
    · exact ⟨s.payoutLogs.next, log, find_add_self _ _, hlog⟩

theorem hasSuccess_set {logId : ℕ} (h : s.payoutLogs.find logId = some log)
    (hkept : ∀ itemId, log.IsFor itemId ∧ log.status = .success → log'.IsFor itemId ∧ log'.status = .success)
    (itemId : ℕ) : ({ s with payoutLogs := s.payoutLogs.set logId log' } : OrderStore).HasSuccess itemId ↔
      s.HasSuccess itemId ∨ log'.IsFor itemId ∧ log'.status = .success := by
  constructor
  · rintro ⟨foundId, found, hfind, hfound⟩
    rcases eq_or_find_of_find_set hfind with ⟨-, rfl⟩ | ⟨-, hold⟩
    · exact .inr hfound
    · exact .inl ⟨foundId, found, hold, hfound⟩
  · rintro (⟨foundId, found, hfind, hfound⟩ | hlog)
    · by_cases hsame : foundId = logId
      · subst hsame
        cases h.symm.trans hfind
        exact ⟨foundId, log', find_set_self h log', hkept itemId hfound⟩
      · exact ⟨foundId, found, (find_set_of_ne _ _ hsame).trans hfind, hfound⟩
    · exact ⟨logId, log', find_set_self h log', hlog⟩

end OrderStore

/-! ### One attempt -/

/-- The payments and the successes after an attempt for an item: one more if it pays. -/
structure PayoutEffect (itemId : ℕ) (pays : Prop) [Decidable pays] (s s' : OrderStore) : Prop where
  paidCount_eq : ∀ id, s'.paidCount id = s.paidCount id + if pays ∧ id = itemId then 1 else 0
  hasSuccess_iff : ∀ id, s'.HasSuccess id ↔ s.HasSuccess id ∨ pays ∧ id = itemId

section Attempt

variable {env : PaymentRuntime} {orderId : ℕ} {loaded : LoadedItem} {vendorId : ℕ} {phone : String} {s s' : OrderStore}

variable {itemId logId : ℕ} {pays : Prop} {log : OrderPayoutLog}

theorem payoutEffect_of_not [Decidable pays] (hnot : ¬ pays)
    (hpayouts : s'.payouts = s.payouts) (hlogs : ∀ id, s'.HasSuccess id ↔ s.HasSuccess id) :
    PayoutEffect itemId pays s s' where
  paidCount_eq id := by
    rw [if_neg fun hboth => hnot hboth.1, add_zero]
    unfold OrderStore.paidCount
    rw [hpayouts]
  hasSuccess_iff id := (hlogs id).trans (or_iff_left fun hboth => hnot hboth.1).symm

theorem payoutEffect_refl [Decidable pays] (hnot : ¬ pays) (s : OrderStore) : PayoutEffect itemId pays s s :=
  payoutEffect_of_not hnot rfl fun _ => Iff.rfl

theorem payoutEffect_insertFailed (itemId : ℕ) [Decidable pays] (hnot : ¬ pays) (s : OrderStore)
    (hlog : log.status ≠ .success) : PayoutEffect itemId pays s { s with payoutLogs := s.payoutLogs.add log } :=
  payoutEffect_of_not hnot rfl fun id =>
    (OrderStore.hasSuccess_add s log id).trans (or_iff_left fun hboth => hlog hboth.2)

theorem snd_run_debitVendor (s : OrderStore) :
    ∃ wallet, (run (debitVendor env orderId loaded vendorId) s).2 = { s with wallet } := by
  unfold debitVendor
  cases env.debitFails loaded.item.id with
  | some message => exact ⟨s.wallet, rfl⟩
  | none => exact ⟨_, congrArg Prod.snd (run_zoom _ _ _)⟩

theorem reconcileRequired_spec (orderId : ℕ) (loaded : LoadedItem) (vendorId : ℕ) (phone : String)
    {paidLog : OrderPayoutLog} (h : s.payoutLogs.find logId = some paidLog) (message : String) :
    (run (reconcileRequired orderId loaded vendorId phone logId paidLog message) s).2.payouts = s.payouts ∧
      ∀ id, (run (reconcileRequired orderId loaded vendorId phone logId paidLog message) s).2.HasSuccess id ↔
        s.HasSuccess id := by
  refine ⟨rfl, fun id => ?_⟩
  unfold reconcileRequired savePayoutLog
  rw [run_write_bind]
  generalize hmarked : ({ paidLog with failureReason := _ } : OrderPayoutLog) = marked
  have hkept : ∀ itemId, paidLog.IsFor itemId ∧ paidLog.status = .success ↔
      marked.IsFor itemId ∧ marked.status = .success := by
    intro itemId
    rw [← hmarked]
    exact Iff.rfl
  refine (OrderStore.hasSuccess_add _ _ id).trans ?_
  rw [or_iff_left (by rintro ⟨-, hstatus⟩; cases hstatus),
    OrderStore.hasSuccess_set h (fun itemId => (hkept itemId).mp), ← hkept]
  exact or_iff_left_of_imp fun hboth => ⟨logId, paidLog, h, hboth⟩

variable (env orderId loaded vendorId phone) in
theorem payoutSent_spec (hlog : s.payoutLogs.find logId = some log)
    (hpending : log.status ≠ .success) (data : PayoutData) :
    (run (payoutSent env orderId loaded vendorId phone logId data) s).2.payouts = s.payouts ∧
      ∀ id, (run (payoutSent env orderId loaded vendorId phone logId data) s).2.HasSuccess id ↔
        s.HasSuccess id ∨ id = loaded.item.id := by
  unfold payoutSent savePayoutLog
  rw [run_write_bind]
  generalize hpaidLog : payoutLogOf orderId loaded vendorId phone (providerReferenceOf orderId loaded data) .success
    none = paidLog
  have hown : ∀ id, paidLog.IsFor id ∧ paidLog.status = .success ↔ id = loaded.item.id := by
    intro id
    rw [← hpaidLog]
    constructor
    · rintro ⟨⟨hid, -⟩, -⟩
      exact (Option.some_inj.mp hid).symm
    · rintro rfl
      exact ⟨⟨rfl, rfl⟩, rfl⟩
  have hsuccess : ∀ id, ({ s with payoutLogs := s.payoutLogs.set logId paidLog } : OrderStore).HasSuccess id ↔
      s.HasSuccess id ∨ id = loaded.item.id := by
    intro id
    rw [OrderStore.hasSuccess_set hlog (fun _ hboth => absurd hboth.2 hpending), hown]
  have hfind : (s.payoutLogs.set logId paidLog).find logId = some paidLog := find_set_self hlog paidLog
  generalize hs₁ : ({ s with payoutLogs := s.payoutLogs.set logId paidLog } : OrderStore) = s₁ at hsuccess ⊢
  obtain ⟨wallet, hwallet⟩ : ∃ wallet, (run (debitVendor env orderId loaded vendorId) s₁).2 = { s₁ with wallet } :=
    snd_run_debitVendor s₁
  rw [run_bind_of_ok (run_attempt _ _), hwallet]
  have hpayouts : s₁.payouts = s.payouts := hs₁ ▸ rfl
  cases (run (debitVendor env orderId loaded vendorId) s₁).1 with
  | ok tx => exact ⟨hpayouts, hsuccess⟩
  | error debitError =>
    have hfind₂ : ({ s₁ with wallet } : OrderStore).payoutLogs.find logId = some paidLog := hs₁ ▸ hfind
    obtain ⟨hsame, hlogs⟩ := reconcileRequired_spec orderId loaded vendorId phone hfind₂ debitError.message
    refine ⟨hsame.trans hpayouts, fun id => (hlogs id).trans ?_⟩
    exact (OrderStore.hasSuccess_congr rfl).trans (hsuccess id)

theorem run_sendPayout_of_error {message : String}
    (h : env.sendPayout (payoutOf orderId loaded phone) = .error message) (s : OrderStore) :
    run (attempt (sendPayout env orderId loaded phone) : OrderProc _) s = (.ok (.error message), s) := by
  unfold sendPayout
  rw [h]
  rfl

theorem run_sendPayout_of_ok {data : PayoutData} (h : env.sendPayout (payoutOf orderId loaded phone) = .ok data)
    (s : OrderStore) :
    run (attempt (sendPayout env orderId loaded phone) : OrderProc _) s =
      (.ok (.ok data), s.pay loaded.item.id (payoutOf orderId loaded phone)) := by
  unfold sendPayout
  rw [h]
  rfl

theorem payoutEffect_payoutRefused [Decidable pays] (hnot : ¬ pays)
    (hlog : s.payoutLogs.find logId = some log) (hpending : log.status ≠ .success) (message : String) :
    PayoutEffect itemId pays s (run (payoutRefused env orderId loaded vendorId phone logId message) s).2 := by
  refine payoutEffect_of_not hnot rfl fun id => ?_
  refine (OrderStore.hasSuccess_set hlog (fun _ hboth => absurd hboth.2 hpending) id).trans ?_
  exact or_iff_left (by rintro ⟨-, hfailed⟩; cases hfailed)

theorem payoutEffect_payoutSent (hlog : s.payoutLogs.find logId = some log)
    (hpending : log.status ≠ .success) (payout : Payout) (data : PayoutData) [Decidable pays] (hpays : pays) :
    PayoutEffect loaded.item.id pays s
      (run (payoutSent env orderId loaded vendorId phone logId data) (s.pay loaded.item.id payout)).2 := by
  have hlog' : (s.pay loaded.item.id payout).payoutLogs.find logId = some log := hlog
  obtain ⟨hpayouts, hlogs⟩ := payoutSent_spec env orderId loaded vendorId phone hlog' hpending data
  refine ⟨fun id => ?_, fun id => ?_⟩
  · have hcount : (run (payoutSent env orderId loaded vendorId phone logId data)
        (s.pay loaded.item.id payout)).2.paidCount id =
          (s.payouts ++ [(loaded.item.id, payout)]).countP fun payout => payout.1 = id :=
      congrArg (List.countP fun payout : ℕ × Payout => payout.1 = id) hpayouts
    rw [hcount, List.countP_append, List.countP_singleton]
    refine congrArg _ (if_congr ?_ rfl rfl)
    rw [decide_eq_true_iff]
    exact ⟨fun heq => ⟨hpays, heq.symm⟩, fun hboth => hboth.2.symm⟩
  · refine (hlogs id).trans ?_
    exact or_congr_right ⟨fun heq => ⟨hpays, heq⟩, fun hboth => hboth.2⟩

theorem PayoutEffect.trans_of_not {s'' : OrderStore} {pays' : Prop} [Decidable pays]
    [Decidable pays'] (hnot : ¬ pays) (h : PayoutEffect itemId pays s s') (h' : PayoutEffect itemId pays' s' s'') :
    PayoutEffect itemId pays' s s'' where
  paidCount_eq id := by
    rw [h'.paidCount_eq, h.paidCount_eq, if_neg fun hboth => hnot hboth.1, add_zero]
  hasSuccess_iff id := by
    rw [h'.hasSuccess_iff, h.hasSuccess_iff]
    exact or_congr_left (or_iff_left fun hboth => hnot hboth.1)

variable (env orderId loaded vendorId phone) in
theorem payoutEffect_requestPayout (s : OrderStore) :
    PayoutEffect loaded.item.id ((env.sendPayout (payoutOf orderId loaded phone)).isOk = true) s
      (run (requestPayout env orderId loaded vendorId phone) s).2 := by
  have hstatus : (pendingLogOf env orderId loaded vendorId phone).status ≠ .success := PayoutStatus.noConfusion
  have hinsert := payoutEffect_insertFailed loaded.item.id not_false s hstatus
  have hfind : (s.payoutLogs.add (pendingLogOf env orderId loaded vendorId phone)).find s.payoutLogs.next =
      some (pendingLogOf env orderId loaded vendorId phone) := find_add_self _ _
  unfold requestPayout insertPayoutLog
  rw [step_bind, run_step, pure_bind]
  refine hinsert.trans_of_not not_false ?_
  cases hanswer : env.sendPayout (payoutOf orderId loaded phone) with
  | error message =>
    rw [run_bind_of_ok (run_sendPayout_of_error hanswer _)]
    exact payoutEffect_payoutRefused Bool.false_ne_true hfind hstatus message
  | ok data =>
    rw [run_bind_of_ok (run_sendPayout_of_ok hanswer _)]
    exact payoutEffect_payoutSent hfind hstatus _ data rfl

/-- The attempt asks Ebirr for a payment, which is made. -/
def PaysOut (env : PaymentRuntime) (orderId : ℕ) (loaded : LoadedItem) (force : Bool) (s : OrderStore) : Prop :=
  (force = true ∨ env.autoEbirrPayout = true) ∧ 0 < loaded.item.vendorPayout.value ∧
    (∀ existing ∈ s.latestPayout loaded.item.id, ¬ Holds existing.2) ∧
      ∃ vendor ∈ loaded.vendor, resolveVendorPayoutPhone vendor.2 ≠ "" ∧
        (env.sendPayout (payoutOf orderId loaded (resolveVendorPayoutPhone vendor.2))).isOk = true
deriving Decidable

theorem payoutEffect_payoutVendor {vendor : User} (hvendor : loaded.vendor = some (vendorId, vendor)) {force : Bool}
    (hforce : force = true ∨ env.autoEbirrPayout = true) (hpositive : 0 < loaded.item.vendorPayout.value)
    (hlatest : ∀ existing ∈ s.latestPayout loaded.item.id, ¬ Holds existing.2) :
    PayoutEffect loaded.item.id (PaysOut env orderId loaded force s) s
      (run (payoutVendor env orderId loaded vendorId vendor) s).2 := by
  unfold payoutVendor
  dsimp only
  split_ifs with hphone
  · have hnot : ¬ PaysOut env orderId loaded force s := by
      rintro ⟨-, -, -, found, hfound, hne, -⟩
      cases hvendor.symm.trans hfound
      exact hne hphone
    exact payoutEffect_insertFailed loaded.item.id hnot s PayoutStatus.noConfusion
  · have hiff : PaysOut env orderId loaded force s ↔
        (env.sendPayout (payoutOf orderId loaded (resolveVendorPayoutPhone vendor))).isOk = true := by
      constructor
      · rintro ⟨-, -, -, found, hfound, -, hanswer⟩
        cases hvendor.symm.trans hfound
        exact hanswer
      · exact fun hanswer => ⟨hforce, hpositive, hlatest, (vendorId, vendor), hvendor, hphone, hanswer⟩
    have heffect := payoutEffect_requestPayout env orderId loaded vendorId (resolveVendorPayoutPhone vendor) s
    refine ⟨fun id => ?_, fun id => ?_⟩
    · rw [heffect.paidCount_eq]
      exact congrArg _ (if_congr (and_congr_left' hiff.symm) rfl rfl)
    · rw [heffect.hasSuccess_iff, hiff]

/-- **What an attempt does**: it makes one payment and logs one success for its item when it pays, and none
otherwise. -/
theorem payoutEffect_tryAutoEbirrPayoutForItem (env : PaymentRuntime) (orderId : ℕ) (loaded : LoadedItem)
    (force : Bool) (s : OrderStore) :
    PayoutEffect loaded.item.id (PaysOut env orderId loaded force s) s
      (run (tryAutoEbirrPayoutForItem env orderId loaded force) s).2 := by
  unfold tryAutoEbirrPayoutForItem
  by_cases hskip : ¬ force = true ∧ ¬ env.autoEbirrPayout = true
  · rw [if_pos hskip]
    refine payoutEffect_refl (fun hpays => ?_) s
    rcases hpays.1 with htrue | htrue
    · exact hskip.1 htrue
    · exact hskip.2 htrue
  have hforce : force = true ∨ env.autoEbirrPayout = true := by
    by_contra hnone
    exact hskip (not_or.mp hnone)
  rw [if_neg hskip]
  cases hvendor : loaded.vendor with
  | none =>
    refine payoutEffect_refl ?_ s
    rintro ⟨-, -, -, found, hfound, -⟩
    cases hvendor.symm.trans hfound
  | some found =>
    dsimp only
    by_cases hpositive : loaded.item.vendorPayout.value ≤ 0
    · rw [if_pos hpositive]
      exact payoutEffect_refl (fun hpays => not_lt_of_ge hpositive hpays.2.1) s
    rw [if_neg hpositive, run_read_bind]
    by_cases hholds : (s.latestPayout loaded.item.id).any (fun found => Holds found.2) = true
    · rw [if_pos hholds]
      refine payoutEffect_refl (fun hpays => ?_) s
      cases hlatest : s.latestPayout loaded.item.id with
      | none =>
        rw [hlatest] at hholds
        cases hholds
      | some existing =>
        rw [hlatest] at hholds
        exact hpays.2.2.1 existing hlatest (of_decide_eq_true hholds)
    · rw [if_neg hholds]
      refine payoutEffect_payoutVendor hvendor hforce (not_le.mp hpositive) fun existing hexisting hhold => ?_
      refine hholds ?_
      rw [show s.latestPayout loaded.item.id = some existing from hexisting]
      exact decide_eq_true hhold

end Attempt

/-! ### Runs -/

inductive PayoutCall where
  | tryAutoEbirrPayoutForItem (env : PaymentRuntime) (orderId : ℕ) (loaded : LoadedItem)
  | retryFailedAutoPayout (env : PaymentRuntime) (payoutLogId : ℕ)

namespace PayoutCall

def proc : PayoutCall → OrderProc Unit
  | tryAutoEbirrPayoutForItem env orderId loaded =>
    OrderPayments.tryAutoEbirrPayoutForItem env orderId loaded false
  | retryFailedAutoPayout env payoutLogId => do
    let _ ← OrderPayments.retryFailedAutoPayout env payoutLogId

def step (s : OrderStore) (call : PayoutCall) : OrderStore := (call.proc.run s).2

def retried (s : OrderStore) (payoutLogId : ℕ) : Option (ℕ × LoadedItem) := do
  let payout ← s.payoutLogs.find payoutLogId
  guard (payout.provider = .ebirr ∧ payout.status = .failed)
  let orderId ← payout.orderId
  let orderItemId ← payout.orderItemId
  let (_, items) ← s.loadOrder orderId
  let loaded ← items.find? fun loaded => loaded.item.id = orderItemId
  return (orderId, loaded)

def RepaysPaid (s : OrderStore) : PayoutCall → Prop
  | tryAutoEbirrPayoutForItem env orderId loaded =>
    PaysOut env orderId loaded false s ∧ s.HasSuccess loaded.item.id
  | retryFailedAutoPayout env payoutLogId =>
    ∃ found ∈ retried s payoutLogId, PaysOut env found.1 found.2 true s ∧ s.HasSuccess found.2.item.id

instance (s : OrderStore) (call : PayoutCall) : Decidable (call.RepaysPaid s) := by
  cases call <;> unfold RepaysPaid <;> infer_instance

end PayoutCall

section Runs

variable {s : OrderStore}

theorem snd_run_retryFailedAutoPayout (env : PaymentRuntime) (payoutLogId : ℕ) (s : OrderStore) :
    (run (retryFailedAutoPayout env payoutLogId) s).2 = (PayoutCall.retried s payoutLogId).elim s fun found =>
      (run (tryAutoEbirrPayoutForItem env found.1 found.2 true) s).2 := by
  unfold retryFailedAutoPayout PayoutCall.retried
  rw [run_read_bind]
  cases s.payoutLogs.find payoutLogId with
  | none => rfl
  | some payout =>
    by_cases hprovider : payout.provider = .ebirr
    · by_cases hstatus : payout.status = .failed
      · rw [run_throwIf_bind, run_throwIf_bind]
        simp only [hprovider, hstatus, and_self, guard_true, Option.bind_eq_bind, Option.bind_some, Option.pure_def]
        cases payout.orderId with
        | none => rfl
        | some orderId =>
          cases payout.orderItemId with
          | none => rfl
          | some orderItemId =>
            dsimp only [Option.bind_some]
            rw [run_read_bind]
            cases s.loadOrder orderId with
            | none => rfl
            | some found =>
              obtain ⟨order, items⟩ := found
              dsimp only [Option.bind_some]
              cases items.find? fun loaded => loaded.item.id = orderItemId with
              | none => rfl
              | some loaded =>
                exact snd_run_bind_readOnly _ (fun _ => (readOnly_read _).bind fun _ => readOnly_pure _) s
      · rw [run_throwIf_bind, if_neg (not_not.mpr hprovider)]
        simp [hstatus]
    · simp [hprovider]

/-- **What a call does**: one payment and one success for an item that it pays out, and none otherwise. -/
theorem payout_step_cases (s : OrderStore) (call : PayoutCall) :
    (¬ call.RepaysPaid s ∧ call.step s = s) ∨ ∃ itemId pays, ∃ _ : Decidable pays,
      (call.RepaysPaid s ↔ pays ∧ s.HasSuccess itemId) ∧ PayoutEffect itemId pays s (call.step s) := by
  cases call with
  | tryAutoEbirrPayoutForItem env orderId loaded =>
    exact .inr ⟨loaded.item.id, _, inferInstance, Iff.rfl,
      payoutEffect_tryAutoEbirrPayoutForItem env orderId loaded false s⟩
  | retryFailedAutoPayout env payoutLogId =>
    have hrun : PayoutCall.step s (.retryFailedAutoPayout env payoutLogId) =
        (run (retryFailedAutoPayout env payoutLogId) s).2 :=
      snd_run_bind_readOnly _ (fun _ => readOnly_pure ()) s
    rw [hrun, snd_run_retryFailedAutoPayout]
    cases hretried : PayoutCall.retried s payoutLogId with
    | none =>
      refine .inl ⟨?_, rfl⟩
      rintro ⟨found, hfound, -⟩
      cases hretried.symm.trans hfound
    | some found =>
      refine .inr ⟨found.2.item.id, PaysOut env found.1 found.2 true s, inferInstance, ?_, ?_⟩
      · constructor
        · rintro ⟨found', hfound', hpays⟩
          cases hretried.symm.trans hfound'
          exact hpays
        · exact fun hpays => ⟨found, hretried, hpays⟩
      · exact payoutEffect_tryAutoEbirrPayoutForItem env found.1 found.2 true s

theorem payoutsRecorded_step (h : s.PayoutsRecorded) (call : PayoutCall) : (call.step s).PayoutsRecorded := by
  rcases payout_step_cases s call with ⟨-, hsame⟩ | ⟨itemId, pays, hdecidable, -, heffect⟩
  · rw [hsame]
    exact h
  · intro id
    rw [heffect.paidCount_eq, heffect.hasSuccess_iff, ← h id]
    split_ifs with hpaid
    · exact iff_of_true (Nat.succ_pos _) (.inr hpaid)
    · rw [add_zero, or_iff_left hpaid]

theorem paidCount_step_iff (h : s.PayoutsRecorded) (hs : ∀ itemId, s.paidCount itemId ≤ 1) (call : PayoutCall) :
    (∀ itemId, (call.step s).paidCount itemId ≤ 1) ↔ ¬ call.RepaysPaid s := by
  rcases payout_step_cases s call with ⟨hnot, hsame⟩ | ⟨itemId, pays, hdecidable, hrepays, heffect⟩
  · rw [hsame]
    exact iff_of_true hs hnot
  rw [hrepays]
  constructor
  · rintro honce ⟨hpays, hsuccess⟩
    have hpaid : 0 < s.paidCount itemId := (h itemId).mpr hsuccess
    have hmore := honce itemId
    rw [heffect.paidCount_eq, if_pos ⟨hpays, rfl⟩] at hmore
    omega
  · intro hnot id
    rw [heffect.paidCount_eq]
    split_ifs with hpaid
    · obtain ⟨hpays, rfl⟩ := hpaid
      have hnone : ¬ 0 < s.paidCount id := fun hpos => hnot ⟨hpays, (h id).mp hpos⟩
      omega
    · exact hs id

/-- **An item is paid out at most once**: in every run of automatic payouts and retries, whatever Ebirr and the debits
answer, if and only if no call has a payment made for an item that has a log of a success already (which is then not
its newest log). -/
theorem paid_out_once_iff {s₀ : OrderStore} (hs₀ : s₀.PayoutsRecorded) (honce : ∀ itemId, s₀.paidCount itemId ≤ 1)
    (calls : List PayoutCall) :
    (∀ n itemId, (Run.after PayoutCall.step s₀ (calls.take n)).paidCount itemId ≤ 1) ↔
      Run.Along PayoutCall.step (fun s call => ¬ call.RepaysPaid s) s₀ calls := by
  have hstep : ∀ s call, OrderStore.PayoutsRecorded s → True → (PayoutCall.step s call).PayoutsRecorded :=
    fun s call hs _ => payoutsRecorded_step hs call
  exact Run.forall_take_iff hstep (fun s call hs _ hP => paidCount_step_iff hs hP call) hs₀ honce
    (Run.along_of_forall fun _ _ => trivial)

end Runs

/-! ### Examples of runs -/

/-- A deployment that asks for automatic payouts, with an answer of Ebirr. -/
def payoutRuntime (answer : Except String PayoutData) : PaymentRuntime where
  now := 1700000000000
  autoEbirrPayout := true
  sendPayout _ := answer
  debitFails _ := none

def payoutMade : Except String PayoutData := .ok { referenceId := some "EB-1" }

def oneItemOrder (balance : ℤ) : OrderStore where
  orders := (∅ : Table ℕ Order).insert 1
    { items := [⟨11, some 7, 1, ⟨10000⟩, ⟨9500⟩, .pending⟩], paymentStatus := .unpaid, status := .pending,
      currency := "ETB" }
  products := (∅ : Table ℕ OrderedProduct).insert 7 ⟨"Basket", some 5, 0⟩
  payoutLogs := SerialTable.empty
  wallet :=
    { users := (∅ : Table ℕ User).insert 5 { currency := some "ETB", phoneNumber := some "0911" }
      uiSettings := ∅
      wallets := SerialTable.empty.add ⟨5, ⟨balance⟩, "ETB"⟩
      transactions := SerialTable.empty
      topUpRequests := SerialTable.empty }
  inventory := ⟨∅, ∅, ∅, []⟩
  payouts := []
  deliveries := []

theorem payoutsRecorded_oneItemOrder (balance : ℤ) : (oneItemOrder balance).PayoutsRecorded := by
  intro itemId
  refine iff_of_false (Nat.lt_irrefl 0) ?_
  rintro ⟨logId, log, hfind, -⟩
  cases hfind

def payoutOfItem (balance : ℤ) (answer : Except String PayoutData) : List PayoutCall :=
  (((oneItemOrder balance).loadOrder 1).elim [] fun found => found.2).map
    (.tryAutoEbirrPayoutForItem (payoutRuntime answer) 1)

/-- A payout that is refused, retried, and asked for twice more. -/
def retriedCalls : List PayoutCall :=
  payoutOfItem 9500 (.error "Timeout") ++ [.retryFailedAutoPayout (payoutRuntime payoutMade) 1] ++
    payoutOfItem 9500 payoutMade ++ [.retryFailedAutoPayout (payoutRuntime payoutMade) 1]

theorem paid_out_once_retriedCalls :
    let state (n : ℕ) := Run.after PayoutCall.step (oneItemOrder 9500) (retriedCalls.take n)
    ((state 1).paidCount 11 = 0 ∧ (state 4).paidCount 11 = 1) ∧ ∀ n itemId, (state n).paidCount itemId ≤ 1 :=
  ⟨by decide +kernel, (paid_out_once_iff (payoutsRecorded_oneItemOrder 9500) (fun _ => Nat.zero_le 1)
    retriedCalls).mpr (by decide +kernel)⟩

/-- The wallet does not cover the debit of the payout, and the log of that is retried. -/
theorem paid_out_twice :
    let state (n : ℕ) := Run.after PayoutCall.step (oneItemOrder 0)
      ((payoutOfItem 0 payoutMade ++ [PayoutCall.retryFailedAutoPayout (payoutRuntime payoutMade) 2]).take n)
    (state 1).paidCount 11 = 1 ∧ (state 2).paidCount 11 = 2 := by
  decide +kernel

end SuuqBackend
