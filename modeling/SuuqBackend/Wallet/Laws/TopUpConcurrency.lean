import SuuqBackend.Lib.Interleave
import SuuqBackend.Wallet.Laws.WalletOperations
import Mathlib.Algebra.BigOperators.Ring.Finset

/-!
# Top-ups and credits beside each other

`approveTopUp` reads its request before its transaction; the transaction updates the request and then locks the
wallet, so that no other call writes these rows until it commits, and it is one action.  `creditWallet` reads
the wallet without a lock, and publishes its record and the new balance when it commits.
-/

namespace SuuqBackend

open Proc Wallets SerialTable

/-- A call on the wallet of one user that runs beside others. -/
inductive CreditCall where
  | approveTopUp (env : WalletRuntime) (requestId : ℕ)
  | creditWallet (amount : ℚ) (type : TransactionType) (description : Option String) (orderId : Option ℕ)

namespace WalletStore

def balanceOf (s : WalletStore) (userId : ℕ) : ℤ :=
  (s.walletOf userId).elim 0 fun found => found.2.balance.hundredths

def IsApproved (s : WalletStore) (requestId : ℕ) : Prop :=
  ∃ request ∈ s.topUpRequests.find requestId, request.status = .approved
deriving Decidable

/-- No automatic upgrade is paid from the balance after the top-up. -/
def NoUpgrade (s : WalletStore) (env : WalletRuntime) (request : TopUpRequest) (wallet : Wallet) : Prop :=
  ∀ price ∈ s.autoCharge env request wallet.currency, wallet.balance.value + request.amount.value < (price : ℚ)
deriving Decidable

end WalletStore

/-- A half cent is not added to a balance of the other sign. -/
def AddsExactly (wallet : Wallet) (amount : ℚ) : Prop :=
  Int.fract (amount * 100) = 1 / 2 → (0 ≤ amount ↔ 0 ≤ wallet.balance.value + amount)
deriving Decidable

namespace CreditCall

def proc (userId : ℕ) : CreditCall → WalletProc Unit
  | approveTopUp env requestId => do let _ ← Wallets.approveTopUp env requestId
  | creditWallet amount type description orderId => do
    let _ ← isolated (runCredit userId amount type description orderId)

def commits : CreditCall → ℕ
  | approveTopUp .. => 2
  | creditWallet .. => 4

def Committed (call : CreditCall) (seen : List WalletStore) : Prop := call.commits ≤ seen.length
deriving Decidable

def Approves (requestId : ℕ) : CreditCall → Prop
  | approveTopUp _ requestId' => requestId' = requestId
  | creditWallet .. => False

instance (requestId : ℕ) (call : CreditCall) : Decidable (call.Approves requestId) := by
  cases call <;> unfold Approves <;> infer_instance

def amount (s₀ : WalletStore) : CreditCall → ℤ
  | approveTopUp _ requestId =>
    (s₀.topUpRequests.find requestId).elim 0 fun request => request.amount.hundredths
  | creditWallet amount _ _ _ => (Numeric2.ofRat amount).hundredths

def credited (s₀ : WalletStore) (call : CreditCall) (seen : List WalletStore) : ℤ :=
  if call.Committed seen then call.amount s₀ else 0

def approvals (requestId : ℕ) (call : CreditCall) (seen : List WalletStore) : ℤ :=
  if call.Approves requestId ∧ call.Committed seen then 1 else 0

def Credits (s₀ : WalletStore) (userId : ℕ) : CreditCall → Prop
  | approveTopUp _ requestId => ∀ request ∈ s₀.topUpRequests.find requestId, request.userId = userId
  | creditWallet .. => True

instance (s₀ : WalletStore) (userId : ℕ) (call : CreditCall) : Decidable (call.Credits s₀ userId) := by
  cases call <;> unfold Credits <;> infer_instance

/-- An approval of a pending request commits while the request is as it has read it, and a credit while the
wallet is; the one pays no upgrade from the wallet, the other adds its amount exactly. -/
def AsRead (userId : ℕ) (call : CreditCall) (seen : List WalletStore) (s : WalletStore) : Prop :=
  match call, seen with
  | approveTopUp env requestId, [s'] => ∀ request ∈ s'.topUpRequests.find requestId, request.status = .pending →
    s.topUpRequests.find requestId = some request ∧ ∀ found ∈ s.walletOf userId, s.NoUpgrade env request found.2
  | creditWallet amount _ _ _, [s', _, _] => s.walletOf userId = s'.walletOf userId ∧
    ∀ found ∈ s.walletOf userId, AddsExactly found.2 amount
  | _, _ => True

instance (userId : ℕ) (call : CreditCall) (seen : List WalletStore) (s : WalletStore) :
    Decidable (call.AsRead userId seen s) := by
  unfold AsRead
  split <;> infer_instance

end CreditCall

/-- The tables that the calls meet: the wallet of the user is there, the requests are the initial ones, or
approved from pending, and the settings are the initial ones. -/
structure CreditTables (s₀ : WalletStore) (userId walletId : ℕ) (s : WalletStore) : Prop where
  wallet : ∃ wallet, s.walletOf userId = some (walletId, wallet)
  requests : ∀ requestId, s.topUpRequests.find requestId = s₀.topUpRequests.find requestId ∨
    ∃ request, s₀.topUpRequests.find requestId = some request ∧ request.status = .pending ∧
      s.topUpRequests.find requestId = some (approved request)
  settings : s.uiSettings = s₀.uiSettings

variable {s₀ s c : WalletStore} {userId walletId requestId : ℕ} {request : TopUpRequest} {wallet : Wallet}

theorem CreditTables.find_of_pending (h : CreditTables s₀ userId walletId s)
    (hfind : s.topUpRequests.find requestId = some request) (hpending : request.status = .pending) :
    s₀.topUpRequests.find requestId = some request := by
  rcases h.requests requestId with hsame | ⟨request', -, -, happroved⟩
  · rw [← hsame, hfind]
  · rw [hfind] at happroved
    cases happroved
    cases hpending

/-! ### An approval -/

theorem run_runTopUp (h : s.walletOf request.userId = some (walletId, wallet)) :
    run (runTopUp requestId request) s =
      (.ok (wallet.balance.value + request.amount.value, wallet.currency),
        (s.setTopUpRequest requestId (approved request)).deposited walletId wallet request) := by
  have hfound : (s.setTopUpRequest requestId (approved request)).walletOf request.userId = some (walletId, wallet) := h
  have hwallet : run (walletToTopUp request.userId) (s.setTopUpRequest requestId (approved request)) =
      (.ok (walletId, wallet), s.setTopUpRequest requestId (approved request)) := by
    unfold walletToTopUp findWallet
    rw [run_read_bind, hfound]
    rfl
  unfold runTopUp
  rw [run_write_bind, run_bind_of_ok hwallet]
  rfl

variable (env : WalletRuntime)

theorem resume_approveTopUp_of_not_pending
    (h : ∀ request ∈ s.topUpRequests.find requestId, request.status ≠ .pending) (seen : List WalletStore) :
    ∃ e, ((CreditCall.approveTopUp env requestId).proc userId).resume (s :: seen) = .fail e := by
  unfold CreditCall.proc approveTopUp pendingTopUp
  simp only [bind_assoc]
  rw [resume_read_bind]
  cases hfind : s.topUpRequests.find requestId with
  | none => exact ⟨_, resume_fail _ _⟩
  | some request =>
    have hstatus := h request hfind
    unfold throwIf
    dsimp only
    rw [if_pos hstatus]
    exact ⟨_, resume_fail _ _⟩

theorem resume_approveTopUp_of_pending
    (hfind : s.topUpRequests.find requestId = some request) (hpending : request.status = .pending)
    (seen : List WalletStore) : ((CreditCall.approveTopUp env requestId).proc userId).resume (s :: seen) =
      (transaction (runTopUp requestId request) >>= fun deposit =>
        processAutoAction env request deposit.1 deposit.2).resume seen := by
  unfold CreditCall.proc approveTopUp pendingTopUp
  simp only [bind_assoc]
  rw [resume_read_bind, hfind]
  unfold throwIf
  dsimp only
  rw [if_neg (not_not.mpr hpending)]
  simp only [pure_bind, bind_pure_unit]

theorem approveTopUp_commits {t : WalletStore}
    (hfind : t.topUpRequests.find requestId = some request) (hpending : request.status = .pending)
    (hwallet : s.walletOf request.userId = some (walletId, wallet)) :
    ∃ act next, ((CreditCall.approveTopUp env requestId).proc userId).resume [t] = .step act next ∧
      act s = (s.setTopUpRequest requestId (approved request)).deposited walletId wallet request ∧
      next s = processAutoAction env request (wallet.balance.value + request.amount.value) wallet.currency := by
  have hrun : run (runTopUp requestId request) s = _ := run_runTopUp hwallet
  refine ⟨_, _, resume_approveTopUp_of_pending env hfind hpending [], ?_, ?_⟩
  · rw [hrun]
  · dsimp only
    rw [hrun]
    rfl

theorem processAutoAction_cases (request : TopUpRequest) (balance : ℚ) (currency : String) :
    processAutoAction env request balance currency = .done () ∨
    ∃ next, processAutoAction env request balance currency = .step id next ∧
      ∀ s : WalletStore, (∀ price ∈ s.autoCharge env request currency, balance < (price : ℚ)) → next s = .done () := by
  unfold processAutoAction
  split_ifs with haction
  · refine .inr ⟨_, rfl, fun s hs => ?_⟩
    unfold WalletStore.autoCharge at hs
    rw [if_pos haction] at hs
    dsimp only
    cases hraw : s.uiSettings.lookup "vendor_subscription_base_price" with
    | none => rfl
    | some rawPrice =>
      cases hprice : upgradePrice env rawPrice currency with
      | none =>
        simp only [Proc.bind, hprice]
        rfl
      | some price =>
        have hlt : balance < (price : ℚ) := by
          refine hs price ?_
          rw [hraw]
          exact hprice
        simp only [Proc.bind, hprice, if_neg (not_le.mpr hlt)]
        rfl
  · exact .inl rfl

/-! ### Where a call stands -/

inductive CreditStage (s₀ : WalletStore) (userId walletId : ℕ) (call : CreditCall) (seen : List WalletStore) :
    Prop where
  | idle : seen = [] → CreditStage s₀ userId walletId call seen
  | read (s : WalletStore) : CreditTables s₀ userId walletId s → seen = [s] →
    CreditStage s₀ userId walletId call seen
  /-- A credit keeps its transaction back. -/
  | entered (amount : ℚ) (type : TransactionType) (description : Option String) (orderId : Option ℕ)
    (s t : WalletStore) : CreditTables s₀ userId walletId s →
    call = .creditWallet amount type description orderId → seen = [s, t] →
    CreditStage s₀ userId walletId call seen
  /-- A credit keeps the new balance back. -/
  | saved (amount : ℚ) (type : TransactionType) (description : Option String) (orderId : Option ℕ)
    (s t u : WalletStore) : CreditTables s₀ userId walletId s →
    call = .creditWallet amount type description orderId → seen = [s, t, u] →
    CreditStage s₀ userId walletId call seen
  /-- A top-up has been made, and the price of an automatic upgrade that will not be paid is read. -/
  | upgrading (next : WalletStore → WalletProc Unit) : call.Committed seen →
    (call.proc userId).resume seen = .step id next →
    (∀ s, CreditTables s₀ userId walletId s → next s = .done ()) → CreditStage s₀ userId walletId call seen
  | ended : call.Committed seen → (call.proc userId).resume seen = .done () →
    CreditStage s₀ userId walletId call seen

/-- What a call does to the balance and to the requests as it goes from `seen` to `seen'`. -/
structure Credited (s₀ : WalletStore) (userId : ℕ) (call : CreditCall) (seen seen' : List WalletStore)
    (s s' : WalletStore) : Prop where
  balance : s'.balanceOf userId = s.balanceOf userId + (call.credited s₀ seen' - call.credited s₀ seen)
  requests : ∀ requestId, (if s'.IsApproved requestId then 1 else 0 : ℤ) =
    (if s.IsApproved requestId then 1 else 0) + (call.approvals requestId seen' - call.approvals requestId seen)

variable {call : CreditCall} {seen : List WalletStore}

theorem credited_of_iff {seen' : List WalletStore}
    (h : call.Committed seen' ↔ call.Committed seen) (s : WalletStore) : Credited s₀ userId call seen seen' s s where
  balance := by
    unfold CreditCall.credited
    simp only [h, sub_self, add_zero]
  requests requestId := by
    unfold CreditCall.approvals
    simp only [h, sub_self, add_zero]

theorem credited_of_lt (call : CreditCall) (seen : List WalletStore) (h : seen.length + 1 < call.commits)
    (s : WalletStore) : Credited s₀ userId call seen (seen ++ [s]) s s := by
  refine credited_of_iff (iff_of_false ?_ ?_) s
  · unfold CreditCall.Committed
    rw [List.length_append, List.length_singleton]
    omega
  · unfold CreditCall.Committed
    omega

theorem CreditCall.Committed.append (h : call.Committed seen) (s : WalletStore) : call.Committed (seen ++ [s]) := by
  unfold Committed at *
  rw [List.length_append]
  omega

theorem CreditCall.exists_proc_eq (call : CreditCall) (userId : ℕ) : ∃ next, call.proc userId = .step id next := by
  cases call with
  | approveTopUp env requestId => exact ⟨_, rfl⟩
  | creditWallet amount type description orderId => exact ⟨_, rfl⟩

theorem CreditCall.one_lt_commits (call : CreditCall) : 1 < call.commits := by
  cases call with
  | approveTopUp env requestId => exact Nat.lt_succ_self 1
  | creditWallet amount type description orderId => exact Nat.lt_add_of_pos_right (Nat.succ_pos 2)

theorem CreditCall.not_committed_nil (call : CreditCall) : ¬ call.Committed [] :=
  not_le.mpr (call.one_lt_commits.trans' Nat.one_pos)

/-! ### The commits -/

theorem balanceOf_of_walletOf (h : s.walletOf userId = some (walletId, wallet)) :
    s.balanceOf userId = wallet.balance.hundredths := by
  unfold WalletStore.balanceOf
  rw [h]
  rfl

theorem CreditTables.entered (h : CreditTables s₀ userId walletId s)
    (hwallet : s.walletOf userId = some (walletId, wallet)) (wallet' : Wallet)
    (huser : wallet'.userId = wallet.userId) (tx : WalletTransaction) :
    CreditTables s₀ userId walletId (s.entered walletId wallet' tx) where
  wallet := ⟨wallet', WalletStore.walletOf_entered hwallet huser⟩
  requests := h.requests
  settings := h.settings

theorem CreditTables.approved (h : CreditTables s₀ userId walletId s)
    (hfind : s.topUpRequests.find requestId = some request) (hpending : request.status = .pending) :
    CreditTables s₀ userId walletId (s.setTopUpRequest requestId (approved request)) where
  wallet := h.wallet
  requests requestId' := by
    by_cases hid : requestId' = requestId
    · subst hid
      exact .inr ⟨request, h.find_of_pending hfind hpending, hpending, find_set_self hfind _⟩
    · have hother : (s.setTopUpRequest requestId (Wallets.approved request)).topUpRequests.find requestId' =
          s.topUpRequests.find requestId' := find_set_of_ne _ _ hid
      rw [hother]
      exact h.requests requestId'
  settings := h.settings

theorem isApproved_setTopUpRequest (hfind : s.topUpRequests.find requestId = some request) (requestId' : ℕ) :
    (s.setTopUpRequest requestId (approved request)).IsApproved requestId' ↔
      requestId' = requestId ∨ s.IsApproved requestId' := by
  by_cases hid : requestId' = requestId
  · subst hid
    have hself : (s.setTopUpRequest requestId' (approved request)).topUpRequests.find requestId' =
        some (approved request) := find_set_self hfind _
    exact iff_of_true ⟨approved request, hself, rfl⟩ (.inl rfl)
  · have hother : (s.setTopUpRequest requestId (approved request)).topUpRequests.find requestId' =
        s.topUpRequests.find requestId' := find_set_of_ne _ _ hid
    unfold WalletStore.IsApproved
    rw [hother]
    exact (or_iff_right hid).symm

theorem credited_approveTopUp (h : CreditTables s₀ userId walletId s)
    (hwallet : s.walletOf userId = some (walletId, wallet))
    (hfind : s.topUpRequests.find requestId = some request) (hpending : request.status = .pending)
    (t u : WalletStore) :
    Credited s₀ userId (.approveTopUp env requestId) [t] [t, u] s
      ((s.setTopUpRequest requestId (approved request)).deposited walletId wallet request) where
  balance := by
    have hnew : ((s.setTopUpRequest requestId (approved request)).deposited walletId wallet request).walletOf userId =
        some (walletId, withBalance wallet (wallet.balance.value + request.amount.value)) :=
      WalletStore.walletOf_deposited request hwallet
    have hcredited : CreditCall.credited s₀ (.approveTopUp env requestId) [t, u] = request.amount.hundredths := by
      show (s₀.topUpRequests.find requestId).elim 0 _ = _
      rw [h.find_of_pending hfind hpending]
      rfl
    have hbefore : CreditCall.credited s₀ (.approveTopUp env requestId) [t] = 0 := rfl
    rw [balanceOf_of_walletOf hnew, balanceOf_of_walletOf hwallet, hcredited, hbefore, sub_zero]
    exact congrArg Numeric2.hundredths (Numeric2.ofRat_add_value wallet.balance request.amount)
  requests requestId' := by
    have happroved : ((s.setTopUpRequest requestId (approved request)).deposited walletId wallet
        request).IsApproved requestId' ↔ requestId' = requestId ∨ s.IsApproved requestId' := isApproved_setTopUpRequest hfind requestId'
    have hbefore : CreditCall.approvals requestId' (.approveTopUp env requestId) [t] = 0 :=
      if_neg fun hboth => Nat.not_succ_le_self 1 hboth.2
    rw [hbefore, sub_zero]
    by_cases hid : requestId' = requestId
    · subst hid
      have hnot : ¬ s.IsApproved requestId' := by
        rintro ⟨request', hrequest', hstatus⟩
        cases hfind.symm.trans hrequest'
        cases hpending.symm.trans hstatus
      have hcredited : CreditCall.approvals requestId' (.approveTopUp env requestId') [t, u] = 1 :=
        if_pos ⟨rfl, le_rfl⟩
      rw [if_pos (happroved.mpr (.inl rfl)), if_neg hnot, hcredited, zero_add]
    · have hother : CreditCall.approvals requestId' (.approveTopUp env requestId) [t, u] = 0 :=
        if_neg fun hboth => hid hboth.1.symm
      rw [hother, add_zero]
      exact if_congr (happroved.trans (or_iff_right hid)) rfl rfl

theorem credited_creditWallet_concurrently {amount : ℚ} (type : TransactionType) (description : Option String)
    (orderId : Option ℕ) (hwallet : s.walletOf userId = some (walletId, wallet))
    (hadds : AddsExactly wallet amount) (t u v w : WalletStore) :
    Credited s₀ userId (.creditWallet amount type description orderId) [t, u, v] [t, u, v, w] s
      (s.entered walletId (withBalance wallet (wallet.balance.value + amount))
        (creditTransaction walletId amount type description orderId)) where
  balance := by
    have hnew : (s.entered walletId (withBalance wallet (wallet.balance.value + amount))
        (creditTransaction walletId amount type description orderId)).walletOf userId =
          some (walletId, withBalance wallet (wallet.balance.value + amount)) :=
      WalletStore.walletOf_entered hwallet rfl
    have hbefore : CreditCall.credited s₀ (.creditWallet amount type description orderId) [t, u, v] = 0 := rfl
    rw [balanceOf_of_walletOf hnew, balanceOf_of_walletOf hwallet, hbefore, sub_zero]
    exact (Numeric2.hundredths_add_iff wallet.balance amount).mpr hadds
  requests requestId := by
    have hnone : ∀ seen, CreditCall.approvals requestId (.creditWallet amount type description orderId) seen = 0 :=
      fun seen => if_neg fun hboth => hboth.1
    rw [hnone, hnone, sub_zero, add_zero]
    rfl

theorem resume_creditWallet (amount : ℚ) (type : TransactionType) (description : Option String)
    (orderId : Option ℕ) (h : s.walletOf userId = some (walletId, wallet)) (seen : List WalletStore) :
    ((CreditCall.creditWallet amount type description orderId).proc userId).resume (s :: seen) =
      (Proc.step id fun _ => .step id fun _ => .step (fun c => c.entered walletId
        (withBalance wallet (wallet.balance.value + amount))
        (creditTransaction walletId amount type description orderId)) fun _ => .done ()).resume seen := by
  unfold CreditCall.proc isolated runCredit walletToCredit findWallet
  simp only [bind_assoc]
  rw [resume_isolatedAfter_read_bind]
  dsimp only [id_eq]
  rw [h]
  rfl

/-! ### One step -/

section

variable (hstage : CreditStage s₀ userId walletId call seen)

include hstage

theorem CreditStage.next (h : CreditTables s₀ userId walletId s)
    (hcredits : call.Credits s₀ userId) (hread : call.AsRead userId seen s) :
    (call.proc userId).resume seen = .done () ∨ (∃ e, (call.proc userId).resume seen = .fail e) ∨
    ∃ act next, (call.proc userId).resume seen = .step act next ∧ CreditTables s₀ userId walletId (act s) ∧
      CreditStage s₀ userId walletId call (seen ++ [s]) ∧ Credited s₀ userId call seen (seen ++ [s]) s (act s) := by
  cases hstage with
  | idle hseen =>
    subst hseen
    obtain ⟨next, hproc⟩ := call.exists_proc_eq userId
    refine .inr (.inr ⟨id, next, ?_, h, .read s h rfl, credited_of_lt call [] call.one_lt_commits s⟩)
    rw [resume_nil, hproc]
  | read t ht hseen =>
    subst hseen
    cases call with
    | approveTopUp env requestId =>
      by_cases hpending : ∃ request ∈ t.topUpRequests.find requestId, request.status = .pending
      swap
      · refine .inr (.inl (resume_approveTopUp_of_not_pending env (fun request hrequest hstatus => ?_) []))
        exact hpending ⟨request, hrequest, hstatus⟩
      obtain ⟨request, hrequest, hpending⟩ := hpending
      obtain ⟨hfind, hupgrade⟩ := hread request hrequest hpending
      obtain ⟨wallet, hwallet⟩ := h.wallet
      have huser : request.userId = userId := hcredits request (h.find_of_pending hfind hpending)
      have howner : s.walletOf request.userId = some (walletId, wallet) := huser ▸ hwallet
      obtain ⟨act, next, hresume, hact, hnext⟩ := approveTopUp_commits env hrequest hpending howner
      refine .inr (.inr ⟨act, next, hresume, ?_, ?_, ?_⟩)
      · rw [hact]
        exact (h.approved hfind hpending).entered hwallet
          (withBalance wallet (wallet.balance.value + request.amount.value)) rfl _
      · have hleft := resume_concat hresume s
        rw [hnext] at hleft
        rcases processAutoAction_cases env request (wallet.balance.value + request.amount.value) wallet.currency with
          hdone | ⟨next', hstep, hnext'⟩
        · rw [hdone] at hleft
          exact .ended le_rfl hleft
        · rw [hstep] at hleft
          refine .upgrading next' le_rfl hleft fun u hu => hnext' u ?_
          have hcharge : u.autoCharge env request wallet.currency = s.autoCharge env request wallet.currency := by
            unfold WalletStore.autoCharge
            rw [hu.settings, h.settings]
          rw [hcharge]
          exact hupgrade (walletId, wallet) hwallet
      · rw [hact]
        exact credited_approveTopUp env h hwallet hfind hpending t s
    | creditWallet amount type description orderId =>
      obtain ⟨wallet, hwallet⟩ := ht.wallet
      have hresume := resume_creditWallet amount type description orderId hwallet []
      exact .inr (.inr ⟨id, _, hresume, h, .entered amount type description orderId t s ht rfl rfl,
        credited_of_lt _ [t] (Nat.lt_add_of_pos_right Nat.two_pos) s⟩)
  | entered amount type description orderId t u ht hcall hseen =>
    subst hcall hseen
    obtain ⟨wallet, hwallet⟩ := ht.wallet
    have hresume := resume_creditWallet amount type description orderId hwallet [u]
    exact .inr (.inr ⟨id, _, hresume, h, .saved amount type description orderId t u s ht rfl rfl,
      credited_of_lt (.creditWallet amount type description orderId) [t, u] (Nat.lt_succ_self 3) s⟩)
  | saved amount type description orderId t u v ht hcall hseen =>
    subst hcall hseen
    obtain ⟨wallet, hwallet⟩ := ht.wallet
    obtain ⟨hsame, hadds⟩ := hread
    have hfound : s.walletOf userId = some (walletId, wallet) := hsame.trans hwallet
    have hresume := resume_creditWallet amount type description orderId hwallet [u, v]
    have hended := resume_creditWallet amount type description orderId hwallet [u, v, s]
    refine .inr (.inr ⟨_, fun _ => .done (), hresume, ?_, .ended le_rfl hended, ?_⟩)
    · exact h.entered hfound (withBalance wallet (wallet.balance.value + amount)) rfl _
    · exact credited_creditWallet_concurrently type description orderId hfound (hadds (walletId, wallet) hfound) t u v s
  | upgrading next hcommitted hresume hnext =>
    have hended : (call.proc userId).resume (seen ++ [s]) = .done () := by
      rw [resume_concat hresume, hnext s h]
    have hiff : call.Committed (seen ++ [s]) ↔ call.Committed seen :=
      iff_of_true (hcommitted.append s) hcommitted
    exact .inr (.inr ⟨id, next, hresume, h, .ended (hcommitted.append s) hended, credited_of_iff hiff s⟩)
  | ended hcommitted hresume => exact .inl hresume

theorem CreditStage.committed_of_done (hdone : (call.proc userId).resume seen = .done ()) : call.Committed seen := by
  cases hstage with
  | idle hseen =>
    obtain ⟨next, hproc⟩ := call.exists_proc_eq userId
    subst hseen
    rw [hproc] at hdone
    cases hdone
  | read t ht hseen =>
    subst hseen
    cases call with
    | approveTopUp env requestId =>
      by_cases hpending : ∃ request ∈ t.topUpRequests.find requestId, request.status = .pending
      · obtain ⟨request, hrequest, hpending⟩ := hpending
        rw [resume_approveTopUp_of_pending env hrequest hpending] at hdone
        cases hdone
      · have hnone : ∀ request ∈ t.topUpRequests.find requestId, request.status ≠ .pending :=
          fun request hrequest hstatus => hpending ⟨request, hrequest, hstatus⟩
        obtain ⟨e, hfail⟩ : ∃ e, ((CreditCall.approveTopUp env requestId).proc userId).resume [t] = .fail e :=
          resume_approveTopUp_of_not_pending env hnone []
        rw [hfail] at hdone
        cases hdone
    | creditWallet amount type description orderId =>
      obtain ⟨wallet, hwallet⟩ := ht.wallet
      rw [resume_creditWallet amount type description orderId hwallet] at hdone
      cases hdone
  | entered amount type description orderId t u ht hcall hseen =>
    obtain ⟨wallet, hwallet⟩ := ht.wallet
    subst hcall hseen
    rw [resume_creditWallet amount type description orderId hwallet] at hdone
    cases hdone
  | saved amount type description orderId t u v ht hcall hseen =>
    obtain ⟨wallet, hwallet⟩ := ht.wallet
    subst hcall hseen
    rw [resume_creditWallet amount type description orderId hwallet] at hdone
    cases hdone
  | upgrading next hcommitted hresume hnext => exact hcommitted
  | ended hcommitted hresume => exact hcommitted

theorem CreditStage.not_committed_of_fail {e : HttpException} (hfail : (call.proc userId).resume seen = .fail e) :
    ¬ call.Committed seen := by
  have hcommits := call.one_lt_commits
  cases hstage with
  | idle hseen =>
    subst hseen
    exact call.not_committed_nil
  | read t ht hseen =>
    subst hseen
    exact not_le.mpr hcommits
  | entered amount type description orderId t u ht hcall hseen =>
    subst hcall hseen
    exact not_le.mpr (Nat.lt_add_of_pos_right Nat.two_pos)
  | saved amount type description orderId t u v ht hcall hseen =>
    subst hcall hseen
    exact not_le.mpr (Nat.lt_succ_self 3)
  | upgrading next hcommitted hresume hnext =>
    rw [hresume] at hfail
    cases hfail
  | ended hcommitted hresume =>
    rw [hresume] at hfail
    cases hfail

end

/-! ### Calls beside each other -/

section Schedules

variable {ι : Type} [DecidableEq ι] (userId : ℕ) (calls : ι → CreditCall)

def creditHandlers (i : ι) : WalletProc Unit := (calls i).proc userId

def CommitAsRead (s₀ : WalletStore) (schedule : List ι) : Prop :=
  Run.Along (Pool.step (creditHandlers userId calls)) (fun P i => (calls i).AsRead userId (P.seen i) P.store)
    (Pool.init s₀) schedule
deriving Decidable

/-- What holds at every point: where the calls stand, and that the balance and the requests are the initial ones
and what the calls have credited. -/
structure CreditInvariant [Fintype ι] (s₀ : WalletStore) (walletId : ℕ) (P : Pool ι WalletStore) : Prop where
  tables : CreditTables s₀ userId walletId P.store
  stages : ∀ i, CreditStage s₀ userId walletId (calls i) (P.seen i)
  balance : P.store.balanceOf userId = s₀.balanceOf userId + ∑ i, (calls i).credited s₀ (P.seen i)
  requests : ∀ requestId, (if P.store.IsApproved requestId then 1 else 0 : ℤ) =
    (if s₀.IsApproved requestId then 1 else 0) + ∑ i, (calls i).approvals requestId (P.seen i)

variable {userId calls}

theorem CreditInvariant.step [Fintype ι] {P : Pool ι WalletStore} {i : ι}
    (hP : CreditInvariant userId calls s₀ walletId P) (hcredits : (calls i).Credits s₀ userId)
    (hread : (calls i).AsRead userId (P.seen i) P.store) :
    CreditInvariant userId calls s₀ walletId (P.step (creditHandlers userId calls) i) := by
  have hcases := P.step_cases (creditHandlers userId calls) i
  rcases (hP.stages i).next hP.tables hcredits hread with
    hdone | ⟨e, hfail⟩ | ⟨act, next, hleft, htables, hstage, hcredited⟩
  · rcases hcases with ⟨act, next, hleft, -⟩ | hsame
    · cases hdone.symm.trans hleft
    · rwa [hsame]
  · rcases hcases with ⟨act, next, hleft, -⟩ | hsame
    · cases hfail.symm.trans hleft
    · rwa [hsame]
  · have hstep : P.step (creditHandlers userId calls) i =
        ⟨act P.store, Function.update P.seen i (P.seen i ++ [P.store])⟩ := Pool.step_of_left _ hleft
    rw [hstep]
    refine ⟨htables, fun j => ?_, ?_, fun requestId => ?_⟩
    · dsimp only
      by_cases hj : j = i
      · subst hj
        rwa [Function.update_self]
      · rw [Function.update_of_ne hj]
        exact hP.stages j
    · have hsum := Pool.sum_seen_update (fun j seen => (calls j).credited s₀ seen) P.seen
        (add_sub_cancel ((calls i).credited s₀ (P.seen i)) ((calls i).credited s₀ (P.seen i ++ [P.store]))).symm
      rw [hsum, hcredited.balance, hP.balance, add_assoc]
    · have hsum := Pool.sum_seen_update (fun j seen => (calls j).approvals requestId seen) P.seen
        (add_sub_cancel ((calls i).approvals requestId (P.seen i))
          ((calls i).approvals requestId (P.seen i ++ [P.store]))).symm
      rw [hsum, hcredited.requests, hP.requests, add_assoc]

variable (userId calls) in
/-- **Every request is credited once, and no credit is lost**, when the calls commit as they have read: a request
is credited by one call if it is approved in the run, and by none else, and the balance is the initial one and the
amounts of the calls that have committed. -/
theorem credited_once [Fintype ι] (s₀ : WalletStore) (schedule : List ι)
    (hwallet : (s₀.walletOf userId).isSome) (hcredits : ∀ i, (calls i).Credits s₀ userId)
    (hread : CommitAsRead userId calls s₀ schedule) :
    let handlers := creditHandlers userId calls
    let P := Run.after (Pool.step handlers) (Pool.init s₀) schedule
    (∀ i, (P.Succeeded handlers i → (calls i).Committed (P.seen i)) ∧
      (P.Failed handlers i → ¬ (calls i).Committed (P.seen i))) ∧
    (∀ requestId, (if s₀.IsApproved requestId then 1 else 0) +
        (Finset.univ.filter fun i => (calls i).Approves requestId ∧ (calls i).Committed (P.seen i)).card =
      if P.store.IsApproved requestId then 1 else 0) ∧
    P.store.balanceOf userId = s₀.balanceOf userId +
      ∑ i, if (calls i).Committed (P.seen i) then (calls i).amount s₀ else 0 := by
  intro handlers P
  obtain ⟨⟨walletId, wallet⟩, hfound⟩ := Option.isSome_iff_exists.mp hwallet
  have hinit : CreditInvariant userId calls s₀ walletId (Pool.init s₀ : Pool ι WalletStore) := by
    refine ⟨⟨⟨wallet, hfound⟩, fun _ => Or.inl rfl, rfl⟩, fun i => .idle rfl, ?_, fun requestId => ?_⟩
    · have hnone : ∀ i, (calls i).credited s₀ [] = 0 := fun i => if_neg (calls i).not_committed_nil
      show s₀.balanceOf userId = s₀.balanceOf userId + ∑ i, (calls i).credited s₀ []
      rw [Finset.sum_eq_zero fun i _ => hnone i, add_zero]
    · have hnone : ∀ i, (calls i).approvals requestId [] = 0 := fun i =>
        if_neg fun hboth => (calls i).not_committed_nil hboth.2
      show _ = _ + ∑ i, (calls i).approvals requestId []
      rw [Finset.sum_eq_zero fun i _ => hnone i, add_zero]
      rfl
  have hP : CreditInvariant userId calls s₀ walletId P :=
    Run.after_induction (fun P i hP hi => hP.step (hcredits i) hi) hinit hread
  refine ⟨fun i => ⟨fun hdone => ?_, fun hfail => ?_⟩, fun requestId => ?_, hP.balance⟩
  · obtain ⟨_, hleft⟩ := eq_done_of_isDone hdone
    exact (hP.stages i).committed_of_done hleft
  · obtain ⟨e, hleft⟩ := eq_fail_of_isFail hfail
    exact (hP.stages i).not_committed_of_fail hleft
  · have hrequests := hP.requests requestId
    have hcard : ∑ i, (calls i).approvals requestId (P.seen i) =
        ((Finset.univ.filter fun i => (calls i).Approves requestId ∧ (calls i).Committed (P.seen i)).card : ℤ) :=
      Finset.sum_boole _ _
    rw [hcard] at hrequests
    exact_mod_cast hrequests.symm

end Schedules

/-! ### Runs -/

/-- A wallet with 100.00 and a pending request for 50.00. -/
def fundedUser : WalletStore where
  users := (∅ : Table ℕ User).insert 1 {}
  uiSettings := ∅
  wallets := SerialTable.empty.add { userId := 1, balance := ⟨10000⟩, currency := "KES" }
  transactions := .empty
  topUpRequests := SerialTable.empty.add { userId := 1, amount := ⟨5000⟩, status := .pending }

def twoApprovals : Fin 3 → CreditCall
  | 0 | 1 => .approveTopUp { toUpperCase := id, rates := fun _ => none, inThirtyDays := 0 } 1
  | 2 => .creditWallet 25 .earning none none

/-- The first approval commits before the others read: the second one fails. -/
theorem approved_once :
    let P := Run.after (Pool.step (creditHandlers 1 twoApprovals)) (Pool.init fundedUser) [0, 0, 1, 2, 2, 1, 2, 2]
    P.store.balanceOf 1 = 17500 ∧
      (Finset.univ.filter fun i => (twoApprovals i).Approves 1 ∧ (twoApprovals i).Committed (P.seen i)).card = 1 ∧
      P.Failed (creditHandlers 1 twoApprovals) 1 := by
  intro P
  have hfresh : CommitAsRead 1 twoApprovals fundedUser [0, 0, 1, 2, 2, 1, 2, 2] := by decide +kernel
  obtain ⟨-, hrequests, hbalance⟩ := credited_once 1 twoApprovals fundedUser [0, 0, 1, 2, 2, 1, 2, 2]
    (by decide +kernel) (by decide +kernel) hfresh
  refine ⟨hbalance.trans (by decide +kernel), ?_, by decide +kernel⟩
  have hone := hrequests 1
  exact hone

/-- Two approvals that have read the pending request both credit it, and a credit that has read the wallet before
an approval commits takes the top-up back. -/
theorem stale_calls :
    let handlers := creditHandlers 1 twoApprovals
    let twice := Run.after (Pool.step handlers) (Pool.init fundedUser) [0, 1, 0, 1]
    let lost := Run.after (Pool.step handlers) (Pool.init fundedUser) [2, 0, 0, 2, 2, 2]
    (twice.Succeeded handlers 0 ∧ twice.Succeeded handlers 1 ∧
      twice.store.balanceOf 1 = fundedUser.balanceOf 1 + 2 * 5000) ∧
    lost.Succeeded handlers 0 ∧ lost.Succeeded handlers 2 ∧ lost.store.balanceOf 1 = fundedUser.balanceOf 1 + 2500 := by
  decide +kernel

end SuuqBackend
