import SuuqBackend.Wallet.Laws.Amounts
import SuuqBackend.Wallet.Laws.WalletEntries

/-!
# The run of each wallet operation

Every operation that succeeds leaves one entry of the wallet of its user, and an operation that fails leaves
the tables as they were; only an approved top-up may leave two, its deposit and the debit of the automatic
upgrade.

* `snd_creditWallet`, `run_debitWallet`, `snd_payWithWallet`: the tables after each of these calls.
-/

namespace SuuqBackend

open Proc Wallets

namespace WalletStore

/-- `creditWallet` finds the wallet or creates it. -/
def CanCredit (s : WalletStore) (userId : ℕ) : Prop :=
  (s.walletOf userId).isSome ∨ (s.users.lookup userId).isSome
deriving Decidable

def walletForTopUp (s : WalletStore) (userId : ℕ) : Wallet :=
  match s.walletOf userId with
  | some (_, wallet) => wallet
  | none => newWallet userId "KES"

/-- The charge of the automatic upgrade that a top-up asks for. -/
def autoCharge (s : WalletStore) (env : WalletRuntime) (request : TopUpRequest) (currency : String) : Option ℤ :=
  if request.autoAction = some "upgrade_pro" then
    (s.uiSettings.lookup "vendor_subscription_base_price").bind fun rawPrice =>
      upgradePrice env rawPrice currency
  else none

end WalletStore

variable {s s' : WalletStore} {userId walletId : ℕ} {wallet : Wallet}

theorem run_insertWallet (h : s.walletOf wallet.userId = none) :
    run (insertWallet wallet) s = (.ok s.wallets.next, s.addWallet wallet) := by
  unfold insertWallet
  rw [run_step, h]
  rfl

/-! ### Credit -/

theorem run_walletToCredit (h : s.CanCredit userId) :
    ∃ walletId wallet s', s.Holds s' userId walletId wallet ∧
      run (walletToCredit userId) s = (.ok (walletId, wallet), s') := by
  unfold walletToCredit findWallet
  rw [run_read_bind]
  cases hwallet : s.walletOf userId with
  | some found => exact ⟨found.1, found.2, s, WalletStore.holds_of_walletOf hwallet, rfl⟩
  | none =>
    cases huser : s.users.lookup userId with
    | none =>
      rcases h with h | h
      · rw [hwallet] at h
        cases h
      · rw [huser] at h
        cases h
    | some user =>
      have hinsert : run (insertWallet (newWallet userId (currencyFor user))) s =
          (.ok s.wallets.next, s.addWallet (newWallet userId (currencyFor user))) :=
        run_insertWallet hwallet
      refine ⟨s.wallets.next, newWallet userId (currencyFor user), _,
        WalletStore.holds_addWallet hwallet rfl rfl, ?_⟩
      simp only [run_read_bind, huser]
      rw [run_bind_of_ok hinsert]
      rfl

theorem run_walletToCredit_of_not (h : ¬ s.CanCredit userId) :
    run (walletToCredit userId) s = (.error (.notFound "User not found"), s) := by
  unfold walletToCredit findWallet
  rw [run_read_bind]
  cases hwallet : s.walletOf userId with
  | some found => exact absurd (Or.inl (by rw [hwallet]; rfl)) h
  | none =>
    cases huser : s.users.lookup userId with
    | some user => exact absurd (Or.inr (by rw [huser]; rfl)) h
    | none =>
      simp only [run_read_bind, huser]
      rfl

section CreditDebit

variable (amount : ℚ) (type : TransactionType) (description : Option String) (orderId : Option ℕ)

theorem run_runCredit (h : run (walletToCredit userId) s = (.ok (walletId, wallet), s')) :
    run (runCredit userId amount type description orderId) s =
      (.ok (creditTransaction walletId amount type description orderId),
        s'.entered walletId (withBalance wallet (wallet.balance.value + amount))
          (creditTransaction walletId amount type description orderId)) := by
  unfold runCredit
  rw [run_bind_of_ok h]
  rfl

theorem snd_creditWallet (h : s.CanCredit userId) :
    ∃ walletId wallet s', s.Holds s' userId walletId wallet ∧
      (run (creditWallet userId amount type description orderId false) s).2 =
        s'.entered walletId (withBalance wallet (wallet.balance.value + amount))
          (creditTransaction walletId amount type description orderId) := by
  obtain ⟨walletId, wallet, s', hholds, hrun⟩ := run_walletToCredit h
  refine ⟨walletId, wallet, s', hholds, ?_⟩
  exact congrArg Prod.snd (run_transaction_of_ok (run_runCredit amount type description orderId hrun))

theorem snd_creditWallet_of_not (h : ¬ s.CanCredit userId) :
    (run (creditWallet userId amount type description orderId false) s).2 = s := by
  have hcredit : run (runCredit userId amount type description orderId) s =
      (.error (.notFound "User not found"), s) := by
    unfold runCredit
    rw [run_bind_of_error (run_walletToCredit_of_not h)]
  exact congrArg Prod.snd (run_transaction_of_error hcredit)

/-! ### Debit -/

theorem run_debitWallet (h : s.walletOf userId = some (walletId, wallet)) (hcovers : amount ≤ wallet.balance.value) :
    run (debitWallet userId amount type description orderId false) s =
      (.ok (debitTransaction walletId amount type description orderId),
        s.entered walletId (withBalance wallet (wallet.balance.value - amount))
          (debitTransaction walletId amount type description orderId)) := by
  refine run_transaction_of_ok ?_
  unfold runDebit findWallet
  rw [run_read_bind, h]
  rw [run_throwIf_bind, if_neg (not_lt.mpr hcovers)]
  rfl

theorem run_debitWallet_of_eq_none (h : s.walletOf userId = none) :
    run (debitWallet userId amount type description orderId false) s = (.error walletNotFound, s) := by
  have hfail : run (runDebit userId amount type description orderId) s = (.error walletNotFound, s) := by
    unfold runDebit findWallet
    rw [run_read_bind, h]
    rfl
  exact run_transaction_of_error hfail

theorem run_debitWallet_of_lt (h : s.walletOf userId = some (walletId, wallet))
    (hlt : wallet.balance.value < amount) :
    run (debitWallet userId amount type description orderId false) s =
      (.error (.badRequest "Insufficient wallet balance"), s) := by
  have hfail : run (runDebit userId amount type description orderId) s =
      (.error (.badRequest "Insufficient wallet balance"), s) := by
    unfold runDebit findWallet
    rw [run_read_bind, h]
    rw [run_throwIf_bind, if_pos hlt]
  exact run_transaction_of_error hfail

end CreditDebit

/-! ### Payment -/

section Payment

variable (amount : ℚ) (description : String) (type : TransactionType) (fxRate : Option ℚ)
  (checkCurrency : Option String)

def paymentTransaction (walletId : ℕ) : WalletTransaction :=
  { walletId, type, amount := .ofRat (-amount), description, fxRate := fxRate.map numeric4 }

theorem snd_payWithWallet (h : s.walletOf userId = some (walletId, wallet))
    (hcurrency : ¬ OtherCurrency checkCurrency wallet) (hcovers : amount ≤ wallet.balance.value) :
    (run (payWithWallet userId amount description type fxRate checkCurrency) s).2 =
      s.entered walletId (withBalance wallet (round ((wallet.balance.value - amount) * 100) / 100))
        (paymentTransaction amount description type fxRate walletId) := by
  have hpay : run (runPayment userId amount description type fxRate checkCurrency) s =
      (.ok (paymentTransaction amount description type fxRate walletId),
        s.entered walletId (withBalance wallet (round ((wallet.balance.value - amount) * 100) / 100))
          (paymentTransaction amount description type fxRate walletId)) := by
    unfold runPayment findWallet
    rw [run_read_bind, h]
    rw [run_throwIf_bind, if_neg hcurrency, run_throwIf_bind, if_neg (not_lt.mpr hcovers)]
    rfl
  exact congrArg Prod.snd (run_transaction_of_ok hpay)

theorem snd_payWithWallet_of_not
    (h : ∀ walletId wallet, s.walletOf userId = some (walletId, wallet) →
      ¬ OtherCurrency checkCurrency wallet → wallet.balance.value < amount) :
    (run (payWithWallet userId amount description type fxRate checkCurrency) s).2 = s := by
  suffices hfail : ∃ e, run (runPayment userId amount description type fxRate checkCurrency) s = (.error e, s) by
    obtain ⟨e, hfail⟩ := hfail
    exact congrArg Prod.snd (run_transaction_of_error hfail)
  unfold runPayment findWallet
  rw [run_read_bind]
  cases hwallet : s.walletOf userId with
  | none => exact ⟨_, rfl⟩
  | some found =>
    rw [run_throwIf_bind]
    by_cases hcurrency : OtherCurrency checkCurrency found.2
    · exact ⟨_, if_pos hcurrency⟩
    · rw [if_neg hcurrency, run_throwIf_bind]
      exact ⟨_, if_pos (h found.1 found.2 hwallet hcurrency)⟩

end Payment

/-! ### Top-ups -/

theorem run_walletToTopUp (s : WalletStore) (userId : ℕ) :
    ∃ walletId s', s.Holds s' userId walletId (s.walletForTopUp userId) ∧
      run (walletToTopUp userId) s = (.ok (walletId, s.walletForTopUp userId), s') := by
  unfold walletToTopUp findWallet WalletStore.walletForTopUp
  rw [run_read_bind]
  cases hwallet : s.walletOf userId with
  | some found => exact ⟨found.1, s, WalletStore.holds_of_walletOf hwallet, rfl⟩
  | none =>
    have hinsert : run (insertWallet (newWallet userId "KES")) s =
        (.ok s.wallets.next, s.addWallet (newWallet userId "KES")) := run_insertWallet hwallet
    refine ⟨s.wallets.next, _, WalletStore.holds_addWallet hwallet rfl rfl, ?_⟩
    rw [run_bind_of_ok hinsert]
    rfl

variable (env : WalletRuntime)

/-- What the call of the automatic upgrade leaves: the debit of the price, if there is one to pay that the
balance covers. -/
theorem snd_processAutoAction (request : TopUpRequest) (h : s.walletOf request.userId = some (walletId, wallet)) :
    (∃ price tx, price ∈ s.autoCharge env request wallet.currency ∧ (price : ℚ) ≤ wallet.balance.value ∧
      tx = debitTransaction walletId price .subscription (some "Pro Plan Upgrade (Auto)") none ∧
      (run (processAutoAction env request wallet.balance.value wallet.currency) s).2.wallets =
        (s.entered walletId (withBalance wallet (wallet.balance.value - price)) tx).wallets ∧
      (run (processAutoAction env request wallet.balance.value wallet.currency) s).2.transactions =
        (s.entered walletId (withBalance wallet (wallet.balance.value - price)) tx).transactions) ∨
    (∀ price ∈ s.autoCharge env request wallet.currency, ¬ (price : ℚ) ≤ wallet.balance.value) ∧
      (run (processAutoAction env request wallet.balance.value wallet.currency) s).2 = s := by
  unfold processAutoAction WalletStore.autoCharge
  by_cases haction : request.autoAction = some "upgrade_pro"
  swap
  · simp only [if_neg haction]
    exact Or.inr ⟨fun price hprice => absurd hprice (Option.not_mem_none price), rfl⟩
  simp only [if_pos haction]
  rw [snd_run_attempt_bind_pure]
  unfold autoUpgrade
  rw [run_read_bind]
  cases s.uiSettings.lookup "vendor_subscription_base_price" with
  | none => exact Or.inr ⟨fun price hprice => absurd hprice (Option.not_mem_none price), rfl⟩
  | some rawPrice =>
    rw [Option.bind_some]
    dsimp only
    cases hprice : upgradePrice env rawPrice wallet.currency with
    | none => exact Or.inr ⟨fun price hprice => absurd hprice (Option.not_mem_none price), rfl⟩
    | some price =>
      dsimp only
      by_cases hcovers : (price : ℚ) ≤ wallet.balance.value
      · rw [if_pos hcovers, run_bind_of_ok (run_debitWallet price .subscription _ none h hcovers),
          run_read_bind]
        refine Or.inl ⟨price, _, rfl, hcovers, rfl, ?_⟩
        cases (WalletStore.users _).lookup request.userId with
        | none => exact ⟨rfl, rfl⟩
        | some user => exact ⟨rfl, rfl⟩
      · rw [if_neg hcovers]
        refine Or.inr ⟨fun price' hprice' => ?_, rfl⟩
        cases hprice'
        exact hcovers

theorem snd_approveTopUp {requestId : ℕ} {request : TopUpRequest}
    (hfind : s.topUpRequests.find requestId = some request) (hpending : request.status = .pending) :
    ∃ walletId s', (s.setTopUpRequest requestId (approved request)).Holds s' request.userId walletId
        (s.walletForTopUp request.userId) ∧
      (run (approveTopUp env requestId) s).2 =
        (run (processAutoAction env request
            ((s.walletForTopUp request.userId).balance.value + request.amount.value)
            (s.walletForTopUp request.userId).currency)
          (s'.deposited walletId (s.walletForTopUp request.userId) request)).2 := by
  obtain ⟨walletId, s', hholds, hrun⟩ :=
    run_walletToTopUp (s.setTopUpRequest requestId (approved request)) request.userId
  refine ⟨walletId, s', hholds, ?_⟩
  have hchecks : run (pendingTopUp requestId) s = (.ok request, s) := by
    unfold pendingTopUp
    rw [run_read_bind, hfind]
    rw [run_throwIf_bind, if_neg (not_not.mpr hpending)]
    rfl
  have hdeposit : run (runTopUp requestId request) s =
      (.ok ((s.walletForTopUp request.userId).balance.value + request.amount.value,
          (s.walletForTopUp request.userId).currency),
        s'.deposited walletId (s.walletForTopUp request.userId) request) := by
    unfold runTopUp
    rw [run_write_bind, run_bind_of_ok hrun]
    rfl
  unfold approveTopUp
  rw [run_bind_of_ok hchecks, run_bind_of_ok (run_transaction_of_ok hdeposit)]
  exact snd_run_bind_readOnly _ (fun _ => readOnly_pure _) _

theorem snd_approveTopUp_of_not {requestId : ℕ}
    (h : ∀ request ∈ s.topUpRequests.find requestId, request.status ≠ .pending) :
    (run (approveTopUp env requestId) s).2 = s := by
  have hchecks : ∃ e, run (pendingTopUp requestId) s = (.error e, s) := by
    unfold pendingTopUp
    rw [run_read_bind]
    cases hfind : s.topUpRequests.find requestId with
    | none => exact ⟨_, rfl⟩
    | some request =>
      rw [run_throwIf_bind, if_pos (h request hfind)]
      exact ⟨_, rfl⟩
  obtain ⟨e, hchecks⟩ := hchecks
  unfold approveTopUp
  rw [run_bind_of_error hchecks]

/-! ### Corrections -/

theorem snd_deleteTransaction (s : WalletStore) (id : ℕ) :
    (run (deleteTransaction id) s).2 = s.withoutTransaction id := by
  unfold deleteTransaction
  rw [run_step]
  split_ifs <;> rfl

theorem snd_recalculateBalance (s : WalletStore) (walletId : ℕ) :
    (run (recalculateBalance walletId) s).2 = updateBalance s walletId (recalculated s walletId) := by
  unfold recalculateBalance updateBalance
  rw [run_read_bind]
  cases hfind : s.wallets.find walletId with
  | none => rfl
  | some wallet =>
    simp only [run_read_bind, run_write, hfind]

theorem ofRat_recalculated (s : WalletStore) (walletId : ℕ) :
    Numeric2.ofRat (recalculated s walletId) = ⟨s.transactionSum walletId⟩ := by
  have htotal : (s.transactions.total fun tx => if tx.walletId = walletId then tx.amount.value else 0) =
      ((s.transactionSum walletId : ℤ) : ℚ) * (1 / 100) := by
    refine Eq.trans ?_ (SerialTable.total_map
      ((AddMonoidHom.mulRight (1 / 100 : ℚ)).comp (Int.castAddHom ℚ)) _ s.transactions)
    congr 1
    funext tx
    split_ifs
    · show tx.amount.value = (tx.amount.hundredths : ℚ) * (1 / 100)
      unfold Numeric2.value
      ring
    · exact (map_zero _).symm
  have hcents : ((s.transactionSum walletId : ℤ) : ℚ) * (1 / 100) * 100 = (s.transactionSum walletId : ℤ) := by
    ring
  unfold recalculated
  dsimp only
  rw [htotal, hcents, round_intCast, Numeric2.ofRat_div]

end SuuqBackend
