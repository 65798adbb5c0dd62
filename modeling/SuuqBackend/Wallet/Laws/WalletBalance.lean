import SuuqBackend.Wallet.Laws.WalletOperations

/-!
# The balance of a wallet and its transactions

From empty wallets, any calls one after another: when the stored balance of every wallet is the sum of its
transactions, and not negative, after each of them.

* `balanced_step_iff`: when one call keeps that, for each kind of call.
* `balanced_iff`: for runs.

Deleting a transaction leaves the balance as it was, a credit of a negative amount is recorded as a positive
one, and a debit of half a cent is rounded one way in the balance and the other way in the record.
-/

namespace SuuqBackend

open Proc Wallets

inductive WalletCall where
  | creditWallet (userId : ℕ) (amount : ℚ) (type : TransactionType) (description : Option String)
      (orderId : Option ℕ)
  | debitWallet (userId : ℕ) (amount : ℚ) (type : TransactionType) (description : Option String)
      (orderId : Option ℕ)
  | payWithWallet (userId : ℕ) (amount : ℚ) (description : String) (type : TransactionType)
      (fxRate : Option ℚ) (checkCurrency : Option String)
  | approveTopUp (env : WalletRuntime) (requestId : ℕ)
  | deleteTransaction (id : ℕ)
  | recalculateBalance (walletId : ℕ)

namespace WalletStore

def step (s : WalletStore) : WalletCall → WalletStore
  | .creditWallet userId amount type description orderId =>
    (run (creditWallet userId amount type description orderId false) s).2
  | .debitWallet userId amount type description orderId =>
    (run (debitWallet userId amount type description orderId false) s).2
  | .payWithWallet userId amount description type fxRate checkCurrency =>
    (run (payWithWallet userId amount description type fxRate checkCurrency) s).2
  | .approveTopUp env requestId => (run (approveTopUp env requestId) s).2
  | .deleteTransaction id => (run (deleteTransaction id) s).2
  | .recalculateBalance walletId => (run (recalculateBalance walletId) s).2

/-- The top-up does not leave its wallet below zero, and does not pay for an upgrade with a negative price. -/
def KeepsTopUp (s : WalletStore) (env : WalletRuntime) (request : TopUpRequest) : Prop :=
  let wallet := s.walletForTopUp request.userId
  let balance := wallet.balance.value + request.amount.value
  0 ≤ balance ∧ ∀ price ∈ s.autoCharge env request wallet.currency, (price : ℚ) ≤ balance → 0 ≤ price
deriving Decidable

/-- The call is refused, or its amount is the same in the balance and in the record; a deleted transaction
has the amount zero. -/
def Keeps (s : WalletStore) : WalletCall → Prop
  | .creditWallet userId amount _ _ _ => s.CanCredit userId → -1 / 200 < amount
  | .debitWallet userId amount _ _ _ =>
    ∀ found ∈ s.walletOf userId, amount ≤ found.2.balance.value → -1 / 200 < amount ∧ Int.fract (amount * 100) ≠ 1 / 2
  | .payWithWallet userId amount _ _ _ checkCurrency =>
    ∀ found ∈ s.walletOf userId, ¬ OtherCurrency checkCurrency found.2 →
      amount ≤ found.2.balance.value → 0 ≤ amount → Int.fract (amount * 100) ≠ 1 / 2
  | .approveTopUp env requestId =>
    ∀ request ∈ s.topUpRequests.find requestId, request.status = .pending → s.KeepsTopUp env request
  | .deleteTransaction id => ∀ tx ∈ s.transactions.find id, tx.amount.hundredths = 0
  | .recalculateBalance _ => True

instance (s : WalletStore) (c : WalletCall) : Decidable (s.Keeps c) := by
  cases c <;> unfold Keeps <;> infer_instance

/-- No wallet has a balance or a transaction. -/
def Empty (s : WalletStore) : Prop :=
  (∀ walletId wallet, s.wallets.find walletId = some wallet → wallet.balance = ⟨0⟩) ∧
    ∀ id, s.transactions.find id = none

variable {s : WalletStore}

theorem Empty.linked (h : s.Empty) : s.Linked := by
  intro id tx htx
  rw [h.2 id] at htx
  cases htx

theorem Empty.balanced (h : s.Empty) : s.Balanced := by
  intro walletId wallet hwallet
  have hsum : s.transactionSum walletId = 0 := SerialTable.total_eq_zero fun id tx htx => by
    rw [h.2 id] at htx
    cases htx
  rw [h.1 walletId wallet hwallet, hsum]
  exact ⟨rfl, le_rfl⟩

/-! ### One call -/

theorem step_creditWallet_cases (s : WalletStore) (userId : ℕ) (amount : ℚ) (type : TransactionType)
    (description : Option String) (orderId : Option ℕ) :
    (¬ s.CanCredit userId ∧ s.step (.creditWallet userId amount type description orderId) = s) ∨
    (s.CanCredit userId ∧ ∃ walletId wallet s', s.Holds s' userId walletId wallet ∧
      s.step (.creditWallet userId amount type description orderId) =
        s'.entered walletId (withBalance wallet (wallet.balance.value + amount))
          (creditTransaction walletId amount type description orderId)) := by
  by_cases hcan : s.CanCredit userId
  · exact .inr ⟨hcan, snd_creditWallet amount type description orderId hcan⟩
  · exact .inl ⟨hcan, snd_creditWallet_of_not amount type description orderId hcan⟩

theorem balanced_creditWallet_iff (hlinked : s.Linked) (hs : s.Balanced) (userId : ℕ) (amount : ℚ)
    (type : TransactionType) (description : Option String) (orderId : Option ℕ) :
    (s.step (.creditWallet userId amount type description orderId)).Balanced ↔
      (s.CanCredit userId → -1 / 200 < amount) := by
  rcases s.step_creditWallet_cases userId amount type description orderId with
    ⟨hnot, hstep⟩ | ⟨hcan, walletId, wallet, s', hholds, hstep⟩
  · rw [hstep]
    exact iff_of_true hs fun h => absurd h hnot
  · have hnonneg := (hholds.balanced hlinked hs walletId wallet (find_of_walletOf hholds.1)).2
    rw [hstep, hholds.balanced_entered_iff hlinked hs rfl]
    exact (Numeric2.credit_agrees_iff hnonneg amount).trans ⟨fun h _ => h, fun h => h hcan⟩

theorem step_debitWallet_cases (s : WalletStore) (userId : ℕ) (amount : ℚ) (type : TransactionType)
    (description : Option String) (orderId : Option ℕ) :
    ((∀ found ∈ s.walletOf userId, ¬ amount ≤ found.2.balance.value) ∧
      s.step (.debitWallet userId amount type description orderId) = s) ∨
    ∃ walletId wallet, s.walletOf userId = some (walletId, wallet) ∧ amount ≤ wallet.balance.value ∧
      s.step (.debitWallet userId amount type description orderId) =
        s.entered walletId (withBalance wallet (wallet.balance.value - amount))
          (debitTransaction walletId amount type description orderId) := by
  cases hwallet : s.walletOf userId with
  | none =>
    refine .inl ⟨fun found hfound => absurd hfound (Option.not_mem_none found), ?_⟩
    exact congrArg Prod.snd (run_debitWallet_of_eq_none amount type description orderId hwallet)
  | some found =>
    obtain ⟨walletId, wallet⟩ := found
    by_cases hcovers : amount ≤ wallet.balance.value
    · refine .inr ⟨walletId, wallet, rfl, hcovers, ?_⟩
      exact congrArg Prod.snd (run_debitWallet amount type description orderId hwallet hcovers)
    · refine .inl ⟨fun found hfound => ?_, ?_⟩
      · cases hfound
        exact hcovers
      · exact congrArg Prod.snd (run_debitWallet_of_lt amount type description orderId hwallet (not_le.mp hcovers))

theorem balanced_debitWallet_iff (hlinked : s.Linked) (hs : s.Balanced) (userId : ℕ) (amount : ℚ)
    (type : TransactionType) (description : Option String) (orderId : Option ℕ) :
    (s.step (.debitWallet userId amount type description orderId)).Balanced ↔
      ∀ found ∈ s.walletOf userId, amount ≤ found.2.balance.value →
        -1 / 200 < amount ∧ Int.fract (amount * 100) ≠ 1 / 2 := by
  rcases s.step_debitWallet_cases userId amount type description orderId with
    ⟨hnot, hstep⟩ | ⟨walletId, wallet, hwallet, hcovers, hstep⟩
  · rw [hstep]
    exact iff_of_true hs fun found hfound hle => absurd hle (hnot found hfound)
  · rw [hstep, (holds_of_walletOf hwallet).balanced_entered_iff hlinked hs rfl, hwallet]
    refine (Numeric2.debit_agrees_iff hcovers).trans ⟨fun h found hfound _ => ?_, fun h => ?_⟩
    · cases hfound
      exact h
    · exact h (walletId, wallet) rfl hcovers

theorem step_payWithWallet_cases (s : WalletStore) (userId : ℕ) (amount : ℚ) (description : String)
    (type : TransactionType) (fxRate : Option ℚ) (checkCurrency : Option String) :
    ((∀ found ∈ s.walletOf userId, ¬ OtherCurrency checkCurrency found.2 →
        ¬ amount ≤ found.2.balance.value) ∧
      s.step (.payWithWallet userId amount description type fxRate checkCurrency) = s) ∨
    ∃ walletId wallet, s.walletOf userId = some (walletId, wallet) ∧
      ¬ OtherCurrency checkCurrency wallet ∧ amount ≤ wallet.balance.value ∧
      s.step (.payWithWallet userId amount description type fxRate checkCurrency) =
        s.entered walletId (withBalance wallet (round ((wallet.balance.value - amount) * 100) / 100))
          (paymentTransaction amount description type fxRate walletId) := by
  by_cases hpaid : ∃ walletId wallet, s.walletOf userId = some (walletId, wallet) ∧
      ¬ OtherCurrency checkCurrency wallet ∧ amount ≤ wallet.balance.value
  · obtain ⟨walletId, wallet, hwallet, hcurrency, hcovers⟩ := hpaid
    refine .inr ⟨walletId, wallet, hwallet, hcurrency, hcovers, ?_⟩
    exact snd_payWithWallet amount description type fxRate checkCurrency hwallet hcurrency hcovers
  · refine .inl ⟨fun found hfound hcurrency hcovers => ?_, ?_⟩
    · exact hpaid ⟨found.1, found.2, hfound, hcurrency, hcovers⟩
    · refine snd_payWithWallet_of_not amount description type fxRate checkCurrency
        fun walletId wallet hwallet hcurrency => ?_
      by_contra hcovers
      exact hpaid ⟨walletId, wallet, hwallet, hcurrency, not_lt.mp hcovers⟩

theorem balanced_payWithWallet_iff (hlinked : s.Linked) (hs : s.Balanced) (userId : ℕ) (amount : ℚ)
    (description : String) (type : TransactionType) (fxRate : Option ℚ) (checkCurrency : Option String) :
    (s.step (.payWithWallet userId amount description type fxRate checkCurrency)).Balanced ↔
      ∀ found ∈ s.walletOf userId, ¬ OtherCurrency checkCurrency found.2 →
        amount ≤ found.2.balance.value → 0 ≤ amount → Int.fract (amount * 100) ≠ 1 / 2 := by
  rcases s.step_payWithWallet_cases userId amount description type fxRate checkCurrency with
    ⟨hnot, hstep⟩ | ⟨walletId, wallet, hwallet, hcurrency, hcovers, hstep⟩
  · rw [hstep]
    exact iff_of_true hs fun found hfound hcur hle => absurd hle (hnot found hfound hcur)
  · rw [hstep, (holds_of_walletOf hwallet).balanced_entered_iff hlinked hs rfl, hwallet]
    refine (Numeric2.payment_agrees_iff hcovers).trans ⟨fun h found hfound _ _ => ?_, fun h => ?_⟩
    · cases hfound
      exact h
    · exact h (walletId, wallet) rfl hcurrency hcovers

theorem step_approveTopUp_cases (s : WalletStore) (env : WalletRuntime) (requestId : ℕ) :
    ((∀ request ∈ s.topUpRequests.find requestId, request.status ≠ .pending) ∧
      s.step (.approveTopUp env requestId) = s) ∨
    ∃ request walletId s', s.topUpRequests.find requestId = some request ∧ request.status = .pending ∧
      (s.setTopUpRequest requestId (approved request)).Holds s' request.userId walletId
        (s.walletForTopUp request.userId) ∧
      s.step (.approveTopUp env requestId) =
        (run (processAutoAction env request
            ((s.walletForTopUp request.userId).balance.value + request.amount.value)
            (s.walletForTopUp request.userId).currency)
          (s'.deposited walletId (s.walletForTopUp request.userId) request)).2 := by
  by_cases hpending : ∃ request ∈ s.topUpRequests.find requestId, request.status = .pending
  · obtain ⟨request, hfind, hstatus⟩ := hpending
    obtain ⟨walletId, s', hholds, hsnd⟩ := snd_approveTopUp env hfind hstatus
    exact .inr ⟨request, walletId, s', hfind, hstatus, hholds, hsnd⟩
  · have hnot : ∀ request ∈ s.topUpRequests.find requestId, request.status ≠ .pending :=
      fun request hfind hstatus => hpending ⟨request, hfind, hstatus⟩
    exact .inl ⟨hnot, snd_approveTopUp_of_not env hnot⟩

theorem debit_whole_iff (price : ℤ) : -1 / 200 < (price : ℚ) ∧ Int.fract ((price : ℚ) * 100) ≠ 1 / 2 ↔ 0 ≤ price := by
  have hfract : Int.fract ((price : ℚ) * 100) = 0 := by
    have hcast : (price : ℚ) * 100 = ((price * 100 : ℤ) : ℚ) := by push_cast; ring
    rw [hcast, Int.fract_intCast]
  have hne : Int.fract ((price : ℚ) * 100) ≠ 1 / 2 := by
    rw [hfract]
    norm_num
  rw [and_iff_left hne]
  constructor
  · intro h
    have hlt : (-1 : ℚ) < price := by linarith
    have hlt' : -1 < price := by exact_mod_cast hlt
    omega
  · intro h
    have hle : (0 : ℚ) ≤ price := by exact_mod_cast h
    linarith

variable (env : WalletRuntime) (request : TopUpRequest)

variable {walletId : ℕ} {wallet : Wallet}

/-- What follows a deposit keeps the wallets balanced when the deposit did, and no negative price is paid. -/
theorem balanced_processAutoAction_iff (hothers : ∀ walletId' ≠ walletId, s.BalancedAt walletId')
    (hwallet : s.walletOf request.userId = some (walletId, wallet))
    (hsum : wallet.balance.hundredths = s.transactionSum walletId) :
    (run (processAutoAction env request wallet.balance.value wallet.currency) s).2.Balanced ↔
      0 ≤ wallet.balance.value ∧
        ∀ price ∈ s.autoCharge env request wallet.currency, (price : ℚ) ≤ wallet.balance.value → 0 ≤ price := by
  have hfind := find_of_walletOf hwallet
  rcases snd_processAutoAction env request hwallet with
    ⟨price, tx, hprice, hcovers, rfl, hwallets, htransactions⟩ | ⟨hnot, hsnd⟩
  · rw [balanced_congr hwallets htransactions, balanced_entered_iff hothers hfind rfl, ← hsum]
    refine (Numeric2.debit_agrees_iff hcovers).trans ((debit_whole_iff price).trans ⟨fun h => ?_, fun h => ?_⟩)
    · have hle : (0 : ℚ) ≤ price := by exact_mod_cast h
      refine ⟨hle.trans hcovers, fun price' hprice' _ => ?_⟩
      rw [hprice] at hprice'
      cases hprice'
      exact h
    · exact h.2 price hprice hcovers
  · rw [hsnd, Numeric2.value_nonneg_iff]
    constructor
    · intro h
      exact ⟨(h walletId wallet hfind).2, fun price hprice hcovers => absurd hcovers (hnot price hprice)⟩
    · intro h walletId'
      by_cases hid : walletId' = walletId
      · subst hid
        intro wallet' hwallet'
        rw [hfind] at hwallet'
        cases hwallet'
        exact ⟨hsum, h.1⟩
      · exact hothers walletId' hid

theorem linked_processAutoAction (hlinked : s.Linked) (hwallet : s.walletOf request.userId = some (walletId, wallet)) :
    (run (processAutoAction env request wallet.balance.value wallet.currency) s).2.Linked := by
  rcases snd_processAutoAction env request hwallet with
    ⟨price, tx, -, -, rfl, hwallets, htransactions⟩ | ⟨-, hsnd⟩
  · rw [linked_congr hwallets htransactions]
    exact hlinked.entered (find_of_walletOf hwallet) rfl
  · rw [hsnd]
    exact hlinked

section TopUp

variable {s' : WalletStore} {walletId : ℕ} {wallet : Wallet} {request : TopUpRequest}

theorem value_withBalance_add (wallet : Wallet) (amount : Numeric2) :
    (withBalance wallet (wallet.balance.value + amount.value)).balance.value = wallet.balance.value + amount.value := by
  show (Numeric2.ofRat _).value = _
  rw [Numeric2.ofRat_add_value]
  unfold Numeric2.value
  push_cast
  ring

theorem transactionSum_deposited (hs : s'.Balanced)
    (hwallet : s'.walletOf request.userId = some (walletId, wallet)) :
    (withBalance wallet (wallet.balance.value + request.amount.value)).balance.hundredths =
      (s'.deposited walletId wallet request).transactionSum walletId := by
  have hbalance := (hs walletId wallet (find_of_walletOf hwallet)).1
  have hsum : (s'.deposited walletId wallet request).transactionSum walletId =
      s'.transactionSum walletId + request.amount.hundredths := by
    refine (transactionSum_addTransaction s' (topUpTransaction walletId request) walletId).trans ?_
    exact congrArg (s'.transactionSum walletId + ·) (if_pos rfl)
  rw [hsum, ← hbalance]
  show (Numeric2.ofRat (wallet.balance.value + request.amount.value)).hundredths = _
  rw [Numeric2.ofRat_add_value]

end TopUp

theorem balanced_approveTopUp_iff (hlinked : s.Linked) (hs : s.Balanced) (env : WalletRuntime) (requestId : ℕ) :
    (s.step (.approveTopUp env requestId)).Balanced ↔
      ∀ request ∈ s.topUpRequests.find requestId, request.status = .pending → s.KeepsTopUp env request := by
  rcases s.step_approveTopUp_cases env requestId with
    ⟨hnot, hstep⟩ | ⟨request, walletId, s', hfind, hstatus, hholds, hstep⟩
  · rw [hstep]
    exact iff_of_true hs fun request hrequest hstatus => absurd hstatus (hnot request hrequest)
  · have hs' : s'.Balanced := hholds.balanced hlinked hs
    have hwallet := walletOf_deposited request hholds.1
    have hiff := balanced_processAutoAction_iff env request
      (fun walletId' hid => (balancedAt_entered_of_ne rfl hid).mpr (hs' walletId')) hwallet
      (transactionSum_deposited hs' hholds.1)
    have hcharge : (s'.deposited walletId (s.walletForTopUp request.userId) request).autoCharge env request
        (s.walletForTopUp request.userId).currency =
        s.autoCharge env request (s.walletForTopUp request.userId).currency := by
      rcases hholds.2 with rfl | ⟨rfl, -⟩ <;> rfl
    rw [value_withBalance_add] at hiff
    rw [hstep, hfind]
    refine hiff.trans ⟨fun h request' hrequest' _ => ?_, fun h => ?_⟩
    · cases hrequest'
      exact ⟨h.1, fun price hprice => h.2 price (hcharge ▸ hprice)⟩
    · have hkeeps := h request rfl hstatus
      exact ⟨hkeeps.1, fun price hprice => hkeeps.2 price (hcharge ▸ hprice)⟩

theorem step_recalculateBalance (hs : s.Balanced) (walletId : ℕ) : s.step (.recalculateBalance walletId) = s := by
  show (run _ s).2 = s
  rw [snd_recalculateBalance]
  unfold updateBalance
  cases hfind : s.wallets.find walletId with
  | none => rfl
  | some wallet =>
    have hsame : withBalance wallet (recalculated s walletId) = wallet := by
      unfold withBalance
      rw [ofRat_recalculated, ← (hs walletId wallet hfind).1]
    dsimp only
    rw [hsame]
    unfold setWallet
    rw [SerialTable.set_of_find hfind]

theorem balanced_step_iff (hlinked : s.Linked) (hs : s.Balanced) (c : WalletCall) :
    (s.step c).Balanced ↔ s.Keeps c := by
  cases c with
  | creditWallet userId amount type description orderId =>
    exact balanced_creditWallet_iff hlinked hs userId amount type description orderId
  | debitWallet userId amount type description orderId =>
    exact balanced_debitWallet_iff hlinked hs userId amount type description orderId
  | payWithWallet userId amount description type fxRate checkCurrency =>
    exact balanced_payWithWallet_iff hlinked hs userId amount description type fxRate checkCurrency
  | approveTopUp env requestId => exact balanced_approveTopUp_iff hlinked hs env requestId
  | deleteTransaction id =>
    show WalletStore.Balanced (run _ s).2 ↔ _
    rw [snd_deleteTransaction]
    exact balanced_withoutTransaction_iff hlinked hs id
  | recalculateBalance walletId =>
    rw [step_recalculateBalance hs walletId]
    exact iff_of_true hs trivial

theorem linked_step (hlinked : s.Linked) (c : WalletCall) : (s.step c).Linked := by
  cases c with
  | creditWallet userId amount type description orderId =>
    rcases s.step_creditWallet_cases userId amount type description orderId with
      ⟨-, hstep⟩ | ⟨-, walletId, wallet, s', hholds, hstep⟩
    · rw [hstep]
      exact hlinked
    · rw [hstep]
      exact (hholds.linked hlinked).entered (find_of_walletOf hholds.1) rfl
  | debitWallet userId amount type description orderId =>
    rcases s.step_debitWallet_cases userId amount type description orderId with
      ⟨-, hstep⟩ | ⟨walletId, wallet, hwallet, -, hstep⟩
    · rw [hstep]
      exact hlinked
    · rw [hstep]
      exact hlinked.entered (find_of_walletOf hwallet) rfl
  | payWithWallet userId amount description type fxRate checkCurrency =>
    rcases s.step_payWithWallet_cases userId amount description type fxRate checkCurrency with
      ⟨-, hstep⟩ | ⟨walletId, wallet, hwallet, -, -, hstep⟩
    · rw [hstep]
      exact hlinked
    · rw [hstep]
      exact hlinked.entered (find_of_walletOf hwallet) rfl
  | approveTopUp env requestId =>
    rcases s.step_approveTopUp_cases env requestId with
      ⟨-, hstep⟩ | ⟨request, walletId, s', -, -, hholds, hstep⟩
    · rw [hstep]
      exact hlinked
    · have hwallet := walletOf_deposited request hholds.1
      have hdeposited : (s'.deposited walletId (s.walletForTopUp request.userId) request).Linked :=
        (hholds.linked hlinked).entered (find_of_walletOf hholds.1) rfl
      have hkept := linked_processAutoAction env request hdeposited hwallet
      rw [value_withBalance_add] at hkept
      rw [hstep]
      exact hkept
  | deleteTransaction id =>
    show WalletStore.Linked (run _ s).2
    rw [snd_deleteTransaction]
    exact hlinked.withoutTransaction id
  | recalculateBalance walletId =>
    show WalletStore.Linked (run _ s).2
    rw [snd_recalculateBalance]
    unfold updateBalance
    cases s.wallets.find walletId with
    | none => exact hlinked
    | some wallet => exact hlinked.setWallet walletId _

/-! ### Runs -/

/-- **When the balance of every wallet is the sum of its transactions, and not negative**, in every state
that calls from empty wallets reach: exactly when all of them meet `Keeps`. -/
theorem balanced_iff (hempty : s.Empty) (cs : List WalletCall) :
    (∀ n, (Run.after step s (cs.take n)).Balanced) ↔ Run.Along step Keeps s cs :=
  Run.forall_take_iff (I := Linked) (D := fun _ _ => True) (fun _ c hlinked _ => linked_step hlinked c)
    (fun _ c hlinked _ hs => balanced_step_iff hlinked hs c) hempty.linked hempty.balanced
    (Run.along_of_forall fun _ _ => trivial)

/-! ### A wallet -/

/-- A user without a wallet, who has asked for a top-up of 50. -/
def newUser : WalletStore where
  users := (∅ : Table ℕ User).insert 1 { currency := some "ETB" }
  uiSettings := ∅
  wallets := .empty
  transactions := .empty
  topUpRequests := SerialTable.empty.add { userId := 1, amount := ⟨5000⟩, status := .pending }

theorem newUser_empty : newUser.Empty :=
  ⟨fun _ _ h => absurd h (by rintro ⟨⟩), fun _ => rfl⟩

def noRates : WalletRuntime := { toUpperCase := id, rates := fun _ => none, inThirtyDays := 0 }

/-- A credit of 100, a debit of 30, a payment of 20.25, the top-up, a recalculation, and a debit that the
balance does not cover. -/
def plainCalls : List WalletCall :=
  [.creditWallet 1 100 .earning none none, .debitWallet 1 30 .payout none none,
    .payWithWallet 1 (81 / 4) "Boost" .payment none none, .approveTopUp noRates 1,
    .recalculateBalance 1, .debitWallet 1 1000 .payout none none]

theorem balanced_plainCalls : (Run.after step newUser plainCalls).transactionSum 1 = 9975 ∧
    ∀ n, (Run.after step newUser (plainCalls.take n)).Balanced :=
  ⟨by decide +kernel, (balanced_iff newUser_empty plainCalls).mpr (by decide +kernel)⟩

/-- The credit of a wallet is deleted: its balance stays. -/
theorem deleted_credit_keeps_balance :
    newUser.Empty ∧ ∃ wallet ∈ (Run.after step newUser
        [.creditWallet 1 100 .earning none none, .deleteTransaction 1]).wallets.find 1,
      wallet.balance = ⟨10000⟩ ∧ (Run.after step newUser
        [.creditWallet 1 100 .earning none none, .deleteTransaction 1]).transactionSum 1 = 0 :=
  ⟨newUser_empty, by decide +kernel⟩

end WalletStore

end SuuqBackend
