import SuuqBackend.Wallet.Laws.WalletOperations
import SuuqBackend.Withdrawals.Withdrawals

/-!
# What an approval of a withdrawal leaves

`approval s env` are the tables after `approveWithdrawal`.  It asks the provider for a payment when the
withdrawal is `Payable`; a payment that is made stays made, whatever fails after it.

* `approval_of_refused`, `approval_of_not_debited`, `approval_of_not_saved`, `approval_of_saved`: the four ways
  in which an approval of a payable withdrawal can go.
-/

namespace SuuqBackend

open Proc Withdrawals

namespace WithdrawalStore

/-- The tables are the same but for the log of the payouts. -/
def SameBooks (s s' : WithdrawalStore) : Prop :=
  s'.withdrawals = s.withdrawals ∧ s'.wallet = s.wallet ∧ s'.payouts = s.payouts

def Covered (s : WithdrawalStore) (withdrawal : Withdrawal) : Prop :=
  ∃ found ∈ s.wallet.walletOf withdrawal.userId, withdrawal.amount.value ≤ found.2.balance.value
deriving Decidable

def debited (s : WithdrawalStore) (withdrawal : Withdrawal) (method : String) : WithdrawalStore :=
  { s with wallet := (run (Wallets.debitWallet withdrawal.userId withdrawal.amount.value .payout
      (some (debitDescription method)) none false) s.wallet).2 }

/-- The number of debits of a withdrawal in the wallet of its vendor. -/
def debitCount (s : WithdrawalStore) (withdrawal : Withdrawal) (method : String) : ℕ :=
  match s.wallet.walletOf withdrawal.userId with
  | none => 0
  | some (walletId, _) => s.wallet.transactions.total fun tx =>
      if tx.walletId = walletId ∧ tx.type = .payout ∧ tx.amount.hundredths = -withdrawal.amount.hundredths ∧
        tx.description = some (debitDescription method) then 1 else 0

variable {s s' : WithdrawalStore} {env : ApprovalRuntime} {id : ℕ} {withdrawal : Withdrawal}
  {method payoutPhone : String}

theorem SameBooks.refl (s : WithdrawalStore) : SameBooks s s := ⟨rfl, rfl, rfl⟩

theorem SameBooks.trans {s'' : WithdrawalStore} (h : SameBooks s s') (h' : SameBooks s' s'') : SameBooks s s'' :=
  ⟨h'.1.trans h.1, h'.2.1.trans h.2.1, h'.2.2.trans h.2.2⟩

theorem sameBooks_logPayout (s : WithdrawalStore) (log : PayoutLog) : SameBooks s (s.logPayout log) :=
  ⟨rfl, rfl, rfl⟩

theorem SameBooks.debitCount_eq (h : SameBooks s s') (withdrawal : Withdrawal) (method : String) :
    s'.debitCount withdrawal method = s.debitCount withdrawal method := by
  unfold debitCount
  rw [h.2.1]

theorem debitCount_debited (hcovered : s.Covered withdrawal) (hpos : 0 < withdrawal.amount.value) :
    (s.debited withdrawal method).debitCount withdrawal method = s.debitCount withdrawal method + 1 := by
  obtain ⟨⟨walletId, wallet⟩, hwallet, hle⟩ := hcovered
  have hrun := run_debitWallet withdrawal.amount.value .payout (some (debitDescription method)) none hwallet hle
  have hafter : (s.debited withdrawal method).wallet =
      s.wallet.entered walletId (Wallets.withBalance wallet (wallet.balance.value - withdrawal.amount.value))
        (Wallets.debitTransaction walletId withdrawal.amount.value .payout (some (debitDescription method)) none) := by
    show (run _ s.wallet).2 = _
    rw [hrun]
  have hamount : (Numeric2.ofRat (-|withdrawal.amount.value|)).hundredths = -withdrawal.amount.hundredths := by
    rw [abs_of_pos hpos, Numeric2.hundredths_neg, Numeric2.ofRat_value]
  have howner : (s.wallet.entered walletId
      (Wallets.withBalance wallet (wallet.balance.value - withdrawal.amount.value))
      (Wallets.debitTransaction walletId withdrawal.amount.value .payout
        (some (debitDescription method)) none)).walletOf withdrawal.userId =
      some (walletId, Wallets.withBalance wallet (wallet.balance.value - withdrawal.amount.value)) :=
    WalletStore.walletOf_entered hwallet rfl
  unfold debitCount
  rw [hafter, howner, hwallet]
  refine (SerialTable.total_add _ s.wallet.transactions _).trans ?_
  rw [add_comm]
  refine congrArg _ (if_pos ⟨rfl, rfl, hamount, rfl⟩)

/-! ### The steps -/

variable {step : WithdrawalStep} {ε : Type} {data : PayoutData}

theorem run_atStep_of_none (error : String → ε) (h : env.fails step = none) (s : WithdrawalStore) :
    run (atStep env error step : Proc WithdrawalStore ε Unit) s = (.ok (), s) := by
  unfold atStep
  rw [h]
  rfl

theorem run_atStep_of_some (error : String → ε) {message : String}
    (h : env.fails step = some message) (s : WithdrawalStore) :
    run (atStep env error step : Proc WithdrawalStore ε Unit) s = (.error (error message), s) := by
  unfold atStep
  rw [h]
  rfl

theorem run_debitVendor (hstep : env.fails .debit = none) (hcovered : s.Covered withdrawal) :
    run (debitVendor env withdrawal method) s = (.ok (), s.debited withdrawal method) := by
  obtain ⟨⟨walletId, wallet⟩, hwallet, hle⟩ := hcovered
  have hrun := run_debitWallet withdrawal.amount.value .payout (some (debitDescription method)) none hwallet hle
  have hzoom := run_zoom walletLens (Wallets.debitWallet withdrawal.userId withdrawal.amount.value .payout
    (some (debitDescription method)) none false) s
  have hget : walletLens.get s = s.wallet := rfl
  unfold debitVendor
  rw [run_bind_of_ok (run_atStep_of_none _ hstep s), run_bind, hzoom, hget]
  unfold debited
  rw [hrun]
  rfl

theorem run_debitVendor_of_not (h : ¬ (env.fails .debit = none ∧ s.Covered withdrawal)) :
    ∃ e, run (debitVendor env withdrawal method) s = (.error e, s) := by
  unfold debitVendor
  cases hstep : env.fails .debit with
  | some message => exact ⟨_, run_bind_of_error (run_atStep_of_some _ hstep s) _⟩
  | none =>
    rw [run_bind_of_ok (run_atStep_of_none _ hstep s)]
    suffices hfail : ∃ e, run (Wallets.debitWallet withdrawal.userId withdrawal.amount.value .payout
        (some (debitDescription method)) none false) s.wallet = (.error e, s.wallet) by
      obtain ⟨e, hfail⟩ := hfail
      refine ⟨e, run_bind_of_error ?_ _⟩
      rw [run_zoom]
      show ((run _ s.wallet).1, walletLens.set s (run _ s.wallet).2) = _
      rw [hfail]
      rfl
    cases hwallet : s.wallet.walletOf withdrawal.userId with
    | none => exact ⟨_, run_debitWallet_of_eq_none _ _ _ _ hwallet⟩
    | some found =>
      have hlt : found.2.balance.value < withdrawal.amount.value := by
        by_contra hle
        exact h ⟨hstep, found, hwallet, not_lt.mp hle⟩
      exact ⟨_, run_debitWallet_of_lt _ _ _ _ hwallet hlt⟩

/-! ### The disbursement -/

/-- The tables after the payment of a withdrawal. -/
def paid (s : WithdrawalStore) (id : ℕ) (withdrawal : Withdrawal) (payoutPhone : String) : WithdrawalStore :=
  s.pay (payoutOf id withdrawal payoutPhone)

theorem run_sendPayout_of_ok (hpos : 0 < withdrawal.amount.value) (hpayout : env.payout = .ok data) :
    run (sendPayout env (payoutOf id withdrawal payoutPhone)) s = (.ok data, s.paid id withdrawal payoutPhone) := by
  have hamount : ¬ (payoutOf id withdrawal payoutPhone).amount ≤ 0 := not_le.mpr hpos
  unfold sendPayout
  rw [if_neg hamount, hpayout]
  rfl

theorem run_disburse_of_refused (h : ¬ 0 < withdrawal.amount.value ∨ ∃ message, env.payout = .error message) :
    ∃ e, run (disburse env id withdrawal method payoutPhone) s = (.error e, s) := by
  suffices hfail : ∃ e, run (sendPayout env (payoutOf id withdrawal payoutPhone)) s = (.error e, s) by
    obtain ⟨e, hfail⟩ := hfail
    exact ⟨e, run_bind_of_error hfail _⟩
  unfold sendPayout
  by_cases hamount : (payoutOf id withdrawal payoutPhone).amount ≤ 0
  · exact ⟨_, by rw [if_pos hamount]; rfl⟩
  · rcases h with hnot | ⟨message, hpayout⟩
    · exact absurd (not_lt.mp hnot) hamount
    · exact ⟨_, by rw [if_neg hamount, hpayout]; rfl⟩

theorem run_disburse_of_not_debited (hpos : 0 < withdrawal.amount.value)
    (hpayout : env.payout = .ok data) (hnot : ¬ (env.fails .debit = none ∧ s.Covered withdrawal)) :
    ∃ e, run (disburse env id withdrawal method payoutPhone) s = (.error e, s.paid id withdrawal payoutPhone) := by
  have hsame : ¬ (env.fails .debit = none ∧ (s.paid id withdrawal payoutPhone).Covered withdrawal) := hnot
  obtain ⟨e, hdebit⟩ : ∃ e, run (debitVendor env withdrawal method) (s.paid id withdrawal payoutPhone) =
      (.error e, s.paid id withdrawal payoutPhone) := run_debitVendor_of_not hsame
  unfold disburse
  rw [run_bind_of_ok (run_sendPayout_of_ok hpos hpayout)]
  refine ⟨e.message, run_bind_of_error ?_ _⟩
  rw [run_mapError, hdebit]
  rfl

section Debited

variable {data : PayoutData} (hpos : 0 < withdrawal.amount.value) (hpayout : env.payout = .ok data)
  (hstep : env.fails .debit = none) (hcovered : s.Covered withdrawal)

include hpos hpayout hstep hcovered

theorem run_disburse_of_debited : run (disburse env id withdrawal method payoutPhone) s =
    run (do
      atStep env (fun message => message) .save
      Proc.write fun s => s.saveWithdrawal id
        (disbursed env withdrawal method (providerReferenceOf id withdrawal data))
      atStep env (fun message => message) .logSuccess
      Proc.write fun s => s.logPayout (payoutLogOf withdrawal payoutPhone
        (providerReferenceOf id withdrawal data) .success none)
      return disbursed env withdrawal method (providerReferenceOf id withdrawal data))
      ((s.paid id withdrawal payoutPhone).debited withdrawal method) := by
  have hsame : (s.paid id withdrawal payoutPhone).Covered withdrawal := hcovered
  have hdebit : run (mapError HttpException.message (debitVendor env withdrawal method))
      (s.paid id withdrawal payoutPhone) =
      (.ok (), (s.paid id withdrawal payoutPhone).debited withdrawal method) := by
    rw [run_mapError, run_debitVendor hstep hsame]
    rfl
  unfold disburse
  rw [run_bind_of_ok (run_sendPayout_of_ok hpos hpayout), run_bind_of_ok hdebit]

theorem run_disburse_of_not_saved {message : String} (hsave : env.fails .save = some message) :
    run (disburse env id withdrawal method payoutPhone) s =
      (.error message, (s.paid id withdrawal payoutPhone).debited withdrawal method) := by
  rw [run_disburse_of_debited hpos hpayout hstep hcovered, run_bind_of_error (run_atStep_of_some _ hsave _)]

theorem run_disburse_of_saved (hsave : env.fails .save = none) :
    ∃ o s', run (disburse env id withdrawal method payoutPhone) s = (o, s') ∧
      SameBooks (((s.paid id withdrawal payoutPhone).debited withdrawal method).saveWithdrawal id
        (disbursed env withdrawal method (providerReferenceOf id withdrawal data))) s' := by
  rw [run_disburse_of_debited hpos hpayout hstep hcovered,
    run_bind_of_ok (run_atStep_of_none _ hsave _), run_write_bind]
  cases hlog : env.fails .logSuccess with
  | some message => exact ⟨_, _, run_bind_of_error (run_atStep_of_some _ hlog _) _, SameBooks.refl _⟩
  | none =>
    rw [run_bind_of_ok (run_atStep_of_none _ hlog _)]
    exact ⟨_, _, rfl, sameBooks_logPayout _ _⟩

end Debited

theorem sameBooks_disbursementFailed (payoutPhone message : String) :
    SameBooks s (run (disbursementFailed env id withdrawal payoutPhone message) s).2 := by
  unfold disbursementFailed
  cases hlog : env.fails .logFailure with
  | some error =>
    rw [run_bind_of_error (run_atStep_of_some _ hlog _)]
    exact SameBooks.refl s
  | none =>
    rw [run_bind_of_ok (run_atStep_of_none _ hlog _)]
    exact sameBooks_logPayout s _

theorem sameBooks_approveEbirr {user : Option User} {o : Except String Withdrawal}
    (hphone : payoutPhoneOf withdrawal user ≠ "")
    (h : run (disburse env id withdrawal method (payoutPhoneOf withdrawal user)) s = (o, s')) :
    SameBooks s' (run (approveEbirr env id withdrawal user method) s).2 := by
  have hattempt : run (attempt (disburse env id withdrawal method (payoutPhoneOf withdrawal user)) :
      WithdrawalProc (Except String Withdrawal)) s = (.ok o, s') := by
    rw [run_attempt, h]
  unfold approveEbirr
  rw [run_throwIf_bind, if_neg hphone, run_bind_of_ok hattempt]
  cases o with
  | ok saved => exact SameBooks.refl s'
  | error message => exact sameBooks_disbursementFailed _ message

/-! ### The approval -/

section Approval

variable (toUpperCase : String → String) (id : ℕ)

def approval (s : WithdrawalStore) (env : ApprovalRuntime) : WithdrawalStore :=
  (run (approveWithdrawal toUpperCase env id) s).2

/-- An approval of the withdrawal asks the provider for its payment. -/
structure PayableAs (s : WithdrawalStore) (withdrawal : Withdrawal) : Prop where
  found : s.withdrawals.find id = some withdrawal
  pending : withdrawal.status = .pending
  ebirr : methodOf toUpperCase withdrawal = "EBIRR"
  phone : payoutPhoneOf withdrawal (s.wallet.users.lookup withdrawal.userId) ≠ ""
  positive : 0 < withdrawal.amount.value

/-- The withdrawal is there, and its approval asks the provider for its payment. -/
def Payable (s : WithdrawalStore) : Prop := ∃ withdrawal, s.PayableAs toUpperCase id withdrawal

variable {toUpperCase id}

section

variable (h : s.PayableAs toUpperCase id withdrawal)

include h

theorem PayableAs.mono (hwithdrawals : s'.withdrawals = s.withdrawals) (husers : s'.wallet.users = s.wallet.users) :
    s'.PayableAs toUpperCase id withdrawal where
  found := hwithdrawals ▸ h.found
  pending := h.pending
  ebirr := h.ebirr
  phone := husers ▸ h.phone
  positive := h.positive

theorem approval_eq (env : ApprovalRuntime) :
    s.approval toUpperCase id env = (run (approveEbirr env id withdrawal
      (s.wallet.users.lookup withdrawal.userId) (methodOf toUpperCase withdrawal)) s).2 := by
  unfold approval approveWithdrawal
  rw [run_read_bind, h.found]
  dsimp only [Option.map_some]
  rw [run_throwIf_bind, if_neg (not_not.mpr h.pending), if_pos h.ebirr]

theorem approval_of_refused {message : String}
    (hpayout : env.payout = .error message) : SameBooks s (s.approval toUpperCase id env) := by
  obtain ⟨e, hrun⟩ := run_disburse_of_refused (.inr ⟨message, hpayout⟩)
  rw [approval_eq h]
  exact sameBooks_approveEbirr h.phone hrun

end

variable {data : PayoutData}

section

variable (h : s.PayableAs toUpperCase id withdrawal)

include h

section

variable (hpayout : env.payout = .ok data)

include hpayout

theorem approval_of_not_debited (hnot : ¬ (env.fails .debit = none ∧ s.Covered withdrawal)) :
    ∃ payoutPhone, SameBooks (s.paid id withdrawal payoutPhone) (s.approval toUpperCase id env) := by
  obtain ⟨e, hrun⟩ := run_disburse_of_not_debited h.positive hpayout hnot
  rw [approval_eq h]
  exact ⟨_, sameBooks_approveEbirr h.phone hrun⟩

theorem approval_of_not_saved (hstep : env.fails .debit = none) (hcovered : s.Covered withdrawal)
    {message : String} (hsave : env.fails .save = some message) :
    ∃ payoutPhone, SameBooks ((s.paid id withdrawal payoutPhone).debited withdrawal
      (methodOf toUpperCase withdrawal)) (s.approval toUpperCase id env) := by
  rw [approval_eq h]
  exact ⟨_, sameBooks_approveEbirr h.phone (run_disburse_of_not_saved h.positive hpayout hstep hcovered hsave)⟩

theorem approval_of_saved (hstep : env.fails .debit = none) (hcovered : s.Covered withdrawal)
    (hsave : env.fails .save = none) :
    ∃ payoutPhone providerReference, SameBooks (((s.paid id withdrawal payoutPhone).debited withdrawal
        (methodOf toUpperCase withdrawal)).saveWithdrawal id
        (disbursed env withdrawal (methodOf toUpperCase withdrawal) providerReference))
      (s.approval toUpperCase id env) := by
  obtain ⟨o, s', hrun, hsame⟩ := run_disburse_of_saved h.positive hpayout hstep hcovered hsave
  rw [approval_eq h]
  exact ⟨_, _, hsame.trans (sameBooks_approveEbirr h.phone hrun)⟩

end

end

theorem approval_of_not_pending (hfind : s.withdrawals.find id = some withdrawal)
    (hstatus : withdrawal.status ≠ .pending) (env : ApprovalRuntime) : s.approval toUpperCase id env = s := by
  unfold approval approveWithdrawal
  rw [run_read_bind, hfind]
  dsimp only [Option.map_some]
  rw [run_throwIf_bind, if_pos hstatus]

theorem approveManually_cases (env : ApprovalRuntime) (id : ℕ) (withdrawal : Withdrawal) (s : WithdrawalStore) :
    (run (approveManually env id withdrawal) s).2.payouts = s.payouts ∧
      ((run (approveManually env id withdrawal) s).2.withdrawals = s.withdrawals ∨
        (run (approveManually env id withdrawal) s).2.withdrawals =
          s.withdrawals.set id { withdrawal with status := .approved }) := by
  unfold approveManually
  by_cases hdebit : env.fails .debit = none ∧ s.Covered withdrawal
  · rw [run_bind_of_ok (run_debitVendor hdebit.1 hdebit.2)]
    cases hsave : env.fails .save with
    | some message =>
      rw [run_bind_of_error (run_atStep_of_some _ hsave _)]
      exact ⟨rfl, .inl rfl⟩
    | none =>
      rw [run_bind_of_ok (run_atStep_of_none _ hsave _)]
      exact ⟨rfl, .inr rfl⟩
  · obtain ⟨e, hrun⟩ : ∃ e, run (debitVendor env withdrawal withdrawal.method) s = (.error e, s) :=
      run_debitVendor_of_not hdebit
    rw [run_bind_of_error hrun]
    exact ⟨rfl, .inl rfl⟩

theorem approval_of_not_payable (h : ¬ s.Payable toUpperCase id) (env : ApprovalRuntime) :
    (s.approval toUpperCase id env).payouts = s.payouts ∧ ¬ (s.approval toUpperCase id env).Payable toUpperCase id := by
  have hkept : s.approval toUpperCase id env = s → (s.approval toUpperCase id env).payouts = s.payouts ∧
      ¬ (s.approval toUpperCase id env).Payable toUpperCase id := by
    intro hsame
    rw [hsame]
    exact ⟨rfl, h⟩
  cases hfind : s.withdrawals.find id with
  | none =>
    refine hkept ?_
    unfold approval approveWithdrawal
    rw [run_read_bind, hfind]
    rfl
  | some withdrawal =>
    by_cases hpending : withdrawal.status = .pending
    swap
    · exact hkept (approval_of_not_pending hfind hpending env)
    have hthen : s.approval toUpperCase id env =
        (run (if methodOf toUpperCase withdrawal = "EBIRR" then
            approveEbirr env id withdrawal (s.wallet.users.lookup withdrawal.userId) (methodOf toUpperCase withdrawal)
          else approveManually env id withdrawal) s).2 := by
      unfold approval approveWithdrawal
      rw [run_read_bind, hfind]
      dsimp only [Option.map_some]
      rw [run_throwIf_bind, if_neg (not_not.mpr hpending)]
    by_cases hebirr : methodOf toUpperCase withdrawal = "EBIRR"
    · rw [if_pos hebirr] at hthen
      by_cases hphone : payoutPhoneOf withdrawal (s.wallet.users.lookup withdrawal.userId) = ""
      · refine hkept (hthen.trans ?_)
        unfold approveEbirr
        rw [run_throwIf_bind, if_pos hphone]
      · have hpos : ¬ 0 < withdrawal.amount.value :=
          fun hpos => h ⟨withdrawal, hfind, hpending, hebirr, hphone, hpos⟩
        obtain ⟨e, hrun⟩ := run_disburse_of_refused (.inl hpos)
        have hsame : SameBooks s (s.approval toUpperCase id env) := by
          rw [hthen]
          exact sameBooks_approveEbirr hphone hrun
        refine ⟨hsame.2.2, fun ⟨withdrawal', hpayable⟩ => h ⟨withdrawal', ?_⟩⟩
        exact hpayable.mono hsame.1.symm (congrArg WalletStore.users hsame.2.1.symm)
    · rw [if_neg hebirr] at hthen
      obtain ⟨hpayouts, hrow⟩ := approveManually_cases env id withdrawal s
      rw [hthen]
      refine ⟨hpayouts, fun ⟨withdrawal', hpayable⟩ => ?_⟩
      have hfound := hpayable.found
      rcases hrow with hrow | hrow
      · -- The withdrawal is what it was: not one by eBirr.
        rw [hrow, hfind] at hfound
        cases hfound
        exact hebirr hpayable.ebirr
      · rw [hrow, SerialTable.find_set_self hfind] at hfound
        cases hfound
        cases hpayable.pending

end Approval

end WithdrawalStore

end SuuqBackend
