import SuuqBackend.Withdrawals.Laws.Approvals

/-!
# Payments of a withdrawal and their debits

Any approvals of one withdrawal, one after another, whatever the provider answers and whichever steps of the
database fail: when at most one payment is made, and never one without its debit.

The debit comes after the payment, and the status after the debit: a payment whose debit fails has none, and
one whose withdrawal is not saved is made again by the next approval.
-/

namespace SuuqBackend

open Proc Withdrawals SerialTable

/-- The provider makes the payment that it is asked for. -/
def ApprovalRuntime.Pays (env : ApprovalRuntime) : Prop := ∃ data, env.payout = .ok data

instance (env : ApprovalRuntime) : Decidable env.Pays := by
  unfold ApprovalRuntime.Pays
  cases env.payout with
  | ok data => exact .isTrue ⟨data, rfl⟩
  | error message => exact .isFalse fun ⟨_, h⟩ => by cases h

namespace WithdrawalStore

/-- The debit of an approval succeeds: no step of it fails, and the wallet covers the withdrawal. -/
def Debits (s : WithdrawalStore) (id : ℕ) (env : ApprovalRuntime) : Prop :=
  env.fails .debit = none ∧ ∀ withdrawal ∈ s.withdrawals.find id, s.Covered withdrawal
deriving Decidable

/-- At most one payment has been made between two states, and for one that has been made, one debit of the
withdrawal. -/
def PaidAtMostOnce (s s' : WithdrawalStore) (withdrawal : Withdrawal) (method : String) : Prop :=
  s'.payouts.length ≤ s.payouts.length + 1 ∧
    (s.payouts.length < s'.payouts.length → s'.debitCount withdrawal method = s.debitCount withdrawal method + 1)
deriving Decidable

section

variable (toUpperCase : String → String) (id : ℕ)

/-- After every payment the wallet is debited, and the withdrawal is saved or no later approval is paid. -/
def Settles : WithdrawalStore → List ApprovalRuntime → Prop
  | _, [] => True
  | s, env :: envs =>
    (s.Payable toUpperCase id → env.Pays → s.Debits id env ∧ (env.fails .save = none ∨ ∀ env' ∈ envs, ¬ env'.Pays)) ∧
    Settles (s.approval toUpperCase id env) envs

end

instance (toUpperCase : String → String) (id : ℕ) (s : WithdrawalStore) : Decidable (s.Payable toUpperCase id) :=
  decidable_of_iff (∃ withdrawal ∈ s.withdrawals.find id, withdrawal.status = .pending ∧
      methodOf toUpperCase withdrawal = "EBIRR" ∧
      payoutPhoneOf withdrawal (s.wallet.users.lookup withdrawal.userId) ≠ "" ∧ 0 < withdrawal.amount.value)
    ⟨fun ⟨w, hfind, hpending, hebirr, hphone, hpos⟩ => ⟨w, hfind, hpending, hebirr, hphone, hpos⟩,
      fun ⟨w, h⟩ => ⟨w, h.found, h.pending, h.ebirr, h.phone, h.positive⟩⟩

/-- Whether a concrete run settles can be computed. -/
def decidableSettles (toUpperCase : String → String) (id : ℕ) :
    ∀ (s : WithdrawalStore) (envs : List ApprovalRuntime), Decidable (s.Settles toUpperCase id envs)
  | _, [] => .isTrue trivial
  | s, env :: envs =>
    have := decidableSettles toUpperCase id (s.approval toUpperCase id env) envs
    inferInstanceAs (Decidable (_ ∧ _))

instance (toUpperCase : String → String) (id : ℕ) (s : WithdrawalStore) (envs : List ApprovalRuntime) :
    Decidable (s.Settles toUpperCase id envs) :=
  decidableSettles toUpperCase id s envs

variable {toUpperCase : String → String} {id : ℕ} {s : WithdrawalStore} {withdrawal : Withdrawal}
  {env : ApprovalRuntime}

theorem debits_iff (h : s.PayableAs toUpperCase id withdrawal) :
    s.Debits id env ↔ env.fails .debit = none ∧ s.Covered withdrawal := by
  unfold Debits
  rw [h.found]
  exact and_congr_right fun _ => ⟨fun hall => hall withdrawal rfl, fun hcovered w hw => by
    cases hw
    exact hcovered⟩

theorem users_debited (hcovered : s.Covered withdrawal) (method : String) :
    (s.debited withdrawal method).wallet.users = s.wallet.users := by
  obtain ⟨⟨walletId, wallet⟩, hwallet, hle⟩ := hcovered
  show (run _ s.wallet).2.users = s.wallet.users
  rw [run_debitWallet withdrawal.amount.value .payout (some (debitDescription method)) none hwallet hle]
  rfl

/-! ### One approval -/

theorem sameBooks_approval (h : s.PayableAs toUpperCase id withdrawal) (hpays : ¬ env.Pays) :
    SameBooks s (s.approval toUpperCase id env) := by
  cases hpayout : env.payout with
  | ok data => exact absurd ⟨data, hpayout⟩ hpays
  | error message => exact approval_of_refused h hpayout

theorem SameBooks.payableAs {s' : WithdrawalStore} (hsame : SameBooks s s')
    (h : s.PayableAs toUpperCase id withdrawal) : s'.PayableAs toUpperCase id withdrawal :=
  h.mono hsame.1 (congrArg WalletStore.users hsame.2.1)

/-- **What an approval leaves whose payment is made**: one more payment, and its debit if that succeeds; the
withdrawal stays payable unless it is saved. -/
theorem approval_of_pays (h : s.PayableAs toUpperCase id withdrawal) (hpays : env.Pays) :
    (s.approval toUpperCase id env).payouts.length = s.payouts.length + 1 ∧
      ((¬ s.Debits id env ∧
          (s.approval toUpperCase id env).debitCount withdrawal (methodOf toUpperCase withdrawal) =
            s.debitCount withdrawal (methodOf toUpperCase withdrawal) ∧
          (s.approval toUpperCase id env).PayableAs toUpperCase id withdrawal) ∨
        (s.Debits id env ∧
          (s.approval toUpperCase id env).debitCount withdrawal (methodOf toUpperCase withdrawal) =
            s.debitCount withdrawal (methodOf toUpperCase withdrawal) + 1 ∧
          (env.fails .save ≠ none ∧ (s.approval toUpperCase id env).PayableAs toUpperCase id withdrawal ∨
            env.fails .save = none ∧ ∃ saved,
              (s.approval toUpperCase id env).withdrawals.find id = some saved ∧ saved.status ≠ .pending))) := by
  obtain ⟨data, hpayout⟩ := hpays
  have hlength : ∀ payoutPhone, (s.paid id withdrawal payoutPhone).payouts.length = s.payouts.length + 1 :=
    fun _ => List.length_append
  by_cases hdebits : env.fails .debit = none ∧ s.Covered withdrawal
  · have hcovered : ∀ payoutPhone, (s.paid id withdrawal payoutPhone).Covered withdrawal :=
      fun _ => hdebits.2
    have hcount : ∀ payoutPhone, ((s.paid id withdrawal payoutPhone).debited withdrawal
        (methodOf toUpperCase withdrawal)).debitCount withdrawal (methodOf toUpperCase withdrawal) =
        s.debitCount withdrawal (methodOf toUpperCase withdrawal) + 1 :=
      fun payoutPhone => debitCount_debited (hcovered payoutPhone) h.positive
    cases hsave : env.fails .save with
    | some message =>
      obtain ⟨payoutPhone, hsame⟩ := approval_of_not_saved h hpayout hdebits.1 hdebits.2 hsave
      have hpayable : ((s.paid id withdrawal payoutPhone).debited withdrawal
          (methodOf toUpperCase withdrawal)).PayableAs toUpperCase id withdrawal :=
        h.mono rfl (users_debited (hcovered payoutPhone) _)
      refine ⟨(congrArg List.length hsame.2.2).trans (hlength payoutPhone), .inr ⟨(debits_iff h).mpr hdebits,
        (hsame.debitCount_eq _ _).trans (hcount payoutPhone), .inl ⟨fun heq => ?_, hsame.payableAs hpayable⟩⟩⟩
      cases heq
    | none =>
      obtain ⟨payoutPhone, providerReference, hsame⟩ :=
        approval_of_saved h hpayout hdebits.1 hdebits.2 hsave
      have hsaved : (s.approval toUpperCase id env).withdrawals.find id =
          some (disbursed env withdrawal (methodOf toUpperCase withdrawal) providerReference) := by
        rw [hsame.1]
        exact find_set_self h.found _
      refine ⟨(congrArg List.length hsame.2.2).trans (hlength payoutPhone), .inr ⟨(debits_iff h).mpr hdebits,
        (hsame.debitCount_eq _ _).trans (hcount payoutPhone), .inr ⟨rfl, _, hsaved, fun heq => ?_⟩⟩⟩
      cases heq
  · obtain ⟨payoutPhone, hsame⟩ := approval_of_not_debited h hpayout hdebits
    have hpayable : (s.paid id withdrawal payoutPhone).PayableAs toUpperCase id withdrawal := h.mono rfl rfl
    exact ⟨(congrArg List.length hsame.2.2).trans (hlength payoutPhone),
      .inl ⟨fun hd => hdebits ((debits_iff h).mp hd), hsame.debitCount_eq _ _, hsame.payableAs hpayable⟩⟩

theorem payouts_le_approval (s : WithdrawalStore) (env : ApprovalRuntime) :
    s.payouts.length ≤ (s.approval toUpperCase id env).payouts.length := by
  by_cases hpayable : s.Payable toUpperCase id
  · obtain ⟨withdrawal, h⟩ := hpayable
    by_cases hpays : env.Pays
    · have hone := (approval_of_pays h hpays).1
      omega
    · rw [(sameBooks_approval h hpays).2.2]
  · rw [(approval_of_not_payable hpayable env).1]

/-! ### Runs -/

theorem payouts_le_after (s : WithdrawalStore) (envs : List ApprovalRuntime) :
    s.payouts.length ≤ (Run.after (approval toUpperCase id) s envs).payouts.length :=
  Run.after_invariant (P := fun s' : WithdrawalStore => s.payouts.length ≤ s'.payouts.length)
    (fun s' env hle => hle.trans (payouts_le_approval s' env)) le_rfl envs

theorem payouts_after_of_not_payable (h : ¬ s.Payable toUpperCase id) (envs : List ApprovalRuntime) :
    (Run.after (approval toUpperCase id) s envs).payouts = s.payouts := by
  suffices hboth : (Run.after (approval toUpperCase id) s envs).payouts = s.payouts ∧
      ¬ (Run.after (approval toUpperCase id) s envs).Payable toUpperCase id from hboth.1
  refine Run.after_invariant (P := fun s' : WithdrawalStore => s'.payouts = s.payouts ∧
    ¬ s'.Payable toUpperCase id) ?_ ⟨rfl, h⟩ envs
  rintro s' env ⟨hpayouts, hnot⟩
  obtain ⟨hsame, hstill⟩ := approval_of_not_payable hnot env
  exact ⟨hsame.trans hpayouts, hstill⟩

theorem after_of_not_pending (hfind : s.withdrawals.find id = some withdrawal)
    (hstatus : withdrawal.status ≠ .pending) (envs : List ApprovalRuntime) :
    Run.after (approval toUpperCase id) s envs = s := by
  refine Run.after_invariant (P := fun s' : WithdrawalStore => s' = s) ?_ rfl envs
  rintro s' env rfl
  exact approval_of_not_pending hfind hstatus env

variable {envs : List ApprovalRuntime}

section

variable (h : s.PayableAs toUpperCase id withdrawal)

include h

theorem sameBooks_after
    (hpays : ∀ env ∈ envs, ¬ env.Pays) : SameBooks s (Run.after (approval toUpperCase id) s envs) := by
  refine Run.after_induction (P := SameBooks s) ?_ (SameBooks.refl s) (Run.along_of_forall hpays)
  intro s' env hsame hnot
  exact hsame.trans (sameBooks_approval (hsame.payableAs h) hnot)

/-- **Approvals of a payable withdrawal pay nothing** exactly when the provider refuses them all. -/
theorem payouts_after_eq_iff (envs : List ApprovalRuntime) :
    (Run.after (approval toUpperCase id) s envs).payouts.length = s.payouts.length ↔ ∀ env ∈ envs, ¬ env.Pays := by
  refine ⟨fun hsame => ?_, fun hpays => congrArg List.length (sameBooks_after h hpays).2.2⟩
  induction envs generalizing s with
  | nil => exact fun env henv => absurd henv List.not_mem_nil
  | cons env envs ih =>
    rw [Run.after_cons] at hsame
    have hrest : (s.approval toUpperCase id env).payouts.length ≤
        (Run.after (approval toUpperCase id) (s.approval toUpperCase id env) envs).payouts.length :=
      payouts_le_after _ envs
    by_cases hpays : env.Pays
    · have hone := (approval_of_pays h hpays).1
      omega
    · have hbooks := sameBooks_approval h hpays
      have hlater := ih (hbooks.payableAs h) (hsame.trans (congrArg List.length hbooks.2.2).symm)
      intro env' henv'
      rcases List.mem_cons.mp henv' with rfl | henv'
      · exact hpays
      · exact hlater env' henv'

theorem debitCount_after_of_payouts_eq
    (heq : (Run.after (approval toUpperCase id) s envs).payouts.length = s.payouts.length) (method : String) :
    (Run.after (approval toUpperCase id) s envs).debitCount withdrawal method = s.debitCount withdrawal method :=
  (sameBooks_after h ((payouts_after_eq_iff h envs).mp heq)).debitCount_eq withdrawal method

end

theorem settles_of_not_payable (h : ¬ s.Payable toUpperCase id) (envs : List ApprovalRuntime) :
    s.Settles toUpperCase id envs := by
  induction envs generalizing s with
  | nil => trivial
  | cons env envs ih =>
    exact ⟨fun hpayable => absurd hpayable h, ih (approval_of_not_payable h env).2⟩

theorem settles_of_refused (h : s.PayableAs toUpperCase id withdrawal)
    (hpays : ∀ env ∈ envs, ¬ env.Pays) : s.Settles toUpperCase id envs := by
  induction envs generalizing s with
  | nil => trivial
  | cons env envs ih =>
    have hnot := hpays env List.mem_cons_self
    refine ⟨fun _ hpaid => absurd hpaid hnot, ?_⟩
    exact ih ((sameBooks_approval h hnot).payableAs h) fun env' henv' =>
      hpays env' (List.mem_cons_of_mem env henv')

theorem settles_of_not_pending (hfind : s.withdrawals.find id = some withdrawal)
    (hstatus : withdrawal.status ≠ .pending) (envs : List ApprovalRuntime) : s.Settles toUpperCase id envs := by
  refine settles_of_not_payable (fun ⟨withdrawal', hpayable⟩ => hstatus ?_) envs
  have hsame : withdrawal' = withdrawal := Option.mem_unique hpayable.found hfind
  exact hsame ▸ hpayable.pending

theorem paidAtMostOnce_cons_iff {s' : WithdrawalStore} {method : String}
    (hpaid : s'.payouts.length = s.payouts.length + 1)
    (hdebit : s'.debitCount withdrawal method = s.debitCount withdrawal method + 1)
    (hsame : (Run.after (approval toUpperCase id) s' envs).payouts.length = s'.payouts.length →
      (Run.after (approval toUpperCase id) s' envs).debitCount withdrawal method =
        s'.debitCount withdrawal method) :
    PaidAtMostOnce s (Run.after (approval toUpperCase id) s' envs) withdrawal method ↔
      (Run.after (approval toUpperCase id) s' envs).payouts.length = s'.payouts.length := by
  have hle : s'.payouts.length ≤ (Run.after (approval toUpperCase id) s' envs).payouts.length :=
    payouts_le_after s' envs
  constructor
  · rintro ⟨hmost, -⟩
    omega
  · intro heq
    refine ⟨by omega, fun _ => by omega⟩

theorem paidAtMostOnce_iff_of_payable (h : s.PayableAs toUpperCase id withdrawal) (envs : List ApprovalRuntime) :
    PaidAtMostOnce s (Run.after (approval toUpperCase id) s envs) withdrawal
        (methodOf toUpperCase withdrawal) ↔ s.Settles toUpperCase id envs := by
  induction envs generalizing s with
  | nil => exact iff_of_true ⟨Nat.le_succ _, fun hlt => absurd hlt (Nat.lt_irrefl _)⟩ trivial
  | cons env envs ih =>
    rw [Run.after_cons]
    by_cases hpays : env.Pays
    swap
    · -- A refused payment: the rest of the run decides.
      have hbooks := sameBooks_approval h hpays
      have hrest := ih (hbooks.payableAs h)
      unfold PaidAtMostOnce at hrest ⊢
      rw [hbooks.2.2, hbooks.debitCount_eq] at hrest
      rw [hrest]
      exact ⟨fun htail => ⟨fun _ hpaid => absurd hpaid hpays, htail⟩, fun hboth => hboth.2⟩
    · obtain ⟨hpaid, hcases⟩ := approval_of_pays h hpays
      have hle : (s.approval toUpperCase id env).payouts.length ≤
          (Run.after (approval toUpperCase id) (s.approval toUpperCase id env) envs).payouts.length :=
        payouts_le_after _ envs
      have hpayable : s.Payable toUpperCase id := ⟨withdrawal, h⟩
      rcases hcases with ⟨hnot, hcount, hstill⟩ | ⟨hdebits, hcount, hcases⟩
      · -- No debit: a second payment would be one too many, and without it the debit is missing.
        refine iff_of_false (fun hprop => ?_) fun hsettles => hnot (hsettles.1 hpayable hpays).1
        have hmost := hprop.1
        have hmore := hprop.2 (by omega)
        have heq : (Run.after (approval toUpperCase id) (s.approval toUpperCase id env) envs).payouts.length =
            (s.approval toUpperCase id env).payouts.length := by omega
        have hsame := debitCount_after_of_payouts_eq hstill heq (methodOf toUpperCase withdrawal)
        omega
      · rcases hcases with ⟨hunsaved, hstill⟩ | ⟨hsaved, saved, hfind, hstatus⟩
        · rw [paidAtMostOnce_cons_iff hpaid hcount fun heq => debitCount_after_of_payouts_eq hstill heq _,
            payouts_after_eq_iff hstill envs]
          constructor
          · intro hrefused
            exact ⟨fun _ _ => ⟨hdebits, .inr hrefused⟩, settles_of_refused hstill hrefused⟩
          · intro hsettles
            exact (hsettles.1 hpayable hpays).2.resolve_left hunsaved
        · have hafter : Run.after (approval toUpperCase id) (s.approval toUpperCase id env) envs =
              s.approval toUpperCase id env := after_of_not_pending hfind hstatus envs
          rw [paidAtMostOnce_cons_iff hpaid hcount fun _ => by rw [hafter], hafter]
          refine iff_of_true rfl ⟨fun _ _ => ⟨hdebits, .inl hsaved⟩, ?_⟩
          exact settles_of_not_pending hfind hstatus envs

/-- **When a withdrawal is paid at most once and never without its debit**, whatever the sequence of its
approvals: exactly when after every payment the wallet is debited, and the withdrawal is saved or the provider
refuses all later approvals. -/
theorem paidAtMostOnce_iff (hfind : s.withdrawals.find id = some withdrawal) (envs : List ApprovalRuntime) :
    PaidAtMostOnce s (Run.after (approval toUpperCase id) s envs) withdrawal
        (methodOf toUpperCase withdrawal) ↔ s.Settles toUpperCase id envs := by
  by_cases hpayable : s.Payable toUpperCase id
  · obtain ⟨withdrawal', h⟩ := hpayable
    have hsame : withdrawal = withdrawal' := Option.mem_unique hfind h.found
    subst hsame
    exact paidAtMostOnce_iff_of_payable h envs
  · have hnone := payouts_after_of_not_payable hpayable envs
    refine iff_of_true ?_ (settles_of_not_payable hpayable envs)
    unfold PaidAtMostOnce
    rw [hnone]
    exact ⟨Nat.le_succ _, fun hlt => absurd hlt (Nat.lt_irrefl _)⟩

/-! ### A vendor -/

def vendorWithdrawal : Withdrawal where
  userId := 1
  amount := ⟨6000⟩
  method := "EBIRR"
  status := .pending

/-- The tables of a vendor with the given balance, who has asked for the withdrawal. -/
def vendor (balance : ℤ) : WithdrawalStore where
  withdrawals := SerialTable.empty.add vendorWithdrawal
  payoutLogs := []
  wallet :=
    { users := (∅ : Table ℕ User).insert 1 { vendorPhoneNumber := some "251911223344" }
      uiSettings := ∅
      wallets := SerialTable.empty.add { userId := 1, balance := ⟨balance⟩, currency := "ETB" }
      transactions := SerialTable.empty.add { walletId := 1, type := .earning, amount := ⟨balance⟩ }
      topUpRequests := .empty }
  payouts := []

/-- An approval that the provider answers as given, without a failure of the database. -/
def answered (payout : Except String PayoutData) : ApprovalRuntime where
  now := "2026-01-01T00:00:00.000Z"
  payout
  fails _ := none

/-- The upper case of a text that has no other letters. -/
def sameCase (text : String) : String := text

/-- The provider is down, then pays; a further approval is refused. -/
theorem vendor_paid_once :
    (Run.after (approval sameCase 1) (vendor 10000) [answered (.error "Payout Failed: timeout"),
        answered (.ok {}), answered (.ok {})]).payouts.length = 1 ∧
      PaidAtMostOnce (vendor 10000) (Run.after (approval sameCase 1) (vendor 10000)
        [answered (.error "Payout Failed: timeout"), answered (.ok {}), answered (.ok {})])
        vendorWithdrawal (methodOf sameCase vendorWithdrawal) :=
  ⟨by decide +kernel, (paidAtMostOnce_iff (find_add_self SerialTable.empty vendorWithdrawal) _).mpr (by decide +kernel)⟩

/-- The balance has been spent since the withdrawal was asked for: it is paid twice, without a debit. -/
theorem spent_vendor_paid_twice :
    ¬ PaidAtMostOnce (vendor 5000) (Run.after (approval sameCase 1) (vendor 5000)
        [answered (.ok {}), answered (.ok {})]) vendorWithdrawal (methodOf sameCase vendorWithdrawal) ∧
      (Run.after (approval sameCase 1) (vendor 5000)
        [answered (.ok {}), answered (.ok {})]).payouts.length = 2 ∧
      (Run.after (approval sameCase 1) (vendor 5000)
        [answered (.ok {}), answered (.ok {})]).debitCount vendorWithdrawal "EBIRR" = 0 := by
  decide +kernel

end WithdrawalStore

end SuuqBackend
