import SuuqBackend.PosSync.ProductAliases
import SuuqBackend.Wallet.Wallets

/-!
# Withdrawals

`WithdrawalsService.approveWithdrawal`.  A withdrawal by eBirr is paid by the provider first, then the wallet
of the vendor is debited, then the withdrawal is saved as approved and the payout logged; a failure of any of
these steps is logged and reported, and nothing of what was done before it is taken back.  Any other
withdrawal is debited and saved.

What the provider answers and which steps of the database fail are given with each call (`ApprovalRuntime`);
`toUpperCase` is that of the language.  `payouts` are the payments that the provider has made; emails and
telemetry are left out, and of the checks before a payout only the one of the amount is modelled, the others
being among the failures of the call.
-/

namespace SuuqBackend

inductive WithdrawalStatus where
  | pending
  | approved
  | rejected
deriving DecidableEq

structure Withdrawal where
  userId : ℕ
  amount : Numeric2
  method : String
  /-- The texts in the JSON column `details`. -/
  details : Table String String := ∅
  status : WithdrawalStatus

inductive PayoutStatus where
  | pending
  | success
  | failed
deriving DecidableEq

/-- A row of `payout_log`, of the provider EBIRR. -/
structure PayoutLog where
  vendorId : ℕ
  amount : Numeric2
  currency : String
  phoneNumber : String
  transactionReference : String
  status : PayoutStatus
  failureReason : Option String := none

/-- `payoutResult.data`. -/
structure PayoutData where
  referenceId : Option String := none
  issuerTransactionId : Option String := none
  requestId : Option String := none

/-- A payment that the provider has made. -/
structure Payout where
  phoneNumber : String
  amount : ℚ
  referenceId : String
  remark : String

/-- The steps of the database in an approval. -/
inductive WithdrawalStep where
  | debit
  | save
  | logSuccess
  | logFailure
deriving DecidableEq

/-- What an approval takes from outside. -/
structure ApprovalRuntime where
  /-- `new Date().toISOString()`. -/
  now : String
  /-- The answer of the provider, or the message of its failure. -/
  payout : Except String PayoutData
  /-- The message of the failure of a step, if it fails. -/
  fails : WithdrawalStep → Option String

/-- The tables of the withdrawals, those of the wallets, and the payments of the provider. -/
structure WithdrawalStore where
  withdrawals : SerialTable Withdrawal
  payoutLogs : List PayoutLog
  wallet : WalletStore
  payouts : List Payout

abbrev WithdrawalProc : Type → Type := Proc WithdrawalStore HttpException

namespace WithdrawalStore

/-- The tables of the wallets among them. -/
def walletLens : Proc.Lens WithdrawalStore WalletStore where
  get s := s.wallet
  set s wallet := { s with wallet }

/-- `withdrawalRepository.save` of a withdrawal that was loaded. -/
def saveWithdrawal (s : WithdrawalStore) (id : ℕ) (withdrawal : Withdrawal) : WithdrawalStore :=
  { s with withdrawals := s.withdrawals.set id withdrawal }

/-- `walletService.logPayout`. -/
def logPayout (s : WithdrawalStore) (log : PayoutLog) : WithdrawalStore :=
  { s with payoutLogs := s.payoutLogs ++ [log] }

/-- The provider makes a payment. -/
def pay (s : WithdrawalStore) (payout : Payout) : WithdrawalStore :=
  { s with payouts := s.payouts ++ [payout] }

end WithdrawalStore

namespace Withdrawals

/-- `a || b` on texts. -/
def orElse (text : Option String) (other : String) : String := (text.filter (· ≠ "")).getD other

section Approval

variable (toUpperCase : String → String) (env : ApprovalRuntime) (id : ℕ) (withdrawal : Withdrawal)

/-- A step of the database, which may fail. -/
def atStep {ε : Type} (error : String → ε) (step : WithdrawalStep) : Proc WithdrawalStore ε Unit :=
  match env.fails step with
  | some message => throw (error message)
  | none => pure ()

/-- `String(withdrawal.method || '').trim().toUpperCase()`. -/
def methodOf : String := toUpperCase (trim withdrawal.method)

/-- The phone of the payout: from the details, else from the user. -/
def payoutPhoneOf (user : Option User) : String :=
  let details := withdrawal.details
  trim (orElse (details.lookup "account_number")
    (orElse (details.lookup "accountNo")
      (orElse (details.lookup "phoneNumber")
        (orElse (user.bind User.vendorPhoneNumber) (orElse (user.bind User.phoneNumber) "")))))

/-- `referenceId`. -/
def referenceIdOf : String := s!"WD-{id}-U-{withdrawal.userId}"

/-- The payment that is asked for. -/
def payoutOf (payoutPhone : String) : Payout where
  phoneNumber := payoutPhone
  amount := withdrawal.amount.value
  referenceId := referenceIdOf id withdrawal
  remark := s!"Withdrawal #{id} approved"

/-- `providerReference`. -/
def providerReferenceOf (data : PayoutData) : String :=
  orElse data.referenceId (orElse data.issuerTransactionId (orElse data.requestId (referenceIdOf id withdrawal)))

def disbursed (method providerReference : String) : Withdrawal :=
  { withdrawal with
    status := .approved
    method
    details := (withdrawal.details.insert "disbursementReference" providerReference).insert "disbursedAt" env.now }

def payoutLogOf (payoutPhone transactionReference : String) (status : PayoutStatus)
    (failureReason : Option String) : PayoutLog where
  vendorId := withdrawal.userId
  amount := withdrawal.amount
  currency := "ETB"
  phoneNumber := payoutPhone
  transactionReference
  status
  failureReason

/-- `ebirrService.sendPayout`: the message of its failure. -/
def sendPayout (payout : Payout) : Proc WithdrawalStore String PayoutData :=
  if payout.amount ≤ 0 then throw "Invalid Ebirr payout request"
  else match env.payout with
    | .ok data => Proc.write (fun s => s.pay payout) >>= fun _ => pure data
    | .error message => throw message

def debitDescription (method : String) : String := s!"Withdrawal Approved via {method}"

/-- `walletService.debitWallet` of the amount of the withdrawal. -/
def debitVendor (method : String) : WithdrawalProc Unit := do
  atStep env .queryFailed .debit
  let _ ← Proc.zoom WithdrawalStore.walletLens (Wallets.debitWallet withdrawal.userId
    withdrawal.amount.value .payout (some (debitDescription method)) none false)

/-- The `try` block of an approval by eBirr: the message of its failure. -/
def disburse (method payoutPhone : String) : Proc WithdrawalStore String Withdrawal := do
  let data ← sendPayout env (payoutOf id withdrawal payoutPhone)
  let providerReference := providerReferenceOf id withdrawal data
  Proc.mapError HttpException.message (debitVendor env withdrawal method)
  let saved := disbursed env withdrawal method providerReference
  atStep env (fun message => message) .save
  Proc.write fun s => s.saveWithdrawal id saved
  atStep env (fun message => message) .logSuccess
  Proc.write fun s => s.logPayout (payoutLogOf withdrawal payoutPhone providerReference .success none)
  return saved

/-- Its `catch` block. -/
def disbursementFailed (payoutPhone message : String) : WithdrawalProc Withdrawal := do
  atStep env .queryFailed .logFailure
  Proc.write fun s => s.logPayout (payoutLogOf withdrawal payoutPhone (referenceIdOf id withdrawal) .failed
    (some (orElse (some message) "EBIRR withdrawal disbursement failed")))
  let reason := orElse (some message) "Unknown error"
  throw (.badRequest s!"EBIRR disbursement failed: {reason}")

def approveEbirr (user : Option User) (method : String) : WithdrawalProc Withdrawal := do
  let payoutPhone := payoutPhoneOf withdrawal user
  .throwIf (payoutPhone = "") (.badRequest "Cannot approve EBIRR withdrawal: payout phone/account is missing.")
  match ← Proc.attempt (disburse env id withdrawal method payoutPhone) with
  | .ok saved => return saved
  | .error message => disbursementFailed env id withdrawal payoutPhone message

def approveManually : WithdrawalProc Withdrawal := do
  debitVendor env withdrawal withdrawal.method
  let saved : Withdrawal := { withdrawal with status := .approved }
  atStep env .queryFailed .save
  Proc.write fun s => s.saveWithdrawal id saved
  return saved

def approveWithdrawal : WithdrawalProc Withdrawal := do
  let some (withdrawal, user) ← Proc.read fun s : WithdrawalStore =>
      (s.withdrawals.find id).map fun withdrawal => (withdrawal, s.wallet.users.lookup withdrawal.userId)
    | throw (.notFound "Withdrawal not found")
  .throwIf (withdrawal.status ≠ .pending) (.badRequest "Withdrawal is not pending")
  let method := methodOf toUpperCase withdrawal
  if method = "EBIRR" then approveEbirr env id withdrawal user method
  else approveManually env id withdrawal

end Approval

end Withdrawals

end SuuqBackend
