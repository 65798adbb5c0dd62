import SuuqBackend.Common.HttpException
import SuuqBackend.Common.Numeric
import SuuqBackend.Lib.Proc
import SuuqBackend.Lib.Table

/-!
# The tables of the wallets

`wallet`, `wallet_transaction` and `top_up_request` with the columns that the wallet service reads or writes,
and what it uses of `user` and `ui_setting`.  A user has at most one wallet: the column `userId` of `wallet`
is unique.

`toUpperCase` and `inThirtyDays` (the present date after `setDate(getDate() + 30)`) are those of the runtime,
and `rates` is the present table of the currency service.
-/

namespace SuuqBackend

inductive SubscriptionTier where
  | free
  | pro
deriving DecidableEq

structure User where
  currency : Option String := none
  registrationCountry : Option String := none
  vendorPhoneNumber : Option String := none
  phoneNumber : Option String := none
  subscriptionTier : SubscriptionTier := .free
  subscriptionExpiry : Option ℤ := none

structure Wallet where
  userId : ℕ
  balance : Numeric2
  currency : String
deriving DecidableEq

inductive TransactionType where
  | earning
  | payout
  | refund
  | adjustment
  | deposit
  | payment
  | commission
  | subscription
  | subscriptionRenewal
deriving DecidableEq

structure WalletTransaction where
  walletId : ℕ
  type : TransactionType
  amount : Numeric2
  fxRate : Option ℚ := none
  orderId : Option ℕ := none
  description : Option String := none

inductive TopUpStatus where
  | pending
  | approved
  | rejected
deriving DecidableEq

structure TopUpRequest where
  userId : ℕ
  amount : Numeric2
  status : TopUpStatus
  /-- `metadata.auto_action`. -/
  autoAction : Option String := none
deriving DecidableEq

structure WalletRuntime where
  toUpperCase : String → String
  rates : String → Option ℚ
  inThirtyDays : ℤ

structure WalletStore where
  users : Table ℕ User
  /-- `Number(setting.value)` of each setting; `none` is `NaN`. -/
  uiSettings : Table String (Option ℚ)
  wallets : SerialTable Wallet
  transactions : SerialTable WalletTransaction
  topUpRequests : SerialTable TopUpRequest

abbrev WalletProc : Type → Type := Proc WalletStore HttpException

namespace WalletStore

def walletOf (s : WalletStore) (userId : ℕ) : Option (ℕ × Wallet) :=
  s.wallets.first fun wallet => wallet.userId = userId

/-- A new row in `wallet`. -/
def addWallet (s : WalletStore) (wallet : Wallet) : WalletStore :=
  { s with wallets := s.wallets.add wallet }

/-- `save` of a wallet that was loaded: the whole row is written. -/
def setWallet (s : WalletStore) (walletId : ℕ) (wallet : Wallet) : WalletStore :=
  { s with wallets := s.wallets.set walletId wallet }

/-- A new row in `wallet_transaction`. -/
def addTransaction (s : WalletStore) (tx : WalletTransaction) : WalletStore :=
  { s with transactions := s.transactions.add tx }

/-- `save` of a request that was loaded. -/
def setTopUpRequest (s : WalletStore) (requestId : ℕ) (request : TopUpRequest) : WalletStore :=
  { s with topUpRequests := s.topUpRequests.set requestId request }

/-- The sum of the stored transactions of a wallet, in hundredths. -/
def transactionSum (s : WalletStore) (walletId : ℕ) : ℤ :=
  s.transactions.total fun tx => if tx.walletId = walletId then tx.amount.hundredths else 0

end WalletStore

end SuuqBackend

/-!
## The wallet service

`WalletService`: `creditWallet` and `debitWallet` run in the transaction of their caller or in one of their
own, `payWithWallet` and `approveTopUp` in one of their own; `deleteTransaction` and `recalculateBalance` are
single statements.  `getWallet` creates the wallet of a user, moves it to the currency of the user, or recalculates
its balance.  An approved top-up may upgrade the subscription of its user from the wallet
(`processAutoAction`), and no failure of that reaches the caller; `processPendingWalletSubscription`, which
`approveTopUp` also calls, does nothing.

The locks that `debitWallet`, `payWithWallet` and `approveTopUp` take on the wallet matter only to calls that
run beside each other, as in `Wallet/Laws/TopUpConcurrency.lean`.
-/

namespace SuuqBackend.Wallets

/-! ### Repository calls -/

/-- `findOne(Wallet, { where: { user: { id: userId } } })`. -/
def findWallet (userId : ℕ) : WalletProc (Option (ℕ × Wallet)) := Proc.read fun s => s.walletOf userId

/-- `save` of a new wallet: `userId` is unique. -/
def insertWallet (wallet : Wallet) : WalletProc ℕ :=
  .step (fun s => if (s.walletOf wallet.userId).isSome then s else s.addWallet wallet) fun s =>
    if (s.walletOf wallet.userId).isSome then
      .fail (.queryFailed "duplicate key value violates unique constraint")
    else .done s.wallets.next

/-- `save` of a wallet that was loaded or inserted. -/
def saveWallet (walletId : ℕ) (wallet : Wallet) : WalletProc Unit :=
  Proc.write fun s => s.setWallet walletId wallet

/-- `save` of a new transaction. -/
def insertTransaction (tx : WalletTransaction) : WalletProc Unit :=
  Proc.write fun s => s.addTransaction tx

/-! ### Credit and debit -/

def walletNotFound : HttpException := .notFound "Wallet not found"

/-- The currency of a wallet that `creditWallet` creates. -/
def currencyFor (user : User) : String :=
  match user.currency.filter (· ≠ "") with
  | some currency => currency
  | none =>
    if user.registrationCountry = some "ET" then "ETB"
    else if user.registrationCountry = some "DJ" then "DJF"
    else if user.registrationCountry = some "SO" then "SOS"
    else "KES"

/-- `manager.create(Wallet, { user, balance: 0, currency })`. -/
def newWallet (userId : ℕ) (currency : String) : Wallet := { userId, balance := ⟨0⟩, currency }

def walletToCredit (userId : ℕ) : WalletProc (ℕ × Wallet) := do
  match ← findWallet userId with
  | some found => return found
  | none =>
    let some user ← Proc.read fun s : WalletStore => s.users.lookup userId
      | throw (.notFound "User not found")
    let wallet := newWallet userId (currencyFor user)
    let walletId ← insertWallet wallet
    return (walletId, wallet)

/-- The transaction of `creditWallet`: "Credit is positive". -/
def creditTransaction (walletId : ℕ) (amount : ℚ) (type : TransactionType) (description : Option String)
    (orderId : Option ℕ) : WalletTransaction :=
  { walletId, amount := .ofRat |amount|, type, description, orderId }

/-- The transaction of `debitWallet`: "Debit is negative". -/
def debitTransaction (walletId : ℕ) (amount : ℚ) (type : TransactionType) (description : Option String)
    (orderId : Option ℕ) : WalletTransaction :=
  { walletId, amount := .ofRat (-|amount|), type, description, orderId }

def withBalance (wallet : Wallet) (balance : ℚ) : Wallet := { wallet with balance := .ofRat balance }

section CreditDebit

variable (userId : ℕ) (amount : ℚ) (type : TransactionType) (description : Option String)
  (orderId : Option ℕ)

/-- `run` of `creditWallet`. -/
def runCredit : WalletProc WalletTransaction := do
  let (walletId, wallet) ← walletToCredit userId
  let tx := creditTransaction walletId amount type description orderId
  insertTransaction tx
  saveWallet walletId (withBalance wallet (wallet.balance.value + amount))
  return tx

def creditWallet (externalManager : Bool) : WalletProc WalletTransaction :=
  Proc.inTransaction externalManager (runCredit userId amount type description orderId)

/-- `run` of `debitWallet`. -/
def runDebit : WalletProc WalletTransaction := do
  let some (walletId, wallet) ← findWallet userId
    | throw walletNotFound
  .throwIf (wallet.balance.value < amount) (.badRequest "Insufficient wallet balance")
  let tx := debitTransaction walletId amount type description orderId
  insertTransaction tx
  saveWallet walletId (withBalance wallet (wallet.balance.value - amount))
  return tx

def debitWallet (externalManager : Bool) : WalletProc WalletTransaction :=
  Proc.inTransaction externalManager (runDebit userId amount type description orderId)

end CreditDebit

/-! ### Payment -/

section Payment

variable (userId : ℕ) (amount : ℚ) (description : String) (type : TransactionType) (fxRate : Option ℚ)
  (checkCurrency : Option String)

/-- The payment is made in another currency than the wallet's. -/
def OtherCurrency (wallet : Wallet) : Prop :=
  checkCurrency.any fun currency => currency ≠ "" ∧ wallet.currency ≠ currency
deriving Decidable

/-- The error of a payment in another currency. -/
def currencyMismatch (wallet : Wallet) (currency : String) : HttpException :=
  .badRequest s!"Currency mismatch: Wallet is {wallet.currency}, Payment is {currency}"

/-- The error of a payment that the balance does not cover. -/
def insufficientFunds (wallet : Wallet) (required : ℚ) : HttpException :=
  .badRequest s!"Insufficient funds. Balance: {wallet.balance.text} {wallet.currency}, Required: {required}"

/-- `payWithWallet` between the start of its transaction and the commit. -/
def runPayment : WalletProc WalletTransaction := do
  let some (walletId, wallet) ← findWallet userId
    | throw walletNotFound
  .throwIf (OtherCurrency checkCurrency wallet) (currencyMismatch wallet (checkCurrency.getD ""))
  .throwIf (wallet.balance.value < amount) (insufficientFunds wallet amount)
  let newBalance := wallet.balance.value - amount
  saveWallet walletId (withBalance wallet (round (newBalance * 100) / 100))
  let tx : WalletTransaction :=
    { walletId, type, amount := .ofRat (-amount), description, fxRate := fxRate.map numeric4 }
  insertTransaction tx
  return tx

def payWithWallet : WalletProc WalletTransaction :=
  Proc.transaction (runPayment userId amount description type fxRate checkCurrency)

end Payment

/-! ### Top-ups -/

variable (env : WalletRuntime) (userId : ℕ)

/-- The price of the automatic upgrade, when it can be told: in the currency of the wallet, rounded up. -/
def upgradePrice (rawPrice : Option ℚ) (currency : String) : Option ℤ := do
  let rawPrice ← rawPrice
  match CurrencyService.convert env.toUpperCase env.rates rawPrice "USD"
      (if currency = "" then "KES" else currency) with
  | .ok convertedPrice => some ⌈convertedPrice⌉
  | .error _ => none

def upgraded (user : User) : User :=
  { user with subscriptionTier := .pro, subscriptionExpiry := some env.inThirtyDays }

/-- The body of `processAutoAction`: nothing is done about a price that cannot be told, or that the balance
does not cover. -/
def autoUpgrade (balance : ℚ) (currency : String) : WalletProc Unit := do
  let some rawPrice ← Proc.read fun s : WalletStore => s.uiSettings.lookup "vendor_subscription_base_price"
    | return
  let some finalPrice := upgradePrice env rawPrice currency
    | return
  if (finalPrice : ℚ) ≤ balance then
    let _ ← debitWallet userId finalPrice .subscription "Pro Plan Upgrade (Auto)" none false
    let some user ← Proc.read fun s : WalletStore => s.users.lookup userId
      | return
    Proc.write fun s => { s with users := s.users.insert userId (upgraded env user) }

/-- `processAutoAction`: a failure is logged and no more. -/
def processAutoAction (request : TopUpRequest) (balance : ℚ) (currency : String) : WalletProc Unit :=
  if request.autoAction = some "upgrade_pro" then do
    let _ : Except HttpException Unit ← Proc.attempt (autoUpgrade env request.userId balance currency)
  else pure ()

def approved (request : TopUpRequest) : TopUpRequest := { request with status := .approved }

/-- The wallet of a top-up: created with the defaults of its columns when there is none. -/
def walletToTopUp : WalletProc (ℕ × Wallet) := do
  match ← findWallet userId with
  | some found => return found
  | none =>
    let wallet := newWallet userId "KES"
    let walletId ← insertWallet wallet
    return (walletId, wallet)

def topUpTransaction (walletId : ℕ) (request : TopUpRequest) : WalletTransaction :=
  { walletId, type := .deposit, amount := request.amount }

/-- `approveTopUp` between the start of its transaction and the commit: the new balance and the currency of
the wallet. -/
def runTopUp (requestId : ℕ) (request : TopUpRequest) : WalletProc (ℚ × String) := do
  Proc.write fun s => s.setTopUpRequest requestId (approved request)
  let (walletId, wallet) ← walletToTopUp request.userId
  let balance := wallet.balance.value + request.amount.value
  saveWallet walletId (withBalance wallet balance)
  insertTransaction (topUpTransaction walletId request)
  return (balance, wallet.currency)

/-- The checks of `approveTopUp`, before its transaction. -/
def pendingTopUp (requestId : ℕ) : WalletProc TopUpRequest := do
  let some request ← Proc.read fun s : WalletStore => s.topUpRequests.find requestId
    | throw (.notFound "Top-up request not found")
  .throwIf (request.status ≠ .pending) (.badRequest "Request is not pending")
  return request

def approveTopUp (requestId : ℕ) : WalletProc TopUpRequest := do
  let request ← pendingTopUp requestId
  let (balance, currency) ← Proc.transaction (runTopUp requestId request)
  processAutoAction env request balance currency
  return approved request

/-! ### Corrections -/

def deleteTransaction (id : ℕ) : WalletProc Unit :=
  .step (fun s => { s with transactions := s.transactions.remove id }) fun s =>
    if (s.transactions.find id).isSome then .done ()
    else .fail (.notFound s!"Transaction with ID {id} not found")

/-- The balance that `recalculateBalance` stores. -/
def recalculated (s : WalletStore) (walletId : ℕ) : ℚ :=
  let totalBalance : ℚ := s.transactions.total fun tx =>
    if tx.walletId = walletId then tx.amount.value else 0
  round (totalBalance * 100) / 100

/-- `walletRepository.update(walletId, { balance })`. -/
def updateBalance (s : WalletStore) (walletId : ℕ) (balance : ℚ) : WalletStore :=
  match s.wallets.find walletId with
  | some wallet => s.setWallet walletId (withBalance wallet balance)
  | none => s

def recalculateBalance (walletId : ℕ) : WalletProc Unit := do
  let some _ ← Proc.read fun s : WalletStore => s.wallets.find walletId
    | return
  let roundedBalance ← Proc.read fun s : WalletStore => recalculated s walletId
  Proc.write fun s => updateBalance s walletId roundedBalance

/-! ### The wallet of a user -/

def transactionsOf (s : WalletStore) (walletId : ℕ) : List (ℕ × WalletTransaction) :=
  (List.range s.transactions.next).filterMap fun id =>
    ((s.transactions.find id).filter fun tx => tx.walletId = walletId).map fun tx => (id, tx)

def convertTransaction (oldCurrency targetCurrency : String) (row : ℕ × WalletTransaction) : WalletProc Unit := do
  let newAmount ← Proc.mapError HttpException.internal
    (.ofExcept (CurrencyService.convert env.toUpperCase env.rates row.2.amount.value oldCurrency targetCurrency))
  Proc.write fun s => { s with
    transactions := s.transactions.set row.1 { row.2 with amount := .ofRat newAmount } }

def migrateWalletCurrency (walletId : ℕ) (wallet : Wallet) (targetCurrency : String) : WalletProc Unit := do
  if wallet.currency = targetCurrency then return
  let oldCurrency := if wallet.currency = "" then "KES" else wallet.currency
  let transactions ← Proc.read fun s : WalletStore => transactionsOf s walletId
  Proc.forEach transactions (convertTransaction env oldCurrency targetCurrency)
  saveWallet walletId { wallet with currency := targetCurrency }
  recalculateBalance walletId

/-- The wallet that `getWallet` creates, or that another call has created meanwhile. -/
def createWallet (user : User) : WalletProc Wallet := do
  let wallet := newWallet userId (currencyFor user)
  let inserted : Except HttpException ℕ ← Proc.attempt (insertWallet wallet)
  match inserted with
  | .ok _ => return wallet
  | .error err =>
    let some (_, created) ← findWallet userId
      | throw err
    return created

/-- The currency that the wallet is to be moved to: that of the user, when it is another one. -/
def currencyToSync (user : User) (wallet : Wallet) : Option String :=
  user.currency.filter fun currency => currency ≠ "" ∧ wallet.currency ≠ currency

/-- The wallet is moved to the currency of its user, or its balance is recalculated. -/
def syncWallet (user : User) (walletId : ℕ) (wallet : Wallet) : WalletProc Unit :=
  match currencyToSync user wallet with
  | some currency => migrateWalletCurrency env walletId wallet currency
  | none => recalculateBalance walletId

/-- `getWallet` without a requested currency.  A wallet is never deleted, so that the last read finds it. -/
def getWallet : WalletProc Wallet := do
  let found ← findWallet userId
  let some user ← Proc.read fun s : WalletStore => s.users.lookup userId
    | throw (.notFound "User not found")
  match found with
  | none => createWallet userId user
  | some (walletId, wallet) =>
    syncWallet env user walletId wallet
    Proc.read fun s : WalletStore => (s.wallets.find walletId).getD wallet

end SuuqBackend.Wallets
