import SuuqBackend.Wallet.Wallets

/-!
# What the wallet operations leave

`entered s walletId wallet tx` are the tables after a call has stored a transaction and the wallet with its
new balance; every call leaves those, of the wallet of its user, or changes no wallet.

* `BalancedAt s walletId`: the stored balance of a wallet is the sum of its transactions, and not negative.
-/

namespace SuuqBackend

open Wallets SerialTable

namespace WalletStore

/-- A call has stored a transaction and the wallet with its new balance. -/
def entered (s : WalletStore) (walletId : ℕ) (wallet : Wallet) (tx : WalletTransaction) : WalletStore :=
  (s.addTransaction tx).setWallet walletId wallet

def deposited (s : WalletStore) (walletId : ℕ) (wallet : Wallet) (request : TopUpRequest) : WalletStore :=
  s.entered walletId (withBalance wallet (wallet.balance.value + request.amount.value))
    (topUpTransaction walletId request)

/-- The stored balance of the wallet is the sum of its transactions, and not negative. -/
def BalancedAt (s : WalletStore) (walletId : ℕ) : Prop :=
  ∀ wallet ∈ s.wallets.find walletId,
    wallet.balance.hundredths = s.transactionSum walletId ∧ 0 ≤ wallet.balance.hundredths

def Balanced (s : WalletStore) : Prop := ∀ walletId, s.BalancedAt walletId

/-- The foreign key `walletId` of the transactions. -/
def Linked (s : WalletStore) : Prop :=
  ∀ id tx, s.transactions.find id = some tx → (s.wallets.find tx.walletId).isSome

variable {s s' : WalletStore} {walletId : ℕ} {wallet wallet' : Wallet} {tx : WalletTransaction}

/-! ### Entries -/

variable {userId : ℕ}

theorem find_of_walletOf (h : s.walletOf userId = some (walletId, wallet)) :
    s.wallets.find walletId = some wallet :=
  (find_of_first h).1

theorem transactionSum_addTransaction (s : WalletStore) (tx : WalletTransaction) (walletId : ℕ) :
    (s.addTransaction tx).transactionSum walletId =
      s.transactionSum walletId + if tx.walletId = walletId then tx.amount.hundredths else 0 := by
  have htotal := total_add
    (fun tx : WalletTransaction => if tx.walletId = walletId then tx.amount.hundredths else 0)
    s.transactions tx
  rw [add_comm]
  exact htotal

section

variable (hwallets : s'.wallets = s.wallets)

include hwallets

section

variable (htransactions : s'.transactions = s.transactions)

include htransactions

theorem balancedAt_congr (walletId : ℕ) : s'.BalancedAt walletId ↔ s.BalancedAt walletId := by
  unfold BalancedAt transactionSum
  rw [hwallets, htransactions]

theorem balanced_congr : s'.Balanced ↔ s.Balanced :=
  forall_congr' (balancedAt_congr hwallets htransactions)

theorem linked_congr : s'.Linked ↔ s.Linked := by
  unfold Linked
  rw [hwallets, htransactions]

end

end

theorem balancedAt_entered_of_ne (htx : tx.walletId = walletId) {walletId' : ℕ} (h : walletId' ≠ walletId) :
    (s.entered walletId wallet tx).BalancedAt walletId' ↔ s.BalancedAt walletId' := by
  have hfind : (s.entered walletId wallet tx).wallets.find walletId' = s.wallets.find walletId' :=
    find_set_of_ne _ _ h
  have hsum : (s.entered walletId wallet tx).transactionSum walletId' = s.transactionSum walletId' := by
    refine (transactionSum_addTransaction s tx walletId').trans ?_
    rw [htx, if_neg h.symm, add_zero]
  unfold BalancedAt
  rw [hfind, hsum]

theorem balancedAt_entered (hfind : s.wallets.find walletId = some wallet) (htx : tx.walletId = walletId) :
    (s.entered walletId wallet' tx).BalancedAt walletId ↔
      wallet'.balance.hundredths = s.transactionSum walletId + tx.amount.hundredths ∧
        0 ≤ wallet'.balance.hundredths := by
  have hnew : (s.entered walletId wallet' tx).wallets.find walletId = some wallet' :=
    find_set_self hfind _
  have hsum : (s.entered walletId wallet' tx).transactionSum walletId =
      s.transactionSum walletId + tx.amount.hundredths := by
    refine (transactionSum_addTransaction s tx walletId).trans ?_
    rw [if_pos htx]
  unfold BalancedAt
  rw [hnew, hsum]
  constructor
  · intro h
    exact h wallet' rfl
  · rintro h wallet'' hwallet
    cases hwallet
    exact h

theorem balanced_entered_iff (hothers : ∀ walletId' ≠ walletId, s.BalancedAt walletId')
    (hfind : s.wallets.find walletId = some wallet) (htx : tx.walletId = walletId) :
    (s.entered walletId wallet' tx).Balanced ↔
      wallet'.balance.hundredths = s.transactionSum walletId + tx.amount.hundredths ∧
        0 ≤ wallet'.balance.hundredths := by
  rw [← balancedAt_entered hfind htx]
  refine ⟨fun h => h walletId, fun h walletId' => ?_⟩
  by_cases hid : walletId' = walletId
  · subst hid
    exact h
  · exact (balancedAt_entered_of_ne htx hid).mpr (hothers walletId' hid)

theorem Linked.setWallet (h : s.Linked) (walletId : ℕ) (wallet : Wallet) :
    (s.setWallet walletId wallet).Linked :=
  fun id tx htx => (isSome_find_set s.wallets walletId wallet tx.walletId).trans (h id tx htx)

theorem Linked.addTransaction (h : s.Linked) (hfind : s.wallets.find walletId = some wallet)
    (htx : tx.walletId = walletId) : (s.addTransaction tx).Linked := by
  have hown : (s.wallets.find tx.walletId).isSome := by
    rw [htx, hfind]
    rfl
  exact forall_find_add h hown

theorem Linked.entered (h : s.Linked) (hfind : s.wallets.find walletId = some wallet)
    (htx : tx.walletId = walletId) : (s.entered walletId wallet' tx).Linked :=
  (h.addTransaction hfind htx).setWallet walletId wallet'

theorem walletOf_entered (h : s.walletOf userId = some (walletId, wallet)) (huser : wallet'.userId = wallet.userId) :
    (s.entered walletId wallet' tx).walletOf userId = some (walletId, wallet') := by
  have howner : wallet.userId = userId := of_decide_eq_true (find_of_first h).2
  exact first_set h (decide_eq_true (huser.trans howner))

theorem walletOf_deposited (request : TopUpRequest) (h : s.walletOf userId = some (walletId, wallet)) :
    (s.deposited walletId wallet request).walletOf userId =
      some (walletId, withBalance wallet (wallet.balance.value + request.amount.value)) :=
  walletOf_entered h rfl

/-! ### New wallets -/

theorem transactionSum_next (h : s.Linked) : s.transactionSum s.wallets.next = 0 := by
  apply total_eq_zero
  intro id tx htx
  have hown := h id tx htx
  refine if_neg fun heq => ?_
  rw [heq, find_next] at hown
  cases hown

theorem balanced_addWallet (hlinked : s.Linked) (h : s.Balanced) (hempty : wallet.balance = ⟨0⟩) :
    (s.addWallet wallet).Balanced := by
  intro walletId' wallet' hwallet'
  by_cases hid : walletId' = s.wallets.next
  · subst hid
    have hself : (s.addWallet wallet).wallets.find s.wallets.next = some wallet :=
      find_add_self _ _
    rw [hself] at hwallet'
    cases hwallet'
    have hsum : (s.addWallet wallet).transactionSum s.wallets.next = 0 := transactionSum_next hlinked
    rw [hsum, hempty]
    exact ⟨rfl, le_rfl⟩
  · have hother : (s.addWallet wallet).wallets.find walletId' = s.wallets.find walletId' :=
      find_add_of_ne _ _ hid
    rw [hother] at hwallet'
    exact h walletId' wallet' hwallet'

theorem linked_addWallet (h : s.Linked) : (s.addWallet wallet).Linked := by
  intro id tx htx
  obtain ⟨owner, howner⟩ := Option.isSome_iff_exists.mp (h id tx htx)
  have hkept : (s.addWallet wallet).wallets.find tx.walletId = some owner :=
    find_add_of_find howner _
  rw [hkept]
  rfl

/-- `s'` are the tables `s` with the wallet of a user, which has been created if there was none. -/
def Holds (s s' : WalletStore) (userId walletId : ℕ) (wallet : Wallet) : Prop :=
  s'.walletOf userId = some (walletId, wallet) ∧ (s' = s ∨ s' = s.addWallet wallet ∧ wallet.balance = ⟨0⟩)

theorem holds_of_walletOf (h : s.walletOf userId = some (walletId, wallet)) :
    s.Holds s userId walletId wallet :=
  ⟨h, .inl rfl⟩

theorem holds_addWallet (h : s.walletOf userId = none) (huser : wallet.userId = userId)
    (hempty : wallet.balance = ⟨0⟩) : s.Holds (s.addWallet wallet) userId s.wallets.next wallet :=
  ⟨first_add_of_eq_none h (decide_eq_true huser), .inr ⟨rfl, hempty⟩⟩

section

variable (h : s.Holds s' userId walletId wallet)

include h

theorem Holds.balanced (hlinked : s.Linked) (hs : s.Balanced) : s'.Balanced := by
  rcases h.2 with rfl | ⟨rfl, hempty⟩
  · exact hs
  · exact balanced_addWallet hlinked hs hempty

theorem Holds.linked (hlinked : s.Linked) : s'.Linked := by
  rcases h.2 with rfl | ⟨rfl, -⟩
  · exact hlinked
  · exact linked_addWallet hlinked

/-- **When an entry of a call keeps the wallets balanced**: the new balance is the old one and the amount. -/
theorem Holds.balanced_entered_iff (hlinked : s.Linked)
    (hs : s.Balanced) (htx : tx.walletId = walletId) : (s'.entered walletId wallet' tx).Balanced ↔
      wallet'.balance.hundredths = wallet.balance.hundredths + tx.amount.hundredths ∧
        0 ≤ wallet'.balance.hundredths := by
  have hs' := h.balanced hlinked hs
  have hfind := find_of_walletOf h.1
  rw [WalletStore.balanced_entered_iff (fun walletId' _ => hs' walletId') hfind htx, (hs' walletId wallet hfind).1]

end

/-! ### Deleted transactions -/

def withoutTransaction (s : WalletStore) (id : ℕ) : WalletStore :=
  { s with transactions := s.transactions.remove id }

theorem transactionSum_withoutTransaction {id : ℕ} (h : s.transactions.find id = some tx) (walletId : ℕ) :
    (s.withoutTransaction id).transactionSum walletId =
      s.transactionSum walletId - if tx.walletId = walletId then tx.amount.hundredths else 0 :=
  total_remove _ h

/-- **When a deletion keeps the wallets balanced**: the transaction is not there, or its amount is zero. -/
theorem balanced_withoutTransaction_iff (hlinked : s.Linked) (hs : s.Balanced) (id : ℕ) :
    (s.withoutTransaction id).Balanced ↔ ∀ tx ∈ s.transactions.find id, tx.amount.hundredths = 0 := by
  cases hfind : s.transactions.find id with
  | none =>
    have hsame : s.withoutTransaction id = s := by
      unfold withoutTransaction
      rw [remove_of_eq_none hfind]
    rw [hsame]
    exact iff_of_true hs fun tx htx => by cases htx
  | some tx =>
    have hsum := transactionSum_withoutTransaction hfind
    constructor
    · intro h tx' htx'
      cases htx'
      obtain ⟨wallet, hwallet⟩ := Option.isSome_iff_exists.mp (hlinked id tx hfind)
      have hbefore := (hs tx.walletId wallet hwallet).1
      have hafter := (h tx.walletId wallet hwallet).1
      rw [hsum] at hafter
      omega
    · intro h walletId wallet hwallet
      have hzero : (if tx.walletId = walletId then tx.amount.hundredths else 0) = 0 := by
        rw [h tx rfl, ite_self]
      rw [hsum, hzero, sub_zero]
      exact hs walletId wallet hwallet

theorem Linked.withoutTransaction (h : s.Linked) (id : ℕ) : (s.withoutTransaction id).Linked := by
  intro id' tx htx
  by_cases hid : id' = id
  · subst hid
    have hnone : (s.withoutTransaction id').transactions.find id' = none := find_remove_self _ _
    rw [hnone] at htx
    cases htx
  · have hother : (s.withoutTransaction id).transactions.find id' = s.transactions.find id' :=
      find_remove_of_ne _ hid
    rw [hother] at htx
    exact h id' tx htx

end WalletStore

end SuuqBackend
