import SuuqBackend.Wallet.Laws.WalletOperations

/-!
# What a user has earned from an order

The earnings of a user from an order are the transactions of type `EARNING` that name it, in the wallets of the user.
`earnings g s orderId userId` is the sum of `g amount description` over them: their total, or the number of those with
a given amount and description.

* `Credited V currency g orderId δ s s'`: from `s` to `s'` the users `V`, whose wallets stay in one currency if one is
  given, have earned `δ` more from the order.
* `credited_creditWallet`, `credited_debitWallet`, `credited_getWallet`: what each operation is to the users `V`,
  whichever user it is called for.
-/

namespace SuuqBackend

open Proc Wallets

namespace WalletStore

def ownerOf (s : WalletStore) (walletId : ℕ) : Option ℕ := (s.wallets.find walletId).map Wallet.userId

def IsEarning (s : WalletStore) (orderId userId : ℕ) (tx : WalletTransaction) : Prop :=
  tx.type = .earning ∧ tx.orderId = some orderId ∧ s.ownerOf tx.walletId = some userId
deriving Decidable

/-- The sum of `g` over the credits of an order in the wallets of a user. -/
def earnings (g : Numeric2 → Option String → ℤ) (s : WalletStore) (orderId userId : ℕ) : ℤ :=
  s.transactions.total fun tx => if s.IsEarning orderId userId tx then g tx.amount tx.description else 0

/-- The user is there, and if a currency is given, the wallet of the user is in it, or will be when it is created, and
stays in it. -/
def EarnsIn (currency : Option String) (s : WalletStore) (userId : ℕ) : Prop :=
  ∃ user ∈ s.users.lookup userId, ∀ given ∈ currency, (∀ own ∈ user.currency, own = "" ∨ own = given) ∧
    ((s.walletOf userId).elim (currencyFor user) fun found => found.2.currency) = given
deriving Decidable

/-- The users `V` have their wallets in one currency, if one is given. -/
structure ReadyFor (V : ℕ → Prop) (currency : Option String) (s : WalletStore) : Prop where
  linked : s.Linked
  earnsIn : ∀ userId, V userId → s.EarnsIn currency userId

/-- The users `V` have earned `δ` more from an order. -/
structure Credited (V : ℕ → Prop) (currency : Option String) (g : Numeric2 → Option String → ℤ) (orderId : ℕ) (δ : ℕ → ℤ)
    (s s' : WalletStore) : Prop where
  ready : s'.ReadyFor V currency
  users_eq : s'.users = s.users
  earnings_eq : ∀ userId, V userId → s'.earnings g orderId userId = s.earnings g orderId userId + δ userId

variable {s s' s'' : WalletStore} {V : ℕ → Prop} {currency : Option String} {g : Numeric2 → Option String → ℤ}
  {orderId userId walletId : ℕ} {wallet row : Wallet} {tx : WalletTransaction} {δ δ' : ℕ → ℤ}

theorem Credited.refl (h : s.ReadyFor V currency) : Credited V currency g orderId (fun _ => 0) s s :=
  ⟨h, rfl, fun _ _ => (add_zero _).symm⟩

theorem Credited.trans (h : Credited V currency g orderId δ s s') (h' : Credited V currency g orderId δ' s' s'') :
    Credited V currency g orderId (fun userId => δ userId + δ' userId) s s'' where
  ready := h'.ready
  users_eq := h'.users_eq.trans h.users_eq
  earnings_eq userId hV := by rw [h'.earnings_eq userId hV, h.earnings_eq userId hV, add_assoc]

theorem Credited.congr (h : Credited V currency g orderId δ s s') (hδ : ∀ userId, V userId → δ userId = δ' userId) :
    Credited V currency g orderId δ' s s' :=
  ⟨h.ready, h.users_eq, fun userId hV => (h.earnings_eq userId hV).trans (congrArg _ (hδ userId hV))⟩

theorem Credited.zero_trans (h : Credited V currency g orderId (fun _ => 0) s s')
    (h' : Credited V currency g orderId δ s' s'') : Credited V currency g orderId δ s s'' :=
  (h.trans h').congr fun _ _ => zero_add _

theorem Credited.trans_zero (h : Credited V currency g orderId δ s s')
    (h' : Credited V currency g orderId (fun _ => 0) s' s'') : Credited V currency g orderId δ s s'' :=
  (h.trans h').congr fun _ _ => add_zero _

theorem EarnsIn.canCredit (h : s.EarnsIn currency userId) : s.CanCredit userId := by
  obtain ⟨user, huser, -⟩ := h
  have hlookup : s.users.lookup userId = some user := huser
  exact .inr (by rw [hlookup, Option.isSome_some])

/-! ### The sum of the credits -/

theorem earnings_congr (htransactions : s'.transactions = s.transactions)
    (howner : ∀ id tx, s.transactions.find id = some tx → s'.ownerOf tx.walletId = s.ownerOf tx.walletId) :
    s'.earnings g orderId userId = s.earnings g orderId userId := by
  unfold earnings
  rw [htransactions]
  refine SerialTable.total_congr fun id tx htx => if_congr ?_ rfl rfl
  unfold IsEarning
  rw [howner id tx htx]

theorem ownerOf_setWallet (h : s.wallets.find walletId = some row) (huser : wallet.userId = row.userId) (id : ℕ) :
    (s.setWallet walletId wallet).ownerOf id = s.ownerOf id := by
  unfold ownerOf setWallet
  by_cases hid : id = walletId
  · rw [hid, SerialTable.find_set_self h, h, Option.map_some, Option.map_some, huser]
  · rw [SerialTable.find_set_of_ne _ _ hid]

theorem earnings_setWallet (h : s.wallets.find walletId = some row) (huser : wallet.userId = row.userId) :
    (s.setWallet walletId wallet).earnings g orderId userId = s.earnings g orderId userId :=
  earnings_congr rfl fun _ tx _ => ownerOf_setWallet h huser tx.walletId

theorem earnings_addWallet (hlinked : s.Linked) :
    (s.addWallet wallet).earnings g orderId userId = s.earnings g orderId userId := by
  refine earnings_congr rfl fun id tx htx => ?_
  obtain ⟨owner, howner⟩ := Option.isSome_iff_exists.mp (hlinked id tx htx)
  have hkept : (s.addWallet wallet).wallets.find tx.walletId = some owner := SerialTable.find_add_of_find howner _
  unfold ownerOf
  rw [hkept, howner]

theorem earnings_addTransaction (s : WalletStore) (tx : WalletTransaction) :
    (s.addTransaction tx).earnings g orderId userId = s.earnings g orderId userId +
      if s.IsEarning orderId userId tx then g tx.amount tx.description else 0 := by
  have htotal := SerialTable.total_add
    (fun tx => if s.IsEarning orderId userId tx then g tx.amount tx.description else 0) s.transactions tx
  rw [add_comm]
  exact htotal

theorem earnings_setTransaction {id : ℕ} {tx' : WalletTransaction} (h : s.transactions.find id = some tx)
    (hwallet : tx'.walletId = tx.walletId) (hother : s.ownerOf tx.walletId ≠ some userId) :
    ({ s with transactions := s.transactions.set id tx' } : WalletStore).earnings g orderId userId =
      s.earnings g orderId userId := by
  have hold : ¬ s.IsEarning orderId userId tx := fun hearning => hother hearning.2.2
  have hnew : ¬ s.IsEarning orderId userId tx' := fun hearning => hother (hwallet ▸ hearning.2.2)
  have htotal := SerialTable.total_set
    (fun tx => if s.IsEarning orderId userId tx then g tx.amount tx.description else 0) h tx'
  rw [if_neg hold, if_neg hnew, sub_zero, add_zero] at htotal
  exact htotal

/-! ### The wallets of the others -/

theorem walletOf_setWallet_of_ne (h : s.wallets.find walletId = some row) (huser : wallet.userId = row.userId)
    (hne : userId ≠ row.userId) : (s.setWallet walletId wallet).walletOf userId = s.walletOf userId := by
  have hother : ¬ wallet.userId = userId := huser ▸ hne.symm
  exact SerialTable.first_congr (SerialTable.filter_find_set h (decide_eq_false hne.symm) (decide_eq_false hother))

theorem walletOf_addWallet_of_ne (hne : userId ≠ wallet.userId) :
    (s.addWallet wallet).walletOf userId = s.walletOf userId :=
  SerialTable.first_congr (SerialTable.filter_find_add (decide_eq_false hne.symm))

theorem owner_of_walletOf (h : s.walletOf userId = some (walletId, row)) : row.userId = userId :=
  of_decide_eq_true (SerialTable.find_of_first h).2

theorem EarnsIn.of_walletOf_eq (h : s.EarnsIn currency userId) (husers : s'.users = s.users)
    (hwallet : s'.walletOf userId = s.walletOf userId) : s'.EarnsIn currency userId := by
  unfold EarnsIn
  rw [husers, hwallet]
  exact h

/-! ### Writes -/

variable (g orderId)

section

variable (hs : s.ReadyFor V currency)

include hs

theorem credited_setWallet (h : s.walletOf userId = some (walletId, row))
    (huser : wallet.userId = row.userId) (hcurrency : V userId → wallet.currency = row.currency) :
    Credited V currency g orderId (fun _ => 0) s (s.setWallet walletId wallet) := by
  have hfind := find_of_walletOf h
  have howner := owner_of_walletOf h
  refine ⟨⟨hs.linked.setWallet walletId wallet, fun userId' hV => ?_⟩, rfl, fun userId' _ => ?_⟩
  · have hearns := hs.earnsIn userId' hV
    by_cases heq : userId' = userId
    · subst heq
      obtain ⟨user, hlookup, hgiven⟩ := hearns
      have hwallet : (s.setWallet walletId wallet).walletOf userId' = some (walletId, wallet) :=
        SerialTable.first_set h (decide_eq_true (huser.trans howner))
      refine ⟨user, hlookup, fun given hmem => ?_⟩
      obtain ⟨hown, hin⟩ := hgiven given hmem
      refine ⟨hown, ?_⟩
      rw [h] at hin
      rw [hwallet, Option.elim_some, hcurrency hV]
      exact hin
    · exact hearns.of_walletOf_eq rfl (walletOf_setWallet_of_ne hfind huser (howner.symm ▸ heq))
  · rw [add_zero]
    exact earnings_setWallet hfind huser

theorem credited_addWallet {user : User} (h : s.walletOf userId = none)
    (hlookup : s.users.lookup userId = some user) :
    Credited V currency g orderId (fun _ => 0) s (s.addWallet (newWallet userId (currencyFor user))) := by
  refine ⟨⟨linked_addWallet hs.linked, fun userId' hV => ?_⟩, rfl, fun userId' _ => ?_⟩
  · have hearns := hs.earnsIn userId' hV
    by_cases heq : userId' = userId
    · subst heq
      obtain ⟨user', hlookup', hgiven⟩ := hearns
      have hwallet : (s.addWallet (newWallet userId' (currencyFor user))).walletOf userId' =
          some (s.wallets.next, newWallet userId' (currencyFor user)) :=
        SerialTable.first_add_of_eq_none h (decide_eq_true rfl)
      have hsame : user' = user := Option.some_inj.mp (hlookup'.symm.trans hlookup)
      subst hsame
      refine ⟨user', hlookup', fun given hmem => ?_⟩
      obtain ⟨hown, hin⟩ := hgiven given hmem
      refine ⟨hown, ?_⟩
      rw [h] at hin
      rw [hwallet]
      exact hin
    · exact hearns.of_walletOf_eq rfl (walletOf_addWallet_of_ne heq)
  · rw [add_zero]
    exact earnings_addWallet hs.linked

theorem credited_addTransaction (h : s.walletOf userId = some (walletId, row)) (htx : tx.walletId = walletId) :
    Credited V currency g orderId (fun userId' => if userId' = userId ∧ tx.type = .earning ∧ tx.orderId = some orderId
      then g tx.amount tx.description else 0) s (s.addTransaction tx) := by
  have hfind := find_of_walletOf h
  have howner : s.ownerOf tx.walletId = some userId := by
    unfold ownerOf
    rw [htx, hfind, Option.map_some, owner_of_walletOf h]
  refine ⟨⟨hs.linked.addTransaction hfind htx, fun userId' hV => (hs.earnsIn userId' hV).of_walletOf_eq rfl rfl⟩, rfl,
    fun userId' _ => ?_⟩
  rw [earnings_addTransaction]
  refine congrArg _ (if_congr ?_ rfl rfl)
  unfold IsEarning
  rw [howner, Option.some_inj]
  constructor
  · rintro ⟨htype, horder, heq⟩
    exact ⟨heq.symm, htype, horder⟩
  · rintro ⟨heq, htype, horder⟩
    exact ⟨htype, horder, heq.symm⟩

theorem credited_entered (h : s.walletOf userId = some (walletId, row)) (htx : tx.walletId = walletId) (balance : ℚ) :
    Credited V currency g orderId (fun userId' => if userId' = userId ∧ tx.type = .earning ∧ tx.orderId = some orderId
      then g tx.amount tx.description else 0) s (s.entered walletId (withBalance row balance) tx) := by
  have hadded := credited_addTransaction g orderId hs h htx
  have hkept : (s.addTransaction tx).walletOf userId = some (walletId, row) := h
  exact hadded.trans_zero (credited_setWallet g orderId hadded.ready hkept rfl fun _ => rfl)

end

end WalletStore

open WalletStore

/-! ### Operations -/

section Operations

variable {s : WalletStore} {V : ℕ → Prop} {currency : Option String} (g : Numeric2 → Option String → ℤ) (orderId : ℕ)
  (hs : s.ReadyFor V currency) (userId : ℕ)
include hs

theorem credited_walletToCredit (hcan : s.CanCredit userId) : ∃ walletId wallet s',
    run (walletToCredit userId) s = (.ok (walletId, wallet), s') ∧ s'.walletOf userId = some (walletId, wallet) ∧
      Credited V currency g orderId (fun _ => 0) s s' := by
  unfold walletToCredit findWallet
  rw [run_read_bind]
  cases hwallet : s.walletOf userId with
  | some found => exact ⟨found.1, found.2, s, rfl, hwallet, Credited.refl hs⟩
  | none =>
    cases huser : s.users.lookup userId with
    | none =>
      rcases hcan with hcan | hcan
      · rw [hwallet] at hcan
        cases hcan
      · rw [huser] at hcan
        cases hcan
    | some user =>
      have hinsert : run (insertWallet (newWallet userId (currencyFor user))) s =
          (.ok s.wallets.next, s.addWallet (newWallet userId (currencyFor user))) := run_insertWallet hwallet
      have hnew : (s.addWallet (newWallet userId (currencyFor user))).walletOf userId =
          some (s.wallets.next, newWallet userId (currencyFor user)) :=
        SerialTable.first_add_of_eq_none hwallet (decide_eq_true rfl)
      refine ⟨s.wallets.next, newWallet userId (currencyFor user), _, ?_, hnew,
        credited_addWallet g orderId hs hwallet huser⟩
      simp only [run_read_bind, huser]
      rw [run_bind_of_ok hinsert]
      rfl

theorem credited_creditWallet_of_can (hcan : s.CanCredit userId) (amount : ℚ) (description : Option String) :
    ∃ tx s', run (creditWallet userId amount .earning description (some orderId) false) s = (.ok tx, s') ∧
      Credited V currency g orderId (fun userId' => if userId' = userId then g (.ofRat |amount|) description else 0)
        s s' := by
  obtain ⟨walletId, wallet, s₁, hrun, hwallet, hcreated⟩ := credited_walletToCredit g orderId hs userId hcan
  refine ⟨_, _, run_transaction_of_ok (run_runCredit amount .earning description (some orderId) hrun), ?_⟩
  have hown : (creditTransaction walletId amount .earning description (some orderId)).walletId = walletId := rfl
  have hentered := credited_entered g orderId hcreated.ready hwallet hown (wallet.balance.value + amount)
  refine (hcreated.zero_trans hentered).congr fun userId' _ => if_congr ?_ rfl rfl
  exact ⟨fun h => h.1, fun h => ⟨h, rfl, rfl⟩⟩

variable (amount : ℚ) (description : Option String)

theorem credited_creditWallet :
    Credited V currency g orderId (fun userId' => if userId' = userId then g (.ofRat |amount|) description else 0) s
      (run (creditWallet userId amount .earning description (some orderId) false) s).2 := by
  by_cases hcan : s.CanCredit userId
  · obtain ⟨tx, s', hrun, hcredited⟩ := credited_creditWallet_of_can g orderId hs userId hcan amount description
    rw [hrun]
    exact hcredited
  · rw [snd_creditWallet_of_not amount .earning description (some orderId) hcan]
    refine (Credited.refl hs).congr fun userId' hV => (if_neg ?_).symm
    rintro rfl
    exact hcan (hs.earnsIn userId' hV).canCredit

theorem credited_debitWallet (orderId' : Option ℕ) :
    Credited V currency g orderId (fun _ => 0) s
      (run (debitWallet userId amount .payout description orderId' false) s).2 := by
  cases hwallet : s.walletOf userId with
  | none =>
    rw [run_debitWallet_of_eq_none amount .payout description orderId' hwallet]
    exact Credited.refl hs
  | some found =>
    obtain ⟨walletId, wallet⟩ := found
    by_cases hcovers : amount ≤ wallet.balance.value
    · rw [run_debitWallet amount .payout description orderId' hwallet hcovers]
      refine (credited_entered g orderId hs hwallet rfl _).congr fun userId' _ => if_neg ?_
      rintro ⟨-, htype, -⟩
      cases htype
    · rw [run_debitWallet_of_lt amount .payout description orderId' hwallet (not_le.mp hcovers)]
      exact Credited.refl hs

variable {walletId : ℕ} {wallet : Wallet}

theorem credited_recalculateBalance (h : s.walletOf userId = some (walletId, wallet)) :
    Credited V currency g orderId (fun _ => 0) s (run (recalculateBalance walletId) s).2 := by
  rw [snd_recalculateBalance]
  unfold updateBalance
  rw [find_of_walletOf h]
  exact credited_setWallet g orderId hs h rfl fun _ => rfl

theorem credited_createWallet {user : User} (h : s.walletOf userId = none) (huser : s.users.lookup userId = some user) :
    ∃ s', run (createWallet userId user) s = (.ok (newWallet userId (currencyFor user)), s') ∧
      Credited V currency g orderId (fun _ => 0) s s' := by
  refine ⟨_, ?_, credited_addWallet g orderId hs h huser⟩
  have hinsert : run (insertWallet (newWallet userId (currencyFor user))) s =
      (.ok s.wallets.next, s.addWallet (newWallet userId (currencyFor user))) := run_insertWallet h
  unfold createWallet
  rw [run_bind_of_ok (run_attempt _ _), hinsert]
  rfl

variable (env : WalletRuntime)

theorem credited_getWallet_of_earnsIn {given : String} (hearns : s.EarnsIn (some given) userId) :
    ∃ wallet s', run (getWallet env userId) s = (.ok wallet, s') ∧ wallet.currency = given ∧
      Credited V currency g orderId (fun _ => 0) s s' := by
  obtain ⟨user, huser, hgiven⟩ := hearns
  obtain ⟨hown, hin⟩ := hgiven given rfl
  have huser : s.users.lookup userId = some user := huser
  unfold getWallet findWallet
  rw [run_read_bind, run_read_bind, huser]
  cases hwallet : s.walletOf userId with
  | none =>
    rw [hwallet] at hin
    obtain ⟨s', hrun, hcredited⟩ := credited_createWallet g orderId hs userId hwallet huser
    exact ⟨_, s', hrun, hin, hcredited⟩
  | some found =>
    obtain ⟨walletId, wallet⟩ := found
    rw [hwallet] at hin
    have hin : wallet.currency = given := hin
    have hsync : currencyToSync user wallet = none := by
      refine Option.filter_eq_none_iff.mpr fun own hmem hother => ?_
      have hother : own ≠ "" ∧ wallet.currency ≠ own := of_decide_eq_true hother
      rcases hown own hmem with hempty | hsame
      · exact hother.1 hempty
      · exact hother.2 (hin.trans hsame.symm)
    have hfind := find_of_walletOf hwallet
    have hrecalculate : run (recalculateBalance walletId) s =
        (.ok (), s.setWallet walletId (withBalance wallet (recalculated s walletId))) := by
      unfold recalculateBalance
      rw [run_read_bind, hfind]
      rw [run_read_bind, run_write]
      unfold updateBalance
      rw [hfind]
    have hcredited := credited_recalculateBalance g orderId hs userId hwallet
    rw [hrecalculate] at hcredited
    refine ⟨withBalance wallet (recalculated s walletId), _, ?_, hin, hcredited⟩
    dsimp only
    unfold syncWallet
    rw [hsync]
    rw [run_bind_of_ok hrecalculate, run_read]
    have hread : (s.setWallet walletId (withBalance wallet (recalculated s walletId))).wallets.find walletId =
        some (withBalance wallet (recalculated s walletId)) := SerialTable.find_set_self hfind _
    rw [hread, Option.getD_some]

theorem credited_convertTransactions (hnot : ¬ V userId)
    (h : s.walletOf userId = some (walletId, wallet)) (oldCurrency targetCurrency : String)
    {rows : List (ℕ × WalletTransaction)} (hrows : ∀ row ∈ rows, row.2.walletId = walletId ∧
      (s.transactions.find row.1).map WalletTransaction.walletId = some walletId) :
    (run (forEach rows (convertTransaction env oldCurrency targetCurrency)) s).2.wallets = s.wallets ∧
      Credited V currency g orderId (fun _ => 0) s
        (run (forEach rows (convertTransaction env oldCurrency targetCurrency)) s).2 := by
  induction rows generalizing s with
  | nil => exact ⟨rfl, Credited.refl hs⟩
  | cons row rows ih =>
    obtain ⟨hid, hstored⟩ := hrows row List.mem_cons_self
    obtain ⟨tx, hfind, htx⟩ := Option.map_eq_some_iff.mp hstored
    rw [forEach_cons]
    cases hconvert : CurrencyService.convert env.toUpperCase env.rates row.2.amount.value oldCurrency
        targetCurrency with
    | error message =>
      have hbody : run (convertTransaction env oldCurrency targetCurrency row) s =
          (.error (HttpException.internal message), s) := by
        unfold convertTransaction
        rw [hconvert]
        rfl
      rw [run_bind_of_error hbody]
      exact ⟨rfl, Credited.refl hs⟩
    | ok newAmount =>
      have hbody : run (convertTransaction env oldCurrency targetCurrency row) s =
          (.ok (), { s with transactions := s.transactions.set row.1 { row.2 with amount := .ofRat newAmount } }) := by
        unfold convertTransaction
        rw [hconvert]
        rfl
      have howner : s.ownerOf tx.walletId = some userId := by
        unfold ownerOf
        rw [htx, find_of_walletOf h, Option.map_some, owner_of_walletOf h]
      have hconverted : Credited V currency g orderId (fun _ => 0) s
          { s with transactions := s.transactions.set row.1 { row.2 with amount := .ofRat newAmount } } := by
        refine ⟨⟨?_, fun userId' hV => (hs.earnsIn userId' hV).of_walletOf_eq rfl rfl⟩, rfl, fun userId' hV => ?_⟩
        · have hown : (s.wallets.find row.2.walletId).isSome := by
            rw [hid, find_of_walletOf h, Option.isSome_some]
          have hlinked := hs.linked
          exact SerialTable.forall_find_set (Q := fun tx : WalletTransaction => (s.wallets.find tx.walletId).isSome)
            hlinked row.1 hown
        · rw [add_zero]
          refine earnings_setTransaction hfind (hid.trans htx.symm) fun hsame => hnot ?_
          rw [howner] at hsame
          exact Option.some_inj.mp hsame ▸ hV
      rw [run_bind_of_ok hbody]
      obtain ⟨hwallets, hrest⟩ := ih hconverted.ready h fun row' hrow' => by
        obtain ⟨hid', hstored'⟩ := hrows row' (List.mem_cons_of_mem row hrow')
        refine ⟨hid', ?_⟩
        by_cases hsame : row'.1 = row.1
        · rw [hsame]
          exact (congrArg _ (SerialTable.find_set_self hfind _)).trans (congrArg some hid)
        · rw [SerialTable.find_set_of_ne _ _ hsame]
          exact hstored'
      exact ⟨hwallets, hconverted.zero_trans hrest⟩

theorem credited_migrateWalletCurrency (hnot : ¬ V userId)
    (h : s.walletOf userId = some (walletId, wallet)) (targetCurrency : String) :
    Credited V currency g orderId (fun _ => 0) s
      (run (migrateWalletCurrency env walletId wallet targetCurrency) s).2 := by
  unfold migrateWalletCurrency
  by_cases hsame : wallet.currency = targetCurrency
  · rw [if_pos hsame]
    exact Credited.refl hs
  rw [if_neg hsame]
  rw [run_read_bind]
  have hrows : ∀ row ∈ transactionsOf s walletId, row.2.walletId = walletId ∧
      (s.transactions.find row.1).map WalletTransaction.walletId = some walletId := by
    rintro ⟨id, tx⟩ hrow
    obtain ⟨id', -, hfound⟩ := List.mem_filterMap.mp hrow
    obtain ⟨tx', hfilter, heq⟩ := Option.map_eq_some_iff.mp hfound
    cases heq
    obtain ⟨hfind, hwallet⟩ := Option.filter_eq_some_iff.mp hfilter
    have hwallet : tx.walletId = walletId := of_decide_eq_true hwallet
    exact ⟨hwallet, by rw [hfind, Option.map_some, hwallet]⟩
  generalize hold : (if wallet.currency = "" then "KES" else wallet.currency) = oldCurrency
  obtain ⟨hwallets, hconverted⟩ :=
    credited_convertTransactions g orderId hs userId env hnot h oldCurrency targetCurrency hrows
  rcases hloop : run (forEach (transactionsOf s walletId) (convertTransaction env oldCurrency targetCurrency)) s with
    ⟨e | u, s₁⟩
  · rw [hloop] at hconverted
    rw [run_bind_of_error hloop]
    exact hconverted
  · rw [hloop] at hwallets hconverted
    rw [run_bind_of_ok hloop]
    have hwallet₁ : s₁.walletOf userId = some (walletId, wallet) := by
      unfold WalletStore.walletOf
      rw [show s₁.wallets = s.wallets from hwallets]
      exact h
    have hmoved : Credited V currency g orderId (fun _ => 0) s₁
        (s₁.setWallet walletId { wallet with currency := targetCurrency }) :=
      credited_setWallet g orderId hconverted.ready hwallet₁ rfl fun hV => absurd hV hnot
    have howner : wallet.userId = userId := owner_of_walletOf h
    have hwallet₂ : (s₁.setWallet walletId { wallet with currency := targetCurrency }).walletOf userId =
        some (walletId, { wallet with currency := targetCurrency }) :=
      SerialTable.first_set hwallet₁ (decide_eq_true howner)
    have hrecalculated := credited_recalculateBalance g orderId hmoved.ready userId hwallet₂
    exact hconverted.zero_trans (hmoved.zero_trans hrecalculated)

omit hs in
/-- **The wallet of a user**, whichever it is: to the users of `V` it is as if nothing had been done. -/
theorem credited_getWallet {given : String} (hs : s.ReadyFor V (some given)) :
    Credited V (some given) g orderId (fun _ => 0) s (run (getWallet env userId) s).2 := by
  by_cases hV : V userId
  · obtain ⟨wallet, s', hrun, -, hcredited⟩ :=
      credited_getWallet_of_earnsIn g orderId hs userId env (hs.earnsIn userId hV)
    rw [hrun]
    exact hcredited
  unfold getWallet findWallet
  rw [run_read_bind, run_read_bind]
  cases huser : s.users.lookup userId with
  | none => exact Credited.refl hs
  | some user =>
    cases hwallet : s.walletOf userId with
    | none =>
      obtain ⟨s', hrun, hcredited⟩ := credited_createWallet g orderId hs userId hwallet huser
      rw [hrun]
      exact hcredited
    | some found =>
      obtain ⟨walletId, wallet⟩ := found
      rw [snd_run_bind_readOnly _ fun _ => readOnly_read _]
      unfold syncWallet
      cases currencyToSync user wallet with
      | none => exact credited_recalculateBalance g orderId hs userId hwallet
      | some target => exact credited_migrateWalletCurrency g orderId hs userId env hV hwallet target

end Operations

/-!
## What a user's transactions add up to

`tally f s userId` is the sum of `f` over the transactions in the wallets of a user.

* `AddsOnly Q s s'`: from `s` to `s'` no other transactions are written than such as `Q` says.
* `tally_creditWallet`: what a credit adds to the tallies.
* `addsOnly_creditWallet`, `addsOnly_debitWallet`: what these write.
-/

namespace WalletStore

/-- The sum of `f` over the transactions in the wallets of a user. -/
def tally (f : WalletTransaction → ℤ) (s : WalletStore) (userId : ℕ) : ℤ :=
  s.transactions.total fun tx => if s.ownerOf tx.walletId = some userId then f tx else 0

/-- No transactions are written but such as `Q` says: what does not count these stays as it is. -/
structure AddsOnly (Q : WalletTransaction → Prop) (s s' : WalletStore) : Prop where
  linked : s'.Linked
  users_eq : s'.users = s.users
  tally_eq : ∀ f, (∀ tx, Q tx → f tx = 0) → ∀ userId, s'.tally f userId = s.tally f userId

variable {s s' s'' : WalletStore} {Q Q' : WalletTransaction → Prop} {f : WalletTransaction → ℤ} {userId walletId : ℕ}
  {wallet row : Wallet} {tx : WalletTransaction}

theorem AddsOnly.refl (h : s.Linked) : AddsOnly Q s s := ⟨h, rfl, fun _ _ _ => rfl⟩

theorem AddsOnly.trans (h : AddsOnly Q s s') (h' : AddsOnly Q s' s'') : AddsOnly Q s s'' where
  linked := h'.linked
  users_eq := h'.users_eq.trans h.users_eq
  tally_eq f hf userId := (h'.tally_eq f hf userId).trans (h.tally_eq f hf userId)

theorem AddsOnly.mono (h : AddsOnly Q s s') (hQ : ∀ tx, Q tx → Q' tx) : AddsOnly Q' s s' :=
  ⟨h.linked, h.users_eq, fun f hf => h.tally_eq f fun tx htx => hf tx (hQ tx htx)⟩

/-! ### Writes -/

theorem tally_congr (htransactions : s'.transactions = s.transactions)
    (howner : ∀ id tx, s.transactions.find id = some tx → s'.ownerOf tx.walletId = s.ownerOf tx.walletId) :
    s'.tally f userId = s.tally f userId := by
  unfold tally
  rw [htransactions]
  refine SerialTable.total_congr fun id tx htx => ?_
  rw [howner id tx htx]

theorem tally_setWallet (h : s.wallets.find walletId = some row) (huser : wallet.userId = row.userId) :
    (s.setWallet walletId wallet).tally f userId = s.tally f userId :=
  tally_congr rfl fun _ tx _ => ownerOf_setWallet h huser tx.walletId

theorem tally_addWallet (hlinked : s.Linked) : (s.addWallet wallet).tally f userId = s.tally f userId := by
  refine tally_congr rfl fun id tx htx => ?_
  obtain ⟨owner, howner⟩ := Option.isSome_iff_exists.mp (hlinked id tx htx)
  have hkept : (s.addWallet wallet).wallets.find tx.walletId = some owner := SerialTable.find_add_of_find howner _
  unfold ownerOf
  rw [hkept, howner]

theorem tally_addTransaction (f : WalletTransaction → ℤ) (s : WalletStore) (tx : WalletTransaction) (userId : ℕ) :
    (s.addTransaction tx).tally f userId =
      s.tally f userId + if s.ownerOf tx.walletId = some userId then f tx else 0 := by
  have htotal := SerialTable.total_add
    (fun tx => if s.ownerOf tx.walletId = some userId then f tx else 0) s.transactions tx
  rw [add_comm]
  exact htotal

theorem tally_entered (h : s.walletOf userId = some (walletId, row)) (htx : tx.walletId = walletId)
    (huser : wallet.userId = row.userId) (userId' : ℕ) :
    (s.entered walletId wallet tx).tally f userId' = s.tally f userId' + if userId' = userId then f tx else 0 := by
  have hfind := find_of_walletOf h
  have howner : s.ownerOf tx.walletId = some userId := by
    unfold ownerOf
    rw [htx, hfind, Option.map_some, owner_of_walletOf h]
  have hkept : (s.addTransaction tx).wallets.find walletId = some row := hfind
  unfold entered
  rw [tally_setWallet hkept huser, tally_addTransaction, howner]
  refine congrArg _ (if_congr ?_ rfl rfl)
  rw [Option.some_inj, eq_comm]

theorem linked_entered (hlinked : s.Linked) (h : s.walletOf userId = some (walletId, row)) (htx : tx.walletId = walletId) :
    (s.entered walletId wallet tx).Linked := by
  have hfind := find_of_walletOf h
  exact (hlinked.addTransaction hfind htx).setWallet walletId wallet

theorem Holds.tally (h : s.Holds s' userId walletId wallet) (hlinked : s.Linked) (f : WalletTransaction → ℤ)
    (userId' : ℕ) : s'.tally f userId' = s.tally f userId' := by
  rcases h.2 with rfl | ⟨rfl, -⟩
  · rfl
  · exact tally_addWallet hlinked

theorem Holds.users_eq (h : s.Holds s' userId walletId wallet) : s'.users = s.users := by
  rcases h.2 with rfl | ⟨rfl, -⟩ <;> rfl

end WalletStore

/-! ### Operations -/

section Operations

variable {s : WalletStore} {userId : ℕ} (amount : ℚ) (type : TransactionType) (description : Option String)
  (orderId : Option ℕ)

theorem tally_creditWallet (hlinked : s.Linked) (hcan : s.CanCredit userId) :
    ∃ tx, run (creditWallet userId amount type description orderId false) s =
        (.ok tx, (run (creditWallet userId amount type description orderId false) s).2) ∧
      (tx.amount = .ofRat |amount| ∧ tx.type = type ∧ tx.orderId = orderId) ∧
      (run (creditWallet userId amount type description orderId false) s).2.Linked ∧
      (run (creditWallet userId amount type description orderId false) s).2.users = s.users ∧
      ∀ f userId', (run (creditWallet userId amount type description orderId false) s).2.tally f userId' =
        s.tally f userId' + if userId' = userId then f tx else 0 := by
  obtain ⟨walletId, wallet, s', hholds, hrun⟩ := run_walletToCredit hcan
  have hdone : run (creditWallet userId amount type description orderId false) s = _ :=
    run_transaction_of_ok (run_runCredit amount type description orderId hrun)
  refine ⟨creditTransaction walletId amount type description orderId, ?_, ⟨rfl, rfl, rfl⟩, ?_, ?_, fun f userId' => ?_⟩
  · rw [hdone]
  · rw [hdone]
    exact linked_entered (hholds.linked hlinked) hholds.1 rfl
  · rw [hdone]
    exact hholds.users_eq
  · rw [hdone]
    have hown : (creditTransaction walletId amount type description orderId).walletId = walletId := rfl
    have huser : (withBalance wallet (wallet.balance.value + amount)).userId = wallet.userId := rfl
    refine (tally_entered hholds.1 hown huser userId').trans ?_
    rw [hholds.tally hlinked]

theorem addsOnly_creditWallet (hlinked : s.Linked) (userId : ℕ) :
    AddsOnly (fun tx => tx.type = type ∧ tx.orderId = orderId) s
      (run (creditWallet userId amount type description orderId false) s).2 := by
  by_cases hcan : s.CanCredit userId
  · obtain ⟨tx, -, ⟨-, htype, horder⟩, hlinked', husers, htally⟩ :=
      tally_creditWallet amount type description orderId hlinked hcan
    refine ⟨hlinked', husers, fun f hf userId' => ?_⟩
    rw [htally, hf tx ⟨htype, horder⟩, ite_self, add_zero]
  · rw [snd_creditWallet_of_not amount type description orderId hcan]
    exact AddsOnly.refl hlinked

theorem addsOnly_debitWallet (hlinked : s.Linked) (userId : ℕ) :
    AddsOnly (fun tx => tx.type = type ∧ tx.orderId = orderId) s
      (run (debitWallet userId amount type description orderId false) s).2 := by
  cases hwallet : s.walletOf userId with
  | none =>
    rw [run_debitWallet_of_eq_none amount type description orderId hwallet]
    exact AddsOnly.refl hlinked
  | some found =>
    obtain ⟨walletId, wallet⟩ := found
    by_cases hcovers : amount ≤ wallet.balance.value
    · rw [run_debitWallet amount type description orderId hwallet hcovers]
      refine ⟨linked_entered hlinked hwallet rfl, rfl, fun f hf userId' => ?_⟩
      have hcounts : f (debitTransaction walletId amount type description orderId) = 0 := hf _ ⟨rfl, rfl⟩
      have hown : (debitTransaction walletId amount type description orderId).walletId = walletId := rfl
      have huser : (withBalance wallet (wallet.balance.value - amount)).userId = wallet.userId := rfl
      refine (tally_entered hwallet hown huser userId').trans ?_
      rw [hcounts, ite_self, add_zero]
    · rw [run_debitWallet_of_lt amount type description orderId hwallet (not_le.mp hcovers)]
      exact AddsOnly.refl hlinked

end Operations

end SuuqBackend
