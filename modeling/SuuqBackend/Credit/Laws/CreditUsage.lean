import SuuqBackend.Credit.Credits
import SuuqBackend.Lib.Interleave
import SuuqBackend.Wallet.Laws.Amounts

/-!
# What has been used of a limit

The usage of a limit is the sum of what the transactions since its creation used, less what they repaid.  One after
another the calls keep it so, except for a repayment that ends in half a cent: the limit rounds what is left, the
transaction rounds what was repaid (`debit_agrees_iff`).

A use and a repayment save the limit as they have read it, so that of two calls that read the same usage one is
forgotten.  `credit_accounted` is for the schedules in which no limit has changed since it was read: between its two
writes a call owes its transaction (`pending`), and nothing else is missing.
-/

namespace SuuqBackend

open Proc Credits

structure PositiveAmount where
  value : ℚ
  pos : 0 < value

/-- What a transaction adds to the usage, in hundredths. -/
def CreditTransaction.used (tx : CreditTransaction) : ℤ :=
  match tx.type with
  | .usage => tx.amount.hundredths
  | .repayment => -tx.amount.hundredths
  | .adjustment => 0

namespace CreditStore

def usedSince (s : CreditStore) (userId first : ℕ) : ℤ :=
  s.transactions.rows.total fun id tx => if tx.userId = userId ∧ first ≤ id then tx.used else 0

/-- The usage of a limit is that of the transactions since its creation, but for what is `owed`. -/
structure LimitAccounted (s : CreditStore) (userId : ℕ) (owed : ℤ) (limit : CreditLimit) : Prop where
  createdAt : limit.createdAt ≤ s.transactions.next
  usage : limit.currentUsage.hundredths = s.usedSince userId limit.createdAt + owed
  nonneg : 0 ≤ limit.currentUsage.hundredths

/-- Every usage is that of the transactions since its limit was created. -/
def Accounted (s : CreditStore) : Prop :=
  ∀ userId limit, s.limits.lookup userId = some limit → s.LimitAccounted userId 0 limit

end CreditStore

/-- The limits of a user in two states: the usage only grows within the limit. -/
def KeepsWithin (s s' : CreditStore) (userId : ℕ) : Prop :=
  ∀ limit limit', s.limits.lookup userId = some limit → s'.limits.lookup userId = some limit' →
    limit'.currentUsage.hundredths ≤ max limit'.maxLimit.hundredths limit.currentUsage.hundredths

inductive CreditUse where
  | use (amount : PositiveAmount) (referenceId : String)
  | repay (amount : PositiveAmount) (notes : Option String)

namespace CreditUse

variable (numberText : ℚ → String) (userId : ℕ)

def proc : CreditUse → CreditProc CreditTransaction
  | .use amount referenceId => useCredit userId amount.value referenceId
  | .repay amount notes => repayCredit userId numberText amount.value notes

def saved : CreditUse → Option CreditLimit → Except HttpException CreditLimit
  | .use amount _ => usedLimit amount.value
  | .repay amount _ => repaidLimit numberText amount.value

def transaction : CreditUse → CreditTransaction
  | .use amount referenceId => usageTransaction userId amount.value referenceId
  | .repay amount notes => repaymentTransaction userId amount.value notes

/-- The amount ends in half a cent, and is to be repaid. -/
def SplitsCent : CreditUse → Prop
  | .use _ _ => False
  | .repay amount _ => Int.fract (amount.value * 100) = 1 / 2

instance (c : CreditUse) : Decidable c.SplitsCent :=
  match c with
  | .use _ _ => inferInstanceAs (Decidable False)
  | .repay _ _ => inferInstanceAs (Decidable (_ = _))

theorem proc_eq (c : CreditUse) : c.proc numberText userId = .step id fun s =>
    match c.saved numberText (s.limits.lookup userId) with
    | .error e => .fail e
    | .ok limit => .step (fun s => { s with limits := s.limits.insert userId limit }) fun _ =>
        .step (fun s => { s with transactions := s.transactions.add (c.transaction userId) }) fun _ =>
          .done (c.transaction userId) := by
  cases c with
  | use amount referenceId =>
    refine congrArg (Proc.step id) (funext fun s => ?_)
    show (ofExcept (usedLimit amount.value (s.limits.lookup userId)) >>= _) = _
    unfold saved
    dsimp only
    cases usedLimit amount.value (s.limits.lookup userId) <;> rfl
  | repay amount notes =>
    refine congrArg (Proc.step id) (funext fun s => ?_)
    show (ofExcept (repaidLimit numberText amount.value (s.limits.lookup userId)) >>= _) = _
    unfold saved
    dsimp only
    cases repaidLimit numberText amount.value (s.limits.lookup userId) <;> rfl

end CreditUse

variable {saved : CreditLimit} {found : Option CreditLimit} {amount : ℚ}

theorem usedLimit_eq_ok (h : usedLimit amount found = .ok saved) :
    ∃ limit, found = some limit ∧ amount ≤ limit.maxLimit.value - limit.currentUsage.value ∧
      saved = { limit with currentUsage := Numeric2.ofRat (limit.currentUsage.value + amount) } := by
  unfold usedLimit at h
  cases hfilter : found.filter fun limit => limit.isActive ∧ limit.isEligible with
  | none =>
    rw [hfilter] at h
    cases h
  | some limit =>
    rw [hfilter] at h
    dsimp only at h
    split_ifs at h with havailable
    exact ⟨limit, (Option.filter_eq_some_iff.mp hfilter).1, not_lt.mp havailable, (Except.ok.inj h).symm⟩

theorem repaidLimit_eq_ok {numberText : ℚ → String} (h : repaidLimit numberText amount found = .ok saved) :
    ∃ limit, found = some limit ∧ amount ≤ limit.currentUsage.value ∧
      saved = { limit with currentUsage := Numeric2.ofRat (limit.currentUsage.value - amount) } := by
  unfold repaidLimit at h
  cases found with
  | none => cases h
  | some limit =>
    dsimp only at h
    split_ifs at h with hexceeds
    exact ⟨limit, rfl, not_lt.mp hexceeds, (Except.ok.inj h).symm⟩

theorem hundredths_ofRat_le {x : ℚ} (hx : 0 ≤ x) {b : Numeric2} (h : x ≤ b.value) :
    (Numeric2.ofRat x).hundredths ≤ b.hundredths := by
  have hb := Numeric2.value_mul b
  rw [Numeric2.hundredths_of_nonneg hx]
  refine Int.lt_add_one_iff.mp (Int.floor_lt.mpr ?_)
  push_cast
  linarith

namespace CreditUse

variable {numberText : ℚ → String} {userId : ℕ} {c : CreditUse} {found : Option CreditLimit} {limit saved : CreditLimit}

theorem exists_of_saved (h : c.saved numberText found = .ok saved) :
    ∃ limit, found = some limit ∧ saved.createdAt = limit.createdAt ∧ saved.maxLimit = limit.maxLimit := by
  cases c with
  | use amount referenceId =>
    obtain ⟨limit, hfound, -, rfl⟩ := usedLimit_eq_ok h
    exact ⟨limit, hfound, rfl, rfl⟩
  | repay amount notes =>
    obtain ⟨limit, hfound, -, rfl⟩ := repaidLimit_eq_ok h
    exact ⟨limit, hfound, rfl, rfl⟩

/-- The new usage is the old one and what the transaction records, unless a repayment ends in half a cent; it grows
within the limit only. -/
theorem saved_spec (userId : ℕ) (h : c.saved numberText (some limit) = .ok saved)
    (hnonneg : 0 ≤ limit.currentUsage.hundredths) :
    (saved.currentUsage.hundredths = limit.currentUsage.hundredths + (c.transaction userId).used ↔
        ¬ c.SplitsCent) ∧
      0 ≤ saved.currentUsage.hundredths ∧
      saved.currentUsage.hundredths ≤ max limit.maxLimit.hundredths limit.currentUsage.hundredths := by
  cases c with
  | use amount referenceId =>
    obtain ⟨limit', hlimit, havailable, rfl⟩ := usedLimit_eq_ok h
    obtain rfl := Option.some.inj hlimit
    have hpos := amount.pos
    have husage : 0 ≤ limit.currentUsage.value := Numeric2.value_nonneg_iff.mpr hnonneg
    obtain ⟨hsum, hsumNonneg⟩ := (Numeric2.credit_agrees_iff hnonneg amount.value).mpr (by linarith)
    rw [abs_of_pos hpos] at hsum
    have hwithin := hundredths_ofRat_le (by linarith) (by linarith :
      limit.currentUsage.value + amount.value ≤ limit.maxLimit.value)
    exact ⟨iff_of_true hsum not_false, hsumNonneg, le_max_of_le_left hwithin⟩
  | repay amount notes =>
    have hrepaid : repaidLimit numberText amount.value (some limit) = .ok saved := h
    obtain ⟨limit', hlimit, hle, rfl⟩ := repaidLimit_eq_ok hrepaid
    obtain rfl := Option.some.inj hlimit
    have hpos := amount.pos
    have hused : ((CreditUse.repay amount notes).transaction userId).used =
        (Numeric2.ofRat (-|amount.value|)).hundredths := by
      rw [abs_of_pos hpos, Numeric2.hundredths_neg]
      rfl
    have hagrees := Numeric2.debit_agrees_iff hle
    have hleft := Numeric2.hundredths_sub_nonneg hle
    rw [and_iff_left hleft, and_iff_right (by linarith : -1 / 200 < amount.value)] at hagrees
    have hless := hundredths_ofRat_le (by linarith) (by linarith :
      limit.currentUsage.value - amount.value ≤ limit.currentUsage.value)
    rw [hused]
    exact ⟨hagrees, hleft, le_max_of_le_right hless⟩

end CreditUse

@[simp] theorem CreditUse.userId_transaction (c : CreditUse) (userId : ℕ) : (c.transaction userId).userId = userId := by
  cases c <;> rfl

/-! ### Sums of transactions -/

namespace CreditStore

variable {s : CreditStore} {userId : ℕ}

/-- The limit of the user becomes `limit`. -/
def withLimit (s : CreditStore) (userId : ℕ) (limit : CreditLimit) : CreditStore :=
  { s with limits := s.limits.insert userId limit }

def recorded (s : CreditStore) (tx : CreditTransaction) : CreditStore :=
  { s with transactions := s.transactions.add tx }

theorem lookup_withLimit_self (s : CreditStore) (userId : ℕ) (limit : CreditLimit) :
    (s.withLimit userId limit).limits.lookup userId = some limit := Finmap.lookup_insert _

theorem lookup_withLimit_of_ne (s : CreditStore) {userId userId' : ℕ} (h : userId' ≠ userId) (limit : CreditLimit) :
    (s.withLimit userId limit).limits.lookup userId' = s.limits.lookup userId' := Finmap.lookup_insert_of_ne _ h

theorem usedSince_recorded (tx : CreditTransaction) (userId : ℕ) {first : ℕ} (hfirst : first ≤ s.transactions.next) :
    (s.recorded tx).usedSince userId first = s.usedSince userId first + if tx.userId = userId then tx.used else 0 := by
  unfold usedSince
  show Table.total _ (s.transactions.rows.insert s.transactions.next tx) = _
  rw [Table.total_insert_of_notMem _ _ s.transactions.next_notMem, add_comm]
  simp only [hfirst, and_true]

theorem usedSince_next (s : CreditStore) (userId : ℕ) : s.usedSince userId s.transactions.next = 0 := by
  refine Table.total_eq_zero fun id tx hfind => if_neg fun h => ?_
  have hlt := SerialTable.lt_next_of_find hfind
  omega

variable {limit : CreditLimit}

theorem limitAccounted_new (s : CreditStore) (userId : ℕ)
    (hcreated : limit.createdAt = s.transactions.next) (husage : limit.currentUsage.hundredths = 0) :
    s.LimitAccounted userId 0 limit where
  createdAt := hcreated.le
  usage := by rw [husage, hcreated, usedSince_next, add_zero]
  nonneg := husage.ge

theorem LimitAccounted.recorded {owed : ℤ} {tx : CreditTransaction}
    (h : s.LimitAccounted userId (owed + if tx.userId = userId then tx.used else 0) limit) :
    (s.recorded tx).LimitAccounted userId owed limit where
  createdAt := Nat.le_succ_of_le h.createdAt
  usage := by
    rw [usedSince_recorded tx userId h.createdAt, h.usage]
    omega
  nonneg := h.nonneg

theorem Accounted.withLimit (h : s.Accounted) (hlimit : s.LimitAccounted userId 0 limit) :
    (s.withLimit userId limit).Accounted := by
  intro userId' limit' hlookup
  by_cases hid : userId' = userId
  · subst hid
    rw [lookup_withLimit_self] at hlookup
    obtain rfl := Option.some.inj hlookup
    exact ⟨hlimit.createdAt, hlimit.usage, hlimit.nonneg⟩
  · rw [lookup_withLimit_of_ne s hid] at hlookup
    have hother := h userId' limit' hlookup
    exact ⟨hother.createdAt, hother.usage, hother.nonneg⟩

theorem Accounted.recorded_withLimit_iff (h : s.Accounted) {saved : CreditLimit} {tx : CreditTransaction}
    (hlimit : s.limits.lookup userId = some limit) (hcreated : saved.createdAt = limit.createdAt)
    (hnonneg : 0 ≤ saved.currentUsage.hundredths) (htx : tx.userId = userId) :
    ((s.withLimit userId saved).recorded tx).Accounted ↔
      saved.currentUsage.hundredths = limit.currentUsage.hundredths + tx.used := by
  have hbefore := h userId limit hlimit
  have hsince : ((s.withLimit userId saved).recorded tx).usedSince userId saved.createdAt =
      s.usedSince userId limit.createdAt + tx.used := by
    rw [usedSince_recorded tx userId (hcreated ▸ hbefore.createdAt), if_pos htx, hcreated]
    rfl
  constructor
  · intro hafter
    have husage := (hafter userId saved (lookup_withLimit_self s userId saved)).usage
    rw [hbefore.usage]
    omega
  · intro husage userId' limit' hlookup
    by_cases hid : userId' = userId
    · subst hid
      obtain rfl := Option.some.inj ((lookup_withLimit_self s userId' saved).symm.trans hlookup)
      refine ⟨Nat.le_succ_of_le (hcreated ▸ hbefore.createdAt), ?_, hnonneg⟩
      rw [husage, hbefore.usage]
      omega
    · have hother := h userId' limit' ((lookup_withLimit_of_ne s hid saved).symm.trans hlookup)
      refine LimitAccounted.recorded (s := s.withLimit userId saved) ⟨hother.createdAt, ?_, hother.nonneg⟩
      rw [if_neg fun heq => hid (heq.symm.trans htx)]
      exact hother.usage

end CreditStore

theorem keepsWithin_refl (s : CreditStore) (userId : ℕ) : KeepsWithin s s userId := by
  intro limit limit' h h'
  obtain rfl := Option.mem_unique h h'
  exact le_max_right _ _

variable {userId : ℕ} {s : CreditStore}

theorem keepsWithin_withLimit {limit saved : CreditLimit} (h : s.limits.lookup userId = some limit)
    (hwithin : saved.currentUsage.hundredths ≤ max saved.maxLimit.hundredths limit.currentUsage.hundredths)
    (userId' : ℕ) : KeepsWithin s (s.withLimit userId saved) userId' := by
  by_cases hid : userId' = userId
  · subst hid
    intro limit' saved' hlimit' hsaved'
    rw [CreditStore.lookup_withLimit_self] at hsaved'
    obtain rfl := Option.some.inj hsaved'
    obtain rfl := Option.mem_unique h hlimit'
    exact hwithin
  · intro limit' saved' hlimit' hsaved'
    rw [CreditStore.lookup_withLimit_of_ne s hid] at hsaved'
    exact keepsWithin_refl s userId' limit' saved' hlimit' hsaved'

theorem keepsWithin_new {saved : CreditLimit} (h : s.limits.lookup userId = none)
    (userId' : ℕ) : KeepsWithin s (s.withLimit userId saved) userId' := by
  intro limit limit' hlimit hlimit'
  by_cases hid : userId' = userId
  · subst hid
    rw [h] at hlimit
    cases hlimit
  · rw [CreditStore.lookup_withLimit_of_ne s hid] at hlimit'
    exact keepsWithin_refl s userId' limit limit' hlimit hlimit'

theorem lookup_of_lookup_erase {userId' : ℕ} {limit : CreditLimit}
    (h : (s.limits.erase userId).lookup userId' = some limit) : s.limits.lookup userId' = some limit := by
  by_cases hid : userId' = userId
  · subst hid
    rw [Finmap.lookup_erase] at h
    cases h
  · rwa [Finmap.lookup_erase_ne hid] at h

/-! ### Calls one after another -/

inductive CreditServiceCall where
  | applyForCredit (userId : ℕ)
  | setLimit (userId : ℕ) (maxLimit : ℚ)
  | use (userId : ℕ) (call : CreditUse)
  | deleteCreditLimit (userId : ℕ)

namespace CreditServiceCall

variable (numberText : ℚ → String)

def step (s : CreditStore) : CreditServiceCall → CreditStore
  | .applyForCredit userId => (run (Credits.applyForCredit userId) s).2
  | .setLimit userId maxLimit => (run (Credits.setLimit userId maxLimit) s).2
  | .use userId call => (run (call.proc numberText userId) s).2
  | .deleteCreditLimit userId => (run (Credits.deleteCreditLimit userId) s).2

/-- The call repays an amount that ends in half a cent. -/
def SplitsCent (s : CreditStore) : CreditServiceCall → Prop
  | .use userId call => call.SplitsCent ∧ (call.saved numberText (s.limits.lookup userId)).isOk = true
  | _ => False

instance (s : CreditStore) (c : CreditServiceCall) : Decidable (c.SplitsCent numberText s) :=
  match c with
  | .use _ _ => inferInstanceAs (Decidable (_ ∧ _))
  | .applyForCredit _ | .setLimit _ _ | .deleteCreditLimit _ => inferInstanceAs (Decidable False)

end CreditServiceCall

section Steps

variable {numberText : ℚ → String} {s : CreditStore}

theorem run_use (u : CreditUse) (userId : ℕ) : (run (u.proc numberText userId) s).2 =
    match u.saved numberText (s.limits.lookup userId) with
    | .error _ => s
    | .ok limit => (s.withLimit userId limit).recorded (u.transaction userId) := by
  rw [CreditUse.proc_eq, run_step]
  cases u.saved numberText (s.limits.lookup userId) <;> rfl

theorem run_applyForCredit (userId : ℕ) : (run (applyForCredit userId) s).2 =
    if (s.limits.lookup userId).isSome then s
    else s.withLimit userId { maxLimit := ⟨500000⟩, isEligible := true, createdAt := s.transactions.next } := by
  unfold applyForCredit findLimit
  rw [run_read_bind]
  cases s.limits.lookup userId <;> rfl

theorem run_setLimit (userId : ℕ) (maxLimit : ℚ) : (run (setLimit userId maxLimit) s).2 =
    match s.limits.lookup userId with
    | none => s.withLimit userId
        { maxLimit := Numeric2.ofRat maxLimit, isEligible := true, createdAt := s.transactions.next }
    | some limit => s.withLimit userId { limit with maxLimit := Numeric2.ofRat maxLimit } := by
  unfold setLimit writeLimit findLimit
  rw [snd_run_bind_readOnly _ fun _ => readOnly_read _, run_read_bind]
  cases s.limits.lookup userId <;> rfl

theorem run_deleteCreditLimit (userId : ℕ) : (run (deleteCreditLimit userId) s).2 = s ∨
    (run (deleteCreditLimit userId) s).2 = { s with limits := s.limits.erase userId } := by
  unfold deleteCreditLimit findLimit
  rw [run_read_bind]
  cases s.limits.lookup userId with
  | none => exact Or.inl rfl
  | some limit =>
    unfold Proc.throwIf
    dsimp only
    split_ifs
    · exact Or.inl rfl
    · exact Or.inr rfl

theorem accounted_credit_step (h : s.Accounted) (c : CreditServiceCall) :
    ((c.step numberText s).Accounted ↔ ¬ c.SplitsCent numberText s) ∧
      ∀ userId, KeepsWithin s (c.step numberText s) userId := by
  cases c with
  | applyForCredit userId =>
    unfold CreditServiceCall.step
    dsimp only
    rw [run_applyForCredit]
    split_ifs with hfound
    · exact ⟨iff_of_true h not_false, keepsWithin_refl s⟩
    · refine ⟨iff_of_true (h.withLimit (s.limitAccounted_new userId rfl rfl)) not_false, fun userId' => ?_⟩
      exact keepsWithin_new (Option.not_isSome_iff_eq_none.mp hfound) userId'
  | setLimit userId maxLimit =>
    unfold CreditServiceCall.step
    dsimp only
    rw [run_setLimit]
    cases hfound : s.limits.lookup userId with
    | none => exact ⟨iff_of_true (h.withLimit (s.limitAccounted_new userId rfl rfl)) not_false, keepsWithin_new hfound⟩
    | some limit =>
      have hlimit := h userId limit hfound
      refine ⟨iff_of_true (h.withLimit ⟨hlimit.createdAt, hlimit.usage, hlimit.nonneg⟩) not_false, ?_⟩
      exact keepsWithin_withLimit hfound (le_max_right _ _)
  | use userId u =>
    unfold CreditServiceCall.step CreditServiceCall.SplitsCent
    dsimp only
    rw [run_use]
    cases hsaved : u.saved numberText (s.limits.lookup userId) with
    | error e => exact ⟨iff_of_true h fun hsplits => Bool.false_ne_true hsplits.2, keepsWithin_refl s⟩
    | ok saved =>
      obtain ⟨limit, hfound, hcreated, hmax⟩ := CreditUse.exists_of_saved hsaved
      rw [hfound] at hsaved
      obtain ⟨hiff, hnonneg, hwithin⟩ := CreditUse.saved_spec userId hsaved (h userId limit hfound).nonneg
      refine ⟨?_, keepsWithin_withLimit hfound (by rwa [hmax])⟩
      rw [h.recorded_withLimit_iff hfound hcreated hnonneg (u.userId_transaction userId), hiff]
      exact not_congr (and_iff_left rfl).symm
  | deleteCreditLimit userId =>
    unfold CreditServiceCall.step
    dsimp only
    rcases run_deleteCreditLimit (s := s) userId with hsame | herased
    · rw [hsame]
      exact ⟨iff_of_true h not_false, keepsWithin_refl s⟩
    · rw [herased]
      refine ⟨iff_of_true (fun userId' limit hlookup => ?_) not_false, fun userId' limit limit' hlimit hlimit' => ?_⟩
      · have hother := h userId' limit (lookup_of_lookup_erase hlookup)
        exact ⟨hother.createdAt, hother.usage, hother.nonneg⟩
      · exact keepsWithin_refl s userId' limit limit' hlimit (lookup_of_lookup_erase hlimit')

end Steps

/-! ### Calls beside each other -/

namespace Pool

variable {ι : Type} [DecidableEq ι] (numberText : ℚ → String) (userId : ℕ) (calls : ι → CreditUse)

/-- The limit that a call is about to save: it has read its limit, and nothing yet after that. -/
def saving (P : Pool ι CreditStore) (i : ι) : Option (CreditStore × CreditLimit) :=
  match P.seen i with
  | [S] => (((calls i).saved numberText (S.limits.lookup userId)).toOption).map fun limit => (S, limit)
  | _ => none

/-- A call saves a limit only while it is the one that the call has read, and splits no cent. -/
def SavesAsRead (P : Pool ι CreditStore) (i : ι) : Prop :=
  ∀ saving ∈ P.saving numberText userId calls i,
    P.store.limits.lookup userId = saving.1.limits.lookup userId ∧ ¬ (calls i).SplitsCent
deriving Decidable

/-- A call has saved the limit, and not yet recorded its transaction. -/
def Midway (P : Pool ι CreditStore) (i : ι) : Prop := (P.seen i).length = 2

def pending (P : Pool ι CreditStore) (i : ι) : ℤ :=
  if (P.seen i).length = 2 then ((calls i).transaction userId).used else 0

variable {numberText userId calls}

variable {P : Pool ι CreditStore}

omit [DecidableEq ι] in
theorem credit_step_cases {i : ι} {act : CreditStore → CreditStore} {next : CreditStore → CreditProc CreditTransaction}
    (hleft : P.left (fun j => (calls j).proc numberText userId) i = .step act next) :
    (P.seen i = [] ∧ act = id) ∨
    (∃ S limit, P.seen i = [S] ∧ (calls i).saved numberText (S.limits.lookup userId) = .ok limit ∧
      act = fun s => s.withLimit userId limit) ∨
    ((P.seen i).length = 2 ∧ act = fun s => s.recorded ((calls i).transaction userId)) := by
  have hleft : ((calls i).proc numberText userId).resume (P.seen i) = .step act next := hleft
  rw [CreditUse.proc_eq] at hleft
  cases hseen : P.seen i with
  | nil =>
    rw [hseen] at hleft
    exact Or.inl ⟨rfl, (Proc.step.inj hleft).1.symm⟩
  | cons S seen =>
    rw [hseen, resume_step_cons] at hleft
    cases hsaved : (calls i).saved numberText (S.limits.lookup userId) with
    | error e =>
      rw [hsaved] at hleft
      cases hleft
    | ok limit =>
      rw [hsaved] at hleft
      match seen with
      | [] =>
        exact Or.inr (Or.inl ⟨S, limit, rfl, hsaved, (Proc.step.inj hleft).1.symm⟩)
      | [T] =>
        exact Or.inr (Or.inr ⟨rfl, (Proc.step.inj hleft).1.symm⟩)
      | T :: U :: rest =>
        cases hleft

variable [Fintype ι]

variable (userId calls) in
/-- The limit of the user is accounted for, but for what the calls owe; the limits of the others are. -/
structure CreditKept (P : Pool ι CreditStore) : Prop where
  own : ∀ limit, P.store.limits.lookup userId = some limit →
    P.store.LimitAccounted userId (∑ j, P.pending userId calls j) limit
  others : ∀ userId' ≠ userId, ∀ limit, P.store.limits.lookup userId' = some limit →
    P.store.LimitAccounted userId' 0 limit

variable (userId calls) in
theorem sum_pending_step (P : Pool ι CreditStore) (i : ι) (store : CreditStore) {d : ℤ}
    (h : (if (P.seen i).length + 1 = 2 then ((calls i).transaction userId).used else 0) =
      P.pending userId calls i + d) :
    ∑ j, (⟨store, Function.update P.seen i (P.seen i ++ [P.store])⟩ : Pool ι CreditStore).pending userId calls j =
      ∑ j, P.pending userId calls j + d := by
  have hseen : (if (P.seen i ++ [P.store]).length = 2 then ((calls i).transaction userId).used else 0) =
      (if (P.seen i).length = 2 then ((calls i).transaction userId).used else 0) + d := by
    rw [List.length_append]
    exact h
  exact sum_seen_update (fun j seen => if seen.length = 2 then ((calls j).transaction userId).used else 0) P.seen hseen

theorem creditKept_step (h : CreditKept userId calls P) {i : ι} (hsaves : P.SavesAsRead numberText userId calls i) :
    CreditKept userId calls (P.step (fun j => (calls j).proc numberText userId) i) ∧
      ∀ userId', KeepsWithin P.store (P.step (fun j => (calls j).proc numberText userId) i).store userId' := by
  rcases P.step_cases (fun j => (calls j).proc numberText userId) i with ⟨act, next, hleft, hstep⟩ | hsame
  swap
  · rw [hsame]
    exact ⟨h, keepsWithin_refl P.store⟩
  rw [hstep]
  rcases credit_step_cases hleft with ⟨hnil, rfl⟩ | ⟨S, saved, hone, hsaved, rfl⟩ | ⟨htwo, rfl⟩
  · -- a read
    have hsum := P.sum_pending_step userId calls i (id P.store) (d := 0) (by
      unfold pending
      rw [hnil]
      rfl)
    refine ⟨⟨fun limit hlimit => ?_, h.others⟩, keepsWithin_refl P.store⟩
    rw [hsum, add_zero]
    exact h.own limit hlimit
  · -- the limit is saved, and its transaction owed
    have hsaving : (S, saved) ∈ P.saving numberText userId calls i := by
      unfold saving
      rw [hone]
      dsimp only
      rw [hsaved]
      rfl
    obtain ⟨hfresh, hsplits⟩ := hsaves _ hsaving
    obtain ⟨limit, hfound, hcreated, hmax⟩ := CreditUse.exists_of_saved hsaved
    rw [hfound] at hsaved
    have hstored : P.store.limits.lookup userId = some limit := hfresh.trans hfound
    have hlimit := h.own limit hstored
    obtain ⟨hiff, hnonneg, hwithin⟩ := CreditUse.saved_spec userId hsaved hlimit.nonneg
    have husage := hiff.mpr hsplits
    have hsum := P.sum_pending_step userId calls i (P.store.withLimit userId saved)
      (d := ((calls i).transaction userId).used) (by
        unfold pending
        rw [hone]
        exact (zero_add _).symm)
    refine ⟨⟨fun limit' hlimit' => ?_, fun userId' hne limit' hlimit' => ?_⟩, ?_⟩
    · obtain rfl := Option.some.inj ((P.store.lookup_withLimit_self userId saved).symm.trans hlimit')
      refine ⟨hcreated ▸ hlimit.createdAt, ?_, hnonneg⟩
      have hsince : (P.store.withLimit userId saved).usedSince userId saved.createdAt =
          P.store.usedSince userId limit.createdAt := by
        rw [hcreated]
        rfl
      rw [hsum, husage, hlimit.usage]
      rw [hsince]
      omega
    · have hother := h.others userId' hne limit' ((P.store.lookup_withLimit_of_ne hne saved).symm.trans hlimit')
      exact ⟨hother.createdAt, hother.usage, hother.nonneg⟩
    · exact keepsWithin_withLimit hstored (by rwa [hmax])
  · -- the transaction is recorded
    have hsum := P.sum_pending_step userId calls i
      (P.store.recorded ((calls i).transaction userId)) (d := -((calls i).transaction userId).used) (by
        unfold pending
        omega)
    refine ⟨⟨fun limit hlimit => ?_, fun userId' hne limit hlimit => ?_⟩, keepsWithin_refl P.store⟩
    · have hbefore := h.own limit hlimit
      rw [hsum]
      refine CreditStore.LimitAccounted.recorded ?_
      rw [if_pos ((calls i).userId_transaction userId), neg_add_cancel_right]
      exact hbefore
    · refine CreditStore.LimitAccounted.recorded ?_
      rw [if_neg fun heq => hne (heq.symm.trans ((calls i).userId_transaction userId))]
      exact h.others userId' hne limit hlimit

omit [DecidableEq ι] in
theorem accounted_of_creditKept (h : CreditKept userId calls P) (hmidway : ∀ j, ¬ P.Midway j) : P.store.Accounted := by
  have hsum : ∑ j, P.pending userId calls j = 0 := Finset.sum_eq_zero fun j _ => if_neg (hmidway j)
  intro userId' limit hlimit
  by_cases hid : userId' = userId
  · subst hid
    have hown := h.own limit hlimit
    rwa [hsum] at hown
  · exact h.others userId' hid limit hlimit

end Pool

def CreditStore.empty : CreditStore := ⟨∅, .empty⟩

/-- **Credit usage is accounted for**: after calls one after another that split no cent, and then in the schedules of
uses and repayments of a user that save no limit but the one that they have read, the usage of every limit is that of
its transactions whenever no call stands between its two writes, is never negative, and grows within the limit only. -/
theorem credit_accounted (numberText : ℚ → String) {serviceCalls : List CreditServiceCall}
    (hcalls : Run.Along (CreditServiceCall.step numberText) (fun s c => ¬ c.SplitsCent numberText s) .empty
      serviceCalls)
    {ι : Type} [DecidableEq ι] [Fintype ι] {userId : ℕ} {calls : ι → CreditUse} {schedule : List ι}
    (hschedule : Run.Along (Pool.step fun j => (calls j).proc numberText userId)
      (Pool.SavesAsRead numberText userId calls)
      (.init (Run.after (CreditServiceCall.step numberText) .empty serviceCalls)) schedule) :
    let state n := Run.after (CreditServiceCall.step numberText) .empty (serviceCalls.take n)
    let pool n := Run.after (Pool.step fun j => (calls j).proc numberText userId)
      (.init (Run.after (CreditServiceCall.step numberText) .empty serviceCalls)) (schedule.take n)
    (∀ n, (state n).Accounted ∧ ∀ userId', KeepsWithin (state n) (state (n + 1)) userId') ∧
      (∀ n, (∀ j, ¬ (pool n).Midway j) → (pool n).store.Accounted) ∧
      ∀ n userId', KeepsWithin (pool n).store (pool (n + 1)).store userId' ∧
        ∀ limit, (pool n).store.limits.lookup userId' = some limit → 0 ≤ limit.currentUsage.hundredths := by
  intro state pool
  have hempty : CreditStore.empty.Accounted := fun userId limit h => by cases h
  have hstep (s : CreditStore) (c : CreditServiceCall) (h : s.Accounted) (hc : ¬ c.SplitsCent numberText s) :
      (c.step numberText s).Accounted ∧ ∀ userId', KeepsWithin s (c.step numberText s) userId' :=
    ⟨(accounted_credit_step h c).1.mpr hc, (accounted_credit_step h c).2⟩
  have hstate (n : ℕ) : (state n).Accounted :=
    Run.after_induction (fun s c h hc => (hstep s c h hc).1) hempty (Run.along_take hcalls n)
  have hinit : Pool.CreditKept userId calls
      (.init (Run.after (CreditServiceCall.step numberText) .empty serviceCalls)) := by
    have hreached := Run.after_induction (fun s c h hc => (hstep s c h hc).1) hempty hcalls
    have hsum : ∑ j, (Pool.init (Run.after (CreditServiceCall.step numberText) .empty serviceCalls) :
        Pool ι CreditStore).pending userId calls j = 0 := Finset.sum_eq_zero fun j _ => rfl
    refine ⟨fun limit hlimit => ?_, fun userId' _ limit hlimit => hreached userId' limit hlimit⟩
    rw [hsum]
    exact hreached userId limit hlimit
  have hpool (P : Pool ι CreditStore) (i : ι) (h : P.CreditKept userId calls)
      (hi : P.SavesAsRead numberText userId calls i) := Pool.creditKept_step h hi
  have hkept (n : ℕ) : (pool n).CreditKept userId calls :=
    Run.after_induction (fun P i h hi => (hpool P i h hi).1) hinit (Run.along_take hschedule n)
  refine ⟨fun n => ⟨hstate n, ?_⟩, fun n => Pool.accounted_of_creditKept (hkept n), fun n userId' => ⟨?_, ?_⟩⟩
  · exact Run.rel_succ (R := fun s s' => ∀ userId', KeepsWithin s s' userId') keepsWithin_refl hstep hempty hcalls n
  · exact Run.rel_succ (R := fun P P' : Pool ι CreditStore => ∀ userId', KeepsWithin P.store P'.store userId')
      (fun P => keepsWithin_refl P.store) hpool hinit hschedule n userId'
  · intro limit hlimit
    by_cases hid : userId' = userId
    · subst hid
      exact ((hkept n).own limit hlimit).nonneg
    · exact ((hkept n).others userId' hid limit hlimit).nonneg

def creditApplied : List CreditServiceCall := [.applyForCredit 1]

def useAndRepay : Bool → CreditUse
  | false => .use ⟨30, by norm_num⟩ "7"
  | true => .repay ⟨10, by norm_num⟩ none

def usesBeyond : Bool → CreditUse := fun _ => .use ⟨3000, by norm_num⟩ "7"

/-- A repayment that reads the limit once the use has saved it. -/
theorem credit_accounted_useAndRepay :
    let state n := Run.after (CreditServiceCall.step fun _ => "") .empty (creditApplied.take n)
    let pool n := Run.after (Pool.step fun j => (useAndRepay j).proc (fun _ => "") 1)
      (.init (Run.after (CreditServiceCall.step fun _ => "") .empty creditApplied))
      ([false, false, true, false, true, true].take n)
    (∀ n, (state n).Accounted ∧ ∀ userId', KeepsWithin (state n) (state (n + 1)) userId') ∧
      (∀ n, (∀ j, ¬ (pool n).Midway j) → (pool n).store.Accounted) ∧
      ∀ n userId', KeepsWithin (pool n).store (pool (n + 1)).store userId' ∧
        ∀ limit, (pool n).store.limits.lookup userId' = some limit → 0 ≤ limit.currentUsage.hundredths :=
  credit_accounted (fun _ => "") (by decide +kernel) (by decide +kernel)

/-- Both uses read that nothing has been used: six thousand are used of a limit of five, and three are remembered. -/
theorem credit_lost :
    let pool n := Run.after (Pool.step fun j => (usesBeyond j).proc (fun _ => "") 1)
      (.init (Run.after (CreditServiceCall.step fun _ => "") .empty creditApplied))
      ([false, true, false, true, false, true].take n)
    (∀ j, (pool 6).Succeeded (fun j => (usesBeyond j).proc (fun _ => "") 1) j) ∧
      ¬ ∀ n, (∀ j, ¬ (pool n).Midway j) → (pool n).store.Accounted := by
  intro pool
  refine ⟨by decide +kernel, fun h => ?_⟩
  have hmidway : ∀ j, ¬ (pool 6).Midway j := by
    unfold Pool.Midway
    decide +kernel
  have husage : ((pool 6).store.limits.lookup 1).map (fun limit => (limit.currentUsage.hundredths, limit.createdAt)) =
      some (300000, 1) := by decide +kernel
  have hused : (pool 6).store.usedSince 1 1 = 600000 := by decide +kernel
  obtain ⟨limit, hlimit, heq⟩ := Option.map_eq_some_iff.mp husage
  obtain ⟨hcurrent, hcreated⟩ := Prod.mk.inj heq
  have haccounted := (h 6 hmidway 1 limit hlimit).usage
  rw [hcreated] at haccounted
  omega

end SuuqBackend
