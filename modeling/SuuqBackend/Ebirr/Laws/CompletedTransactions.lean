import SuuqBackend.Ebirr.EbirrPayments
import SuuqBackend.Lib.Interleave

/-!
# Completed transactions

No call saves another status over a transaction that it has seen completed (`EbirrCall.savesWhatIsOpen`): a payment
saves what it has created, a callback leaves a completed transaction alone, and the jobs load what is pending or
initiated.  But each of them saves a copy, and may save it after another call has completed the transaction.
`completed_stays`: a completed transaction stays completed in exactly the schedules in which that never happens.
-/

namespace SuuqBackend

open Proc EbirrPayments SerialTable

inductive EbirrCall where
  | initiate (request : EbirrPaymentRequest) (reply : EbirrReply) (requestedAt repliedAt : ℤ)
  | callback (now : ℤ) (payload : EbirrNotice)
  | returned (now : ℤ) (query : EbirrQuery)
  | checkPending (now : ℤ) (locked : Bool)
  | expirePrefix (now : ℤ) (referencePrefix : String)
  | reconcile (now : ℤ) (params : EbirrReconciliation)

def EbirrCall.proc (env : EbirrRuntime) : EbirrCall → EbirrProc Unit
  | .initiate request reply requestedAt repliedAt =>
    initiatePayment env request reply requestedAt repliedAt >>= fun _ => pure ()
  | .callback now payload => processCallback env now payload >>= fun _ => pure ()
  | .returned now query => verifyReturnCallback now query >>= fun _ => pure ()
  | .checkPending now locked => checkPendingTransactions env now locked
  | .expirePrefix now referencePrefix =>
    expireStalePendingTransactionsForPrefix now referencePrefix >>= fun _ => pure ()
  | .reconcile now params => reconcileStuckInitiatedTransactions now params >>= fun _ => pure ()

namespace EbirrStore

variable {s : EbirrStore} {id : ℕ}

/-- The transaction is stored as `COMPLETED`. -/
def Completed (s : EbirrStore) (id : ℕ) : Prop := s.statusOf id = some .completed
deriving Decidable

def KeepsCompleted (s s' : EbirrStore) : Prop := ∀ id, s.Completed id → s'.Completed id

/-- `save` of transactions that were loaded. -/
def saveRows (rows : List (ℕ × EbirrTransaction)) (s : EbirrStore) : EbirrStore :=
  rows.foldl (fun s row => s.saveTransaction row.1 row.2) s

theorem keepsCompleted_refl (s : EbirrStore) : s.KeepsCompleted s := fun _ h => h

theorem KeepsCompleted.trans {s₁ s₂ s₃ : EbirrStore} (h₁ : s₁.KeepsCompleted s₂) (h₂ : s₂.KeepsCompleted s₃) :
    s₁.KeepsCompleted s₃ := fun id h => h₂ id (h₁ id h)

theorem completed_saveTransaction_of_ne {id' : ℕ} (tx : EbirrTransaction) (h : id' ≠ id) :
    (s.saveTransaction id tx).Completed id' ↔ s.Completed id' := by
  unfold Completed statusOf saveTransaction
  rw [find_set_of_ne _ _ h]

theorem completed_saveTransaction_iff {tx : EbirrTransaction} :
    (s.saveTransaction id tx).Completed id ↔ (s.transactions.find id).isSome ∧ tx.status = .completed := by
  unfold Completed statusOf saveTransaction
  cases hfind : s.transactions.find id with
  | none => simp [find_set_of_eq_none hfind]
  | some found => simp [find_set_self hfind]

theorem isSome_of_completed (h : s.Completed id) : (s.transactions.find id).isSome := by
  obtain ⟨found, hfound, -⟩ := Option.map_eq_some_iff.mp h
  rw [hfound]
  rfl

theorem keepsCompleted_saveTransaction (s : EbirrStore) (id : ℕ) {tx : EbirrTransaction}
    (h : tx.status = .completed) : s.KeepsCompleted (s.saveTransaction id tx) := by
  intro id' hid'
  by_cases heq : id' = id
  · subst heq
    exact completed_saveTransaction_iff.mpr ⟨isSome_of_completed hid', h⟩
  · exact (completed_saveTransaction_of_ne tx heq).mpr hid'

variable {rows : List (ℕ × EbirrTransaction)}

theorem completed_saveRows (h : ∀ row ∈ rows, row.1 ≠ id) (hs : s.Completed id) : (s.saveRows rows).Completed id := by
  induction rows generalizing s with
  | nil => exact hs
  | cons row rows ih =>
    have hrow : id ≠ row.1 := (h row List.mem_cons_self).symm
    exact ih (fun r hr => h r (List.mem_cons_of_mem row hr)) ((completed_saveTransaction_of_ne row.2 hrow).mpr hs)

theorem not_completed_saveRows (h : ∀ row ∈ rows, row.2.status ≠ .completed)
    (hs : ¬ s.Completed id) : ¬ (s.saveRows rows).Completed id := by
  induction rows generalizing s with
  | nil => exact hs
  | cons row rows ih =>
    refine ih (fun r hr => h r (List.mem_cons_of_mem row hr)) fun hcompleted => ?_
    by_cases heq : id = row.1
    · subst heq
      exact h row List.mem_cons_self (completed_saveTransaction_iff.mp hcompleted).2
    · exact hs ((completed_saveTransaction_of_ne row.2 heq).mp hcompleted)

theorem not_completed_of_saved (h : ∀ row ∈ rows, row.2.status ≠ .completed)
    {row : ℕ × EbirrTransaction} (hrow : row ∈ rows) : ¬ (s.saveRows rows).Completed row.1 := by
  induction rows generalizing s with
  | nil => cases hrow
  | cons first rows ih =>
    have hrest : ∀ r ∈ rows, r.2.status ≠ .completed := fun r hr => h r (List.mem_cons_of_mem first hr)
    rcases List.mem_cons.mp hrow with rfl | hmem
    · change ¬ (saveRows rows (s.saveTransaction row.1 row.2)).Completed row.1
      refine not_completed_saveRows hrest fun hcompleted => ?_
      exact h row List.mem_cons_self (completed_saveTransaction_iff.mp hcompleted).2
    · exact ih hrest hmem

end EbirrStore

open EbirrStore

/-! ### What the calls save -/

/-- The action completes or leaves alone what is completed, or saves with other statuses what the call has seen
open. -/
def SavesWhatIsOpen (seen : List EbirrStore) (act : EbirrStore → EbirrStore) : Prop :=
  (∀ s : EbirrStore, s.KeepsCompleted (act s)) ∨
    ∃ rows, act = saveRows rows ∧ ∀ row ∈ rows, row.2.status ≠ .completed ∧ ∃ S ∈ seen, ¬ S.Completed row.1

section Calls

variable {seen : List EbirrStore} {α : Type}

theorem savesWhatIsOpen_of_acts {p : EbirrProc α} (h : p.Acts KeepsCompleted) : p.ActsAfter SavesWhatIsOpen seen :=
  h.actsAfter (fun _ _ hact => .inl hact) seen

theorem savesWhatIsOpen_read_bind {β : Type} {g : EbirrStore → β} {f : β → EbirrProc α}
    (h : ∀ s, (f (g s)).ActsAfter SavesWhatIsOpen (seen ++ [s])) : (Proc.read g >>= f).ActsAfter SavesWhatIsOpen seen :=
  .step (.inl keepsCompleted_refl) h

variable {tx : EbirrTransaction}

theorem savesWhatIsOpen_saveTransaction {now : ℤ} {id : ℕ} (h : tx.status ≠ .completed → ∃ S ∈ seen, ¬ S.Completed id) :
    (saveTransaction now id tx).ActsAfter SavesWhatIsOpen seen := by
  by_cases htx : tx.status = .completed
  · exact savesWhatIsOpen_of_acts (acts_write fun s => s.keepsCompleted_saveTransaction id htx)
  · refine .step (.inr ⟨[(id, { tx with updatedAt := now })], rfl, fun row hrow => ?_⟩) fun _ => .done ()
    obtain rfl := List.mem_singleton.mp hrow
    exact ⟨htx, h htx⟩

variable (env : EbirrRuntime) (now : ℤ) (request : EbirrPaymentRequest)

theorem saveRows_map (rows : List (ℕ × EbirrTransaction)) :
    saveRows (rows.map fun row => (row.1, { row.2 with updatedAt := now })) =
      fun s => rows.foldl (fun s row => s.saveTransaction row.1 { row.2 with updatedAt := now }) s := by
  funext s
  exact List.foldl_map

theorem not_completed_of_find {s : EbirrStore} {id : ℕ}
    (hfind : s.transactions.find id = some tx) (h : tx.status ≠ .completed) : ¬ s.Completed id := by
  unfold Completed statusOf
  rw [hfind]
  exact fun heq => h (Option.some.inj heq)

variable (s : EbirrStore) (reply : EbirrReply) (requestedAt repliedAt : ℤ)

theorem not_completed_next : ¬ s.Completed s.transactions.next := by
  unfold Completed statusOf
  rw [find_next]
  exact fun heq => by cases heq

theorem keepsCompleted_add (tx : EbirrTransaction) :
    s.KeepsCompleted { s with transactions := s.transactions.add tx } := by
  intro id hid
  obtain ⟨found, hfound, hstatus⟩ := Option.map_eq_some_iff.mp hid
  exact Option.map_eq_some_iff.mpr ⟨found, find_add_of_find hfound tx, hstatus⟩

theorem acts_insertTransaction (tx : EbirrTransaction) : (insertTransaction now tx).Acts KeepsCompleted := by
  refine acts_step (fun s => ?_) fun s => ?_
  · split_ifs
    · exact keepsCompleted_refl s
    · exact keepsCompleted_add s _
  · split_ifs <;> trivial

theorem acts_refusePaid : (refusePaid request).Acts KeepsCompleted := by
  unfold refusePaid
  cases requestedOrderId request with
  | none => exact acts_pure _
  | some orderId => exact (acts_read keepsCompleted_refl _).bind fun _ => acts_throwIf _ _

theorem acts_completeOrder (orderId : Option ℕ) : (completeOrder env orderId).Acts KeepsCompleted := by
  cases orderId with
  | none => exact acts_pure _
  | some orderId =>
    have hzoom := acts_zoom (R := KeepsCompleted) (L := EbirrStore.orderLens) (fun _ _ _ h => h)
      (OrderPayments.completeOrderFromPaymentCallback env.payment orderId)
    exact hzoom.attempt.bind fun _ => acts_pure _

theorem savesWhatIsOpen_insertTransaction_bind {now : ℤ} {f : Except EbirrFailure ℕ → EbirrProc α}
    (hok : ∀ s, (f (.ok s.transactions.next)).ActsAfter SavesWhatIsOpen (seen ++ [s]))
    (herror : ∀ s e, (f (.error e)).ActsAfter SavesWhatIsOpen (seen ++ [s])) :
    (attempt (insertTransaction now tx) >>= f).ActsAfter SavesWhatIsOpen seen := by
  refine .step (.inl fun s => ?_) fun s => ?_
  · dsimp only
    split_ifs
    · exact keepsCompleted_refl s
    · exact keepsCompleted_add s _
  · show ((attempt (if _ then _ else _)).bind f).ActsAfter SavesWhatIsOpen (seen ++ [s])
    split_ifs with htaken
    · exact herror s _
    · exact hok s

theorem savesWhatIsOpen_requestPayment :
    (requestPayment request reply requestedAt repliedAt).ActsAfter SavesWhatIsOpen seen := by
  refine savesWhatIsOpen_insertTransaction_bind (fun s => ?_) fun s e => ?_
  · -- the reply is saved in what was created
    refine ActsAfter.bind ?_ fun _ _ _ => savesWhatIsOpen_of_acts (acts_ofExcept _)
    exact savesWhatIsOpen_saveTransaction fun _ => ⟨s, List.mem_concat_self, not_completed_next s⟩
  · refine (savesWhatIsOpen_of_acts (acts_insertTransaction _ _)).bind fun _ _ _ => ?_
    exact savesWhatIsOpen_of_acts (acts_throw e)

theorem savesWhatIsOpen_initiatePayment :
    (initiatePayment env request reply requestedAt repliedAt).ActsAfter SavesWhatIsOpen seen := by
  refine (savesWhatIsOpen_of_acts (acts_ofExcept _)).bind fun _ _ _ => ?_
  refine (savesWhatIsOpen_of_acts (acts_refusePaid request)).bind fun _ _ _ => ?_
  refine (savesWhatIsOpen_of_acts (acts_throwIf _ _)).bind fun _ _ _ => ?_
  exact savesWhatIsOpen_requestPayment request reply requestedAt repliedAt

theorem savesWhatIsOpen_processCallback (payload : EbirrNotice) :
    (processCallback env now payload).ActsAfter SavesWhatIsOpen seen := by
  unfold processCallback
  cases (orText payload.referenceId payload.merchOrderId).filter (· ≠ "") with
  | none => exact actsAfter_pure _
  | some refId =>
    refine savesWhatIsOpen_read_bind fun s => ?_
    cases hfound : s.byReference refId with
    | none => exact actsAfter_pure _
    | some found =>
      dsimp only
      split_ifs with hcompleted
      · exact actsAfter_pure _
      · have hopen := not_completed_of_find (find_of_first hfound).1 hcompleted
        refine (savesWhatIsOpen_saveTransaction fun _ => ⟨s, List.mem_concat_self, hopen⟩).bind fun _ _ _ => ?_
        refine (savesWhatIsOpen_of_acts ?_).bind fun _ _ _ => actsAfter_pure _
        exact acts_completeOrder env _

theorem savesWhatIsOpen_verifyReturnCallback (query : EbirrQuery) :
    (verifyReturnCallback now query).ActsAfter SavesWhatIsOpen seen := by
  unfold verifyReturnCallback
  split
  · refine savesWhatIsOpen_read_bind fun s => ?_
    cases hfound : s.byReference _ with
    | none => exact actsAfter_pure _
    | some found =>
      refine (actsAfter_pure _).ite ?_
      refine ActsAfter.bind ?_ fun _ _ _ => actsAfter_pure _
      refine savesWhatIsOpen_saveTransaction fun htx => ⟨s, List.mem_concat_self, ?_⟩
      exact not_completed_of_find (find_of_first hfound).1 htx
  · exact actsAfter_pure _

theorem exists_open_of_listed {s : EbirrStore} {row : ℕ × EbirrTransaction} {p : EbirrTransaction → Bool}
    (hs : s ∈ seen) (hrow : row ∈ s.transactions.list p) (hp : p row.2 = true → row.2.status ≠ .completed) :
    ∃ S ∈ seen, ¬ S.Completed row.1 := by
  obtain ⟨hfind, hmeets⟩ := mem_list_iff.mp hrow
  exact ⟨s, hs, not_completed_of_find hfind (hp hmeets)⟩

theorem savesWhatIsOpen_checkPendingTransactions (locked : Bool) :
    (checkPendingTransactions env now locked).ActsAfter SavesWhatIsOpen seen := by
  unfold checkPendingTransactions
  split_ifs with hlocked
  swap
  · exact actsAfter_pure _
  refine savesWhatIsOpen_read_bind fun s => savesWhatIsOpen_read_bind fun s' => ?_
  refine ActsAfter.bind (actsAfter_forEach fun row hrow seen' hseen => ?_) fun _ seen' hseen =>
    actsAfter_forEach fun row hrow seen'' hseen' => ?_
  · have hs : s ∈ seen' := hseen.subset (by simp)
    refine savesWhatIsOpen_saveTransaction fun _ => exists_open_of_listed hs (List.mem_filter.mp hrow).1 fun hp => ?_
    rw [of_decide_eq_true hp]
    exact fun heq => by cases heq
  · have hs : s' ∈ seen'' := (hseen.trans hseen').subset (by simp)
    refine savesWhatIsOpen_saveTransaction fun _ => exists_open_of_listed hs hrow fun hp => ?_
    rw [(of_decide_eq_true hp).1]
    exact fun heq => by cases heq

theorem savesWhatIsOpen_expireStalePendingTransactionsForPrefix (referencePrefix : String) :
    (expireStalePendingTransactionsForPrefix now referencePrefix).ActsAfter SavesWhatIsOpen seen := by
  refine (actsAfter_pure _).ite (savesWhatIsOpen_read_bind fun s => ?_)
  refine (actsAfter_pure _).ite ?_
  refine .step (.inr ⟨_, (saveRows_map _ _).symm, fun row hrow => ?_⟩) fun _ => .done _
  obtain ⟨superseded, hmem, rfl⟩ := List.mem_map.mp hrow
  obtain ⟨listed, hlisted, rfl⟩ := List.mem_map.mp hmem
  have hopen : ∃ S ∈ seen ++ [s], ¬ S.Completed listed.1 := by
    refine exists_open_of_listed List.mem_concat_self hlisted fun hp => ?_
    rcases (of_decide_eq_true hp).1 with hstatus | hstatus
    · rw [hstatus]
      exact fun heq => by cases heq
    · rw [hstatus]
      exact fun heq => by cases heq
  exact ⟨fun heq => (by cases heq), hopen⟩

theorem acts_linkedOrder (tx : EbirrTransaction) : (linkedOrder tx).Acts KeepsCompleted := by
  unfold linkedOrder
  cases linkedOrderId tx with
  | none => exact acts_pure _
  | some orderId => exact acts_read keepsCompleted_refl _

theorem savesWhatIsOpen_reconcileAll (dryRun : Bool) {rows : List (ℕ × EbirrTransaction)}
    (h : ∀ row ∈ rows, ∃ S ∈ seen, ¬ S.Completed row.1) :
    (reconcileAll now dryRun rows).ActsAfter SavesWhatIsOpen seen := by
  induction rows generalizing seen with
  | nil => exact actsAfter_pure _
  | cons row rows ih =>
    obtain ⟨id, tx⟩ := row
    have hlater : ∀ {seen' : List EbirrStore}, seen <+: seen' → ∀ row ∈ (id, tx) :: rows,
        ∃ S ∈ seen', ¬ S.Completed row.1 := by
      intro seen' hseen row hrow
      obtain ⟨S, hS, hopen⟩ := h row hrow
      exact ⟨S, hseen.subset hS, hopen⟩
    refine (savesWhatIsOpen_of_acts (acts_linkedOrder tx)).bind fun order seen₁ h₁ => ?_
    refine ActsAfter.bind ?_ fun _ seen₂ h₂ => ?_
    · refine (actsAfter_pure _).ite (savesWhatIsOpen_saveTransaction fun _ => ?_)
      exact hlater h₁ (id, tx) List.mem_cons_self
    · refine (ih fun row hrow => ?_).bind fun _ _ _ => actsAfter_pure _
      exact hlater (h₁.trans h₂) row (List.mem_cons_of_mem _ hrow)

theorem savesWhatIsOpen_reconcileStuckInitiatedTransactions (params : EbirrReconciliation) :
    (reconcileStuckInitiatedTransactions now params).ActsAfter SavesWhatIsOpen seen := by
  refine savesWhatIsOpen_read_bind fun s => savesWhatIsOpen_reconcileAll now params.dryRun fun row hrow => ?_
  have hlisted := List.mem_mergeSort.mp (List.mem_of_mem_take hrow)
  refine exists_open_of_listed List.mem_concat_self hlisted fun hp => ?_
  rw [(of_decide_eq_true hp).1]
  exact fun heq => by cases heq

theorem EbirrCall.savesWhatIsOpen (c : EbirrCall) (seen : List EbirrStore) :
    (c.proc env).ActsAfter SavesWhatIsOpen seen := by
  cases c with
  | initiate request reply requestedAt repliedAt =>
    exact (savesWhatIsOpen_initiatePayment env request reply requestedAt repliedAt).bind fun _ _ _ =>
      actsAfter_pure _
  | callback now payload =>
    exact (savesWhatIsOpen_processCallback env now payload).bind fun _ _ _ => actsAfter_pure _
  | returned now query =>
    exact (savesWhatIsOpen_verifyReturnCallback now query).bind fun _ _ _ => actsAfter_pure _
  | checkPending now locked => exact savesWhatIsOpen_checkPendingTransactions env now locked
  | expirePrefix now referencePrefix =>
    exact (savesWhatIsOpen_expireStalePendingTransactionsForPrefix now referencePrefix).bind fun _ _ _ =>
      actsAfter_pure _
  | reconcile now params =>
    exact (savesWhatIsOpen_reconcileStuckInitiatedTransactions now params).bind fun _ _ _ => actsAfter_pure _

end Calls

/-! ### Calls beside each other -/

namespace Pool

variable {ι : Type} [DecidableEq ι] (env : EbirrRuntime) (calls : ι → EbirrCall)

/-- The call is about to save transactions with other statuses than `COMPLETED`, and another call has completed one of
them since this one has seen it open. -/
def Overtaken (P : Pool ι EbirrStore) (i : ι) : Prop :=
  ∃ rows next, P.left (fun j => (calls j).proc env) i = .step (saveRows rows) next ∧
    (∀ row ∈ rows, row.2.status ≠ .completed) ∧
    ∃ row ∈ rows, P.store.Completed row.1 ∧ ∃ S ∈ P.seen i, ¬ S.Completed row.1

/-- **One step** takes a completion back exactly when the call has been overtaken. -/
theorem keepsCompleted_step_iff (P : Pool ι EbirrStore) (i : ι) :
    P.store.KeepsCompleted (P.step (fun j => (calls j).proc env) i).store ↔ ¬ P.Overtaken env calls i := by
  constructor
  · rintro hkeeps ⟨rows, next, hleft, hstatus, row, hrow, hcompleted, -⟩
    rw [step_of_left _ hleft] at hkeeps
    exact not_completed_of_saved hstatus hrow (hkeeps row.1 hcompleted)
  · intro hnot
    rcases P.step_cases (fun j => (calls j).proc env) i with ⟨act, next, hleft, hstep⟩ | hsame
    swap
    · rw [hsame]
      exact keepsCompleted_refl P.store
    rw [hstep]
    have hacts := ((calls i).savesWhatIsOpen env []).of_resume hleft
    rcases hacts with hkeeps | ⟨rows, rfl, hrows⟩
    · exact hkeeps P.store
    · refine fun id hid => completed_saveRows (fun row hrow heq => ?_) hid
      subst heq
      exact hnot ⟨rows, next, hleft, fun r hr => (hrows r hr).1, row, hrow, hid, (hrows row hrow).2⟩

end Pool

/-- **A completed transaction stays completed** in a schedule of payments, callbacks, returns and jobs exactly when no
call saves another status over a transaction that has been completed since the call has seen it open. -/
theorem completed_stays (env : EbirrRuntime) {ι : Type} [DecidableEq ι] (calls : ι → EbirrCall) (s : EbirrStore)
    (schedule : List ι) :
    let pool n := Run.after (Pool.step fun i => (calls i).proc env) (.init s) (schedule.take n)
    (∀ n m, n ≤ m → ∀ id, (pool n).store.Completed id → (pool m).store.Completed id) ↔
      Run.Along (Pool.step fun i => (calls i).proc env) (fun P i => ¬ P.Overtaken env calls i) (.init s) schedule :=
  Run.forall_rel_take_iff (I := fun _ => True)
    (R := fun P P' : Pool ι EbirrStore => P.store.KeepsCompleted P'.store)
    (fun P => keepsCompleted_refl P.store) (fun _ _ _ => KeepsCompleted.trans) (fun _ _ _ _ => trivial)
    (fun P i _ => P.keepsCompleted_step_iff env calls i) trivial schedule

def ebirrRuntime : EbirrRuntime where
  toUpperCase text := text
  apiUrl := some "https://api.suuq.test"
  payment := { now := 0, autoEbirrPayout := false, sendPayout := fun _ => .error "", debitFails := fun _ => none }

def OrderStore.empty : OrderStore where
  orders := ∅
  products := ∅
  payoutLogs := .empty
  wallet := ⟨∅, ∅, .empty, .empty, .empty⟩
  inventory := ⟨∅, ∅, ∅, []⟩
  payouts := []
  deliveries := []

def paymentAndCallback : Bool → EbirrCall
  | false => .initiate ⟨some "0912345678", "POSACT-3-1700", "POSACTINV-3"⟩ (.data { errorCode := some "0" }) 1700 2900
  | true => .callback 2800 { referenceId := some "POSACT-3-1700", status := some "PAID" }

/-- The callback comes while the payment still waits for the reply: the completed transaction is `INITIATED` again. -/
theorem completed_overwritten :
    ¬ ∀ n m, n ≤ m → ∀ id,
      (Run.after (Pool.step fun i => (paymentAndCallback i).proc ebirrRuntime) (.init ⟨.empty, .empty⟩)
        ([false, true, true, false].take n)).store.Completed id →
      (Run.after (Pool.step fun i => (paymentAndCallback i).proc ebirrRuntime) (.init ⟨.empty, .empty⟩)
        ([false, true, true, false].take m)).store.Completed id := by
  intro h
  have hcompleted : (Run.after (Pool.step fun i => (paymentAndCallback i).proc ebirrRuntime)
      (.init ⟨.empty, .empty⟩) [false, true, true]).store.Completed 1 := by decide
  have hoverwritten : ¬ (Run.after (Pool.step fun i => (paymentAndCallback i).proc ebirrRuntime)
      (.init ⟨.empty, .empty⟩) [false, true, true, false]).store.Completed 1 := by decide
  exact hoverwritten (h 3 4 (by omega) 1 hcompleted)

end SuuqBackend
