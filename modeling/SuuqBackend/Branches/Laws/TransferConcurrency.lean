import SuuqBackend.Lib.ReadCommitted
import SuuqBackend.Branches.Laws.TransferRuns

/-!
# Receipts and cancellations of one transfer beside each other

Each call runs in a transaction of its own; it loads the transfer, checks the status, handles the
items and saves the new status.  Nothing is locked, so by the time a call commits the status that it
has checked may be out of date.
-/

namespace SuuqBackend

open Proc BranchTransfers SerialTable

inductive EndCall where
  | receive (now : Date) (actorId : Option ℕ) (note : Option String)
  | cancel (now : Date) (actorId : Option ℕ) (note : Option String)

def EndCall.execute (id : ℕ) : EndCall → TransferProc BranchTransfer
  | receive now actorId note => receiveWithin now id actorId note
  | cancel now actorId note => cancelWithin now id actorId note

def TransferStore.statusOf (S : TransferStore) (id : ℕ) : Option BranchTransferStatus :=
  (S.transfers.find id).map BranchTransfer.status

/-! ### One call -/

section OneCall

variable {id : ℕ} {S S' : TransferStore} {t a : BranchTransfer} {c : EndCall}

theorem transition_eq {refusal : BranchTransferStatus → Option HttpException}
    {execute : BranchTransfer → InventoryProc Unit} {next : BranchTransfer → BranchTransfer} :
    transition id refusal execute next = .step (fun S => S) fun S => match S.transfers.find id with
      | none => .fail (transferNotFound id)
      | some t => match refusal t.status with
        | some e => .fail e
        | none => do
          onInventory (execute t)
          saveTransfer id (next t)
          return next t := by
  refine congrArg (Proc.step _) (funext fun S => ?_)
  dsimp only [Proc.bind]
  cases S.transfers.find id <;> rfl

theorem execute_eq_transition (id : ℕ) (c : EndCall) :
    ∃ refusal body next, c.execute id = transition id refusal body next ∧
      ∃ e, refusal .received = some e ∧ refusal .cancelled = some e := by
  cases c with
  | receive now actorId note =>
    rw [EndCall.execute]
    exact ⟨_, _, _, rfl, _, rfl, rfl⟩
  | cancel now actorId note =>
    rw [EndCall.execute]
    exact ⟨_, _, _, rfl, _, rfl, rfl⟩

theorem execute_ne_done (c : EndCall) : c.execute id ≠ .done a := by
  obtain ⟨refusal, body, next, heq, -⟩ := execute_eq_transition id c
  rw [heq]
  exact nofun

/-- The transfer has been received or cancelled. -/
def TransferStore.Closed (id : ℕ) (S : TransferStore) : Prop :=
  S.statusOf id = some .received ∨ S.statusOf id = some .cancelled

theorem execute_of_closed (c : EndCall) (hclosed : S.Closed id) (seen : List TransferStore) :
    (c.execute id).resume (S :: seen) ≠ .done a := by
  obtain ⟨refusal, body, next, heq, e, hreceived, hcancelled⟩ := execute_eq_transition id c
  unfold TransferStore.Closed TransferStore.statusOf at hclosed
  rw [heq, transition_eq, resume_step_cons]
  cases hfind : S.transfers.find id with
  | none => exact fun h => nomatch (resume_fail _ seen).symm.trans h
  | some t =>
    rw [hfind, Option.map_some, Option.some_inj, Option.some_inj] at hclosed
    have hrefused : refusal t.status = some e := by
      rcases hclosed with hstatus | hstatus
      · rw [hstatus, hreceived]
      · rw [hstatus, hcancelled]
    simp only [hrefused]
    exact nofun

theorem closed_of_execute (h : (c.execute id).run S = (.ok a, S')) : S'.Closed id := by
  cases c with
  | receive now actorId note =>
    obtain ⟨t, s', hfind, -, -, -, rfl⟩ := receiveWithin_eq_ok h
    refine .inl ?_
    unfold TransferStore.statusOf
    rw [find_set_self hfind]
    rfl
  | cancel now actorId note =>
    obtain ⟨t, s', hfind, -, -, rfl⟩ := cancelWithin_eq_ok h
    refine .inr ?_
    unfold TransferStore.statusOf
    rw [find_set_self hfind]
    rfl

/-! ### The movements of a receipt -/

theorem countP_receivedMovements_le (id : ℕ) (t : BranchTransfer) (actorId : Option ℕ)
    (note : Option String) (k : InventoryKey) (items : List BranchTransferItem) :
    ((items.flatMap (receivedMovements id t actorId note)).countP fun m => m.key = k) ≤
      (items.map BranchTransferItem.productId).count k.productId := by
  induction items with
  | nil => exact le_rfl
  | cons item items ih =>
    have hitem : ((receivedMovements id t actorId note item).countP fun m => m.key = k) ≤
        [item.productId].count k.productId := by
      have hout : (outParams id t actorId note item).movement.key = originKey t item := rfl
      have hin : (inParams id t actorId note item).movement.key = destinationKey t item := rfl
      have hne : originKey t item ≠ destinationKey t item :=
        fun h => t.branches_ne (congrArg InventoryKey.branchId h)
      unfold receivedMovements
      by_cases horigin : originKey t item = k
      · have hdestination : destinationKey t item ≠ k := fun h => hne (horigin.trans h.symm)
        have hproduct : item.productId = k.productId := congrArg InventoryKey.productId horigin
        simp [hout, hin, horigin, hdestination, hproduct]
      · by_cases hdestination : destinationKey t item = k
        · have hproduct : item.productId = k.productId := congrArg InventoryKey.productId hdestination
          simp [hout, hin, horigin, hdestination, hproduct]
        · simp [hout, hin, horigin, hdestination]
    rw [List.flatMap_cons, List.countP_append, List.map_cons, ← List.singleton_append, List.count_append]
    omega

/-- A call that succeeds alone moves each item at most once and releases what was set aside. -/
theorem moves_of_execute (hfind : S.transfers.find id = some t) (h : (c.execute id).run S = (.ok a, S')) :
    ∃ movements, S'.inventory.movements = S.inventory.movements ++ movements ∧
      (∀ k, (movements.countP fun m => m.key = k) ≤ 1) ∧
      ∀ k, S'.inventory.outboundAt k = S.inventory.outboundAt k - t.reserved k := by
  cases c with
  | receive now actorId note =>
    obtain ⟨t', s', hfind', hstatus, -, hloop, rfl⟩ := receiveWithin_eq_ok h
    rw [hfind] at hfind'
    cases hfind'
    have hmoves : Moves S.inventory s' (t.shipped (receivedTransfer now actorId note t))
        ((receivedTransfer now actorId note t).reserved - t.reserved)
        (t.items.flatMap (receivedMovements id t actorId note)) := received_moves hstatus hloop
    refine ⟨_, hmoves.movements_eq, fun k => ?_, fun k => ?_⟩
    · have hle := countP_receivedMovements_le id t actorId note k t.items
      have hone := List.nodup_iff_count_le_one.mp t.items_nodup k.productId
      omega
    · have hreleased : (receivedTransfer now actorId note t).reserved = 0 := if_neg nofun
      have hk := hmoves.outboundAt_apply k
      rw [hreleased, zero_sub, Pi.neg_apply] at hk
      show s'.outboundAt k = _
      omega
  | cancel now actorId note =>
    obtain ⟨t', s', hfind', -, hrelease, rfl⟩ := cancelWithin_eq_ok h
    rw [hfind] at hfind'
    cases hfind'
    have hmoves := releaseItems_moves hrelease
    refine ⟨[], hmoves.movements_eq, fun k => Nat.zero_le _, fun k => ?_⟩
    have hk := hmoves.outboundAt_apply k
    rw [Pi.neg_apply] at hk
    show s'.outboundAt k = _
    omega

/-- The inventory is `s`, and the transfer is not under way. -/
def Untouched (id : ℕ) (s : InventoryStore) (S : TransferStore) : Prop :=
  S.inventory = s ∧ S.statusOf id ≠ some .dispatched

theorem Untouched.set {s : InventoryStore} (h : Untouched id s S) {t' : BranchTransfer}
    (hstatus : t'.status ≠ .dispatched) : Untouched id s { S with transfers := S.transfers.set id t' } := by
  refine ⟨h.1, ?_⟩
  unfold TransferStore.statusOf
  cases hfind : S.transfers.find id with
  | none =>
    rw [find_set_of_eq_none hfind]
    exact nofun
  | some t =>
    rw [find_set_self hfind]
    exact fun heq => hstatus (Option.some.inj heq)

theorem untouched_of_pending (c : EndCall) {s : InventoryStore} {seen : List TransferStore}
    (hseen : ∀ S ∈ seen, Untouched id s S) (hS : Untouched id s S) :
    Untouched id s ((c.execute id).pending seen S) := by
  cases seen with
  | nil =>
    rw [pending_nil]
    exact hS
  | cons S₁ seen =>
    have hstatus := (hseen S₁ List.mem_cons_self).2
    unfold TransferStore.statusOf at hstatus
    cases c with
    | receive now actorId note =>
      rw [EndCall.execute, receiveWithin, transition_eq, pending]
      cases hfind : S₁.transfers.find id with
      | none => exact hS
      | some t =>
        rw [hfind, Option.map_some, ne_eq, Option.some_inj] at hstatus
        simp only [ne_eq, hstatus, not_false_eq_true, if_true]
        exact hS
    | cancel now actorId note =>
      rw [EndCall.execute, cancelWithin, transition_eq, pending]
      cases hfind : S₁.transfers.find id with
      | none => exact hS
      | some t =>
        rw [hfind, Option.map_some, ne_eq, Option.some_inj] at hstatus
        by_cases hrequested : t.status = .requested
        · -- nothing is set aside, so only the new row is kept back
          have hcancelled : (cancelledTransfer now actorId note t).status ≠ .dispatched := nofun
          simp only [releaseItems, hrequested, ne_eq, not_true_eq_false, false_and, if_false]
          cases seen with
          | nil => exact hS
          | cons S₂ seen => exact hS.set hcancelled
        · simp only [ne_eq, hrequested, hstatus, not_false_eq_true, and_self, if_true]
          exact hS

end OneCall

/-! ### Every schedule -/

/-- The transactions of the calls on the transfer `id`. -/
abbrev endCalls {ι : Type} (id : ℕ) (calls : ι → EndCall) (i : ι) : TransferProc BranchTransfer :=
  (calls i).execute id

def TransferStore.IsDispatched (id : ℕ) (S : TransferStore) : Prop :=
  S.statusOf id = some .dispatched
deriving Decidable

section Schedules

variable {ι : Type} [DecidableEq ι] {id : ℕ} {calls : ι → EndCall} {S₀ : TransferStore}
  {t : BranchTransfer}

theorem one_commit_of_dispatched (hfind : S₀.transfers.find id = some t)
    (hstatus : t.status = .dispatched) (schedule : List ι)
    (hvalid : Run.Along (Sessions.step (endCalls id calls))
      (Sessions.Validates (endCalls id calls) (TransferStore.IsDispatched id)) (Sessions.init S₀)
      schedule) :
    let S := Run.after (Sessions.step (endCalls id calls)) (Sessions.init S₀) schedule
    (S.store = S₀ ∧ ∀ i, ¬ S.Committed (endCalls id calls) i) ∨
      ∃ i a, S.Committed (endCalls id calls) i ∧ (endCalls id calls i).run S₀ = (.ok a, S.store) := by
  refine Sessions.one_commit (fun i a => execute_ne_done (calls i))
    (fun i s seen a hclosed => execute_of_closed (calls i) hclosed seen)
    (fun i a s hrun => closed_of_execute hrun) ?_ ?_ schedule hvalid
  · rintro s (hclosed | hclosed) hdispatched
    · exact nomatch hclosed.symm.trans hdispatched
    · exact nomatch hclosed.symm.trans hdispatched
  · show S₀.statusOf id = some .dispatched
    unfold TransferStore.statusOf
    rw [hfind, Option.map_some, hstatus]

theorem untouched_of_not_dispatched (hfind : S₀.transfers.find id = some t)
    (hstatus : t.status ≠ .dispatched) (schedule : List ι) :
    Untouched id S₀.inventory (Run.after (Sessions.step (endCalls id calls)) (Sessions.init S₀) schedule).store := by
  refine Sessions.store_invariant (endCalls id calls)
    (fun i seen hseen s hs => untouched_of_pending (calls i) hseen hs) ⟨rfl, ?_⟩ schedule
  unfold TransferStore.statusOf
  rw [hfind, Option.map_some, ne_eq, Option.some_inj]
  exact hstatus

end Schedules

/-- **A transfer moves stock at most once** in every schedule of concurrent receipts and
cancellations in which a call that has loaded the transfer as dispatched commits only while it still
is: at most one movement out of the origin and one into the destination is recorded for each item, and
what the transfer has set aside is released once, by the first call that commits. -/
theorem moves_once {ι : Type} [DecidableEq ι] (id : ℕ) (calls : ι → EndCall) (S₀ : TransferStore)
    (t : BranchTransfer) (hfind : S₀.transfers.find id = some t) (schedule : List ι)
    (hvalid : Run.Along (Sessions.step (endCalls id calls))
      (Sessions.Validates (endCalls id calls) (TransferStore.IsDispatched id)) (Sessions.init S₀)
      schedule) :
    let S := Run.after (Sessions.step (endCalls id calls)) (Sessions.init S₀) schedule
    (∃ movements, S.store.inventory.movements = S₀.inventory.movements ++ movements ∧
      ∀ item ∈ t.items, (movements.countP fun m => m.key = originKey t item) ≤ 1 ∧
        (movements.countP fun m => m.key = destinationKey t item) ≤ 1) ∧
    ((∃ i, S.Committed (endCalls id calls) i) →
      ∀ k, S.store.inventory.outboundAt k = S₀.inventory.outboundAt k - t.reserved k) ∧
    ((∀ i, ¬ S.Committed (endCalls id calls) i) → ∀ k, S.store.inventory.outboundAt k = S₀.inventory.outboundAt k) := by
  intro S
  by_cases hstatus : t.status = .dispatched
  · rcases one_commit_of_dispatched hfind hstatus schedule hvalid with
      ⟨hstore, hnone⟩ | ⟨i, a, hcommitted, hrun⟩
    · refine ⟨⟨[], ?_, fun _ _ => ⟨Nat.zero_le _, Nat.zero_le _⟩⟩, ?_, ?_⟩
      · rw [hstore, List.append_nil]
      · rintro ⟨i, hi⟩
        exact absurd hi (hnone i)
      · intro _ k
        rw [hstore]
    · obtain ⟨movements, hmovements, hcount, hreleased⟩ := moves_of_execute hfind hrun
      refine ⟨⟨movements, hmovements, fun item _ => ⟨hcount _, hcount _⟩⟩, fun _ => hreleased, ?_⟩
      intro hnone
      exact absurd hcommitted (hnone i)
  · have huntouched : S.store.inventory = S₀.inventory :=
      (untouched_of_not_dispatched hfind hstatus schedule).1
    have hreserved : ∀ k, t.reserved k = 0 := by
      intro k
      unfold BranchTransfer.reserved
      rw [if_neg hstatus]
      rfl
    refine ⟨⟨[], ?_, fun _ _ => ⟨Nat.zero_le _, Nat.zero_le _⟩⟩, fun _ k => ?_, fun _ k => ?_⟩
    · rw [huntouched, List.append_nil]
    · rw [huntouched, hreserved, sub_zero]
    · rw [huntouched]

/-- Four units of the product, from the first branch to the second. -/
def fourUnits : CreateBranchTransferDto where
  fromBranchId := 1
  toBranchId := 2
  items := [⟨7, 4, none, by decide⟩]

def twoDispatched : TransferStore :=
  Run.after TransferCall.step noTransfers
    [.create 0 fourUnits none {}, .create 0 fourUnits none {},
      .dispatch 0 1 none none fun _ _ => [], .dispatch 0 2 none none fun _ _ => []]

def cancelAndReceive : Fin 2 → EndCall
  | 0 => .cancel 0 none none
  | 1 => .receive 0 none none

/-- A cancellation that commits before a receipt loads the transfer. -/
theorem moves_once_cancel :
    Run.Along (Sessions.step (endCalls 1 cancelAndReceive))
      (Sessions.Validates (endCalls 1 cancelAndReceive) (TransferStore.IsDispatched 1))
      (Sessions.init twoDispatched) (List.replicate 9 0 ++ [1, 1]) ∧
    ∃ t, twoDispatched.transfers.find 1 = some t ∧ ∀ k,
      (Run.after (Sessions.step (endCalls 1 cancelAndReceive)) (Sessions.init twoDispatched)
        (List.replicate 9 0 ++ [1, 1])).store.inventory.outboundAt k =
        twoDispatched.inventory.outboundAt k - t.reserved k := by
  have hvalid : Run.Along (Sessions.step (endCalls 1 cancelAndReceive))
      (Sessions.Validates (endCalls 1 cancelAndReceive) (TransferStore.IsDispatched 1))
      (Sessions.init twoDispatched) (List.replicate 9 0 ++ [1, 1]) := by decide +kernel
  have hcommitted : (Run.after (Sessions.step (endCalls 1 cancelAndReceive))
      (Sessions.init twoDispatched) (List.replicate 9 0 ++ [1, 1])).Committed
        (endCalls 1 cancelAndReceive) 0 := by decide +kernel
  have hsome : (twoDispatched.transfers.find 1).isSome = true := by decide
  obtain ⟨t, hfind⟩ := Option.isSome_iff_exists.mp hsome
  have h := moves_once 1 cancelAndReceive twoDispatched t hfind _ hvalid
  exact ⟨hvalid, t, hfind, h.2.1 ⟨0, hcommitted⟩⟩

/-- Both receipts load the dispatched transfer, and both commit: four units are sent twice, and what
the other transfer has set aside is released as well. -/
theorem moved_twice :
    let calls : Fin 2 → EndCall := fun _ => .receive 0 none none
    let S := Run.after (Sessions.step (endCalls 1 calls)) (Sessions.init twoDispatched)
      ([1] ++ List.replicate 23 0 ++ List.replicate 22 1)
    (S.store.inventory.movements.countP fun m =>
      m.sourceReferenceId = some 1 ∧ m.key = ⟨1, 7⟩) = 2 ∧
    (S.store.inventory.movements.countP fun m =>
      m.sourceReferenceId = some 1 ∧ m.key = ⟨2, 7⟩) = 2 ∧
    twoDispatched.inventory.outboundAt ⟨1, 7⟩ = 8 ∧ S.store.inventory.outboundAt ⟨1, 7⟩ = 0 := by
  decide +kernel

end SuuqBackend
