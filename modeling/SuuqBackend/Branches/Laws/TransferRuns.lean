import SuuqBackend.Branches.Laws.BranchTransfers
import Mathlib.Algebra.BigOperators.Group.Finset.Piecewise

/-!
# Runs of transfer calls

Calls of the transfer service executed one after another, each succeeding or throwing.

* `TransferChange.advances`: a transfer keeps its branches and items and takes the steps of
  `BranchTransferStatus.Next`.
* `transfer_runs`: both after every run, and what a call does to the quantities on hand.
* `stock_conserved`: after every run, received transfers have moved what is on hand, and none is made or lost.
-/

namespace SuuqBackend

open Proc InventoryLedger SerialTable

namespace TransferStore

/-- The quantity of a row that dispatched transfers take from it. -/
def dispatched (S : TransferStore) (k : InventoryKey) : ℤ :=
  S.transfers.total fun t =>
    if t.status = .dispatched ∧ t.fromBranchId = k.branchId then t.quantityOf k.productId else 0

/-- What is set aside at every row is what the dispatched transfers take from it. -/
def Reserves (S : TransferStore) : Prop := ∀ k, S.inventory.outboundAt k = S.dispatched k

structure Idle (S : TransferStore) : Prop where
  outboundAt_eq_zero : ∀ k, S.inventory.outboundAt k = 0
  not_dispatched : ∀ id t, S.transfers.find id = some t → t.status ≠ .dispatched

/-- Every transfer of `S` is in `S'` as it was or after one step, and new ones are requested. -/
structure Advances (S S' : TransferStore) : Prop where
  old : ∀ id t, S.transfers.find id = some t → ∃ t', S'.transfers.find id = some t' ∧ (t' = t ∨ t.StepsTo t')
  new : ∀ id t', S.transfers.find id = none → S'.transfers.find id = some t' → t'.status = .requested

theorem reserved_apply (t : BranchTransfer) (k : InventoryKey) :
    t.reserved k = if t.status = .dispatched ∧ t.fromBranchId = k.branchId then t.quantityOf k.productId else 0 := by
  unfold BranchTransfer.reserved
  by_cases hstatus : t.status = .dispatched
  · simp only [hstatus, if_true, true_and]
    exact outgoing_apply t k
  · simp only [hstatus, if_false, false_and]
    rfl

theorem dispatched_eq_total (S : TransferStore) (k : InventoryKey) :
    S.dispatched k = S.transfers.total fun t => t.reserved k := by
  unfold dispatched
  simp only [reserved_apply]

theorem Idle.reserves {S : TransferStore} (h : S.Idle) : S.Reserves := by
  intro k
  rw [h.outboundAt_eq_zero]
  symm
  apply total_eq_zero
  intro id t hfind
  have hstatus := h.not_dispatched id t hfind
  exact if_neg fun hboth => hstatus hboth.1

end TransferStore

open TransferStore

variable {c : TransferCall} {S S' : TransferStore}

/-- **What is set aside follows the transfers**: a call moves both by the same amount. -/
theorem TransferChange.reserves (h : TransferChange c S S') (hS : S.Reserves) : S'.Reserves := by
  intro k
  have hk := hS k
  rw [dispatched_eq_total] at hk ⊢
  cases h with
  | nothing => exact hk
  | create t hrequested =>
    have hzero : t.reserved k = 0 := by
      unfold BranchTransfer.reserved
      rw [if_neg (by rw [hrequested]; decide)]
      rfl
    rw [total_add, hzero, zero_add]
    exact hk
  | advance hfind _ _ hmoves =>
    rw [total_set _ hfind, hmoves.outboundAt_apply, Pi.sub_apply]
    omega

theorem TransferChange.advances (h : TransferChange c S S') : S.Advances S' := by
  cases h with
  | nothing =>
    refine ⟨fun id t hfind => ⟨t, hfind, .inl rfl⟩, fun id t hnone hsome => ?_⟩
    rw [hnone] at hsome
    cases hsome
  | create t hrequested =>
    constructor
    · intro id t₀ hfind
      exact ⟨t₀, find_add_of_find hfind t, .inl rfl⟩
    · intro id t' hnone hsome
      by_cases hid : id = S.transfers.next
      · subst hid
        rw [find_add_self] at hsome
        cases hsome
        exact hrequested
      · rw [find_add_of_ne _ _ hid, hnone] at hsome
        cases hsome
  | @advance id₀ t₀ t₁ s' movements hfind₀ hsteps _ _ =>
    constructor
    · intro id t hfind
      by_cases hid : id = id₀
      · subst hid
        rw [hfind₀] at hfind
        cases hfind
        exact ⟨t₁, find_set_self hfind₀ t₁, .inr hsteps⟩
      · exact ⟨t, (find_set_of_ne _ t₁ hid).trans hfind, .inl rfl⟩
    · intro id t' hnone hsome
      have hid : id ≠ id₀ := by
        intro hid
        rw [hid, hfind₀] at hnone
        cases hnone
      rw [find_set_of_ne _ t₁ hid, hnone] at hsome
      cases hsome

/-! ### Quantities on hand -/

theorem TransferChange.onHandAt_eq (h : TransferChange c S S') (hc : c.target ≠ .received)
    (k : InventoryKey) : S'.inventory.onHandAt k = S.inventory.onHandAt k := by
  cases h with
  | nothing => rfl
  | create => rfl
  | @advance id t t' s' movements _ _ htarget hmoves =>
    have hshipped : t.shipped t' = 0 := if_neg (by rw [htarget]; exact hc)
    rw [hmoves.onHandAt_apply, hshipped]
    exact add_zero _

def TransferCall.Succeeds (c : TransferCall) (S : TransferStore) : Prop :=
  (c.handler.run S).1.isOk = true
deriving Decidable

theorem TransferCall.step_eq_of_not_succeeds (h : ¬ c.Succeeds S) : c.step S = S := by
  unfold TransferCall.step
  rcases hrun : c.handler.run S with ⟨e | a, S'⟩
  · exact TransferCall.eq_of_run_eq_error hrun
  · exact absurd (by rw [TransferCall.Succeeds, hrun]; rfl) h

/-- **A receipt moves the quantities of its transfer** from the origin to the destination. -/
theorem receive_onHandAt {now : Date} {id : ℕ} {actorId : Option ℕ} {note : Option String}
    (h : (TransferCall.receive now id actorId note).Succeeds S) :
    ∃ t, S.transfers.find id = some t ∧ t.status = .dispatched ∧
      ∀ k, ((TransferCall.receive now id actorId note).step S).inventory.onHandAt k =
        S.inventory.onHandAt k - (if t.fromBranchId = k.branchId then t.quantityOf k.productId else 0)
          + (if t.toBranchId = k.branchId then t.quantityOf k.productId else 0) := by
  unfold TransferCall.Succeeds at h
  unfold TransferCall.step
  rcases hrun : (TransferCall.receive now id actorId note).handler.run S with ⟨e | a, S'⟩
  · rw [hrun] at h
    cases h
  · obtain ⟨t, s', hfind, hstatus, -, hloop, rfl⟩ :=
      receiveWithin_eq_ok (run_transaction_eq_ok.mp hrun)
    refine ⟨t, hfind, hstatus, fun k => ?_⟩
    have hmoves := (receiveItems_moves hloop).onHandAt_apply k
    rw [Pi.sub_apply, outgoing_apply, incoming_apply] at hmoves
    show s'.onHandAt k = _
    omega

/-- **Branch transfers over whole runs.**  After any calls from an idle state, what is set aside at
every row is what the dispatched transfers take from it; the next call moves transfers along the
status graph only; a receipt moves the quantities of its transfer, and every other call leaves the
quantities on hand alone. -/
theorem transfer_runs (S₀ : TransferStore) (hidle : S₀.Idle) (calls : List TransferCall)
    (c : TransferCall) :
    let S := Run.after TransferCall.step S₀ calls
    let S' := TransferCall.step S c
    (∀ k, S.inventory.outboundAt k = S.dispatched k) ∧ S.Advances S' ∧
    (∀ now id actorId note, c = .receive now id actorId note → c.Succeeds S →
      ∃ t, S.transfers.find id = some t ∧ t.status = .dispatched ∧
        ∀ k, S'.inventory.onHandAt k = S.inventory.onHandAt k
          - (if t.fromBranchId = k.branchId then t.quantityOf k.productId else 0)
          + (if t.toBranchId = k.branchId then t.quantityOf k.productId else 0)) ∧
    ((∀ now id actorId note, c = .receive now id actorId note → ¬ c.Succeeds S) →
      ∀ k, S'.inventory.onHandAt k = S.inventory.onHandAt k) := by
  intro S S'
  have hreserves : S.Reserves :=
    Run.after_invariant (fun S c hS => (TransferCall.change S c).reserves hS) hidle.reserves calls
  refine ⟨hreserves, (TransferCall.change S c).advances, ?_, ?_⟩
  · rintro now id actorId note rfl hsucceeds
    exact receive_onHandAt hsucceeds
  · intro hother k
    by_cases hc : c.target = .received
    · -- the call is a receipt that throws
      have hfails : ¬ c.Succeeds S := by
        cases c with
        | receive now id actorId note => exact hother now id actorId note rfl
        | create => cases hc
        | dispatch => cases hc
        | cancel => cases hc
      exact congrArg (fun S => S.inventory.onHandAt k) (TransferCall.step_eq_of_not_succeeds hfails)
    · exact (TransferCall.change S c).onHandAt_eq hc k

def noTransfers : TransferStore := ⟨tenOnHand, SerialTable.empty⟩

theorem noTransfers_idle : noTransfers.Idle := by
  have hten : tenOnHand = recorded 0 (sampleMovement 1 .purchaseReceipt 10) twoBranches := by
    unfold tenOnHand LedgerCall.step LedgerCall.handler
    rw [run_discard, run_recordMovement (by decide) (by decide), if_neg (by decide)]
  constructor
  · intro k
    show (tenOnHand.row k).outboundTransfers = 0
    rw [hten, row_recorded]
    split_ifs
    · rfl
    · rfl
  · intro id t hfind
    cases hfind

/-- Eight units of the product, from the first branch to the second. -/
def eightUnits : CreateBranchTransferDto where
  fromBranchId := 1
  toBranchId := 2
  items := [⟨7, 8, none, by decide⟩]

/-- A transfer of eight is requested and dispatched, and then received. -/
theorem transfer_runs_receive :
    let S := Run.after TransferCall.step noTransfers
      [.create 0 eightUnits none {}, .dispatch 0 1 none none fun _ _ => []]
    (∀ k, S.inventory.outboundAt k = S.dispatched k) ∧
    (TransferCall.receive 0 1 none none).Succeeds S ∧
    ∃ t, S.transfers.find 1 = some t ∧ t.status = .dispatched := by
  have h := transfer_runs noTransfers noTransfers_idle
    [.create 0 eightUnits none {}, .dispatch 0 1 none none fun _ _ => []]
    (.receive 0 1 none none)
  have hok : (TransferCall.receive 0 1 none none).Succeeds
      (Run.after TransferCall.step noTransfers
        [.create 0 eightUnits none {}, .dispatch 0 1 none none fun _ _ => []]) := by decide
  obtain ⟨t, hfind, hstatus, -⟩ := h.2.2.1 0 1 none none rfl hok
  exact ⟨h.1, hok, t, hfind, hstatus⟩

/-! ### Stock is conserved -/

namespace TransferStore

/-- What the received transfers brought to each row, less what they took from it. -/
def received (S : TransferStore) : InventoryKey → ℤ :=
  S.transfers.total fun t => if t.status = .received then t.incoming - t.outgoing else 0

/-- The transfers run between branches of `B`. -/
def Within (S : TransferStore) (B : Finset ℕ) : Prop :=
  ∀ id t, S.transfers.find id = some t → t.fromBranchId ∈ B ∧ t.toBranchId ∈ B

/-- A transfer between two branches of `B` leaves the quantity that `B` holds as it is. -/
theorem sum_received {B : Finset ℕ} (h : S.Within B) (p : ℕ) : ∑ b ∈ B, S.received ⟨b, p⟩ = 0 := by
  let sums := AddMonoidHom.mk' (fun f : InventoryKey → ℤ => ∑ b ∈ B, f ⟨b, p⟩) fun f g => Finset.sum_add_distrib
  show sums S.received = 0
  rw [received, ← total_map]
  refine total_eq_zero fun id t hfind => ?_
  obtain ⟨hfrom, hto⟩ := h id t hfind
  split_ifs
  · show ∑ b ∈ B, (t.incoming - t.outgoing) ⟨b, p⟩ = 0
    simp [incoming_apply, outgoing_apply, hfrom, hto]
  · exact map_zero sums

end TransferStore

open TransferStore

theorem TransferChange.onHandAt_sub_received (h : TransferChange c S S') :
    S'.inventory.onHandAt - S'.received = S.inventory.onHandAt - S.received := by
  cases h with
  | nothing => rfl
  | create t hrequested =>
    unfold received
    rw [total_add, if_neg (by rw [hrequested]; decide), zero_add]
  | @advance id t t' s' movements hfind hsteps _ hmoves =>
    have hold : t.status ≠ .received := fun hreceived => by cases hreceived ▸ hsteps.next
    have hsame : t'.incoming - t'.outgoing = t.incoming - t.outgoing := by
      unfold BranchTransfer.incoming BranchTransfer.outgoing BranchTransfers.destinationKey BranchTransfers.originKey
      rw [hsteps.items_eq, hsteps.toBranchId_eq, hsteps.fromBranchId_eq]
    have hon : s'.onHandAt = S.inventory.onHandAt + t.shipped t' := funext hmoves.onHandAt_apply
    rw [received, total_set _ hfind, if_neg hold, hsame, hon, BranchTransfer.shipped, received]
    abel

/-- **Transfers move stock and neither make nor lose any.** -/
theorem stock_conserved (S₀ : TransferStore) (calls : List TransferCall) :
    let S := Run.after TransferCall.step S₀ calls
    (∀ k, S.inventory.onHandAt k = S₀.inventory.onHandAt k + (S.received k - S₀.received k)) ∧
      ∀ B p, S₀.Within B → S.Within B →
        ∑ b ∈ B, S.inventory.onHandAt ⟨b, p⟩ = ∑ b ∈ B, S₀.inventory.onHandAt ⟨b, p⟩ := by
  intro S
  have hrun := Run.after_invariant
    (P := fun T : TransferStore => T.inventory.onHandAt - T.received = S₀.inventory.onHandAt - S₀.received)
    (fun T c hT => (TransferCall.change T c).onHandAt_sub_received.trans hT) rfl calls
  have hmoved : ∀ k, S.inventory.onHandAt k = S₀.inventory.onHandAt k + (S.received k - S₀.received k) := fun k => by
    have hk : S.inventory.onHandAt k - S.received k = _ := congrFun hrun k
    rw [Pi.sub_apply] at hk
    omega
  refine ⟨hmoved, fun B p h₀ h => ?_⟩
  rw [Finset.sum_congr rfl fun b _ => hmoved ⟨b, p⟩, Finset.sum_add_distrib, Finset.sum_sub_distrib,
    sum_received h, sum_received h₀, sub_self, add_zero]

end SuuqBackend
