import SuuqBackend.PurchaseOrders.Laws.PurchaseOrders

/-!
# Reconciled orders

`assertReadyForReconciliation` looks at the receipt events of an order once, when the order enters
`RECONCILED`.  Afterwards no receipt adds an event, and an approval or a force-close leaves no
discrepancy.  A resolution does: it does not look at the status of the order, and it sets the event
back to `RESOLVED` even when it was approved.

* `step_settled_iff`: a call keeps `Settled`, that no event of a reconciled order blocks, exactly when it
  is not such a resolution (`Reopens`).
* `settled_of_no_reopening`: over whole runs.
* `reconciled_reopened`: an approved event of a reconciled order is resolved again.
-/

namespace SuuqBackend

open Proc PurchaseOrders PurchaseOrderStore SerialTable

namespace PurchaseOrderStore

/-- No receipt event of a reconciled order blocks its reconciliation. -/
def Settled (s : PurchaseOrderStore) : Prop :=
  ∀ id order, s.orders.find id = some order → order.status = .reconciled → ∀ event ∈ s.eventsOf id, ¬ Blocks event

theorem mem_eventsOf {s : PurchaseOrderStore} {id : ℕ} {event : PurchaseOrderReceiptEvent} :
    event ∈ s.eventsOf id ↔ ∃ eventId, s.receiptEvents.find eventId = some event ∧ event.purchaseOrderId = id := by
  unfold eventsOf
  rw [Multiset.mem_filter, Multiset.mem_map]
  constructor
  · rintro ⟨⟨⟨eventId, event'⟩, hentry, rfl⟩, hid⟩
    exact ⟨eventId, Finmap.lookup_eq_some_iff.mpr hentry, hid⟩
  · rintro ⟨eventId, hfind, hid⟩
    exact ⟨⟨⟨eventId, event⟩, Finmap.lookup_eq_some_iff.mp hfind, rfl⟩, hid⟩

end PurchaseOrderStore

def Reopens (s : PurchaseOrderStore) : PurchaseOrderCall → Prop
  | .resolveReceiptEventDiscrepancy _ purchaseOrderId eventId _ _ actor =>
    (∃ order, s.orders.find purchaseOrderId = some order ∧ order.status = .reconciled) ∧
      ∃ event, Resolves s purchaseOrderId eventId actor event
  | _ => False

/-! ### Steps -/

variable {s : PurchaseOrderStore}

variable {eventId : ℕ} {event : PurchaseOrderReceiptEvent} {c : PurchaseOrderCall}

theorem PurchaseOrderStore.Settled.set (hs : s.Settled)
    {event' : PurchaseOrderReceiptEvent} (hfind : s.receiptEvents.find eventId = some event)
    (hid : event'.purchaseOrderId = event.purchaseOrderId)
    (hblocks : ∀ order, s.orders.find event.purchaseOrderId = some order →
      order.status = .reconciled → Blocks event' → Blocks event) :
    Settled { s with receiptEvents := s.receiptEvents.set eventId event' } := by
  intro id order horder hreconciled found hfound hblock
  obtain ⟨foundId, hfoundId, hpurchaseOrderId⟩ := mem_eventsOf.mp hfound
  by_cases hsame : foundId = eventId
  · -- the event that was saved
    subst hsame
    cases (find_set_self hfind event').symm.trans hfoundId
    have horderId : event.purchaseOrderId = id := hid.symm.trans hpurchaseOrderId
    subst horderId
    exact hs _ order horder hreconciled event (mem_eventsOf.mpr ⟨_, hfind, rfl⟩)
      (hblocks order horder hreconciled hblock)
  · have hold : s.receiptEvents.find foundId = some found :=
      (find_set_of_ne _ event' hsame).symm.trans hfoundId
    exact hs id order horder hreconciled found (mem_eventsOf.mpr ⟨foundId, hold, hpurchaseOrderId⟩) hblock

/-- **Every call but a reopening keeps reconciled orders settled.** -/
theorem PurchaseOrderChange.settled {s' : PurchaseOrderStore}
    (h : PurchaseOrderChange s c s') (hc : ¬ Reopens s c) (hs : s.Settled) : s'.Settled := by
  cases h with
  | nothing => exact hs
  | @created now dto =>
    intro id order horder hreconciled
    rcases eq_or_find_of_find_add horder with ⟨rfl, rfl⟩ | hold
    · -- the new order is a draft
      cases hreconciled
    · exact hs id order hold hreconciled
  | @saved c id previous order receipt s' hprevious hstep hready hsaved =>
    intro id' order' horder hreconciled event hevent
    by_cases hid : id' = id
    · subst hid
      cases (hsaved.find_eq hprevious).symm.trans horder
      have hnone : receipt = none := by
        cases hstep with
        | advance => rfl
        | receive _ _ hreceived => rw [hreceived] at hreconciled; cases hreconciled
        | repeatReceipt _ _ hreceived => rw [hreceived] at hreconciled; cases hreconciled
      subst hnone
      cases hsaved
      exact hready hreconciled event hevent
    · rw [hsaved.orders_eq, find_set_of_ne _ _ hid] at horder
      have hold : event ∈ s.eventsOf id' := by
        obtain ⟨eventId, hfind, hpurchaseOrderId⟩ := mem_eventsOf.mp hevent
        cases hsaved with
        | advanced => exact hevent
        | received =>
          rcases eq_or_find_of_find_add hfind with ⟨rfl, rfl⟩ | hold
          · exact absurd hpurchaseOrderId.symm hid
          · exact mem_eventsOf.mpr ⟨eventId, hold, hpurchaseOrderId⟩
      exact hs id' order' horder hreconciled event hold
  | eventSaved hfind hid _ hblocks => exact hs.set hfind hid fun _ _ _ => hblocks
  | @resolved now purchaseOrderId eventId note metadata actor event hresolves =>
    obtain ⟨-, hfind, hid⟩ := hresolves.loads
    refine hs.set hfind rfl fun order horder hreconciled _ => ?_
    subst hid
    exact absurd ⟨⟨order, horder, hreconciled⟩, event, hresolves⟩ hc

theorem run_resolveReceiptEventDiscrepancy {purchaseOrderId : ℕ} {actor : PurchaseOrderActorContext}
    (h : Resolves s purchaseOrderId eventId actor event) (now : Date) (note : String) (metadata : Option String) :
    (resolveReceiptEventDiscrepancy now purchaseOrderId eventId note metadata actor).run s =
      (.ok (resolvedEvent now note metadata actor event), { s with
        receiptEvents := s.receiptEvents.set eventId (resolvedEvent now note metadata actor event) }) := by
  unfold resolveReceiptEventDiscrepancy assertReceiptAcknowledgementRole
  rw [run_throwIf_bind, if_neg (by rw [h.role]; decide),
    run_bind_of_ok (run_findReceiptEventOrThrow h.loads), run_throwIf_bind,
    if_neg (by rw [h.discrepancy]; decide)]
  rfl

theorem not_settled_of_reopens (h : Reopens s c) : ¬ (c.step s).Settled := by
  cases c with
  | resolveReceiptEventDiscrepancy now purchaseOrderId eventId note metadata actor =>
    obtain ⟨⟨order, horder, hreconciled⟩, event, hresolves⟩ := h
    obtain ⟨-, hfind, hid⟩ := hresolves.loads
    have hstep : PurchaseOrderCall.step s
        (.resolveReceiptEventDiscrepancy now purchaseOrderId eventId note metadata actor) =
          { s with
            receiptEvents := s.receiptEvents.set eventId (resolvedEvent now note metadata actor event) } := by
      have hrun := run_resolveReceiptEventDiscrepancy hresolves now note metadata
      unfold PurchaseOrderCall.step PurchaseOrderCall.handler
      rw [run_bind_of_ok hrun]
      rfl
    rw [hstep]
    intro hsettled
    refine hsettled purchaseOrderId order horder hreconciled
      (resolvedEvent now note metadata actor event) (mem_eventsOf.mpr ⟨eventId, ?_, hid⟩) (.inr rfl)
    exact find_set_self hfind _
  | create => exact h.elim
  | recordReceiptEvent => exact h.elim
  | acknowledgeReceiptEvent => exact h.elim
  | approveReceiptEventDiscrepancy => exact h.elim
  | forceCloseReceiptEventDiscrepancy => exact h.elim
  | updateStatus => exact h.elim
  | updateStatusWithManager => exact h.elim
  | updateSupplierStatus => exact h.elim

theorem step_settled_iff (hs : s.Settled) (c : PurchaseOrderCall) : (c.step s).Settled ↔ ¬ Reopens s c := by
  constructor
  · intro hsettled hreopens
    exact not_settled_of_reopens hreopens hsettled
  · intro hc
    exact (c.change s).settled hc hs

/-! ### Runs -/

/-- **Reconciled orders over whole runs.**  As long as no call resolves an event of an order that is
reconciled, every receipt event of a reconciled order has a discrepancy status that
`assertReadyForReconciliation` accepts.  In a state so reached, exactly such a call breaks this. -/
theorem settled_of_no_reopening (S₀ : PurchaseOrderStore) (hsettled : S₀.Settled)
    (calls : List PurchaseOrderCall)
    (hcalls : Run.Along PurchaseOrderCall.step (fun S c => ¬ Reopens S c) S₀ calls) :
    let S := Run.after PurchaseOrderCall.step S₀ calls
    (∀ id order, S.orders.find id = some order → order.status = .reconciled → ∀ event ∈ S.eventsOf id, ¬ Blocks event) ∧
    ∀ c : PurchaseOrderCall, (c.step S).Settled ↔ ¬ Reopens S c := by
  intro S
  have hS : S.Settled :=
    Run.after_induction (fun S c hS hc => (c.change S).settled hc hS) hsettled hcalls
  exact ⟨hS, step_settled_iff hS⟩

theorem noPurchaseOrders_settled : noPurchaseOrders.Settled := by
  intro id order hfind
  cases hfind

/-- Nine of ten units are received; the discrepancy is resolved and approved, and the order is
reconciled. -/
def reconciledOrder : List PurchaseOrderCall :=
  shippedOrder ++
    [.recordReceiptEvent 0 1 (receiptOfUnits 9 1) administrator,
      .resolveReceiptEventDiscrepancy 0 1 1 "a credit note" none administrator,
      .approveReceiptEventDiscrepancy 0 1 1 none administrator, moveTo .reconciled]

theorem not_reopens_of_status {S : PurchaseOrderStore} {now : Date} {purchaseOrderId eventId : ℕ}
    {note : String} {metadata : Option String} {actor : PurchaseOrderActorContext}
    {status : PurchaseOrderStatus} (hstatus : (S.orders.find purchaseOrderId).map PurchaseOrder.status =
      some status) (hne : status ≠ .reconciled) :
    ¬ Reopens S (.resolveReceiptEventDiscrepancy now purchaseOrderId eventId note metadata actor) := by
  rintro ⟨⟨order, horder, hreconciled⟩, -⟩
  rw [horder] at hstatus
  exact hne ((Option.some.inj hstatus).symm.trans hreconciled)

theorem reconciledOrder_along : Run.Along PurchaseOrderCall.step (fun S c => ¬ Reopens S c)
    noPurchaseOrders reconciledOrder := by
  refine ⟨id, id, id, id, id, @not_reopens_of_status _ _ _ _ _ _ _ .received ?_ (by decide), id, id, trivial⟩
  decide +kernel

/-- The order is settled when it has been reconciled. -/
theorem settled_of_no_reopening_reconciled :
    let S := Run.after PurchaseOrderCall.step noPurchaseOrders reconciledOrder
    (S.orders.find 1).map PurchaseOrder.status = some .reconciled ∧
    (∀ id order, S.orders.find id = some order → order.status = .reconciled →
      ∀ event ∈ S.eventsOf id, ¬ Blocks event) := by
  have h := settled_of_no_reopening noPurchaseOrders noPurchaseOrders_settled reconciledOrder reconciledOrder_along
  exact ⟨by decide +kernel, h.1⟩

/-- **An approved event of a reconciled order is resolved again**: its order stays reconciled, although
the event awaits an approval. -/
theorem reconciled_reopened :
    let S := Run.after PurchaseOrderCall.step noPurchaseOrders
      (reconciledOrder ++ [.resolveReceiptEventDiscrepancy 0 1 1 "again" none administrator])
    (S.orders.find 1).map PurchaseOrder.status = some .reconciled ∧
    ∃ event ∈ S.eventsOf 1, Blocks event := by
  decide +kernel

end SuuqBackend
