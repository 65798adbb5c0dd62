import SuuqBackend.Lib.ReadCommitted
import SuuqBackend.Branches.Laws.InventoryConcurrency
import SuuqBackend.PurchaseOrders.Laws.Receipts

/-!
# Receipts of one order beside each other

A receipt loads the order with its items before its transaction begins, adds to the counters in memory,
and writes them back whole.  Nothing is locked, so by the time it commits the counters that it has
loaded may be out of date: the movements of both receipts stay, the counters of one are lost.
-/

namespace SuuqBackend

open Proc InventoryLedger InventoryRepository InventoryStore PurchaseOrders PurchaseOrderRepository
  PurchaseOrderStore

/-! ### What the ledger writes -/

def SameMovements (s s' : InventoryStore) : Prop := s'.movements = s.movements

theorem acts_saveInventory {R : InventoryStore → InventoryStore → Prop} {k : InventoryKey}
    {e : InventoryEntity} (hrefl : ∀ s, R s s) (hput : ∀ s : InventoryStore, R s (s.putRow k e.row)) :
    (saveInventory k e).Acts R := by
  rw [← bind_pure (saveInventory k e)]
  exact acts_saveInventory_bind hrefl (fun s _ => hput s) (acts_pure _)

theorem acts_adjustInboundOpenPo (p : AdjustProjectionParams) : (adjustInboundOpenPo p).Acts SameMovements := by
  have hrefl : ∀ s, SameMovements s s := fun _ => rfl
  unfold adjustInboundOpenPo ensureBranchAndProduct adjustProjectionBucket
  refine Acts.bind ?_ fun _ => ?_
  · exact (acts_read hrefl _).bind fun _ => (acts_read hrefl _).bind fun _ =>
      (acts_throwIf _ _).bind fun _ => acts_throwIf _ _
  · rw [loadOrCreateInventory_bind]
    refine fun s => ⟨hrefl s, (acts_throwIf _ _).bind fun _ => ?_⟩
    refine (acts_saveInventory hrefl fun _ => rfl).bind fun _ => ?_
    exact (acts_syncProductStockQuantity _ hrefl fun s q v => movements_setStockQuantity ..).bind fun _ => acts_pure _

theorem acts_syncInboundOpenPoProjection (previous order : PurchaseOrder) :
    (syncInboundOpenPoProjection previous order).Acts SameMovements := by
  unfold syncInboundOpenPoProjection
  generalize insertionOrder _ = keys
  induction keys with
  | nil => trivial
  | cons p keys ih =>
    refine Acts.bind ?_ fun _ => ih
    unfold syncInboundOpenPo
    dsimp only
    split_ifs
    · trivial
    · exact (acts_adjustInboundOpenPo _).bind fun _ => acts_pure _

theorem delivers_recordMovement {now : Date} {p : RecordMovementParams} (hd : p.quantityDelta ≠ 0)
    (w : InventoryStore → InventoryStore) :
    Delivers (fun _ w' => ∀ t, (w' t).movements = (w t).movements ++ [p.movement]) (recordMovement now p true) w := by
  have hrefl : ∀ s, SameMovements s s := fun _ => rfl
  have htrans : ∀ s s' s'', SameMovements s s' → SameMovements s' s'' → SameMovements s s'' :=
    fun _ _ _ h h' => Eq.trans h' h
  rw [recordMovement_eq_steps hd]
  intro s₁ s₂
  refine delivers_failIf fun _ => delivers_failIf fun _ s => ?_
  dsimp only
  rw [recordLoaded_eq_steps]
  refine delivers_failIf fun _ => ?_
  refine (Acts.delivers hrefl htrans (acts_saveInventory hrefl fun _ => rfl)).bind fun saved w₁ h₁ => ?_
  refine Delivers.bind (Q := fun _ w₂ => ∀ t, (w₂ t).movements = (w t).movements ++ [p.movement])
    (delivers_write fun t => ?_) fun _ w₂ h₂ => ?_
  · show (w₁ t).movements ++ [p.movement] = _
    rw [h₁ t]
    rfl
  · refine (Acts.delivers hrefl htrans (acts_syncProductStockQuantity _ hrefl fun s q v =>
      movements_setStockQuantity ..)).bind fun _ w₃ h₃ => delivers_pure fun t => ?_
    rw [h₃ t, h₂ t]

section Receipt

variable {now : Date} {id : ℕ} {order : PurchaseOrder} {actorId : Option ℕ} {reason : Option String}

theorem delivers_recordReceiptLine (line : ReceiptLineSummary) (w : InventoryStore → InventoryStore) :
    Delivers (fun _ w' => ∀ t, (w' t).movements =
        (w t).movements ++ lineMovements now id order actorId reason line)
      (recordReceiptLine now id order actorId reason line) w := by
  unfold recordReceiptLine lineMovements
  split_ifs with hzero
  · exact delivers_pure fun t => (List.append_nil _).symm
  · have hd : (receiptMovement now id order actorId reason line).quantityDelta ≠ 0 :=
      Int.natCast_ne_zero.mpr hzero
    exact (delivers_recordMovement hd w).bind fun _ w' h => delivers_pure h

variable (lines : List ReceiptLineSummary)

theorem delivers_persistReceiptSideEffects (w : InventoryStore → InventoryStore) :
    Delivers (fun _ w' => ∀ t, (w' t).movements =
        (w t).movements ++ receiptMovements now id order actorId reason lines)
      (persistReceiptSideEffects now id order lines actorId reason) w := by
  refine delivers_forEach (R := fun lines (s s' : InventoryStore) => s'.movements =
    s.movements ++ receiptMovements now id order actorId reason lines) ?_ ?_ lines
  · intro s
    exact (List.append_nil _).symm
  · intro line lines w
    refine (delivers_recordReceiptLine line w).mono fun _ w' h t t' hrest => ?_
    have hsplit : receiptMovements now id order actorId reason (line :: lines) =
        lineMovements now id order actorId reason line ++
          receiptMovements now id order actorId reason lines := List.flatMap_cons
    rw [hrest, h t, hsplit, List.append_assoc]

/-! ### What a receipt writes -/

/-- The writes `w'` follow `w` by saving the order and appending the movements. -/
def WritesReceipt (id : ℕ) (order : PurchaseOrder) (movements : List StockMovement)
    (w w' : PurchaseOrderStore → PurchaseOrderStore) : Prop :=
  ∀ t, (w' t).orders = (w t).orders.set id order ∧ (w' t).inventory.movements = (w t).inventory.movements ++ movements

theorem delivers_persistReceipt (metadata : Option String) (w : PurchaseOrderStore → PurchaseOrderStore) :
    Delivers (fun _ w' => ∀ t, (w' t).orders = (w t).orders ∧ (w' t).inventory.movements =
        (w t).inventory.movements ++ receiptMovements now id order actorId reason lines)
      (persistReceipt now id order lines actorId reason metadata) w := by
  refine (delivers_zoom (delivers_persistReceiptSideEffects lines _)).bind fun _ w₁ h₁ => ?_
  obtain ⟨u, hu, hw₁⟩ := h₁
  have hmovements : ∀ t, (w₁ t).orders = (w t).orders ∧ (w₁ t).inventory.movements =
      (w t).inventory.movements ++ receiptMovements now id order actorId reason lines := by
    intro t
    rw [hw₁ t]
    exact ⟨rfl, hu _⟩
  intro s
  -- what is left inserts the event and posts to the journal
  have hacts : (postReceiptEventToLedger now id order lines (receiptEventKey s.receiptEvents.next)
      now).Acts fun t t' => t'.orders = t.orders ∧ t'.inventory = t.inventory := by
    unfold postReceiptEventToLedger
    dsimp only
    split_ifs
    · trivial
    · exact (acts_zoom (fun _ _ => ⟨rfl, rfl⟩) _).bind fun _ => acts_pure _
  refine (hacts.delivers (fun _ => ⟨rfl, rfl⟩)
    (fun _ _ _ h h' => ⟨h'.1.trans h.1, h'.2.trans h.2⟩)).mono fun _ w₂ h₂ t => ?_
  obtain ⟨horders, hinventory⟩ := h₂ t
  rw [horders, hinventory]
  exact hmovements t

theorem delivers_saveOrder_sync (previous : PurchaseOrder) {rest : Unit → PurchaseOrderProc Unit}
    {movements : List StockMovement} {w : PurchaseOrderStore → PurchaseOrderStore}
    (hrest : ∀ w₁, Delivers (fun _ w' => ∀ t, (w' t).orders = (w₁ t).orders ∧
      (w' t).inventory.movements = (w₁ t).inventory.movements ++ movements) (rest ()) w₁) :
    Delivers (fun _ w' => WritesReceipt id order movements w w')
      (saveOrder id order >>= fun _ =>
        Proc.zoom PurchaseOrderStore.inventoryLens (syncInboundOpenPoProjection previous order) >>= rest) w := by
  intro s
  have hsync := Acts.delivers (R := SameMovements) (w := fun s => s) (fun _ => rfl)
    (fun _ _ _ h h' => Eq.trans h' h) (acts_syncInboundOpenPoProjection previous order)
  refine (delivers_zoom hsync).bind fun _ w₁ h₁ => ?_
  obtain ⟨u, hu, hw₁⟩ := h₁
  refine (hrest w₁).mono fun _ w₂ h₂ t => ?_
  obtain ⟨horders, hmovements⟩ := h₂ t
  rw [horders, hmovements, hw₁ t]
  refine ⟨rfl, ?_⟩
  show (u (w t).inventory).movements ++ movements = _
  rw [hu (w t).inventory]

end Receipt

/-! ### Receipts -/

/-- A receipt of an order: `recordReceiptEvent`, or `updateStatus` to `RECEIVED`. -/
inductive ReceiptCall where
  | recordReceiptEvent (now : Date) (dto : RecordPurchaseOrderReceiptDto)
      (actor : PurchaseOrderActorContext)
  | updateStatus (now : Date) (dto : RecordPurchaseOrderReceiptDto)
      (actor : PurchaseOrderActorContext)

namespace ReceiptCall

/-- The request of a status update to `RECEIVED`. -/
def toReceived (dto : RecordPurchaseOrderReceiptDto) : UpdatePurchaseOrderStatusDto :=
  { toRecordPurchaseOrderReceiptDto := dto, status := .received }

/-- The branch that the caller is limited to. -/
def branchId : ReceiptCall → Option ℕ
  | recordReceiptEvent _ _ actor => actor.branchId
  | updateStatus _ _ actor => actor.branchId

/-- What the call does with the order that it has loaded, up to the end of its transaction. -/
def write (id : ℕ) (order : PurchaseOrder) : ReceiptCall → PurchaseOrderProc Unit
  | recordReceiptEvent now dto actor => do
    let (received, receiptSummary) ← prepareReceipt now order dto actor
    persistReceiptUpdate now id order received receiptSummary dto actor
  | updateStatus now dto actor => do
    match ← prepareStatusUpdate now id order (toReceived dto) actor with
    | none => return
    | some next => persistStatusUpdate now id order next (toReceived dto) actor

/-- The call up to the end of its transaction.  The load is outside the transaction and the checks
touch no table, so what is kept back are the writes of the transaction. -/
def execute (id : ℕ) (c : ReceiptCall) : PurchaseOrderProc Unit :=
  findOneById id c.branchId >>= fun order => c.write id order

/-- The call makes a receipt of the order that it has loaded. -/
def Receives (order : PurchaseOrder) : ReceiptCall → Prop
  | recordReceiptEvent .. => True
  | updateStatus .. => order.status ≠ .received

instance (order : PurchaseOrder) (c : ReceiptCall) : Decidable (c.Receives order) := by
  cases c <;> unfold Receives <;> infer_instance

variable (id : ℕ) (c : ReceiptCall)

/-- **What a receipt that has ended writes**, whatever it has read: the step of the order that it has
loaded, and the movements of that step. -/
theorem delivers_write (order : PurchaseOrder) (c : ReceiptCall) (s : PurchaseOrderStore)
    (w : PurchaseOrderStore → PurchaseOrderStore) :
    Delivers (fun _ w' => (¬ c.Receives order ∧ w' = w) ∨ c.Receives order ∧
        ∃ order' lines now actorId reason, OrderStep order order' (some lines) ∧
          WritesReceipt id order' (receiptMovements now id order' actorId reason lines) w w') (c.write id order) w := by
  cases c with
  | recordReceiptEvent now dto actor =>
    have hstill : Still (prepareReceipt now order dto actor) :=
      (still_throwIf _ _).bind fun _ => (still_throwIf _ _).bind fun _ =>
        (still_ofExcept _).bind fun _ => still_pure _
    refine Delivers.bind (Q := fun a w' => w' = w ∧ OrderStep order a.1 (some a.2))
      (hstill.delivers s fun a hrun => ⟨rfl, (prepareReceipt_eq_ok hrun).2⟩) ?_
    rintro ⟨order', lines⟩ w' ⟨rfl, hstep⟩
    exact (delivers_saveOrder_sync order fun w₁ => delivers_persistReceipt lines dto.metadata w₁).mono
      fun _ w₂ h₂ => .inr ⟨trivial, order', lines, now, actor.id, dto.reason, hstep, h₂⟩
  | updateStatus now dto actor =>
    unfold write prepareStatusUpdate
    dsimp only
    by_cases hsame : order.status = (toReceived dto).status
    · -- the order has the status, and nothing is written
      rw [if_pos hsame]
      exact .inl ⟨not_not.mpr hsame, rfl⟩
    · rw [if_neg hsame]
      refine Delivers.bind (Q := fun next w' => w' = w ∧ ∃ order', next = some order' ∧
        order'.status = .received ∧ OrderStep order order' (receiptOf order')) ?_ ?_
      · refine (delivers_throwIf (Q := fun _ w' => w' = w ∧ order.status = .shipped) fun hmem =>
          ⟨rfl, shipped_of_received_mem (not_not.mp hmem)⟩).bind fun _ w₁ h₁ => ?_
        refine (delivers_throwIf (Q := fun _ w' => w' = w ∧ order.status = .shipped) fun _ => h₁).bind fun _ w₂ h₂ => ?_
        refine (delivers_ofExcept (Q := fun order' w' => (w' = w ∧ order.status = .shipped) ∧
          transitionedOrder now (toReceived dto) actor order = .ok order')
          fun order' horder' => ⟨h₂, horder'⟩).bind fun order' w₃ h₃ => delivers_pure ?_
        obtain ⟨⟨rfl, hshipped⟩, hnext⟩ := h₃
        obtain ⟨hstatus, hstep⟩ := transitionedOrder_received hshipped rfl hnext
        refine ⟨rfl, order', rfl, hstatus, ?_⟩
        rw [receiptOf, if_pos hstatus]
        exact hstep
      · rintro next w' ⟨rfl, order', rfl, hstatus, hstep⟩
        rw [receiptOf, if_pos hstatus] at hstep
        refine (delivers_saveOrder_sync order fun w₁ => ?_).mono fun _ w₂ h₂ =>
          .inr ⟨hsame, order', _, now, actor.id, dto.reason, hstep, h₂⟩
        exact delivers_persistReceipt _ dto.metadata w₁

theorem execute_eq_step :
    c.execute id = .step (fun s => s) fun s => match s.orders.find id with
      | none => .fail (purchaseOrderNotFound id)
      | some order =>
        if ¬ InScope c.branchId order then .fail (purchaseOrderNotFound id) else c.write id order := by
  refine congrArg (Proc.step _) (funext fun s => ?_)
  dsimp only [Proc.bind]
  cases s.orders.find id with
  | none => rfl
  | some order =>
    dsimp only
    unfold Proc.throwIf
    split_ifs <;> rfl

theorem execute_ne_done : c.execute id ≠ .done () := by
  exact nofun

theorem pending_execute {id : ℕ} {c : ReceiptCall} {s : PurchaseOrderStore}
    {seen : List PurchaseOrderStore} (h : (c.execute id).resume (s :: seen) = .done ()) :
    ∃ order, s.orders.find id = some order ∧
      ((¬ c.Receives order ∧ (c.execute id).pending (s :: seen) = fun t => t) ∨ c.Receives order ∧
        ∃ order' lines now actorId reason, OrderStep order order' (some lines) ∧
          WritesReceipt id order' (receiptMovements now id order' actorId reason lines) (fun t => t)
            ((c.execute id).pending (s :: seen))) := by
  rw [execute_eq_step, resume_step_cons] at h
  rw [execute_eq_step, pending]
  cases hfind : s.orders.find id with
  | none =>
    rw [hfind] at h
    cases h
  | some order =>
    rw [hfind] at h
    dsimp only at h ⊢
    split_ifs at h ⊢ with hscope
    · exact ⟨order, rfl, (delivers_write id order c s fun t => t).pending h⟩
    · cases h

end ReceiptCall

/-! ### Every schedule -/

/-- The receipts of the order `id`. -/
abbrev receiptCalls {ι : Type} (id : ℕ) (calls : ι → ReceiptCall) (i : ι) : PurchaseOrderProc Unit :=
  (calls i).execute id

def PurchaseOrder.ordered (order : PurchaseOrder) : ℤ :=
  (order.items.map fun item => (item.orderedQuantity : ℤ)).sum

/-- The movements of the order are what its items have received, and no more than was ordered. -/
def Agrees (id : ℕ) (s : PurchaseOrderStore) : Prop :=
  ∀ order, s.orders.find id = some order →
    movedFor s.inventory.movements id = order.received ∧ order.received ≤ order.ordered

/-- Until its first receipt the order has received nothing. -/
def Fresh (id : ℕ) (s : PurchaseOrderStore) : Prop :=
  ∀ order, s.orders.find id = some order →
    order.status ∉ [PurchaseOrderStatus.received, .reconciled] →
      order.receivedAt = none ∧ ∀ item ∈ order.items, item.receivedQuantity = 0

def loadedOrder {ι : Type} (id : ℕ) (S : Sessions ι PurchaseOrderStore) (i : ι) : Option PurchaseOrder :=
  (S.seen i).head?.bind fun s => s.orders.find id

/-- The receipt may commit only while the order has received what it had when the receipt loaded it. -/
def Current {ι : Type} (id : ℕ) (calls : ι → ReceiptCall) (S : Sessions ι PurchaseOrderStore) (i : ι) : Prop :=
  S.Commits (receiptCalls id calls) i → ∀ loaded ∈ loadedOrder id S i, (calls i).Receives loaded →
    ∀ stored ∈ S.store.orders.find id, loaded.received = stored.received
deriving Decidable

theorem received_le_ordered {order : PurchaseOrder} (h : ∀ item ∈ order.items,
    item.receivedQuantity + item.shortageQuantity + item.damagedQuantity ≤ item.orderedQuantity) :
    order.received ≤ order.ordered := by
  apply List.sum_le_sum
  intro item hitem
  have hwithin := h item hitem
  omega

section Commit

variable {id : ℕ} {s t t' : PurchaseOrderStore} {loaded stored order : PurchaseOrder}
  {lines : List ReceiptLineSummary} {now : Date} {actorId : Option ℕ} {reason : Option String}

/-- **A receipt that commits** leaves movements and counters in agreement exactly when the order has
received what it had when the receipt loaded it. -/
theorem agrees_commit_iff (hstep : OrderStep loaded order (some lines)) (hloaded : Fresh id s)
    (hfind : s.orders.find id = some loaded) (hstored : t.orders.find id = some stored)
    (hagrees : Agrees id t) (horders : t'.orders = t.orders.set id order)
    (hmovements : t'.inventory.movements = t.inventory.movements ++
      receiptMovements now id order actorId reason lines) : Agrees id t' ↔ loaded.received = stored.received := by
  obtain ⟨-, hreceived, hwithin, -⟩ := hstep.received_eq (hloaded loaded hfind)
  have hbefore := (hagrees stored hstored).1
  have hfound : t'.orders.find id = some order := by
    rw [horders]
    exact SerialTable.find_set_self hstored order
  have hafter : movedFor t'.inventory.movements id =
      stored.received + (lines.map fun line => (line.receivedQuantity : ℤ)).sum := by
    rw [hmovements, movedFor_append, movedFor_receiptMovements, if_pos rfl, hbefore]
  constructor
  · intro h
    have hsame := (h order hfound).1
    omega
  · intro hsame order' hfind'
    rw [hfound] at hfind'
    cases hfind'
    exact ⟨by omega, received_le_ordered hwithin⟩

theorem fresh_commit (hstep : OrderStep loaded order (some lines)) (hloaded : Fresh id s)
    (hfind : s.orders.find id = some loaded) (hstored : t.orders.find id = some stored)
    (horders : t'.orders = t.orders.set id order) : Fresh id t' := by
  obtain ⟨hstatus, -⟩ := hstep.received_eq (hloaded loaded hfind)
  intro order' hfind' hnot
  rw [horders, SerialTable.find_set_self hstored] at hfind'
  cases hfind'
  rw [hstatus] at hnot
  exact absurd (by decide) hnot

end Commit

section Schedules

variable {ι : Type} [DecidableEq ι] {id : ℕ} {calls : ι → ReceiptCall}

/-- The committed store and the stores that were loaded. -/
structure Kept (id : ℕ) (S : Sessions ι PurchaseOrderStore) : Prop where
  agrees : Agrees id S.store
  fresh : Fresh id S.store
  loaded : ∀ i s seen, S.seen i = s :: seen → Fresh id s

variable {S : Sessions ι PurchaseOrderStore}

omit [DecidableEq ι] in
theorem Kept.commit (hS : Kept id S) {i : ι} (hleft : S.left (receiptCalls id calls) i = .done ()) :
    Fresh id (S.view (receiptCalls id calls) i) ∧
      (Agrees id (S.view (receiptCalls id calls) i) ↔ ∀ loaded ∈ loadedOrder id S i,
        (calls i).Receives loaded → ∀ stored ∈ S.store.orders.find id, loaded.received = stored.received) := by
  unfold Sessions.left at hleft
  unfold Sessions.view loadedOrder
  cases hseen : S.seen i with
  | nil =>
    rw [hseen] at hleft
    exact absurd hleft (ReceiptCall.execute_ne_done id (calls i))
  | cons s seen =>
    rw [hseen] at hleft
    have hloaded := hS.loaded i s seen hseen
    obtain ⟨loaded, hfind, hwrites⟩ := ReceiptCall.pending_execute hleft
    have hhead : ((s :: seen).head?.bind fun s => s.orders.find id) = some loaded := hfind
    rw [hhead]
    rcases hwrites with ⟨hnot, hpending⟩ | ⟨hreceives, order, lines, now, actorId, reason, hstep, hwrites⟩
    · rw [hpending]
      refine ⟨hS.fresh, fun _ loaded' hmem hreceives => ?_, fun _ => hS.agrees⟩
      cases hmem
      exact absurd hreceives hnot
    · obtain ⟨horders, hmovements⟩ := hwrites S.store
      cases hstored : S.store.orders.find id with
      | none =>
        have hnone : ((receiptCalls id calls i).pending (s :: seen) S.store).orders.find id = none := by
          rw [horders]
          exact SerialTable.find_set_of_eq_none hstored order
        refine ⟨fun order' hfind' => ?_, fun _ _ _ _ _ hmem => ?_, fun _ order' hfind' => ?_⟩
        · rw [hnone] at hfind'
          cases hfind'
        · cases hmem
        · rw [hnone] at hfind'
          cases hfind'
      | some stored =>
        refine ⟨fresh_commit hstep hloaded hfind hstored horders, ?_⟩
        rw [agrees_commit_iff hstep hloaded hfind hstored hS.agrees horders hmovements]
        constructor
        · intro hsame loaded' hmem _ stored' hmem'
          cases hmem
          cases hmem'
          exact hsame
        · intro h
          exact h loaded rfl hreceives stored rfl

theorem Kept.step (hS : Kept id S) {i : ι}
    (hcurrent : Current id calls S i) : Kept id (S.step (receiptCalls id calls) i) := by
  rcases S.step_cases (receiptCalls id calls) i with hstep | ⟨hrunning, hcases⟩
  · rw [hstep]
    exact hS
  rcases hcases with ⟨act, next, -, hstep⟩ | ⟨⟨⟩, hleft, hstep⟩ | ⟨e, -, hstep⟩
  · rw [hstep]
    refine ⟨hS.agrees, hS.fresh, fun j s seen hseen => ?_⟩
    rcases Sessions.head_seen_act _ hseen with ⟨seen', hold⟩ | hs
    · exact hS.loaded j s seen' hold
    · rw [hs]
      exact hS.fresh
  · rw [hstep]
    obtain ⟨hfresh, hagrees⟩ := hS.commit hleft
    exact ⟨hagrees.mpr (hcurrent ⟨hrunning, (), hleft⟩), hfresh, hS.loaded⟩
  · rw [hstep]
    exact ⟨hS.agrees, hS.fresh, hS.loaded⟩

end Schedules

/-- **Receipts of one order beside each other.**  Any calls leave an order `id`; then any number of
receipts of it run beside each other.  As long as a receipt commits only while the order has received
what it had when the receipt loaded it, the movements of the order are what its items have received, and
no more than was ordered.  A commit after which this is so has met the condition. -/
theorem received_once (S₀ : PurchaseOrderStore) (hnothing : S₀.NothingReceived)
    (before : List PurchaseOrderCall) {ι : Type} [DecidableEq ι] (id : ℕ) (calls : ι → ReceiptCall)
    (schedule : List ι)
    (hcurrent : Run.Along (Sessions.step (receiptCalls id calls)) (Current id calls)
      (Sessions.init (Run.after PurchaseOrderCall.step S₀ before)) schedule) :
    let S := Run.after (Sessions.step (receiptCalls id calls))
      (Sessions.init (Run.after PurchaseOrderCall.step S₀ before)) schedule
    (∀ order, S.store.orders.find id = some order →
      movedFor S.store.inventory.movements id = (order.items.map fun item => (item.receivedQuantity : ℤ)).sum ∧
      movedFor S.store.inventory.movements id ≤ (order.items.map fun item => (item.orderedQuantity : ℤ)).sum) ∧
    ∀ i, S.Commits (receiptCalls id calls) i →
      (Agrees id (S.step (receiptCalls id calls) i).store ↔ Current id calls S i) := by
  intro S
  have htally : (Run.after PurchaseOrderCall.step S₀ before).ReceiptsTally :=
    Run.after_invariant (fun S c hS => (c.change S).receiptsTally hS) hnothing.receiptsTally before
  have hinit : Kept id
      (Sessions.init (Run.after PurchaseOrderCall.step S₀ before) : Sessions ι PurchaseOrderStore) := by
    constructor
    · intro order hfind
      have htallies := htally.known id order hfind
      exact ⟨htallies.moved, received_le_ordered htallies.within⟩
    · intro order hfind
      exact htally.fresh id order hfind
    · intro i s seen hseen
      cases hseen
  have hS : Kept id S :=
    Run.after_induction (fun S i hS hi => hS.step hi) hinit hcurrent
  refine ⟨fun order hfind => ?_, fun i hcommits => ?_⟩
  · obtain ⟨hmoved, hwithin⟩ := hS.agrees order hfind
    exact ⟨hmoved, hmoved.trans_le hwithin⟩
  · obtain ⟨hrunning, ⟨⟩, hleft⟩ := hcommits
    have hstep : S.step (receiptCalls id calls) i = S.commit (receiptCalls id calls) i := by
      unfold Sessions.step
      rw [hrunning, hleft]
      rfl
    rw [hstep]
    exact (hS.commit hleft).2.trans ⟨fun h _ => h, fun h => h ⟨hrunning, (), hleft⟩⟩

def receiptsOf (receivedQuantity shortageQuantity : ℕ) : Fin 2 → ReceiptCall :=
  fun _ => .recordReceiptEvent 0 (receiptOfUnits receivedQuantity shortageQuantity) administrator

/-- Six of ten units have been received; a receipt reports that the other four are missing. -/
theorem received_once_shortage :
    let before := shippedOrder ++ [.recordReceiptEvent 0 1 (receiptOfUnits 6 0) administrator]
    let S := Run.after (Sessions.step (receiptCalls 1 (receiptsOf 0 4)))
      (Sessions.init (Run.after PurchaseOrderCall.step noPurchaseOrders before)) (List.replicate 10 0)
    S.Committed (receiptCalls 1 (receiptsOf 0 4)) 0 ∧
    ∃ order, S.store.orders.find 1 = some order ∧ movedFor S.store.inventory.movements 1 =
      (order.items.map fun item => (item.receivedQuantity : ℤ)).sum := by
  intro before S
  have hcurrent : Run.Along (Sessions.step (receiptCalls 1 (receiptsOf 0 4)))
      (Current 1 (receiptsOf 0 4))
      (Sessions.init (Run.after PurchaseOrderCall.step noPurchaseOrders before))
      (List.replicate 10 0) := by decide +kernel
  have h := received_once noPurchaseOrders noPurchaseOrders_nothingReceived before 1
    (receiptsOf 0 4) (List.replicate 10 0) hcurrent
  have hsome : (S.store.orders.find 1).isSome = true := by decide +kernel
  obtain ⟨order, hfind⟩ := Option.isSome_iff_exists.mp hsome
  exact ⟨by decide +kernel, order, hfind, (h.1 order hfind).1⟩

/-- A second order of the product has been submitted, so that what is on order covers both receipts. -/
def secondOrder : List PurchaseOrderCall :=
  [.create 1 tenUnits, .updateStatus 0 2 { status := .submitted } administrator]

/-- **Both receipts load the shipped order, and both commit**: twelve units are moved for an order of
ten, and its item has received six. -/
theorem received_twice :
    let S := Run.after (Sessions.step (receiptCalls 1 (receiptsOf 6 0)))
      (Sessions.init (Run.after PurchaseOrderCall.step noPurchaseOrders (shippedOrder ++ secondOrder)))
      ([1] ++ List.replicate 20 0 ++ List.replicate 19 1)
    (∀ i, S.Committed (receiptCalls 1 (receiptsOf 6 0)) i) ∧
    movedFor S.store.inventory.movements 1 = 12 ∧
    (S.store.orders.find 1).map PurchaseOrder.received = some 6 ∧
    (S.store.orders.find 1).map PurchaseOrder.ordered = some 10 := by
  decide +kernel

end SuuqBackend
