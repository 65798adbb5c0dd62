import SuuqBackend.Lib.Lists
import SuuqBackend.PurchaseOrders.Laws.PurchaseOrders

/-!
# What has been received

A receipt is written four times: in the counters of the items, in the lines of its event, as stock
movements and as quantities on hand.  `Tallies` says of an order that the first three agree and stay
within what was ordered.

* `OrderStep.received_eq`, `OrderStep.tallies`: a receipt adds the same amount to each of them.  A receipt that sets the counters
  instead of adding to them is only made of an order that has received nothing.
* `receipts_conserve`: it holds in every state of every run, and a call that throws changes nothing.
-/

namespace SuuqBackend

open PurchaseOrders PurchaseOrderStore SerialTable

def receivedOf (lines : List ReceiptLineSummary) (itemId : ℕ) : ℤ :=
  groupSum ReceiptLineSummary.itemId (fun line => (line.receivedQuantity : ℤ)) lines itemId

/-- The quantities of the receipt movements that reference an order. -/
def movedFor (movements : List StockMovement) (purchaseOrderId : ℕ) : ℤ :=
  ((movements.filter fun m => m.movementType = .purchaseReceipt ∧ m.sourceType = "PURCHASE_ORDER" ∧
    m.sourceReferenceId = some purchaseOrderId).map StockMovement.quantityDelta).sum

def PurchaseOrder.received (order : PurchaseOrder) : ℤ :=
  (order.items.map fun item => (item.receivedQuantity : ℤ)).sum

namespace PurchaseOrderStore

def receivedByEvents (s : PurchaseOrderStore) (purchaseOrderId itemId : ℕ) : ℤ :=
  s.receiptEvents.total fun event =>
    if event.purchaseOrderId = purchaseOrderId then receivedOf event.receiptLines itemId else 0

/-- The records of what was received of the order agree. -/
structure Tallies (s : PurchaseOrderStore) (id : ℕ) (order : PurchaseOrder) : Prop where
  within : ∀ item ∈ order.items,
    item.receivedQuantity + item.shortageQuantity + item.damagedQuantity ≤ item.orderedQuantity
  events : ∀ item ∈ order.items, (item.receivedQuantity : ℤ) = s.receivedByEvents id item.id
  moved : movedFor s.inventory.movements id = order.received


structure NothingReceived (s : PurchaseOrderStore) : Prop where
  not_received : ∀ id order, s.orders.find id = some order → order.receivedAt = none ∧
    ∀ item ∈ order.items, item.receivedQuantity = 0 ∧ item.shortageQuantity = 0 ∧ item.damagedQuantity = 0
  no_events : ∀ id, s.receiptEvents.find id = none
  no_movements : ∀ m ∈ s.inventory.movements, ¬ (m.movementType = .purchaseReceipt ∧ m.sourceType = "PURCHASE_ORDER")

/-- The records agree for every order.  Until its first receipt an order has received nothing, and
nothing is recorded of ids that are not in use. -/
structure ReceiptsTally (s : PurchaseOrderStore) : Prop where
  known : ∀ id order, s.orders.find id = some order → s.Tallies id order
  fresh : ∀ id order, s.orders.find id = some order →
    order.status ∉ [PurchaseOrderStatus.received, .reconciled] →
      order.receivedAt = none ∧ ∀ item ∈ order.items, item.receivedQuantity = 0
  unknown : ∀ id, s.orders.find id = none →
    movedFor s.inventory.movements id = 0 ∧ ∀ itemId, s.receivedByEvents id itemId = 0

theorem Tallies.congr {s s' : PurchaseOrderStore} {id : ℕ} {order : PurchaseOrder} (h : s.Tallies id order)
    (hmoved : movedFor s'.inventory.movements id = movedFor s.inventory.movements id)
    (hevents : ∀ itemId, s'.receivedByEvents id itemId = s.receivedByEvents id itemId) : s'.Tallies id order where
  within := h.within
  events item hitem := (h.events item hitem).trans (hevents item.id).symm
  moved := hmoved.trans h.moved

theorem NothingReceived.receiptsTally {s : PurchaseOrderStore} (h : s.NothingReceived) : s.ReceiptsTally := by
  have hmoved : ∀ id, movedFor s.inventory.movements id = 0 := by
    intro id
    have hfilter : (s.inventory.movements.filter fun m => m.movementType = .purchaseReceipt ∧
        m.sourceType = "PURCHASE_ORDER" ∧ m.sourceReferenceId = some id) = [] := by
      rw [List.filter_eq_nil_iff]
      intro m hm hreceipt
      have hboth := of_decide_eq_true hreceipt
      exact h.no_movements m hm ⟨hboth.1, hboth.2.1⟩
    rw [movedFor, hfilter, List.map_nil, List.sum_nil]
  have hevents : ∀ id itemId, s.receivedByEvents id itemId = 0 := by
    intro id itemId
    apply total_eq_zero
    intro eventId event hfind
    rw [h.no_events] at hfind
    cases hfind
  constructor
  · intro id order hfind
    have hitems := (h.not_received id order hfind).2
    constructor
    · intro item hitem
      obtain ⟨hreceived, hshortage, hdamaged⟩ := hitems item hitem
      omega
    · intro item hitem
      rw [hevents, (hitems item hitem).1]
      rfl
    · rw [hmoved]
      symm
      apply List.sum_eq_zero
      intro x hx
      obtain ⟨item, hitem, rfl⟩ := List.mem_map.mp hx
      rw [(hitems item hitem).1]
      rfl
  · intro id order hfind _
    obtain ⟨hreceivedAt, hitems⟩ := h.not_received id order hfind
    exact ⟨hreceivedAt, fun item hitem => (hitems item hitem).1⟩
  · intro id _
    exact ⟨hmoved id, hevents id⟩

end PurchaseOrderStore

/-! ### The records of one receipt -/

theorem movedFor_append (movements movements' : List StockMovement) (id : ℕ) :
    movedFor (movements ++ movements') id = movedFor movements id + movedFor movements' id := by
  unfold movedFor
  rw [List.filter_append, List.map_append, List.sum_append]

section Receipt

variable (now : Date) (id : ℕ) (order : PurchaseOrder) (actorId : Option ℕ) (reason : Option String)

theorem movedFor_lineMovements (line : ReceiptLineSummary) (id' : ℕ) :
    movedFor (lineMovements now id order actorId reason line) id' =
      if id = id' then (line.receivedQuantity : ℤ) else 0 := by
  unfold lineMovements
  split_ifs with hzero hid hid
  · rw [hzero]
    rfl
  · rfl
  · subst hid
    simp [movedFor, receiptMovement, RecordMovementParams.movement]
  · simp [movedFor, receiptMovement, RecordMovementParams.movement, hid]

theorem movedFor_receiptMovements (lines : List ReceiptLineSummary) (id' : ℕ) :
    movedFor (receiptMovements now id order actorId reason lines) id' =
      if id = id' then (lines.map fun line => (line.receivedQuantity : ℤ)).sum else 0 := by
  induction lines with
  | nil => rw [List.map_nil, List.sum_nil, ite_self]; rfl
  | cons line lines ih =>
    have hsplit : receiptMovements now id order actorId reason (line :: lines) =
        lineMovements now id order actorId reason line ++
          receiptMovements now id order actorId reason lines := List.flatMap_cons
    rw [hsplit, movedFor_append, movedFor_lineMovements, List.map_cons, List.sum_cons]
    split_ifs <;> omega

end Receipt

variable {item : PurchaseOrderItem} {incremental : Bool}

theorem receivedOf_summary (order : PurchaseOrder) (lines : List PurchaseOrderReceiptLineDto) (hitem : item ∈ order.items) :
    receivedOf (order.items.map (receiptSummaryOf lines)) item.id =
      ((receiptSummaryOf lines item).receivedQuantity : ℤ) := by
  have hids : (order.items.map (receiptSummaryOf lines)).map ReceiptLineSummary.itemId =
      order.items.map PurchaseOrderItem.id := by
    rw [List.map_map]
    rfl
  have hnodup := order.items_nodup
  rw [← hids] at hnodup
  exact groupSum_of_nodup hnodup (List.mem_map_of_mem hitem)

theorem receivedQuantity_receivedItem
    (h : incremental = false → item.receivedQuantity = 0) (line : ReceiptLineSummary) :
    ((receivedItem incremental line item).receivedQuantity : ℤ) = item.receivedQuantity + line.receivedQuantity := by
  cases incremental with
  | true => exact Int.natCast_add ..
  | false =>
    rw [h rfl]
    exact (zero_add _).symm

theorem received_map_receivedItem {items : List PurchaseOrderItem}
    (h : incremental = false → ∀ item ∈ items, item.receivedQuantity = 0)
    (summary : PurchaseOrderItem → ReceiptLineSummary) :
    ((items.map fun item => receivedItem incremental (summary item) item).map fun item =>
        (item.receivedQuantity : ℤ)).sum =
      (items.map fun item => (item.receivedQuantity : ℤ)).sum +
        ((items.map summary).map fun line => (line.receivedQuantity : ℤ)).sum := by
  rw [List.map_map, List.map_map, ← List.sum_map_add]
  congr 1
  apply List.map_congr_left
  intro item hitem
  exact receivedQuantity_receivedItem (fun hfalse => h hfalse item hitem) (summary item)

/-! ### The invariant -/

section Step

variable {s s' : PurchaseOrderStore} {id : ℕ} {previous order : PurchaseOrder}
  {receipt : Option (List ReceiptLineSummary)}

theorem SavedOrder.movedFor_eq (h : SavedOrder s id previous order receipt s') (id' : ℕ) :
    movedFor s'.inventory.movements id' = movedFor s.inventory.movements id' +
      if id = id' then ((receipt.getD []).map fun line => (line.receivedQuantity : ℤ)).sum else 0 := by
  cases h with
  | advanced hreceives =>
    show movedFor _ id' = movedFor s.inventory.movements id' + if id = id' then 0 else 0
    rw [hreceives.movements_eq, List.append_nil, ite_self, add_zero]
  | received hreceives =>
    rw [hreceives.movements_eq, movedFor_append, movedFor_receiptMovements]
    rfl

theorem SavedOrder.receivedByEvents_eq (h : SavedOrder s id previous order receipt s') (id' itemId : ℕ) :
    s'.receivedByEvents id' itemId = s.receivedByEvents id' itemId +
      if id = id' then receivedOf (receipt.getD []) itemId else 0 := by
  cases h with
  | advanced =>
    show s.receivedByEvents id' itemId = s.receivedByEvents id' itemId + if id = id' then 0 else 0
    rw [ite_self, add_zero]
  | received =>
    rw [add_comm]
    exact total_add _ _ _

/-- A receipt adds what its lines say to the counters, and stays within what was ordered. -/
theorem OrderStep.received_eq {lines : List ReceiptLineSummary} (h : OrderStep previous order (some lines))
    (hfresh : previous.status ∉ [PurchaseOrderStatus.received, .reconciled] →
      previous.receivedAt = none ∧ ∀ item ∈ previous.items, item.receivedQuantity = 0) :
    order.status = .received ∧
      order.received = previous.received + (lines.map fun line => (line.receivedQuantity : ℤ)).sum ∧
      (∀ item ∈ order.items, item.receivedQuantity + item.shortageQuantity + item.damagedQuantity ≤
        item.orderedQuantity) ∧
      ∀ item ∈ order.items, ∃ item₀ ∈ previous.items, item.id = item₀.id ∧
        (item.receivedQuantity : ℤ) = item₀.receivedQuantity + receivedOf lines item.id := by
  cases h with
  | @receive incremental dtoLines _ hfirst hstatus _ hitems hfits =>
    have hzero : incremental = false → ∀ item ∈ previous.items, item.receivedQuantity = 0 := by
      intro hfalse
      have hshipped := (hfirst hfalse).1
      exact (hfresh (by rw [hshipped]; decide)).2
    refine ⟨hstatus, ?_, fun item hitem => not_lt.mp (hfits item hitem), fun item hitem => ?_⟩
    · rw [PurchaseOrder.received, PurchaseOrder.received, hitems, received_map_receivedItem hzero]
    · rw [hitems] at hitem
      obtain ⟨item₀, hitem₀, rfl⟩ := List.mem_map.mp hitem
      refine ⟨item₀, hitem₀, rfl, ?_⟩
      rw [receivedQuantity_receivedItem fun hfalse => hzero hfalse item₀ hitem₀]
      have hreceived := receivedOf_summary previous dtoLines hitem₀
      exact congrArg _ hreceived.symm
  | repeatReceipt hshipped hreceived =>
    -- an order that has not been received has no date of a receipt
    rw [(hfresh (by rw [hshipped]; decide)).1] at hreceived
    cases hreceived

theorem OrderStep.tallies (h : OrderStep previous order receipt)
    (hsaved : SavedOrder s id previous order receipt s') (htallies : s.Tallies id previous)
    (hfresh : previous.status ∉ [PurchaseOrderStatus.received, .reconciled] →
      previous.receivedAt = none ∧ ∀ item ∈ previous.items, item.receivedQuantity = 0) : s'.Tallies id order := by
  have hmoved := hsaved.movedFor_eq id
  have hevents := hsaved.receivedByEvents_eq id
  simp only [if_true] at hmoved hevents
  cases receipt with
  | none =>
    have hitems : order.items = previous.items := by
      cases h with
      | advance _ _ hitems => exact hitems
    have hsame : s'.Tallies id previous := by
      apply htallies.congr
      · rw [hmoved]
        exact add_zero _
      · intro itemId
        rw [hevents]
        exact add_zero _
    exact
      { within := hitems ▸ hsame.within
        events := hitems ▸ hsame.events
        moved := by rw [hsame.moved, PurchaseOrder.received, PurchaseOrder.received, hitems] }
  | some lines =>
    obtain ⟨-, hreceived, hwithin, hitems⟩ := h.received_eq hfresh
    refine ⟨hwithin, fun item hitem => ?_, ?_⟩
    · obtain ⟨item₀, hitem₀, hid, hquantity⟩ := hitems item hitem
      rw [hquantity, hevents, htallies.events item₀ hitem₀, hid, Option.getD_some]
    · rw [hmoved, htallies.moved, hreceived, Option.getD_some]

theorem OrderStep.fresh (h : OrderStep previous order receipt)
    (hstatus : order.status ∉ [PurchaseOrderStatus.received, .reconciled])
    (hfresh : previous.status ∉ [PurchaseOrderStatus.received, .reconciled] →
      previous.receivedAt = none ∧ ∀ item ∈ previous.items, item.receivedQuantity = 0) :
    order.receivedAt = none ∧ ∀ item ∈ order.items, item.receivedQuantity = 0 := by
  cases h with
  | advance htransition hne hitems _ hreceivedAt =>
    rw [hitems, hreceivedAt]
    apply hfresh
    intro hprevious
    rcases List.mem_pair.mp hprevious with hreceived | hreconciled
    · rw [hreceived] at htransition
      exact hstatus (List.mem_pair.mpr (.inr (List.mem_singleton.mp htransition)))
    · rw [hreconciled] at htransition
      cases htransition
  | receive _ _ hreceived =>
    rw [hreceived] at hstatus
    exact absurd (by decide) hstatus
  | repeatReceipt _ _ hreceived =>
    rw [hreceived] at hstatus
    exact absurd (by decide) hstatus

end Step

variable {s s' : PurchaseOrderStore}

theorem receivedByEvents_set {eventId : ℕ}
    {event event' : PurchaseOrderReceiptEvent} (hfind : s.receiptEvents.find eventId = some event)
    (hid : event'.purchaseOrderId = event.purchaseOrderId)
    (hlines : event'.receiptLines = event.receiptLines) (id itemId : ℕ) :
    { s with receiptEvents := s.receiptEvents.set eventId event' }.receivedByEvents id itemId =
      s.receivedByEvents id itemId := by
  unfold receivedByEvents
  rw [total_set _ hfind, hlines]
  omega

theorem PurchaseOrderStore.ReceiptsTally.congr (hs : s.ReceiptsTally)
    (horders : s'.orders = s.orders) (hinventory : s'.inventory = s.inventory)
    (hevents : ∀ id itemId, s'.receivedByEvents id itemId = s.receivedByEvents id itemId) : s'.ReceiptsTally := by
  constructor
  · intro id order hfind
    rw [horders] at hfind
    exact (hs.known id order hfind).congr (by rw [hinventory]) (hevents id)
  · intro id order hfind
    rw [horders] at hfind
    exact hs.fresh id order hfind
  · intro id hfind
    rw [horders] at hfind
    rw [hinventory]
    exact ⟨(hs.unknown id hfind).1, fun itemId => (hevents id itemId).trans ((hs.unknown id hfind).2 _)⟩

theorem receivedQuantity_newItems {firstId : ℕ} {dto : CreatePurchaseOrderDto}
    {item : PurchaseOrderItem} (h : item ∈ newItems firstId dto) :
    item.receivedQuantity = 0 ∧ item.shortageQuantity = 0 ∧ item.damagedQuantity = 0 := by
  obtain ⟨entry, -, rfl⟩ := List.mem_map.mp h
  exact ⟨rfl, rfl, rfl⟩

theorem PurchaseOrderChange.receiptsTally {c : PurchaseOrderCall}
    (h : PurchaseOrderChange s c s') (hs : s.ReceiptsTally) : s'.ReceiptsTally := by
  cases h with
  | nothing => exact hs
  | @created now dto =>
    obtain ⟨hmoved, hevents⟩ := hs.unknown s.orders.next (find_next _)
    -- the new order is under an id of which nothing is recorded
    have hnew : s.Tallies s.orders.next (newOrder now s.nextItemId dto) := by
      constructor
      · intro item hitem
        obtain ⟨hreceived, hshortage, hdamaged⟩ := receivedQuantity_newItems hitem
        omega
      · intro item hitem
        rw [hevents, (receivedQuantity_newItems hitem).1]
        rfl
      · rw [hmoved]
        symm
        apply List.sum_eq_zero
        intro x hx
        obtain ⟨item, hitem, rfl⟩ := List.mem_map.mp hx
        rw [(receivedQuantity_newItems hitem).1]
        rfl
    constructor
    · intro id order hfind
      rcases eq_or_find_of_find_add hfind with ⟨rfl, rfl⟩ | hfind
      · exact hnew.congr rfl fun _ => rfl
      · exact (hs.known id order hfind).congr rfl fun _ => rfl
    · intro id order hfind
      rcases eq_or_find_of_find_add hfind with ⟨rfl, rfl⟩ | hfind
      · exact fun _ => ⟨rfl, fun item hitem => (receivedQuantity_newItems hitem).1⟩
      · exact hs.fresh id order hfind
    · intro id hfind
      have hid : id ≠ s.orders.next := by
        rintro rfl
        cases (find_add_self _ _).symm.trans hfind
      rw [find_add_of_ne _ _ hid] at hfind
      exact hs.unknown id hfind
  | @saved c id previous order receipt s' hprevious hstep _ hsaved =>
    have hother : ∀ id' ≠ id, movedFor s'.inventory.movements id' = movedFor s.inventory.movements id' ∧
        ∀ itemId, s'.receivedByEvents id' itemId = s.receivedByEvents id' itemId := by
      intro id' hid
      constructor
      · rw [hsaved.movedFor_eq, if_neg hid.symm, add_zero]
      · intro itemId
        rw [hsaved.receivedByEvents_eq, if_neg hid.symm, add_zero]
    constructor
    · intro id' order' hfind
      by_cases hid : id' = id
      · subst hid
        cases (hsaved.find_eq hprevious).symm.trans hfind
        exact hstep.tallies hsaved (hs.known _ _ hprevious) (hs.fresh _ _ hprevious)
      · rw [hsaved.orders_eq, find_set_of_ne _ _ hid] at hfind
        exact (hs.known id' order' hfind).congr (hother id' hid).1 (hother id' hid).2
    · intro id' order' hfind hstatus
      by_cases hid : id' = id
      · subst hid
        cases (hsaved.find_eq hprevious).symm.trans hfind
        exact hstep.fresh hstatus (hs.fresh _ _ hprevious)
      · rw [hsaved.orders_eq, find_set_of_ne _ _ hid] at hfind
        exact hs.fresh id' order' hfind hstatus
    · intro id' hfind
      have hid : id' ≠ id := by
        rintro rfl
        cases (hsaved.find_eq hprevious).symm.trans hfind
      rw [hsaved.orders_eq, find_set_of_ne _ _ hid] at hfind
      rw [(hother id' hid).1]
      exact ⟨(hs.unknown id' hfind).1,
        fun itemId => ((hother id' hid).2 itemId).trans ((hs.unknown id' hfind).2 itemId)⟩
  | eventSaved hfind hid hlines => exact hs.congr rfl rfl (receivedByEvents_set hfind hid hlines)
  | resolved hresolves =>
    exact hs.congr rfl rfl (receivedByEvents_set hresolves.loads.2.1 rfl rfl)

/-! ### Runs -/

/-- **Receipts conserve goods, over whole runs.**  After any calls from tables in which nothing has been
received, no item accounts for more than was ordered of it, its counter is what the receipt events say,
and the movements of an order add up to the counters of its items.  A call that throws changes
nothing. -/
theorem receipts_conserve (S₀ : PurchaseOrderStore) (hnothing : S₀.NothingReceived)
    (calls : List PurchaseOrderCall) :
    let S := Run.after PurchaseOrderCall.step S₀ calls
    (∀ id order, S.orders.find id = some order →
      (∀ item ∈ order.items,
        item.receivedQuantity + item.shortageQuantity + item.damagedQuantity ≤ item.orderedQuantity ∧
        (item.receivedQuantity : ℤ) = S.receivedByEvents id item.id) ∧
      movedFor S.inventory.movements id = (order.items.map fun item => (item.receivedQuantity : ℤ)).sum) ∧
    ∀ c : PurchaseOrderCall, ¬ c.Succeeds S → c.step S = S := by
  intro S
  have htally : S.ReceiptsTally :=
    Run.after_invariant (fun S c hS => (c.change S).receiptsTally hS) hnothing.receiptsTally calls
  refine ⟨fun id order hfind => ?_, fun c hfails => c.step_eq_of_not_succeeds hfails⟩
  have htallies := htally.known id order hfind
  exact ⟨fun item hitem => ⟨htallies.within item hitem, htallies.events item hitem⟩, htallies.moved⟩

theorem noPurchaseOrders_nothingReceived : noPurchaseOrders.NothingReceived := by
  constructor
  · intro id order hfind
    cases hfind
  · intro id
    rfl
  · intro m hm
    cases hm

/-- Of ten units six are received, and then three with one missing. -/
theorem receipts_conserve_twice :
    let S := Run.after PurchaseOrderCall.step noPurchaseOrders (shippedOrder ++
      [.recordReceiptEvent 0 1 (receiptOfUnits 6 0) administrator,
        .recordReceiptEvent 0 1 (receiptOfUnits 3 1) administrator])
    (∃ order, S.orders.find 1 = some order ∧
      movedFor S.inventory.movements 1 = (order.items.map fun item => (item.receivedQuantity : ℤ)).sum) ∧
    movedFor S.inventory.movements 1 = 9 := by
  intro S
  have h := receipts_conserve noPurchaseOrders noPurchaseOrders_nothingReceived (shippedOrder ++
    [.recordReceiptEvent 0 1 (receiptOfUnits 6 0) administrator,
      .recordReceiptEvent 0 1 (receiptOfUnits 3 1) administrator])
  have hsome : (S.orders.find 1).isSome = true := by decide +kernel
  obtain ⟨order, hfind⟩ := Option.isSome_iff_exists.mp hsome
  exact ⟨⟨order, hfind, (h.1 1 order hfind).2⟩, by decide +kernel⟩

end SuuqBackend
