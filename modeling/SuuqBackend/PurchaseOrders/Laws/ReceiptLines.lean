import Mathlib.Algebra.Order.BigOperators.Group.List
import Mathlib.Algebra.Order.Monoid.Prod
import SuuqBackend.PurchaseOrders.Laws.PurchaseOrders

/-!
# Receipts line by line

`applyReceiptSideEffects` puts the lines of a receipt in a map by item id and asks the map for every item of the
order.  So of several lines for one item only the last one counts, and a line for no item counts nowhere.

* `quantities_receiptSummaryOf_iff`: when what is recorded of an item is the sum of its lines.
* `receipt_applied_iff`: counters, event and ledger have all lines if and only if every line names an item and all
  lines for an item but the last are empty.
* `receipt_drops_line`: of three and four units of an item only the four are received.
-/

namespace SuuqBackend

open Proc PurchaseOrders SerialTable

/-! ### Quantities -/

/-- Received, short and damaged. -/
def PurchaseOrderReceiptLineDto.quantities (line : PurchaseOrderReceiptLineDto) : ℕ × ℕ × ℕ :=
  (line.receivedQuantity, line.shortageQuantity.getD 0, line.damagedQuantity.getD 0)

def ReceiptLineSummary.quantities (line : ReceiptLineSummary) : ℕ × ℕ × ℕ :=
  (line.receivedQuantity, line.shortageQuantity, line.damagedQuantity)

def PurchaseOrderItem.quantities (item : PurchaseOrderItem) : ℕ × ℕ × ℕ :=
  (item.receivedQuantity, item.shortageQuantity, item.damagedQuantity)

def linesOf (lines : List PurchaseOrderReceiptLineDto) (item : PurchaseOrderItem) : List PurchaseOrderReceiptLineDto :=
  lines.filter fun line => line.itemId = item.id

/-- What all lines for an item say together; without one, that everything outstanding has come. -/
def namedQuantities (lines : List PurchaseOrderReceiptLineDto) (item : PurchaseOrderItem) : ℕ × ℕ × ℕ :=
  if linesOf lines item = [] then (outstandingQuantity item, 0, 0)
  else ((linesOf lines item).map PurchaseOrderReceiptLineDto.quantities).sum

def NamesItem (order : PurchaseOrder) (line : PurchaseOrderReceiptLineDto) : Prop :=
  ∃ item ∈ order.items, item.id = line.itemId
deriving Decidable

/-- No line is lost: each is for an item, and of the lines for an item only the last one says something. -/
def LastLinesSuffice (order : PurchaseOrder) (lines : List PurchaseOrderReceiptLineDto) : Prop :=
  (∀ line ∈ lines, NamesItem order line) ∧
    ∀ item ∈ order.items, ∀ line ∈ (linesOf lines item).dropLast, line.quantities = 0
deriving Decidable

theorem quantities_receiptSummaryOf_iff (lines : List PurchaseOrderReceiptLineDto) (item : PurchaseOrderItem) :
    (receiptSummaryOf lines item).quantities = namedQuantities lines item ↔
      ∀ line ∈ (linesOf lines item).dropLast, line.quantities = 0 := by
  have hline : receiptLineOf lines item.id = (linesOf lines item).getLast? := rfl
  unfold receiptSummaryOf namedQuantities
  rw [hline]
  rcases List.eq_nil_or_concat (linesOf lines item) with hnil | ⟨before, last, hlast⟩
  · rw [hnil]
    simp [ReceiptLineSummary.quantities]
  · rw [List.concat_eq_append] at hlast
    rw [hlast]
    have hlastLine : (last.receivedQuantity, last.shortageQuantity.getD 0, last.damagedQuantity.getD 0) =
        last.quantities := rfl
    have hsum : ((before ++ [last]).map PurchaseOrderReceiptLineDto.quantities).sum =
        (before.map PurchaseOrderReceiptLineDto.quantities).sum + last.quantities := by
      rw [List.map_append, List.sum_append, List.map_singleton, List.sum_singleton]
    simp only [ReceiptLineSummary.quantities, List.getLast?_concat, Option.map_some, Option.bind_some, Option.getD_some,
      List.dropLast_concat, List.append_ne_nil_of_right_ne_nil before (List.cons_ne_nil last []), if_false, hsum,
      hlastLine]
    rw [right_eq_add, List.sum_eq_zero_iff]
    simp

/-! ### The value of the goods -/

variable {order : PurchaseOrder} {now : Date} {id : ℕ} {dto : RecordPurchaseOrderReceiptDto}
  {actor : PurchaseOrderActorContext} {s s' : PurchaseOrderStore} {result : PurchaseOrder}

/-- What these quantities of the items are worth, to the cent. -/
def valueAt (order : PurchaseOrder) (received : PurchaseOrderItem → ℕ) : ℚ :=
  GeneralLedger.round2 (order.items.map fun item => item.unitPrice * received item).sum

theorem receivedValue_preparedReceipt (now : Date) (order : PurchaseOrder) (dto : RecordPurchaseOrderReceiptDto) :
    receivedValue (preparedReceipt now order dto).1 (preparedReceipt now order dto).2 =
      valueAt order fun item => (receiptSummaryOf dto.receiptLines item).receivedQuantity := by
  unfold receivedValue valueAt preparedReceipt receivedOrder
  rw [List.map_map]
  congr 2
  apply List.map_congr_left
  intro item hitem
  have hfind : (order.items.map fun item => receivedItem true (receiptSummaryOf dto.receiptLines item) item).find?
      (fun other => other.id = item.id) = some (receivedItem true (receiptSummaryOf dto.receiptLines item) item) := by
    rw [List.find?_map]
    have hitem' : order.items.find? (fun other => other.id = item.id) = some item := by
      cases hfind : order.items.find? fun other => other.id = item.id with
      | none => exact absurd (decide_eq_true rfl) (List.find?_eq_none.mp hfind item hitem)
      | some other =>
        have hid : other.id = item.id := by simpa using List.find?_some hfind
        rw [List.inj_on_of_nodup_map order.items_nodup (List.mem_of_find?_eq_some hfind) hitem hid]
    exact congrArg (Option.map _) hitem'
  exact congrArg (fun found => (found.map PurchaseOrderItem.unitPrice).getD 0 *
    ((receiptSummaryOf dto.receiptLines item).receivedQuantity : ℚ)) hfind

/-! ### One receipt -/

/-- Everything that a receipt leaves behind has all of its lines. -/
def AppliedLineByLine (now : Date) (id : ℕ) (lines : List PurchaseOrderReceiptLineDto)
    (s s' : PurchaseOrderStore) : Prop :=
  ∃ previous ∈ s.orders.find id, ∃ order ∈ s'.orders.find id,
    ∃ event ∈ s'.receiptEvents.find s.receiptEvents.next,
      (∀ line ∈ lines, NamesItem previous line) ∧
      order.items.map (fun item => (item.id, item.quantities)) =
        previous.items.map (fun item => (item.id, item.quantities + namedQuantities lines item)) ∧
      event.receiptLines.map (fun line => (line.itemId, line.quantities)) =
        previous.items.map (fun item => (item.id, namedQuantities lines item)) ∧
      s'.journal = journalAfterReceipt now id previous (valueAt previous fun item => (namedQuantities lines item).1)
        s.receiptEvents.next s.journal

theorem recordReceiptEvent_eq_ok (h : (recordReceiptEvent now id dto actor).run s = (.ok result, s')) :
    ∃ previous, s.orders.find id = some previous ∧
      s'.orders.find id = some (preparedReceipt now previous dto).1 ∧
      s'.receiptEvents.find s.receiptEvents.next =
        some (newReceiptEvent now id (preparedReceipt now previous dto).2 actor.id dto.reason dto.metadata) ∧
      s'.journal = journalAfterReceipt now id previous
        (valueAt previous fun item => (receiptSummaryOf dto.receiptLines item).receivedQuantity)
        s.receiptEvents.next s.journal := by
  obtain ⟨previous, s₁, hload, hloaded⟩ := run_bind_eq_ok.mp h
  obtain ⟨rfl, hfind, -⟩ := findOneById_eq_ok hload
  obtain ⟨⟨order, lines⟩, s₂, hprepare, hprepared'⟩ := run_bind_eq_ok.mp hloaded
  cases (readOnly_prepareReceipt _ _ _ _).eq_of_run hprepare
  obtain ⟨hprepared, hstep⟩ := eq_preparedReceipt hprepare
  obtain ⟨_, s₃, htransaction, hreload⟩ := run_bind_eq_ok.mp hprepared'
  obtain ⟨rfl, -, -⟩ := findOneById_eq_ok hreload
  obtain ⟨inventory, -, hrest⟩ := saveOrder_sync_eq_ok hstep.branchId_eq.symm (run_transaction_eq_ok.mp htransaction)
  obtain ⟨inventory', -, rfl⟩ := persistReceipt_eq_ok hrest
  cases hprepared
  refine ⟨previous, hfind, find_set_self hfind _, find_add_self _ _, ?_⟩
  rw [← receivedValue_preparedReceipt now]
  rfl

/-- **A receipt is applied line by line** exactly if every line names an item of the order and all lines
for an item but its last one are empty: the others are overwritten in the map by item id. -/
theorem receipt_applied_iff (h : (recordReceiptEvent now id dto actor).run s = (.ok result, s')) :
    AppliedLineByLine now id dto.receiptLines s s' ↔
      ∃ previous ∈ s.orders.find id, LastLinesSuffice previous dto.receiptLines := by
  obtain ⟨previous, hprevious, horder, hevent, hjournal⟩ := recordReceiptEvent_eq_ok h
  constructor
  · rintro ⟨previous', hprevious', -, -, event, hevent', hnames, -, hlines, -⟩
    cases hprevious.symm.trans hprevious'
    cases hevent.symm.trans hevent'
    refine ⟨previous, hprevious, hnames, fun item hitem => ?_⟩
    rw [newReceiptEvent, preparedReceipt, List.map_map] at hlines
    have hquantities := List.map_inj_left.mp hlines item hitem
    exact (quantities_receiptSummaryOf_iff _ _).mp (congrArg Prod.snd hquantities)
  · rintro ⟨previous', hprevious', hnames, hlast⟩
    cases hprevious.symm.trans hprevious'
    have hquantities : ∀ item ∈ previous.items, (receiptSummaryOf dto.receiptLines item).quantities =
        namedQuantities dto.receiptLines item := fun item hitem =>
      (quantities_receiptSummaryOf_iff _ _).mpr (hlast item hitem)
    refine ⟨previous, hprevious, _, horder, _, hevent, hnames, ?_, ?_, ?_⟩
    · rw [preparedReceipt, receivedOrder, List.map_map]
      refine List.map_congr_left fun item hitem => ?_
      rw [← hquantities item hitem]
      rfl
    · rw [newReceiptEvent, preparedReceipt, List.map_map]
      exact List.map_congr_left fun item hitem => congrArg (Prod.mk item.id) (hquantities item hitem)
    · rw [hjournal, valueAt, valueAt]
      congr 3
      refine List.map_congr_left fun item hitem => ?_
      rw [← hquantities item hitem]
      rfl

/-- Three and four units of the one item. -/
def twoLinesOfItem : RecordPurchaseOrderReceiptDto where
  receiptLines := [{ itemId := 1, receivedQuantity := 3 }, { itemId := 1, receivedQuantity := 4 }]

/-- Of three and four units of an item only the four are received. -/
theorem receipt_drops_line :
    let s := Run.after PurchaseOrderCall.step noPurchaseOrders shippedOrder
    let result := (recordReceiptEvent 0 1 twoLinesOfItem administrator).run s
    result.1.isOk ∧ ¬ AppliedLineByLine 0 1 twoLinesOfItem.receiptLines s result.2 := by
  intro s result
  have hreceived : ∀ previous ∈ s.orders.find 1, ∀ order ∈ result.2.orders.find 1,
      order.items.map (fun item => (item.id, item.quantities)) ≠ previous.items.map fun item =>
        (item.id, item.quantities + namedQuantities twoLinesOfItem.receiptLines item) := by
    decide +kernel
  refine ⟨by decide +kernel, ?_⟩
  rintro ⟨previous, hprevious, order, horder, -, -, -, hitems, -⟩
  exact hreceived previous hprevious order horder hitems

/-- Four units of the one item, in one line. -/
theorem receipt_applied_iff_one_line :
    let s := Run.after PurchaseOrderCall.step noPurchaseOrders shippedOrder
    ∃ s', AppliedLineByLine 0 1 (receiptOfUnits 4 0).receiptLines s s' := by
  intro s
  have hok : ((recordReceiptEvent 0 1 (receiptOfUnits 4 0) administrator).run s).1.isOk := by decide +kernel
  cases hrun : (recordReceiptEvent 0 1 (receiptOfUnits 4 0) administrator).run s with
  | mk result s' =>
    cases result with
    | error e =>
      rw [hrun] at hok
      cases hok
    | ok result => exact ⟨s', (receipt_applied_iff hrun).mpr (by decide +kernel)⟩

end SuuqBackend
