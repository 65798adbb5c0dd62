import SuuqBackend.Vendor.VendorOrders

/-!
# The status of an order and those of its items

An order whose items are all cancelled is cancelled; otherwise the items that are not decide (`Reflects`).  The two
services agree on the status of items none of which is cancelled, and on no others (`aggregates_agree_iff`).
-/

namespace SuuqBackend

def OrderStatus.IsCancelled (status : OrderStatus) : Prop :=
  status = .cancelled ∨ status = .cancelledByBuyer ∨ status = .cancelledBySeller
deriving Decidable

def liveItems (items : List OrderItem) : List OrderItem := items.filter fun item => ¬ item.status.IsCancelled

def Reflects (items : List OrderItem) (status : OrderStatus) : Prop :=
  if items ≠ [] ∧ ∀ item ∈ items, item.status.IsCancelled then status.IsCancelled
  else status = VendorOrders.computeAggregateStatus (liveItems items)
deriving Decidable

section Aggregates

variable {items : List OrderItem} {status status' : OrderStatus}

theorem mem_liveItems {item : OrderItem} : item ∈ liveItems items ↔ item ∈ items ∧ ¬ item.status.IsCancelled := by
  unfold liveItems
  rw [List.mem_filter, decide_eq_true_eq]

theorem liveItems_eq_self (h : ∀ item ∈ items, ¬ item.status.IsCancelled) : liveItems items = items :=
  List.filter_eq_self.mpr fun item hitem => decide_eq_true (h item hitem)

theorem mem_statuses_liveItems (hstatus : ¬ status.IsCancelled) :
    status ∈ (liveItems items).map (·.status) ↔ status ∈ items.map (·.status) := by
  rw [List.mem_map, List.mem_map]
  constructor
  · rintro ⟨item, hitem, rfl⟩
    exact ⟨item, (mem_liveItems.mp hitem).1, rfl⟩
  · rintro ⟨item, hitem, rfl⟩
    exact ⟨item, mem_liveItems.mpr ⟨hitem, hstatus⟩, rfl⟩

theorem computeAggregateStatus_not_isCancelled (items : List OrderItem) :
    ¬ (VendorOrders.computeAggregateStatus items).IsCancelled := by
  unfold VendorOrders.computeAggregateStatus
  dsimp only
  split_ifs <;> decide

theorem delivered_of_computeAggregateStatus (h : VendorOrders.computeAggregateStatus items = .delivered) :
    ∀ item ∈ items, item.status = .delivered := by
  unfold VendorOrders.computeAggregateStatus at h
  dsimp only at h
  split_ifs at h with hfailed hall
  exact hall.2

theorem computeAggregateStatus_liveItems (h : (∀ item ∈ items, ¬ item.status.IsCancelled) ∨
    ∃ item ∈ items, ¬ item.status.IsCancelled ∧ item.status ≠ .delivered) :
    VendorOrders.computeAggregateStatus (liveItems items) = VendorOrders.computeAggregateStatus items := by
  rcases h with hnone | ⟨item, hitem, hlive, hne⟩
  · rw [liveItems_eq_self hnone]
  · have hall : ¬ (items ≠ [] ∧ ∀ item ∈ items, item.status = .delivered) := fun hall => hne (hall.2 item hitem)
    have hall' : ¬ (liveItems items ≠ [] ∧ ∀ item ∈ liveItems items, item.status = .delivered) :=
      fun hall => hne (hall.2 item (mem_liveItems.mpr ⟨hitem, hlive⟩))
    unfold VendorOrders.computeAggregateStatus
    simp only [if_neg hall, if_neg hall', mem_statuses_liveItems (by decide : ¬ OrderStatus.IsCancelled .deliveryFailed),
      mem_statuses_liveItems (by decide : ¬ OrderStatus.IsCancelled .outForDelivery),
      mem_statuses_liveItems (by decide : ¬ OrderStatus.IsCancelled .shipped),
      mem_statuses_liveItems (by decide : ¬ OrderStatus.IsCancelled .processing)]

theorem aggregate_isCancelled (h : ∃ item ∈ items, item.status.IsCancelled) :
    (OrderItems.computeAggregateStatus items).IsCancelled := by
  obtain ⟨item, hitem, hcancelled⟩ := h
  have hne : items ≠ [] := List.ne_nil_of_mem hitem
  have hmem : item.status ∈ items.map (·.status) := List.mem_map_of_mem hitem
  unfold OrderItems.computeAggregateStatus
  rw [if_neg hne]
  split_ifs with hcancelled' hbuyer hseller
  · exact .inl rfl
  · exact .inr (.inl rfl)
  · exact .inr (.inr rfl)
  all_goals
    rcases hcancelled with heq | heq | heq
    · exact absurd (heq ▸ hmem) hcancelled'
    · exact absurd (heq ▸ hmem) hbuyer
    · exact absurd (heq ▸ hmem) hseller

theorem aggregates_eq (h : ∀ item ∈ items, ¬ item.status.IsCancelled) :
    OrderItems.computeAggregateStatus items = VendorOrders.computeAggregateStatus items := by
  have hnot {status : OrderStatus} (hstatus : status.IsCancelled) : status ∉ items.map (·.status) := by
    intro hmem
    obtain ⟨item, hitem, rfl⟩ := List.mem_map.mp hmem
    exact h item hitem hstatus
  by_cases hempty : items = []
  · subst hempty
    rfl
  · unfold OrderItems.computeAggregateStatus VendorOrders.computeAggregateStatus
    rw [if_neg hempty, if_neg (hnot (.inl rfl)), if_neg (hnot (.inr (.inl rfl))),
      if_neg (hnot (.inr (.inr rfl)))]
    simp only [ne_eq, hempty, not_false_eq_true, true_and]

/-- **The two routines agree** on items none of which is cancelled, and on no others. -/
theorem aggregates_agree_iff (items : List OrderItem) :
    OrderItems.computeAggregateStatus items = VendorOrders.computeAggregateStatus items ↔
      ∀ item ∈ items, ¬ item.status.IsCancelled := by
  constructor
  · intro heq item hitem hcancelled
    have hcancels := aggregate_isCancelled ⟨item, hitem, hcancelled⟩
    rw [heq] at hcancels
    exact computeAggregateStatus_not_isCancelled items hcancels
  · exact aggregates_eq

/-! ### The status that the items determine -/

theorem reflects_iff_of_not (h : ¬ (items ≠ [] ∧ ∀ item ∈ items, item.status.IsCancelled)) :
    Reflects items status ↔ status = VendorOrders.computeAggregateStatus (liveItems items) := by
  unfold Reflects
  rw [if_neg h]

theorem reflects_iff_of_all (hne : items ≠ []) (hall : ∀ item ∈ items, item.status.IsCancelled) :
    Reflects items status ↔ status.IsCancelled := by
  unfold Reflects
  rw [if_pos ⟨hne, hall⟩]

theorem Reflects.unique (h : Reflects items status) (h' : Reflects items status') :
    status = status' ∨ (status.IsCancelled ∧ status'.IsCancelled) := by
  by_cases hall : items ≠ [] ∧ ∀ item ∈ items, item.status.IsCancelled
  · exact .inr ⟨(reflects_iff_of_all hall.1 hall.2).mp h, (reflects_iff_of_all hall.1 hall.2).mp h'⟩
  · exact .inl (((reflects_iff_of_not hall).mp h).trans ((reflects_iff_of_not hall).mp h').symm)

theorem Reflects.all_cancelled (h : Reflects items status) (hstatus : status.IsCancelled) :
    items ≠ [] ∧ ∀ item ∈ items, item.status.IsCancelled := by
  by_contra hall
  rw [(reflects_iff_of_not hall).mp h] at hstatus
  exact computeAggregateStatus_not_isCancelled _ hstatus

theorem Reflects.all_delivered (h : Reflects items .delivered) :
    ∀ item ∈ items, item.status.IsCancelled ∨ item.status = .delivered := by
  intro item hitem
  by_cases hall : items ≠ [] ∧ ∀ item ∈ items, item.status.IsCancelled
  · exact .inl (hall.2 item hitem)
  · by_cases hcancelled : item.status.IsCancelled
    · exact .inl hcancelled
    · have hdelivered := delivered_of_computeAggregateStatus ((reflects_iff_of_not hall).mp h).symm
      exact .inr (hdelivered item (mem_liveItems.mpr ⟨hitem, hcancelled⟩))

end Aggregates

end SuuqBackend
