import SuuqBackend.Lib.Lists
import SuuqBackend.Wallet.WeeklySettlements
import Mathlib.Algebra.Order.BigOperators.Group.List

/-!
# How often an earning is settled

A run settles the week before its own, up to the last whole millisecond, and marks nothing.  So an earning is in one
settlement for each run of the week after its own, and in none if it came in the last millisecond of a week.
-/

namespace SuuqBackend

open WeeklySettlements

/-- The week of a transaction. -/
def DatedTransaction.week (tx : DatedTransaction) : ℤ := (tx.createdAt + mondayOffset * 1000) / (msPerWeek * 1000)

/-- The transaction came after the last whole millisecond of its week. -/
def DatedTransaction.AfterEnd (tx : DatedTransaction) : Prop :=
  msPerWeek * 1000 - 1000 < (tx.createdAt + mondayOffset * 1000) % (msPerWeek * 1000)
deriving Decidable

/-- A positive earning of a vendor, from an order that is not disputed. -/
def DatedTransaction.Payable (users : List ℕ) (tx : DatedTransaction) : Prop :=
  tx.type = .earning ∧ tx.disputed = false ∧ 0 < tx.amount ∧ ∃ id ∈ users, tx.vendorId = some id

/-- The settlement is of the vendor and the period of the transaction. -/
def Settlement.Includes (tx : DatedTransaction) (settlement : Settlement) : Prop :=
  tx.vendorId = some settlement.vendorId ∧ settlement.periodStart * 1000 ≤ tx.createdAt ∧
    tx.createdAt ≤ settlement.periodEnd * 1000
deriving Decidable

/-- A run settled the week of the transaction. -/
def DatedTransaction.Past (nows : List ℤ) (tx : DatedTransaction) : Prop := ∃ now ∈ nows, weekOf now = tx.week + 1
deriving Decidable

/-! ### The period of a run -/

theorem earned_iff {tx : DatedTransaction} (hearning : tx.type = .earning) (hdisputed : tx.disputed = false) (now : ℤ) :
    Earned (startOfWeek (now - msPerWeek)) (endOfWeek (now - msPerWeek)) tx ↔
      weekOf now = tx.week + 1 ∧ ¬ tx.AfterEnd := by
  unfold Earned endOfWeek startOfWeek weekOf DatedTransaction.week DatedTransaction.AfterEnd msPerWeek mondayOffset
  simp only [hearning, hdisputed, true_and, and_true]
  omega

/-! ### What a run settles -/

theorem filter_filterMap {α β : Type} [DecidableEq α] {f : α → Option β} {k : β → α}
    (hkey : ∀ a b, f a = some b → k b = a) {xs : List α} (hnodup : xs.Nodup) {a : α} (h : a ∉ xs → f a = none) :
    (xs.filterMap f).filter (fun b => k b = a) = (f a).toList := by
  induction xs with
  | nil =>
    rw [h List.not_mem_nil]
    rfl
  | cons x xs ih =>
    obtain ⟨hnew, hnodup⟩ := List.nodup_cons.mp hnodup
    by_cases heq : x = a
    · subst heq
      have hrest : (xs.filterMap f).filter (fun b => k b = x) = [] := by
        refine List.filter_eq_nil_iff.mpr fun b hb hsame => hnew ?_
        obtain ⟨y, hy, hb⟩ := List.mem_filterMap.mp hb
        rwa [← of_decide_eq_true hsame, hkey y b hb]
      rw [List.filterMap_cons]
      cases hx : f x with
      | none => exact hrest
      | some b => rw [List.filter_cons_of_pos (by simp [hkey x b hx]), hrest]; rfl
    · have hrest := ih hnodup fun hnot => h fun hmem => (List.mem_cons.mp hmem).elim (heq ·.symm) hnot
      rw [List.filterMap_cons]
      cases hx : f x with
      | none => exact hrest
      | some b => rw [List.filter_cons_of_neg (by simp [hkey x b hx, heq]), hrest]

section Runs

variable {s : SettlementStore} (h : ∀ tx ∈ s.transactions, tx.Payable s.users) (now : ℤ) {id : ℕ}

/-- The earnings that a run settles. -/
def earningsAt (s : SettlementStore) (now : ℤ) : List DatedTransaction :=
  s.transactions.filter (Earned (startOfWeek (now - msPerWeek)) (endOfWeek (now - msPerWeek)))

theorem filter_weeklySettlements : (weeklySettlements s now).filter (fun r => some r.vendorId = some id) =
    (settlementOf s.users (startOfWeek (now - msPerWeek)) (endOfWeek (now - msPerWeek)) (earningsAt s now)
      (some id)).toList := by
  refine filter_filterMap (k := fun r : Settlement => some r.vendorId) ?_ (List.nodup_dedup _) fun hnone => ?_
  · intro vendorId settlement hsettled
    cases vendorId with
    | none => cases hsettled
    | some vendorId =>
      unfold settlementOf at hsettled
      dsimp only at hsettled
      split_ifs at hsettled
      rw [← Option.some.inj hsettled]
  · have hzero : totalNet (earningsAt s now) (some id) = 0 := by
      have hempty : (earningsAt s now).filter (fun tx => tx.vendorId = some id) = [] :=
        List.filter_eq_nil_iff.mpr fun tx htx hsame =>
          hnone (List.mem_dedup.mpr (List.mem_map.mpr ⟨tx, htx, of_decide_eq_true hsame⟩))
      rw [totalNet, hempty]
      rfl
    exact if_pos hzero.le

include h

theorem totalNet_nonneg : 0 ≤ totalNet (earningsAt s now) (some id) := by
  refine List.sum_nonneg fun x hx => ?_
  obtain ⟨tx, htx, rfl⟩ := List.mem_map.mp hx
  exact (h tx (List.mem_of_mem_filter (List.mem_of_mem_filter htx))).2.2.1.le

theorem sum_settled (hid : id ∈ s.users) :
    (((weeklySettlements s now).filter fun r => some r.vendorId = some id).map Settlement.amount).sum =
      totalNet (earningsAt s now) (some id) := by
  rw [filter_weeklySettlements]
  unfold settlementOf
  dsimp only
  split_ifs with hnone
  · exact le_antisymm (totalNet_nonneg h now) hnone
  · simp

theorem count_settled {tx : DatedTransaction} (htx : tx ∈ s.transactions) :
    (weeklySettlements s now).countP (fun r => r.Includes tx) =
      if weekOf now = tx.week + 1 ∧ ¬ tx.AfterEnd then 1 else 0 := by
  obtain ⟨hearning, hdisputed, hpos, id, hid, hvendor⟩ := h tx htx
  have hfilter : (weeklySettlements s now).countP (fun r => r.Includes tx) =
      ((weeklySettlements s now).filter fun r => some r.vendorId = some id).countP (fun r => r.Includes tx) := by
    rw [List.countP_filter]
    refine List.countP_congr fun r _ => ?_
    simp only [Settlement.Includes, hvendor, decide_eq_true_eq, Bool.and_eq_true]
    tauto
  rw [hfilter, filter_weeklySettlements]
  simp only [← earned_iff hearning hdisputed now]
  by_cases hearned : Earned (startOfWeek (now - msPerWeek)) (endOfWeek (now - msPerWeek)) tx
  · have hnet : 0 < totalNet (earningsAt s now) (some id) := by
      refine lt_of_lt_of_le hpos (List.single_le_sum ?_ _ (List.mem_map_of_mem (List.mem_filter.mpr
        ⟨List.mem_filter.mpr ⟨htx, decide_eq_true hearned⟩, decide_eq_true hvendor⟩)))
      intro x hx
      obtain ⟨tx, htx, rfl⟩ := List.mem_map.mp hx
      exact (h tx (List.mem_of_mem_filter (List.mem_of_mem_filter htx))).2.2.1.le
    unfold settlementOf
    dsimp only
    rw [if_pos hearned, if_neg (not_le.mpr hnet), if_neg (not_not.mpr hid)]
    simp [Settlement.Includes, hvendor, hearned.2.1, hearned.2.2.1]
  · unfold settlementOf
    dsimp only
    split_ifs
    · rfl
    · have hperiod : ¬ (startOfWeek (now - msPerWeek) * 1000 ≤ tx.createdAt ∧
          tx.createdAt ≤ endOfWeek (now - msPerWeek) * 1000) := fun hperiod =>
        hearned ⟨hearning, hperiod.1, hperiod.2, hdisputed⟩
      simpa [Settlement.Includes, hvendor] using hperiod

omit h in
theorem totalNet_filter (p : DatedTransaction → Prop) [DecidablePred p] (txs : List DatedTransaction) :
    totalNet (txs.filter fun tx => p tx) (some id) =
      (txs.map fun tx => if tx.vendorId = some id ∧ p tx then tx.amount else 0).sum := by
  unfold totalNet
  induction txs with
  | nil => rfl
  | cons tx txs ih =>
    rw [List.map_cons, List.sum_cons, ← ih]
    by_cases hp : p tx <;> by_cases hvendor : tx.vendorId = some id <;> simp [hp, hvendor]

/-! ### What the runs settle -/

omit h in
theorem after_processWeeklySettlements (nows : List ℤ) : Run.after processWeeklySettlements s nows =
    { s with settlements := s.settlements ++ nows.flatMap (weeklySettlements s) } := by
  induction nows generalizing s with
  | nil => simp
  | cons now nows ih =>
    rw [Run.after_cons, ih, List.flatMap_cons, ← List.append_assoc]
    rfl

theorem count_settlements (hnone : s.settlements = []) (nows : List ℤ) {tx : DatedTransaction} (htx : tx ∈ s.transactions) :
    (Run.after processWeeklySettlements s nows).settlements.countP (fun r => r.Includes tx) =
      if tx.AfterEnd then 0 else nows.countP fun now => weekOf now = tx.week + 1 := by
  rw [after_processWeeklySettlements, hnone, List.nil_append, List.countP_flatMap]
  induction nows with
  | nil => simp
  | cons now nows ih =>
    rw [List.map_cons, List.sum_cons, ih, Function.comp_apply, count_settled h now htx, List.countP_cons]
    by_cases hend : tx.AfterEnd <;> simp [hend, add_comm]

theorem sum_settlements (hnone : s.settlements = []) (nows : List ℤ) (hid : id ∈ s.users) :
    (((Run.after processWeeklySettlements s nows).settlements.filter fun r => some r.vendorId = some id).map
      Settlement.amount).sum = (s.transactions.map fun tx => if tx.vendorId = some id ∧ ¬ tx.AfterEnd then
        tx.amount * ((nows.countP fun now => weekOf now = tx.week + 1 : ℕ) : ℚ) else 0).sum := by
  rw [after_processWeeklySettlements, hnone, List.nil_append, List.filter_flatMap, List.map_flatMap]
  induction nows with
  | nil => simp
  | cons now nows ih =>
    rw [List.flatMap_cons, List.sum_append, ih, sum_settled h now hid, earningsAt, totalNet_filter, ← List.sum_map_add]
    refine congrArg List.sum (List.map_congr_left fun tx htx => ?_)
    obtain ⟨hearning, hdisputed, -⟩ := h tx htx
    rw [List.countP_cons]
    simp only [earned_iff hearning hdisputed now]
    by_cases hvendor : tx.vendorId = some id <;> by_cases hend : tx.AfterEnd <;>
      by_cases hweek : weekOf now = tx.week + 1 <;> simp [hvendor, hend, hweek, mul_add, add_comm]

/-- **When every earning is settled once**: each earning of a past week is in one settlement, and the settlements of
each vendor add up to the earnings of the past weeks, exactly when there is one run in the week after each earning and
none came in the last millisecond of its week. -/
theorem settled_once_iff (hnone : s.settlements = []) (nows : List ℤ) :
    ((∀ tx ∈ s.transactions, tx.Past nows →
      (Run.after processWeeklySettlements s nows).settlements.countP (fun r => r.Includes tx) = 1) ∧
    ∀ id ∈ s.users, (((Run.after processWeeklySettlements s nows).settlements.filter fun r =>
        some r.vendorId = some id).map Settlement.amount).sum =
      totalNet (s.transactions.filter fun tx => tx.Past nows) (some id)) ↔
    ∀ tx ∈ s.transactions, tx.Past nows → ¬ tx.AfterEnd ∧ nows.countP (fun now => weekOf now = tx.week + 1) = 1 := by
  have honce : ∀ tx ∈ s.transactions,
      (Run.after processWeeklySettlements s nows).settlements.countP (fun r => r.Includes tx) = 1 ↔
        ¬ tx.AfterEnd ∧ nows.countP (fun now => weekOf now = tx.week + 1) = 1 := by
    intro tx htx
    rw [count_settlements h hnone nows htx]
    by_cases hend : tx.AfterEnd <;> simp [hend]
  constructor
  · intro hall tx htx hpast
    exact (honce tx htx).mp (hall.1 tx htx hpast)
  · intro hall
    refine ⟨fun tx htx hpast => (honce tx htx).mpr (hall tx htx hpast), fun id hid => ?_⟩
    rw [sum_settlements h hnone nows hid, totalNet_filter]
    refine congrArg List.sum (List.map_congr_left fun tx htx => ?_)
    by_cases hpast : tx.Past nows
    · obtain ⟨hend, hcount⟩ := hall tx htx hpast
      simp [hpast, hend, hcount]
    · -- no run settles the week
      have hcount : nows.countP (fun now => weekOf now = tx.week + 1) = 0 :=
        List.countP_eq_zero.mpr fun now hnow hweek => hpast ⟨now, hnow, of_decide_eq_true hweek⟩
      simp [hpast, hcount]

end Runs

/-- A vendor's earning of 100. -/
def earningAt (createdAt : ℤ) : SettlementStore where
  users := [7]
  transactions := [{ vendorId := some 7, type := .earning, amount := 100, createdAt }]

theorem earning_settled :
    (Run.after processWeeklySettlements (earningAt 0) [msPerWeek]).settlements.length = 1 ∧
      ∀ tx ∈ (earningAt 0).transactions, tx.Past [msPerWeek] →
        (Run.after processWeeklySettlements (earningAt 0) [msPerWeek]).settlements.countP (fun r => r.Includes tx) = 1 :=
  ⟨by decide +kernel, ((settled_once_iff (fun tx htx => by
      rw [List.mem_singleton.mp htx]
      exact ⟨rfl, rfl, by norm_num, 7, List.mem_singleton_self 7, rfl⟩) rfl [msPerWeek]).mpr (by decide +kernel)).1⟩

/-- A second run in the week settles the earning again; half a millisecond before midnight on Sunday it is left out. -/
theorem earning_settled_again :
    (¬ ∀ tx ∈ (earningAt 0).transactions, (Run.after processWeeklySettlements (earningAt 0)
      [msPerWeek, msPerWeek]).settlements.countP (fun r => r.Includes tx) = 1) ∧
    ¬ ∀ tx ∈ (earningAt 345599999500).transactions, (Run.after processWeeklySettlements (earningAt 345599999500)
      [msPerWeek]).settlements.countP (fun r => r.Includes tx) = 1 := by
  decide +kernel

end SuuqBackend
