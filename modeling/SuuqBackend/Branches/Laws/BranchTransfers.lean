import SuuqBackend.Lib.Lists
import SuuqBackend.Branches.BranchTransfers
import SuuqBackend.Branches.Laws.StockMoves

/-!
# What the transfer operations do

Each round of the loops of `dispatch`, `receive` and `cancel` moves the rows of its item by the
quantity of the item, so a whole loop moves them by `outgoing` and `incoming`, the quantities of the
transfer at its two branches (`dispatchItems_moves`, `receiveItems_moves`, `releaseItems_moves`).

* `TransferCall.change`: every call is one of the changes listed in `TransferChange`; a call that
  throws leaves the tables as they were.
-/

namespace SuuqBackend

open Proc InventoryLedger InventoryRepository BranchTransfers

namespace BranchTransfer

variable (t : BranchTransfer)

def outgoing : InventoryKey → ℤ := (t.items.map fun item => atKey (originKey t item) item.quantity).sum

/-- The quantities that the transfer brings to its destination. -/
def incoming : InventoryKey → ℤ :=
  (t.items.map fun item => atKey (destinationKey t item) item.quantity).sum

def quantityOf (productId : ℕ) : ℤ :=
  ((t.items.filter fun item => item.productId = productId).map BranchTransferItem.quantity).sum

/-- What the transfer has set aside: a dispatched one has its outgoing quantities. -/
def reserved : InventoryKey → ℤ := if t.status = .dispatched then t.outgoing else 0

/-- What the transfer does to the quantities on hand when its new row is `t'`. -/
def shipped (t' : BranchTransfer) : InventoryKey → ℤ :=
  if t'.status = .received then t.incoming - t.outgoing else 0

end BranchTransfer

theorem sum_atKey_apply (branchId : ℕ) (items : List BranchTransferItem) (k : InventoryKey) :
    (items.map fun item => atKey ⟨branchId, item.productId⟩ item.quantity).sum k =
      if branchId = k.branchId then
        ((items.filter fun item => item.productId = k.productId).map BranchTransferItem.quantity).sum else 0 := by
  induction items with
  | nil => simp
  | cons item items ih =>
    rw [List.map_cons, List.sum_cons, Pi.add_apply, ih, atKey_apply]
    by_cases hb : branchId = k.branchId
    · by_cases hp : item.productId = k.productId
      · have hkey : k = ⟨branchId, item.productId⟩ := by rw [hb, hp]
        rw [if_pos hkey, if_pos hb, if_pos hb, List.filter_cons_of_pos (by simpa using hp),
          List.map_cons, List.sum_cons]
      · have hkey : k ≠ ⟨branchId, item.productId⟩ :=
          fun h => hp (congrArg InventoryKey.productId h).symm
        rw [if_neg hkey, if_pos hb, if_pos hb, List.filter_cons_of_neg (by simpa using hp), zero_add]
    · have hkey : k ≠ ⟨branchId, item.productId⟩ :=
        fun h => hb (congrArg InventoryKey.branchId h).symm
      rw [if_neg hkey, if_neg hb, if_neg hb, add_zero]

theorem outgoing_apply (t : BranchTransfer) (k : InventoryKey) :
    t.outgoing k = if t.fromBranchId = k.branchId then t.quantityOf k.productId else 0 :=
  sum_atKey_apply ..

theorem incoming_apply (t : BranchTransfer) (k : InventoryKey) :
    t.incoming k = if t.toBranchId = k.branchId then t.quantityOf k.productId else 0 :=
  sum_atKey_apply ..

/-! ### Rounds of the loops -/

variable {s s' : InventoryStore} {t : BranchTransfer} {item : BranchTransferItem}

theorem flatMap_nil {β : Type} (xs : List β) : (xs.flatMap fun _ => ([] : List StockMovement)) = [] :=
  List.flatMap_eq_nil_iff.mpr fun _ _ => rfl

variable {replenish : Replenishment}

theorem maybeCreateDraftPurchaseOrder_moves {k : InventoryKey} {r : BranchInventory}
    (h : (maybeCreateDraftPurchaseOrder replenish k r).run s = (.ok (), s')) : Moves s s' 0 0 [] := by
  unfold maybeCreateDraftPurchaseOrder at h
  split_ifs at h with hlow
  · cases h
    exact Moves.refl s
  · have hmoves : Moves s s' ((replenish k r).map fun _ => 0).sum ((replenish k r).map fun _ => 0).sum
        ((replenish k r).flatMap fun _ => []) := by
      refine Moves.forEach (fun line s₁ s₂ hline => ?_) _ h
      obtain ⟨r', s₃, hadjust, hrest⟩ := run_bind_eq_ok.mp hline
      cases hrest
      exact adjustInboundOpenPo_moves hadjust
    rwa [List.sum_map_zero, flatMap_nil] at hmoves

theorem dispatchItem_eq_ok (h : (dispatchItem replenish t item).run s = (.ok (), s')) :
    item.quantity ≤ availableForTransfer (s.row (originKey t item)) ∧
      Moves s s' 0 (atKey (originKey t item) item.quantity) [] := by
  unfold dispatchItem findInventory at h
  rw [run_read_bind, run_throwIf_bind] at h
  split_ifs at h with hless
  · cases h
  · obtain ⟨r, s₁, hadjust, horder⟩ := run_bind_eq_ok.mp h
    have hmoves := (adjustOutboundTransfers_moves hadjust).trans (maybeCreateDraftPurchaseOrder_moves horder)
    rw [add_zero, add_zero] at hmoves
    exact ⟨not_lt.mp hless, hmoves⟩

theorem releaseItem_eq_ok (h : (releaseItem t item).run s = (.ok (), s')) :
    item.quantity ≤ s.outboundAt (originKey t item) ∧ Moves s s' 0 (-atKey (originKey t item) item.quantity) [] := by
  obtain ⟨r, s₁, hadjust, hrest⟩ := run_bind_eq_ok.mp h
  cases hrest
  have hmoves := adjustOutboundTransfers_moves hadjust
  obtain ⟨-, hneg, -⟩ := adjust_eq_ok hadjust
  have hcovered : 0 ≤ s.outboundAt (originKey t item) + -item.quantity := hneg
  rw [← atKey_neg]
  exact ⟨by omega, hmoves⟩

theorem outParams_quantityDelta_ne_zero (id : ℕ) (t : BranchTransfer) (actorId : Option ℕ)
    (note : Option String) (item : BranchTransferItem) : (outParams id t actorId note item).quantityDelta ≠ 0 := by
  have hpos := item.quantity_pos
  show -item.quantity ≠ 0
  omega

theorem inParams_quantityDelta_ne_zero (id : ℕ) (t : BranchTransfer) (actorId : Option ℕ)
    (note : Option String) (item : BranchTransferItem) : (inParams id t actorId note item).quantityDelta ≠ 0 := by
  have hpos := item.quantity_pos
  show item.quantity ≠ 0
  omega

theorem receiveItem_eq_ok {now : Date} {id : ℕ} {actorId : Option ℕ} {note : Option String}
    (h : (receiveItem now id t actorId note item).run s = (.ok (), s')) :
    item.quantity ≤ s.outboundAt (originKey t item) ∧
      Moves s s' (atKey (destinationKey t item) item.quantity - atKey (originKey t item) item.quantity)
        (-atKey (originKey t item) item.quantity)
        [(outParams id t actorId note item).movement, (inParams id t actorId note item).movement] := by
  obtain ⟨_, s₁, hrelease, h⟩ := run_bind_eq_ok.mp h
  obtain ⟨out, s₂, hout, h⟩ := run_bind_eq_ok.mp h
  obtain ⟨into, s₃, hin, hrest⟩ := run_bind_eq_ok.mp h
  cases hrest
  obtain ⟨hcovered, hfirst⟩ := releaseItem_eq_ok hrelease
  have hsecond := recordMovement_moves (outParams_quantityDelta_ne_zero id t actorId note item) hout
  have hthird := recordMovement_moves (inParams_quantityDelta_ne_zero id t actorId note item) hin
  refine ⟨hcovered, ?_⟩
  have hmoves := (hfirst.trans hsecond).trans hthird
  have honHand : 0 + atKey (outParams id t actorId note item).key (-item.quantity)
      + atKey (inParams id t actorId note item).key item.quantity =
      atKey (destinationKey t item) item.quantity - atKey (originKey t item) item.quantity := by
    rw [zero_add, atKey_neg, neg_add_eq_sub]
    rfl
  have houtbound : -atKey (originKey t item) item.quantity + 0 + 0 = -atKey (originKey t item) item.quantity := by
    rw [add_zero, add_zero]
  rw [← honHand, ← houtbound]
  exact hmoves

/-! ### Whole loops -/

def receivedMovements (id : ℕ) (t : BranchTransfer) (actorId : Option ℕ) (note : Option String)
    (item : BranchTransferItem) : List StockMovement :=
  [(outParams id t actorId note item).movement, (inParams id t actorId note item).movement]

theorem dispatchItems_moves (h : (forEach t.items (dispatchItem replenish t)).run s = (.ok (), s')) :
    Moves s s' 0 t.outgoing [] := by
  have hmoves := Moves.forEach (fun item s₁ s₂ hitem => (dispatchItem_eq_ok hitem).2) t.items h
  rwa [List.sum_map_zero, flatMap_nil] at hmoves

theorem receiveItems_moves {now : Date} {id : ℕ} {actorId : Option ℕ} {note : Option String}
    (h : (forEach t.items (receiveItem now id t actorId note)).run s = (.ok (), s')) :
    Moves s s' (t.incoming - t.outgoing) (-t.outgoing) (t.items.flatMap (receivedMovements id t actorId note)) := by
  have hround : ∀ item s₁ s₂, (receiveItem now id t actorId note item).run s₁ = (.ok (), s₂) →
      Moves s₁ s₂ (atKey (destinationKey t item) item.quantity - atKey (originKey t item) item.quantity)
        (-atKey (originKey t item) item.quantity) (receivedMovements id t actorId note item) :=
    fun item s₁ s₂ hitem => (receiveItem_eq_ok hitem).2
  have hmoves := Moves.forEach hround t.items h
  rwa [sum_map_neg, sum_map_sub] at hmoves

theorem releaseItems_moves (h : (releaseItems t).run s = (.ok (), s')) : Moves s s' 0 (-t.reserved) [] := by
  unfold releaseItems at h
  unfold BranchTransfer.reserved
  by_cases hstatus : t.status = .dispatched
  · rw [if_pos hstatus] at h ⊢
    have hmoves := Moves.forEach (fun item s₁ s₂ hitem => (releaseItem_eq_ok hitem).2) t.items h
    rwa [List.sum_map_zero, flatMap_nil, sum_map_neg] at hmoves
  · rw [if_neg hstatus] at h ⊢
    cases h
    exact Moves.refl s

/-! ### Transitions -/

section Transition

variable {S S' : TransferStore} {id : ℕ} {a : BranchTransfer}
  {refusal : BranchTransferStatus → Option HttpException}
  {execute : BranchTransfer → InventoryProc Unit} {next : BranchTransfer → BranchTransfer}

theorem run_findOne (h : S.transfers.find id = some t) : (findOne id).run S = (.ok t, S) := by
  unfold findOne
  rw [run_read_bind, h]
  rfl

theorem run_findOne_of_eq_none (h : S.transfers.find id = none) :
    (findOne id).run S = (.error (transferNotFound id), S) := by
  unfold findOne
  rw [run_read_bind, h]
  rfl

theorem run_onInventory {α : Type} {p : InventoryProc α} {o : Except HttpException α}
    (h : p.run S.inventory = (o, s')) : (onInventory p).run S = (o, { S with inventory := s' }) :=
  run_zoom_of h

theorem run_transition (hfind : S.transfers.find id = some t) (hstatus : refusal t.status = none) :
    (transition id refusal execute next).run S =
      match (execute t).run S.inventory with
      | (.ok (), s') => (.ok (next t), ⟨s', S.transfers.set id (next t)⟩)
      | (.error e, s') => (.error e, { S with inventory := s' }) := by
  unfold transition
  rw [run_bind_of_ok (run_findOne hfind), hstatus]
  rcases hexecute : (execute t).run S.inventory with ⟨e | _, s'⟩
  · exact run_bind_of_error (run_onInventory hexecute) _
  · exact run_bind_of_ok (run_onInventory hexecute) _

theorem transition_eq_ok (h : (transition id refusal execute next).run S = (.ok a, S')) :
    ∃ t s', S.transfers.find id = some t ∧ refusal t.status = none ∧
      (execute t).run S.inventory = (.ok (), s') ∧ a = next t ∧ S' = ⟨s', S.transfers.set id (next t)⟩ := by
  cases hfind : S.transfers.find id with
  | none =>
    unfold transition at h
    rw [run_bind_of_error (run_findOne_of_eq_none hfind)] at h
    cases h
  | some t =>
    cases hstatus : refusal t.status with
    | some e =>
      unfold transition at h
      rw [run_bind_of_ok (run_findOne hfind), hstatus] at h
      cases h
    | none =>
      rw [run_transition hfind hstatus] at h
      rcases hexecute : (execute t).run S.inventory with ⟨e | _, s'⟩
      · rw [hexecute] at h
        cases h
      · rw [hexecute] at h
        cases h
        exact ⟨t, s', rfl, hstatus, hexecute, rfl, rfl⟩

theorem transition_eq_error {e : HttpException} (h : (transition id refusal execute next).run S = (.error e, S')) :
    S' = S ∨ ∃ t s', S.transfers.find id = some t ∧ refusal t.status = none ∧
      (execute t).run S.inventory = (.error e, s') ∧ S' = { S with inventory := s' } := by
  cases hfind : S.transfers.find id with
  | none =>
    unfold transition at h
    rw [run_bind_of_error (run_findOne_of_eq_none hfind)] at h
    cases h
    exact Or.inl rfl
  | some t =>
    cases hstatus : refusal t.status with
    | some e' =>
      unfold transition at h
      rw [run_bind_of_ok (run_findOne hfind), hstatus] at h
      cases h
      exact Or.inl rfl
    | none =>
      rw [run_transition hfind hstatus] at h
      rcases hexecute : (execute t).run S.inventory with ⟨e' | _, s'⟩
      · rw [hexecute] at h
        cases h
        exact Or.inr ⟨t, s', rfl, hstatus, hexecute, rfl⟩
      · rw [hexecute] at h
        cases h

end Transition

/-! ### What one call can do -/

theorem run_assertTransferDraftIsValid_snd (dto : CreateBranchTransferDto) (S : TransferStore) :
    ((assertTransferDraftIsValid dto).run S).2 = S := by
  unfold assertTransferDraftIsValid
  split_ifs
  · rfl
  · rfl
  · have hbranch : ∀ b, (onInventory (findBranch b)).run S =
        (.ok (S.inventory.branches.lookup b), S) := fun b => run_onInventory rfl
    rw [run_bind_of_ok (hbranch _), run_bind_of_ok (hbranch _), run_read_bind]
    simp only [run_throwIf_bind]
    split_ifs <;> rfl

variable {dto : CreateBranchTransferDto} {source : BranchTransferSource}

theorem create_eq_ok {now : Date} {actorId : Option ℕ} {S S' : TransferStore} {a : ℕ × BranchTransfer}
    (h : (create now dto actorId source).run S = (.ok a, S')) :
    ∃ draft : TransferDraft, (assertTransferDraftIsValid dto).run S = (.ok draft, S) ∧
      a = (S.transfers.next, requestedTransfer now draft actorId source) ∧
      S' = { S with transfers := S.transfers.add (requestedTransfer now draft actorId source) } := by
  obtain ⟨draft, S₁, hdraft, hrest⟩ := run_bind_eq_ok.mp h
  have hsame : S₁ = S := by
    have hsnd := run_assertTransferDraftIsValid_snd dto S
    rw [hdraft] at hsnd
    exact hsnd
  subst hsame
  cases hrest
  exact ⟨draft, hdraft, rfl, rfl⟩

theorem create_eq_error {now : Date} {actorId : Option ℕ} {S S' : TransferStore} {e : HttpException}
    (h : (create now dto actorId source).run S = (.error e, S')) : S' = S := by
  rcases run_bind_eq_error.mp h with hdraft | ⟨draft, S₁, -, hrest⟩
  · have hsnd := run_assertTransferDraftIsValid_snd dto S
    rw [hdraft] at hsnd
    exact hsnd
  · cases hrest

namespace BranchTransferStatus

inductive Next : BranchTransferStatus → BranchTransferStatus → Prop where
  | dispatch : Next requested dispatched
  | receive : Next dispatched received
  | cancelRequested : Next requested cancelled
  | cancelDispatched : Next dispatched cancelled

theorem Next.eq_dispatched {status : BranchTransferStatus} (h : Next status received) : status = dispatched := by
  cases h
  rfl

end BranchTransferStatus

/-- The new row of a transfer after a step: its branches and items stay. -/
structure BranchTransfer.StepsTo (t t' : BranchTransfer) : Prop where
  next : t.status.Next t'.status
  fromBranchId_eq : t'.fromBranchId = t.fromBranchId
  toBranchId_eq : t'.toBranchId = t.toBranchId
  items_eq : t'.items = t.items

def TransferCall.target : TransferCall → BranchTransferStatus
  | create .. => .requested
  | dispatch .. => .dispatched
  | receive .. => .received
  | cancel .. => .cancelled

/-- What the call `c` of the transfer service can do to the tables. -/
inductive TransferChange (c : TransferCall) (S : TransferStore) : TransferStore → Prop where
  | nothing : TransferChange c S S
  | create (t : BranchTransfer) : t.status = .requested →
      TransferChange c S { S with transfers := S.transfers.add t }
  | advance {id : ℕ} {t t' : BranchTransfer} {s' : InventoryStore} {movements : List StockMovement} :
      S.transfers.find id = some t → t.StepsTo t' → t'.status = c.target →
      Moves S.inventory s' (t.shipped t') (t'.reserved - t.reserved) movements →
      TransferChange c S ⟨s', S.transfers.set id t'⟩

variable {now : Date} {S S' : TransferStore} {note : Option String} {actorId : Option ℕ} {a : BranchTransfer}
  {id : ℕ}

theorem dispatchWithin_eq_ok {replenish : Replenishment}
    (h : (dispatchWithin now id actorId note replenish).run S = (.ok a, S')) :
    ∃ t s', S.transfers.find id = some t ∧ t.status = .requested ∧
      t.StepsTo (dispatchedTransfer now actorId note t) ∧
      (forEach t.items (dispatchItem replenish t)).run S.inventory = (.ok (), s') ∧
      S' = ⟨s', S.transfers.set id (dispatchedTransfer now actorId note t)⟩ := by
  obtain ⟨t, s', hfind, hstatus, hloop, -, rfl⟩ := transition_eq_ok h
  have hrequested : t.status = .requested := by
    by_contra hne
    rw [if_pos hne] at hstatus
    cases hstatus
  refine ⟨t, s', hfind, hrequested, ⟨?_, rfl, rfl, rfl⟩, hloop, rfl⟩
  rw [hrequested]
  exact .dispatch

theorem receiveWithin_eq_ok (h : (receiveWithin now id actorId note).run S = (.ok a, S')) :
    ∃ t s', S.transfers.find id = some t ∧ t.status = .dispatched ∧
      t.StepsTo (receivedTransfer now actorId note t) ∧
      (forEach t.items (receiveItem now id t actorId note)).run S.inventory = (.ok (), s') ∧
      S' = ⟨s', S.transfers.set id (receivedTransfer now actorId note t)⟩ := by
  obtain ⟨t, s', hfind, hstatus, hloop, -, rfl⟩ := transition_eq_ok h
  have hdispatched : t.status = .dispatched := by
    by_contra hne
    rw [if_pos hne] at hstatus
    cases hstatus
  refine ⟨t, s', hfind, hdispatched, ⟨?_, rfl, rfl, rfl⟩, hloop, rfl⟩
  rw [hdispatched]
  exact .receive

theorem cancelWithin_eq_ok (h : (cancelWithin now id actorId note).run S = (.ok a, S')) :
    ∃ t s', S.transfers.find id = some t ∧ t.StepsTo (cancelledTransfer now actorId note t) ∧
      (releaseItems t).run S.inventory = (.ok (), s') ∧
      S' = ⟨s', S.transfers.set id (cancelledTransfer now actorId note t)⟩ := by
  obtain ⟨t, s', hfind, hstatus, hrelease, -, rfl⟩ := transition_eq_ok h
  refine ⟨t, s', hfind, ⟨?_, rfl, rfl, rfl⟩, hrelease, rfl⟩
  cases hold : t.status with
  | requested => exact .cancelRequested
  | dispatched => exact .cancelDispatched
  | received => simp [hold] at hstatus
  | cancelled => simp [hold] at hstatus

/-! A transition moves what its transfer has set aside by the difference of its two rows. -/

theorem dispatched_moves {replenish : Replenishment} (hstatus : t.status = .requested)
    (h : (forEach t.items (dispatchItem replenish t)).run s = (.ok (), s')) :
    Moves s s' (t.shipped (dispatchedTransfer now actorId note t))
      ((dispatchedTransfer now actorId note t).reserved - t.reserved) [] := by
  have hold : t.reserved = 0 := if_neg (by rw [hstatus]; decide)
  rw [hold, sub_zero]
  exact dispatchItems_moves h

theorem received_moves (hstatus : t.status = .dispatched)
    (h : (forEach t.items (receiveItem now id t actorId note)).run s = (.ok (), s')) :
    Moves s s' (t.shipped (receivedTransfer now actorId note t))
      ((receivedTransfer now actorId note t).reserved - t.reserved)
      (t.items.flatMap (receivedMovements id t actorId note)) := by
  have hnew : (receivedTransfer now actorId note t).reserved = 0 := if_neg nofun
  have hold : t.reserved = t.outgoing := if_pos hstatus
  rw [hnew, hold, zero_sub]
  exact receiveItems_moves h

theorem cancelled_moves (h : (releaseItems t).run s = (.ok (), s')) :
    Moves s s' (t.shipped (cancelledTransfer now actorId note t))
      ((cancelledTransfer now actorId note t).reserved - t.reserved) [] := by
  have hnew : (cancelledTransfer now actorId note t).reserved = 0 := if_neg nofun
  rw [hnew, zero_sub]
  exact releaseItems_moves h

theorem TransferCall.eq_of_run_eq_error {c : TransferCall} {e : HttpException}
    (h : c.handler.run S = (.error e, S')) : S' = S := by
  cases c with
  | create now dto actorId source =>
    rcases run_bind_eq_error.mp h with hcreate | ⟨a, S₁, -, hrest⟩
    · exact create_eq_error hcreate
    · cases hrest
  | dispatch => exact eq_of_run_transaction_eq_error h
  | receive => exact eq_of_run_transaction_eq_error h
  | cancel => exact eq_of_run_transaction_eq_error h

theorem TransferCall.change (S : TransferStore) (c : TransferCall) : TransferChange c S (c.step S) := by
  unfold TransferCall.step
  rcases hrun : c.handler.run S with ⟨e | a, S'⟩
  · rw [TransferCall.eq_of_run_eq_error hrun]
    exact .nothing
  · cases c with
    | create now dto actorId source =>
      obtain ⟨b, S₁, hcreate, hrest⟩ := run_bind_eq_ok.mp hrun
      cases hrest
      obtain ⟨draft, -, -, rfl⟩ := create_eq_ok hcreate
      exact .create _ rfl
    | dispatch now id actorId note replenish =>
      obtain ⟨t, s', hfind, hstatus, hsteps, hloop, rfl⟩ :=
        dispatchWithin_eq_ok (run_transaction_eq_ok.mp hrun)
      exact .advance hfind hsteps rfl (dispatched_moves hstatus hloop)
    | receive now id actorId note =>
      obtain ⟨t, s', hfind, hstatus, hsteps, hloop, rfl⟩ :=
        receiveWithin_eq_ok (run_transaction_eq_ok.mp hrun)
      exact .advance hfind hsteps rfl (received_moves hstatus hloop)
    | cancel now id actorId note =>
      obtain ⟨t, s', hfind, hsteps, hrelease, rfl⟩ :=
        cancelWithin_eq_ok (run_transaction_eq_ok.mp hrun)
      exact .advance hfind hsteps rfl (cancelled_moves hrelease)

end SuuqBackend
