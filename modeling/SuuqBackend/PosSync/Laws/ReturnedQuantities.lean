import SuuqBackend.PosSync.Laws.CheckoutIngest

/-!
# Sold and returned quantities

What is returned of a product on a receipt, against what was sold of it on the sales with that receipt number.  A return
is only checked for a processed sale with the number: its quantities, the returns before it and a later void of the sale
are not.  `returns_covered_iff` says of which runs the returns stay within the sales.
-/

namespace SuuqBackend

open PosCheckouts SerialTable

/-- The product of a stored line: what its id, or its alias for the branch and the credential, stands for. -/
abbrev ProductOfLine : Type := ℕ → Option ℕ → PosCheckoutItem → Option ℕ

namespace PosCheckout

variable (productOf : ProductOfLine) (branchId : ℕ) (receipt : String) (product : ℕ) (checkout : PosCheckout)

/-- The quantity of a product on the lines of a checkout. -/
def quantityOf : ℚ :=
  (checkout.items.map fun item =>
    if productOf checkout.branchId checkout.partnerCredentialId item = some product then |item.quantity| else 0).sum

/-- `returnContext?.sourceReceiptNumber`. -/
def sourceReceiptNumber : Option String := checkout.metadata.returnContext.bind ReturnContext.sourceReceiptNumber

def IsSaleOf : Prop :=
  checkout.branchId = branchId ∧ checkout.transactionType = .sale ∧ checkout.status = .processed ∧
    checkout.receiptNumber = some receipt
deriving Decidable

def IsReturnOf : Prop :=
  checkout.branchId = branchId ∧ checkout.transactionType = .returned ∧ checkout.status = .processed ∧
    checkout.sourceReceiptNumber = some receipt
deriving Decidable

def soldOf : ℚ := if checkout.IsSaleOf branchId receipt then checkout.quantityOf productOf product else 0

def returnedOf : ℚ := if checkout.IsReturnOf branchId receipt then checkout.quantityOf productOf product else 0

variable {productOf branchId receipt product checkout}

theorem quantityOf_nonneg : 0 ≤ checkout.quantityOf productOf product := by
  refine List.sum_nonneg fun q hq => ?_
  obtain ⟨item, -, rfl⟩ := List.mem_map.mp hq
  split_ifs
  · exact abs_nonneg _
  · exact le_refl 0

theorem soldOf_nonneg : 0 ≤ checkout.soldOf productOf branchId receipt product := by
  unfold soldOf
  split_ifs
  · exact quantityOf_nonneg
  · exact le_refl 0

theorem returnedOf_nonneg : 0 ≤ checkout.returnedOf productOf branchId receipt product := by
  unfold returnedOf
  split_ifs
  · exact quantityOf_nonneg
  · exact le_refl 0

end PosCheckout

namespace PosCheckoutStore

variable (productOf : ProductOfLine) (S : PosCheckoutStore) (branchId : ℕ) (receipt : String) (product : ℕ)

/-- What the processed sales with the receipt number say was sold. -/
def sold : ℚ := S.checkouts.total (PosCheckout.soldOf productOf branchId receipt product)

/-- What the processed returns for the receipt number say was returned. -/
def returned : ℚ := S.checkouts.total (PosCheckout.returnedOf productOf branchId receipt product)

/-- No receipt has more of a product returned than sold. -/
def Covered : Prop :=
  ∀ branchId receipt product, S.returned productOf branchId receipt product ≤ S.sold productOf branchId receipt product

/-- After the returns, the sales with the receipt number still have the quantities of the checkout. -/
def Leaves (checkout : PosCheckout) (receipt : String) : Prop :=
  ∀ product, S.returned productOf checkout.branchId receipt product + checkout.quantityOf productOf product ≤
    S.sold productOf checkout.branchId receipt product

end PosCheckoutStore

inductive TillCall where
  | ingest (call : IngestCall)
  | void (env : PosCheckoutRuntime) (id : ℕ) (dto : VoidPosCheckoutDto) (actorId : ℕ) (actorBranchId : Option ℕ)

/-- The transaction of a request that comes to it goes through. -/
def IngestCall.Accepted (S : PosCheckoutStore) (c : IngestCall) : Prop :=
  Enters c.env c.dto c.actor S ∧
    ((ingestWithin c.env c.dto c.actor S.checkouts.next (newCheckout c.env c.dto c.actor)).run
      { S with checkouts := S.checkouts.add (newCheckout c.env c.dto c.actor) }).1 = .ok ()

def voidedBy (S : PosCheckoutStore) (id : ℕ) (actorBranchId : Option ℕ) : Option PosCheckout :=
  (S.checkouts.find id).filter fun row => (∀ b ∈ actorBranchId, row.branchId = b) ∧ row.status ≠ .voided

namespace TillCall

def step (S : PosCheckoutStore) : TillCall → PosCheckoutStore
  | ingest call => call.step S
  | void env id dto actorId actorBranchId => ((voidCheckout env id dto actorId actorBranchId).run S).2

/-- A return that is accepted asks for no more than is left on its receipt, and the void of a processed sale leaves what
was returned. -/
def LeavesCovered (productOf : ProductOfLine) (S : PosCheckoutStore) : TillCall → Prop
  | ingest call =>
    let checkout := newCheckout call.env call.dto call.actor
    call.Accepted S → checkout.transactionType = .returned →
      ∀ receipt ∈ checkout.sourceReceiptNumber, S.Leaves productOf checkout receipt
  | void _ id _ _ actorBranchId =>
    ∀ row ∈ voidedBy S id actorBranchId, row.status = .processed → row.transactionType = .sale →
      ∀ receipt ∈ row.receiptNumber, S.Leaves productOf row receipt

end TillCall

/-! ### What the calls do to the checkouts -/

open Proc

theorem checkouts_ingest (S : PosCheckoutStore) (c : IngestCall) :
    (c.Accepted S → ∃ registerSession suspendedCart, (c.step S).checkouts = S.checkouts.add
      (processedCheckout c.env.now (linkedCheckout (newCheckout c.env c.dto c.actor) registerSession suspendedCart))) ∧
    (¬ c.Accepted S → (c.step S).checkouts = S.checkouts ∨
      ∃ row, row.status = .failed ∧ (c.step S).checkouts = S.checkouts.add row) := by
  by_cases henters : Enters c.env c.dto c.actor S
  · have hstep : c.step S = _ := snd_run_ingest_of_enters c.env c.dto c.actor S henters
    rw [hstep]
    rcases run_ingestWithin c.env c.dto c.actor S.checkouts.next (newCheckout c.env c.dto c.actor)
        { S with checkouts := S.checkouts.add (newCheckout c.env c.dto c.actor) } with
      ⟨e, checkout', T, hrun, -⟩ | ⟨registerSession, suspendedCart, S₁, movements, carts, -, -, hrun⟩
    · refine ⟨fun haccepted => ?_, fun _ => .inr ⟨failedCheckout c.env.now checkout' e, rfl, ?_⟩⟩
      · rw [IngestCall.Accepted, hrun] at haccepted
        cases haccepted.2
      · rw [snd_run_processNew_of_error c.env c.dto c.actor S hrun]
    · refine ⟨fun _ => ⟨registerSession, suspendedCart, ?_⟩, fun hnot => absurd ⟨henters, by rw [hrun]⟩ hnot⟩
      rw [set_add_next] at hrun
      rw [snd_run_processNew_of_ok c.env c.dto c.actor _ hrun (find_add_self _ _)]
      obtain ⟨journal, hledger⟩ := postCheckoutToLedger_writes c.env S.checkouts.next
        (processedCheckout c.env.now (linkedCheckout (newCheckout c.env c.dto c.actor) registerSession suspendedCart))
        { S₁ with
          suspendedCarts := carts
          checkouts := S.checkouts.add (processedCheckout c.env.now
            (linkedCheckout (newCheckout c.env c.dto c.actor) registerSession suspendedCart)) }
      rw [hledger]
  · have hstep : c.step S = S := snd_run_ingest_of_not c.env c.dto c.actor S henters
    rw [hstep]
    exact ⟨fun haccepted => absurd haccepted.1 henters, fun _ => .inl rfl⟩

theorem checkouts_void (S : PosCheckoutStore) (env : PosCheckoutRuntime) (id : ℕ) (dto : VoidPosCheckoutDto)
    (actorId : ℕ) (actorBranchId : Option ℕ) :
    (TillCall.step S (.void env id dto actorId actorBranchId)).checkouts =
      match voidedBy S id actorBranchId with
      | some row => S.checkouts.set id { row with
          status := .voided
          voidedAt := some env.now
          voidedByUserId := some (dto.authorisedByUserId.getD actorId)
          voidReason := dto.reason }
      | none => S.checkouts := by
  dsimp only [TillCall.step]
  unfold voidCheckout PosCheckoutRepository.findCheckout voidedBy
  rw [run_read_bind]
  cases S.checkouts.find id with
  | none => rfl
  | some row =>
    dsimp only
    rw [run_throwIf_bind]
    by_cases hscope : ∃ b ∈ actorBranchId, row.branchId ≠ b
    · rw [if_pos hscope, Option.filter_some, if_neg]
      obtain ⟨b, hb, hne⟩ := hscope
      simpa using fun h => absurd (h b hb) hne
    rw [if_neg hscope, run_throwIf_bind]
    push Not at hscope
    by_cases hvoided : row.status = .voided
    · rw [if_pos hvoided, Option.filter_some, if_neg (by simp [hvoided])]
    rw [if_neg hvoided, Option.filter_some, if_pos (decide_eq_true ⟨hscope, hvoided⟩),
      PosCheckoutRepository.saveCheckout, run_write_bind, run_bind, run_attempt, onJournal, run_zoom]
    rfl

/-! ### One step -/

section Step

variable {productOf : ProductOfLine} {S S' : PosCheckoutStore}

theorem covered_add_iff (h : S.Covered productOf) {row : PosCheckout}
    (hadd : S'.checkouts = S.checkouts.add row) : S'.Covered productOf ↔
      (row.status = .processed → row.transactionType = .returned →
        ∀ receipt ∈ row.sourceReceiptNumber, S.Leaves productOf row receipt) := by
  have hsold : ∀ branchId receipt product, S'.sold productOf branchId receipt product =
      S.sold productOf branchId receipt product + row.soldOf productOf branchId receipt product := by
    intro branchId receipt product
    rw [PosCheckoutStore.sold, hadd, total_add, PosCheckoutStore.sold, add_comm]
  have hreturned : ∀ branchId receipt product, S'.returned productOf branchId receipt product =
      S.returned productOf branchId receipt product + row.returnedOf productOf branchId receipt product := by
    intro branchId receipt product
    rw [PosCheckoutStore.returned, hadd, total_add, PosCheckoutStore.returned, add_comm]
  constructor
  · intro h' hstatus htype receipt hreceipt product
    have hnot : ¬ row.IsSaleOf row.branchId receipt := fun hsale => by
      rw [hsale.2.1] at htype
      cases htype
    have hle := h' row.branchId receipt product
    rwa [hsold, hreturned, PosCheckout.soldOf, if_neg hnot, add_zero, PosCheckout.returnedOf,
      if_pos ⟨rfl, htype, hstatus, hreceipt⟩] at hle
  · intro hleaves branchId receipt product
    have hnonneg : 0 ≤ row.soldOf productOf branchId receipt product := PosCheckout.soldOf_nonneg
    rw [hsold, hreturned]
    by_cases hreturn : row.IsReturnOf branchId receipt
    · obtain ⟨rfl, htype, hstatus, hreceipt⟩ := hreturn
      have hle := hleaves hstatus htype receipt hreceipt product
      rw [PosCheckout.returnedOf, if_pos ⟨rfl, htype, hstatus, hreceipt⟩]
      linarith
    · have hle := h branchId receipt product
      rw [PosCheckout.returnedOf, if_neg hreturn]
      linarith

theorem covered_set_iff (h : S.Covered productOf) {id : ℕ} {row voided : PosCheckout}
    (hfind : S.checkouts.find id = some row) (hvoided : voided.status = .voided)
    (hset : S'.checkouts = S.checkouts.set id voided) : S'.Covered productOf ↔
      (row.status = .processed → row.transactionType = .sale →
        ∀ receipt ∈ row.receiptNumber, S.Leaves productOf row receipt) := by
  have hne : voided.status ≠ .processed := by
    rw [hvoided]
    decide
  have hsold : ∀ branchId receipt product, S'.sold productOf branchId receipt product =
      S.sold productOf branchId receipt product - row.soldOf productOf branchId receipt product := by
    intro branchId receipt product
    rw [PosCheckoutStore.sold, hset, total_set _ hfind, PosCheckoutStore.sold]
    rw [show voided.soldOf productOf branchId receipt product = 0 from if_neg fun hsale => hne hsale.2.2.1, add_zero]
  have hreturned : ∀ branchId receipt product, S'.returned productOf branchId receipt product =
      S.returned productOf branchId receipt product - row.returnedOf productOf branchId receipt product := by
    intro branchId receipt product
    rw [PosCheckoutStore.returned, hset, total_set _ hfind, PosCheckoutStore.returned]
    rw [show voided.returnedOf productOf branchId receipt product = 0 from if_neg fun hreturn => hne hreturn.2.2.1,
      add_zero]
  constructor
  · intro h' hstatus htype receipt hreceipt product
    have hnot : ¬ row.IsReturnOf row.branchId receipt := fun hreturn => by
      rw [hreturn.2.1] at htype
      cases htype
    have hle := h' row.branchId receipt product
    rw [hsold, hreturned, PosCheckout.returnedOf, if_neg hnot, PosCheckout.soldOf,
      if_pos ⟨rfl, htype, hstatus, hreceipt⟩] at hle
    linarith
  · intro hleaves branchId receipt product
    have hnonneg : 0 ≤ row.returnedOf productOf branchId receipt product := PosCheckout.returnedOf_nonneg
    rw [hsold, hreturned]
    by_cases hsale : row.IsSaleOf branchId receipt
    · obtain ⟨rfl, htype, hstatus, hreceipt⟩ := hsale
      have hle := hleaves hstatus htype receipt hreceipt product
      rw [PosCheckout.soldOf, if_pos ⟨rfl, htype, hstatus, hreceipt⟩]
      linarith
    · have hle := h branchId receipt product
      rw [PosCheckout.soldOf, if_neg hsale]
      linarith

/-- **One step**: the returns stay within the sales exactly when the call leaves them covered. -/
theorem covered_step_iff (h : S.Covered productOf) (call : TillCall) :
    (call.step S).Covered productOf ↔ call.LeavesCovered productOf S := by
  have hcongr : ∀ {T : PosCheckoutStore}, T.checkouts = S.checkouts → T.Covered productOf := by
    intro T hT branchId receipt product
    rw [PosCheckoutStore.sold, PosCheckoutStore.returned, hT]
    exact h branchId receipt product
  cases call with
  | ingest c =>
    obtain ⟨hyes, hno⟩ := checkouts_ingest S c
    dsimp only [TillCall.step, TillCall.LeavesCovered]
    by_cases haccepted : c.Accepted S
    · obtain ⟨registerSession, suspendedCart, hadd⟩ := hyes haccepted
      rw [covered_add_iff h hadd]
      exact ⟨fun hleaves _ => hleaves rfl, fun hleaves _ => hleaves haccepted⟩
    · refine iff_of_true ?_ fun haccepted' => absurd haccepted' haccepted
      obtain hsame | ⟨row, hfailed, hadd⟩ := hno haccepted
      · exact hcongr hsame
      · refine (covered_add_iff h hadd).mpr fun hprocessed => ?_
        rw [hfailed] at hprocessed
        cases hprocessed
  | void env id dto actorId actorBranchId =>
    have hstep := checkouts_void S env id dto actorId actorBranchId
    dsimp only [TillCall.LeavesCovered]
    cases hvoided : voidedBy S id actorBranchId with
    | none =>
      rw [hvoided] at hstep
      exact iff_of_true (hcongr hstep) fun _ hrow => by cases hrow
    | some row =>
      rw [hvoided] at hstep
      rw [covered_set_iff h (Option.filter_eq_some_iff.mp hvoided).1 rfl hstep]
      simp only [Option.mem_some, forall_eq']

/-! ### Runs -/

/-- **When returns never exceed the sales**: whatever products the lines stand for, from checkouts whose returns are
covered, the returns on every receipt stay within its sales in every state of a run exactly when every return that is
accepted asks for no more than is left, and every void of a processed sale leaves what was returned. -/
theorem returns_covered_iff (hcovered : S.Covered productOf) (calls : List TillCall) :
    (∀ n, (Run.after TillCall.step S (calls.take n)).Covered productOf) ↔
      Run.Along TillCall.step (fun S call => call.LeavesCovered productOf S) S calls :=
  Run.forall_take_iff_along (I := PosCheckoutStore.Covered productOf) (fun _ => id)
    (fun _ call h => (covered_step_iff h call).mpr) (fun _ call h => (covered_step_iff h call).mp) hcovered calls

end Step

def idsOnly : ProductOfLine := fun _ _ item => item.productId

def saleOnReceipt : TillCall :=
  .ingest ⟨plainCheckoutRuntime, { cashSaleForTen with receiptNumber := some "R-1" }, {}⟩

def returnOnReceipt : TillCall :=
  .ingest ⟨plainCheckoutRuntime, { cashSaleForTen with
    transactionType := .returned, sourceReceiptNumber := some "R-1" }, {}⟩

def voidOfSale : TillCall := .void plainCheckoutRuntime 1 {} 7 none

theorem covered_tenInTheShop : tenInTheShop.Covered idsOnly := by
  intro branchId receipt product
  exact le_refl 0

theorem two_sales_covered :
    (Run.after TillCall.step tenInTheShop [saleOnReceipt, saleOnReceipt]).sold idsOnly 1 "R-1" 7 = 4 ∧
      ∀ n, (Run.after TillCall.step tenInTheShop ([saleOnReceipt, saleOnReceipt].take n)).Covered idsOnly :=
  ⟨by decide +kernel, (returns_covered_iff covered_tenInTheShop [saleOnReceipt, saleOnReceipt]).mpr
    ⟨fun _ htype => (by cases htype), fun _ htype => (by cases htype), trivial⟩⟩

/-- The units are returned a second time; or the sale is voided after its return. -/
theorem returned_beyond_sale :
    let twice := Run.after TillCall.step tenInTheShop [saleOnReceipt, returnOnReceipt, returnOnReceipt]
    let voided := Run.after TillCall.step tenInTheShop [saleOnReceipt, returnOnReceipt, voidOfSale]
    tenInTheShop.Covered idsOnly ∧
      twice.sold idsOnly 1 "R-1" 7 = 2 ∧ twice.returned idsOnly 1 "R-1" 7 = 4 ∧ ¬ twice.Covered idsOnly ∧
      voided.sold idsOnly 1 "R-1" 7 = 0 ∧ voided.returned idsOnly 1 "R-1" 7 = 2 ∧ ¬ voided.Covered idsOnly := by
  intro twice voided
  have hsold : twice.sold idsOnly 1 "R-1" 7 = 2 := by decide +kernel
  have hreturned : twice.returned idsOnly 1 "R-1" 7 = 4 := by decide +kernel
  have hsold' : voided.sold idsOnly 1 "R-1" 7 = 0 := by decide +kernel
  have hreturned' : voided.returned idsOnly 1 "R-1" 7 = 2 := by decide +kernel
  refine ⟨covered_tenInTheShop, hsold, hreturned, fun h => ?_, hsold', hreturned', fun h => ?_⟩
  · have hle := h 1 "R-1" 7
    rw [hsold, hreturned] at hle
    norm_num at hle
  · have hle := h 1 "R-1" 7
    rw [hsold', hreturned'] at hle
    norm_num at hle

end SuuqBackend
