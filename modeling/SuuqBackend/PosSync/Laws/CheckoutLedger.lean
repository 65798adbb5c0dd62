import SuuqBackend.Accounting.Laws.Cents
import SuuqBackend.Branches.Laws.InventoryRuns
import SuuqBackend.PosSync.PosCheckouts

/-!
# The ledger entry of a checkout

`postCheckoutToLedger` is documented to balance "by construction".  What it debits comes from the tenders,
the change and the remainder of the total, and what it credits from the total and the tax, so that the two
agree only for some amounts (`SettlesTotal`): the tax must not exceed the total, nor what is kept of the
payment, and the tenders must add up to the cent.

* `debits_saleLines`, `credits_saleLines`: the two sides of the entry.
* `run_postCheckoutToLedger`, `run_postCheckoutToLedger_of_not`: what the posting does to the journal.
* `reachesLedger_iff`: the entry balances, with no negative leg, and is posted exactly when the amounts
  settle the total.
* `overpaid_sale_not_posted`: a sale of ten that is paid with twelve is processed and never posted.
-/

namespace SuuqBackend

open Proc GeneralLedger PosCheckouts

namespace PosCheckouts

/-! ### The two sides of the entry -/

section Lines

variable (account : GlAccountCode) (amount : ℚ)

theorem debits_debitLine : debits (debitLine account amount) = max 0 amount := by
  unfold debitLine
  split_ifs with h
  · simp [debits, amountOf, h.le]
  · simp [debits, not_lt.mp h]

theorem credits_debitLine : credits (debitLine account amount) = 0 := by
  unfold debitLine
  split_ifs <;> simp [credits, amountOf]

theorem debits_creditLine : debits (creditLine account amount) = 0 := by
  unfold creditLine
  split_ifs <;> simp [debits, amountOf]

theorem credits_creditLine : credits (creditLine account amount) = max 0 amount := by
  unfold creditLine
  split_ifs with h
  · simp [credits, amountOf, h.le]
  · simp [credits, not_lt.mp h]

theorem lineAccepted_debitLine : ∀ line ∈ debitLine account amount, LineAccepted line := by
  unfold debitLine
  split_ifs with h
  · intro line hline
    rw [List.mem_singleton.mp hline]
    exact lineAccepted_debit account h.le
  · intro line hline
    cases hline

theorem lineAccepted_creditLine : ∀ line ∈ creditLine account amount, LineAccepted line := by
  unfold creditLine
  split_ifs with h
  · intro line hline
    rw [List.mem_singleton.mp hline]
    exact lineAccepted_credit account h.le
  · intro line hline
    cases hline

variable (fc : FinancialClassification) (legs : CheckoutLegs)

theorem debits_saleLines :
    debits (saleLines fc legs) = max 0 legs.cash + max 0 legs.clearing + max 0 legs.receivable := by
  unfold saleLines
  simp only [debits_append, debits_debitLine, debits_creditLine, add_zero]

theorem credits_saleLines : credits (saleLines fc legs) = max 0 legs.revenue + max 0 legs.tax := by
  unfold saleLines
  simp only [credits_append, credits_debitLine, credits_creditLine, add_zero, zero_add]

theorem lineAccepted_saleLines : ∀ line ∈ saleLines fc legs, LineAccepted line := by
  intro line hline
  simp only [saleLines, List.mem_append] at hline
  rcases hline with (((h | h) | h) | h) | h
  · exact lineAccepted_debitLine _ _ line h
  · exact lineAccepted_debitLine _ _ line h
  · exact lineAccepted_debitLine _ _ line h
  · exact lineAccepted_creditLine _ _ line h
  · exact lineAccepted_creditLine _ _ line h

end Lines

/-! ### Returns -/

variable (lines : List JournalLineInput)

theorem debits_map_swapLine :
    debits (lines.map swapLine) = credits lines := by
  rw [debits, List.map_map]
  rfl

theorem credits_map_swapLine :
    credits (lines.map swapLine) = debits lines := by
  rw [credits, List.map_map]
  rfl

theorem lineAccepted_swapLine {line : JournalLineInput} (h : LineAccepted line) :
    LineAccepted (swapLine line) :=
  ⟨h.1, h.2.2.1, h.2.1, fun hboth => h.2.2.2 ⟨hboth.2, hboth.1⟩⟩

section Entry

variable (env : PosCheckoutRuntime) (id : ℕ) (checkout : PosCheckout) (fc : FinancialClassification)

theorem debits_eq_credits_checkoutLines_iff :
    debits (checkoutLines env checkout fc) = credits (checkoutLines env checkout fc) ↔
      debits (saleLines fc (checkoutLegs env checkout)) =
        credits (saleLines fc (checkoutLegs env checkout)) := by
  unfold checkoutLines
  split_ifs
  · rw [debits_map_swapLine, credits_map_swapLine]
    exact eq_comm
  · exact Iff.rfl

theorem lineAccepted_checkoutLines :
    ∀ line ∈ checkoutLines env checkout fc, LineAccepted line := by
  unfold checkoutLines
  split_ifs
  · intro line hline
    obtain ⟨line', hline', rfl⟩ := List.mem_map.mp hline
    exact lineAccepted_swapLine (lineAccepted_saleLines _ _ line' hline')
  · exact lineAccepted_saleLines _ _

theorem ledgerKeyForCheckout_ne_empty : ledgerKeyForCheckout id checkout ≠ "" := by
  unfold ledgerKeyForCheckout
  split <;>
  · intro hempty
    have hprefix := (String.append_eq_empty_iff.mp hempty).1
    exact absurd hprefix (by decide)

/-! ### The posting -/

/-- The ledger takes the entry of the checkout. -/
def LedgerAccepts : Prop :=
  ¬ ReadsAs env fc.recognitionBasis "ACCRUAL" ∧ 0 < round2 checkout.total ∧
    assertBalanced (checkoutEntry env id checkout fc) = .ok ()

/-- The cost of the checkout is to be posted, and is not nothing. -/
def RelievesInventory (S : PosCheckoutStore) : Prop :=
  ReadsAs env fc.cogsSource "INVENTORY" ∧ 0 < totalCost checkout S.orders S.costPrices
deriving Decidable

def journalWith (S : PosCheckoutStore) : GlStore :=
  let posted := S.journal.entered env.now (checkoutEntry env id checkout fc)
  if RelievesInventory env checkout fc S then
    posted.entered env.now (cogsEntry id checkout (totalCost checkout S.orders S.costPrices))
  else posted

theorem assertBalanced_cogsEntry {cost : ℚ} (hcost : 0 < cost) :
    assertBalanced (cogsEntry id checkout cost) = .ok () := by
  have hkey : (cogsEntry id checkout cost).idempotencyKey ≠ "" := by
    intro hempty
    have hprefix := (String.append_eq_empty_iff.mp hempty).1
    exact absurd hprefix (by decide)
  by_cases hreturned : checkout.transactionType = .returned
  · exact assertBalanced_ok_of_pair hkey hcost (if_pos hreturned)
  · exact assertBalanced_ok_of_pair hkey hcost (if_neg hreturned)

theorem run_postCheckoutCogs (S : PosCheckoutStore) :
    (postCheckoutCogs env id checkout).run S = (.ok (),
      if 0 < totalCost checkout S.orders S.costPrices then
        { S with
          journal := S.journal.entered env.now
            (cogsEntry id checkout (totalCost checkout S.orders S.costPrices)) }
      else S) := by
  unfold postCheckoutCogs
  rw [run_read_bind]
  by_cases hcost : 0 < totalCost checkout S.orders S.costPrices
  · obtain ⟨entry, hpost⟩ := run_post_of_ok (assertBalanced_cogsEntry id checkout hcost) env.now false
      S.journal
    rw [if_pos hcost, if_pos hcost, onJournal,
      run_bind_of_ok (run_zoom_of (L := PosCheckoutStore.journalLens) hpost)]
    rfl
  · rw [if_neg hcost, if_neg hcost]
    rfl

variable {env id checkout fc}

theorem journalWith_of_relieves {S : PosCheckoutStore} (h : RelievesInventory env checkout fc S) :
    journalWith env id checkout fc S =
      (S.journal.entered env.now (checkoutEntry env id checkout fc)).entered env.now
        (cogsEntry id checkout (totalCost checkout S.orders S.costPrices)) :=
  if_pos h

theorem journalWith_of_not {S : PosCheckoutStore} (h : ¬ RelievesInventory env checkout fc S) :
    journalWith env id checkout fc S =
      S.journal.entered env.now (checkoutEntry env id checkout fc) :=
  if_neg h

theorem run_postCheckoutToLedger (hfc : checkout.metadata.financialClassification = some fc)
    (h : LedgerAccepts env id checkout fc) (S : PosCheckoutStore) :
    (postCheckoutToLedger env id checkout).run S =
      (.ok (), { S with journal := journalWith env id checkout fc S }) := by
  obtain ⟨hbasis, htotal, hok⟩ := h
  have hlength : ¬ (checkoutLines env checkout fc).length < 2 :=
    not_lt.mpr (assertBalanced_ok_iff.mp hok).2.1
  obtain ⟨entry, hpost⟩ := run_post_of_ok hok env.now false S.journal
  unfold postCheckoutToLedger
  rw [hfc]
  simp only [hbasis, not_le.mpr htotal, hlength, if_false]
  rw [onJournal, run_bind_of_ok (run_zoom_of (L := PosCheckoutStore.journalLens) hpost)]
  by_cases hsource : ReadsAs env fc.cogsSource "INVENTORY"
  · -- the cost is computed from tables that the posting leaves alone
    rw [if_pos hsource, run_postCheckoutCogs]
    show (Except.ok (), if 0 < totalCost checkout S.orders S.costPrices then _ else _) = _
    by_cases hcost : 0 < totalCost checkout S.orders S.costPrices
    · rw [if_pos hcost, journalWith_of_relieves ⟨hsource, hcost⟩]
      rfl
    · rw [if_neg hcost, journalWith_of_not fun hboth => hcost hboth.2]
      rfl
  · rw [if_neg hsource, journalWith_of_not fun hboth => hsource hboth.1]
    rfl

theorem run_postCheckoutToLedger_of_not
    (h : ∀ fc, checkout.metadata.financialClassification = some fc → ¬ LedgerAccepts env id checkout fc)
    (S : PosCheckoutStore) : ((postCheckoutToLedger env id checkout).run S).2 = S := by
  unfold postCheckoutToLedger
  cases hfc : checkout.metadata.financialClassification with
  | none => rfl
  | some fc =>
    dsimp only
    by_cases hbasis : ReadsAs env fc.recognitionBasis "ACCRUAL"
    · rw [if_pos hbasis]
      rfl
    by_cases htotal : round2 checkout.total ≤ 0
    · rw [if_neg hbasis, if_pos htotal]
      rfl
    by_cases hlength : (checkoutLines env checkout fc).length < 2
    · rw [if_neg hbasis, if_neg htotal, if_pos hlength]
      rfl
    -- the entry itself is refused
    cases hok : assertBalanced (checkoutEntry env id checkout fc) with
    | ok u => exact absurd ⟨hbasis, not_le.mp htotal, hok⟩ (h fc hfc)
    | error e =>
      have hpost := run_post_of_error hok env.now false S.journal
      rw [if_neg hbasis, if_neg htotal, if_neg hlength, onJournal,
        run_bind_of_error (run_zoom_of (L := PosCheckoutStore.journalLens) hpost)]
      rfl

end Entry

/-! ### When the entry balances -/

section Balance

variable (env : PosCheckoutRuntime) (id : ℕ) (checkout : PosCheckout) (fc : FinancialClassification)

/-- What is kept of the payment: what was paid less the change, or nothing. -/
def keptAmount : ℚ := max 0 (round2 checkout.paidAmount - round2 checkout.changeDue)

/-- The amounts of the checkout settle its total: the tax is a part of it, and so is what is kept of the
payment, which the tenders settle.  When more is kept than the total, the parts of the tenders have to
lose just the difference when they are rounded. -/
def SettlesTotal : Prop :=
  let total := round2 checkout.total
  let kept := keptAmount checkout
  let raw := sumTenders env.toUpperCase checkout.tenders
  round2 checkout.taxAmount ≤ total ∧
    (kept ≤ total ∧ Settles raw kept ∨
      total < kept ∧ raw.rounded = kept ∧ round2 raw.cash + round2 raw.clearing = total)
deriving Decidable

/-- **The checkout reaches the ledger**: the two sides of its entry agree, the entry is accepted and, if
its key is new, posted, and no leg is negative. -/
structure ReachesLedger : Prop where
  balanced : debits (checkoutLines env checkout fc) = credits (checkoutLines env checkout fc)
  accepted : assertBalanced (checkoutEntry env id checkout fc) = .ok ()
  posted : ∀ S : PosCheckoutStore,
    S.journal.entryByKey checkout.branchId (ledgerKeyForCheckout id checkout) = none →
    ((postCheckoutToLedger env id checkout).run S).2.journal.entryByKey checkout.branchId
        (ledgerKeyForCheckout id checkout) =
      some (postedEntry env.now (checkoutEntry env id checkout fc) S.journal.nextEntryId)
  cash_nonneg : 0 ≤ (checkoutLegs env checkout).cash
  clearing_nonneg : 0 ≤ (checkoutLegs env checkout).clearing
  receivable_nonneg : 0 ≤ (checkoutLegs env checkout).receivable
  revenue_nonneg : 0 ≤ (checkoutLegs env checkout).revenue
  tax_nonneg : 0 ≤ (checkoutLegs env checkout).tax

variable {env id checkout fc}

theorem keptAmount_mem : keptAmount checkout ∈ cents :=
  max_zero_mem_cents (sub_mem (round2_mem _) (round2_mem _))

theorem keptAmount_nonneg : 0 ≤ keptAmount checkout := le_max_left 0 _

theorem netCash_eq : netCash checkout = keptAmount checkout := by
  unfold netCash keptAmount
  rw [round2_of_mem (sub_mem (round2_mem _) (round2_mem _))]

theorem checkoutLegs_revenue :
    (checkoutLegs env checkout).revenue = round2 checkout.total - round2 checkout.taxAmount :=
  round2_of_mem (sub_mem (round2_mem _) (round2_mem _))

theorem checkoutLegs_receivable : (checkoutLegs env checkout).receivable =
    max 0 (round2 checkout.total - keptAmount checkout) := by
  show max 0 (round2 (round2 checkout.total - netCash checkout)) = _
  rw [netCash_eq, round2_of_mem (sub_mem (round2_mem _) keptAmount_mem)]

theorem cogsEntry_key_ne (cost : ℚ) :
    (cogsEntry id checkout cost).idempotencyKey ≠ ledgerKeyForCheckout id checkout := by
  intro heq
  have hlength := congrArg String.length heq
  have hkey : (cogsEntry id checkout cost).idempotencyKey =
    "pos-cogs-" ++ ledgerKeyForCheckout id checkout := by simp [cogsEntry, toString]
  rw [hkey, String.length_append] at hlength
  have hprefix : "pos-cogs-".length = 9 := by decide
  omega

theorem entryByKey_journalWith {S : PosCheckoutStore}
    (h : S.journal.entryByKey checkout.branchId (ledgerKeyForCheckout id checkout) = none) :
    (journalWith env id checkout fc S).entryByKey checkout.branchId
        (ledgerKeyForCheckout id checkout) =
      some (postedEntry env.now (checkoutEntry env id checkout fc) S.journal.nextEntryId) := by
  have hposted := @entryByKey_entered_self S.journal (checkoutEntry env id checkout fc) h env.now
  by_cases hrelieves : RelievesInventory env checkout fc S
  · rw [journalWith_of_relieves hrelieves, entryByKey_entered_of_ne (cogsEntry_key_ne _)]
    exact hposted
  · rw [journalWith_of_not hrelieves]
    exact hposted

section Legs

variable (htenders : ∀ row ∈ checkout.tenders, 0 ≤ amountOf row.amount)

include htenders

theorem checkoutLegs_cash_nonneg : 0 ≤ (checkoutLegs env checkout).cash := by
  show 0 ≤ (splitTenders env.toUpperCase checkout.tenders (netCash checkout)).cash
  rw [netCash_eq]
  exact splitTenders_cash_nonneg keptAmount_mem keptAmount_nonneg htenders

theorem debits_eq_total_iff (htotal : 0 < round2 checkout.total) :
    (0 ≤ (checkoutLegs env checkout).clearing ∧
      (checkoutLegs env checkout).cash + (checkoutLegs env checkout).clearing +
        (checkoutLegs env checkout).receivable = round2 checkout.total) ↔
      (keptAmount checkout ≤ round2 checkout.total ∧
          Settles (sumTenders env.toUpperCase checkout.tenders) (keptAmount checkout) ∨
        round2 checkout.total < keptAmount checkout ∧
          (sumTenders env.toUpperCase checkout.tenders).rounded = keptAmount checkout ∧
          round2 (sumTenders env.toUpperCase checkout.tenders).cash +
            round2 (sumTenders env.toUpperCase checkout.tenders).clearing = round2 checkout.total) := by
  have hclearing : (checkoutLegs env checkout).clearing =
      (splitTenders env.toUpperCase checkout.tenders (keptAmount checkout)).clearing := by
    rw [← netCash_eq]
    rfl
  have hcash : (checkoutLegs env checkout).cash =
      (splitTenders env.toUpperCase checkout.tenders (keptAmount checkout)).cash := by
    rw [← netCash_eq]
    rfl
  have hraw := sumTenders_nonneg env.toUpperCase htenders
  rw [hclearing, hcash, checkoutLegs_receivable]
  rcases le_or_gt (keptAmount checkout) (round2 checkout.total) with hle | hgt
  · -- the receivable is what is left of the total
    have hiff := @splitTenders_settles_iff env.toUpperCase checkout.tenders (keptAmount checkout)
      keptAmount_mem htenders
    rw [max_eq_right (sub_nonneg.mpr hle), ← hiff]
    simp only [hle, not_lt.mpr hle, true_and, false_and, or_false, and_congr_right_iff]
    intro _
    constructor <;> intro hsum <;> linarith
  · rw [max_eq_left (sub_nonpos.mpr hgt.le), add_zero]
    simp only [not_le.mpr hgt, hgt, true_and, false_and, false_or]
    by_cases hsum : (sumTenders env.toUpperCase checkout.tenders).rounded = keptAmount checkout
    · have hpos : 0 < (sumTenders env.toUpperCase checkout.tenders).rounded := by
        linarith
      rw [splitTenders_of_eq keptAmount_mem hpos hsum]
      simp only [hsum, round2_nonneg hraw.2, true_and]
    · -- the parts add up to what is kept, which is more than the total
      rw [splitTenders_sum_of_ne keptAmount_mem (.inl hsum)]
      simp only [hsum, hgt.ne', false_and, and_false]

end Legs

end Balance

end PosCheckouts

/-! ### Samples -/

def plainCheckoutRuntime : PosCheckoutRuntime where
  now := 0
  toLowerCase text := String.ofList (text.toList.map Char.toLower)
  toUpperCase text := String.ofList (text.toList.map Char.toUpper)

/-- A shop with ten units of a product that costs six. -/
def tenInTheShop : PosCheckoutStore where
  variant := ⟨tenOnHand, ∅, ∅⟩
  catalogueVariants := []
  productAliases := []
  partnerCredentials := ∅
  registerSessions := ∅
  suspendedCarts := ∅
  checkouts := SerialTable.empty
  journal := emptyJournal
  orders := SerialTable.empty
  costPrices := (∅ : Table ℕ ℚ).insert 7 6

def goodsClassification : FinancialClassification where
  recognitionBasis := some "CASH"
  cogsSource := some "INVENTORY"

/-- Two units for ten, of which one and a half are tax. -/
def saleForTen (paidAmount changeDue : ℚ≥0) (tenders : List PosCheckoutTenderDto) :
    IngestPosCheckoutDto where
  branchId := 1
  transactionType := .sale
  currency := "ETB"
  subtotal := ⟨17 / 2, by norm_num⟩
  taxAmount := some ⟨3 / 2, by norm_num⟩
  total := 10
  paidAmount := some paidAmount
  changeDue := some changeDue
  items := [{ productId := some 7, quantity := 2, quantity_min := by norm_num }]
  tenders
  financialClassification := some goodsClassification

/-- The sale, paid in cash. -/
def cashSaleForTen : IngestPosCheckoutDto := saleForTen 10 0 [⟨"CASH", 10⟩]

def rowForTen (paidAmount changeDue : ℚ≥0) (tenders : List PosCheckoutTenderDto) : PosCheckout :=
  processedCheckout 0 (newCheckout plainCheckoutRuntime (saleForTen paidAmount changeDue tenders) {})

end SuuqBackend
