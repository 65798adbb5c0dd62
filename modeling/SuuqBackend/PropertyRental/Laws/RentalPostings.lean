import SuuqBackend.Accounting.Laws.EventKeys
import SuuqBackend.Accounting.Laws.SourceNets
import SuuqBackend.PropertyRental.RevenueAccrual

/-!
# The keys of the entries of a booking

Every entry that is posted for a booking has a key that names the booking and what was posted: a
`RentalKey` is what such a key stands for.
-/

namespace SuuqBackend

open PropertyRentalBookings RevenueAccrual TextKeys

inductive RentalPosting where
  | payment
  | depositOpen
  | settlement
  | depositRefund
  | depositForfeit
  | accrual
deriving DecidableEq

/-- What the keys of these entries begin with. -/
def RentalPosting.label : RentalPosting → String
  | payment => "prop-pay-"
  | depositOpen => "prop-deposit-open-"
  | settlement => "prop-settle-"
  | depositRefund => "prop-deposit-refund-"
  | depositForfeit => "prop-deposit-forfeit-"
  | accrual => "accrual-"

theorem RentalPosting.label_append_ne {p p' : RentalPosting} (h : p ≠ p') (rest rest' : String) :
    p.label ++ rest ≠ p'.label ++ rest' := by
  have hlabels : ¬ p.label.toList <+: p'.label.toList ∧ ¬ p'.label.toList <+: p.label.toList := by
    revert h
    cases p <;> cases p' <;> decide
  exact append_ne_append hlabels.1 hlabels.2 rest rest'

/-- The keys under which entries are posted for a booking. -/
inductive RentalKey where
  | payment (bookingId : ℕ) (ref : EventRef)
  | depositOpen (bookingId : ℕ)
  | settlement (bookingId : ℕ)
  | depositRefund (bookingId : ℕ)
  | depositForfeit (bookingId : ℕ)
  | accrual (bookingId : ℕ) (recognizedCents : ℤ)

namespace RentalKey

def posting : RentalKey → RentalPosting
  | payment .. => .payment
  | depositOpen _ => .depositOpen
  | settlement _ => .settlement
  | depositRefund _ => .depositRefund
  | depositForfeit _ => .depositForfeit
  | accrual .. => .accrual

def bookingId : RentalKey → ℕ
  | payment id _ | depositOpen id | settlement id | depositRefund id | depositForfeit id
  | accrual id _ => id

def rest : RentalKey → String
  | payment id ref => toString id ++ "-" ++ ref.text
  | depositOpen id | settlement id | depositRefund id | depositForfeit id => toString id
  | accrual id recognizedCents => toString id ++ "-" ++ toString recognizedCents

def text (k : RentalKey) : String := k.posting.label ++ k.rest

theorem text_ne_empty (k : RentalKey) : k.text ≠ "" := by
  intro h
  have hlabel : k.posting.label = "" := (String.append_eq_empty_iff.mp h).1
  revert hlabel
  cases k.posting <;> decide

/-- Two keys of payments of one booking that read the same: the client of one has chosen the number of the
other. -/
def Clash : RentalKey → RentalKey → Prop
  | payment id ref, payment id' ref' => id = id' ∧ ref.Clashes ref'
  | _, _ => False

theorem text_eq_iff (k k' : RentalKey) : k.text = k'.text ↔ k = k' ∨ Clash k k' := by
  by_cases hposting : k.posting = k'.posting
  · unfold text
    rw [hposting, String.append_right_inj]
    cases k with
    | payment id ref =>
      cases k' with
      | payment id' ref' =>
        simp only [rest, Clash, RentalKey.payment.injEq, toString_dash_inj, EventRef.text_eq_iff]
        exact and_or_left
      | _ => cases hposting
    | accrual id recognizedCents =>
      cases k' with
      | accrual id' recognizedCents' =>
        simp only [rest, Clash, RentalKey.accrual.injEq, toString_dash_inj, toString_int_inj, or_false]
      | _ => cases hposting
    | depositOpen id =>
      cases k' with
      | depositOpen id' => simp only [rest, Clash, RentalKey.depositOpen.injEq, toString_inj, or_false]
      | _ => cases hposting
    | settlement id =>
      cases k' with
      | settlement id' => simp only [rest, Clash, RentalKey.settlement.injEq, toString_inj, or_false]
      | _ => cases hposting
    | depositRefund id =>
      cases k' with
      | depositRefund id' => simp only [rest, Clash, RentalKey.depositRefund.injEq, toString_inj, or_false]
      | _ => cases hposting
    | depositForfeit id =>
      cases k' with
      | depositForfeit id' => simp only [rest, Clash, RentalKey.depositForfeit.injEq, toString_inj, or_false]
      | _ => cases hposting
  · refine iff_of_false (RentalPosting.label_append_ne hposting _ _) ?_
    rintro (rfl | hclash)
    · exact hposting rfl
    · cases k with
      | payment id ref =>
        cases k' with
        | payment id' ref' => exact hposting rfl
        | _ => exact hclash
      | _ => exact hclash

end RentalKey

/-! ### The keys of the entries -/

theorem paymentKey_text (bookingId : ℕ) (idempotencyKey : Option String) (earlier : ℕ) :
    paymentKey bookingId idempotencyKey earlier = (RentalKey.payment bookingId (.of idempotencyKey earlier)).text :=
  paymentKey_eq bookingId idempotencyKey earlier

theorem accrualKey_text (bookingId : ℕ) (recognizable : ℚ) :
    accrualKey bookingId recognizable = (RentalKey.accrual bookingId (round (recognizable * 100))).text := by
  unfold accrualKey
  simp [RentalKey.text, RentalKey.posting, RentalPosting.label, RentalKey.rest, toString, String.append_assoc]

/-!
## What is posted for a booking

For each booking the ledger holds rent that is deferred, a deposit, and rent that has become revenue.  A
`RentalMove` is an entry that the ledger accepts, with the amounts by which it moves the three.

* `deferral_move`, `depositOpen_move`, `settlement_move`, `depositRefund_move`, `depositForfeit_move`,
  `accrual_move`: what the entries of a booking move.
* `books_entered`: the three amounts of every booking after a post.
-/

open GeneralLedger

/-! ### The amounts -/

def ofBooking (bookingId : ℕ) (_ : GlJournalSourceType) (sourceId : Option String) : Bool :=
  sourceId = some (toString bookingId)

/-- The entries of a booking that are about its rent: a forfeited deposit is revenue, but no rent. -/
def ofRent (bookingId : ℕ) (sourceType : GlJournalSourceType) (sourceId : Option String) : Bool :=
  sourceId = some (toString bookingId) ∧ sourceType ≠ .depositForfeit

namespace GlStore

def deferredRent (J : GlStore) (bookingId : ℕ) : ℚ :=
  -J.netWhere (ofBooking bookingId) GlAccountCode.deferredRevenue.code

def depositHeld (J : GlStore) (bookingId : ℕ) : ℚ :=
  -J.netWhere (ofBooking bookingId) GlAccountCode.customerDeposits.code

def rentRevenue (J : GlStore) (bookingId : ℕ) : ℚ :=
  -J.netWhere (ofRent bookingId) GlAccountCode.rentalRevenue.code

end GlStore

/-- An accepted entry of a booking that moves its deferred rent, its deposit and its rental revenue by
these amounts. -/
structure RentalMove (input : PostJournalEntryInput) (bookingId : ℕ) (deferred deposit revenue : ℚ) :
    Prop where
  accepted : assertBalanced input = .ok ()
  source : input.sourceId = some (toString bookingId)
  deferred_eq : inputEffect input.lines GlAccountCode.deferredRevenue.code = -deferred
  deposit_eq : inputEffect input.lines GlAccountCode.customerDeposits.code = -deposit
  revenue_eq : (if input.sourceType = .depositForfeit then 0
    else inputEffect input.lines GlAccountCode.rentalRevenue.code) = -revenue

section Books

variable {J : GlStore} (hlinked : J.Linked) {input : PostJournalEntryInput} {bookingId : ℕ}
  {deferred deposit revenue : ℚ} (hmove : RentalMove input bookingId deferred deposit revenue) (now : ℤ)

include hlinked hmove

/-- **The amounts of the booking** after the post of an entry under a new key. -/
theorem books_entered (hnew : J.entryByKey input.branchId input.idempotencyKey = none) :
    (J.entered now input).deferredRent bookingId = J.deferredRent bookingId + deferred ∧
      (J.entered now input).depositHeld bookingId = J.depositHeld bookingId + deposit ∧
      (J.entered now input).rentRevenue bookingId = J.rentRevenue bookingId + revenue := by
  have hof : ofBooking bookingId input.sourceType input.sourceId = true := by
    simp [ofBooking, hmove.source]
  have hrent : (if ofRent bookingId input.sourceType input.sourceId then
      inputEffect input.lines GlAccountCode.rentalRevenue.code else 0) = -revenue := by
    rw [← hmove.revenue_eq]
    by_cases hforfeit : input.sourceType = .depositForfeit
    · simp [ofRent, hmove.source, hforfeit]
    · simp [ofRent, hmove.source, hforfeit]
  refine ⟨?_, ?_, ?_⟩
  · rw [GlStore.deferredRent, netWhere_entered hlinked _ _ _ hmove.accepted, if_pos ⟨hnew, hof⟩,
      hmove.deferred_eq, GlStore.deferredRent]
    ring
  · rw [GlStore.depositHeld, netWhere_entered hlinked _ _ _ hmove.accepted, if_pos ⟨hnew, hof⟩,
      hmove.deposit_eq, GlStore.depositHeld]
    ring
  · rw [GlStore.rentRevenue, netWhere_entered hlinked _ _ _ hmove.accepted, GlStore.rentRevenue]
    simp only [hnew, true_and]
    rw [hrent]
    ring

theorem books_entered_of_ne {other : ℕ} (hne : other ≠ bookingId) :
    (J.entered now input).deferredRent other = J.deferredRent other ∧
      (J.entered now input).depositHeld other = J.depositHeld other ∧
      (J.entered now input).rentRevenue other = J.rentRevenue other := by
  have hsource : input.sourceId ≠ some (toString other) := by
    rw [hmove.source]
    exact fun h => hne (toString_inj.mp (Option.some.inj h)).symm
  have hof : ofBooking other input.sourceType input.sourceId = false := decide_eq_false hsource
  have hrent : ofRent other input.sourceType input.sourceId = false :=
    decide_eq_false fun h => hsource h.1
  unfold GlStore.deferredRent GlStore.depositHeld GlStore.rentRevenue
  simp only [netWhere_entered hlinked _ _ _ hmove.accepted, hof, hrent, Bool.false_eq_true, and_false,
    if_false, add_zero, and_self]

end Books

/-! ### The entries -/

section Entries

variable {bookingId : ℕ} {booking : PropertyRentalBooking}

def WholeCents (records : List PropertyBookingPaymentRecord) : Prop :=
  ∀ p ∈ records, p.amount ∈ cents ∧ 0 ≤ p.amount

def received (records : List PropertyBookingPaymentRecord) : ℚ :=
  (records.map PropertyBookingPaymentRecord.amount).sum

theorem received_append (records records' : List PropertyBookingPaymentRecord) :
    received (records ++ records') = received records + received records' := by
  unfold received
  rw [List.map_append, List.sum_append]

variable {records : List PropertyBookingPaymentRecord}

theorem received_mem (h : WholeCents records) : received records ∈ cents :=
  sum_mem_cents fun p hp => (h p hp).1

theorem received_nonneg (h : WholeCents records) : 0 ≤ received records := by
  induction records with
  | nil => exact le_refl 0
  | cons p records ih =>
    have hrest : 0 ≤ received records := ih fun q hq => h q (List.mem_cons_of_mem p hq)
    exact add_nonneg (h p List.mem_cons_self).2 hrest

def tendersOf (records : List PropertyBookingPaymentRecord) : List TenderRow :=
  records.map fun p => { method := some p.method, amount := some p.amount }

theorem splitTenders_records (toUpperCase : String → String) (h : WholeCents records) :
    let split := splitTenders toUpperCase (tendersOf records) (received records)
    (0 ≤ split.cash ∧ 0 ≤ split.clearing ∧ split.cash + split.clearing = received records) ∧
      split.cash ∈ cents ∧ split.clearing ∈ cents := by
  have hsum : received records = ((tendersOf records).map fun row => amountOf row.amount).sum := by
    unfold received tendersOf
    rw [List.map_map]
    rfl
  apply splitTenders_exact _ _ hsum
  · intro row hrow
    obtain ⟨p, hp, rfl⟩ := List.mem_map.mp hrow
    exact (h p hp).1
  · intro row hrow
    obtain ⟨p, hp, rfl⟩ := List.mem_map.mp hrow
    exact (h p hp).2

/-- **What is received**, and rent that was deferred before, is credited to one account. -/
theorem tenders_move (toUpperCase : String → String) (h : WholeCents records) {prior : ℚ} (hprior : prior ∈ cents)
    (hnonneg : 0 ≤ prior) (hpos : 0 < prior + received records) {input : PostJournalEntryInput}
    {credited : GlAccountCode} (hkey : input.idempotencyKey ≠ "") (hsource : input.sourceId = some (toString bookingId))
    (hlines : let split := splitTenders toUpperCase (tendersOf records) (received records)
      input.lines = (debitLine .cash split.cash ++ debitLine .tenderClearing split.clearing ++
        debitLine .deferredRevenue prior) ++
          [{ accountCode := credited.code, credit := some (prior + received records) }]) :
    RentalMove input bookingId ((if credited = .deferredRevenue then prior + received records else 0) - prior)
      (if credited = .customerDeposits then prior + received records else 0)
      (if input.sourceType = .depositForfeit then 0
        else if credited = .rentalRevenue then prior + received records else 0) := by
  obtain ⟨⟨hcash, hclearing, hsum⟩, hcashMem, hclearingMem⟩ := splitTenders_records toUpperCase h
  have hmem : prior + received records ∈ cents := add_mem hprior (received_mem h)
  let split := splitTenders toUpperCase (tendersOf records) (received records)
  have heffect : ∀ account : GlAccountCode, inputEffect input.lines account.code =
      ((if GlAccountCode.cash = account then split.cash else 0) +
        (if GlAccountCode.tenderClearing = account then split.clearing else 0) +
        (if GlAccountCode.deferredRevenue = account then prior else 0)) +
        if credited = account then -(prior + received records) else 0 := by
    intro account
    rw [hlines, inputEffect_append, inputEffect_append, inputEffect_append,
      inputEffect_debitLine _ hcashMem hcash, inputEffect_debitLine _ hclearingMem hclearing,
      inputEffect_debitLine _ hprior hnonneg]
    simp only [inputEffect_cons, inputEffect_nil, code_inj, amountOf, round2_zero, round2_of_mem hmem,
      Option.getD_some, Option.getD_none, zero_sub, add_zero]
    rfl
  have hdebited := ((debited_debitLine .cash hcash).append (debited_debitLine .tenderClearing hclearing)).append
    (debited_debitLine .deferredRevenue hnonneg)
  rw [hsum, add_comm] at hdebited
  refine ⟨assertBalanced_ok_of_credit hkey hlines hdebited hpos, hsource, ?_, ?_, ?_⟩
  · rw [heffect]
    simp only [reduceCtorEq, if_false, if_true, zero_add]
    split_ifs <;> ring
  · rw [heffect]
    simp only [reduceCtorEq, if_false, zero_add]
    split_ifs <;> ring
  · rw [heffect]
    simp only [reduceCtorEq, if_false, zero_add]
    split_ifs <;> ring

theorem deferral_move (env : PropertyRentalRuntime) {records : List PropertyBookingPaymentRecord}
    (h : WholeCents records) (hpos : 0 < received records) {key : String} (hkey : key ≠ "") (occurredAt : Date) :
    RentalMove (deferralEntry env bookingId booking (received records) records key occurredAt) bookingId
      (received records) 0 0 := by
  have hround : round2 (received records) = received records := round2_of_mem (received_mem h)
  have hmove := @tenders_move bookingId records env.toUpperCase h 0 (zero_mem _) le_rfl (by rwa [zero_add])
    (deferralEntry env bookingId booking (received records) records key occurredAt) .deferredRevenue hkey rfl (by
      have hnothing : debitLine .deferredRevenue 0 = [] := if_neg (lt_irrefl 0)
      show deferralLines env (round2 (received records)) records = _
      rw [hround, zero_add, hnothing, List.append_nil]
      rfl)
  simpa using hmove

theorem pair_move {input : PostJournalEntryInput} {debited credited : GlAccountCode} {amount : ℚ}
    (hkey : input.idempotencyKey ≠ "") (hsource : input.sourceId = some (toString bookingId))
    (hlines : input.lines = [{ accountCode := debited.code, debit := some amount },
      { accountCode := credited.code, credit := some amount }])
    (hcents : amount ∈ cents) (hpos : 0 < amount) :
    RentalMove input bookingId
      ((if credited = .deferredRevenue then amount else 0) -
        if debited = .deferredRevenue then amount else 0)
      ((if credited = .customerDeposits then amount else 0) -
        if debited = .customerDeposits then amount else 0)
      (if input.sourceType = .depositForfeit then 0
        else (if credited = .rentalRevenue then amount else 0) -
          if debited = .rentalRevenue then amount else 0) where
  accepted := assertBalanced_ok_of_pair hkey hpos hlines
  source := hsource
  deferred_eq := by
    rw [hlines, inputEffect_pair hcents]
    ring
  deposit_eq := by
    rw [hlines, inputEffect_pair hcents]
    ring
  revenue_eq := by
    rw [hlines, inputEffect_pair hcents]
    split_ifs <;> ring

theorem depositOpen_move (hpos : 0 < round2 booking.depositAmount) :
    RentalMove (depositOpenEntry bookingId booking) bookingId 0 (round2 booking.depositAmount) 0 := by
  have hkey := (RentalKey.depositOpen bookingId).text_ne_empty
  have hmove := @pair_move bookingId (depositOpenEntry bookingId booking) .cash .customerDeposits _ hkey
    rfl rfl (round2_mem _) hpos
  simpa using hmove

theorem depositRefund_move {refund : ℚ} (hcents : refund ∈ cents) (hpos : 0 < refund) (settledAt : Date) :
    RentalMove (depositRefundEntry bookingId booking refund settledAt) bookingId 0 (-refund) 0 := by
  have hkey := (RentalKey.depositRefund bookingId).text_ne_empty
  have hmove := @pair_move bookingId (depositRefundEntry bookingId booking refund settledAt)
    .customerDeposits .cash _ hkey rfl rfl hcents hpos
  simpa using hmove

/-- **A forfeit** releases a part of the deposit, and makes no rent. -/
theorem depositForfeit_move {forfeit : ℚ} (hcents : forfeit ∈ cents) (hpos : 0 < forfeit) (settledAt : Date) :
    RentalMove (depositForfeitEntry bookingId booking forfeit settledAt) bookingId 0 (-forfeit) 0 := by
  have hkey := (RentalKey.depositForfeit bookingId).text_ne_empty
  have hmove := @pair_move bookingId (depositForfeitEntry bookingId booking forfeit settledAt)
    .customerDeposits .rentalRevenue _ hkey rfl rfl hcents hpos
  simpa [depositForfeitEntry] using hmove

theorem accrual_move {recognition : AccrualRecognition} (hcents : recognition.recognizeNow ∈ cents)
    (hpos : 0 < recognition.recognizeNow) (asOf : Date) :
    RentalMove (accrualEntry bookingId booking recognition asOf) bookingId (-recognition.recognizeNow) 0
      recognition.recognizeNow := by
  have hkey : accrualKey bookingId recognition.recognizable ≠ "" := by
    rw [accrualKey_text]
    exact RentalKey.text_ne_empty _
  have hmove := @pair_move bookingId (accrualEntry bookingId booking recognition asOf) .deferredRevenue
    .rentalRevenue _ hkey rfl rfl hcents hpos
  simpa [accrualEntry] using hmove

/-- **The settlement** makes revenue of the deferred rent and of the final payment. -/
theorem settlement_move (env : PropertyRentalRuntime)
    (h : WholeCents records) {prior : ℚ} (hprior : prior ∈ cents) (hnonneg : 0 ≤ prior)
    (hpos : 0 < prior + received records) (settledAt : Date) :
    RentalMove (settlementEntry env bookingId booking (received records) prior records settledAt) bookingId
      (-prior) 0 (prior + received records) := by
  have hmove := @tenders_move bookingId records env.toUpperCase h prior hprior hnonneg hpos
    (settlementEntry env bookingId booking (received records) prior records settledAt) .rentalRevenue
    (RentalKey.settlement bookingId).text_ne_empty rfl (by
      unfold settlementEntry
      rw [round2_of_mem hprior, round2_of_mem (add_mem hprior (received_mem h))]
      rfl)
  simpa [settlementEntry] using hmove

end Entries

end SuuqBackend
