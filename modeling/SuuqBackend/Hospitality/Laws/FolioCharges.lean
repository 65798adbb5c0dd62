import SuuqBackend.Accounting.Laws.Cents
import SuuqBackend.Wallet.Laws.Amounts
import SuuqBackend.Hospitality.HotelInventory

/-!
# Charges and the total of a folio

What the two steps of a charge do: the new row, and the addition to the total of the folio.  All amounts are whole
cents, so that nothing is rounded away: the total grows by what the row holds.

* `totalCents_incrementTotal`, `chargeSum_addCharge`: the total, and the sum of the rows.
-/

namespace SuuqBackend

open GeneralLedger HotelInventory SerialTable

def chargeCents (charge : HotelFolioCharge) : ℤ := charge.amount.hundredths * charge.quantity

namespace HotelStore

/-- The cents of all stored charges of a folio. -/
def chargeSum (S : HotelStore) (folioId : ℕ) : ℤ :=
  S.charges.total fun charge => if charge.folioId = folioId then chargeCents charge else 0

def totalCents (S : HotelStore) (folioId : ℕ) : ℤ :=
  ((S.folios.find folioId).map fun folio => folio.chargesTotal.hundredths).getD 0

end HotelStore

/-! ### Whole cents -/

variable (b : Numeric2) (plan : HotelRatePlan)

theorem numeric2_value_mem : b.value ∈ cents := mem_cents_iff.mpr ⟨b.hundredths, rfl⟩

theorem round2_value : round2 b.value = b.value := round2_of_mem (numeric2_value_mem b)

theorem ofRat_round2_decimal2 (x : Decimal2) : (Numeric2.ofRat (round2 x.value)).value = round2 x.value := by
  have hvalue : x.value = (⟨x.hundredths⟩ : Numeric2).value := by
    rfl
  rw [hvalue, round2_value, Numeric2.ofRat_value]

theorem exists_rateFor (day : ℤ) : ∃ b : Numeric2, rateFor plan day = b.value := by
  unfold rateFor
  split_ifs
  · exact ⟨_, rfl⟩
  · exact ⟨_, rfl⟩

theorem ofRat_round2_rateFor (day : ℤ) : (Numeric2.ofRat (round2 (rateFor plan day))).value = rateFor plan day := by
  obtain ⟨b, hb⟩ := exists_rateFor plan day
  rw [hb, round2_value, Numeric2.ofRat_value]

/-! ### The two steps -/

section Steps

variable (S : HotelStore) (folioId : ℕ)

theorem find_saveFolio_self {S : HotelStore} {folioId : ℕ} {folio : HotelFolio}
    (h : S.folios.find folioId = some folio) (folio' : HotelFolio) :
    (S.saveFolio folioId folio').folios.find folioId = some folio' :=
  find_set_self h folio'

theorem find_saveFolio_of_ne {id : ℕ} (h : id ≠ folioId) (folio : HotelFolio) :
    (S.saveFolio folioId folio).folios.find id = S.folios.find id :=
  find_set_of_ne S.folios folio h

def HotelFolio.plus (folio : HotelFolio) (amount : ℚ) : HotelFolio :=
  { folio with chargesTotal := .ofRat (folio.chargesTotal.value + amount) }

variable (amount : ℚ)

theorem find_incrementTotal_self : (S.incrementTotal folioId amount).folios.find folioId =
    (S.folios.find folioId).map fun folio => folio.plus amount := by
  unfold HotelStore.incrementTotal
  cases hfind : S.folios.find folioId with
  | none => exact hfind
  | some folio => exact find_saveFolio_self hfind _

theorem find_incrementTotal_of_ne {id : ℕ} (h : id ≠ folioId) (amount : ℚ) :
    (S.incrementTotal folioId amount).folios.find id = S.folios.find id := by
  unfold HotelStore.incrementTotal
  cases S.folios.find folioId with
  | none => rfl
  | some folio => exact find_saveFolio_of_ne S folioId h _

theorem incrementTotal_eq : S.incrementTotal folioId amount =
    { S with folios := (S.incrementTotal folioId amount).folios } := by
  unfold HotelStore.incrementTotal
  cases S.folios.find folioId with
  | none => rfl
  | some folio => rfl

theorem charges_incrementTotal : (S.incrementTotal folioId amount).charges = S.charges := by
  rw [incrementTotal_eq]

theorem chargeSum_incrementTotal (id : ℕ) : (S.incrementTotal folioId amount).chargeSum id = S.chargeSum id := by
  unfold HotelStore.chargeSum
  rw [charges_incrementTotal]

theorem hundredths_plus (folio : HotelFolio) (b : Numeric2) (quantity : ℕ) :
    (folio.plus (b.value * quantity)).chargesTotal.hundredths =
      folio.chargesTotal.hundredths + b.hundredths * quantity := by
  have hproduct : b.value * quantity = (⟨b.hundredths * quantity⟩ : Numeric2).value := by
    unfold Numeric2.value
    push_cast
    ring
  show (Numeric2.ofRat (folio.chargesTotal.value + b.value * quantity)).hundredths = _
  rw [hproduct, Numeric2.ofRat_add_value]

theorem totalCents_incrementTotal (charge : HotelFolioCharge) (h : S.folios.find charge.folioId ≠ none) (id : ℕ) :
    (S.incrementTotal charge.folioId (charge.amount.value * charge.quantity)).totalCents id =
      S.totalCents id + if charge.folioId = id then chargeCents charge else 0 := by
  obtain ⟨folio, hfolio⟩ := Option.ne_none_iff_exists'.mp h
  unfold HotelStore.totalCents
  split_ifs with hid
  · rw [← hid, find_incrementTotal_self, hfolio]
    exact hundredths_plus folio charge.amount charge.quantity
  · rw [find_incrementTotal_of_ne S charge.folioId (Ne.symm hid), add_zero]

theorem chargeSum_addCharge (charge : HotelFolioCharge) (id : ℕ) : (S.addCharge charge).chargeSum id =
    S.chargeSum id + if charge.folioId = id then chargeCents charge else 0 := by
  unfold HotelStore.chargeSum HotelStore.addCharge
  rw [total_add, add_comm]

end Steps

/-! ### Keys -/

def HotelStore.HasKey (S : HotelStore) (folioId : ℕ) (key : String) : Prop :=
  ∃ id charge, S.charges.find id = some charge ∧ charge.folioId = folioId ∧ charge.idempotencyKey = some key

variable {key : String} {folioId : ℕ} {S : HotelStore} {Q : HotelFolioCharge → Prop}

theorem hasKey_of_chargeByKey {found : ℕ × HotelFolioCharge}
    (h : S.chargeByKey folioId key = some found) : S.HasKey folioId key := by
  obtain ⟨hfind, hkey⟩ := find_of_first h
  obtain ⟨hfolio, hkey⟩ := of_decide_eq_true hkey
  exact ⟨found.1, found.2, hfind, hfolio, hkey⟩

theorem not_hasKey_of_chargeByKey (h : S.chargeByKey folioId key = none) : ¬ S.HasKey folioId key := by
  rintro ⟨id, charge, hfind, hfolio, hkey⟩
  have hany := any_find_of_first_eq_none h id
  rw [hfind, Option.any_some, decide_eq_false_iff_not] at hany
  exact hany ⟨hfolio, hkey⟩

/-! ### Charges, one by one -/

/-- The tables with a charge and its addition to the total. -/
def HotelStore.charged (S : HotelStore) (charge : HotelFolioCharge) : HotelStore :=
  (S.addCharge charge).incrementTotal charge.folioId (charge.amount.value * charge.quantity)

/-- Charges are added one after the other, each to a folio that is there and under a key that it has not used; the
log of the audits may grow. -/
inductive ChargedBy (Q : HotelFolioCharge → Prop) (S : HotelStore) : HotelStore → Prop
  | refl : ChargedBy Q S S
  | charge {S' : HotelStore} (charge : HotelFolioCharge) : ChargedBy Q S S' → Q charge →
    S'.folios.find charge.folioId ≠ none → (∀ key ∈ charge.idempotencyKey, ¬ S'.HasKey charge.folioId key) →
    ChargedBy Q S (S'.charged charge)
  | log {S' : HotelStore} (auditLogs : List HotelNightAuditLog) : ChargedBy Q S S' →
    ChargedBy Q S { S' with auditLogs }

theorem ChargedBy.mono {Q' : HotelFolioCharge → Prop} (h : ∀ c, Q c → Q' c) {S' : HotelStore}
    (hcharged : ChargedBy Q S S') : ChargedBy Q' S S' := by
  induction hcharged with
  | refl => exact .refl
  | charge c _ hc hfolio hkey ih => exact .charge c ih (h c hc) hfolio hkey
  | log auditLogs _ ih => exact .log auditLogs ih

theorem ChargedBy.trans {S₁ S₂ S₃ : HotelStore} (h : ChargedBy Q S₁ S₂)
    (h' : ChargedBy Q S₂ S₃) : ChargedBy Q S₁ S₃ := by
  induction h' with
  | refl => exact h
  | charge c _ hc hfolio hkey ih => exact .charge c ih hc hfolio hkey
  | log auditLogs _ ih => exact .log auditLogs ih

section Charged

variable (S : HotelStore) (c : HotelFolioCharge)

theorem charges_charged : (S.charged c).charges = S.charges.add c := by
  unfold HotelStore.charged
  rw [charges_incrementTotal]
  rfl

theorem find_folios_charged (id : ℕ) : (S.charged c).folios.find id =
    (S.folios.find id).map fun folio => if id = c.folioId then folio.plus (c.amount.value * c.quantity) else folio := by
  unfold HotelStore.charged
  by_cases hid : id = c.folioId
  · subst hid
    rw [find_incrementTotal_self]
    simp only [if_true]
    rfl
  · rw [find_incrementTotal_of_ne _ _ hid]
    simp only [hid, if_false, Option.map_id']
    rfl

theorem balance_charged (h : S.folios.find c.folioId ≠ none) (id : ℕ) :
    (S.charged c).totalCents id - (S.charged c).chargeSum id = S.totalCents id - S.chargeSum id := by
  have htotal := totalCents_incrementTotal (S.addCharge c) c h id
  have hsum := chargeSum_addCharge S c id
  have hkept := chargeSum_incrementTotal (S.addCharge c) c.folioId (c.amount.value * c.quantity) id
  have hsame : (S.addCharge c).totalCents id = S.totalCents id := rfl
  unfold HotelStore.charged
  omega

end Charged

def HotelFolio.terms (folio : HotelFolio) : HotelFolio := { folio with chargesTotal := ⟨0⟩ }

/-- What charges keep: rooms and plans, the folios but for their totals, the rows that are there, and for each folio
the difference of the total and the sum of the rows. -/
structure KeepsTerms (S S' : HotelStore) : Prop where
  rooms : S'.rooms = S.rooms
  ratePlans : S'.ratePlans = S.ratePlans
  folios : ∀ id, (S'.folios.find id).map HotelFolio.terms = (S.folios.find id).map HotelFolio.terms
  charges : ∀ id charge, S.charges.find id = some charge → S'.charges.find id = some charge
  balance : ∀ id, S'.totalCents id - S'.chargeSum id = S.totalCents id - S.chargeSum id

theorem KeepsTerms.trans {S₁ S₂ S₃ : HotelStore} (h : KeepsTerms S₁ S₂) (h' : KeepsTerms S₂ S₃) : KeepsTerms S₁ S₃ where
  rooms := h'.rooms.trans h.rooms
  ratePlans := h'.ratePlans.trans h.ratePlans
  folios id := (h'.folios id).trans (h.folios id)
  charges id charge hcharge := h'.charges id charge (h.charges id charge hcharge)
  balance id := (h'.balance id).trans (h.balance id)

variable {Q : HotelFolioCharge → Prop} {S S' : HotelStore}

theorem ChargedBy.keepsTerms (h : ChargedBy Q S S') :
    KeepsTerms S S' := by
  induction h with
  | refl => exact ⟨rfl, rfl, fun _ => rfl, fun _ _ => id, fun _ => rfl⟩
  | @charge S' c _ _ hfolio _ ih =>
    have heq := incrementTotal_eq (S'.addCharge c) c.folioId (c.amount.value * c.quantity)
    refine ⟨(congrArg HotelStore.rooms heq).trans ih.rooms, (congrArg HotelStore.ratePlans heq).trans ih.ratePlans,
      fun id => ?_, fun id charge hcharge => ?_, fun id => ?_⟩
    · have hterms : ∀ folio : HotelFolio, HotelFolio.terms
          (if id = c.folioId then folio.plus (c.amount.value * c.quantity) else folio) = folio.terms := by
        intro folio
        split_ifs <;> rfl
      rw [find_folios_charged, Option.map_map, ← ih.folios id]
      exact congrArg (fun f => Option.map f (S'.folios.find id)) (funext hterms)
    · rw [charges_charged]
      exact find_add_of_find (ih.charges id charge hcharge) c
    · rw [balance_charged S' c hfolio, ih.balance]
  | log auditLogs _ ih => exact ⟨ih.rooms, ih.ratePlans, ih.folios, ih.charges, ih.balance⟩

theorem ChargedBy.new (h : ChargedBy Q S S') {id : ℕ}
    {charge : HotelFolioCharge} (hfind : S'.charges.find id = some charge) :
    S.charges.find id = some charge ∨ Q charge := by
  induction h with
  | refl => exact .inl hfind
  | @charge S' c _ hc _ _ ih =>
    rw [charges_charged] at hfind
    rcases eq_or_find_of_find_add hfind with ⟨-, rfl⟩ | hold
    · exact .inr hc
    · exact ih hold
  | log auditLogs _ ih => exact ih hfind

theorem ChargedBy.hasKey (h : ChargedBy Q S S') {folioId : ℕ}
    {key : String} : S.HasKey folioId key → S'.HasKey folioId key := by
  rintro ⟨id, charge, hfind, hcharge⟩
  exact ⟨id, charge, h.keepsTerms.charges id charge hfind, hcharge⟩

def KeyOnce (S : HotelStore) (folioId : ℕ) (key : String) : Prop :=
  ∀ id id' charge charge', S.charges.find id = some charge → S.charges.find id' = some charge' →
    charge.folioId = folioId → charge'.folioId = folioId → charge.idempotencyKey = some key →
    charge'.idempotencyKey = some key → id = id'

theorem ChargedBy.keyOnce (h : ChargedBy Q S S') {folioId : ℕ}
    {key : String} (honce : KeyOnce S folioId key) : KeyOnce S' folioId key := by
  induction h with
  | refl => exact honce
  | @charge S' c _ _ _ hkey ih =>
    -- of two charges under the key, only one can be the new one
    have hnew : ∀ id charge, (S'.charges.add c).find id = some charge → charge.folioId = folioId →
        charge.idempotencyKey = some key →
        S'.charges.find id = some charge ∨ id = S'.charges.next ∧ ¬ S'.HasKey folioId key := by
      intro id charge hfind hfolio hcharge
      rcases eq_or_find_of_find_add hfind with ⟨hid, rfl⟩ | hold
      · rw [← hfolio]
        exact .inr ⟨hid, hkey key hcharge⟩
      · exact .inl hold
    intro id id' charge charge' hfind hfind' hfolio hfolio' hcharge hcharge'
    rw [charges_charged] at hfind hfind'
    rcases hnew id charge hfind hfolio hcharge with hold | ⟨hid, hnone⟩
    · rcases hnew id' charge' hfind' hfolio' hcharge' with hold' | ⟨-, hnone'⟩
      · exact ih id id' charge charge' hold hold' hfolio hfolio' hcharge hcharge'
      · exact absurd ⟨id, charge, hold, hfolio, hcharge⟩ hnone'
    · rcases hnew id' charge' hfind' hfolio' hcharge' with hold' | ⟨hid', -⟩
      · exact absurd ⟨id', charge', hold', hfolio', hcharge'⟩ hnone
      · rw [hid, hid']
  | log auditLogs _ ih => exact ih

end SuuqBackend
