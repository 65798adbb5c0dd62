import SuuqBackend.Lib.Interleave
import SuuqBackend.Hospitality.Laws.Settlements

/-!
# The actions of calls on folios

The total of a folio is added to in the database by charges, and written back by a settlement, a void and a transfer,
which save the folio as they have loaded it.

* `adds_charging`: a charge leaves the rows and the total together, whatever runs beside it.
-/

namespace SuuqBackend

open Proc GeneralLedger HotelFolios HotelInventory

/-! ### Charges beside other calls -/

def HotelStore.unposted (folioId : ℕ) (S : HotelStore) : ℤ := S.chargeSum folioId - S.totalCents folioId

def There (folioId : ℕ) (S : HotelStore) : Prop := S.folios.find folioId ≠ none

/-- The folios are the same but for their totals, and so is the ledger. -/
structure OnlyCharges (S S' : HotelStore) : Prop where
  ledger : S'.ledger = S.ledger
  folios : ∀ id, (S'.folios.find id).map HotelFolio.terms = (S.folios.find id).map HotelFolio.terms

variable (S : HotelStore)

theorem OnlyCharges.refl : OnlyCharges S S := ⟨rfl, fun _ => rfl⟩

theorem onlyCharges_addCharge (charge : HotelFolioCharge) : OnlyCharges S (S.addCharge charge) :=
  ⟨rfl, fun _ => rfl⟩

theorem onlyCharges_incrementTotal (folioId : ℕ) (amount : ℚ) :
    OnlyCharges S (S.incrementTotal folioId amount) := by
  refine ⟨?_, fun id => ?_⟩
  · rw [incrementTotal_eq]
  · by_cases hid : id = folioId
    · subst hid
      rw [find_incrementTotal_self, Option.map_map]
      rfl
    · rw [find_incrementTotal_of_ne S folioId hid]

section Acts

variable {R : HotelStore → HotelStore → Prop} (hR : ∀ S, R S S)

include hR

theorem acts_loadFolio (folioId : ℕ) : (loadFolio folioId).Acts R := by
  refine (acts_read hR _).bind fun found => ?_
  cases found with
  | none => exact acts_throw _
  | some folio => exact acts_pure _

theorem acts_findCharge (folioId : ℕ) (idempotencyKey : Option String) :
    (findCharge folioId idempotencyKey).Acts R := by
  cases idempotencyKey with
  | none => exact acts_pure _
  | some key => exact acts_read hR _

end Acts

variable {α : Type}

theorem acts_chargeAndAdd (charge : HotelFolioCharge) (folioId : ℕ) (amount : ℚ) (k : ℕ → HotelProc α)
    (hk : ∀ id, (k id).Acts OnlyCharges) :
    (do
      let id ← insertCharge charge
      incrementTotal folioId amount
      k id : HotelProc α).Acts OnlyCharges := by
  have hinsert : (insertCharge charge).Acts OnlyCharges :=
    acts_step (fun S => onlyCharges_addCharge S charge) fun _ => acts_pure _
  refine hinsert.bind fun id => ?_
  exact (acts_write fun S => onlyCharges_incrementTotal S folioId amount).bind fun _ => hk id

theorem adds_chargeAndAdd (folioId : ℕ) (charge : HotelFolioCharge) {amount : ℚ}
    (hamount : amount = charge.amount.value * charge.quantity) (k : ℕ → HotelProc α)
    (hk : ∀ id, Adds (There folioId) (HotelStore.unposted folioId) (k id) 0) :
    Adds (There folioId) (HotelStore.unposted folioId) (do
      let id ← insertCharge charge
      incrementTotal charge.folioId amount
      k id : HotelProc α) 0 := by
  subst hamount
  refine adds_step fun S _ => adds_step fun T hT => ?_
  have hrow := chargeSum_addCharge S charge folioId
  have hrowTotal : (S.addCharge charge).totalCents folioId = S.totalCents folioId := rfl
  have hsum := chargeSum_incrementTotal T charge.folioId (charge.amount.value * charge.quantity) folioId
  have htotal : (T.incrementTotal charge.folioId (charge.amount.value * charge.quantity)).totalCents folioId =
      T.totalCents folioId + if charge.folioId = folioId then chargeCents charge else 0 := by
    by_cases hid : charge.folioId = folioId
    · exact totalCents_incrementTotal T charge (hid ▸ hT) folioId
    · unfold HotelStore.totalCents
      rw [find_incrementTotal_of_ne T charge.folioId (Ne.symm hid), if_neg hid, add_zero]
  have hzero : (0 : ℤ) - (HotelStore.unposted folioId (S.addCharge charge) - HotelStore.unposted folioId S) -
      (HotelStore.unposted folioId (T.incrementTotal charge.folioId (charge.amount.value * charge.quantity)) -
        HotelStore.unposted folioId T) = 0 := by
    unfold HotelStore.unposted
    omega
  rw [hzero]
  exact hk _

section Charging

variable (folioId : ℕ)

theorem adds_of_acts_eq {α : Type} {p : HotelProc α} (h : p.Acts Eq) :
    Adds (There folioId) (HotelStore.unposted folioId) p 0 :=
  Acts.adds (h.mono fun S S' (heq : S = S') => by rw [heq])

variable (env : HotelRuntime)

theorem adds_postCharge (id : ℕ) (dto : PostFolioChargeDto) :
    Adds (There folioId) (HotelStore.unposted folioId) (postCharge env id dto) 0 := by
  refine (adds_of_acts_eq folioId (acts_loadFolio Eq.refl id)).bind fun folio => ?_
  refine (adds_of_acts_eq folioId (acts_throwIf _ _)).bind fun _ => ?_
  refine (adds_of_acts_eq folioId (acts_findCharge Eq.refl id _)).bind fun found => ?_
  cases found with
  | some existing => exact adds_pure existing
  | none =>
    refine adds_chargeAndAdd folioId (newCharge env id folio dto) ?_ _ fun _ => adds_pure _
    have hvalue : (newCharge env id folio dto).amount.value = round2 dto.amount.value :=
      ofRat_round2_decimal2 dto.amount
    rw [hvalue]
    rfl

theorem adds_postNights (branchId id : ℕ) (folio : HotelFolio) (plan : HotelRatePlan) (days : List ℤ) :
    ∀ totals, Adds (There folioId) (HotelStore.unposted folioId) (postNights branchId id folio plan days totals) 0 := by
  induction days with
  | nil => exact fun totals => adds_pure totals
  | cons day days ih =>
    intro totals
    refine (adds_of_acts_eq folioId (acts_findCharge Eq.refl id _)).bind fun found => ?_
    cases found with
    | some existing => exact ih totals
    | none =>
      refine adds_chargeAndAdd folioId (nightCharge branchId id folio plan day) ?_ _ fun _ => ih _
      have hvalue : (nightCharge branchId id folio plan day).amount.value = rateFor plan day :=
        ofRat_round2_rateFor plan day
      have hquantity : (nightCharge branchId id folio plan day).quantity = 1 := rfl
      rw [hvalue, hquantity, Nat.cast_one, mul_one]

variable (dto : TriggerNightAuditDto)

theorem adds_auditFolios (lookup : PlanLookup) (auditDate : CalendarDate) (folios : List (ℕ × HotelFolio)) :
    ∀ totals, Adds (There folioId) (HotelStore.unposted folioId) (auditFolios env dto lookup auditDate folios totals) 0 := by
  induction folios with
  | nil => exact fun totals => adds_pure totals
  | cons f folios ih =>
    intro totals
    refine adds_read_bind fun roomType => ?_
    split
    · exact ih _
    · exact (adds_postNights folioId _ _ _ _ _ _).bind fun totals => ih totals

theorem adds_runNightAudit (actorId : Option ℕ) :
    Adds (There folioId) (HotelStore.unposted folioId) (runNightAudit env dto actorId) 0 := by
  refine adds_read_bind fun lookup => adds_read_bind fun folios => ?_
  refine (adds_auditFolios folioId env dto lookup _ folios {}).bind fun totals => ?_
  refine Acts.adds ((acts_write fun S => ?_).bind fun _ => acts_pure _)
  rfl

end Charging

/-! ### The operations -/

inductive HotelOp where
  | postCharge (env : HotelRuntime) (folioId : ℕ) (dto : PostFolioChargeDto)
  | runNightAudit (env : HotelRuntime) (dto : TriggerNightAuditDto) (actorId : Option ℕ)
  | settleFolio (env : HotelRuntime) (folioId : ℕ) (dto : SettleFolioDto)
  | voidFolio (env : HotelRuntime) (folioId : ℕ) (reason : Option String)
  | transferFolioRoom (folioId : ℕ) (dto : TransferFolioRoomDto)

namespace HotelOp

def proc : HotelOp → HotelProc Unit
  | postCharge env folioId dto => do
    let _ ← HotelFolios.postCharge env folioId dto
    return
  | runNightAudit env dto actorId => do
    let _ ← HotelInventory.runNightAudit env dto actorId
    return
  | settleFolio env folioId dto => do
    let _ ← HotelFolios.settleFolio env folioId dto
    return
  | voidFolio env folioId reason => do
    let _ ← HotelFolios.voidFolio env folioId reason
    return
  | transferFolioRoom folioId dto => do
    let _ ← HotelFolios.transferFolioRoom folioId dto
    return

/-- The call charges; the others save a folio. -/
def Charges : HotelOp → Prop
  | postCharge _ _ _ | runNightAudit _ _ _ => True
  | _ => False

/-- What the call saves of the open folio that it has loaded. -/
def saved (op : HotelOp) (folioId : ℕ) (folio : HotelFolio) : Option HotelFolio :=
  match op with
  | settleFolio env id dto => if id = folioId then some (settledFolio env dto folio) else none
  | voidFolio env id reason => if id = folioId then some (voidedFolio env reason folio) else none
  | transferFolioRoom id dto => if id = folioId then some (transferredFolio dto folio) else none
  | _ => none

/-- The folio as the call has loaded it, and as it saves it next. -/
def saving (op : HotelOp) (folioId : ℕ) : List HotelStore → Option (HotelFolio × HotelFolio)
  | [S] => do
    let folio ← (S.folios.find folioId).filter fun folio => folio.status = .opened
    let saved ← op.saved folioId folio
    return (folio, saved)
  | _ => none

end HotelOp

variable {op : HotelOp}

theorem adds_charging (h : op.Charges) (folioId : ℕ) :
    Adds (There folioId) (HotelStore.unposted folioId) op.proc 0 := by
  cases op with
  | postCharge env id dto => exact (adds_postCharge folioId env id dto).bind fun _ => adds_pure _
  | runNightAudit env dto actorId => exact (adds_runNightAudit folioId env dto actorId).bind fun _ => adds_pure _
  | settleFolio => exact h.elim
  | voidFolio => exact h.elim
  | transferFolioRoom => exact h.elim

theorem acts_postNights (branchId id : ℕ) (folio : HotelFolio) (plan : HotelRatePlan) (days : List ℤ) :
    ∀ totals, (postNights branchId id folio plan days totals).Acts OnlyCharges := by
  induction days with
  | nil => exact fun totals => acts_pure totals
  | cons day days ih =>
    intro totals
    refine (acts_findCharge OnlyCharges.refl id _).bind fun found => ?_
    cases found with
    | some existing => exact ih totals
    | none => exact acts_chargeAndAdd _ id _ _ fun _ => ih _

variable (env : HotelRuntime) (folioId : ℕ)

theorem acts_auditFolios (dto : TriggerNightAuditDto) (lookup : PlanLookup)
    (auditDate : CalendarDate) (folios : List (ℕ × HotelFolio)) :
    ∀ totals, (auditFolios env dto lookup auditDate folios totals).Acts OnlyCharges := by
  induction folios with
  | nil => exact fun totals => acts_pure totals
  | cons f folios ih =>
    intro totals
    refine (acts_read OnlyCharges.refl _).bind fun roomType => ?_
    split
    · exact ih _
    · exact (acts_postNights _ _ _ _ _ _).bind fun totals => ih totals

theorem acts_charging (h : op.Charges) : op.proc.Acts OnlyCharges := by
  cases op with
  | postCharge env id dto =>
    refine Acts.bind ?_ fun _ => acts_pure _
    refine (acts_loadFolio OnlyCharges.refl id).bind fun folio => (acts_throwIf _ _).bind fun _ => ?_
    refine (acts_findCharge OnlyCharges.refl id _).bind fun found => ?_
    cases found with
    | some existing => exact acts_pure existing
    | none => exact acts_chargeAndAdd _ id _ _ fun _ => acts_pure _
  | runNightAudit env dto actorId =>
    refine Acts.bind ?_ fun _ => acts_pure _
    refine (acts_read OnlyCharges.refl _).bind fun lookup => (acts_read OnlyCharges.refl _).bind fun folios => ?_
    refine (acts_auditFolios env dto lookup _ folios {}).bind fun totals => ?_
    exact (acts_write fun S => ⟨rfl, fun _ => rfl⟩).bind fun _ => acts_pure _
  | settleFolio => exact h.elim
  | voidFolio => exact h.elim
  | transferFolioRoom => exact h.elim

/-! ### What the others do -/

theorem resume_loadFolio_bind (k : HotelFolio → HotelProc α) (S : HotelStore)
    (seen : List HotelStore) : (loadFolio folioId >>= k).resume (S :: seen) =
      match S.folios.find folioId with
      | some folio => (k folio).resume seen
      | none => .fail (.notFound s!"Hotel folio {folioId} not found.") := by
  unfold loadFolio
  rw [bind_assoc, resume_read_bind]
  cases S.folios.find folioId with
  | none => exact resume_throw_bind _ _ seen
  | some folio => rfl

theorem recognise_eq_step (dto : SettleFolioDto) (folio : HotelFolio)
    (h : 0 < recognisedOf (settledFolio env dto folio)) :
    ∃ act : HotelStore → HotelStore,
      recognise env folioId dto (settledFolio env dto folio) = Proc.step act (fun _ => pure ()) ∧
      ∀ U, act U =
        { U with
          ledger := U.ledger.entered env.now (settlementEntry env folioId dto (settledFolio env dto folio)) } := by
  have hok := assertBalanced_settlementEntry env folioId dto folio h
  have hwithin : ∀ J, ∃ entry,
      (postWithin env.now (settlementEntry env folioId dto (settledFolio env dto folio))).run J =
        (.ok entry, J.entered env.now (settlementEntry env folioId dto (settledFolio env dto folio))) := by
    intro J
    obtain ⟨entry, hrun⟩ := run_post_of_ok hok env.now true J
    refine ⟨entry, ?_⟩
    rw [← hrun, run_post, hok]
  unfold recognise
  rw [if_neg (not_le.mpr h)]
  unfold post
  rw [hok]
  refine ⟨_, congrArg (Proc.step _) (funext fun U => ?_), fun U => ?_⟩
  · obtain ⟨entry, hrun⟩ := hwithin U.ledger
    dsimp only [HotelStore.ledgerLens]
    rw [hrun]
    rfl
  · obtain ⟨entry, hrun⟩ := hwithin U.ledger
    dsimp only [HotelStore.ledgerLens]
    rw [hrun]

theorem resume_loadAndSave {folioId : ℕ} {body : HotelFolio → HotelProc Unit} (saved : HotelFolio → HotelFolio)
    (rest : HotelFolio → HotelProc Unit)
    (hopen : ∀ folio, folio.status = .opened →
      body folio = Proc.write (fun U => U.saveFolio folioId (saved folio)) >>= fun _ => rest folio)
    (hother : ∀ folio, folio.status ≠ .opened → (body folio).isDone = true ∨ (body folio).isFail = true)
    {seen : List HotelStore} {act : HotelStore → HotelStore} {next : HotelStore → HotelProc Unit}
    (h : (loadFolio folioId >>= body).resume seen = .step act next) :
    (seen = [] ∧ act = id) ∨ ∃ S folio, S.folios.find folioId = some folio ∧ folio.status = .opened ∧
      (seen = [S] ∧ act = (fun U => U.saveFolio folioId (saved folio)) ∨
        ∃ T seen', seen = S :: T :: seen' ∧ (rest folio).resume seen' = .step act next) := by
  cases seen with
  | nil =>
    cases h
    exact .inl ⟨rfl, rfl⟩
  | cons S seen =>
    rw [resume_loadFolio_bind] at h
    cases hfind : S.folios.find folioId with
    | none =>
      rw [hfind] at h
      cases h
    | some folio =>
      rw [hfind] at h
      dsimp only at h
      by_cases hstatus : folio.status = .opened
      · refine .inr ⟨S, folio, hfind, hstatus, ?_⟩
        rw [hopen folio hstatus] at h
        cases seen with
        | nil =>
          cases h
          exact .inl ⟨rfl, rfl⟩
        | cons T seen => exact .inr ⟨T, seen, rfl, h⟩
      · rcases hother folio hstatus with hdone | hfail
        · obtain ⟨a, ha⟩ := eq_done_of_isDone hdone
          rw [ha] at h
          cases h
        · obtain ⟨e, he⟩ := eq_fail_of_isFail hfail
          rw [he] at h
          cases h

/-- **The actions of a call that saves**: it loads the folio, saves it, and then a settlement posts. -/
theorem HotelOp.saving_cases (hop : ¬ op.Charges) {seen : List HotelStore}
    {act : HotelStore → HotelStore} {next : HotelStore → HotelProc Unit} (h : op.proc.resume seen = .step act next) :
    (seen = [] ∧ act = id) ∨
    (∃ S folioId folio saved, seen = [S] ∧ S.folios.find folioId = some folio ∧ folio.status = .opened ∧
      op.saved folioId folio = some saved ∧ act = fun U => U.saveFolio folioId saved) ∨
    ∃ env folioId dto S T folio, op = .settleFolio env folioId dto ∧ seen = [S, T] ∧
      S.folios.find folioId = some folio ∧ folio.status = .opened ∧ 0 < recognisedOf (settledFolio env dto folio) ∧
      ∀ U, act U =
        { U with
          ledger := U.ledger.entered env.now (settlementEntry env folioId dto (settledFolio env dto folio)) } := by
  cases op with
  | postCharge => exact absurd trivial hop
  | runNightAudit => exact absurd trivial hop
  | settleFolio env folioId dto =>
    simp only [proc, HotelFolios.settleFolio, bind_assoc] at h
    have hcases := resume_loadAndSave (settledFolio env dto)
      (fun folio => recognise env folioId dto (settledFolio env dto folio))
      (fun folio hstatus => by
        have hpure : (recognise env folioId dto (settledFolio env dto folio) >>= fun _ => pure ()) =
            recognise env folioId dto (settledFolio env dto folio) := bind_pure _
        rw [hstatus]
        simp only [settle, HotelFolios.saveFolio, bind_assoc, pure_bind]
        rw [hpure])
      (fun folio hstatus => by
        cases hother : folio.status with
        | opened => exact absurd hother hstatus
        | settled => exact .inl rfl
        | voided => exact .inr rfl) h
    rcases hcases with hload | ⟨S, folio, hfind, hstatus, ⟨rfl, hact⟩ | ⟨T, seen, rfl, hrest⟩⟩
    · exact .inl hload
    · exact .inr (.inl ⟨S, folioId, folio, _, rfl, hfind, hstatus, if_pos rfl, hact⟩)
    · refine .inr (.inr ⟨env, folioId, dto, S, T, folio, rfl, ?_⟩)
      by_cases hpos : 0 < recognisedOf (settledFolio env dto folio)
      · obtain ⟨post, heq, hpost⟩ := recognise_eq_step env folioId dto folio hpos
        rw [heq] at hrest
        cases seen with
        | nil =>
          cases hrest
          exact ⟨rfl, hfind, hstatus, hpos, hpost⟩
        | cons U seen =>
          cases seen <;> cases hrest
      · have hnone : recognise env folioId dto (settledFolio env dto folio) = pure () := by
          exact if_pos (not_lt.mp hpos)
        rw [hnone] at hrest
        cases seen <;> cases hrest
  | voidFolio env folioId reason =>
    simp only [proc, HotelFolios.voidFolio, bind_assoc] at h
    have hcases := resume_loadAndSave (voidedFolio env reason) (fun _ => pure ())
      (fun folio hstatus => by
        rw [hstatus]
        rfl)
      (fun folio hstatus => by
        cases hother : folio.status with
        | opened => exact absurd hother hstatus
        | settled => exact .inr rfl
        | voided => exact .inl rfl) h
    rcases hcases with hload | ⟨S, folio, hfind, hstatus, ⟨rfl, hact⟩ | ⟨T, seen, rfl, hrest⟩⟩
    · exact .inl hload
    · exact .inr (.inl ⟨S, folioId, folio, _, rfl, hfind, hstatus, if_pos rfl, hact⟩)
    · cases seen <;> cases hrest
  | transferFolioRoom folioId dto =>
    simp only [proc, HotelFolios.transferFolioRoom, bind_assoc] at h
    have hcases := resume_loadAndSave (transferredFolio dto) (fun _ => pure ())
      (fun folio hstatus => by
        unfold throwIf
        rw [if_neg (not_not.mpr hstatus)]
        rfl)
      (fun folio hstatus => by
        unfold throwIf
        rw [if_pos hstatus]
        exact .inr rfl) h
    rcases hcases with hload | ⟨S, folio, hfind, hstatus, ⟨rfl, hact⟩ | ⟨T, seen, rfl, hrest⟩⟩
    · exact .inl hload
    · exact .inr (.inl ⟨S, folioId, folio, _, rfl, hfind, hstatus, if_pos rfl, hact⟩)
    · cases seen <;> cases hrest

end SuuqBackend
