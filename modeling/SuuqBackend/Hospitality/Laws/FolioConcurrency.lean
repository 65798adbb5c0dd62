import SuuqBackend.Hospitality.Laws.FolioActions
import SuuqBackend.Hospitality.Laws.NightAudits

/-!
# Folios under concurrency

Whether a folio is open is asked when it is loaded, and not again; what is saved is what was loaded.
-/

namespace SuuqBackend

open Proc HotelFolios

/-! ### The books of a folio -/

/-- The total, the status and the revenue of a folio are right: the total is what its rows add up to; what is settled
has been posted, and under its key; what is not has not. -/
structure FolioRight (S : HotelStore) (folioId : ℕ) : Prop where
  linked : S.ledger.Linked
  there : There folioId S
  total : S.totalCents folioId = S.chargeSum folioId
  unsettled : ∀ folio, S.folios.find folioId = some folio → folio.status ≠ .settled →
    S.ledger.revenueOf folioId = 0 ∧ S.ledger.entryByKey folio.branchId (settleKey folioId) = none
  settled : ∀ folio, S.folios.find folioId = some folio → folio.status = .settled →
    S.ledger.revenueOf folioId = (⟨S.chargeSum folioId⟩ : Numeric2).value ∧
      (0 < S.chargeSum folioId → S.ledger.entryByKey folio.branchId (settleKey folioId) ≠ none)

section Pool

variable {ι : Type} [DecidableEq ι] (calls : ι → HotelOp) (folioId : ℕ)

abbrev procOf (i : ι) : HotelProc Unit := (calls i).proc

def Idle (P : Pool ι HotelStore) (i : ι) : Prop :=
  P.seen i = [] ∨ P.Succeeded (fun j => (calls j).proc) i ∨ P.Failed (fun j => (calls j).proc) i
deriving Decidable

/-- No call is between the row of a charge of the folio and its addition to the total. -/
def NoneHalfDone (P : Pool ι HotelStore) : Prop :=
  ∀ j, (calls j).proc.gain (HotelStore.unposted folioId) (P.seen j) = 0

/-- The next action of the call is orderly for the folio.  A save finds the total as it was loaded and the folio open,
or as it saves it; a settlement also finds no charge half done, and charges, or nothing paid.  No charge is added to a
settled folio. -/
def Orderly (P : Pool ι HotelStore) (i : ι) : Prop :=
  (∀ save ∈ (calls i).saving folioId (P.seen i), ∀ stored ∈ P.store.folios.find folioId,
    stored.chargesTotal = save.1.chargesTotal ∧ (stored.status = .opened ∨ stored.status = save.2.status) ∧
      (save.2.status = .settled → NoneHalfDone calls folioId P ∧
        (0 < save.2.chargesTotal.hundredths ∨ save.2.chargesTotal.hundredths = 0 ∧ paidOf save.2 = 0))) ∧
  ((P.step (fun j => (calls j).proc) i).store.chargeSum folioId ≠ P.store.chargeSum folioId →
    ∀ stored ∈ P.store.folios.find folioId, stored.status ≠ .settled)

instance [Fintype ι] (P : Pool ι HotelStore) : Decidable (NoneHalfDone calls folioId P) :=
  inferInstanceAs (Decidable (∀ _, _))

instance [Fintype ι] (P : Pool ι HotelStore) (i : ι) : Decidable (Orderly calls folioId P i) :=
  inferInstanceAs (Decidable ((∀ _ ∈ _, ∀ _ ∈ _, _ ∧ (_ ∨ _) ∧ (_ → _ ∧ (_ ∨ _ ∧ _))) ∧ (_ → ∀ _ ∈ _, _)))

def Posting (P : Pool ι HotelStore) (i : ι) (folio : HotelFolio) (env : HotelRuntime) (dto : SettleFolioDto) : Prop :=
  calls i = .settleFolio env folioId dto ∧ ∃ S T, P.seen i = [S, T] ∧ S.folios.find folioId = some folio ∧
    folio.status = .opened ∧ 0 < recognisedOf (settledFolio env dto folio)

end Pool

/-! ### One step -/

/-- Where the folio belongs, and what has become of it. -/
def HotelFolio.standing (folio : HotelFolio) : ℕ × HotelFolioStatus := (folio.branchId, folio.status)

/-- The folio keeps its standing, and the ledger what it has for it. -/
structure LeavesFolio (folioId branchId : ℕ) (S S' : HotelStore) : Prop where
  linked : S'.ledger.Linked
  revenue : S'.ledger.revenueOf folioId = S.ledger.revenueOf folioId
  entry : S'.ledger.entryByKey branchId (settleKey folioId) = S.ledger.entryByKey branchId (settleKey folioId)
  standing : (S'.folios.find folioId).map HotelFolio.standing = (S.folios.find folioId).map HotelFolio.standing

section Leaves

variable {folioId branchId : ℕ} {S : HotelStore} (hlinked : S.ledger.Linked)

include hlinked

theorem leavesFolio_of_onlyCharges {S' : HotelStore} (h : OnlyCharges S S') : LeavesFolio folioId branchId S S' := by
  have hstanding : ∀ found : Option HotelFolio,
      found.map HotelFolio.standing = (found.map HotelFolio.terms).map HotelFolio.standing := by
    intro found
    rw [Option.map_map]
    rfl
  refine ⟨h.ledger ▸ hlinked, by rw [h.ledger], by rw [h.ledger], ?_⟩
  rw [hstanding, h.folios folioId, ← hstanding]

theorem leavesFolio_saveFolio_of_ne {id : ℕ} (hne : folioId ≠ id) (folio : HotelFolio) :
    LeavesFolio folioId branchId S (S.saveFolio id folio) := by
  refine ⟨hlinked, rfl, rfl, ?_⟩
  rw [find_saveFolio_of_ne S id hne]

theorem leavesFolio_entered_of_ne {id : ℕ} (hne : folioId ≠ id) (env : HotelRuntime) (dto : SettleFolioDto)
    (folio : HotelFolio) (h : 0 < recognisedOf (settledFolio env dto folio)) :
    LeavesFolio folioId branchId S
      { S with ledger := S.ledger.entered env.now (settlementEntry env id dto (settledFolio env dto folio)) } where
  linked := hlinked.entered _ _
  revenue := revenueOf_entered_of_ne hlinked h hne
  entry := entryByKey_entered_of_ne (fun heq => hne (settleKey_inj heq).symm) _
  standing := rfl

end Leaves

variable {folioId : ℕ} {folio : HotelFolio}

variable {S : HotelStore} {saved : HotelFolio} {op : HotelOp}

/-- A save of the folio keeps what the rows have more than the total, when it writes the total that is stored. -/
theorem unposted_saveFolio {stored : HotelFolio}
    (hfind : S.folios.find folioId = some stored) (htotal : stored.chargesTotal = folio.chargesTotal) :
    (S.saveFolio folioId folio).unposted folioId = S.unposted folioId := by
  unfold HotelStore.unposted HotelStore.totalCents
  rw [find_saveFolio_self hfind, hfind, Option.map_some, Option.map_some, htotal]
  rfl

theorem unposted_saveFolio_of_ne {id : ℕ} (hne : folioId ≠ id) (folio : HotelFolio) :
    (S.saveFolio id folio).unposted folioId = S.unposted folioId := by
  unfold HotelStore.unposted HotelStore.totalCents
  rw [find_saveFolio_of_ne S id hne]
  rfl

theorem HotelOp.of_saved (hopen : folio.status = .opened) (h : op.saved folioId folio = some saved) :
    saved.chargesTotal = folio.chargesTotal ∧ saved.branchId = folio.branchId ∧
      (saved.status = .settled ↔ ∃ env dto, op = .settleFolio env folioId dto ∧ saved = settledFolio env dto folio) := by
  cases op with
  | postCharge => cases h
  | runNightAudit => cases h
  | settleFolio env id dto =>
    simp only [HotelOp.saved] at h
    split_ifs at h with hid
    subst hid
    cases h
    exact ⟨rfl, rfl, iff_of_true rfl ⟨env, dto, rfl, rfl⟩⟩
  | voidFolio env id reason =>
    simp only [HotelOp.saved] at h
    split_ifs at h
    cases h
    have hstatus : (voidedFolio env reason folio).status = .voided := rfl
    refine ⟨rfl, rfl, iff_of_false ?_ ?_⟩
    · rw [hstatus]
      decide
    · rintro ⟨_, _, hop, -⟩
      cases hop
  | transferFolioRoom id dto =>
    simp only [HotelOp.saved] at h
    split_ifs at h
    cases h
    have hstatus : (transferredFolio dto folio).status = .opened := hopen
    refine ⟨rfl, rfl, iff_of_false ?_ ?_⟩
    · rw [hstatus]
      decide
    · rintro ⟨_, _, hop, -⟩
      cases hop

theorem HotelOp.saved_unique {id : ℕ} {folio' : HotelFolio} {saved' : HotelFolio}
    (h : op.saved folioId folio = some saved) (h' : op.saved id folio' = some saved') : folioId = id := by
  cases op <;> simp only [HotelOp.saved, reduceCtorEq] at h h' <;> split_ifs at h h' with hid hid' <;>
    exact hid.symm.trans hid'

section Pool

variable {ι : Type} [DecidableEq ι] {calls : ι → HotelOp} {folioId branchId : ℕ} {i : ι}

/-- **What a step does to a folio**: it leaves it alone, it saves it, or it posts its settlement. -/
theorem folioStep_cases {P : Pool ι HotelStore} {act : HotelStore → HotelStore}
    {next : HotelStore → HotelProc Unit} (hleft : P.left (procOf calls) i = .step act next)
    (hlinked : P.store.ledger.Linked) :
    (LeavesFolio folioId branchId P.store (act P.store) ∧
      (¬ (calls i).Charges → (act P.store).unposted folioId = P.store.unposted folioId) ∧
      ∀ folio env dto, ¬ Posting calls folioId P i folio env dto ∧
        ¬ Posting calls folioId (P.step (procOf calls) i) i folio env dto) ∨
    (¬ (calls i).Charges ∧ ∃ S folio saved, P.seen i = [S] ∧ S.folios.find folioId = some folio ∧
      folio.status = .opened ∧ (calls i).saved folioId folio = some saved ∧
      act P.store = P.store.saveFolio folioId saved) ∨
    (¬ (calls i).Charges ∧ ∃ folio env dto, Posting calls folioId P i folio env dto ∧
      (act P.store) = { P.store with
        ledger := P.store.ledger.entered env.now (settlementEntry env folioId dto (settledFolio env dto folio)) }) := by
  have hseen : (P.step (procOf calls) i).seen i = P.seen i ++ [P.store] := by
    rw [P.step_of_left (procOf calls) hleft]
    exact Function.update_self ..
  by_cases hcharges : (calls i).Charges
  · have hacts := (acts_charging hcharges).resume (P.seen i)
    have hleft' : (calls i).proc.resume (P.seen i) = .step act next := hleft
    rw [hleft'] at hacts
    have hnot : ∀ env dto, calls i ≠ .settleFolio env folioId dto := by
      intro env dto heq
      rw [heq] at hcharges
      exact hcharges
    exact .inl ⟨leavesFolio_of_onlyCharges hlinked (hacts P.store).1, fun h => absurd hcharges h,
      fun folio env dto => ⟨fun h => hnot env dto h.1, fun h => hnot env dto h.1⟩⟩
  · rcases HotelOp.saving_cases hcharges hleft with ⟨hnil, rfl⟩ | ⟨S, id, folio, saved, hone, hfind, hopen, hsaved, rfl⟩ |
      ⟨env, id, dto, S, T, folio, hop, htwo, hfind, hopen, hpos, hact⟩
    · refine .inl ⟨⟨hlinked, rfl, rfl, rfl⟩, fun _ => rfl, fun folio env dto => ⟨?_, ?_⟩⟩
      · rintro ⟨-, S, T, htwo, -⟩
        rw [hnil] at htwo
        cases htwo
      · rintro ⟨-, S, T, htwo, -⟩
        rw [hseen, hnil] at htwo
        cases htwo
    · by_cases hid : folioId = id
      · subst hid
        exact .inr (.inl ⟨hcharges, S, folio, saved, hone, hfind, hopen, hsaved, rfl⟩)
      · refine .inl ⟨leavesFolio_saveFolio_of_ne hlinked hid saved, fun _ => unposted_saveFolio_of_ne hid saved,
          fun folio' env dto => ⟨?_, ?_⟩⟩
        · rintro ⟨-, S', T, htwo, -⟩
          rw [hone] at htwo
          cases htwo
        · rintro ⟨hop, -⟩
          have hown : (calls i).saved folioId folio = some (settledFolio env dto folio) := by
            rw [hop]
            exact if_pos rfl
          exact hid (HotelOp.saved_unique hown hsaved)
    · by_cases hid : folioId = id
      · subst hid
        exact .inr (.inr ⟨hcharges, folio, env, dto, ⟨hop, S, T, htwo, hfind, hopen, hpos⟩, hact P.store⟩)
      · rw [hact P.store]
        refine .inl ⟨leavesFolio_entered_of_ne hlinked hid env dto folio hpos, fun _ => rfl,
          fun folio' env' dto' => ⟨?_, ?_⟩⟩
        · rintro ⟨hop', -⟩
          rw [hop] at hop'
          exact hid (HotelOp.settleFolio.inj hop').2.1.symm
        · rintro ⟨hop', -⟩
          rw [hop] at hop'
          exact hid (HotelOp.settleFolio.inj hop').2.1.symm

/-! ### Every step -/

variable (calls folioId branchId) in
/-- What is stored of a folio and posted for it, while calls are in progress: a settlement that has been saved is
posted, or about to be. -/
structure FolioKept (P : Pool ι HotelStore) : Prop where
  linked : P.store.ledger.Linked
  there : There folioId P.store
  branch : ∀ folio, P.store.folios.find folioId = some folio → folio.branchId = branchId
  branch_seen : ∀ j, ∀ S ∈ P.seen j, ∀ folio, S.folios.find folioId = some folio → folio.branchId = branchId
  unsettled : ∀ folio, P.store.folios.find folioId = some folio → folio.status ≠ .settled →
    P.store.ledger.revenueOf folioId = 0 ∧ P.store.ledger.entryByKey branchId (settleKey folioId) = none ∧
      ∀ j folio env dto, ¬ Posting calls folioId P j folio env dto
  settled : ∀ folio, P.store.folios.find folioId = some folio → folio.status = .settled →
    (∀ j folio env dto, Posting calls folioId P j folio env dto →
      recognisedOf (settledFolio env dto folio) = (⟨P.store.chargeSum folioId⟩ : Numeric2).value) ∧
    (P.store.ledger.revenueOf folioId = (⟨P.store.chargeSum folioId⟩ : Numeric2).value ∧
        (0 < P.store.chargeSum folioId → P.store.ledger.entryByKey branchId (settleKey folioId) ≠ none) ∨
      P.store.ledger.revenueOf folioId = 0 ∧ P.store.ledger.entryByKey branchId (settleKey folioId) = none ∧
        ∃ j folio env dto, Posting calls folioId P j folio env dto)

theorem branch_seen_step {P : Pool ι HotelStore}
    (hstore : ∀ folio, P.store.folios.find folioId = some folio → folio.branchId = branchId)
    (hseen : ∀ j, ∀ S ∈ P.seen j, ∀ folio, S.folios.find folioId = some folio → folio.branchId = branchId) (j : ι) :
    ∀ S ∈ (P.step (procOf calls) i).seen j, ∀ folio, S.folios.find folioId = some folio →
      folio.branchId = branchId := by
  intro S hS
  rcases P.seen_step (procOf calls) i j with hsame | ⟨-, hmore⟩
  · rw [hsame] at hS
    exact hseen j S hS
  · rw [hmore, List.mem_append, List.mem_singleton] at hS
    rcases hS with hS | rfl
    · exact hseen j S hS
    · exact hstore

section Step

variable {P : Pool ι HotelStore} {i : ι} {act : HotelStore → HotelStore} {next : HotelStore → HotelProc Unit}
  (hleft : P.left (fun j => (calls j).proc) i = .step act next)

include hleft

theorem store_step : (P.step (procOf calls) i).store = act P.store :=
  congrArg Pool.store (P.step_of_left (procOf calls) hleft)

theorem seen_step_self : (P.step (procOf calls) i).seen i = P.seen i ++ [P.store] := by
  rw [P.step_of_left (procOf calls) hleft]
  exact Function.update_self ..

theorem posting_step_of_ne {j : ι} (hj : j ≠ i) (folio : HotelFolio) (env : HotelRuntime) (dto : SettleFolioDto) :
    Posting calls folioId (P.step (procOf calls) i) j folio env dto ↔
      Posting calls folioId P j folio env dto := by
  have hseen : (P.step (procOf calls) i).seen j = P.seen j := by
    rw [P.step_of_left (procOf calls) hleft]
    exact Function.update_of_ne hj ..
  unfold Posting
  rw [hseen]

section

variable (h : FolioKept calls folioId branchId P)

include h

theorem kept_of_leaves (hleaves : LeavesFolio folioId branchId P.store (act P.store))
    (hposting : ∀ folio env dto, ¬ Posting calls folioId P i folio env dto ∧
      ¬ Posting calls folioId (P.step (procOf calls) i) i folio env dto)
    (hsum : (act P.store).chargeSum folioId ≠ P.store.chargeSum folioId →
      ∀ stored ∈ P.store.folios.find folioId, stored.status ≠ .settled) :
    FolioKept calls folioId branchId (P.step (procOf calls) i) := by
  have hbefore : ∀ folio', (act P.store).folios.find folioId = some folio' →
      ∃ folio, P.store.folios.find folioId = some folio ∧ folio'.branchId = folio.branchId ∧
        folio'.status = folio.status := by
    intro folio' hfind'
    have hstanding := hleaves.standing
    rw [hfind'] at hstanding
    obtain ⟨folio, hfind, heq⟩ := Option.map_eq_some_iff.mp hstanding.symm
    exact ⟨folio, hfind, (congrArg Prod.fst heq).symm, (congrArg Prod.snd heq).symm⟩
  have hpost : ∀ j folio env dto, Posting calls folioId (P.step (procOf calls) i) j folio env dto ↔
      Posting calls folioId P j folio env dto := by
    intro j folio env dto
    by_cases hj : j = i
    · subst hj
      exact iff_of_false (hposting folio env dto).2 (hposting folio env dto).1
    · exact posting_step_of_ne hleft hj folio env dto
  have hstore := store_step hleft
  refine ⟨hstore ▸ hleaves.linked, ?_, ?_, branch_seen_step h.branch h.branch_seen, ?_, ?_⟩
  · rw [hstore]
    intro hnone
    have hstanding := hleaves.standing
    rw [hnone] at hstanding
    exact h.there (Option.map_eq_none_iff.mp hstanding.symm)
  · rw [hstore]
    intro folio' hfind'
    obtain ⟨folio, hfind, hbranch, -⟩ := hbefore folio' hfind'
    rw [hbranch]
    exact h.branch folio hfind
  · rw [hstore]
    intro folio' hfind' hstatus'
    obtain ⟨folio, hfind, -, hstatus⟩ := hbefore folio' hfind'
    obtain ⟨hrevenue, hentry, hnone⟩ := h.unsettled folio hfind (hstatus ▸ hstatus')
    refine ⟨hleaves.revenue.trans hrevenue, hleaves.entry.trans hentry, fun j folio env dto hposts => ?_⟩
    exact hnone j folio env dto ((hpost j folio env dto).mp hposts)
  · rw [hstore]
    intro folio' hfind' hstatus'
    obtain ⟨folio, hfind, -, hstatus⟩ := hbefore folio' hfind'
    have hsettled : folio.status = .settled := hstatus ▸ hstatus'
    have hsame : (act P.store).chargeSum folioId = P.store.chargeSum folioId := by
      by_contra hne
      exact hsum hne folio hfind hsettled
    have hboth := h.settled folio hfind hsettled
    rw [hsame, hleaves.revenue, hleaves.entry]
    simp only [hpost]
    exact hboth

theorem kept_of_save {S : HotelStore} {folio saved stored : HotelFolio}
    (hone : P.seen i = [S]) (hfind : S.folios.find folioId = some folio) (hopen : folio.status = .opened)
    (hsaved : (calls i).saved folioId folio = some saved) (hact : act P.store = P.store.saveFolio folioId saved)
    (hstored : P.store.folios.find folioId = some stored)
    (hstatus : stored.status = .opened ∨ stored.status = saved.status)
    (hsum : saved.status = .settled → saved.chargesTotal.hundredths = P.store.chargeSum folioId ∧
      (0 < saved.chargesTotal.hundredths ∨ saved.chargesTotal.hundredths = 0 ∧ paidOf saved = 0)) :
    FolioKept calls folioId branchId (P.step (procOf calls) i) := by
  have hstore := store_step hleft
  rw [hact] at hstore
  obtain ⟨-, hbranch, hsettles⟩ := HotelOp.of_saved hopen hsaved
  have hself : (P.store.saveFolio folioId saved).folios.find folioId = some saved := find_saveFolio_self hstored saved
  have hnotPosting : ∀ folio env dto, ¬ Posting calls folioId P i folio env dto := by
    rintro folio' env dto ⟨-, S', T, htwo, -⟩
    rw [hone] at htwo
    cases htwo
  have hpost : ∀ j ≠ i, ∀ folio env dto, Posting calls folioId (P.step (procOf calls) i) j folio env dto ↔
      Posting calls folioId P j folio env dto := fun j hj => posting_step_of_ne hleft hj
  have hnew : ∀ folio' env dto, Posting calls folioId (P.step (procOf calls) i) i folio' env dto →
      saved = settledFolio env dto folio' := by
    rintro folio' env dto ⟨hop, S', T, htwo, hfind', -⟩
    rw [seen_step_self hleft, hone] at htwo
    cases htwo
    have hsame : folio = folio' := Option.mem_unique hfind hfind'
    rw [hop] at hsaved
    simp only [HotelOp.saved, if_true] at hsaved
    rw [← Option.some.inj hsaved, hsame]
  refine ⟨?_, ?_, ?_, branch_seen_step h.branch h.branch_seen, ?_, ?_⟩
  · rw [hstore]
    exact h.linked
  · unfold There
    rw [hstore, hself]
    exact Option.some_ne_none saved
  · rw [hstore, hself]
    rintro folio' ⟨⟩
    rw [hbranch]
    exact h.branch_seen i S (hone ▸ List.mem_cons_self) folio hfind
  · rw [hstore, hself]
    rintro folio' ⟨⟩ hunsettled
    have hstoredUnsettled : stored.status ≠ .settled := by
      rcases hstatus with hopened | hsame
      · rw [hopened]
        decide
      · rwa [hsame]
    obtain ⟨hrevenue, hentry, hnone⟩ := h.unsettled stored hstored hstoredUnsettled
    refine ⟨hrevenue, hentry, fun j folio' env dto hposts => ?_⟩
    by_cases hj : j = i
    · subst hj
      exact hunsettled (hnew folio' env dto hposts ▸ rfl)
    · exact hnone j folio' env dto ((hpost j hj folio' env dto).mp hposts)
  · rw [hstore, hself]
    rintro folio' ⟨⟩ hsettled
    obtain ⟨htotal, hpaid⟩ := hsum hsettled
    obtain ⟨env, dto, hop, hsavedEq⟩ := hsettles.mp hsettled
    -- what is recognised is what the rows add up to
    have hrecognised : recognisedOf saved = (⟨P.store.chargeSum folioId⟩ : Numeric2).value := by
      rw [← htotal]
      rcases hpaid with hpos | ⟨hzero, hnothing⟩
      · exact recognisedOf_of_pos saved hpos
      · rw [recognisedOf_of_le saved hzero.le, hnothing, hzero]
        exact (zero_div 100).symm
    refine ⟨fun j folio' env' dto' hposts => ?_, ?_⟩
    · by_cases hj : j = i
      · subst hj
        rw [← hnew folio' env' dto' hposts]
        exact hrecognised
      · have hposts := (hpost j hj folio' env' dto').mp hposts
        by_cases hbefore : stored.status = .settled
        · exact (h.settled stored hstored hbefore).1 j folio' env' dto' hposts
        · exact absurd hposts ((h.unsettled stored hstored hbefore).2.2 j folio' env' dto')
    · by_cases hbefore : stored.status = .settled
      · rcases (h.settled stored hstored hbefore).2 with hposted | ⟨hrevenue, hentry, j, folio', env', dto', hposts⟩
        · exact .inl hposted
        · have hj : j ≠ i := by
            rintro rfl
            exact hnotPosting folio' env' dto' hposts
          exact .inr ⟨hrevenue, hentry, j, folio', env', dto', (hpost j hj folio' env' dto').mpr hposts⟩
      · obtain ⟨hrevenue, hentry, -⟩ := h.unsettled stored hstored hbefore
        rcases hpaid with hpos | ⟨hzero, -⟩
        · refine .inr ⟨hrevenue, hentry, i, folio, env, dto, hop, S, P.store, ?_, hfind, hopen, ?_⟩
          · rw [seen_step_self hleft, hone]
            rfl
          · rw [← hsavedEq, recognisedOf_of_pos saved hpos]
            exact div_pos (Int.cast_pos.mpr hpos) (by norm_num)
        · have hnone : P.store.chargeSum folioId = 0 := htotal.symm.trans hzero
          refine .inl ⟨?_, fun hpos => ?_⟩
          · show P.store.ledger.revenueOf folioId = (⟨P.store.chargeSum folioId⟩ : Numeric2).value
            rw [hrevenue, hnone]
            exact (zero_div 100).symm
          · have hpos : 0 < P.store.chargeSum folioId := hpos
            omega

/-- **The posting of the settlement**, once and for all that is recognised. -/
theorem kept_of_posting {folio : HotelFolio} {env : HotelRuntime}
    {dto : SettleFolioDto} (hposting : Posting calls folioId P i folio env dto) (hact : act P.store = { P.store with
      ledger := P.store.ledger.entered env.now (settlementEntry env folioId dto (settledFolio env dto folio)) }) :
    FolioKept calls folioId branchId (P.step (procOf calls) i) := by
  have hstore := store_step hleft
  rw [hact] at hstore
  obtain ⟨stored, hstored⟩ := Option.ne_none_iff_exists'.mp h.there
  have hsettled : stored.status = .settled := by
    by_contra hunsettled
    exact (h.unsettled stored hstored hunsettled).2.2 i folio env dto hposting
  obtain ⟨hrecognised, hposted⟩ := h.settled stored hstored hsettled
  have hvalue := hrecognised i folio env dto hposting
  obtain ⟨hop, S, T, htwo, hfind, hopen, hpos⟩ := hposting
  have hbranch : folio.branchId = branchId :=
    h.branch_seen i S (htwo ▸ List.mem_cons_self) folio hfind
  have hended : ∀ folio' env' dto', ¬ Posting calls folioId (P.step (procOf calls) i) i folio' env' dto' := by
    rintro folio' env' dto' ⟨-, S', T', htwo', -⟩
    rw [seen_step_self hleft, htwo] at htwo'
    cases htwo'
  refine ⟨?_, ?_, ?_, branch_seen_step h.branch h.branch_seen, ?_, ?_⟩
  · rw [hstore]
    exact h.linked.entered _ _
  · rw [hstore]
    exact h.there
  · rw [hstore]
    exact h.branch
  · rw [hstore]
    intro folio' hfind' hunsettled
    have hsame : stored = folio' := Option.mem_unique hstored hfind'
    exact absurd hsettled (hsame ▸ hunsettled)
  · rw [hstore]
    intro folio' hfind' _
    refine ⟨fun j folio' env' dto' hposts => ?_, .inl ?_⟩
    · by_cases hj : j = i
      · subst hj
        exact absurd hposts (hended folio' env' dto')
      · exact hrecognised j folio' env' dto' ((posting_step_of_ne hleft hj folio' env' dto').mp hposts)
    · -- the ledger takes the first posting, and answers the others with it
      by_cases hentry : P.store.ledger.entryByKey branchId (settleKey folioId) = none
      · have hkey : P.store.ledger.entryByKey (settledFolio env dto folio).branchId (settleKey folioId) = none := by
          show P.store.ledger.entryByKey folio.branchId (settleKey folioId) = none
          rw [hbranch, hentry]
        have hrevenue : P.store.ledger.revenueOf folioId = 0 := by
          rcases hposted with ⟨-, hused⟩ | ⟨hrevenue, -⟩
          · have hsumPos : 0 < P.store.chargeSum folioId := by
              rw [hvalue] at hpos
              have hcast : (0 : ℚ) < (P.store.chargeSum folioId : ℚ) / 100 := hpos
              have hcast' : (0 : ℚ) < (P.store.chargeSum folioId : ℚ) := by linarith
              exact_mod_cast hcast'
            exact absurd hentry (hused hsumPos)
          · exact hrevenue
        have hposts := revenueOf_entered_self h.linked hpos hkey
        refine ⟨?_, fun _ => ?_⟩
        · show (P.store.ledger.entered _ _).revenueOf folioId = (⟨P.store.chargeSum folioId⟩ : Numeric2).value
          rw [hposts, hrevenue, hvalue, zero_add]
        · have hself := @entryByKey_entered_self P.store.ledger
            (settlementEntry env folioId dto (settledFolio env dto folio)) hkey env.now
          have hself' : (P.store.ledger.entered env.now
              (settlementEntry env folioId dto (settledFolio env dto folio))).entryByKey folio.branchId
                (settleKey folioId) = some _ := hself
          rw [← hbranch, hself']
          exact Option.some_ne_none _
      · have hused : ¬ P.store.ledger.entryByKey (settledFolio env dto folio).branchId (settleKey folioId) = none := by
          show ¬ P.store.ledger.entryByKey folio.branchId (settleKey folioId) = none
          rwa [hbranch]
        have hsame : P.store.ledger.entered env.now (settlementEntry env folioId dto (settledFolio env dto folio)) =
            P.store.ledger := if_neg hused
        rw [hsame]
        rcases hposted with hposted | ⟨-, hnone, -⟩
        · exact hposted
        · exact absurd hnone hentry

end

end Step

variable [Fintype ι]

variable (calls folioId) in
/-- Rows and totals go together: each call that charges makes up for its rows, and the others keep them. -/
structure Together (P : Pool ι HotelStore) : Prop where
  measure : P.store.unposted folioId = ∑ j, (calls j).proc.gain (HotelStore.unposted folioId) (P.seen j)
  charging : ∀ j, (calls j).Charges → Adds (There folioId) (HotelStore.unposted folioId)
    (P.left (fun j => (calls j).proc) j) (-(calls j).proc.gain (HotelStore.unposted folioId) (P.seen j))
  saving : ∀ j, ¬ (calls j).Charges → (calls j).proc.gain (HotelStore.unposted folioId) (P.seen j) = 0

variable {P : Pool ι HotelStore}

theorem together_step (h : Together calls folioId P) (hthere : There folioId P.store)
    {act : HotelStore → HotelStore} {next : HotelStore → HotelProc Unit}
    (hleft : P.left (procOf calls) i = .step act next)
    (hsaving : ¬ (calls i).Charges → (act P.store).unposted folioId = P.store.unposted folioId) :
    Together calls folioId (P.step (procOf calls) i) := by
  have hmeasure := P.measure_step (procOf calls) (HotelStore.unposted folioId) 0 i (by
    rw [zero_add]
    exact h.measure)
  rw [zero_add] at hmeasure
  have hstep := P.step_of_left (procOf calls) hleft
  have hgain := gain_concat (HotelStore.unposted folioId) hleft P.store
  refine ⟨hmeasure, fun j hj => ?_, fun j hj => ?_⟩
  · rw [hstep]
    by_cases hji : j = i
    · subst hji
      have hadds := h.charging j hj
      rw [hleft] at hadds
      have hnext := hadds P.store hthere
      rw [Pool.left_update_self hleft]
      dsimp only
      rw [Function.update_self, hgain]
      have heq : -((calls j).proc.gain (HotelStore.unposted folioId) (P.seen j) +
          ((act P.store).unposted folioId - P.store.unposted folioId)) =
          -(calls j).proc.gain (HotelStore.unposted folioId) (P.seen j) -
            ((act P.store).unposted folioId - P.store.unposted folioId) := by omega
      rw [heq]
      exact hnext
    · rw [Pool.left_update_of_ne hji]
      dsimp only
      rw [Function.update_of_ne hji]
      exact h.charging j hj
  · rw [hstep]
    by_cases hji : j = i
    · subst hji
      dsimp only
      rw [Function.update_self, hgain, h.saving j hj, hsaving hj, sub_self, add_zero]
    · dsimp only
      rw [Function.update_of_ne hji]
      exact h.saving j hj

omit [DecidableEq ι] [Fintype ι] in
theorem not_idle_of_posting {folio : HotelFolio} {env : HotelRuntime}
    {dto : SettleFolioDto} (h : Posting calls folioId P i folio env dto) : ¬ Idle calls P i := by
  obtain ⟨hop, S, T, htwo, hfind, hopen, hpos⟩ := h
  obtain ⟨act, heq, -⟩ := recognise_eq_step env folioId dto folio hpos
  have hleft : P.left (procOf calls) i = Proc.step act fun _ => pure () := by
    show ((calls i).proc).resume (P.seen i) = _
    rw [hop, htwo]
    simp only [HotelOp.proc, HotelFolios.settleFolio, bind_assoc]
    rw [resume_loadFolio_bind, hfind]
    dsimp only
    rw [hopen]
    simp only [settle, HotelFolios.saveFolio, bind_assoc, pure_bind]
    rw [heq]
    rfl
  rintro (hnil | hdone | hfail)
  · rw [hnil] at htwo
    cases htwo
  · unfold Pool.Succeeded at hdone
    rw [hleft] at hdone
    cases hdone
  · unfold Pool.Failed at hfail
    rw [hleft] at hfail
    cases hfail

variable (calls folioId branchId) in
structure Accounted (P : Pool ι HotelStore) : Prop where
  together : Together calls folioId P
  kept : FolioKept calls folioId branchId P

def StaysFinal (folioId : ℕ) (S S' : HotelStore) : Prop :=
  ∀ folio, S.folios.find folioId = some folio → folio.status ≠ .opened →
    ∃ folio', S'.folios.find folioId = some folio' ∧ folio'.status = folio.status

theorem StaysFinal.refl (S : HotelStore) : StaysFinal folioId S S := fun folio hfind _ => ⟨folio, hfind, rfl⟩

theorem StaysFinal.trans {S₁ S₂ S₃ : HotelStore} (h : StaysFinal folioId S₁ S₂) (h' : StaysFinal folioId S₂ S₃) :
    StaysFinal folioId S₁ S₃ := by
  intro folio hfind hfinal
  obtain ⟨folio', hfind', hstatus'⟩ := h folio hfind hfinal
  obtain ⟨folio'', hfind'', hstatus''⟩ := h' folio' hfind' (hstatus' ▸ hfinal)
  exact ⟨folio'', hfind'', hstatus''.trans hstatus'⟩

theorem accounted_step (h : Accounted calls folioId branchId P) (i : ι) (horderly : Orderly calls folioId P i) :
    Accounted calls folioId branchId (P.step (procOf calls) i) ∧
      StaysFinal folioId P.store (P.step (procOf calls) i).store := by
  rcases P.step_cases (procOf calls) i with ⟨act, next, hleft, -⟩ | hsame
  swap
  · rw [hsame]
    exact ⟨h, StaysFinal.refl P.store⟩
  obtain ⟨hsaves, hcharges⟩ := horderly
  have hstore := store_step hleft
  rw [hstore] at hcharges
  rcases folioStep_cases hleft h.kept.linked with ⟨hleaves, hunposted, hposting⟩ |
    ⟨hop, S, folio, saved, hone, hfind, hopen, hsaved, hact⟩ | ⟨hop, folio, env, dto, hposting, hact⟩
  · refine ⟨⟨together_step h.together h.kept.there hleft hunposted,
      kept_of_leaves hleft h.kept hleaves hposting hcharges⟩, ?_⟩
    rw [hstore]
    intro stored hstored hfinal
    have hstanding := hleaves.standing
    rw [hstored] at hstanding
    obtain ⟨folio', hfind', heq⟩ := Option.map_eq_some_iff.mp hstanding
    exact ⟨folio', hfind', congrArg Prod.snd heq⟩
  · obtain ⟨stored, hstored⟩ := Option.ne_none_iff_exists'.mp h.kept.there
    have hsaving : (folio, saved) ∈ (calls i).saving folioId (P.seen i) := by
      rw [hone]
      simp [HotelOp.saving, hfind, Option.filter, hopen, hsaved]
    obtain ⟨htotal, hstatus, hsettles⟩ := hsaves (folio, saved) hsaving stored hstored
    have htotal : stored.chargesTotal = folio.chargesTotal := htotal
    have hsavedTotal : saved.chargesTotal = folio.chargesTotal := (HotelOp.of_saved hopen hsaved).1
    have hsum : saved.status = .settled → saved.chargesTotal.hundredths = P.store.chargeSum folioId ∧
        (0 < saved.chargesTotal.hundredths ∨ saved.chargesTotal.hundredths = 0 ∧ paidOf saved = 0) := by
      intro hsettled
      obtain ⟨hnone, hpaid⟩ := hsettles hsettled
      -- no charge is half done, so that the total is that of the rows
      have hmeasure := h.together.measure
      rw [Finset.sum_eq_zero fun j _ => hnone j] at hmeasure
      have hstoredTotal : P.store.totalCents folioId = stored.chargesTotal.hundredths := by
        unfold HotelStore.totalCents
        rw [hstored]
        rfl
      have hzero : P.store.chargeSum folioId - P.store.totalCents folioId = 0 := hmeasure
      rw [hstoredTotal, htotal] at hzero
      refine ⟨?_, hpaid⟩
      rw [hsavedTotal]
      omega
    have hunposted : ¬ (calls i).Charges → (act P.store).unposted folioId = P.store.unposted folioId := by
      intro _
      rw [hact]
      exact unposted_saveFolio hstored (htotal.trans hsavedTotal.symm)
    refine ⟨⟨together_step h.together h.kept.there hleft hunposted,
      kept_of_save hleft h.kept hone hfind hopen hsaved hact hstored hstatus hsum⟩, ?_⟩
    rw [hstore, hact]
    intro stored' hstored' hfinal
    have hstoredEq : stored = stored' := Option.mem_unique hstored hstored'
    subst hstoredEq
    exact ⟨saved, find_saveFolio_self hstored saved, (hstatus.resolve_left hfinal).symm⟩
  · refine ⟨⟨together_step h.together h.kept.there hleft fun _ => ?_, kept_of_posting hleft h.kept hposting hact⟩, ?_⟩
    · rw [hact]
      rfl
    · rw [hstore, hact]
      exact StaysFinal.refl P.store

omit [DecidableEq ι] in
theorem accounted_init {S₀ : HotelStore} (hstart : FolioRight S₀ folioId) {folio₀ : HotelFolio}
    (hfind : S₀.folios.find folioId = some folio₀) :
    Accounted calls folioId folio₀.branchId (Pool.init S₀ : Pool ι HotelStore) := by
  have hsame : ∀ folio, S₀.folios.find folioId = some folio → folio = folio₀ :=
    fun folio h => Option.mem_unique h hfind
  have hnone : ∀ j folio env dto, ¬ Posting calls folioId (Pool.init S₀ : Pool ι HotelStore) j folio env dto := by
    rintro j folio env dto ⟨-, S, T, htwo, -⟩
    cases htwo
  refine ⟨⟨?_, fun j hj => ?_, fun j _ => ?_⟩, hstart.linked, hstart.there, fun folio h => ?_,
    fun j S hS => absurd hS List.not_mem_nil, fun folio h hunsettled => ?_, fun folio h hsettled => ?_⟩
  · have hzero : ∀ j : ι, (calls j).proc.gain (HotelStore.unposted folioId)
        ((Pool.init S₀ : Pool ι HotelStore).seen j) = 0 := fun j => gain_nil _ _
    rw [Finset.sum_eq_zero fun j _ => hzero j]
    show S₀.chargeSum folioId - S₀.totalCents folioId = 0
    have htotal := hstart.total
    omega
  · rw [Pool.left_init]
    show Adds _ _ _ (-(calls j).proc.gain (HotelStore.unposted folioId) [])
    rw [gain_nil]
    exact adds_charging hj folioId
  · exact gain_nil _ _
  · rw [hsame folio h]
  · obtain ⟨hrevenue, hentry⟩ := hstart.unsettled folio h hunsettled
    rw [hsame folio h] at hentry
    exact ⟨hrevenue, hentry, hnone⟩
  · obtain ⟨hrevenue, hentry⟩ := hstart.settled folio h hsettled
    rw [hsame folio h] at hentry
    exact ⟨fun j folio' env dto hposts => absurd hposts (hnone j folio' env dto), .inl ⟨hrevenue, hentry⟩⟩

omit [DecidableEq ι] in
theorem folioRight_of_idle (h : Accounted calls folioId branchId P)
    (hidle : ∀ j, Idle calls P j) : FolioRight P.store folioId where
  linked := h.kept.linked
  there := h.kept.there
  total := by
    have hzero : ∀ j, (calls j).proc.gain (HotelStore.unposted folioId) (P.seen j) = 0 := by
      intro j
      rcases hidle j with hnil | hended
      · rw [hnil, gain_nil]
      · by_cases hj : (calls j).Charges
        · have hadds := (h.together.charging j hj).eq_zero hended
          omega
        · exact h.together.saving j hj
    have hmeasure := h.together.measure
    rw [Finset.sum_eq_zero fun j _ => hzero j] at hmeasure
    have hdiff : P.store.chargeSum folioId - P.store.totalCents folioId = 0 := hmeasure
    omega
  unsettled folio hfind hunsettled := by
    obtain ⟨hrevenue, hentry, -⟩ := h.kept.unsettled folio hfind hunsettled
    rw [h.kept.branch folio hfind]
    exact ⟨hrevenue, hentry⟩
  settled folio hfind hsettled := by
    rw [h.kept.branch folio hfind]
    rcases (h.kept.settled folio hfind hsettled).2 with hposted | ⟨-, -, j, folio', env, dto, hposts⟩
    · exact hposted
    -- a settlement that is about to be posted is in progress
    · exact absurd (hidle j) (not_idle_of_posting hposts)

/-- **The total, the status and the revenue of a folio**: whatever runs beside each other, in a schedule of orderly
steps they are right whenever no call is in progress, and what is settled or void stays so. -/
theorem folio_right_concurrently {S₀ : HotelStore} (hstart : FolioRight S₀ folioId) {schedule : List ι}
    (h : Run.Along (Pool.step fun j => (calls j).proc) (Orderly calls folioId) (Pool.init S₀) schedule) :
    let pool n := Run.after (Pool.step fun j => (calls j).proc) (Pool.init S₀) (schedule.take n)
    (∀ n, (∀ j, Idle calls (pool n) j) → FolioRight (pool n).store folioId) ∧
      ∀ n m, n ≤ m → StaysFinal folioId (pool n).store (pool m).store := by
  intro pool
  obtain ⟨folio₀, hfind⟩ := Option.ne_none_iff_exists'.mp hstart.there
  have hinit : Accounted calls folioId folio₀.branchId (Pool.init S₀ : Pool ι HotelStore) := accounted_init hstart hfind
  have hstep : ∀ (P : Pool ι HotelStore) i, Accounted calls folioId folio₀.branchId P → Orderly calls folioId P i →
      Accounted calls folioId folio₀.branchId (P.step (fun j => (calls j).proc) i) ∧
        StaysFinal folioId P.store (P.step (fun j => (calls j).proc) i).store := fun P i hP => accounted_step hP i
  refine ⟨fun n hidle => ?_, fun n m hnm => ?_⟩
  · have hafter := Run.after_induction (fun P i hP hi => (hstep P i hP hi).1) hinit (Run.along_take h n)
    exact folioRight_of_idle hafter hidle
  · refine Run.rel_take (R := fun P P' : Pool ι HotelStore => StaysFinal folioId P.store P'.store)
      (fun P => StaysFinal.refl P.store) (fun _ _ _ => StaysFinal.trans) hstep hinit h hnm

end Pool

/-! ### Schedules -/

/-- A minibar, a settlement without payment and a transfer, on the folio of the guest. -/
def guestCalls (reason : Option String) : Fin 3 → HotelOp
  | 0 => .postCharge hotelRuntime 1 { chargeName := "Minibar", amount := ⟨5000⟩ }
  | 1 => .settleFolio hotelRuntime 1 {}
  | 2 => if reason = none then .transferFolioRoom 1 ⟨"102", none⟩ else .voidFolio hotelRuntime 1 reason

theorem folioRight_oneGuestHotel : FolioRight oneGuestHotel 1 where
  linked := linked_emptyJournal
  there := Option.some_ne_none weekendGuest
  total := by decide
  unsettled _ _ _ := ⟨by decide, rfl⟩
  settled folio hfind hsettled := by
    rw [(find_oneGuestHotel hfind).2] at hsettled
    cases hsettled

/-- The guest moves while the minibar is charged, and pays later. -/
theorem folio_right_concurrently_moveAndSettle :
    let schedule : List (Fin 3) := [0, 2, 2, 0, 0, 1, 1, 1]
    let pool n := Run.after (Pool.step fun j => (guestCalls none j).proc) (Pool.init oneGuestHotel) (schedule.take n)
    ((pool 8).store.ledger.revenueOf 1 = 50 ∧ (pool 8).store.totalCents 1 = 5000) ∧
      (∀ n, (∀ j, Idle (guestCalls none) (pool n) j) → FolioRight (pool n).store 1) ∧
      ∀ n m, n ≤ m → StaysFinal 1 (pool n).store (pool m).store :=
  ⟨by decide +kernel, folio_right_concurrently folioRight_oneGuestHotel (by decide +kernel)⟩

/-- **A charge is lost from the total** when the guest moves, a settled folio is voided, and a charge that was posted to
the open folio is lost from the revenue. -/
theorem folio_wrong :
    let pool reason schedule :=
      Run.after (Pool.step fun j => (guestCalls reason j).proc) (Pool.init oneGuestHotel) schedule
    ((∀ j, Idle (guestCalls none) (pool none [2, 0, 0, 0, 2]) j) ∧
      (pool none [2, 0, 0, 0, 2]).store.totalCents 1 = 0 ∧ (pool none [2, 0, 0, 0, 2]).store.chargeSum 1 = 5000) ∧
    (((pool (some "") [2, 1, 1]).store.folios.find 1).map HotelFolio.status = some .settled ∧
      ((pool (some "") [2, 1, 1, 2]).store.folios.find 1).map HotelFolio.status = some .voided) ∧
    (∀ j, Idle (guestCalls none) (pool none [0, 1, 1, 0, 0]) j) ∧
      ((pool none [0, 1, 1, 0, 0]).store.folios.find 1).map HotelFolio.status = some .settled ∧
      (pool none [0, 1, 1, 0, 0]).store.chargeSum 1 = 5000 ∧
      (pool none [0, 1, 1, 0, 0]).store.ledger.revenueOf 1 = 0 := by
  decide +kernel

end SuuqBackend
