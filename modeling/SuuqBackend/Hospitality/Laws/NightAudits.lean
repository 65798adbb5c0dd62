import SuuqBackend.Hospitality.Laws.FolioCharges

/-!
# Night audits

The night audit charges the date of the audit to every open folio, and to an overdue one every day since its
check-out.  It never looks at the check-in, and it tells a night that has been charged by a key that clients can
send too.

* `audit_spec`, `postCharge_spec`: which charges an audit and a client add.
* `night_audits_right`: when no audit reaches back before a check-in and no client sends the key of an audit, every
  night that is due is charged once, in whatever order the audits come, and the totals grow by what is charged.
* `nights_wrong`: otherwise a guest pays for a night before the arrival, or a night is never charged.
-/

namespace SuuqBackend

open Proc GeneralLedger HotelFolios HotelInventory SerialTable
open PosSync (trimmed)

/-! ### What an audit adds -/

/-- The plan by which the audit charges the folio; without one the folio is skipped. -/
def planFor (env : HotelRuntime) (dto : TriggerNightAuditDto) (S : HotelStore) (folio : HotelFolio) :
    Option HotelRatePlan :=
  (resolvePlan env (planLookup env dto S) (roomTypeOf dto S folio)).filter fun plan => 0 < plan.weekdayRate.value

/-- `auditDate`. -/
def auditDateOf (env : HotelRuntime) (dto : TriggerNightAuditDto) : CalendarDate := dto.auditDate.getD env.today

def NightDue (env : HotelRuntime) (dto : TriggerNightAuditDto) (S : HotelStore) (folioId : ℕ) (folio : HotelFolio)
    (plan : HotelRatePlan) (day : ℤ) : Prop :=
  S.folios.find folioId = some folio ∧ folio.branchId = dto.branchId ∧ folio.status = .opened ∧
    planFor env dto S folio = some plan ∧ day ∈ datesToPost folio (auditDateOf env dto)

def AuditCharge (env : HotelRuntime) (dto : TriggerNightAuditDto) (S : HotelStore) (charge : HotelFolioCharge) : Prop :=
  ∃ folioId folio plan day, NightDue env dto S folioId folio plan day ∧
    charge = nightCharge dto.branchId folioId folio plan day

variable {folioId : ℕ} {S S' : HotelStore} {folio folio' : HotelFolio}

theorem mem_openFolios {branchId : ℕ} : (folioId, folio) ∈ openFolios branchId S ↔
      S.folios.find folioId = some folio ∧ folio.branchId = branchId ∧ folio.status = .opened := by
  unfold openFolios
  simp only [List.mem_filterMap, List.mem_range, Option.map_eq_some_iff, Option.filter_eq_some_iff,
    decide_eq_true_eq, Prod.mk.injEq]
  constructor
  · rintro ⟨id, -, folio', ⟨hfind, hopen⟩, rfl, rfl⟩
    exact ⟨hfind, hopen⟩
  · rintro ⟨hfind, hopen⟩
    exact ⟨folioId, lt_next_of_find hfind, folio, ⟨hfind, hopen⟩, rfl, rfl⟩

theorem mem_datesToPost {auditDate : CalendarDate} {day : ℤ} :
    day ∈ datesToPost folio auditDate ↔ (fromDate folio auditDate).day ≤ day ∧ day ≤ auditDate.day := by
  unfold datesToPost
  simp only [List.mem_map, List.mem_range]
  constructor
  · rintro ⟨n, hn, rfl⟩
    omega
  · rintro ⟨hfrom, hto⟩
    refine ⟨(day - (fromDate folio auditDate).day).toNat, ?_, ?_⟩
    · omega
    · omega

theorem charged_nightCharge (S : HotelStore) (branchId folioId : ℕ) (folio : HotelFolio) (plan : HotelRatePlan)
    (day : ℤ) : (S.addCharge (nightCharge branchId folioId folio plan day)).incrementTotal folioId (rateFor plan day) =
      S.charged (nightCharge branchId folioId folio plan day) := by
  have hvalue : (nightCharge branchId folioId folio plan day).amount.value *
      (nightCharge branchId folioId folio plan day).quantity = rateFor plan day := by
    show (Numeric2.ofRat (round2 (rateFor plan day))).value * ((1 : ℕ) : ℚ) = _
    rw [ofRat_round2_rateFor, Nat.cast_one, mul_one]
  unfold HotelStore.charged
  rw [hvalue]
  rfl

theorem auditKey_inj {d d' : CalendarDate} (h : auditKey folioId d.day = auditKey folioId d'.day) : d.day = d'.day := by
  have hlist := congrArg String.toList h
  unfold auditKey at hlist
  simp only [String.toList_append, toString] at hlist
  have htexts := List.append_cancel_left (List.append_cancel_right (List.append_cancel_right hlist))
  exact dateText_inj.mp (String.toList_inj.mp htexts)

theorem KeepsTerms.ne_none (h : KeepsTerms S S')
    (hfolio : S.folios.find folioId ≠ none) : S'.folios.find folioId ≠ none := by
  intro hnone
  have hterms := h.folios folioId
  rw [hnone] at hterms
  exact hfolio (Option.map_eq_none_iff.mp hterms.symm)

theorem run_postNights (branchId folioId : ℕ) (folio : HotelFolio) (plan : HotelRatePlan) (days : List ℤ) :
    ∀ (totals : AuditTotals) (S : HotelStore), S.folios.find folioId ≠ none →
      ∃ totals' S', (postNights branchId folioId folio plan days totals).run S = (.ok totals', S') ∧
        ChargedBy (fun c => ∃ day ∈ days, c = nightCharge branchId folioId folio plan day) S S' ∧
        ∀ day ∈ days, S'.HasKey folioId (auditKey folioId day) := by
  induction days with
  | nil => exact fun totals S _ => ⟨totals, S, rfl, .refl, fun day hday => absurd hday List.not_mem_nil⟩
  | cons day days ih =>
    intro totals S hfolio
    have hmono : ∀ c, (∃ d ∈ days, c = nightCharge branchId folioId folio plan d) →
        ∃ d ∈ day :: days, c = nightCharge branchId folioId folio plan d :=
      fun c ⟨d, hd, hc⟩ => ⟨d, List.mem_cons_of_mem _ hd, hc⟩
    cases hkey : S.chargeByKey folioId (auditKey folioId day) with
    | some found =>
      obtain ⟨totals', S', hrun, hcharged, hkeys⟩ := ih totals S hfolio
      refine ⟨totals', S', ?_, hcharged.mono hmono, fun d hd => ?_⟩
      · rw [← hrun, postNights, findCharge, run_read_bind, hkey]
      · rcases List.mem_cons.mp hd with rfl | hd
        · exact hcharged.hasKey (hasKey_of_chargeByKey hkey)
        · exact hkeys d hd
    | none =>
      let charge := nightCharge branchId folioId folio plan day
      have hfirst : ChargedBy (fun c => ∃ d ∈ day :: days, c = nightCharge branchId folioId folio plan d) S
          (S.charged charge) := by
        refine .charge charge .refl ⟨day, List.mem_cons_self, rfl⟩ hfolio fun key hmem => ?_
        have hused : auditKey folioId day = key := Option.some.inj hmem
        rw [← hused]
        exact not_hasKey_of_chargeByKey hkey
      obtain ⟨totals', S', hrun, hcharged, hkeys⟩ := ih
        { totals with
          chargesPosted := totals.chargesPosted + 1, totalAmount := totals.totalAmount + rateFor plan day }
        (S.charged charge) (hfirst.keepsTerms.ne_none hfolio)
      refine ⟨totals', S', ?_, hfirst.trans (hcharged.mono hmono), fun d hd => ?_⟩
      · rw [← hrun, postNights, findCharge, run_read_bind, hkey, ← charged_nightCharge]
        rfl
      · rcases List.mem_cons.mp hd with rfl | hd
        · have hnew : (S.charged charge).charges.find S.charges.next = some charge := by
            rw [charges_charged]
            exact find_add_self _ _
          exact hcharged.hasKey ⟨S.charges.next, charge, hnew, rfl, rfl⟩
        · exact hkeys d hd

variable (env : HotelRuntime) (dto : TriggerNightAuditDto)

theorem roomTypeOf_congr (hrooms : S'.rooms = S.rooms) (hroom : folio'.roomNumber = folio.roomNumber) :
    roomTypeOf dto S' folio' = roomTypeOf dto S folio := by
  unfold roomTypeOf
  rw [hrooms, hroom]

theorem KeepsTerms.planFor (h : KeepsTerms S S') (env : HotelRuntime)
    (dto : TriggerNightAuditDto) (hterms : folio'.terms = folio.terms) :
    planFor env dto S' folio' = planFor env dto S folio := by
  have hlookup : planLookup env dto S' = planLookup env dto S := by
    unfold planLookup activePlans
    rw [h.ratePlans]
  have hroom : folio'.terms.roomNumber = folio.terms.roomNumber := by rw [hterms]
  have hroom : folio'.roomNumber = folio.roomNumber := hroom
  unfold SuuqBackend.planFor
  rw [hlookup, roomTypeOf_congr dto h.rooms hroom]

theorem run_auditFolios (S₀ : HotelStore) (folios : List (ℕ × HotelFolio)) :
    ∀ (totals : AuditTotals) (S : HotelStore), KeepsTerms S₀ S →
      (∀ f ∈ folios, S₀.folios.find f.1 = some f.2 ∧ f.2.branchId = dto.branchId ∧ f.2.status = .opened) →
      ∃ totals' S', (auditFolios env dto (planLookup env dto S₀) (auditDateOf env dto) folios totals).run S =
          (.ok totals', S') ∧ ChargedBy (AuditCharge env dto S₀) S S' ∧
        ∀ f ∈ folios, ∀ plan day, NightDue env dto S₀ f.1 f.2 plan day → S'.HasKey f.1 (auditKey f.1 day) := by
  induction folios with
  | nil => exact fun totals S _ _ => ⟨totals, S, rfl, .refl, fun f hf => absurd hf List.not_mem_nil⟩
  | cons f folios ih =>
    intro totals S hkeeps hopen
    obtain ⟨folioId, folio⟩ := f
    obtain ⟨hfind, hbranch, hstatus⟩ := hopen (folioId, folio) List.mem_cons_self
    have hrest : ∀ f ∈ folios, S₀.folios.find f.1 = some f.2 ∧ f.2.branchId = dto.branchId ∧ f.2.status = .opened :=
      fun f hf => hopen f (List.mem_cons_of_mem _ hf)
    have hplan : (resolvePlan env (planLookup env dto S₀) (roomTypeOf dto S folio)).filter
        (fun plan => 0 < plan.weekdayRate.value) = planFor env dto S₀ folio := by
      rw [roomTypeOf_congr dto hkeeps.rooms rfl]
      rfl
    cases hfor : planFor env dto S₀ folio with
    | none =>
      obtain ⟨totals', S', hrun, hcharged, hkeys⟩ :=
        ih { totals with skipped := totals.skipped ++ [folioId] } S hkeeps hrest
      refine ⟨totals', S', ?_, hcharged, fun g hg plan day hdue => ?_⟩
      · rw [← hrun, auditFolios, run_read_bind, hplan, hfor]
      · rcases List.mem_cons.mp hg with rfl | hg
        · obtain ⟨-, -, -, hsome, -⟩ := hdue
          exact absurd (hfor.symm.trans hsome) (Option.some_ne_none plan).symm
        · exact hkeys g hg plan day hdue
    | some plan =>
      have hthere : S.folios.find folioId ≠ none := by
        refine hkeeps.ne_none ?_
        rw [hfind]
        exact Option.some_ne_none folio
      obtain ⟨totals₁, S₁, hrun₁, hcharged₁, hkeys₁⟩ :=
        run_postNights dto.branchId folioId folio plan (datesToPost folio (auditDateOf env dto)) totals S hthere
      have hnights : ChargedBy (AuditCharge env dto S₀) S S₁ := by
        refine hcharged₁.mono fun c hc => ?_
        obtain ⟨day, hday, rfl⟩ := hc
        exact ⟨folioId, folio, plan, day, ⟨hfind, hbranch, hstatus, hfor, hday⟩, rfl⟩
      obtain ⟨totals', S', hrun, hcharged, hkeys⟩ := ih totals₁ S₁ (hkeeps.trans hnights.keepsTerms) hrest
      refine ⟨totals', S', ?_, hnights.trans hcharged, fun g hg plan' day hdue => ?_⟩
      · rw [auditFolios, run_read_bind, hplan, hfor]
        exact (run_bind_of_ok hrun₁ _).trans hrun
      · rcases List.mem_cons.mp hg with rfl | hg
        · obtain ⟨-, -, -, -, hday⟩ := hdue
          exact hcharged.hasKey (hkeys₁ day hday)
        · exact hkeys g hg plan' day hdue

/-- **What an audit does**: it charges nights that are due, and then all of them have been charged. -/
theorem audit_spec (actorId : Option ℕ) (S : HotelStore) :
    ChargedBy (AuditCharge env dto S) S ((runNightAudit env dto actorId).run S).2 ∧
      ∀ folioId folio plan day, NightDue env dto S folioId folio plan day →
        ((runNightAudit env dto actorId).run S).2.HasKey folioId (auditKey folioId day) := by
  have hopen : ∀ f ∈ openFolios dto.branchId S,
      S.folios.find f.1 = some f.2 ∧ f.2.branchId = dto.branchId ∧ f.2.status = .opened :=
    fun f hf => mem_openFolios.mp hf
  obtain ⟨totals', S', hrun, hcharged, hkeys⟩ :=
    run_auditFolios env dto S (openFolios dto.branchId S) {} S (ChargedBy.refl.keepsTerms (Q := fun _ => True)) hopen
  have haudit : ∃ auditLogs, ((runNightAudit env dto actorId).run S).2 = { S' with auditLogs } := by
    exact ⟨_, congrArg Prod.snd (run_bind_of_ok hrun _)⟩
  obtain ⟨auditLogs, haudit⟩ := haudit
  rw [haudit]
  refine ⟨hcharged.log auditLogs, fun folioId folio plan day hdue => ?_⟩
  have hmem : (folioId, folio) ∈ openFolios dto.branchId S := mem_openFolios.mpr ⟨hdue.1, hdue.2.1, hdue.2.2.1⟩
  exact hkeys _ hmem plan day hdue

theorem run_loadFolio (h : S.folios.find folioId = some folio) : (loadFolio folioId).run S = (.ok folio, S) := by
  unfold loadFolio
  rw [run_read_bind, h]
  rfl

theorem run_loadFolio_of_none (h : S.folios.find folioId = none) :
    (loadFolio folioId).run S = (.error (.notFound s!"Hotel folio {folioId} not found."), S) := by
  unfold loadFolio
  rw [run_read_bind, h]
  rfl

variable (folioId : ℕ)

theorem run_findCharge (idempotencyKey : Option String) (S : HotelStore) :
    (findCharge folioId idempotencyKey).run S = (.ok (idempotencyKey.bind (S.chargeByKey folioId)), S) := by
  cases idempotencyKey with
  | none => rfl
  | some key => rfl

theorem charged_newCharge (S : HotelStore) (folio : HotelFolio)
    (dto : PostFolioChargeDto) : (S.addCharge (newCharge env folioId folio dto)).incrementTotal folioId
      (round2 dto.amount.value * quantityOf dto) = S.charged (newCharge env folioId folio dto) := by
  have hvalue : (newCharge env folioId folio dto).amount.value = round2 dto.amount.value :=
    ofRat_round2_decimal2 dto.amount
  unfold HotelStore.charged
  rw [hvalue]
  rfl

theorem postCharge_spec (dto : PostFolioChargeDto) (S : HotelStore) :
    ChargedBy (fun c => c.folioId = folioId ∧ c.idempotencyKey = trimmed dto.idempotencyKey ∧
        (∃ folio, S.folios.find folioId = some folio ∧ folio.status = .opened) ∧
        ∀ key ∈ trimmed dto.idempotencyKey, ¬ S.HasKey folioId key) S ((postCharge env folioId dto).run S).2 := by
  unfold postCharge
  cases hfind : S.folios.find folioId with
  | none =>
    rw [run_bind_of_error (run_loadFolio_of_none hfind)]
    exact .refl
  | some folio =>
    rw [run_bind_of_ok (run_loadFolio hfind), run_throwIf_bind]
    split_ifs with hstatus
    · exact .refl
    · rw [run_bind_of_ok (run_findCharge folioId (trimmed dto.idempotencyKey) S)]
      cases hfound : (trimmed dto.idempotencyKey).bind (S.chargeByKey folioId) with
      | some existing => exact .refl
      | none =>
        have hfree : ∀ key ∈ trimmed dto.idempotencyKey, ¬ S.HasKey folioId key := by
          intro key hkey
          refine not_hasKey_of_chargeByKey ?_
          rw [Option.mem_def.mp hkey] at hfound
          exact hfound
        show ChargedBy _ S ((S.addCharge (newCharge env folioId folio dto)).incrementTotal folioId
          (round2 dto.amount.value * quantityOf dto))
        rw [charged_newCharge]
        refine .charge _ .refl ⟨rfl, rfl, ⟨folio, rfl, of_not_not hstatus⟩, hfree⟩ ?_ hfree
        show S.folios.find folioId ≠ none
        rw [hfind]
        exact Option.some_ne_none folio

/-! ### Runs -/

/-- A call of the night audit, or a charge of a client; each has what it takes from the runtime. -/
inductive HotelCall where
  | runNightAudit (env : HotelRuntime) (dto : TriggerNightAuditDto) (actorId : Option ℕ)
  | postCharge (env : HotelRuntime) (folioId : ℕ) (dto : PostFolioChargeDto)

/-- If the audit charges the folio, it begins no earlier than at the check-in. -/
def BeginsInTime (env : HotelRuntime) (dto : TriggerNightAuditDto) (S : HotelStore) (folio : HotelFolio) : Prop :=
  folio.branchId = dto.branchId → folio.status = .opened → planFor env dto S folio ≠ none →
    ∀ checkInAt ∈ folio.checkInAt, checkInAt.day ≤ (fromDate folio (auditDateOf env dto)).day

namespace HotelCall

def step (S : HotelStore) : HotelCall → HotelStore
  | runNightAudit env dto actorId => ((HotelInventory.runNightAudit env dto actorId).run S).2
  | postCharge env folioId dto => ((HotelFolios.postCharge env folioId dto).run S).2

/-- An audit begins no folio that it charges before its check-in.  A client takes the key of a night only when the
night has been charged, so that the answer is that charge. -/
def Regular (S : HotelStore) : HotelCall → Prop
  | runNightAudit env dto _ => ∀ folioId folio, S.folios.find folioId = some folio → BeginsInTime env dto S folio
  | postCharge _ folioId dto => ∀ folio, S.folios.find folioId = some folio → folio.status = .opened →
      ∀ d : CalendarDate, trimmed dto.idempotencyKey = some (auditKey folioId d.day) →
        S.HasKey folioId (auditKey folioId d.day)

end HotelCall

/-- An audit of the run charges the folio for the day. -/
def DueIn (S : HotelStore) (calls : List HotelCall) (folioId : ℕ) (plan : HotelRatePlan) (day : ℤ) : Prop :=
  ∃ env dto actorId folio, HotelCall.runNightAudit env dto actorId ∈ calls ∧ NightDue env dto S folioId folio plan day

/-- Audits that charge a folio for the same day do so at the same rate. -/
def SameRates (S : HotelStore) (calls : List HotelCall) : Prop :=
  ∀ folioId plan plan' day, DueIn S calls folioId plan day → DueIn S calls folioId plan' day →
    rateFor plan day = rateFor plan' day

/-- No open folio has been charged for a night. -/
def NoNights (S : HotelStore) : Prop :=
  ∀ folioId folio, S.folios.find folioId = some folio → folio.status = .opened →
    ∀ d : CalendarDate, ¬ S.HasKey folioId (auditKey folioId d.day)

def IsNight (S : HotelStore) (folioId : ℕ) (d : CalendarDate) (id : ℕ) (charge : HotelFolioCharge) : Prop :=
  S.charges.find id = some charge ∧ charge.folioId = folioId ∧ charge.chargeGroupCode = some "ROOM_NIGHT" ∧
    charge.idempotencyKey = some (auditKey folioId d.day)

/-- What a call may add when it is regular: nights that are due, and charges without the key of a night. -/
def Added (S : HotelStore) (calls : List HotelCall) (charge : HotelFolioCharge) : Prop :=
  (∃ env dto actorId, HotelCall.runNightAudit env dto actorId ∈ calls ∧ AuditCharge env dto S charge) ∨
    ∀ d : CalendarDate, charge.idempotencyKey ≠ some (auditKey charge.folioId d.day)

variable {dto : TriggerNightAuditDto} {S S' : HotelStore} {env : HotelRuntime} {folioId : ℕ}

/-- What is due stays due when charges are added: only the total of the folio has changed. -/
theorem KeepsTerms.nightDue (h : KeepsTerms S S')
    {folio folio' : HotelFolio} (hterms : folio'.terms = folio.terms)
    (hfind : S.folios.find folioId = some folio) (hfind' : S'.folios.find folioId = some folio')
    (plan : HotelRatePlan) (day : ℤ) :
    NightDue env dto S' folioId folio' plan day ↔ NightDue env dto S folioId folio plan day := by
  have hbranch : folio'.terms.branchId = folio.terms.branchId := by rw [hterms]
  have hstatus : folio'.terms.status = folio.terms.status := by rw [hterms]
  have hdates : datesToPost folio'.terms (auditDateOf env dto) = datesToPost folio.terms (auditDateOf env dto) := by
    rw [hterms]
  have hbranch : folio'.branchId = folio.branchId := hbranch
  have hstatus : folio'.status = folio.status := hstatus
  have hdates : datesToPost folio' (auditDateOf env dto) = datesToPost folio (auditDateOf env dto) := hdates
  unfold NightDue
  rw [h.planFor env dto hterms, hbranch, hstatus, hdates]
  simp only [hfind, hfind', true_and]

theorem KeepsTerms.exists_before (h : KeepsTerms S S') {folio' : HotelFolio}
    (hfind : S'.folios.find folioId = some folio') :
    ∃ folio, S.folios.find folioId = some folio ∧ folio'.terms = folio.terms := by
  have hterms := h.folios folioId
  rw [hfind] at hterms
  obtain ⟨folio, hfolio, heq⟩ := Option.map_eq_some_iff.mp hterms.symm
  exact ⟨folio, hfolio, heq.symm⟩

theorem KeepsTerms.exists_after (h : KeepsTerms S S') {folio : HotelFolio}
    (hfind : S.folios.find folioId = some folio) :
    ∃ folio', S'.folios.find folioId = some folio' ∧ folio'.terms = folio.terms := by
  have hterms := h.folios folioId
  rw [hfind] at hterms
  exact Option.map_eq_some_iff.mp hterms

theorem KeepsTerms.auditCharge (h : KeepsTerms S S')
    {charge : HotelFolioCharge} (hcharge : AuditCharge env dto S' charge) :
    AuditCharge env dto S charge := by
  obtain ⟨folioId, folio', plan, day, hdue, rfl⟩ := hcharge
  obtain ⟨folio, hfind, hterms⟩ := h.exists_before hdue.1
  refine ⟨folioId, folio, plan, day, (h.nightDue hterms hfind hdue.1 plan day).mp hdue, ?_⟩
  have hnight : nightCharge dto.branchId folioId folio'.terms plan day =
      nightCharge dto.branchId folioId folio.terms plan day := by rw [hterms]
  exact hnight

variable {S : HotelStore}

/-- **One regular call** adds nights that are due, and charges without the key of a night. -/
theorem chargedBy_step {call : HotelCall} (h : call.Regular S) :
    ChargedBy (Added S [call]) S (call.step S) := by
  cases call with
  | runNightAudit env dto actorId =>
    refine (audit_spec env dto actorId S).1.mono fun c hc => ?_
    exact .inl ⟨env, dto, actorId, List.mem_singleton_self _, hc⟩
  | postCharge env folioId dto =>
    refine (postCharge_spec env folioId dto S).mono fun c hc => .inr fun d hd => ?_
    obtain ⟨rfl, hkey, ⟨folio, hfind, hstatus⟩, hfree⟩ := hc
    have hsent := hkey.symm.trans hd
    exact hfree _ hsent (h folio hfind hstatus d hsent)

variable {calls : List HotelCall}

/-- **A regular run** adds nights that are due, and charges without the key of a night; in the end the nights that
are due have been charged. -/
theorem chargedBy_after (h : Run.Along HotelCall.step (fun S call => call.Regular S) S calls) :
    ChargedBy (Added S calls) S (Run.after HotelCall.step S calls) ∧
      ∀ folioId plan day, DueIn S calls folioId plan day →
        (Run.after HotelCall.step S calls).HasKey folioId (auditKey folioId day) := by
  induction calls generalizing S with
  | nil => exact ⟨.refl, fun _ _ _ ⟨_, _, _, _, hmem, _⟩ => absurd hmem List.not_mem_nil⟩
  | cons call calls ih =>
    obtain ⟨hcall, hcalls⟩ := h
    obtain ⟨hrest, hkeys⟩ := ih hcalls
    have hfirst := chargedBy_step hcall
    have hkeeps := hfirst.keepsTerms
    refine ⟨(hfirst.mono fun c hc => ?_).trans (hrest.mono fun c hc => ?_), ?_⟩
    · rcases hc with ⟨env, dto, actorId, hmem, hc⟩ | hc
      · exact .inl ⟨env, dto, actorId, List.mem_cons.mpr (.inl (List.mem_singleton.mp hmem)), hc⟩
      · exact .inr hc
    · rcases hc with ⟨env, dto, actorId, hmem, hc⟩ | hc
      · exact .inl ⟨env, dto, actorId, List.mem_cons_of_mem _ hmem, hkeeps.auditCharge hc⟩
      · exact .inr hc
    · rintro folioId plan day ⟨env, dto, actorId, folio, hmem, hdue⟩
      rcases List.mem_cons.mp hmem with rfl | hmem
      · exact hrest.hasKey ((audit_spec env dto actorId S).2 folioId folio plan day hdue)
      · obtain ⟨folio', hfind', hterms⟩ := hkeeps.exists_after hdue.1
        have hdue' := (hkeeps.nightDue hterms hdue.1 hfind' plan day).mpr hdue
        exact hkeys folioId plan day ⟨env, dto, actorId, folio', hmem, hdue'⟩

theorem KeepsTerms.regular_iff (h : KeepsTerms S S') (env : HotelRuntime)
    (dto : TriggerNightAuditDto) (actorId : Option ℕ) :
    (HotelCall.runNightAudit env dto actorId).Regular S' ↔ (HotelCall.runNightAudit env dto actorId).Regular S := by
  have hbegins : ∀ folio folio' : HotelFolio, folio'.terms = folio.terms →
      (BeginsInTime env dto S' folio' ↔ BeginsInTime env dto S folio) := by
    intro folio folio' hterms
    have heq : BeginsInTime env dto S folio'.terms = BeginsInTime env dto S folio.terms := by rw [hterms]
    have heq : BeginsInTime env dto S folio' = BeginsInTime env dto S folio := heq
    have hplan : SuuqBackend.planFor env dto S' folio' = SuuqBackend.planFor env dto S folio' := h.planFor env dto rfl
    rw [← heq]
    unfold BeginsInTime
    rw [hplan]
  constructor
  · intro hregular folioId folio hfind
    obtain ⟨folio', hfind', hterms⟩ := h.exists_after hfind
    exact (hbegins folio folio' hterms).mp (hregular folioId folio' hfind')
  · intro hregular folioId folio' hfind'
    obtain ⟨folio, hfind, hterms⟩ := h.exists_before hfind'
    exact (hbegins folio folio' hterms).mpr (hregular folioId folio hfind)

theorem regular_of_mem
    (h : Run.Along HotelCall.step (fun S call => call.Regular S) S calls)
    {actorId : Option ℕ} (hmem : HotelCall.runNightAudit env dto actorId ∈ calls) :
    (HotelCall.runNightAudit env dto actorId).Regular S := by
  induction calls generalizing S with
  | nil => exact absurd hmem List.not_mem_nil
  | cons call calls ih =>
    obtain ⟨hcall, hcalls⟩ := h
    rcases List.mem_cons.mp hmem with rfl | hmem
    · exact hcall
    · exact ((chargedBy_step hcall).keepsTerms.regular_iff env dto actorId).mp (ih hcalls hmem)

/-- A run is regular when its audits are so at the start and no client sends the key of a night. -/
theorem along_regular (haudits : ∀ env dto actorId, HotelCall.runNightAudit env dto actorId ∈ calls →
      (HotelCall.runNightAudit env dto actorId).Regular S)
    (hclients : ∀ env folioId dto, HotelCall.postCharge env folioId dto ∈ calls →
      ∀ d : CalendarDate, trimmed dto.idempotencyKey ≠ some (auditKey folioId d.day)) :
    Run.Along HotelCall.step (fun S call => call.Regular S) S calls := by
  induction calls generalizing S with
  | nil => trivial
  | cons call calls ih =>
    have hcall : call.Regular S := by
      cases call with
      | runNightAudit env dto actorId => exact haudits env dto actorId List.mem_cons_self
      | postCharge env folioId dto =>
        intro _ _ _ d hkey
        exact absurd hkey (hclients env folioId dto List.mem_cons_self d)
    have hkeeps := (chargedBy_step hcall).keepsTerms
    refine ⟨hcall, ih (fun env dto actorId hmem => ?_) fun env folioId dto hmem => ?_⟩
    · exact (hkeeps.regular_iff env dto actorId).mpr (haudits env dto actorId (List.mem_cons_of_mem _ hmem))
    · exact hclients env folioId dto (List.mem_cons_of_mem _ hmem)

/-! ### The nights of an open folio -/

def AuditedOn (S : HotelStore) (calls : List HotelCall) (folio : HotelFolio) (a : CalendarDate) : Prop :=
  ∃ env dto actorId, HotelCall.runNightAudit env dto actorId ∈ calls ∧ folio.branchId = dto.branchId ∧
    planFor env dto S folio ≠ none ∧ auditDateOf env dto = a

/-- **What is promised of the nights of a folio**, from the tables before the calls to those after them. -/
structure NightsRight (S : HotelStore) (calls : List HotelCall) (folioId : ℕ) (folio : HotelFolio) : Prop where
  /-- A date is charged at most once. -/
  once : ∀ d id id' charge charge', IsNight (Run.after HotelCall.step S calls) folioId d id charge →
    IsNight (Run.after HotelCall.step S calls) folioId d id' charge' → id = id'
  /-- A night before the check-out that was audited is charged. -/
  stayed : ∀ a, AuditedOn S calls folio a → (∀ checkOutAt ∈ folio.checkOutAt, a.day < checkOutAt.day) →
    ∃ id charge, IsNight (Run.after HotelCall.step S calls) folioId a id charge
  /-- So is every night from the check-out up to an audit. -/
  overdue : ∀ a, AuditedOn S calls folio a → ∀ checkOutAt ∈ folio.checkOutAt, ∀ d : CalendarDate,
    checkOutAt.day ≤ d.day → d.day ≤ a.day → ∃ id charge, IsNight (Run.after HotelCall.step S calls) folioId d id charge
  /-- No night before the check-in is charged. -/
  notBefore : ∀ d id charge, IsNight (Run.after HotelCall.step S calls) folioId d id charge →
    ∀ checkInAt ∈ folio.checkInAt, checkInAt.day ≤ d.day
  /-- The calls in another order charge the same amounts for the same dates. -/
  order : ∀ calls', calls'.Perm calls → Run.Along HotelCall.step (fun S call => call.Regular S) S calls' →
    ∀ d amount,
      (∃ id charge, IsNight (Run.after HotelCall.step S calls') folioId d id charge ∧ charge.amount = amount) ↔
        ∃ id charge, IsNight (Run.after HotelCall.step S calls) folioId d id charge ∧ charge.amount = amount
  /-- The total grows by what is charged. -/
  total : (Run.after HotelCall.step S calls).totalCents folioId - S.totalCents folioId =
    (Run.after HotelCall.step S calls).chargeSum folioId - S.chargeSum folioId

section OpenFolio

variable {S : HotelStore} {calls : List HotelCall} {folioId : ℕ} {folio : HotelFolio} {day : ℤ}

theorem exists_calendarDate {auditDate : CalendarDate} (h : day ∈ datesToPost folio auditDate) :
    ∃ d : CalendarDate, d.day = day := by
  obtain ⟨hfrom, hto⟩ := mem_datesToPost.mp h
  exact ⟨CalendarDate.between (fromDate folio auditDate) auditDate day hfrom hto, rfl⟩

/-- **The nights of a folio are those that are due**, at the rate of an audit. -/
theorem exists_due_of_isNight (hstart : NoNights S)
    (hregular : Run.Along HotelCall.step (fun S call => call.Regular S) S calls)
    (hfind : S.folios.find folioId = some folio) (hopen : folio.status = .opened) {d : CalendarDate} {id : ℕ}
    {charge : HotelFolioCharge} (hnight : IsNight (Run.after HotelCall.step S calls) folioId d id charge) :
    ∃ plan, DueIn S calls folioId plan d.day ∧ charge.amount = .ofRat (round2 (rateFor plan d.day)) := by
  obtain ⟨hcharge, hfolioId, -, hkey⟩ := hnight
  rcases (chargedBy_after hregular).1.new hcharge with hold | ⟨env, dto, actorId, hmem, hc⟩ | hother
  · exact absurd ⟨id, charge, hold, hfolioId, hkey⟩ (hstart folioId folio hfind hopen d)
  · obtain ⟨folioId', folio', plan, day, hdue, rfl⟩ := hc
    have hsame : folioId' = folioId := hfolioId
    subst hsame
    obtain ⟨d', rfl⟩ := exists_calendarDate hdue.2.2.2.2
    have hday : d'.day = d.day := auditKey_inj (Option.some.inj hkey)
    rw [hday] at hdue
    refine ⟨plan, ⟨env, dto, actorId, folio', hmem, hdue⟩, ?_⟩
    rw [← hday]
    rfl
  · rw [← hfolioId] at hkey
    exact absurd hkey (hother d)

theorem exists_isNight_of_due (hstart : NoNights S)
    (hregular : Run.Along HotelCall.step (fun S call => call.Regular S) S calls)
    (hfind : S.folios.find folioId = some folio) (hopen : folio.status = .opened) {d : CalendarDate}
    {plan : HotelRatePlan} (hdue : DueIn S calls folioId plan d.day) :
    ∃ id charge, IsNight (Run.after HotelCall.step S calls) folioId d id charge := by
  obtain ⟨id, charge, hcharge, hfolioId, hkey⟩ := (chargedBy_after hregular).2 folioId plan d.day hdue
  refine ⟨id, charge, hcharge, hfolioId, ?_, hkey⟩
  rcases (chargedBy_after hregular).1.new hcharge with hold | ⟨env, dto, actorId, hmem, hc⟩ | hother
  · exact absurd ⟨id, charge, hold, hfolioId, hkey⟩ (hstart folioId folio hfind hopen d)
  · obtain ⟨folioId', folio', plan', day, hdue', rfl⟩ := hc
    rfl
  · rw [← hfolioId] at hkey
    exact absurd hkey (hother d)

theorem dueIn_of_auditedOn (hfind : S.folios.find folioId = some folio) (hopen : folio.status = .opened)
    {a : CalendarDate} (haudited : AuditedOn S calls folio a) (hday : day ∈ datesToPost folio a) :
    ∃ plan, DueIn S calls folioId plan day := by
  obtain ⟨env, dto, actorId, hmem, hbranch, hplan, rfl⟩ := haudited
  obtain ⟨plan, hplan⟩ := Option.ne_none_iff_exists'.mp hplan
  exact ⟨plan, env, dto, actorId, folio, hmem, hfind, hbranch, hopen, hplan, hday⟩

theorem checkIn_le_of_dueIn (hregular : Run.Along HotelCall.step (fun S call => call.Regular S) S calls)
    {plan : HotelRatePlan} (hdue : DueIn S calls folioId plan day)
    (hfind : S.folios.find folioId = some folio) {checkInAt : CalendarDate} (hcheckIn : checkInAt ∈ folio.checkInAt) :
    checkInAt.day ≤ day := by
  obtain ⟨env, dto, actorId, folio', hmem, hfind', hbranch, hstatus, hplan, hday⟩ := hdue
  have hsame : folio = folio' := Option.mem_unique hfind hfind'
  subst hsame
  have hbegins := regular_of_mem hregular hmem folioId folio hfind
  have hne : planFor env dto S folio ≠ none := by
    rw [hplan]
    exact Option.some_ne_none plan
  exact (hbegins hbranch hstatus hne checkInAt hcheckIn).trans (mem_datesToPost.mp hday).1

end OpenFolio

/-- **The night audit is right in every regular run.**  The folios that an audit skips, since no plan has a rate for
them, are not audited by it. -/
theorem night_audits_right {S : HotelStore} (hstart : NoNights S) {calls : List HotelCall}
    (hregular : Run.Along HotelCall.step (fun S call => call.Regular S) S calls) (hrates : SameRates S calls)
    {folioId : ℕ} {folio : HotelFolio} (hfind : S.folios.find folioId = some folio)
    (hopen : folio.status = .opened) : NightsRight S calls folioId folio where
  once d id id' charge charge' hnight hnight' := by
    have hfree : KeyOnce S folioId (auditKey folioId d.day) := by
      intro id id' charge charge' hcharge _ hfolioId _ hkey _
      exact absurd ⟨id, charge, hcharge, hfolioId, hkey⟩ (hstart folioId folio hfind hopen d)
    obtain ⟨hcharge, hfolioId, -, hkey⟩ := hnight
    obtain ⟨hcharge', hfolioId', -, hkey'⟩ := hnight'
    exact (chargedBy_after hregular).1.keyOnce hfree id id' charge charge' hcharge hcharge' hfolioId hfolioId' hkey
      hkey'
  stayed a haudited hstay := by
    have hfrom : fromDate folio a = a := by
      unfold fromDate
      cases hcheckOut : folio.checkOutAt with
      | none => rfl
      | some checkOutAt =>
        have hlt := hstay checkOutAt hcheckOut
        exact if_neg (by omega)
    have hday : a.day ∈ datesToPost folio a := mem_datesToPost.mpr ⟨by rw [hfrom], le_refl _⟩
    obtain ⟨plan, hdue⟩ := dueIn_of_auditedOn hfind hopen haudited hday
    exact exists_isNight_of_due hstart hregular hfind hopen hdue
  overdue a haudited checkOutAt hcheckOut d hout hto := by
    have hfrom : (fromDate folio a).day ≤ d.day := by
      unfold fromDate
      rw [Option.mem_def.mp hcheckOut]
      dsimp only
      split_ifs with hlt
      · exact hout
      · omega
    obtain ⟨plan, hdue⟩ := dueIn_of_auditedOn hfind hopen haudited (mem_datesToPost.mpr ⟨hfrom, hto⟩)
    exact exists_isNight_of_due hstart hregular hfind hopen hdue
  notBefore d id charge hnight checkInAt hcheckIn := by
    obtain ⟨plan, hdue, -⟩ := exists_due_of_isNight hstart hregular hfind hopen hnight
    exact checkIn_le_of_dueIn hregular hdue hfind hcheckIn
  order calls' hperm hregular' d amount := by
    -- the nights that are due do not depend on the order, and each has one rate
    have hdueIn : ∀ plan, DueIn S calls' folioId plan d.day ↔ DueIn S calls folioId plan d.day := by
      intro plan
      unfold DueIn
      simp only [hperm.mem_iff]
    constructor
    · rintro ⟨id, charge, hnight, rfl⟩
      obtain ⟨plan, hdue, hamount⟩ := exists_due_of_isNight hstart hregular' hfind hopen hnight
      have hdue := (hdueIn plan).mp hdue
      obtain ⟨id', charge', hnight'⟩ := exists_isNight_of_due hstart hregular hfind hopen hdue
      obtain ⟨plan', hdue', hamount'⟩ := exists_due_of_isNight hstart hregular hfind hopen hnight'
      refine ⟨id', charge', hnight', ?_⟩
      rw [hamount, hamount', hrates folioId plan plan' d.day hdue hdue']
    · rintro ⟨id, charge, hnight, rfl⟩
      obtain ⟨plan, hdue, hamount⟩ := exists_due_of_isNight hstart hregular hfind hopen hnight
      obtain ⟨id', charge', hnight'⟩ := exists_isNight_of_due hstart hregular' hfind hopen ((hdueIn plan).mpr hdue)
      obtain ⟨plan', hdue', hamount'⟩ := exists_due_of_isNight hstart hregular' hfind hopen hnight'
      refine ⟨id', charge', hnight', ?_⟩
      rw [hamount, hamount', hrates folioId plan plan' d.day hdue ((hdueIn plan').mp hdue')]
  total := by
    have hbalance := (chargedBy_after hregular).1.keepsTerms.balance folioId
    omega

/-! ### A hotel with one guest -/

def sampleDate (day : ℕ) (h : day < 30000) : CalendarDate where
  day
  year_nonneg := by
    have hfirst : UtcDate.yearFromDay 0 = 1970 := by decide
    have hmono : UtcDate.yearFromDay 0 ≤ UtcDate.yearFromDay day := yearFromDay_mono (by omega)
    omega
  year_le := by
    have hlast : UtcDate.yearFromDay 30000 = 2052 := by decide
    have hmono : UtcDate.yearFromDay day ≤ UtcDate.yearFromDay 30000 := yearFromDay_mono (by omega)
    omega

/-- The runtime of the samples, on Thursday 2026-06-04. -/
def hotelRuntime : HotelRuntime where
  toUpperCase := String.toUpper
  now := noon 20608
  today := sampleDate 20608 (by decide)

def weekendGuest : HotelFolio where
  branchId := 1
  roomNumber := "101"
  checkInAt := some (sampleDate 20608 (by decide))
  checkOutAt := some (sampleDate 20610 (by decide))

def hotelRate : HotelRatePlan where
  id := 1
  branchId := 1
  weekdayRate := ⟨100000⟩
  weekendRate := some ⟨150000⟩

def oneGuestHotel : HotelStore where
  folios := SerialTable.empty.add weekendGuest
  charges := .empty
  ratePlans := [hotelRate]
  rooms := []
  auditLogs := []
  ledger := ⟨[], [], 1⟩

def auditOf (day : ℕ) (h : day < 30000) : HotelCall :=
  .runNightAudit hotelRuntime { branchId := 1, auditDate := some (sampleDate day h) } none

def minibar (idempotencyKey : Option String) : HotelCall :=
  .postCharge hotelRuntime 1 { chargeName := "Minibar", amount := ⟨5000⟩, idempotencyKey }

theorem find_oneGuestHotel {folio : HotelFolio} (h : oneGuestHotel.folios.find folioId = some folio) :
    folioId = 1 ∧ folio = weekendGuest := by
  by_cases hid : folioId = 1
  · subst hid
    exact ⟨rfl, (Option.some.inj h).symm⟩
  · have hnone : oneGuestHotel.folios.find folioId = none := by
      show (SerialTable.empty.add weekendGuest).find folioId = none
      rw [find_add_of_ne SerialTable.empty weekendGuest hid]
      exact Finmap.lookup_empty folioId
    rw [hnone] at h
    exact absurd h (Option.some_ne_none folio).symm

theorem noNights_oneGuestHotel : NoNights oneGuestHotel := by
  rintro folioId folio - - d ⟨id, charge, hcharge, -⟩
  exact absurd hcharge (Option.some_ne_none charge).symm

/-- The dates from the check-in to 2026-06-08, audited in disorder, with a minibar in between. -/
def hotelCalls : List HotelCall :=
  [auditOf 20612 (by decide), auditOf 20609 (by decide), minibar none, auditOf 20608 (by decide),
    auditOf 20612 (by decide)]

theorem eq_of_mem_hotelCalls {actorId : Option ℕ}
    (h : HotelCall.runNightAudit env dto actorId ∈ hotelCalls) : env = hotelRuntime ∧
      ∃ d : CalendarDate, dto = { branchId := 1, auditDate := some d } ∧ 20608 ≤ d.day := by
  unfold hotelCalls auditOf minibar at h
  simp only [List.mem_cons, List.not_mem_nil, or_false, HotelCall.runNightAudit.injEq, reduceCtorEq, false_or] at h
  rcases h with ⟨rfl, rfl, -⟩ | ⟨rfl, rfl, -⟩ | ⟨rfl, rfl, -⟩ | ⟨rfl, rfl, -⟩
  · exact ⟨rfl, _, rfl, by decide⟩
  · exact ⟨rfl, _, rfl, by decide⟩
  · exact ⟨rfl, _, rfl, by decide⟩
  · exact ⟨rfl, _, rfl, by decide⟩

theorem planFor_weekendGuest (d : CalendarDate) :
    planFor hotelRuntime { branchId := 1, auditDate := some d } oneGuestHotel weekendGuest = some hotelRate := by
  have hpositive : 0 < hotelRate.weekdayRate.value := by decide +kernel
  exact if_pos (by simpa using hpositive)

theorem along_hotelCalls : Run.Along HotelCall.step (fun S call => call.Regular S) oneGuestHotel hotelCalls := by
  refine along_regular (fun env dto actorId hmem => ?_) fun env folioId dto hmem d hkey => ?_
  · obtain ⟨rfl, d, rfl, hd⟩ := eq_of_mem_hotelCalls hmem
    intro folioId folio hfind _ _ _ checkInAt hcheckIn
    obtain ⟨rfl, rfl⟩ := find_oneGuestHotel hfind
    have hin : checkInAt.day = 20608 := by rw [← Option.some.inj hcheckIn]; rfl
    rw [hin]
    unfold fromDate
    dsimp only [weekendGuest]
    split_ifs
    · decide
    · exact hd
  · have hdto : dto = { chargeName := "Minibar", amount := ⟨5000⟩ } := by
      simp [hotelCalls, auditOf, minibar] at hmem
      exact hmem.2.2
    rw [hdto] at hkey
    exact absurd hkey (Option.some_ne_none _).symm

theorem sameRates_hotelCalls : SameRates oneGuestHotel hotelCalls := by
  have hrate : ∀ folioId plan day, DueIn oneGuestHotel hotelCalls folioId plan day → plan = hotelRate := by
    rintro folioId plan day ⟨env, dto, actorId, folio, hmem, hfind, -, -, hplan, -⟩
    obtain ⟨rfl, d, rfl, -⟩ := eq_of_mem_hotelCalls hmem
    obtain ⟨rfl, rfl⟩ := find_oneGuestHotel hfind
    rw [planFor_weekendGuest] at hplan
    exact (Option.some.inj hplan).symm
  intro folioId plan plan' day hdue hdue'
  rw [hrate folioId plan day hdue, hrate folioId plan' day hdue']

theorem night_audits_right_hotelCalls : NightsRight oneGuestHotel hotelCalls 1 weekendGuest :=
  night_audits_right noNights_oneGuestHotel along_hotelCalls sameRates_hotelCalls rfl rfl

/-- What the run has charged: five nights, with the weekend at its own rate, and the minibar. -/
example : (Run.after HotelCall.step oneGuestHotel hotelCalls).totalCents 1 = 605000 := by decide +kernel

/-- **An audit of the day before the arrival charges a night, and a client that sends the key of a night keeps it from
being charged.** -/
theorem nights_wrong : ¬ NightsRight oneGuestHotel [auditOf 20607 (by decide)] 1 weekendGuest ∧
    ¬ NightsRight oneGuestHotel [minibar (some "night-audit:2026-06-04:1"), auditOf 20608 (by decide)] 1
      weekendGuest := by
  constructor
  · intro h
    let d := sampleDate 20607 (by decide)
    have hnight : IsNight (Run.after HotelCall.step oneGuestHotel [auditOf 20607 (by decide)]) 1 d 1
        (nightCharge 1 1 weekendGuest hotelRate 20607) := by
      refine ⟨?_, rfl, rfl, rfl⟩
      decide +kernel
    exact absurd (h.notBefore d 1 _ hnight _ rfl) (by decide)
  · intro h
    let d := sampleDate 20608 (by decide)
    have haudited : AuditedOn oneGuestHotel
        [minibar (some "night-audit:2026-06-04:1"), auditOf 20608 (by decide)] weekendGuest d := by
      refine ⟨hotelRuntime, { branchId := 1, auditDate := some d }, none,
        List.mem_cons_of_mem _ List.mem_cons_self, rfl, ?_, rfl⟩
      rw [planFor_weekendGuest]
      exact Option.some_ne_none hotelRate
    have hstay : ∀ checkOutAt ∈ weekendGuest.checkOutAt, d.day < checkOutAt.day := by
      intro checkOutAt hcheckOut
      rw [← Option.some.inj hcheckOut]
      decide
    obtain ⟨id, charge, hcharge, -, hgroup, -⟩ := h.stayed d haudited hstay
    -- the minibar is the only charge
    have hid := lt_next_of_find hcharge
    have hnext : (Run.after HotelCall.step oneGuestHotel
        [minibar (some "night-audit:2026-06-04:1"), auditOf 20608 (by decide)]).charges.next = 2 := by
      decide +kernel
    have hminibar : ∀ id < 2, (((Run.after HotelCall.step oneGuestHotel
        [minibar (some "night-audit:2026-06-04:1"), auditOf 20608 (by decide)]).charges.find id).bind
          HotelFolioCharge.chargeGroupCode) = none := by
      decide +kernel
    have hnone := hminibar id (hnext ▸ hid)
    rw [hcharge, Option.bind_some, hgroup] at hnone
    exact absurd hnone (Option.some_ne_none _)

end SuuqBackend
