import SuuqBackend.Auth.Laws.BranchGates
import SuuqBackend.Auth.Laws.RevokedSessions
import SuuqBackend.Branches.Laws.RecordAccess
import SuuqBackend.PropertyRental.Laws.OpenRequests

/-!
# Members of a branch and the records of the others

The guards of the controllers look at the branch that a request names, and the services at the row with the id of the
path.  So a member of one branch reaches the rows of the others: a request keeps to the branch exactly if the row that
it finds is of the branch, or is refused for its state, and if no empty text names another branch than the one that is
checked (`staff_isolated_iff`).

* `keepsToBranch_iff`: what each of the operations has to find.
-/

namespace SuuqBackend

open Proc RecordStore SerialTable HotelFolios PosSync

/-! ### Folios -/

namespace HotelFolios

open PosSync (trimmed)

variable (env : HotelRuntime) (S : HotelStore) (folioId : ℕ)

theorem run_openFolio_eq (dto : OpenFolioDto) (actorId : Option ℕ) : (openFolio env dto actorId).run S =
    match (trimmed dto.idempotencyKey).bind fun key => S.folios.first fun row => row.idempotencyKey = some key with
    | some found => (.ok found, S)
    | none =>
      if invalidDate env dto.checkInAt ∨ invalidDate env dto.checkOutAt then (.error invalidDateSyntax, S)
      else if (S.folios.first fun row => row.idempotencyKey = (newFolio env dto actorId).idempotencyKey).isSome then
        (.error duplicateKey, S)
      else (.ok (S.folios.next, newFolio env dto actorId),
        { S with folios := S.folios.add (newFolio env dto actorId) }) := by
  unfold openFolio
  rw [run_bind_of_ok (run_findFolioByKey _ S)]
  cases (trimmed dto.idempotencyKey).bind fun key => S.folios.first fun row => row.idempotencyKey = some key with
  | some found => rfl
  | none =>
    rw [run_throwIf_bind]
    split_ifs with hdates htaken
    · rfl
    · have hinsert : (insertFolio (newFolio env dto actorId)).run S = (.error duplicateKey, S) := by
        unfold insertFolio
        rw [run_read_bind, run_throwIf_bind, id_eq, if_pos htaken]
        rfl
      rw [run_bind_of_error hinsert]
    · have hinsert : (insertFolio (newFolio env dto actorId)).run S =
          (.ok S.folios.next, { S with folios := S.folios.add (newFolio env dto actorId) }) := by
        unfold insertFolio
        rw [run_read_bind, run_throwIf_bind, id_eq, if_neg htaken]
        rfl
      rw [run_bind_of_ok hinsert]
      rfl

theorem run_loadFolio_bind_of_error {α : Type} {f : HotelFolio → HotelProc α}
    (h : ∀ folio, S.folios.find folioId = some folio → ∃ e, (f folio).run S = (.error e, S)) :
    ∃ e, (loadFolio folioId >>= f).run S = (.error e, S) := by
  cases hfind : S.folios.find folioId with
  | none => exact ⟨_, run_bind_of_error (run_loadFolio_of_none hfind) _⟩
  | some folio =>
    rw [run_bind_of_ok (run_loadFolio hfind)]
    exact h folio hfind

variable {folio : HotelFolio}

theorem run_postCharge_eq (dto : PostFolioChargeDto) (hfind : S.folios.find folioId = some folio)
    (hopened : folio.status = .opened) : (postCharge env folioId dto).run S =
      match (trimmed dto.idempotencyKey).bind (S.chargeByKey folioId) with
      | some found => (.ok found, S)
      | none => (.ok (S.charges.next, newCharge env folioId folio dto),
          (S.addCharge (newCharge env folioId folio dto)).incrementTotal folioId
            (GeneralLedger.round2 dto.amount.value * quantityOf dto)) := by
  unfold postCharge
  rw [run_bind_of_ok (run_loadFolio hfind), run_throwIf_bind, if_neg (not_not.mpr hopened)]
  unfold findCharge
  cases trimmed dto.idempotencyKey with
  | none => rfl
  | some key =>
    rw [run_read_bind, Option.bind_some]
    cases S.chargeByKey folioId key <;> rfl

theorem run_postCharge_of_error (dto : PostFolioChargeDto)
    (h : ∀ folio, S.folios.find folioId = some folio → folio.status ≠ .opened) :
    ∃ e, (postCharge env folioId dto).run S = (.error e, S) := by
  refine run_loadFolio_bind_of_error S folioId fun folio hfind => ?_
  rw [run_throwIf_bind, if_pos (h folio hfind)]
  exact ⟨_, rfl⟩

theorem keepsRest_charge (hfind : S.folios.find folioId = some folio) {charge : HotelFolioCharge}
    (hbranch : charge.branchId = folio.branchId) (amount : ℚ) :
    S.KeepsRest folio.branchId ((S.addCharge charge).incrementTotal folioId amount) := by
  have hfind' : (S.addCharge charge).folios.find folioId = some folio := hfind
  unfold HotelStore.incrementTotal
  rw [hfind']
  exact ⟨.set hfind rfl rfl, .add hbranch, .refl _ _⟩

variable (dto : SettleFolioDto)

theorem run_recognise (folio : HotelFolio) :
    ∃ ledger, (recognise env folioId dto folio).run S = (.ok (), { S with ledger }) ∧
      S.ledger.KeepsRest folio.branchId ledger := by
  unfold recognise
  split_ifs
  · exact ⟨S.ledger, rfl, .refl _ _⟩
  · have hkeeps : S.ledger.KeepsRest folio.branchId
        ((GeneralLedger.post env.now (settlementEntry env folioId dto folio) false).run S.ledger).2 :=
      GlStore.keepsRest_post env.now (settlementEntry env folioId dto folio) false S.ledger
    rw [run_attempt_bind_pure, run_zoom]
    exact ⟨_, rfl, hkeeps⟩

/-- **What a settlement does.** -/
theorem run_settleFolio (hfind : S.folios.find folioId = some folio) (hvoided : folio.status ≠ .voided) :
    ∃ saved S', (settleFolio env folioId dto).run S = (.ok saved, S') ∧ saved.branchId = folio.branchId ∧
      S.KeepsRest folio.branchId S' := by
  unfold settleFolio
  rw [run_bind_of_ok (run_loadFolio hfind)]
  cases hstatus : folio.status with
  | settled => exact ⟨folio, S, rfl, rfl, .refl _, .refl _, .refl _ _⟩
  | voided => exact absurd hstatus hvoided
  | opened =>
    obtain ⟨ledger, hrun, hledger⟩ := run_recognise env (S.saveFolio folioId (settledFolio env dto folio)) folioId dto
      (settledFolio env dto folio)
    refine ⟨settledFolio env dto folio, { S.saveFolio folioId (settledFolio env dto folio) with ledger }, ?_, rfl, ?_⟩
    · unfold settle saveFolio
      rw [run_write_bind, run_bind_of_ok hrun, run_pure]
    · exact ⟨.set hfind rfl rfl, .refl _, hledger⟩

theorem run_settleFolio_of_error (h : ∀ folio, S.folios.find folioId = some folio → folio.status = .voided) :
    ∃ e, (settleFolio env folioId dto).run S = (.error e, S) := by
  refine run_loadFolio_bind_of_error S folioId fun folio hfind => ?_
  rw [h folio hfind]
  exact ⟨_, rfl⟩

variable (reason : Option String)

theorem run_voidFolio (hfind : S.folios.find folioId = some folio) (hsettled : folio.status ≠ .settled) :
    ∃ saved S', (voidFolio env folioId reason).run S = (.ok saved, S') ∧ saved.branchId = folio.branchId ∧
      S.KeepsRest folio.branchId S' := by
  unfold voidFolio
  rw [run_bind_of_ok (run_loadFolio hfind)]
  cases hstatus : folio.status with
  | settled => exact absurd hstatus hsettled
  | voided => exact ⟨folio, S, rfl, rfl, .refl _, .refl _, .refl _ _⟩
  | opened =>
    exact ⟨voidedFolio env reason folio, S.saveFolio folioId (voidedFolio env reason folio), rfl, rfl,
      .set hfind rfl rfl, .refl _, .refl _ _⟩

theorem run_voidFolio_of_error (h : ∀ folio, S.folios.find folioId = some folio → folio.status = .settled) :
    ∃ e, (voidFolio env folioId reason).run S = (.error e, S) := by
  refine run_loadFolio_bind_of_error S folioId fun folio hfind => ?_
  rw [h folio hfind]
  exact ⟨_, rfl⟩

theorem run_transferFolioRoom (dto : TransferFolioRoomDto)
    (hfind : S.folios.find folioId = some folio) (hopened : folio.status = .opened) :
    ∃ saved S', (transferFolioRoom folioId dto).run S = (.ok saved, S') ∧ saved.branchId = folio.branchId ∧
      S.KeepsRest folio.branchId S' := by
  unfold transferFolioRoom
  rw [run_bind_of_ok (run_loadFolio hfind), run_throwIf_bind, if_neg (not_not.mpr hopened)]
  exact ⟨transferredFolio dto folio, S.saveFolio folioId (transferredFolio dto folio), rfl, rfl,
    .set hfind rfl rfl, .refl _, .refl _ _⟩

theorem run_transferFolioRoom_of_error (dto : TransferFolioRoomDto)
    (h : ∀ folio, S.folios.find folioId = some folio → folio.status ≠ .opened) :
    ∃ e, (transferFolioRoom folioId dto).run S = (.error e, S) := by
  refine run_loadFolio_bind_of_error S folioId fun folio hfind => ?_
  rw [run_throwIf_bind, if_pos (h folio hfind)]
  exact ⟨_, rfl⟩

end HotelFolios

namespace RecordOperation

/-- The operation keeps to the branch exactly if it reaches no row of another one. -/
def KeepsIffOwn (op : RecordOperation) (env : RecordRuntime) (S : RecordStore) (actorId : Option ℕ) (branchId : ℕ) :
    Prop :=
  KeepsToBranch branchId S ((op.handler env actorId).run S) ↔ op.ReachesOnly env S actorId branchId

section Folios

variable {env : RecordRuntime} {S : RecordStore} {actorId : Option ℕ} {branchId : ℕ} (folioId : ℕ)

theorem keepsIffOwn_of_none {op : RecordOperation} (h : op.namedBranch = none)
    (hown : KeepsToBranch branchId S ((op.handler env actorId).run S) ↔ op.LoadsOwn env S branchId) :
    op.KeepsIffOwn env S actorId branchId :=
  hown.trans (reachesOnly_iff_of_none h).symm

theorem keepsIffOwn_of_some {op : RecordOperation} {named : ℕ} (h : op.namedBranch = some named)
    (hown : op.LoadsOwn env S branchId) (hnamed : KeepsToBranch branchId S ((op.handler env actorId).run S) ↔
      named = branchId ∨ op.Idle env S actorId) : op.KeepsIffOwn env S actorId branchId :=
  hnamed.trans (((reachesOnly_iff_of_some h).trans (and_iff_right hown)).symm)

theorem keepsToBranch_settleFolio (dto : HotelFolios.SettleFolioDto) :
    (settleFolio folioId dto).KeepsIffOwn env S actorId branchId := by
  refine keepsIffOwn_of_none rfl (keepsToBranch_iff_of_found (fun folio hfind hvoided => ?_) fun hnone => ?_)
  · obtain ⟨saved, H, hrun, hbranch, hkeeps⟩ :=
      run_settleFolio env.hotel S.hotel folioId dto hfind hvoided
    exact ⟨saved, H, .folio folioId saved, hrun, rfl, hbranch, keepsRest_hotel hkeeps⟩
  · exact run_settleFolio_of_error env.hotel S.hotel folioId dto fun folio hfind =>
      not_not.mp (hnone folio hfind)

theorem keepsToBranch_voidFolio (reason : Option String) :
    (voidFolio folioId reason).KeepsIffOwn env S actorId branchId := by
  refine keepsIffOwn_of_none rfl (keepsToBranch_iff_of_found (fun folio hfind hsettled => ?_) fun hnone => ?_)
  · obtain ⟨saved, H, hrun, hbranch, hkeeps⟩ :=
      run_voidFolio env.hotel S.hotel folioId reason hfind hsettled
    exact ⟨saved, H, .folio folioId saved, hrun, rfl, hbranch, keepsRest_hotel hkeeps⟩
  · exact run_voidFolio_of_error env.hotel S.hotel folioId reason fun folio hfind =>
      not_not.mp (hnone folio hfind)

theorem keepsToBranch_transferFolioRoom (dto : HotelFolios.TransferFolioRoomDto) :
    (transferFolioRoom folioId dto).KeepsIffOwn env S actorId branchId := by
  refine keepsIffOwn_of_none rfl (keepsToBranch_iff_of_found (fun folio hfind hopened => ?_) fun hnone => ?_)
  · obtain ⟨saved, H, hrun, hbranch, hkeeps⟩ :=
      run_transferFolioRoom S.hotel folioId dto hfind hopened
    exact ⟨saved, H, .folio folioId saved, hrun, rfl, hbranch, keepsRest_hotel hkeeps⟩
  · exact run_transferFolioRoom_of_error S.hotel folioId dto hnone

theorem keepsToBranch_postFolioCharge (dto : HotelFolios.PostFolioChargeDto) :
    (postFolioCharge folioId dto).KeepsIffOwn env S actorId branchId := by
  refine keepsIffOwn_of_none rfl (keepsToBranch_iff_of_found (fun folio hfind hopened => ?_) fun hnone => ?_)
  · have hrun := run_postCharge_eq env.hotel S.hotel folioId dto hfind hopened
    cases hkey : (trimmed dto.idempotencyKey).bind (S.hotel.chargeByKey folioId) with
    | some found =>
      rw [hkey] at hrun
      exact ⟨found, S.hotel, .folioCharge found.1 found.2, hrun, rfl, rfl, .refl _ S⟩
    | none =>
      rw [hkey] at hrun
      exact ⟨_, _, .folioCharge _ _, hrun, rfl, rfl, keepsRest_hotel (keepsRest_charge S.hotel folioId hfind rfl _)⟩
  · exact run_postCharge_of_error env.hotel S.hotel folioId dto hnone

theorem keepsToBranch_openFolio (dto : HotelFolios.OpenFolioDto) :
    (openFolio dto).KeepsIffOwn env S actorId branchId := by
  unfold KeepsIffOwn
  rw [reachesOnly_iff_of_some rfl]
  have hrun := run_openFolio_eq env.hotel S.hotel dto actorId
  cases hlookup : (trimmed dto.idempotencyKey).bind fun key =>
      S.hotel.folios.first fun row => row.idempotencyKey = some key with
  | some found =>
    rw [hlookup] at hrun
    obtain ⟨key, hkey, hfirst⟩ := Option.bind_eq_some_iff.mp hlookup
    have hclient : (newFolio env.hotel dto actorId).idempotencyKey = some key := by
      show (trimmed dto.idempotencyKey).or _ = some key
      rw [hkey, Option.some_or]
    have htaken : (S.hotel.folios.first fun row =>
        row.idempotencyKey = (newFolio env.hotel dto actorId).idempotencyKey).isSome := by
      rw [hclient, hfirst]
      rfl
    refine Iff.trans (keepsToBranch_iff_of_row hrun rfl fun _ => .refl branchId S) ?_
    constructor
    · intro hown
      refine ⟨fun key' found' hkey' hfirst' => ?_, .inr (.inl htaken)⟩
      obtain rfl := Option.mem_unique hkey hkey'
      obtain rfl := Option.mem_unique hfirst hfirst'
      exact hown
    · exact fun h => h.1 key found hkey hfirst
  | none =>
    rw [hlookup] at hrun
    have hown : (openFolio dto).LoadsOwn env S branchId := by
      intro key found hkey hfirst
      rw [hkey, Option.bind_some, hfirst] at hlookup
      cases hlookup
    rw [and_iff_right hown]
    split_ifs at hrun with hdates htaken
    · exact iff_of_true (keepsToBranch_of_error hrun) (.inr (.inr hdates))
    · exact iff_of_true (keepsToBranch_of_error hrun) (.inr (.inl htaken))
    · refine Iff.trans (keepsToBranch_iff_of_row hrun rfl fun hown => ?_) (or_iff_left ?_).symm
      · exact keepsRest_hotel ⟨.add hown, .refl _, .refl _ _⟩
      · exact fun hidle => hidle.elim htaken hdates

theorem keepsToBranch_listFolios (query : BranchListQuery) : (listFolios query).KeepsIffOwn env S actorId branchId :=
  keepsIffOwn_of_some rfl trivial (keepsToBranch_page_iff (t := HotelStore.folios) (by decide) (fun _ => rfl) rfl fun _ => rfl)

end Folios

end RecordOperation

/-! ### Bookings -/

namespace PropertyRentalStore

def PostsOnly (branchId : ℕ) (S S' : PropertyRentalStore) : Prop :=
  ∃ journal, S' = { S with journal } ∧ S.journal.KeepsRest branchId journal

variable {branchId : ℕ} {S S' S'' : PropertyRentalStore}

theorem PostsOnly.refl (S : PropertyRentalStore) : PostsOnly branchId S S := ⟨S.journal, rfl, .refl branchId _⟩

theorem PostsOnly.trans (h : PostsOnly branchId S S') (h' : PostsOnly branchId S' S'') : PostsOnly branchId S S'' := by
  obtain ⟨journal, rfl, hkeeps⟩ := h
  obtain ⟨journal', rfl, hkeeps'⟩ := h'
  exact ⟨journal', rfl, hkeeps.trans hkeeps'⟩

theorem postsOnly_of_acts {α : Type} {p : PropertyRentalProc α} (h : p.Acts (PostsOnly branchId))
    (S : PropertyRentalStore) : PostsOnly branchId S (p.run S).2 :=
  h.rel_run PostsOnly.refl (fun _ _ _ => PostsOnly.trans) S

theorem postsOnly_postEntry (now : Date) (input : PostJournalEntryInput) :
    (postEntry now input).Acts (PostsOnly input.branchId) :=
  (GlStore.acts_post now input).zoom fun _ journal hkeeps => ⟨journal, rfl, hkeeps⟩

theorem keepsRest_of_postsOnly {T : PropertyRentalStore} (h : S.KeepsRest branchId T)
    (hposts : T.PostsOnly branchId S') : S.KeepsRest branchId S' := by
  obtain ⟨journal, rfl, hkeeps⟩ := hposts
  exact ⟨h.bookings, h.charges, h.journal.trans hkeeps⟩

variable {booking saved : PropertyRentalBooking} {bookingId : ℕ}

theorem keepsRest_saveBooking
    (hfind : S.bookings.find bookingId = some booking) (hsaved : saved.branchId = booking.branchId) :
    S.KeepsRest booking.branchId (S.saveBooking bookingId saved) :=
  ⟨.set hfind rfl hsaved, .refl _, .refl _ _⟩

theorem keepsRest_saved (hfind : S.bookings.find bookingId = some booking)
    (hposts : (S.saveBooking bookingId saved).PostsOnly saved.branchId S')
    (hsaved : saved.branchId = booking.branchId) : S.KeepsRest booking.branchId S' := by
  rw [hsaved] at hposts
  exact keepsRest_of_postsOnly (keepsRest_saveBooking hfind hsaved) hposts

end PropertyRentalStore

namespace PropertyRentalBookings

open PosSync (trimmed)
open PropertyRentalStore

variable (env : PropertyRentalRuntime) (S : PropertyRentalStore) (bookingId : ℕ)

theorem run_postLogged_ok (now : Date) (input : PostJournalEntryInput) :
    ∃ S', (postLogged now input).run S = (.ok (), S') ∧ S.PostsOnly input.branchId S' :=
  ⟨_, run_attempt_bind_pure _ () S, postsOnly_of_acts (postsOnly_postEntry now input) S⟩

variable {booking : PropertyRentalBooking} {dto : OpenPropertyBookingDto}

theorem branchId_of_mem_settlementEntries {finalPaid priorDeferred : ℚ}
    {records : List PropertyBookingPaymentRecord} {refund forfeit : ℚ} {settledAt : Date}
    {input : PostJournalEntryInput} (h : input ∈ settlementEntries env bookingId booking finalPaid priorDeferred records
      refund forfeit settledAt) : input.branchId = booking.branchId := by
  unfold settlementEntries at h
  rw [List.mem_append, List.mem_append] at h
  rcases h with (h | h) | h
  all_goals
    split_ifs at h
    · rw [List.mem_singleton.mp h]
      rfl
    · cases h

theorem run_postBookingSettlement (booking : PropertyRentalBooking) (finalPaid priorDeferred : ℚ)
    (records : List PropertyBookingPaymentRecord) (refund forfeit : ℚ) (settledAt : Date) :
    ∃ S', (postBookingSettlement env bookingId booking finalPaid priorDeferred records refund forfeit settledAt).run S =
      (.ok (), S') ∧ S.PostsOnly booking.branchId S' := by
  have hacts : (Proc.forEach
      (settlementEntries env bookingId booking finalPaid priorDeferred records refund forfeit settledAt)
      fun input => do let _ ← PropertyRentalStore.postEntry env.now input).Acts (PostsOnly booking.branchId) := by
    refine acts_forEach fun input hinput => ?_
    rw [← branchId_of_mem_settlementEntries env bookingId hinput]
    exact (postsOnly_postEntry env.now input).bind fun _ => acts_pure _
  exact ⟨_, run_attempt_bind_pure _ () S, postsOnly_of_acts hacts S⟩

theorem run_postRentDeferral (booking : PropertyRentalBooking) (total : ℚ)
    (records : List PropertyBookingPaymentRecord) (idempotencyKey : String) (occurredAt : Date) :
    ∃ S', (postRentDeferral env bookingId booking total records idempotencyKey occurredAt).run S = (.ok (), S') ∧
      S.PostsOnly booking.branchId S' := by
  unfold postRentDeferral
  split_ifs
  · exact ⟨S, rfl, .refl S⟩
  · exact run_postLogged_ok S env.now (deferralEntry env bookingId booking total records idempotencyKey occurredAt)

theorem run_openBooking_of_found (actorId : Option ℕ) {found : ℕ × PropertyRentalBooking}
    (h : ((trimmed dto.idempotencyKey).bind fun key =>
      S.bookings.first fun row => row.idempotencyKey = some key) = some found) :
    (openBooking env dto actorId).run S = (.ok found, S) := by
  obtain ⟨key, hkey, hfirst⟩ := Option.bind_eq_some_iff.mp h
  rw [run_openBooking_eq]
  unfold openRequest
  rw [hkey, Option.isSome_some, if_pos rfl, Option.getD_some, hfirst]

theorem run_openBooking_of_none (actorId : Option ℕ) (h : ((trimmed dto.idempotencyKey).bind fun key =>
      S.bookings.first fun row => row.idempotencyKey = some key) = none) :
    (openBooking env dto actorId).run S = (insertNew env dto actorId).run S := by
  rw [run_openBooking_eq]
  unfold openRequest
  cases hkey : trimmed dto.idempotencyKey with
  | none => rfl
  | some key =>
    rw [hkey, Option.bind_some] at h
    rw [Option.isSome_some, if_pos rfl, Option.getD_some, h]

theorem run_insertNew_of_error {actorId : Option ℕ}
    (h : (S.bookings.first fun row => row.idempotencyKey = (newBooking env dto actorId).idempotencyKey).isSome ∨
      invalidDate env dto.leaseStartAt ∨ invalidDate env dto.leaseEndAt) :
    ∃ e, (insertNew env dto actorId).run S = (.error e, S) := by
  unfold insertNew
  rw [run_throwIf_bind]
  by_cases hdates : invalidDate env dto.leaseStartAt ∨ invalidDate env dto.leaseEndAt
  · rw [if_pos hdates]
    exact ⟨_, rfl⟩
  · rw [if_neg hdates]
    have htaken := h.resolve_right hdates
    have hinsert := run_insertBooking_byKey (idempotencyKey_newBooking env dto actorId) S
    rw [idempotencyKey_newBooking] at htaken
    unfold SharedKeys.byKey at hinsert
    rw [Option.isSome_map, if_pos htaken] at hinsert
    exact ⟨_, run_bind_of_error hinsert _⟩

theorem run_insertNew {actorId : Option ℕ}
    (hdates : ¬ (invalidDate env dto.leaseStartAt ∨ invalidDate env dto.leaseEndAt))
    (hfree : ¬ (S.bookings.first fun row => row.idempotencyKey = (newBooking env dto actorId).idempotencyKey).isSome) :
    ∃ S', (insertNew env dto actorId).run S = (.ok (S.bookings.next, newBooking env dto actorId), S') ∧
      S.KeepsRest dto.branchId S' := by
  have hinsert := run_insertBooking_byKey (idempotencyKey_newBooking env dto actorId) S
  rw [idempotencyKey_newBooking] at hfree
  unfold SharedKeys.byKey at hinsert
  rw [Option.isSome_map, if_neg hfree] at hinsert
  have hadded : S.KeepsRest dto.branchId { S with bookings := S.bookings.add (newBooking env dto actorId) } :=
    ⟨.add rfl, .refl _, .refl _ _⟩
  unfold insertNew
  rw [run_throwIf_bind, run_bind_of_ok hinsert]
  split_ifs
  · obtain ⟨S', hrun, hposts⟩ := run_postLogged_ok { S with bookings := S.bookings.add (newBooking env dto actorId) }
      env.now (depositOpenEntry S.bookings.next (newBooking env dto actorId))
    rw [run_bind_of_ok hrun]
    exact ⟨S', rfl, keepsRest_of_postsOnly hadded hposts⟩
  · exact ⟨_, rfl, hadded⟩

theorem run_postCharge_eq (dto : PostPropertyChargeDto)
    (hfind : S.bookings.find bookingId = some booking) (hopened : booking.status = .opened) :
    ∃ id charge S', (postCharge env bookingId dto).run S = (.ok (id, charge), S') ∧
      charge.branchId = (((trimmed dto.idempotencyKey).bind fun key => S.charges.first fun charge =>
        charge.bookingId = bookingId ∧ charge.idempotencyKey = some key).elim booking.branchId fun found =>
        found.2.branchId) ∧ S.KeepsRest charge.branchId S' := by
  unfold postCharge
  rw [run_read_bind, hfind]
  rw [run_throwIf_bind, if_neg (not_not.mpr hopened), run_read_bind]
  have hnew : ∃ id charge S', ((do
        let id ← Proc.read fun s : PropertyRentalStore => s.charges.next
        Proc.write fun s => { s with charges := s.charges.add (newCharge env bookingId booking dto) }
        incrementChargesTotal bookingId ((newCharge env bookingId booking dto).amount *
          (newCharge env bookingId booking dto).quantity)
        return (id, newCharge env bookingId booking dto)) : PropertyRentalProc _).run S = (.ok (id, charge), S') ∧
      charge.branchId = booking.branchId ∧ S.KeepsRest charge.branchId S' := by
    refine ⟨S.charges.next, newCharge env bookingId booking dto, _, rfl, rfl, ?_⟩
    dsimp only [id_eq]
    rw [hfind]
    exact ⟨.set hfind rfl rfl, .add rfl, .refl _ _⟩
  cases trimmed dto.idempotencyKey with
  | none => exact hnew
  | some key =>
    dsimp only
    rw [findSome?_eq_first, Option.bind_some]
    cases S.charges.first fun charge => charge.bookingId = bookingId ∧ charge.idempotencyKey = some key with
    | none => exact hnew
    | some found => exact ⟨found.1, found.2, S, rfl, rfl, .refl _, .refl _, .refl _ _⟩

theorem run_postCharge_of_error (dto : PostPropertyChargeDto)
    (h : ∀ booking, S.bookings.find bookingId = some booking → booking.status ≠ .opened) :
    ∃ e, (postCharge env bookingId dto).run S = (.error e, S) := by
  unfold postCharge
  rw [run_read_bind]
  cases hfind : S.bookings.find bookingId with
  | none => exact ⟨_, rfl⟩
  | some booking =>
    rw [run_throwIf_bind, if_pos (h booking hfind)]
    exact ⟨_, rfl⟩

theorem run_recordPayment (dto : RecordPropertyPaymentDto)
    (hfind : S.bookings.find bookingId = some booking) (hopened : booking.status = .opened)
    (htakes : RecordOperation.TakesPayment env booking dto) :
    ∃ saved S', (recordPayment env bookingId dto).run S = (.ok (bookingId, saved), S') ∧
      saved.branchId = booking.branchId ∧ S.KeepsRest booking.branchId S' := by
  unfold recordPayment
  rw [run_read_bind, hfind]
  dsimp only
  rw [run_throwIf_bind, if_neg (not_not.mpr hopened)]
  split_ifs with hretry
  · exact ⟨booking, S, rfl, rfl, .refl _, .refl _, .refl _ _⟩
  · have htotal := htakes.resolve_left hretry
    rw [run_throwIf_bind, if_neg (not_le.mpr htotal), run_write_bind]
    obtain ⟨S', hrun, hposts⟩ := run_postRentDeferral env (S.saveBooking bookingId _) bookingId _ _ _ _ _
    rw [run_bind_of_ok hrun]
    exact ⟨_, S', rfl, rfl, keepsRest_saved hfind hposts rfl⟩

theorem run_recordPayment_of_error (dto : RecordPropertyPaymentDto)
    (h : ∀ booking, S.bookings.find bookingId = some booking →
      ¬ (booking.status = .opened ∧ RecordOperation.TakesPayment env booking dto)) :
    ∃ e, (recordPayment env bookingId dto).run S = (.error e, S) := by
  unfold recordPayment
  rw [run_read_bind]
  cases hfind : S.bookings.find bookingId with
  | none => exact ⟨_, rfl⟩
  | some booking =>
    rw [run_throwIf_bind]
    by_cases hopened : booking.status ≠ .opened
    · rw [if_pos hopened]
      exact ⟨_, rfl⟩
    · obtain ⟨hretry, hnothing⟩ := not_or.mp fun htakes => h booking hfind ⟨not_not.mp hopened, htakes⟩
      rw [if_neg hopened, if_neg hretry, run_throwIf_bind, if_pos (not_lt.mp hnothing)]
      exact ⟨_, rfl⟩

/-- **What a settlement does.** -/
theorem run_settleBooking (dto : SettlePropertyBookingDto)
    (hfind : S.bookings.find bookingId = some booking) (hvoided : booking.status ≠ .voided) :
    ∃ saved S', (settleBooking env bookingId dto).run S = (.ok (bookingId, saved), S') ∧
      saved.branchId = booking.branchId ∧ S.KeepsRest booking.branchId S' := by
  unfold settleBooking
  rw [run_read_bind, hfind]
  dsimp only
  split_ifs with hsettled
  · exact ⟨booking, S, rfl, rfl, .refl _, .refl _, .refl _ _⟩
  · have hopened : booking.status = .opened := by
      cases hstatus : booking.status with
      | opened => rfl
      | settled => exact absurd hstatus hsettled
      | voided => exact absurd hstatus hvoided
    rw [run_throwIf_bind, if_neg (not_not.mpr hopened), run_write_bind]
    obtain ⟨S', hrun, hposts⟩ := run_postBookingSettlement env (S.saveBooking bookingId _) bookingId _ _ _ _ _ _ _
    rw [run_bind_of_ok hrun]
    exact ⟨_, S', rfl, rfl, keepsRest_saved hfind hposts rfl⟩

theorem run_settleBooking_of_error (dto : SettlePropertyBookingDto)
    (h : ∀ booking, S.bookings.find bookingId = some booking → booking.status = .voided) :
    ∃ e, (settleBooking env bookingId dto).run S = (.error e, S) := by
  unfold settleBooking
  rw [run_read_bind]
  cases hfind : S.bookings.find bookingId with
  | none => exact ⟨_, rfl⟩
  | some booking =>
    have hvoided := h booking hfind
    dsimp only
    rw [hvoided]
    exact ⟨_, rfl⟩

theorem run_voidBooking (dto : VoidPropertyBookingDto)
    (hfind : S.bookings.find bookingId = some booking) (hsettled : booking.status ≠ .settled) :
    ∃ saved S', (voidBooking env bookingId dto).run S = (.ok (bookingId, saved), S') ∧
      saved.branchId = booking.branchId ∧ S.KeepsRest booking.branchId S' := by
  unfold voidBooking
  rw [run_read_bind, hfind]
  dsimp only
  split_ifs with hvoided
  · exact ⟨booking, S, rfl, rfl, .refl _, .refl _, .refl _ _⟩
  · rw [run_throwIf_bind, if_neg hsettled]
    exact ⟨_, _, rfl, rfl, keepsRest_saveBooking hfind rfl⟩

theorem run_voidBooking_of_error (dto : VoidPropertyBookingDto)
    (h : ∀ booking, S.bookings.find bookingId = some booking → booking.status = .settled) :
    ∃ e, (voidBooking env bookingId dto).run S = (.error e, S) := by
  unfold voidBooking
  rw [run_read_bind]
  cases hfind : S.bookings.find bookingId with
  | none => exact ⟨_, rfl⟩
  | some booking =>
    have hsettled := h booking hfind
    dsimp only
    rw [hsettled]
    exact ⟨_, rfl⟩

theorem run_transferUnit (dto : TransferPropertyUnitDto)
    (hfind : S.bookings.find bookingId = some booking) (hopened : booking.status = .opened) :
    ∃ saved S', (transferUnit bookingId dto).run S = (.ok (bookingId, saved), S') ∧
      saved.branchId = booking.branchId ∧ S.KeepsRest booking.branchId S' := by
  unfold transferUnit
  rw [run_read_bind, hfind]
  rw [run_throwIf_bind, if_neg (not_not.mpr hopened)]
  exact ⟨_, _, rfl, rfl, keepsRest_saveBooking hfind rfl⟩

theorem run_transferUnit_of_error (dto : TransferPropertyUnitDto)
    (h : ∀ booking, S.bookings.find bookingId = some booking → booking.status ≠ .opened) :
    ∃ e, (transferUnit bookingId dto).run S = (.error e, S) := by
  unfold transferUnit
  rw [run_read_bind]
  cases hfind : S.bookings.find bookingId with
  | none => exact ⟨_, rfl⟩
  | some booking =>
    rw [run_throwIf_bind, if_pos (h booking hfind)]
    exact ⟨_, rfl⟩

end PropertyRentalBookings

namespace RecordOperation

section Bookings

variable {env : RecordRuntime} {S : RecordStore} {actorId : Option ℕ} {branchId : ℕ} (bookingId : ℕ)

theorem keepsToBranch_recordPayment (dto : RecordPropertyPaymentDto) :
    (recordPayment bookingId dto).KeepsIffOwn env S actorId branchId := by
  refine keepsIffOwn_of_none rfl (keepsToBranch_iff_of_found (fun booking hfind hallowed => ?_) fun hnone => ?_)
  · obtain ⟨saved, R, hrun, hbranch, hkeeps⟩ :=
      PropertyRentalBookings.run_recordPayment env.rental (rentalLens.get S) bookingId dto hfind hallowed.1 hallowed.2
    exact ⟨_, R, .booking bookingId saved, hrun, rfl, hbranch, keepsRest_rental hkeeps⟩
  · exact PropertyRentalBookings.run_recordPayment_of_error env.rental (rentalLens.get S) bookingId dto hnone

theorem keepsToBranch_settleBooking (dto : SettlePropertyBookingDto) :
    (settleBooking bookingId dto).KeepsIffOwn env S actorId branchId := by
  refine keepsIffOwn_of_none rfl (keepsToBranch_iff_of_found (fun booking hfind hvoided => ?_) fun hnone => ?_)
  · obtain ⟨saved, R, hrun, hbranch, hkeeps⟩ :=
      PropertyRentalBookings.run_settleBooking env.rental (rentalLens.get S) bookingId dto hfind hvoided
    exact ⟨_, R, .booking bookingId saved, hrun, rfl, hbranch, keepsRest_rental hkeeps⟩
  · exact PropertyRentalBookings.run_settleBooking_of_error env.rental (rentalLens.get S) bookingId dto
      fun booking hfind => not_not.mp (hnone booking hfind)

theorem keepsToBranch_voidBooking (dto : VoidPropertyBookingDto) :
    (voidBooking bookingId dto).KeepsIffOwn env S actorId branchId := by
  refine keepsIffOwn_of_none rfl (keepsToBranch_iff_of_found (fun booking hfind hsettled => ?_) fun hnone => ?_)
  · obtain ⟨saved, R, hrun, hbranch, hkeeps⟩ :=
      PropertyRentalBookings.run_voidBooking env.rental (rentalLens.get S) bookingId dto hfind hsettled
    exact ⟨_, R, .booking bookingId saved, hrun, rfl, hbranch, keepsRest_rental hkeeps⟩
  · exact PropertyRentalBookings.run_voidBooking_of_error env.rental (rentalLens.get S) bookingId dto
      fun booking hfind => not_not.mp (hnone booking hfind)

theorem keepsToBranch_transferUnit (dto : TransferPropertyUnitDto) :
    (transferUnit bookingId dto).KeepsIffOwn env S actorId branchId := by
  refine keepsIffOwn_of_none rfl (keepsToBranch_iff_of_found (fun booking hfind hopened => ?_) fun hnone => ?_)
  · obtain ⟨saved, R, hrun, hbranch, hkeeps⟩ :=
      PropertyRentalBookings.run_transferUnit (rentalLens.get S) bookingId dto hfind hopened
    exact ⟨_, R, .booking bookingId saved, hrun, rfl, hbranch, keepsRest_rental hkeeps⟩
  · exact PropertyRentalBookings.run_transferUnit_of_error (rentalLens.get S) bookingId dto hnone

theorem keepsToBranch_postCharge (dto : PostPropertyChargeDto) :
    (postCharge bookingId dto).KeepsIffOwn env S actorId branchId := by
  refine keepsIffOwn_of_none rfl (keepsToBranch_iff_of_found (fun booking hfind hopened => ?_) fun hnone => ?_)
  · obtain ⟨id, charge, R, hrun, hbranch, hkeeps⟩ :=
      PropertyRentalBookings.run_postCharge_eq env.rental (rentalLens.get S) bookingId dto hfind hopened
    rw [hbranch] at hkeeps
    exact ⟨_, R, .bookingCharge id charge, hrun, rfl, hbranch, keepsRest_rental hkeeps⟩
  · exact PropertyRentalBookings.run_postCharge_of_error env.rental (rentalLens.get S) bookingId dto hnone

theorem keepsToBranch_getBooking : (getBooking bookingId).KeepsIffOwn env S actorId branchId := by
  refine keepsIffOwn_of_none rfl ?_
  cases hfind : S.bookings.find bookingId with
  | none =>
    have hrun : (PropertyRentalBookings.getBooking bookingId).run (rentalLens.get S) =
        (.error (PropertyRentalBookings.bookingNotFound bookingId), rentalLens.get S) := by
      have hnone : (rentalLens.get S).bookings.find bookingId = none := hfind
      unfold PropertyRentalBookings.getBooking
      rw [run_read_bind, hnone]
      rfl
    refine iff_of_true (keepsToBranch_of_error hrun) fun booking hbooking => ?_
    rw [hfind] at hbooking
    cases hbooking
  | some booking =>
    have hrun : (PropertyRentalBookings.getBooking bookingId).run (rentalLens.get S) =
        (.ok (booking, S.bookingCharges.list fun charge => charge.bookingId = bookingId), rentalLens.get S) := by
      have hsome : (rentalLens.get S).bookings.find bookingId = some booking := hfind
      unfold PropertyRentalBookings.getBooking
      rw [run_read_bind, hsome]
      rfl
    refine Iff.trans (keepsToBranch_iff_of_read hrun rfl) ?_
    rw [List.forall_mem_cons]
    constructor
    · rintro ⟨hbooking, hcharges⟩ row hrow
      obtain rfl := Option.mem_unique hfind hrow
      refine ⟨hbooking, fun id charge hcharge hof => ?_⟩
      have hlist : (id, charge) ∈ S.bookingCharges.list fun charge => charge.bookingId = bookingId :=
        mem_list_iff.mpr ⟨hcharge, decide_eq_true hof⟩
      exact hcharges (.bookingCharge id charge) (List.mem_map_of_mem hlist)
    · intro hown
      obtain ⟨hbooking, hcharges⟩ := hown booking hfind
      refine ⟨hbooking, fun record hrecord => ?_⟩
      obtain ⟨⟨id, charge⟩, hlist, rfl⟩ := List.mem_map.mp hrecord
      obtain ⟨hcharge, hof⟩ := mem_list_iff.mp hlist
      exact hcharges id charge hcharge (of_decide_eq_true hof)

theorem keepsToBranch_openBooking (dto : OpenPropertyBookingDto) :
    (openBooking dto).KeepsIffOwn env S actorId branchId := by
  unfold KeepsIffOwn
  rw [reachesOnly_iff_of_some rfl]
  cases hlookup : (trimmed dto.idempotencyKey).bind fun key =>
      S.bookings.first fun row => row.idempotencyKey = some key with
  | some found =>
    have hrun := PropertyRentalBookings.run_openBooking_of_found env.rental (rentalLens.get S) actorId hlookup
    obtain ⟨key, hkey, hfirst⟩ := Option.bind_eq_some_iff.mp hlookup
    have hclient : (PropertyRentalBookings.newBooking env.rental dto actorId).idempotencyKey = some key := by
      show (trimmed dto.idempotencyKey).or _ = some key
      rw [hkey, Option.some_or]
    have htaken : (S.bookings.first fun row =>
        row.idempotencyKey = (PropertyRentalBookings.newBooking env.rental dto actorId).idempotencyKey).isSome := by
      rw [hclient, hfirst]
      rfl
    refine Iff.trans (keepsToBranch_iff_of_row hrun rfl fun _ => .refl branchId S) ?_
    constructor
    · intro hown
      refine ⟨fun key' found' hkey' hfirst' => ?_, .inr (.inl htaken)⟩
      obtain rfl := Option.mem_unique hkey hkey'
      obtain rfl := Option.mem_unique hfirst hfirst'
      exact hown
    · exact fun h => h.1 key found hkey hfirst
  | none =>
    have hown : (openBooking dto).LoadsOwn env S branchId := by
      intro key found hkey hfirst
      rw [hkey, Option.bind_some, hfirst] at hlookup
      cases hlookup
    have hopen := PropertyRentalBookings.run_openBooking_of_none env.rental (rentalLens.get S) actorId hlookup
    rw [and_iff_right hown]
    by_cases hidle : (openBooking dto).Idle env S actorId
    · obtain ⟨e, hrun⟩ := PropertyRentalBookings.run_insertNew_of_error env.rental (rentalLens.get S) hidle
      exact iff_of_true (keepsToBranch_of_error (hopen.trans hrun)) (.inr hidle)
    · obtain ⟨hfree, hdates⟩ := not_or.mp hidle
      obtain ⟨R, hrun, hkeeps⟩ := PropertyRentalBookings.run_insertNew env.rental (rentalLens.get S) hdates hfree
      refine Iff.trans (keepsToBranch_iff_of_row (hopen.trans hrun) rfl fun hown => ?_) (or_iff_left hidle).symm
      rw [← hown]
      exact keepsRest_rental hkeeps

theorem keepsToBranch_listBookings (query : BranchListQuery) :
    (listBookings query).KeepsIffOwn env S actorId branchId :=
  keepsIffOwn_of_some rfl trivial (keepsToBranch_page_iff (t := PropertyRentalStore.bookings) (by decide) (fun _ => rfl) rfl fun _ => rfl)

end Bookings

/-! ### Units and reservations -/

section Units

variable {env : RecordRuntime} {S : RecordStore} {actorId : Option ℕ} {branchId : ℕ}

theorem keepsToBranch_createUnit (dto : CreatePropertyUnitDto) :
    (createUnit dto).KeepsIffOwn env S actorId branchId := by
  refine keepsIffOwn_of_some rfl trivial ?_
  by_cases htaken : (PropertyRentalInventory.unitByCode (unitLens.get S) dto.branchId (trim dto.propertyCode)).isSome
  · have hrun : ∃ e, (PropertyRentalInventory.createUnit env.inventory dto).run (unitLens.get S) =
        (.error e, unitLens.get S) := by
      unfold PropertyRentalInventory.createUnit
      rw [run_read_bind, run_throwIf_bind, id_eq, if_pos htaken]
      exact ⟨_, rfl⟩
    obtain ⟨e, hrun⟩ := hrun
    exact iff_of_true (keepsToBranch_of_error hrun) (.inr htaken)
  · have hrun : (PropertyRentalInventory.createUnit env.inventory dto).run (unitLens.get S) =
        (.ok (S.units.next, PropertyRentalInventory.newUnit env.inventory dto),
          ⟨S.units.add (PropertyRentalInventory.newUnit env.inventory dto), S.reservations⟩) := by
      unfold PropertyRentalInventory.createUnit
      rw [run_read_bind, run_throwIf_bind, id_eq, if_neg htaken]
      rfl
    refine Iff.trans (keepsToBranch_iff_of_row hrun rfl fun hown => ?_) (or_iff_left htaken).symm
    exact keepsRest_units ⟨.add hown, .refl _⟩

theorem keepsToBranch_updateUnit (unitId : ℕ) (dto : UpdatePropertyUnitDto) :
    (updateUnit unitId dto).KeepsIffOwn env S actorId branchId := by
  refine keepsIffOwn_of_none rfl (Iff.trans (keepsToBranch_iff_of_found (fun unit hfind (_ : True) => ?_)
    fun hnone => ?_) (forall₂_congr fun unit _ => true_imp_iff))
  · have hsome : (unitLens.get S).units.find unitId = some unit := hfind
    refine ⟨(unitId, PropertyRentalInventory.updatedUnit env.inventory unit dto),
      ⟨S.units.set unitId (PropertyRentalInventory.updatedUnit env.inventory unit dto), S.reservations⟩, .unit unitId _,
      ?_, rfl, rfl, keepsRest_units ⟨.set hfind rfl rfl, .refl _⟩⟩
    unfold PropertyRentalInventory.updateUnit
    rw [run_read_bind, hsome]
    rfl
  · have hmissing : (unitLens.get S).units.find unitId = none :=
      Option.eq_none_iff_forall_ne_some.mpr fun unit hfind => hnone unit hfind trivial
    unfold PropertyRentalInventory.updateUnit
    rw [run_read_bind, hmissing]
    exact ⟨_, rfl⟩

theorem keepsToBranch_createReservation (dto : CreatePropertyReservationDto) :
    (createReservation dto).KeepsIffOwn env S actorId branchId := by
  refine keepsIffOwn_of_some rfl trivial ?_
  by_cases hidle : (createReservation dto).Idle env S actorId
  · have hrun : (PropertyRentalInventory.createReservation env.inventory dto actorId).run (unitLens.get S) =
        (.error PropertyRentalInventory.invalidDateSyntax, unitLens.get S) := by
      unfold PropertyRentalInventory.createReservation
      rw [run_throwIf_bind, if_pos (Bool.or_eq_true_iff.mpr hidle)]
    exact iff_of_true (keepsToBranch_of_error hrun) (.inr hidle)
  · have hrun : (PropertyRentalInventory.createReservation env.inventory dto actorId).run (unitLens.get S) =
        (.ok (S.reservations.next, PropertyRentalInventory.newReservation env.inventory dto actorId),
          ⟨S.units, S.reservations.add (PropertyRentalInventory.newReservation env.inventory dto actorId)⟩) := by
      unfold PropertyRentalInventory.createReservation
      rw [run_throwIf_bind, if_neg fun hinvalid => hidle (Bool.or_eq_true_iff.mp hinvalid)]
      rfl
    refine Iff.trans (keepsToBranch_iff_of_row hrun rfl fun hown => ?_) (or_iff_left hidle).symm
    exact keepsRest_units ⟨.refl _, .add hown⟩

theorem keepsToBranch_updateReservation (reservationId : ℕ) (dto : UpdatePropertyReservationDto) :
    (updateReservation reservationId dto).KeepsIffOwn env S actorId branchId := by
  refine keepsIffOwn_of_none rfl (keepsToBranch_iff_of_found (fun reservation hfind hdates => ?_) fun hnone => ?_)
  · have hsome : (unitLens.get S).reservations.find reservationId = some reservation := hfind
    refine ⟨(reservationId, PropertyRentalInventory.updatedReservation env.inventory reservation dto),
      ⟨S.units, S.reservations.set reservationId
        (PropertyRentalInventory.updatedReservation env.inventory reservation dto)⟩, .reservation reservationId _, ?_,
      rfl, rfl, keepsRest_units ⟨.refl _, .set hfind rfl rfl⟩⟩
    unfold PropertyRentalInventory.updateReservation
    rw [run_read_bind, hsome]
    rw [run_throwIf_bind, if_neg (Bool.eq_false_iff.mp hdates)]
    rfl
  · unfold PropertyRentalInventory.updateReservation
    rw [run_read_bind]
    cases hfind : (unitLens.get S).reservations.find reservationId with
    | none => exact ⟨_, rfl⟩
    | some reservation =>
      have hinvalid := eq_true_of_ne_false (hnone reservation hfind)
      rw [run_throwIf_bind, if_pos hinvalid]
      exact ⟨_, rfl⟩

theorem keepsToBranch_listUnits (query : BranchListQuery) : (listUnits query).KeepsIffOwn env S actorId branchId :=
  keepsIffOwn_of_some rfl trivial (keepsToBranch_page_iff (t := PropertyInventoryStore.units) (by decide) (fun _ => rfl) rfl fun _ => rfl)

theorem keepsToBranch_listReservations (query : BranchListQuery) :
    (listReservations query).KeepsIffOwn env S actorId branchId :=
  keepsIffOwn_of_some rfl trivial (keepsToBranch_page_iff (t := PropertyInventoryStore.reservations) (by decide) (fun _ => rfl) rfl fun _ => rfl)

theorem keepsToBranch_iff (op : RecordOperation) :
    KeepsToBranch branchId S ((op.handler env actorId).run S) ↔ op.ReachesOnly env S actorId branchId := by
  cases op with
  | listFolios query => exact keepsToBranch_listFolios query
  | openFolio dto => exact keepsToBranch_openFolio dto
  | postFolioCharge folioId dto => exact keepsToBranch_postFolioCharge folioId dto
  | settleFolio folioId dto => exact keepsToBranch_settleFolio folioId dto
  | voidFolio folioId reason => exact keepsToBranch_voidFolio folioId reason
  | transferFolioRoom folioId dto => exact keepsToBranch_transferFolioRoom folioId dto
  | listBookings query => exact keepsToBranch_listBookings query
  | getBooking bookingId => exact keepsToBranch_getBooking bookingId
  | openBooking dto => exact keepsToBranch_openBooking dto
  | postCharge bookingId dto => exact keepsToBranch_postCharge bookingId dto
  | recordPayment bookingId dto => exact keepsToBranch_recordPayment bookingId dto
  | settleBooking bookingId dto => exact keepsToBranch_settleBooking bookingId dto
  | voidBooking bookingId dto => exact keepsToBranch_voidBooking bookingId dto
  | transferUnit bookingId dto => exact keepsToBranch_transferUnit bookingId dto
  | listUnits query => exact keepsToBranch_listUnits query
  | createUnit dto => exact keepsToBranch_createUnit dto
  | updateUnit unitId dto => exact keepsToBranch_updateUnit unitId dto
  | listReservations query => exact keepsToBranch_listReservations query
  | createReservation dto => exact keepsToBranch_createReservation dto
  | updateReservation reservationId dto => exact keepsToBranch_updateReservation reservationId dto

end Units

end RecordOperation

/-! ### Members of one branch -/

/-- The user is no administrator, and an active member of one branch only. -/
structure WorksOnlyAt (access : AccessStore) (user : RequestUser) (branchId : ℕ) : Prop where
  known : ∃ id ≠ 0, user.id = some id ∧
    ∀ other, RetailEntitlements.isUserActiveBranchMember access id other = true ↔ other = branchId
  notAdmin : .admin ∉ user.roles
  notSuperAdmin : .superAdmin ∉ user.roles

namespace RecordRequest

variable {guards : GuardRuntime} {access : AccessStore} {now : ℤ} {user : RequestUser} {branchId : ℕ}
  {request : RecordRequest}

/-- The number that the validation reads is the first that the guards try, unless its text is empty. -/
theorem extractBranchId_eq (hbound : request.Bound guards) (htext : request.dtoValue ≠ some "") {named : ℕ}
    (hnamed : request.operation.namedBranch = some named) (userBranchId : Option ℕ) :
    request.toBranchRequest.extractBranchId guards (fun _ => true) userBranchId = some (named : ℚ) := by
  have hvalue : request.dtoValue.bind (typedNumber guards) = some (named : ℚ) := by
    obtain ⟨operation, body, query⟩ := request
    -- the others name no branch
    cases operation <;> cases hnamed <;> exact hbound
  obtain ⟨text, htext', hnumber⟩ := Option.bind_eq_some_iff.mp hvalue
  have hne : text ≠ "" := fun h => htext (h ▸ htext')
  unfold typedNumber at hnumber
  rw [if_neg hne] at hnumber
  have hfirst : ((request.toBranchRequest.valueAt request.operation.branchPath).filter (· ≠ "")).bind guards.number =
      some (named : ℚ) := by
    have hat : request.toBranchRequest.valueAt request.operation.branchPath = some text := htext'
    rw [hat, Option.filter_some, if_pos (decide_eq_true hne), Option.bind_some, hnumber]
  show List.findSome? _ (((request.toBranchRequest.valueAt request.operation.branchPath).filter (· ≠ "")).bind
    guards.number :: _) = _
  rw [hfirst]
  rfl

/-- **The guards hold a request to its branch**, where the validation and they read the same number. -/
theorem namedBranch_eq (hmember : WorksOnlyAt access user branchId)
    (hadmitted : request.Admitted guards access now user)
    (htext : request.dtoValue ≠ some "") {named : ℕ} (hnamed : request.operation.namedBranch = some named) :
    named = branchId := by
  obtain ⟨id, hid, huser, honly⟩ := hmember.known
  have hbranch := extractBranchId_eq hadmitted.bound htext hnamed user.branchId
  have hmodules : request.toBranchRequest.requiredModules ≠ [] := List.cons_ne_nil _ _
  have hchecked : RetailModulesGuard.checkedUser (some user) = some id := by
    unfold RetailModulesGuard.checkedUser
    rw [Option.filter_some, if_pos (decide_eq_true ⟨hmember.notSuperAdmin, hmember.notAdmin⟩), Option.bind_some, huser,
      Option.filter_some, if_pos (decide_eq_true hid)]
  obtain ⟨-, hmembers⟩ := (admittedAt_iff hmodules hbranch).mp ⟨hmodules, hbranch, hadmitted.modules⟩
  rw [hchecked] at hmembers
  exact (honly named).mp hmembers

end RecordRequest

/-- **A member of one branch keeps to it** exactly if the row that the request finds is of the branch, or is refused for
its state, and if an empty text names no branch whose rows are listed or made. -/
theorem staff_isolated_iff (env : RecordRuntime) (guards : GuardRuntime) (access : AccessStore) (now : ℤ)
    (user : RequestUser) (branchId : ℕ) (request : RecordRequest) (S : RecordStore)
    (hmember : WorksOnlyAt access user branchId) (hadmitted : request.Admitted guards access now user) :
    KeepsToBranch branchId S ((request.operation.handler env user.id).run S) ↔
      request.operation.LoadsOwn env S branchId ∧ (request.dtoValue = some "" →
        ∀ named ∈ request.operation.namedBranch, named = branchId ∨ request.operation.Idle env S user.id) := by
  rw [RecordOperation.keepsToBranch_iff]
  refine and_congr_right fun _ => ⟨fun h _ => h, fun h named hnamed => ?_⟩
  by_cases htext : request.dtoValue = some ""
  · exact h htext named hnamed
  · exact .inl (RecordRequest.namedBranch_eq hmember hadmitted htext (Option.mem_def.mp hnamed))

/-- Two hotels of a tenant, the first one with a manager. -/
def managedHotels : AccessStore :=
  { AccessStore.empty with
    branches := (SerialTable.empty.add
      { name := "First", code := none, serviceFormat := none, ownerId := some 1, retailTenantId := some 1
        isActive := true }).add
      { name := "Second", code := none, serviceFormat := none, ownerId := some 1, retailTenantId := some 1
        isActive := true }
    tenants := (∅ : Table ℕ WorkspaceTenant).insert 1 ⟨.active, some 1⟩
    subscriptions := SerialTable.empty.add
      { tenantId := 1, branchId := none, planCode := "POS_BRANCH", status := .active, billingInterval := .monthly
        amount := none, currency := none, startsAt := 0, endsAt := none, autoRenew := true }
    moduleEntitlements := SerialTable.empty.add { tenantId := 1, retailModule := .posCore, enabled := true }
    staffAssignments := SerialTable.empty.add { branchId := 1, userId := 2, role := .manager, isActive := true } }

def hotelManager : RequestUser where
  id := some 2
  email := "manager@suuq.com"
  roles := [.posManager]
  tokenType := none
  branchId := none
  branchRole := none
  permissions := []
  assignedSurfaces := []
  capabilities := []
  isOwner := false
  isTenantOwner := false
  approvalType := none

def twoFolios : RecordStore where
  hotel := { emptyHotel with
    folios := (SerialTable.empty.add { branchId := 1, roomNumber := "101" }).add
      { branchId := 2, roomNumber := "102" } }
  bookings := .empty
  bookingCharges := .empty
  units := .empty
  reservations := .empty

def voidRequest (folioId : ℕ) : RecordRequest := { operation := .voidFolio folioId none, body := some "1" }

def recordRuntime : RecordRuntime := ⟨hotelRuntime, leaseRuntime, { toUpperCase := id }⟩

theorem worksOnlyAt_hotelManager : WorksOnlyAt managedHotels hotelManager 1 where
  known := by
    refine ⟨2, by decide, rfl, fun other => ⟨fun hmember => ?_, ?_⟩⟩
    · obtain ⟨branch, hbranch, howner⟩ | ⟨id, row, hrow, hat, -⟩ := worksAt_of_isUserActiveBranchMember hmember
      · obtain ⟨-, rfl⟩ | hbranch := eq_or_find_of_find_add hbranch
        · cases howner
        · obtain ⟨-, rfl⟩ | hbranch := eq_or_find_of_find_add hbranch
          · cases howner
          · cases hbranch
      · obtain ⟨-, rfl⟩ | hrow := eq_or_find_of_find_add hrow
        · exact hat.symm
        · cases hrow
    · rintro rfl
      decide
  notAdmin := by decide
  notSuperAdmin := by decide

theorem admitted_voidRequest (folioId : ℕ) :
    (voidRequest folioId).Admitted sampleGuards managedHotels 0 hotelManager where
  modules := by
    -- the guards do not see the id of the folio
    show RetailModulesGuard.canActivate _ _ _ _ (voidRequest 1).toBranchRequest = .ok ()
    decide
  session := by
    show PosBranchAccessGuard.canActivate _ _ _ (voidRequest 1).toBranchRequest = .ok ()
    decide
  bound text htext := by
    obtain rfl := Option.some.inj htext
    rfl

/-- The manager voids the folio of the first hotel, and nothing else. -/
theorem own_folio_voided : KeepsToBranch 1 twoFolios
    (((voidRequest 1).operation.handler recordRuntime hotelManager.id).run twoFolios) := by
  refine (staff_isolated_iff recordRuntime sampleGuards managedHotels 0 hotelManager 1 (voidRequest 1) twoFolios
    worksOnlyAt_hotelManager (admitted_voidRequest 1)).mpr
      ⟨fun folio hfind _ => ?_, fun htext => absurd htext (by decide)⟩
  obtain rfl := Option.some.inj hfind
  rfl

/-- The manager of the first hotel voids a folio of the second one. -/
theorem other_branch_folio_voided : WorksOnlyAt managedHotels hotelManager 1 ∧
    (voidRequest 2).Admitted sampleGuards managedHotels 0 hotelManager ∧ ¬ KeepsToBranch 1 twoFolios
      (((voidRequest 2).operation.handler recordRuntime hotelManager.id).run twoFolios) := by
  refine ⟨worksOnlyAt_hotelManager, admitted_voidRequest 2, fun hkeeps => ?_⟩
  obtain ⟨hown, -⟩ := (RecordOperation.keepsToBranch_iff _).mp hkeeps
  have hbranch : 2 = 1 := hown { branchId := 2, roomNumber := "102" } rfl (by decide)
  cases hbranch

end SuuqBackend
