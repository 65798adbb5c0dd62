import SuuqBackend.Hospitality.Laws.NightAudits
import SuuqBackend.Lib.SharedKeys
import SuuqBackend.PropertyRental.Laws.RentalRuns

/-!
# Opening folios and bookings

`openFolio` and `openBooking` look up the key of a request among the rows of every branch, and the key is unique among
these.  So both are the requests of `SharedKeys`, whose owners are the branches, and a run keeps the branches apart if
and only if no request meets a row of another branch under its key (`branches_isolated_iff`).

Records are compared without their ids, which come from a counter of the database.
-/

namespace SuuqBackend

open Proc SharedKeys

structure OpenStore where
  hotel : HotelStore
  rental : PropertyRentalStore

inductive OpenedKind where
  | folio
  | booking
deriving DecidableEq

inductive OpenedRecord where
  | folio (row : HotelFolio)
  | booking (row : PropertyRentalBooking)
deriving DecidableEq

def OpenedRecord.branchId : OpenedRecord → ℕ
  | folio row => row.branchId
  | booking row => row.branchId

inductive OpenCall where
  | openFolio (env : HotelRuntime) (dto : HotelFolios.OpenFolioDto) (actorId : Option ℕ)
  | openBooking (env : PropertyRentalRuntime) (dto : OpenPropertyBookingDto) (actorId : Option ℕ)

namespace OpenCall

def branchId : OpenCall → ℕ
  | openFolio _ dto _ => dto.branchId
  | openBooking _ dto _ => dto.branchId

def answer (S : OpenStore) : OpenCall → Except HttpException OpenedRecord
  | openFolio env dto actorId => (run (HotelFolios.openFolio env dto actorId) S.hotel).1.map fun found =>
    .folio found.2
  | openBooking env dto actorId =>
    (run (PropertyRentalBookings.openBooking env dto actorId) S.rental).1.map fun found => .booking found.2

def step (S : OpenStore) : OpenCall → OpenStore
  | openFolio env dto actorId => { S with hotel := (run (HotelFolios.openFolio env dto actorId) S.hotel).2 }
  | openBooking env dto actorId =>
    { S with rental := (run (PropertyRentalBookings.openBooking env dto actorId) S.rental).2 }

def answers : OpenStore → List OpenCall → List (ℕ × Except HttpException OpenedRecord)
  | _, [] => []
  | S, c :: cs => (c.branchId, c.answer S) :: answers (c.step S) cs

def others (branchId : ℕ) (calls : List OpenCall) : List OpenCall := calls.filter fun c => c.branchId ≠ branchId

end OpenCall

namespace OpenStore

def Holds (S : OpenStore) : OpenedRecord → Prop
  | .folio row => ∃ id, S.hotel.folios.find id = some row
  | .booking row => ∃ id, S.rental.bookings.find id = some row

def records (S : OpenStore) : SharedKeys.Rows (OpenedKind × String) OpenedRecord
  | (.folio, key) => (byKey HotelFolio.idempotencyKey S.hotel.folios key).map .folio
  | (.booking, key) => (byKey PropertyRentalBooking.idempotencyKey S.rental.bookings key).map .booking

def unopened (hotel : HotelStore) (rental : PropertyRentalStore) : OpenStore :=
  ⟨{ hotel with folios := .empty }, { rental with bookings := .empty }⟩

end OpenStore

/-- **The branches are kept apart**: a request gets only a record of its branch, and without the requests of a branch
the others would be answered the same and leave the same records. -/
structure BranchesIsolated (S : OpenStore) (calls : List OpenCall) : Prop where
  own : ∀ branchId record, (branchId, .ok record) ∈ OpenCall.answers S calls → record.branchId = branchId
  answered : ∀ branchId, (OpenCall.answers S calls).filter (fun answer => answer.1 ≠ branchId) =
    OpenCall.answers S (OpenCall.others branchId calls)
  left : ∀ branchId record, record.branchId ≠ branchId →
    ((Run.after OpenCall.step S calls).Holds record ↔
      (Run.after OpenCall.step S (OpenCall.others branchId calls)).Holds record)

/-! ### Both services as requests for rows under a key -/

def duplicateKey : HttpException := .queryFailed "duplicate key value violates unique constraint"

def invalidDateSyntax : HttpException := .queryFailed "invalid input syntax for type date"

namespace HotelFolios

open PosSync (trimmed)

/-- `openFolio` as a request. -/
def openRequest (env : HotelRuntime) (dto : OpenFolioDto) (actorId : Option ℕ) :
    Request String HotelFolio ℕ HttpException where
  owner := dto.branchId
  key := (trimmed dto.idempotencyKey).getD s!"folio-open-{dto.branchId}-{env.now}"
  reuses := (trimmed dto.idempotencyKey).isSome
  refusal := if invalidDate env dto.checkInAt ∨ invalidDate env dto.checkOutAt then some invalidDateSyntax else none
  row := newFolio env dto actorId

variable (env : HotelRuntime) (dto : OpenFolioDto) (actorId : Option ℕ)

theorem idempotencyKey_newFolio :
    (newFolio env dto actorId).idempotencyKey = some (openRequest env dto actorId).key := by
  unfold newFolio openRequest
  cases trimmed dto.idempotencyKey <;> rfl

theorem run_insertFolio {folio : HotelFolio} {key : String} (hkey : folio.idempotencyKey = some key) (S : HotelStore) :
    run (insertFolio folio) S = if (byKey HotelFolio.idempotencyKey S.folios key).isSome then
        (.error duplicateKey, S) else (.ok S.folios.next, { S with folios := S.folios.add folio }) := by
  unfold insertFolio byKey
  rw [run_read_bind, run_throwIf_bind, Option.isSome_map]
  simp only [hkey]
  rfl

theorem run_findFolioByKey (idempotencyKey : Option String) (S : HotelStore) :
    run (findFolioByKey idempotencyKey) S =
      (.ok (idempotencyKey.bind fun key => S.folios.first fun row => row.idempotencyKey = some key), S) := by
  cases idempotencyKey <;> rfl

/-- Nothing is found unless the client has chosen the key, and there is a folio under it. -/
theorem findFolio_eq_none {env : HotelRuntime} {dto : OpenFolioDto} {actorId : Option ℕ} {S : HotelStore}
    (h : (openRequest env dto actorId).reuses = true →
      byKey HotelFolio.idempotencyKey S.folios (openRequest env dto actorId).key = none) :
    ((trimmed dto.idempotencyKey).bind fun key => S.folios.first fun row => row.idempotencyKey = some key) = none := by
  unfold openRequest at h
  cases hclient : trimmed dto.idempotencyKey with
  | none => rfl
  | some key =>
    rw [hclient] at h
    exact first_of_byKey_eq_none (h rfl)

/-- **`openFolio`** does what its request says. -/
theorem run_openFolio (S : HotelStore) : (run (openFolio env dto actorId) S).1.map Prod.snd =
        (openRequest env dto actorId).answer duplicateKey (byKey HotelFolio.idempotencyKey S.folios) ∧
      (run (openFolio env dto actorId) S).2.folios =
        (openRequest env dto actorId).stepTable HotelFolio.idempotencyKey S.folios := by
  have hinsert := run_insertFolio (idempotencyKey_newFolio env dto actorId) S
  unfold openFolio
  rw [run_bind_of_ok (run_findFolioByKey _ S)]
  refine Request.answer_stepTable (fun found hreuses hfirst => ?_) (fun e hnone hrefusal => ?_)
    (fun hreuses htaken hvalid => ?_) fun hfree hvalid => ?_
  · obtain ⟨key, hclient⟩ := Option.isSome_iff_exists.mp hreuses
    have hsame : (openRequest env dto actorId).key = key := by
      unfold openRequest
      rw [hclient, Option.getD_some]
    rw [hsame] at hfirst
    rw [hclient, Option.bind_some, hfirst]
    exact ⟨rfl, rfl⟩
  · obtain ⟨hinvalid, he⟩ := Option.ite_none_right_eq_some.mp hrefusal
    obtain rfl := Option.some.inj he
    rw [findFolio_eq_none hnone]
    rw [run_throwIf_bind, if_pos hinvalid]
    exact ⟨rfl, rfl⟩
  · have hdates := ite_eq_right_iff.mp hvalid
    rw [findFolio_eq_none fun h => by rw [hreuses] at h; cases h]
    rw [run_throwIf_bind, if_neg fun h => by cases hdates h]
    rw [if_pos htaken] at hinsert
    rw [run_bind_of_error hinsert]
    exact ⟨rfl, rfl⟩
  · have hdates := ite_eq_right_iff.mp hvalid
    rw [findFolio_eq_none fun _ => hfree]
    rw [run_throwIf_bind, if_neg fun h => by cases hdates h]
    rw [hfree] at hinsert
    rw [run_bind_of_ok hinsert]
    exact ⟨⟨_, rfl⟩, rfl⟩

end HotelFolios

namespace PropertyRentalBookings

open PosSync (trimmed)

/-- `openBooking` as a request. -/
def openRequest (env : PropertyRentalRuntime) (dto : OpenPropertyBookingDto) (actorId : Option ℕ) :
    Request String PropertyRentalBooking ℕ HttpException where
  owner := dto.branchId
  key := (trimmed dto.idempotencyKey).getD s!"property-open-{dto.branchId}-{env.now}"
  reuses := (trimmed dto.idempotencyKey).isSome
  refusal :=
    if invalidDate env dto.leaseStartAt ∨ invalidDate env dto.leaseEndAt then some invalidDateSyntax else none
  row := newBooking env dto actorId

variable (env : PropertyRentalRuntime) (dto : OpenPropertyBookingDto) (actorId : Option ℕ)

theorem idempotencyKey_newBooking :
    (newBooking env dto actorId).idempotencyKey = some (openRequest env dto actorId).key := by
  unfold newBooking openRequest
  cases trimmed dto.idempotencyKey <;> rfl

theorem findSome?_eq_first {ν : Type} (t : SerialTable ν) (p : ν → Bool) :
    ((List.range t.next).findSome? fun id => ((t.find id).filter p).map fun row => (id, row)) = t.first p := by
  unfold SerialTable.first
  induction List.range t.next with
  | nil => rfl
  | cons id ids ih =>
    cases hfind : t.find id with
    | none =>
      rw [List.findSome?_cons_of_isNone (by rw [hfind]; rfl),
        List.find?_cons_of_neg (by rw [hfind]; exact Bool.false_ne_true), ih]
    | some row =>
      by_cases hp : p row = true
      · rw [List.findSome?_cons_of_isSome (by rw [hfind, Option.filter_some, if_pos hp]; rfl),
          List.find?_cons_of_pos (by rw [hfind, Option.any_some, hp]), hfind, Option.filter_some, if_pos hp,
          Option.bind_eq_bind, Option.bind_some, hfind]
        rfl
      · rw [List.findSome?_cons_of_isNone (by rw [hfind, Option.filter_some, if_neg hp]; rfl),
          List.find?_cons_of_neg (by rw [hfind]; exact hp), ih]

theorem run_insertBooking_byKey {booking : PropertyRentalBooking} {key : String}
    (hkey : booking.idempotencyKey = some key) (s : PropertyRentalStore) :
    run (insertBooking booking) s =
      if (byKey PropertyRentalBooking.idempotencyKey s.bookings key).isSome then (.error duplicateKey, s)
      else (.ok s.bookings.next, { s with bookings := s.bookings.add booking }) := by
  have htaken : (∃ id ∈ List.range s.bookings.next,
      (s.bookings.find id).any fun row => row.idempotencyKey = booking.idempotencyKey) ↔
        (byKey PropertyRentalBooking.idempotencyKey s.bookings key).isSome := by
    unfold byKey
    rw [hkey]
    cases hfirst : s.bookings.first fun row => row.idempotencyKey = some key with
    | none =>
      refine iff_of_false ?_ Bool.false_ne_true
      rintro ⟨id, -, hany⟩
      rw [SerialTable.any_find_of_first_eq_none hfirst] at hany
      cases hany
    | some found =>
      obtain ⟨hfind, hmeets⟩ := SerialTable.find_of_first hfirst
      refine iff_of_true ⟨found.1, List.mem_range.mpr (SerialTable.lt_next_of_find hfind), ?_⟩ rfl
      rw [hfind, Option.any_some, hmeets]
  unfold insertBooking
  rw [run_transaction, run_read_bind, run_throwIf_bind]
  by_cases hsome : (byKey PropertyRentalBooking.idempotencyKey s.bookings key).isSome
  · rw [if_pos hsome, if_pos (htaken.mpr hsome)]
    rfl
  · rw [if_neg hsome, if_neg fun h => hsome (htaken.mp h)]
    rfl

theorem run_postLogged_bookings (now : Date) (input : PostJournalEntryInput) (s : PropertyRentalStore) :
    ∃ s', run (postLogged now input) s = (.ok (), s') ∧ s'.bookings = s.bookings := by
  unfold postLogged
  rw [run_attempt_bind_pure]
  refine ⟨_, rfl, ?_⟩
  unfold PropertyRentalStore.postEntry
  rw [run_zoom]
  rfl

/-- What the request leaves to do when no booking is found. -/
def insertNew (env : PropertyRentalRuntime) (dto : OpenPropertyBookingDto) (actorId : Option ℕ) :
    PropertyRentalProc (ℕ × PropertyRentalBooking) := do
  .throwIf (invalidDate env dto.leaseStartAt ∨ invalidDate env dto.leaseEndAt) invalidDateSyntax
  let id ← insertBooking (newBooking env dto actorId)
  if GeneralLedger.round2 (newBooking env dto actorId).depositAmount > 0 then
    postLogged env.now (depositOpenEntry id (newBooking env dto actorId))
  return (id, newBooking env dto actorId)

/-- Nothing is found unless the client has chosen the key, and there is a booking under it. -/
theorem run_openBooking_eq (s : PropertyRentalStore) :
    run (openBooking env dto actorId) s =
      match (if (openRequest env dto actorId).reuses then
        s.bookings.first fun row => row.idempotencyKey = some (openRequest env dto actorId).key else none) with
      | some found => (.ok found, s)
      | none => run (insertNew env dto actorId) s := by
  unfold openBooking openRequest
  rw [run_read_bind]
  cases trimmed dto.idempotencyKey with
  | none => rfl
  | some key =>
    dsimp only
    rw [findSome?_eq_first, Option.getD_some]
    cases s.bookings.first fun row => row.idempotencyKey = some key <;> rfl

/-- **`openBooking`** does what its request says. -/
theorem run_openBooking (s : PropertyRentalStore) :
    (run (openBooking env dto actorId) s).1.map Prod.snd = (openRequest env dto actorId).answer duplicateKey
        (byKey PropertyRentalBooking.idempotencyKey s.bookings) ∧
      (run (openBooking env dto actorId) s).2.bookings =
        (openRequest env dto actorId).stepTable PropertyRentalBooking.idempotencyKey s.bookings := by
  have hinsert := run_insertBooking_byKey (idempotencyKey_newBooking env dto actorId) s
  have hlookup
      (h : (openRequest env dto actorId).reuses = true →
        byKey PropertyRentalBooking.idempotencyKey s.bookings (openRequest env dto actorId).key = none) :
      (if (openRequest env dto actorId).reuses then
        s.bookings.first fun row => row.idempotencyKey = some (openRequest env dto actorId).key else none) = none := by
    split_ifs with hreuses
    · exact first_of_byKey_eq_none (h hreuses)
    · rfl
  rw [run_openBooking_eq]
  refine Request.answer_stepTable (fun found hreuses hfirst => ?_) (fun e hnone hrefusal => ?_)
    (fun hreuses htaken hvalid => ?_) fun hfree hvalid => ?_
  · rw [if_pos hreuses, hfirst]
    exact ⟨rfl, rfl⟩
  · obtain ⟨hinvalid, he⟩ := Option.ite_none_right_eq_some.mp hrefusal
    obtain rfl := Option.some.inj he
    rw [hlookup hnone]
    unfold insertNew
    rw [run_throwIf_bind, if_pos hinvalid]
    exact ⟨rfl, rfl⟩
  · have hdates := ite_eq_right_iff.mp hvalid
    rw [hlookup fun h => by rw [hreuses] at h; cases h]
    unfold insertNew
    rw [run_throwIf_bind, if_neg fun h => by cases hdates h]
    rw [if_pos htaken] at hinsert
    rw [run_bind_of_error hinsert]
    exact ⟨rfl, rfl⟩
  · have hdates := ite_eq_right_iff.mp hvalid
    rw [hlookup fun _ => hfree]
    unfold insertNew
    rw [run_throwIf_bind, if_neg fun h => by cases hdates h]
    rw [hfree] at hinsert
    rw [run_bind_of_ok hinsert]
    split_ifs
    · obtain ⟨s', hposted, hbookings⟩ := run_postLogged_bookings env.now
        (depositOpenEntry s.bookings.next (newBooking env dto actorId))
        { s with bookings := s.bookings.add (newBooking env dto actorId) }
      rw [run_bind_of_ok hposted]
      exact ⟨⟨_, rfl⟩, hbookings⟩
    · exact ⟨⟨_, rfl⟩, rfl⟩

end PropertyRentalBookings

/-! ### Runs of both -/

namespace OpenCall

def request : OpenCall → Request (OpenedKind × String) OpenedRecord ℕ HttpException
  | openFolio env dto actorId => (HotelFolios.openRequest env dto actorId).embed (Prod.mk .folio) .folio
  | openBooking env dto actorId =>
    (PropertyRentalBookings.openRequest env dto actorId).embed (Prod.mk .booking) .booking

variable (c : OpenCall) (calls : List OpenCall) (S : OpenStore)

theorem owner_request : c.request.owner = c.branchId := by
  cases c <;> rfl

theorem branchId_request : c.request.row.branchId = c.request.owner := by
  cases c <;> rfl

theorem records_folio (key : String) :
    S.records (Prod.mk .folio key) = (byKey HotelFolio.idempotencyKey S.hotel.folios key).map .folio := rfl

theorem records_booking (key : String) :
    S.records (Prod.mk .booking key) =
      (byKey PropertyRentalBooking.idempotencyKey S.rental.bookings key).map .booking := rfl

theorem answer_eq : c.answer S = c.request.answer duplicateKey S.records := by
  cases c with
  | openFolio env dto actorId =>
    obtain ⟨hanswer, -⟩ := HotelFolios.run_openFolio env dto actorId S.hotel
    refine Eq.trans ?_ (Request.answer_embed (records_folio S) (HotelFolios.openRequest env dto actorId) _).symm
    rw [← hanswer]
    show (run (HotelFolios.openFolio env dto actorId) S.hotel).1.map (fun found => OpenedRecord.folio found.2) = _
    cases (run (HotelFolios.openFolio env dto actorId) S.hotel).1 <;> rfl
  | openBooking env dto actorId =>
    obtain ⟨hanswer, -⟩ := PropertyRentalBookings.run_openBooking env dto actorId S.rental
    refine Eq.trans ?_
      (Request.answer_embed (records_booking S) (PropertyRentalBookings.openRequest env dto actorId) _).symm
    rw [← hanswer]
    show (run (PropertyRentalBookings.openBooking env dto actorId) S.rental).1.map
      (fun found => OpenedRecord.booking found.2) = _
    cases (run (PropertyRentalBookings.openBooking env dto actorId) S.rental).1 <;> rfl

theorem records_step : (c.step S).records = c.request.step S.records := by
  have hinjective (kind : OpenedKind) : Function.Injective (Prod.mk kind : String → OpenedKind × String) :=
    fun _ _ h => (Prod.mk.inj h).2
  funext ⟨kind, key⟩
  cases c with
  | openFolio env dto actorId =>
    cases kind with
    | folio =>
      obtain ⟨-, htable⟩ := HotelFolios.run_openFolio env dto actorId S.hotel
      have hkey := HotelFolios.idempotencyKey_newFolio env dto actorId
      refine Eq.trans ?_ (Request.step_embed (hinjective .folio) (records_folio S)
        (HotelFolios.openRequest env dto actorId) key).symm
      rw [← Request.byKey_stepTable hkey, ← htable]
      rfl
    | booking =>
      have hne (other : String) : (OpenedKind.booking, key) ≠ (OpenedKind.folio, other) := fun h => by cases h
      have hsame : (openFolio env dto actorId).request.step S.records (.booking, key) = S.records (.booking, key) :=
        Request.step_embed_of_ne hne
      exact hsame.symm
  | openBooking env dto actorId =>
    cases kind with
    | folio =>
      have hne (other : String) : (OpenedKind.folio, key) ≠ (OpenedKind.booking, other) := fun h => by cases h
      have hsame : (openBooking env dto actorId).request.step S.records (.folio, key) = S.records (.folio, key) :=
        Request.step_embed_of_ne hne
      exact hsame.symm
    | booking =>
      obtain ⟨-, htable⟩ := PropertyRentalBookings.run_openBooking env dto actorId S.rental
      have hkey := PropertyRentalBookings.idempotencyKey_newBooking env dto actorId
      refine Eq.trans ?_ (Request.step_embed (hinjective .booking) (records_booking S)
        (PropertyRentalBookings.openRequest env dto actorId) key).symm
      rw [← Request.byKey_stepTable hkey, ← htable]
      rfl

/-- The call meets no row of another branch under its key: there is none, or it is refused without one. -/
def Clear (S : OpenStore) (c : OpenCall) : Prop := c.request.Clear OpenedRecord.branchId S.records
deriving Decidable

/-! ### Runs -/

theorem answers_eq : answers S calls = SharedKeys.answers duplicateKey S.records (calls.map request) := by
  induction calls generalizing S with
  | nil => rfl
  | cons c calls ih =>
    unfold answers
    rw [List.map_cons, answers_cons, ih, records_step, answer_eq, owner_request]

theorem records_after : (Run.after step S calls).records = stored S.records (calls.map request) := by
  induction calls generalizing S with
  | nil => rfl
  | cons c calls ih => rw [Run.after_cons, ih, List.map_cons, stored_cons, records_step]

theorem along_clear_iff :
    Run.Along step (fun S c => c.Clear S) S calls ↔
      Run.Along (fun rows r => r.step rows) (fun rows r => r.Clear OpenedRecord.branchId rows) S.records
        (calls.map request) := by
  induction calls generalizing S with
  | nil => exact Iff.rfl
  | cons c calls ih =>
    rw [Run.along_cons, ih, records_step]
    rfl

theorem map_others (branchId : ℕ) (calls : List OpenCall) :
    (others branchId calls).map request = SharedKeys.others branchId (calls.map request) := by
  unfold others SharedKeys.others
  rw [List.filter_map]
  congr 1
  refine List.filter_congr fun c _ => ?_
  rw [Function.comp_apply, owner_request]

end OpenCall

namespace OpenStore

theorem records_unopened (hotel : HotelStore) (rental : PropertyRentalStore) :
    (unopened hotel rental).records = fun _ => none := by
  funext ⟨kind, key⟩
  cases kind <;> rfl

def Keyed (S : OpenStore) : Prop :=
  SharedKeys.Keyed HotelFolio.idempotencyKey S.hotel.folios ∧
    SharedKeys.Keyed PropertyRentalBooking.idempotencyKey S.rental.bookings

theorem keyed_step (S : OpenStore) (c : OpenCall) (h : S.Keyed) : (c.step S).Keyed := by
  cases c with
  | openFolio env dto actorId =>
    obtain ⟨-, htable⟩ := HotelFolios.run_openFolio env dto actorId S.hotel
    refine ⟨?_, h.2⟩
    have hkey := HotelFolios.idempotencyKey_newFolio env dto actorId
    exact htable ▸ h.1.stepTable (r := HotelFolios.openRequest env dto actorId) hkey
  | openBooking env dto actorId =>
    obtain ⟨-, htable⟩ := PropertyRentalBookings.run_openBooking env dto actorId S.rental
    refine ⟨h.1, ?_⟩
    have hkey := PropertyRentalBookings.idempotencyKey_newBooking env dto actorId
    exact htable ▸ h.2.stepTable (r := PropertyRentalBookings.openRequest env dto actorId) hkey

theorem Keyed.holds_iff {S : OpenStore} (h : S.Keyed) (record : OpenedRecord) :
    S.Holds record ↔ ∃ key, S.records key = some record := by
  cases record with
  | folio row =>
    refine h.1.exists_find_iff.trans ⟨fun ⟨key, hkey⟩ => ⟨(.folio, key), ?_⟩, fun ⟨⟨kind, key⟩, hkey⟩ => ?_⟩
    · rw [OpenCall.records_folio, hkey]
      rfl
    · cases kind with
      | folio =>
        obtain ⟨row', hrow, heq⟩ := Option.map_eq_some_iff.mp hkey
        exact ⟨key, by rw [hrow, OpenedRecord.folio.inj heq]⟩
      | booking =>
        obtain ⟨row', -, heq⟩ := Option.map_eq_some_iff.mp hkey
        cases heq
  | booking row =>
    refine h.2.exists_find_iff.trans ⟨fun ⟨key, hkey⟩ => ⟨(.booking, key), ?_⟩, fun ⟨⟨kind, key⟩, hkey⟩ => ?_⟩
    · rw [OpenCall.records_booking, hkey]
      rfl
    · cases kind with
      | folio =>
        obtain ⟨row', -, heq⟩ := Option.map_eq_some_iff.mp hkey
        cases heq
      | booking =>
        obtain ⟨row', hrow, heq⟩ := Option.map_eq_some_iff.mp hkey
        exact ⟨key, by rw [hrow, OpenedRecord.booking.inj heq]⟩

end OpenStore

/-- **When opening keeps the branches apart**: from empty tables, when no call meets a record of another branch under
its key. -/
theorem branches_isolated_iff (hotel : HotelStore) (rental : PropertyRentalStore) (calls : List OpenCall) :
    BranchesIsolated (.unopened hotel rental) calls ↔
      Run.Along OpenCall.step (fun S c => c.Clear S) (.unopened hotel rental) calls := by
  set S := OpenStore.unopened hotel rental with hS
  have hrows : ∀ r ∈ calls.map OpenCall.request, r.row.branchId = r.owner := by
    intro r hr
    obtain ⟨c, -, rfl⟩ := List.mem_map.mp hr
    exact OpenCall.branchId_request c
  have hempty : S.records = fun _ => none := OpenStore.records_unopened hotel rental
  have hwithout (branchId : ℕ) : without OpenedRecord.branchId branchId S.records = S.records := by
    rw [hempty]
    rfl
  have hkeyed (calls : List OpenCall) : (Run.after OpenCall.step S calls).Keyed :=
    Run.after_invariant OpenStore.keyed_step ⟨keyed_empty _, keyed_empty _⟩ calls
  rw [OpenCall.along_clear_iff]
  constructor
  · intro h
    have hown (branchId : ℕ) (record : OpenedRecord)
        (hmem : (branchId, .ok record) ∈ answers duplicateKey S.records (calls.map OpenCall.request)) :
        record.branchId = branchId := by
      rw [← OpenCall.answers_eq] at hmem
      exact h.own branchId record hmem
    refine along_of_answers hrows hown fun branchId => ?_
    rw [hwithout, ← OpenCall.map_others, ← OpenCall.answers_eq, ← OpenCall.answers_eq]
    exact h.answered branchId
  · intro h
    have hisolated := isolated_of_along duplicateKey hrows h
    refine ⟨fun branchId record hmem => ?_, fun branchId => ?_, fun branchId record hother => ?_⟩
    · rw [OpenCall.answers_eq] at hmem
      exact hisolated.own branchId record hmem
    · have hanswered := hisolated.answered branchId
      rwa [hwithout, ← OpenCall.map_others, ← OpenCall.answers_eq, ← OpenCall.answers_eq] at hanswered
    · have hleft := hisolated.left branchId
      rw [hwithout, ← OpenCall.map_others, ← OpenCall.records_after, ← OpenCall.records_after] at hleft
      rw [(hkeyed calls).holds_iff, (hkeyed (OpenCall.others branchId calls)).holds_iff, ← hleft]
      refine exists_congr fun key => ⟨fun hrecord => without_of_ne hrecord hother, fun hrecord => ?_⟩
      exact (Option.filter_eq_some_iff.mp hrecord).1

def emptyHotel : HotelStore := ⟨.empty, .empty, [], [], [], emptyJournal⟩

/-- The first guest of a branch, whose hotel numbers its check-ins from 1. -/
def firstCheckIn (branchId : ℕ) (roomNumber guestName : String) : OpenCall :=
  .openFolio hotelRuntime { branchId, roomNumber, guestName := some guestName, idempotencyKey := some "1" } none

/-- Two hotels number their check-ins from 1: the second gets the guest of the first, and no folio of its own. -/
theorem guest_of_other_hotel :
    ¬ BranchesIsolated (.unopened emptyHotel emptyRentals)
      [firstCheckIn 1 "101" "Abebe", firstCheckIn 2 "7" "Sara"] := by
  intro h
  have hanswers : OpenCall.answers (.unopened emptyHotel emptyRentals)
      [firstCheckIn 1 "101" "Abebe", firstCheckIn 2 "7" "Sara"] =
        [(1, .ok (.folio (HotelFolios.newFolio hotelRuntime
            { branchId := 1, roomNumber := "101", guestName := some "Abebe", idempotencyKey := some "1" } none))),
          (2, .ok (.folio (HotelFolios.newFolio hotelRuntime
            { branchId := 1, roomNumber := "101", guestName := some "Abebe", idempotencyKey := some "1" } none)))] := by
    decide
  have hown := h.own 2 _ (by rw [hanswers]; exact List.mem_cons_of_mem _ (List.mem_cons_self ..))
  cases hown

end SuuqBackend
