import SuuqBackend.Accounting.Laws.Postings
import SuuqBackend.Branches.BranchRecords

/-!
# What a request reaches

A request keeps to a branch if it neither returns a record of another branch nor changes one (`KeepsToBranch`).  The
services find a row by its id or by the key of the client (`RecordOperation.LoadsOwn`), or list and create rows of the
branch that they are told (`RecordOperation.Idle`, where they do neither).

* `keepsToBranch_iff_of_row`, `keepsToBranch_page_iff`: of a request that is answered, what it returns has to be of the
  branch.
-/

namespace SuuqBackend

open Proc GeneralLedger PropertyRentalInventory PropertyRentalBookings

/-! ### The rows of the other branches -/

/-- The rows of the other branches are the same in both tables. -/
def SameElsewhere {ν : Type} (branchOf : ν → ℕ) (branchId : ℕ) (t t' : SerialTable ν) : Prop :=
  ∀ id, (t'.find id).filter (fun row => branchOf row ≠ branchId) = (t.find id).filter fun row => branchOf row ≠ branchId

namespace SameElsewhere

variable {ν : Type} {branchOf : ν → ℕ} {branchId : ℕ} {t t' : SerialTable ν}

theorem refl (t : SerialTable ν) : SameElsewhere branchOf branchId t t := fun _ => rfl

theorem add {row : ν} (h : branchOf row = branchId) : SameElsewhere branchOf branchId t (t.add row) :=
  SerialTable.filter_find_add (decide_eq_false (not_not.mpr h))

theorem set {id : ℕ} {row row' : ν} (hfind : t.find id = some row) (h : branchOf row = branchId)
    (h' : branchOf row' = branchId) : SameElsewhere branchOf branchId t (t.set id row') :=
  SerialTable.filter_find_set hfind (decide_eq_false (not_not.mpr h)) (decide_eq_false (not_not.mpr h'))

end SameElsewhere

namespace GlStore

/-- The entries of the other branches and their lines are the same. -/
structure KeepsRest (branchId : ℕ) (J J' : GlStore) : Prop where
  entries : J'.entries.filter (fun e => e.branchId ≠ branchId) = J.entries.filter fun e => e.branchId ≠ branchId
  lines : J'.lines.filter (fun l => l.branchId ≠ branchId) = J.lines.filter fun l => l.branchId ≠ branchId

namespace KeepsRest

variable {branchId : ℕ} {J J' J'' : GlStore}

theorem refl (branchId : ℕ) (J : GlStore) : KeepsRest branchId J J := ⟨rfl, rfl⟩

theorem trans (h : KeepsRest branchId J J') (h' : KeepsRest branchId J' J'') : KeepsRest branchId J J'' :=
  ⟨h'.entries.trans h.entries, h'.lines.trans h.lines⟩

end KeepsRest

theorem keepsRest_post (now : ℤ) (input : PostJournalEntryInput) (manager : Bool) (J : GlStore) :
    J.KeepsRest input.branchId ((post now input manager).run J).2 := by
  rw [run_post]
  cases assertBalanced input with
  | error e => exact .refl input.branchId J
  | ok _ =>
    rw [run_postWithin]
    cases J.entryByKey input.branchId input.idempotencyKey with
    | some existing => exact .refl input.branchId J
    | none =>
      have hentry : (postedEntry now input J.nextEntryId).branchId = input.branchId := rfl
      have hlines : ∀ l ∈ storedLines J.nextEntryId input, l.branchId = input.branchId := by
        intro l hl
        obtain ⟨line, -, rfl⟩ := List.mem_map.mp hl
        rfl
      refine ⟨?_, ?_⟩
      · show (J.entries ++ [postedEntry now input J.nextEntryId]).filter _ = _
        rw [List.filter_append, List.filter_singleton, hentry]
        simp
      · show (J.lines ++ storedLines J.nextEntryId input).filter _ = _
        have hnone : (storedLines J.nextEntryId input).filter (fun l => l.branchId ≠ input.branchId) = [] := by
          refine List.filter_eq_nil_iff.mpr fun l hl => ?_
          simp [hlines l hl]
        rw [List.filter_append, hnone, List.append_nil]

theorem acts_post (now : ℤ) (input : PostJournalEntryInput) :
    (post now input false).Acts (KeepsRest input.branchId) := by
  have hkeeps := keepsRest_post now input false
  unfold post at hkeeps ⊢
  cases hbalanced : assertBalanced input with
  | error e => exact acts_throw e
  | ok _ =>
    rw [hbalanced] at hkeeps
    exact acts_transaction hkeeps

end GlStore

/-- The folios of the other branches, their charges and their entries are the same. -/
structure HotelStore.KeepsRest (branchId : ℕ) (S S' : HotelStore) : Prop where
  folios : SameElsewhere HotelFolio.branchId branchId S.folios S'.folios
  charges : SameElsewhere HotelFolioCharge.branchId branchId S.charges S'.charges
  ledger : S.ledger.KeepsRest branchId S'.ledger

/-- The bookings of the other branches, with their payments, their charges and their entries are the same. -/
structure PropertyRentalStore.KeepsRest (branchId : ℕ) (S S' : PropertyRentalStore) : Prop where
  bookings : SameElsewhere PropertyRentalBooking.branchId branchId S.bookings S'.bookings
  charges : SameElsewhere PropertyRentalBookingCharge.branchId branchId S.charges S'.charges
  journal : S.journal.KeepsRest branchId S'.journal

/-- The units and the reservations of the other branches are the same. -/
structure PropertyInventoryStore.KeepsRest (branchId : ℕ) (S S' : PropertyInventoryStore) : Prop where
  units : SameElsewhere PropertyUnit.branchId branchId S.units S'.units
  reservations : SameElsewhere PropertyReservation.branchId branchId S.reservations S'.reservations

namespace RecordStore

structure KeepsRest (branchId : ℕ) (S S' : RecordStore) : Prop where
  folios : SameElsewhere HotelFolio.branchId branchId S.hotel.folios S'.hotel.folios
  folioCharges : SameElsewhere HotelFolioCharge.branchId branchId S.hotel.charges S'.hotel.charges
  bookings : SameElsewhere PropertyRentalBooking.branchId branchId S.bookings S'.bookings
  bookingCharges : SameElsewhere PropertyRentalBookingCharge.branchId branchId S.bookingCharges S'.bookingCharges
  units : SameElsewhere PropertyUnit.branchId branchId S.units S'.units
  reservations : SameElsewhere PropertyReservation.branchId branchId S.reservations S'.reservations
  ledger : S.hotel.ledger.KeepsRest branchId S'.hotel.ledger

variable {branchId : ℕ} {S : RecordStore}

theorem KeepsRest.refl (branchId : ℕ) (S : RecordStore) : S.KeepsRest branchId S :=
  ⟨.refl _, .refl _, .refl _, .refl _, .refl _, .refl _, .refl branchId _⟩

theorem keepsRest_hotel {H : HotelStore} (h : S.hotel.KeepsRest branchId H) :
    S.KeepsRest branchId (hotelLens.set S H) :=
  ⟨h.folios, h.charges, .refl _, .refl _, .refl _, .refl _, h.ledger⟩

theorem keepsRest_rental {R : PropertyRentalStore} (h : (rentalLens.get S).KeepsRest branchId R) :
    S.KeepsRest branchId (rentalLens.set S R) :=
  ⟨.refl _, .refl _, h.bookings, h.charges, .refl _, .refl _, h.journal⟩

theorem keepsRest_units {I : PropertyInventoryStore} (h : (unitLens.get S).KeepsRest branchId I) :
    S.KeepsRest branchId (unitLens.set S I) :=
  ⟨.refl _, .refl _, .refl _, .refl _, h.units, h.reservations, .refl branchId _⟩

end RecordStore

/-- **A request keeps to a branch**: no record of another branch is returned, and none is changed. -/
structure KeepsToBranch (branchId : ℕ) (S : RecordStore)
    (outcome : Except HttpException (List BranchRecord) × RecordStore) : Prop where
  returned : ∀ records, outcome.1 = .ok records → ∀ record ∈ records, record.branchId = branchId
  changed : S.KeepsRest branchId outcome.2

/-! ### What the operations find -/

namespace RecordOperation

open PosSync (trimmed)
open PropertyRentalBookings (paymentRows normalizePaymentRows)
open PropertyRentalInventory (unitByCode invalidDates)

def TakesPayment (env : PropertyRentalRuntime) (booking : PropertyRentalBooking)
    (dto : RecordPropertyPaymentDto) : Prop :=
  (trimmed dto.idempotencyKey ≠ none ∧ ∃ p ∈ booking.payments.getD [], p.idempotencyKey = trimmed dto.idempotencyKey) ∨
    0 < (normalizePaymentRows env (paymentRows dto) booking.currency dto.checkoutId (trimmed dto.idempotencyKey)
      (dto.paidAt.getD env.now)).2

/-- **The row that the operation finds is of the branch**, whether by its id or by the key of the client, unless the
operation is refused for it. -/
def LoadsOwn (env : RecordRuntime) (S : RecordStore) (branchId : ℕ) : RecordOperation → Prop
  | openFolio dto => ∀ key found, trimmed dto.idempotencyKey = some key →
      S.hotel.folios.first (fun row => row.idempotencyKey = some key) = some found → found.2.branchId = branchId
  | postFolioCharge folioId dto => ∀ folio, S.hotel.folios.find folioId = some folio → folio.status = .opened →
      (((trimmed dto.idempotencyKey).bind (S.hotel.chargeByKey folioId)).elim folio.branchId fun found =>
        found.2.branchId) = branchId
  | settleFolio folioId _ => ∀ folio, S.hotel.folios.find folioId = some folio → folio.status ≠ .voided →
      folio.branchId = branchId
  | voidFolio folioId _ => ∀ folio, S.hotel.folios.find folioId = some folio → folio.status ≠ .settled →
      folio.branchId = branchId
  | transferFolioRoom folioId _ => ∀ folio, S.hotel.folios.find folioId = some folio → folio.status = .opened →
      folio.branchId = branchId
  | getBooking bookingId => ∀ booking, S.bookings.find bookingId = some booking → booking.branchId = branchId ∧
      ∀ id charge, S.bookingCharges.find id = some charge → charge.bookingId = bookingId → charge.branchId = branchId
  | openBooking dto => ∀ key found, trimmed dto.idempotencyKey = some key →
      S.bookings.first (fun row => row.idempotencyKey = some key) = some found → found.2.branchId = branchId
  | postCharge bookingId dto => ∀ booking, S.bookings.find bookingId = some booking → booking.status = .opened →
      (((trimmed dto.idempotencyKey).bind fun key => S.bookingCharges.first fun charge =>
        charge.bookingId = bookingId ∧ charge.idempotencyKey = some key).elim booking.branchId fun found =>
        found.2.branchId) = branchId
  | recordPayment bookingId dto => ∀ booking, S.bookings.find bookingId = some booking →
      booking.status = .opened ∧ TakesPayment env.rental booking dto → booking.branchId = branchId
  | settleBooking bookingId _ => ∀ booking, S.bookings.find bookingId = some booking → booking.status ≠ .voided →
      booking.branchId = branchId
  | voidBooking bookingId _ => ∀ booking, S.bookings.find bookingId = some booking → booking.status ≠ .settled →
      booking.branchId = branchId
  | transferUnit bookingId _ => ∀ booking, S.bookings.find bookingId = some booking → booking.status = .opened →
      booking.branchId = branchId
  | updateUnit unitId _ => ∀ unit, S.units.find unitId = some unit → unit.branchId = branchId
  | updateReservation reservationId dto => ∀ reservation, S.reservations.find reservationId = some reservation →
      invalidDates env.inventory dto = false → reservation.branchId = branchId
  | _ => True

/-- The operation neither finds a row of the branch that it is told, nor makes one. -/
def Idle (env : RecordRuntime) (S : RecordStore) (actorId : Option ℕ) : RecordOperation → Prop
  | listFolios query => ∀ id folio, S.hotel.folios.find id = some folio → folio.branchId = query.branchId →
      (query.wanted env.hotel.toUpperCase HotelFolios.statusOfText).all (folio.status = ·) = false
  | openFolio dto =>
      (S.hotel.folios.first fun row =>
        row.idempotencyKey = (HotelFolios.newFolio env.hotel dto actorId).idempotencyKey).isSome ∨
      HotelFolios.invalidDate env.hotel dto.checkInAt ∨ HotelFolios.invalidDate env.hotel dto.checkOutAt
  | listBookings query => ∀ id booking, S.bookings.find id = some booking → booking.branchId = query.branchId →
      (query.wanted env.rental.toUpperCase statusOfText).all (booking.status = ·) = false
  | openBooking dto =>
      (S.bookings.first fun row =>
        row.idempotencyKey = (newBooking env.rental dto actorId).idempotencyKey).isSome ∨
      invalidDate env.rental dto.leaseStartAt ∨ invalidDate env.rental dto.leaseEndAt
  | listUnits query => ∀ id unit, S.units.find id = some unit → unit.branchId = query.branchId →
      (query.wanted env.inventory.toUpperCase unitStatusOfText).all (unit.status = ·) = false
  | createUnit dto => (unitByCode (RecordStore.unitLens.get S) dto.branchId (trim dto.propertyCode)).isSome
  | listReservations query => ∀ id reservation, S.reservations.find id = some reservation →
      reservation.branchId = query.branchId →
      (query.wanted env.inventory.toUpperCase reservationStatusOfText).all (reservation.status = ·) = false
  | createReservation dto => invalidDate env.inventory dto.leaseStartAt ∨
      invalidDate env.inventory dto.leaseEndAt
  | _ => True

def ReachesOnly (env : RecordRuntime) (S : RecordStore) (actorId : Option ℕ) (branchId : ℕ) (op : RecordOperation) :
    Prop :=
  op.LoadsOwn env S branchId ∧ ∀ named ∈ op.namedBranch, named = branchId ∨ op.Idle env S actorId

variable {actorId : Option ℕ} {op : RecordOperation} {branchId : ℕ} {S : RecordStore} {env : RecordRuntime}

theorem reachesOnly_iff_of_none (h : op.namedBranch = none) :
    op.ReachesOnly env S actorId branchId ↔ op.LoadsOwn env S branchId := by
  unfold ReachesOnly
  rw [h]
  exact and_iff_left fun named hnamed => (by cases hnamed)

theorem reachesOnly_iff_of_some {named : ℕ} (h : op.namedBranch = some named) : op.ReachesOnly env S actorId branchId ↔
      op.LoadsOwn env S branchId ∧ (named = branchId ∨ op.Idle env S actorId) := by
  unfold ReachesOnly
  simp only [h, Option.mem_some_iff, forall_eq']

end RecordOperation

/-! ### The outcome of an operation -/

section Outcomes

variable {σ α : Type} {L : Lens RecordStore σ} {p : Proc σ HttpException α} {k : α → RecordProc (List BranchRecord)}
  {branchId : ℕ} {S S' : RecordStore} {t : σ} {a : α} {records : List BranchRecord} {record : BranchRecord}

theorem keepsToBranch_of_error {e : HttpException} (h : p.run (L.get S) = (.error e, L.get S)) :
    KeepsToBranch branchId S ((zoom L p >>= k).run S) := by
  have hrun : (zoom L p >>= k).run S = (.error e, S) := by
    rw [run_bind_of_error (run_zoom_of h), L.set_get]
  rw [hrun]
  exact ⟨fun records hrecords => (by cases hrecords), .refl branchId S⟩

theorem keepsToBranch_iff_of_ok (h : p.run (L.get S) = (.ok a, t)) (hk : k a = pure records)
    (hkeeps : (∀ record ∈ records, record.branchId = branchId) → S.KeepsRest branchId (L.set S t)) :
    KeepsToBranch branchId S ((zoom L p >>= k).run S) ↔ ∀ record ∈ records, record.branchId = branchId := by
  have hrun : (zoom L p >>= k).run S = (.ok records, L.set S t) := by
    rw [run_bind_of_ok (run_zoom_of h), hk, run_pure]
  rw [hrun]
  exact ⟨fun hkeeps => hkeeps.returned records rfl,
    fun hown => ⟨fun found hfound => Except.ok.inj hfound ▸ hown, hkeeps hown⟩⟩

theorem keepsToBranch_iff_of_row (h : p.run (L.get S) = (.ok a, t)) (hk : k a = pure [record])
    (hkeeps : record.branchId = branchId → S.KeepsRest branchId (L.set S t)) :
    KeepsToBranch branchId S ((zoom L p >>= k).run S) ↔ record.branchId = branchId := by
  rw [keepsToBranch_iff_of_ok h hk fun hown => hkeeps (hown record List.mem_cons_self)]
  exact List.forall_mem_singleton

variable {ν : Type}

variable {branchOf : ν → ℕ} {row : ℕ × ν → BranchRecord} {named : ℕ}

theorem keepsToBranch_iff_of_found {found : Option ν} {allowed : ν → Prop}
    (hok : ∀ v, found = some v → allowed v → ∃ a t record, p.run (L.get S) = (.ok a, t) ∧ k a = pure [record] ∧
      record.branchId = branchOf v ∧ S.KeepsRest (branchOf v) (L.set S t))
    (hrefused : (∀ v, found = some v → ¬ allowed v) → ∃ e, p.run (L.get S) = (.error e, L.get S)) :
    KeepsToBranch branchId S ((zoom L p >>= k).run S) ↔ ∀ v, found = some v → allowed v → branchOf v = branchId := by
  by_cases hfound : ∃ v, found = some v ∧ allowed v
  · obtain ⟨v, hv, hallowed⟩ := hfound
    obtain ⟨a, t, record, hrun, hk, hrecord, hkeeps⟩ := hok v hv hallowed
    rw [keepsToBranch_iff_of_row hrun hk fun hown => by rwa [← hown, hrecord], hrecord]
    constructor
    · intro hown w hw _
      obtain rfl := Option.mem_unique hv hw
      exact hown
    · exact fun h => h v hv hallowed
  · have hnone : ∀ v, found = some v → ¬ allowed v := fun v hv hallowed => hfound ⟨v, hv, hallowed⟩
    obtain ⟨e, hrun⟩ := hrefused hnone
    exact iff_of_true (keepsToBranch_of_error hrun) fun v hv hallowed => absurd hallowed (hnone v hv)

theorem keepsToBranch_iff_of_read (h : p.run (L.get S) = (.ok a, L.get S)) (hk : k a = pure records) :
    KeepsToBranch branchId S ((zoom L p >>= k).run S) ↔ ∀ record ∈ records, record.branchId = branchId := by
  refine keepsToBranch_iff_of_ok h hk fun _ => ?_
  rw [L.set_get]
  exact .refl branchId S

theorem keepsToBranch_list_iff {rows : List (ℕ × ν)} {p : Proc σ HttpException (List (ℕ × ν))} {k : List (ℕ × ν) → RecordProc (List BranchRecord)}
    (h : p.run (L.get S) = (.ok rows, L.get S)) (hk : k rows = pure (rows.map row))
    (hrow : ∀ found ∈ rows, (row found).branchId = named) :
    KeepsToBranch branchId S ((zoom L p >>= k).run S) ↔ named = branchId ∨ rows = [] := by
  rw [keepsToBranch_iff_of_read h hk]
  constructor
  · intro hown
    rcases rows with _ | ⟨found, rows⟩
    · exact .inr rfl
    · have hmem : row found ∈ (found :: rows).map row := List.mem_map_of_mem List.mem_cons_self
      exact .inl ((hrow found List.mem_cons_self).symm.trans (hown _ hmem))
  · rintro (rfl | rfl) record hrecord
    · obtain ⟨found, hfound, rfl⟩ := List.mem_map.mp hrecord
      exact hrow found hfound
    · cases hrecord

theorem keepsToBranch_page_iff {t : σ → SerialTable ν} {wanted : ν → Bool}
    {r : ℕ × ν → ℕ × ν → Prop} [DecidableRel r] {limit : ℕ} (hlimit : 0 < limit)
    (hrow : ∀ found, (row found).branchId = branchOf found.2) {p : Proc σ HttpException (List (ℕ × ν))}
    (hp : p = Proc.read fun s =>
      (((t s).list fun v => branchOf v = named && wanted v).insertionSort r).take limit)
    {k : List (ℕ × ν) → RecordProc (List BranchRecord)} (hk : ∀ rows, k rows = pure (rows.map row)) :
    KeepsToBranch branchId S ((zoom L p >>= k).run S) ↔
      named = branchId ∨ ∀ id v, (t (L.get S)).find id = some v → branchOf v = named → wanted v = false := by
  subst hp
  have hmem (found : ℕ × ν) : found ∈ (t (L.get S)).list (fun v => branchOf v = named && wanted v) ↔
      (t (L.get S)).find found.1 = some found.2 ∧ branchOf found.2 = named ∧ wanted found.2 = true := by
    rw [SerialTable.mem_list_iff, Bool.and_eq_true, decide_eq_true_eq]
  rw [keepsToBranch_list_iff (run_read _ _) (hk _) fun found hfound => ?_]
  · refine or_congr Iff.rfl ?_
    rw [List.take_eq_nil_iff, or_iff_right hlimit.ne', ← List.length_eq_zero_iff, List.length_insertionSort,
      List.length_eq_zero_iff, List.eq_nil_iff_forall_not_mem]
    constructor
    · intro hnone id v hfind hbranch
      have hnot := hnone (id, v)
      rw [hmem] at hnot
      exact Bool.eq_false_iff.mpr fun hwanted => hnot ⟨hfind, hbranch, hwanted⟩
    · intro hnone found hfound
      obtain ⟨hfind, hbranch, hwanted⟩ := (hmem found).mp hfound
      rw [hnone found.1 found.2 hfind hbranch] at hwanted
      cases hwanted
  · have hlist := (List.mem_insertionSort r).mp (List.mem_of_mem_take hfound)
    obtain ⟨-, hbranch, -⟩ := (hmem found).mp hlist
    exact (hrow found).trans hbranch

end Outcomes

end SuuqBackend
