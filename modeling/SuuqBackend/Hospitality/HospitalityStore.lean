import SuuqBackend.Common.Numeric
import SuuqBackend.PosSync.ProductAliases

/-!
# The tables of the hospitality workflows

`pos_hospitality_bill_interventions`, `pos_hospitality_table_board` and `pos_hospitality_idempotency_keys`
under the columns of their unique constraints: the branch with the bill, with the table and with the key.

The status of a bill is kept twice: in the row of its intervention, and in the list `activeBills` of the table
that the bill is at.

`toUpperCase` is the one of the runtime, which leaves a text of capital letters as it is, and `now` is the time of
the call.
-/

namespace SuuqBackend

/-- What a call takes from the runtime. -/
structure HospitalityRuntime where
  toUpperCase : String → String
  capitals : ∀ text : String, (∀ c ∈ text.toList, c.isUpper) → toUpperCase text = text

structure ActorSummary where
  id : Option ℕ := none
  email : Option String := none

structure HospitalityBillIntervention where
  interventionId : String
  billId : String
  billLabel : String
  tableId : Option String
  tableLabel : Option String
  receiptId : Option String
  receiptNumber : Option String
  actionType : String
  lifecycleStatus : String
  serviceOwner : Option String
  itemCount : ℕ
  total : ℚ
  currency : String
  reason : Option String
  priority : String
  actorUserId : Option ℕ
  actorDisplayName : Option String
  version : ℕ
  createdAt : ℤ
  updatedAt : ℤ

/-- An element of `activeBills`. -/
structure ActiveBill where
  billId : String
  billLabel : String
  status : String
  itemCount : ℕ
  grandTotal : ℚ
  currency : String

inductive PosTableStatus where
  | opened
  | seated
  | ordering
  | coursed
  | checkDropped
  | closed
deriving DecidableEq

structure HospitalityTableBoard where
  tableLabel : String
  areaCode : String
  status : PosTableStatus
  seatCount : ℕ
  ownerUserId : Option ℕ
  ownerReference : Option String
  ownerDisplayName : Option String
  activeGuestCount : ℤ
  activeBills : List ActiveBill
  version : ℕ
  updatedAt : ℤ

structure UpdateTableStatusDto where
  nextStatus : PosTableStatus
  tableLabel : Option String := none
  areaCode : Option String := none
  guestCount : Option ℤ := none
  ownerReference : Option String := none
  ownerLabel : Option String := none
  idempotencyKey : String

structure AssignTableOwnerDto where
  ownerUserId : Option ℕ := none
  ownerReference : Option String := none
  ownerLabel : Option String := none
  tableLabel : Option String := none
  areaCode : Option String := none
  idempotencyKey : String

/-- `HospitalityBillContextDto`, with what all its extensions add. -/
structure HospitalityBillContextDto where
  receiptId : Option String := none
  receiptNumber : Option String := none
  tableId : Option String := none
  tableLabel : Option String := none
  billLabel : Option String := none
  serviceOwner : Option String := none
  itemCount : Option ℕ := none
  total : Option ℚ := none
  currency : Option String := none
  reason : Option String := none
  idempotencyKey : String

structure SplitOpenBillDto extends HospitalityBillContextDto where
  lineIds : List String
  targetBillLabel : Option String := none

/-- `ReopenSettledBillDto` and `VoidSettledBillDto`. -/
structure ConfirmedBillDto extends HospitalityBillContextDto where
  confirmed : Bool

/-- A bill in the response of a split. -/
structure BillSummary where
  billId : String
  billLabel : String
  itemCount : ℕ
  grandTotal : ℚ
  currency : String

inductive HospitalityResponse where
  | split (sourceBill targetBill : BillSummary) (intervention : HospitalityBillIntervention)
    (actor : ActorSummary)
  | bill (lifecycleStatus receiptLifecycleStatus : String) (intervention : HospitalityBillIntervention)
    (actor : ActorSummary)
  | table (tableId : String) (table : HospitalityTableBoard) (actor : ActorSummary)

/-- The tables of the hospitality workflows. -/
structure HospitalityStore where
  billInterventions : Table (ℕ × String) HospitalityBillIntervention
  tableBoards : Table (ℕ × String) HospitalityTableBoard
  idempotencyKeys : Table (ℕ × String) HospitalityResponse

abbrev HospitalityProc : Type → Type := Proc HospitalityStore HttpException

end SuuqBackend
