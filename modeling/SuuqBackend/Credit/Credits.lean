import SuuqBackend.Common.HttpException
import SuuqBackend.Common.Numeric
import SuuqBackend.Lib.Proc
import SuuqBackend.Lib.Table

/-!
# Credit limits

`CreditService`: a user may buy on credit up to a limit and repays what was used.  Every use and every repayment saves
the limit with its new usage, and then a transaction.

A user has at most one limit: the column `userId` of `credit_limit` is unique.  The `createdAt` of a limit is given
here by the id that the next transaction had at that time.  `numberText` is `String` of a number.
-/

namespace SuuqBackend

inductive CreditTransactionType where
  | usage
  | repayment
  | adjustment
deriving DecidableEq

structure CreditLimit where
  maxLimit : Numeric2 := ⟨0⟩
  currentUsage : Numeric2 := ⟨0⟩
  currency : String := "ETB"
  isEligible : Bool := false
  isActive : Bool := true
  createdAt : ℕ
deriving DecidableEq

structure CreditTransaction where
  userId : ℕ
  type : CreditTransactionType
  amount : Numeric2
  referenceId : Option String := none
  description : Option String := none

structure CreditStore where
  limits : Table ℕ CreditLimit
  transactions : SerialTable CreditTransaction

abbrev CreditProc : Type → Type := Proc CreditStore HttpException

namespace Credits

section Calls

variable (userId : ℕ)

/-- `findOne` of the limit of the user. -/
def findLimit : CreditProc (Option CreditLimit) := Proc.read fun s => s.limits.lookup userId

/-- `save` of the limit of the user. -/
def saveLimit (limit : CreditLimit) : CreditProc Unit :=
  Proc.write fun s => { s with limits := s.limits.insert userId limit }

/-- `save` of a new limit. -/
def insertLimit (limit : CreditLimit) : CreditProc Unit :=
  Proc.write fun s => { s with limits := s.limits.insert userId { limit with createdAt := s.transactions.next } }

/-- `save` of a new transaction. -/
def insertTransaction (tx : CreditTransaction) : CreditProc CreditTransaction :=
  .step (fun s => { s with transactions := s.transactions.add tx }) fun _ => pure tx

def applyForCredit : CreditProc Unit := do
  match ← findLimit userId with
  | some _ => return
  | none => insertLimit userId { maxLimit := ⟨500000⟩, isEligible := true, createdAt := 0 }

/-- The limit as `useCredit` saves it. -/
def usedLimit (amount : ℚ) (found : Option CreditLimit) : Except HttpException CreditLimit :=
  match found.filter fun limit => limit.isActive ∧ limit.isEligible with
  | none => .error (.badRequest "User not eligible for credit")
  | some limit =>
    let available := limit.maxLimit.value - limit.currentUsage.value
    if amount > available then .error (.badRequest "Insufficient credit limit")
    else .ok { limit with currentUsage := Numeric2.ofRat (limit.currentUsage.value + amount) }

/-- The transaction of `useCredit`. -/
def usageTransaction (amount : ℚ) (referenceId : String) : CreditTransaction where
  userId
  type := .usage
  amount := Numeric2.ofRat amount
  referenceId := some referenceId
  description := some s!"Used credit for order {referenceId}"

def useCredit (amount : ℚ) (referenceId : String) : CreditProc CreditTransaction := do
  let limit ← Proc.ofExcept (usedLimit amount (← findLimit userId))
  saveLimit userId limit
  insertTransaction (usageTransaction userId amount referenceId)

/-- The part of `setLimit` that writes. -/
def writeLimit (maxLimit : ℚ) : CreditProc Unit := do
  match ← findLimit userId with
  | none => insertLimit userId { maxLimit := Numeric2.ofRat maxLimit, isEligible := true, createdAt := 0 }
  | some limit => saveLimit userId { limit with maxLimit := Numeric2.ofRat maxLimit }

def setLimit (maxLimit : ℚ) : CreditProc (Option CreditLimit) := do
  writeLimit userId maxLimit
  findLimit userId

/-- The limit as `repayCredit` saves it. -/
def repaidLimit (numberText : ℚ → String) (amount : ℚ) (found : Option CreditLimit) :
    Except HttpException CreditLimit :=
  match found with
  | none => .error (.notFound "Credit limit not found for user")
  | some limit =>
    let currentUsage := limit.currentUsage.value
    if amount > currentUsage then
      .error (.badRequest s!"Repayment amount {numberText amount} exceeds current usage {numberText currentUsage}")
    else .ok { limit with currentUsage := Numeric2.ofRat (currentUsage - amount) }

/-- The transaction of `repayCredit`. -/
def repaymentTransaction (amount : ℚ) (notes : Option String) : CreditTransaction where
  userId
  type := .repayment
  amount := Numeric2.ofRat amount
  description := some ((notes.filter (· ≠ "")).getD "Manual repayment via Admin")

def repayCredit (numberText : ℚ → String) (amount : ℚ) (notes : Option String) : CreditProc CreditTransaction := do
  let limit ← Proc.ofExcept (repaidLimit numberText amount (← findLimit userId))
  saveLimit userId limit
  insertTransaction (repaymentTransaction userId amount notes)

def deleteCreditLimit : CreditProc Unit := do
  let some limit ← findLimit userId
    | throw (.notFound "Credit limit not found for user")
  .throwIf (limit.currentUsage.value > 0) (.badRequest
    "Cannot delete credit limit while user has outstanding usage. Please repay first.")
  Proc.write fun s => { s with limits := s.limits.erase userId }

end Calls

end Credits

end SuuqBackend
