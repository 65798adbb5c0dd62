import SuuqBackend.Common.HttpException
import SuuqBackend.Lib.Table

/-!
# The roles of users
-/

namespace SuuqBackend

inductive UserRole where
  | superAdmin
  | admin
  | licenseReviewer
  | vendor
  | customer
  | guest
  | deliverer
  | posManager
  | posOperator
  | b2bBuyer
  | supplierAccount
  | supplierManager
  | supplierOperator
deriving DecidableEq

/-!
## Users

The rows of `user`.  A removed user keeps its row with a `deletedAt`, and the queries of a repository do not see it
unless they ask `withDeleted`.
-/

/-- A row of `user`. -/
structure UserAccount where
  email : String
  firebaseUid : Option String := none
  password : Option String := none
  roles : List UserRole
  displayName : Option String := none
  avatarUrl : Option String := none
  storeName : Option String := none
  language : String := "en"
  registrationCountry : Option String := none
  businessLicenseNumber : Option String := none
  googleId : Option String := none
  appleId : Option String := none
  posUsername : Option String := none
  authMode : Option String := none
  isActive : Bool := true
  passwordResetToken : Option String := none
  passwordResetExpires : Option ℤ := none
  deletedAt : Option ℤ := none
  deletedBy : Option String := none

/-- The rows of `user`. -/
abbrev UserTable : Type := SerialTable UserAccount

namespace UserTable

/-- `findOne({ where: { id } })`. -/
def findLive (users : UserTable) (id : ℕ) : Option UserAccount := (users.find id).filter fun row => row.deletedAt = none

/-- `findOne`, without the rows that are removed. -/
def firstLive (users : UserTable) (p : UserAccount → Bool) : Option (ℕ × UserAccount) :=
  users.first fun row => row.deletedAt = none && p row

theorem findLive_eq_some_iff {users : UserTable} {id : ℕ} {user : UserAccount} :
    users.findLive id = some user ↔ users.find id = some user ∧ user.deletedAt = none := by
  unfold findLive
  rw [Option.filter_eq_some_iff, decide_eq_true_iff]

end UserTable

/-- How the services of users and sessions refuse a request; some name a code. -/
inductive AuthFailure where
  | unauthorized (code : Option String) (message : String)
  | refused (code : Option String) (exception : HttpException)
deriving DecidableEq

namespace AuthFailure

def forbidden (message : String) : AuthFailure := .refused none (.forbidden message)

def badRequest (message : String) : AuthFailure := .refused none (.badRequest message)

def notFound (message : String) : AuthFailure := .refused none (.notFound message)

def conflict (message : String) : AuthFailure := .refused none (.conflict message)

end AuthFailure

end SuuqBackend
