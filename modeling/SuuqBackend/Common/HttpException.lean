import Mathlib.Data.Nat.Notation

/-!
# The exceptions of the services

The services refuse a request with a `BadRequestException`, a `NotFoundException`, a
`ForbiddenException` or a `ConflictException`, each with its message; the database refuses a statement
with a `QueryFailedError`.  A plain `Error` that nobody catches is an internal error of the server.
-/

namespace SuuqBackend

/-- An exception that a service raises or lets through. -/
inductive HttpException where
  | badRequest (message : String)
  | notFound (message : String)
  | forbidden (message : String)
  | conflict (message : String)
  | queryFailed (message : String)
  | internal (message : String)
deriving DecidableEq

/-- `error.message`. -/
def HttpException.message : HttpException → String
  | .badRequest m | .notFound m | .forbidden m | .conflict m | .queryFailed m | .internal m => m

namespace HttpException

/-- The branch of a request is unknown. -/
def branchNotFound (branchId : ℕ) : HttpException :=
  .notFound s!"Branch with ID {branchId} not found"

/-- The product of a request is unknown. -/
def productNotFound (productId : ℕ) : HttpException :=
  .notFound s!"Product with ID {productId} not found"

/-- A request for a missing row, as opposed to one that the state of a row refuses. -/
def IsNotFound : HttpException → Prop
  | .notFound _ => True
  | _ => False

end HttpException

end SuuqBackend
