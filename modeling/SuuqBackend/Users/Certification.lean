import SuuqBackend.Wallet.Wallets

/-!
# The certification of vendors

The columns of `user` that say whether a vendor is certified, and the operations of `UsersService` that write them.  The
mails and notifications to users are caught where they fail, and left out.
-/

namespace SuuqBackend

inductive VerificationStatus where
  | unverified
  | pending
  | approved
  | rejected
  | suspended
deriving DecidableEq

inductive VerificationMethod where
  | automatic
  | manual
  | none
deriving DecidableEq

inductive SubscriptionRequestStatus where
  | pending
  | approved
  | rejected
deriving DecidableEq

/-- The columns of `user` for the verification and the subscription. -/
structure VerifiedUser where
  subscriptionTier : SubscriptionTier := .free
  subscriptionExpiry : Option ℤ := none
  verificationStatus : VerificationStatus := .unverified
  verificationMethod : VerificationMethod := .none
  /-- The name and the address of each document. -/
  verificationDocuments : Option (List (String × String)) := some []
  businessLicenseInfo : Option String := none
  verified : Bool := false
  verifiedAt : Option ℤ := none
  verificationRejectionReason : Option String := none
  verificationReviewedBy : Option String := none
  verificationReviewedAt : Option ℤ := none
  updatedBy : Option String := none

def VerifiedUser.isCertifiedVendor (user : VerifiedUser) : Bool :=
  user.verified || user.verificationStatus = .approved

structure SubscriptionRequest where
  userId : ℕ
  requestedTier : SubscriptionTier
  status : SubscriptionRequestStatus := .pending

structure RequestVerificationDto where
  documents : List (String × String)
  businessLicenseInfo : Option String := none

/-- `UpdateUserDto` of the administrators, where it gives a `verificationStatus`; its other columns are left out. -/
structure UpdateUserDto where
  verificationStatus : VerificationStatus
  verificationDocuments : Option (List (String × String)) := none
  verified : Option Bool := none

structure CertificationStore where
  users : SerialTable VerifiedUser
  requests : SerialTable SubscriptionRequest

abbrev CertificationProc : Type → Type := Proc CertificationStore HttpException

namespace Certification

variable (id : ℕ) (now : ℤ) (userId : ℕ)

def findById : CertificationProc VerifiedUser := do
  let some user ← Proc.read fun S : CertificationStore => S.users.find id | throw (.notFound "User not found")
  return user

/-- `userRepository.save` of a row that was loaded. -/
def saveUser (user : VerifiedUser) : CertificationProc Unit :=
  Proc.write fun S => { S with users := S.users.set id user }

/-- The row as `updateVerifiedFlag` leaves it. -/
def updateVerifiedFlag (user : VerifiedUser) : VerifiedUser :=
  if user.verificationStatus = .approved then
    { user with verified := true, subscriptionTier := .pro, verifiedAt := some (user.verifiedAt.getD now) }
  else { user with verified := false, subscriptionTier := .free }

/-- The row that `requestVerification` saves. -/
def requested (dto : RequestVerificationDto) (user : VerifiedUser) : VerifiedUser :=
  { user with
    verificationDocuments := some dto.documents
    businessLicenseInfo := dto.businessLicenseInfo.or user.businessLicenseInfo
    verificationStatus := .pending
    verificationMethod := .manual }

def requestVerification (dto : RequestVerificationDto) : CertificationProc Unit := do
  let user ← findById userId
  saveUser userId (requested dto user)

/-- The row after the columns of an update. -/
def updated (data : UpdateUserDto) (user : VerifiedUser) : VerifiedUser :=
  { user with
    verificationStatus := data.verificationStatus
    verificationDocuments := data.verificationDocuments.or user.verificationDocuments
    verified := if data.verificationStatus = .approved then true else data.verified.getD user.verified }

def update (data : UpdateUserDto) : CertificationProc Unit := do
  let some user ← Proc.read fun S : CertificationStore => S.users.find id
    | throw (.notFound s!"User with ID \"{id}\" not found")
  saveUser id (updated data user)

/-- The row that `setVerificationStatus` saves. -/
def reviewed (status : VerificationStatus) (actedBy reason : Option String) (user : VerifiedUser) : VerifiedUser :=
  { updateVerifiedFlag now
      { user with
        verificationStatus := status
        verificationRejectionReason :=
          if status = .approved then none
          else if status = .rejected then reason.filter (· ≠ "")
          else user.verificationRejectionReason } with
    verificationReviewedBy := actedBy.filter (· ≠ "")
    verificationReviewedAt := some now
    updatedBy := actedBy.or user.updatedBy }

def setVerificationStatus (status : VerificationStatus) (actedBy reason : Option String) : CertificationProc Unit := do
  let user ← findById userId
  saveUser userId (reviewed now status actedBy reason user)

/-- `approveSubscription`: without its user, the request is saved before the error. -/
def approveSubscription (requestId : ℕ) : CertificationProc Unit := do
  let some request ← Proc.read fun S : CertificationStore => S.requests.find requestId
    | throw (.notFound "Subscription request not found")
  .throwIf (request.status ≠ .pending) (.badRequest "Request is not pending")
  Proc.write fun S => { S with requests := S.requests.set requestId { request with status := .approved } }
  let some user ← Proc.read fun S : CertificationStore => S.users.find request.userId
    | throw (.internal "Cannot set properties of null (setting 'subscriptionTier')")
  saveUser request.userId (updateVerifiedFlag now { user with subscriptionTier := request.requestedTier })

/-- The row that `extendSubscription` saves, on a server in UTC. -/
def extended (days : ℤ) (user : VerifiedUser) : VerifiedUser :=
  let currentExpiry := (user.subscriptionExpiry.filter (· > now)).getD now
  { user with subscriptionExpiry := some (currentExpiry + days * 86400000), subscriptionTier := .pro }

/-- `extendSubscription`; `credited` is how `creditWallet`, which writes no user, ends. -/
def extendSubscription (days : ℤ) (credited : Except HttpException Unit) : CertificationProc Unit := do
  let user ← findById userId
  saveUser userId (extended now days user)
  .ofExcept credited

end Certification

end SuuqBackend
