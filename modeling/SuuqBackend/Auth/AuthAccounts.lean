import Mathlib.Data.List.Sort
import SuuqBackend.Auth.AuthTokens
import SuuqBackend.Users.Users

/-!
# Accounts and passwords

`AuthService` on the users: `register`, the credentials of a login, and how a password is changed or reset.  Emails that
nobody waits for are left out; `forgotPassword` returns the one that it sends, and `resetPassword` the user that it is
for.
-/

namespace SuuqBackend

/-- `RegisterDto`, with what its validation asks of the password. -/
structure RegisterDto where
  email : String
  password : String
  firebaseUid : Option String := none
  displayName : Option String := none
  avatarUrl : Option String := none
  storeName : Option String := none
  language : Option String := none
  country : Option String := none
  businessLicenseNumber : Option String := none
  password_length : 6 ≤ password.length

/-- The email of `sendPasswordResetEmail`. -/
structure ResetMail where
  userId : ℕ
  email : String
  resetToken : String

namespace AuthService

open UsersService

def normalizeCountryIso2 (toLowerCase toUpperCase : String → String) (country : String) : Option String :=
  let c := trim country
  if c = "" then none
  else if c.length = 2 then some (toUpperCase c)
  else some (match toLowerCase c with
    | "ethiopia" => "ET"
    | "kenya" => "KE"
    | "somalia" => "SO"
    | "djibouti" => "DJ"
    | "united states" | "usa" => "US"
    | _ => toUpperCase (String.ofList (c.toList.take 2)))

variable (env : UserRuntime)

def domainList (csv : String) : List String :=
  ((Texts.split csv ',').map env.normalize).filter (· ≠ "")

/-- The part of an address after the first `@`. -/
def emailDomain (email : String) : Option String :=
  ((Texts.split email '@')[1]?.map env.toLowerCase).filter (· ≠ "")

/-- The lists of the configuration keep the address out. -/
def signupRefused (email : String) : Bool :=
  (emailDomain env email).any fun domain =>
    (env.signupBlocklistDomains.filter (· ≠ "")).any (fun csv => domain ∈ domainList env csv) ||
      (env.signupAllowlistDomains.filter (· ≠ "")).any fun csv => domain ∉ domainList env csv

/-- `userToCreateData`; `uuid` is that of the call. -/
def userToCreateData (toUpperCase : String → String) (uuid : String) (dto : RegisterDto) : UserPatch where
  firebaseUid := some ((dto.firebaseUid.filter (· ≠ "")).getD ("local_" ++ uuid))
  password := some dto.password
  displayName := dto.displayName
  avatarUrl := dto.avatarUrl
  storeName := dto.storeName
  language := dto.language
  roles := some [.customer]
  registrationCountry :=
    (dto.country.filter (· ≠ "")).bind (normalizeCountryIso2 env.toLowerCase toUpperCase)
  businessLicenseNumber := dto.businessLicenseNumber

def register (toUpperCase : String → String) (uuid salt : String) (dto : RegisterDto) : UserProc (ℕ × UserAccount) := do
  let existingUser ← findByEmail dto.email
  .throwIf existingUser.isSome (.conflict "Email already in use")
  .throwIf (signupRefused env dto.email) (.badRequest "Registrations from this email domain are not allowed.")
  create env salt dto.email (userToCreateData env toUpperCase uuid dto)

def invalidCredentials : AuthFailure := .unauthorized (some "INVALID_CREDENTIALS") "Invalid credentials"

def userDeactivated : AuthFailure := .unauthorized (some "USER_DEACTIVATED") "User account is deactivated."

/-- `login`, until the credentials are checked. -/
def checkCredentials (email password : String) : UserProc (ℕ × UserAccount) := do
  let some (id, user) ← findByEmail email
    | throw invalidCredentials
  match user.password.filter (· ≠ "") with
  | none => throw invalidCredentials
  | some stored =>
    .throwIf (user.isActive = false) userDeactivated
    .throwIf (env.passwords.verify password stored = false) invalidCredentials
    return (id, user)

def changePassword (salt : String) (userId : ℕ) (current : Option String) (next : String) : UserProc Unit := do
  let user ← findById userId
  checkCurrentPassword env user current (.badRequest "Current password is required")
    (.unauthorized none "Current password is incorrect")
  UsersService.changePassword env salt userId current next

/-- `forgotPassword`, with the random token of the call; the email that is sent. -/
def forgotPassword (now : ℤ) (email resetToken : String) : UserProc (Option ResetMail) := do
  match ← findByEmail email with
  | none => return none
  | some (id, user) =>
    let _ ← update id [.passwordResetToken (some (env.sha256 resetToken)), .passwordResetExpires (some (now + 3600000))]
    return some ⟨id, user.email, resetToken⟩

/-- `resetPassword`: the user whose token it is. -/
def resetPassword (now : ℤ) (token newPassword : String) : UserProc ℕ := do
  let some (id, _) ← findByResetToken now (env.sha256 token)
    | throw (.unauthorized none "Password reset token is invalid or has expired.")
  let _ ← update id [.password (some newPassword), .passwordResetToken none, .passwordResetExpires none]
  return id

end AuthService

/-!
## Sign-in with a provider

`AuthService` on the identity tokens of Google and Apple: which account a token opens, the invites to branches that the
user claims with it, and the tokens of the session.

How the providers check a token is given.  `googleAccount` and `appleAccount` are the parts of `googleLogin` and
`appleLogin` that choose the account.
-/

/-- What is used of a verified token of Google. -/
structure GooglePayload where
  sub : String
  email : Option String := none
  name : Option String := none
  picture : Option String := none

/-- What is used of a verified token of Apple. -/
structure ApplePayload where
  sub : Option String := none
  email : Option String := none
deriving DecidableEq

/-- What a sign-in takes from outside. -/
structure LoginRuntime extends UserRuntime where
  now : ℤ
  /-- `oauthClient`, once it is configured. -/
  verifyGoogle : Option (String → Option GooglePayload) := none
  /-- `jwtVerify`, with the audiences that it accepts. -/
  verifyApple : List String → String → Option ApplePayload
  appleAudiences : Option String := none
  appleClientIds : Option String := none
  appleBundleId : Option String := none

structure AppleAuthDto where
  idToken : Option String := none
  identityToken : Option String := none
  email : Option String := none
  name : Option String := none

/-- What a sign-in returns, and the id of its user. -/
structure LoginResult (τ : Type) where
  userId : ℕ
  tokens : AuthTokens τ
  isNewUser : Option Bool := none

/-- The users among the tables. -/
def AccessStore.userLens : Proc.Lens AccessStore UserTable where
  get S := S.users
  set S users := { S with users }

namespace AuthService

open UsersService

/-! ### Invites -/

/-- The invite is to a branch that is active. -/
def isClaimable (S : AccessStore) (invite : StaffInvite) : Bool :=
  (S.branches.find invite.branchId).any fun branch => branch.isActive

variable (env : LoginRuntime) (userId : ℕ)

def claimedAssignment (invite : StaffInvite) (assignment : Option StaffAssignment) : StaffAssignment :=
  { assignment.getD { branchId := invite.branchId, userId, role := invite.role, isActive := true } with
    branchId := invite.branchId
    userId
    role := invite.role
    permissions := invite.permissions.eraseDups.insertionSort (· ≤ ·)
    isActive := true }

/-- `assignmentsRepository.save`: the user and the branch are stored. -/
def saveClaimed (invite : StaffInvite) : AccessProc Unit := Proc.write fun S =>
  match S.assignmentOf invite.branchId userId with
  | some (id, assignment) =>
    { S with staffAssignments := S.staffAssignments.set id (claimedAssignment userId invite (some assignment)) }
  | none => { S with staffAssignments := S.staffAssignments.add (claimedAssignment userId invite none) }

/-- `invitesRepository.save`. -/
def saveInvite (id : ℕ) (invite : StaffInvite) : AccessProc Unit :=
  Proc.write fun S => { S with staffInvites := S.staffInvites.set id invite }

/-- One round of `claimPendingPosBranchInvites`. -/
def claimInvite (now : ℤ) (userId : ℕ) (found : ℕ × StaffInvite) : AccessProc Unit := do
  let (id, invite) := found
  let claimable ← Proc.read fun S => isClaimable S invite
  if claimable then
    saveClaimed userId invite
    saveInvite id { invite with isActive := false, acceptedAt := some now, acceptedByUserId := some userId }
  else saveInvite id { invite with isActive := false }

/-- `claimPendingPosBranchInvites`: how many invites are claimed. -/
def claimPendingPosBranchInvites (user : UserAccount) : AccessProc ℕ :=
  let email := env.normalize user.email
  if userId = 0 ∨ email = "" then pure 0
  else .transaction do
    let S ← Proc.read id
    let invites := S.staffInvites.list fun row => row.email = email && row.isActive
    .forEach invites (claimInvite env.now userId)
    return (invites.filter fun found => isClaimable S found.2).length

/-! ### The session -/

def openSession {τ : Type} (config : AuthConfig τ) (env : LoginRuntime) (userId : ℕ) (user : UserAccount) :
    AccessProc (AuthTokens τ) := do
  let _ ← claimPendingPosBranchInvites env userId user
  let S ← Proc.read id
  .ofExcept (generateTokens config S env.now userId user)

/-! ### Google -/

/-- What `googleLogin` gives to `restoreDeletedUserByEmail`. -/
def googlePatch (payload : GooglePayload) : UserPatch where
  displayName := payload.name
  avatarUrl := payload.picture
  googleId := some payload.sub
  roles := some [.customer]

/-- The verified token of `googleLogin`, and its email. -/
def verifyGoogleToken (idToken : String) : Except AuthFailure (GooglePayload × String) :=
  match env.verifyGoogle with
  | none => .error (.refused (some "GOOGLE_NOT_CONFIGURED")
      (.internal "Google Sign-In is not configured on the server."))
  | some verifyIdToken =>
    match verifyIdToken idToken with
    | none => .error (.unauthorized (some "INVALID_GOOGLE_TOKEN") "Invalid Google token")
    | some payload =>
      match payload.email.filter (· ≠ "") with
      | none => .error (.unauthorized (some "GOOGLE_EMAIL_MISSING") "Google account email not found in token")
      | some email => .ok (payload, email)

/-- The account that `googleLogin` opens, and whether it is new. -/
def googleAccount (payload : GooglePayload) (email : String) : UserProc (ℕ × UserAccount × Bool) := do
  match ← findByEmail email with
  | some (id, user) =>
    .throwIf (user.isActive = false) userDeactivated
    return (id, user, false)
  | none =>
    match ← restoreDeletedUserByEmail env.toUserRuntime email (googlePatch payload) with
    | some (id, user) => return (id, user, false)
    | none =>
      let (id, user) ← createWithGoogle env.toUserRuntime email payload.name payload.picture payload.sub
      return (id, user, true)

def googleLogin {τ : Type} (config : AuthConfig τ) (env : LoginRuntime) (idToken : String) :
    AccessProc (LoginResult τ) := do
  let (payload, email) ← Proc.ofExcept (verifyGoogleToken env idToken)
  let (userId, user, createdUser) ← Proc.zoom AccessStore.userLens (googleAccount env payload email)
  let tokens ← openSession config env userId user
  return { userId, tokens, isNewUser := some createdUser }

/-! ### Apple -/

def appleAudiences : List String :=
  let given := fun value : Option String => value.filter (· ≠ "")
  let audienceCsv := (((given env.appleAudiences).or (given env.appleClientIds)).or (given env.appleBundleId)).getD ""
  ((Texts.split audienceCsv ',').map trim).filter (· ≠ "")

/-- The verified token of `appleLogin`, and its subject. -/
def verifyAppleToken (dto : AppleAuthDto) : Except AuthFailure (ApplePayload × String) :=
  let idToken := trim (((dto.identityToken.filter (· ≠ "")).or (dto.idToken.filter (· ≠ ""))).getD "")
  if idToken = "" then
    .error (.refused (some "INVALID_APPLE_TOKEN") (.badRequest "idToken (identityToken) is required"))
  else if appleAudiences env = [] then
    .error (.refused (some "APPLE_NOT_CONFIGURED") (.internal "Apple Sign-In is not configured on the server."))
  else match env.verifyApple (appleAudiences env) idToken with
    | none => .error (.unauthorized (some "INVALID_APPLE_TOKEN") "Invalid Apple token")
    | some payload =>
      match payload.sub.filter (· ≠ "") with
      | none => .error (.unauthorized (some "INVALID_APPLE_TOKEN") "Missing subject in Apple token")
      | some sub => .ok (payload, sub)

/-- `email`: that of the body, or else that of the token. -/
def appleEmail (dto : AppleAuthDto) (payload : ApplePayload) : String :=
  env.normalize (((dto.email.filter (· ≠ "")).or payload.email).getD "")

/-- The existing account of `appleLogin`: that of the subject, or else that of the address. -/
def findAppleUser (sub email : String) : UserProc (Option (ℕ × UserAccount)) := do
  match ← findByAppleId sub with
  | some found => return some found
  | none =>
    if email = "" then return none
    else match ← findByEmail email with
      | none => return none
      | some (id, _) =>
        -- `update` does not allow `appleId`: nothing is linked
        let _ ← update id [.appleId (some sub)]
        let user ← findById id
        return some (id, user)

/-- The account that `appleLogin` opens. -/
def appleAccount (dto : AppleAuthDto) (sub email : String) : UserProc (ℕ × UserAccount) := do
  match ← findAppleUser sub email with
  | some (id, user) =>
    .throwIf (user.isActive = false) userDeactivated
    return (id, user)
  | none =>
    .throwIf (email = "") (.unauthorized (some "APPLE_EMAIL_MISSING")
      "Apple did not provide an email. Please grant email access or provide an email to link.")
    createWithApple env.toUserRuntime email sub dto.name

def appleLogin {τ : Type} (config : AuthConfig τ) (env : LoginRuntime) (dto : AppleAuthDto) :
    AccessProc (LoginResult τ) := do
  let (payload, sub) ← Proc.ofExcept (verifyAppleToken env dto)
  let (userId, user) ← Proc.zoom AccessStore.userLens (appleAccount env dto sub (appleEmail env dto payload))
  let tokens ← openSession config env userId user
  return { userId, tokens }

end AuthService

end SuuqBackend
