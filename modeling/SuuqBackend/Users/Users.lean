import SuuqBackend.Common.Texts
import SuuqBackend.Lib.Credentials
import SuuqBackend.Users.UserStore

/-!
# The service of users

`UsersService`: how accounts are made, removed and brought back, and what `update` lets through.  A column whose value
is `undefined` is not written: `remove` leaves the password in its row, and `update` writes its allowed fields only.

The other columns that `remove` clears, and the checks of `update` on fields that the callers here do not give, are left
out.  `LOWER` and `toLowerCase` are one function.  Without an order, a query finds the row with the lowest id.
-/

namespace SuuqBackend

/-- What the services of users take from outside. -/
structure UserRuntime where
  passwords : PasswordHash
  /-- `createHash('sha256')` of a text, in hexadecimal. -/
  sha256 : String → String
  sha256_injective : Function.Injective sha256
  toLowerCase : String → String
  /-- A text that is trimmed and in lower case stays as it is. -/
  normalized : ∀ text, toLowerCase (trim (toLowerCase (trim text))) = toLowerCase (trim text)
  signupAllowlistDomains : Option String := none
  signupBlocklistDomains : Option String := none

/-- `email.trim().toLowerCase()`. -/
def UserRuntime.normalize (env : UserRuntime) (email : String) : String := env.toLowerCase (trim email)

abbrev UserProc : Type → Type := Proc UserTable AuthFailure

/-- `Partial<User>`: the columns that are given. -/
structure UserPatch where
  firebaseUid : Option String := none
  password : Option String := none
  roles : Option (List UserRole) := none
  displayName : Option String := none
  avatarUrl : Option String := none
  storeName : Option String := none
  language : Option String := none
  registrationCountry : Option String := none
  businessLicenseNumber : Option String := none
  googleId : Option String := none
  appleId : Option String := none

/-- The row with the columns that are given. -/
def UserPatch.apply (patch : UserPatch) (row : UserAccount) : UserAccount :=
  { row with
    firebaseUid := patch.firebaseUid.or row.firebaseUid
    password := patch.password.or row.password
    roles := patch.roles.getD row.roles
    displayName := patch.displayName.or row.displayName
    avatarUrl := patch.avatarUrl.or row.avatarUrl
    storeName := patch.storeName.or row.storeName
    language := patch.language.getD row.language
    registrationCountry := patch.registrationCountry.or row.registrationCountry
    businessLicenseNumber := patch.businessLicenseNumber.or row.businessLicenseNumber
    googleId := patch.googleId.or row.googleId
    appleId := patch.appleId.or row.appleId }

/-- A column, with the value that `update` is given for it. -/
inductive UserUpdate where
  | displayName (value : Option String)
  | avatarUrl (value : Option String)
  | language (value : String)
  | storeName (value : Option String)
  | isActive (value : Bool)
  | registrationCountry (value : Option String)
  | businessLicenseNumber (value : Option String)
  | appleId (value : Option String)
  | password (value : Option String)
  | passwordResetToken (value : Option String)
  | passwordResetExpires (value : Option ℤ)

namespace UserUpdate

def column : UserUpdate → String
  | displayName _ => "displayName"
  | avatarUrl _ => "avatarUrl"
  | language _ => "language"
  | storeName _ => "storeName"
  | isActive _ => "isActive"
  | registrationCountry _ => "registrationCountry"
  | businessLicenseNumber _ => "businessLicenseNumber"
  | appleId _ => "appleId"
  | password _ => "password"
  | passwordResetToken _ => "passwordResetToken"
  | passwordResetExpires _ => "passwordResetExpires"

/-- The row with the column written. -/
def write (row : UserAccount) : UserUpdate → UserAccount
  | displayName value => { row with displayName := value }
  | avatarUrl value => { row with avatarUrl := value }
  | language value => { row with language := value }
  | storeName value => { row with storeName := value }
  | isActive value => { row with isActive := value }
  | registrationCountry value => { row with registrationCountry := value }
  | businessLicenseNumber value => { row with businessLicenseNumber := value }
  | appleId value => { row with appleId := value }
  | password value => { row with password := value }
  | passwordResetToken value => { row with passwordResetToken := value }
  | passwordResetExpires value => { row with passwordResetExpires := value }

end UserUpdate

namespace UsersService

def deletedUserEmailMarker : String := "original-email:"

def allowedFields : List String :=
  ["displayName", "avatarUrl", "language", "storeName", "phoneCountryCode", "phoneNumber", "isPhoneVerified",
    "isActive", "legalName", "businessLicenseNumber", "taxId", "registrationCountry", "registrationRegion",
    "registrationCity", "businessType", "contactName", "vendorPhoneNumber", "vendorEmail", "website", "address",
    "postalCode", "vendorAvatarUrl", "telebirrAccount", "verificationStatus", "verificationDocuments", "verified",
    "verifiedAt", "interestedCategoryIds", "interestedCategoriesLastUpdated"]

/-! ### Repository calls -/

/-- Another row has a column that is unique in common with this one. -/
def conflicts (users : UserTable) (except : Option ℕ) (row : UserAccount) : Bool :=
  (users.list fun other => other.email = row.email || (other.firebaseUid.isSome && other.firebaseUid = row.firebaseUid)
    || (other.posUsername.isSome && other.posUsername = row.posUsername)).any fun found => some found.1 ≠ except

/-- The violation of a column that is unique. -/
def duplicateUser : AuthFailure :=
  .refused none (.queryFailed "duplicate key value violates unique constraint")

/-- `userRepository.save` of a new row. -/
def insertUser (row : UserAccount) : UserProc ℕ := do
  let users ← Proc.read id
  .throwIf (conflicts users none row) duplicateUser
  Proc.write fun users => users.add row
  return users.next

variable (env : UserRuntime) (now : ℤ) (id : ℕ)

/-- `userRepository.save` of a row that was loaded. -/
def saveUser (row : UserAccount) : UserProc Unit := do
  let users ← Proc.read fun users => users
  .throwIf (conflicts users (some id) row) duplicateUser
  Proc.write fun users => users.set id row

def findById : UserProc UserAccount := do
  let some user ← Proc.read fun users : UserTable => users.findLive id
    | throw (.notFound "User not found")
  return user

def findByEmail (email : String) : UserProc (Option (ℕ × UserAccount)) :=
  Proc.read fun users => users.firstLive fun row => row.email = email

def findByAppleId (sub : String) : UserProc (Option (ℕ × UserAccount)) :=
  Proc.read fun users => users.firstLive fun row => row.appleId = some sub

def findByResetToken (token : String) : UserProc (Option (ℕ × UserAccount)) :=
  Proc.read fun users => users.firstLive fun row =>
    row.passwordResetToken = some token && row.passwordResetExpires.any (now < ·)

/-- `update`, with the fields that it allows. -/
def update (data : List UserUpdate) : UserProc UserAccount := do
  let updateData := data.filter fun change => change.column ∈ allowedFields
  let found ← Proc.read fun users : UserTable => users.find id
  match found with
  | none => throw (.notFound s!"User with ID \"{id}\" not found")
  | some row => Proc.write fun users => users.set id (updateData.foldl UserUpdate.write row)
  findById id

/-! ### Removed accounts -/

/-- `deletedBy` of a removed account. -/
def deletedByOf (originalEmail : String) : String :=
  if originalEmail = "" then "system" else "system|" ++ deletedUserEmailMarker ++ originalEmail

/-- What `remove` makes of a row. -/
def removedRow (user : UserAccount) : UserAccount :=
  { user with
    email := s!"deleted+{id}+{now}@deleted.local"
    displayName := some "Deleted User"
    storeName := none
    avatarUrl := none
    googleId := none
    firebaseUid := none
    posUsername := none
    isActive := false
    roles := []
    deletedAt := some now
    deletedBy := some (deletedByOf (env.normalize user.email)) }

def remove : UserProc Unit := do
  let some user ← Proc.read fun users : UserTable => users.findLive id
    | throw (.notFound s!"User with ID \"{id}\" not found")
  saveUser id (removedRow env now id user)

/-- The removed account that the query of `restoreDeletedUserByEmail` finds. -/
def deletedUser (users : UserTable) (normalizedEmail : String) : Option (ℕ × UserAccount) :=
  users.first fun row => row.deletedAt.isSome &&
    Texts.likes ("%" ++ deletedUserEmailMarker ++ normalizedEmail).toList
      (env.toLowerCase (row.deletedBy.getD "")).toList

/-- A removed account as it is brought back. -/
def restoredRow (row : UserAccount) (email : String) (patch : UserPatch) : UserAccount :=
  let patched := patch.apply row
  { patched with
    email
    isActive := true
    deletedAt := none
    deletedBy := none
    roles := if patched.roles = [] then [.customer] else patched.roles }

def restoreDeletedUserByEmail (email : String) (patch : UserPatch) : UserProc (Option (ℕ × UserAccount)) := do
  let normalizedEmail := env.normalize email
  let found ← Proc.read fun users => if normalizedEmail = "" then none else deletedUser env users normalizedEmail
  match found with
  | none => return none
  | some (id, row) =>
    saveUser id (restoredRow row normalizedEmail patch)
    return some (id, restoredRow row normalizedEmail patch)

/-! ### New accounts -/

def emailTaken : AuthFailure := .conflict "A user with this email already exists."

def newUser (email : String) (data : UserPatch) : UserAccount := data.apply { email, roles := [.customer] }

/-- `data`, once its password is hashed. -/
def hashedData (salt : String) (data : UserPatch) : UserPatch :=
  { data with password := ((data.password.filter (· ≠ "")).map (env.passwords.hash salt)).or data.password }

/-- `create`, with an address; `salt` is that of the call. -/
def create (salt email : String) (data : UserPatch) : UserProc (ℕ × UserAccount) := do
  let normalizedEmail := env.normalize email
  let existing ← Proc.read fun users : UserTable => users.firstLive fun row => row.email = normalizedEmail
  .throwIf existing.isSome emailTaken
  match ← restoreDeletedUserByEmail env normalizedEmail data with
  | some restored => return restored
  | none =>
    let row := newUser normalizedEmail (hashedData env salt data)
    let id ← insertUser row
    return (id, row)

/-- `createWithGoogle` and `createWithApple`: restored, or made from the profile. -/
def createWithProfile (email : String) (profile : UserPatch) : UserProc (ℕ × UserAccount) := do
  match ← restoreDeletedUserByEmail env email profile with
  | some restored => return restored
  | none =>
    let existing ← Proc.read fun users : UserTable => users.firstLive fun row => row.email = email
    .throwIf existing.isSome emailTaken
    let id ← insertUser (newUser email profile)
    return (id, newUser email profile)

def createWithGoogle (email : String) (name picture : Option String) (sub : String) : UserProc (ℕ × UserAccount) :=
  createWithProfile env email
    { displayName := some (name.getD ""), avatarUrl := picture, googleId := some sub, roles := some [.customer] }

def createWithApple (email sub : String) (name : Option String) : UserProc (ℕ × UserAccount) :=
  createWithProfile env email { displayName := name, appleId := some sub, roles := some [.customer] }

/-! ### Passwords -/

def checkCurrentPassword (user : UserAccount) (currentPassword : Option String)
    (required incorrect : AuthFailure) : UserProc Unit :=
  match user.password.filter (· ≠ "") with
  | none => pure ()
  | some stored =>
    match currentPassword.filter (· ≠ "") with
    | none => throw required
    | some current => .throwIf (env.passwords.verify current stored = false) incorrect

def changePassword (salt : String) (userId : ℕ) (currentPassword : Option String)
    (newPassword : String) : UserProc Unit := do
  let user ← findById userId
  .throwIf (newPassword.length < 8) (.badRequest "New password must be at least 8 characters long.")
  checkCurrentPassword env user currentPassword (.unauthorized none "Current password is required.")
    (.unauthorized none "Current password is incorrect.")
  saveUser userId { user with password := some (env.passwords.hash salt newPassword) }

end UsersService

end SuuqBackend
