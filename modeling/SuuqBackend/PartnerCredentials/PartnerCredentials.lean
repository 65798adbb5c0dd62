import SuuqBackend.Lib.Interleave
import SuuqBackend.PosSync.ProductAliases
import SuuqBackend.Users.UserStore
import Mathlib

/-!
# Partner credentials

`PartnerCredentialsService`, with the scopes of the POS terminals.  A secret and a key that is presented are normalised
by the same function: what looks like a SHA-256 digest is taken for one.

The listing, the audit log, the branch of a request (`assertCredentialBranchAccess`) and the lengths of the columns are
left out, and so are scopes named like a property that every JavaScript object has.
-/

namespace SuuqBackend

/-! ### Scopes -/

inductive PosPartnerScope where
  | syncWrite
  | checkoutRead
  | checkoutWrite
  | registerRead
  | registerWrite
deriving DecidableEq

namespace PosPartnerScope

def value : PosPartnerScope → String
  | syncWrite => "pos:sync:write"
  | checkoutRead => "pos:checkout:read"
  | checkoutWrite => "pos:checkout:write"
  | registerRead => "pos:register:read"
  | registerWrite => "pos:register:write"

/-- `DEFAULT_POS_PARTNER_SCOPES`, which are all there are. -/
def defaults : List PosPartnerScope := [syncWrite, checkoutRead, checkoutWrite, registerRead, registerWrite]

def ofValue (text : String) : Option PosPartnerScope := defaults.find? fun scope => scope.value = text

theorem mem_defaults (scope : PosPartnerScope) : scope ∈ defaults := by cases scope <;> decide

theorem ofValue_value (scope : PosPartnerScope) : ofValue scope.value = some scope := by cases scope <;> decide

end PosPartnerScope

inductive PosPartnerScopePreset where
  | fullTerminal
  | cashierTerminal
  | inventoryTerminal
  | syncOnly
deriving DecidableEq

/-- `POS_PARTNER_SCOPE_PRESET_SCOPES`. -/
def PosPartnerScopePreset.scopes : PosPartnerScopePreset → List PosPartnerScope
  | fullTerminal => PosPartnerScope.defaults
  | cashierTerminal => [.checkoutRead, .checkoutWrite, .registerRead, .registerWrite]
  | inventoryTerminal => [.syncWrite, .checkoutRead, .registerRead]
  | syncOnly => [.syncWrite]

/-- `LEGACY_POS_PARTNER_SCOPE_ALIASES`. -/
def legacyScopeAliases : List (String × List PosPartnerScope) :=
  [("sync:write", [.syncWrite]), ("pos:ingest", [.syncWrite])]

/-- The scopes that a text stands for. -/
def scopesOf (rawScope : String) : List PosPartnerScope :=
  match PosPartnerScope.ofValue rawScope with
  | some scope => [scope]
  | none => (legacyScopeAliases.lookup rawScope).getD []

def resolveGrantedPosScopes (scopes : List String) : List PosPartnerScope := (scopes.flatMap scopesOf).eraseDups

def canonicalizePosScopeInputs (scopes : List String) : List PosPartnerScope :=
  if scopes = [] then PosPartnerScope.defaults else resolveGrantedPosScopes scopes

def resolvePosPresetScopes (preset : Option PosPartnerScopePreset) : List PosPartnerScope :=
  (preset.map PosPartnerScopePreset.scopes).getD PosPartnerScope.defaults

def isSupportedPosScopeInput (scope : String) : Bool :=
  scope ∈ PosPartnerScope.defaults.map PosPartnerScope.value ++ legacyScopeAliases.map Prod.fst

/-! ### Rows -/

inductive PartnerType where
  | pos
  | supplier
  | internal
deriving DecidableEq

inductive PartnerCredentialStatus where
  | active
  | revoked
deriving DecidableEq

/-- `partner_credentials`. -/
structure PartnerCredentialRow where
  name : String
  partnerType : PartnerType
  branchId : Option ℕ
  scopes : List String
  keyHash : String
  status : PartnerCredentialStatus := .active
  lastUsedAt : Option ℤ := none
  revokedAt : Option ℤ := none
  revokedByUserId : Option ℕ := none
  revocationReason : Option String := none
  createdAt : ℤ
deriving DecidableEq

structure CreatePartnerCredentialDto where
  name : String
  partnerType : PartnerType
  branchId : Option ℕ := none
  scopePreset : Option PosPartnerScopePreset := none
  scopes : Option (List String) := none
  keyHash : String

/-- The credentials, and the branches that exist. -/
structure PartnerCredentialStore where
  credentials : SerialTable PartnerCredentialRow
  branches : List ℕ

abbrev PartnerCredentialProc : Type → Type := Proc PartnerCredentialStore AuthFailure

/-! ### Secrets -/

/-- `[a-f0-9]`, in either case. -/
def hexDigits : List Char := "0123456789abcdefABCDEF".toList

/-- `/^[a-f0-9]{64}$/i.test(text)`. -/
def looksHashed (text : String) : Bool := text.toList.length = 64 && text.toList.all (· ∈ hexDigits)

/-- `toLowerCase` of a text of ASCII characters. -/
def lowerAscii (text : String) : String := String.ofList (text.toList.map Char.toLower)

/-- What `digest('hex')` gives. -/
def IsDigest (text : String) : Prop := looksHashed text = true ∧ lowerAscii text = text

/-- `createHash('sha256').update(text).digest('hex')`. -/
structure Sha256 where
  digest : String → String
  isDigest : ∀ text, IsDigest (digest text)

namespace PartnerCredentials

variable (sha : Sha256)

def normalizeCredentialSecret (secret : String) : String :=
  let trimmed := trim secret
  if looksHashed trimmed then lowerAscii trimmed else sha.digest trimmed

def matchesPresentedKey (presentedKey storedHash : String) : Bool :=
  let normalizedPresented := normalizeCredentialSecret sha presentedKey
  let normalizedStored := lowerAscii (trim storedHash)
  if normalizedPresented.toByteArray.size = normalizedStored.toByteArray.size then
    normalizedPresented.toByteArray = normalizedStored.toByteArray
  else normalizedPresented = normalizedStored

/-! ### Creation -/

def assertBranchBinding (dto : CreatePartnerCredentialDto) : PartnerCredentialProc Unit := do
  .throwIf (dto.partnerType = .pos ∧ dto.branchId = none)
    (.badRequest "POS partner credentials must be bound to a branchId")
  let branches ← Proc.read PartnerCredentialStore.branches
  match dto.branchId with
  | none => pure ()
  | some branchId => .throwIf (branchId ∉ branches) (.refused none (.branchNotFound branchId))

/-- `assertSupportedScopes`: a scope that is empty hides those after it. -/
def assertSupportedScopes (dto : CreatePartnerCredentialDto) : Except AuthFailure Unit :=
  if dto.partnerType ≠ .pos then
    if dto.scopePreset.isSome then
      .error (.badRequest "scopePreset is only supported for POS partner credentials")
    else .ok ()
  else
    match ((dto.scopes.getD []).find? fun scope => !isSupportedPosScopeInput scope).filter (· ≠ "") with
    | some invalidScope => .error (.badRequest s!"Unsupported POS partner scope: {invalidScope}")
    | none => .ok ()

def resolveScopesForCreate (dto : CreatePartnerCredentialDto) : List String :=
  let scopes := dto.scopes.getD []
  if dto.partnerType ≠ .pos then scopes
  else
    let presetScopes := (resolvePosPresetScopes dto.scopePreset).map PosPartnerScope.value
    if scopes = [] then presetScopes
    else (canonicalizePosScopeInputs (presetScopes ++ scopes)).map PosPartnerScope.value

variable (now : ℤ) (id : ℕ)

def newCredential (dto : CreatePartnerCredentialDto) : PartnerCredentialRow where
  name := dto.name
  partnerType := dto.partnerType
  branchId := dto.branchId
  scopes := resolveScopesForCreate dto
  keyHash := normalizeCredentialSecret sha dto.keyHash
  createdAt := now

def create (dto : CreatePartnerCredentialDto) : PartnerCredentialProc ℕ := do
  assertBranchBinding dto
  .ofExcept (assertSupportedScopes dto)
  let credentials ← Proc.read PartnerCredentialStore.credentials
  Proc.write fun S => { S with credentials := S.credentials.add (newCredential sha now dto) }
  return credentials.next

/-! ### Use -/

/-- `partnerCredentialsRepository.save` of a credential that was loaded: all its columns. -/
def saveCredential (credential : PartnerCredentialRow) : PartnerCredentialProc Unit :=
  Proc.write fun S => { S with credentials := S.credentials.set id credential }

/-- `partnerCredentialsRepository.findOne`, or the exception without a row. -/
def findCredential : PartnerCredentialProc PartnerCredentialRow := do
  let some credential ← Proc.read fun S : PartnerCredentialStore => S.credentials.find id
    | throw (.notFound s!"Partner credential with ID {id} not found")
  return credential

def revoked (actorId : Option ℕ) (reason : Option String) (credential : PartnerCredentialRow) : PartnerCredentialRow :=
  { credential with
    status := .revoked, revokedAt := some now, revokedByUserId := actorId, revocationReason := reason }

def revoke (actorId : Option ℕ) (reason : Option String) : PartnerCredentialProc Unit := do
  let credential ← findCredential id
  if credential.status ≠ .revoked then saveCredential id (revoked now actorId reason credential)

def rotateBranchAssignment (nextBranchId : ℕ) : PartnerCredentialProc Unit := do
  let credential ← findCredential id
  .throwIf (credential.partnerType ≠ .pos) (.badRequest "Only POS partner credentials can rotate branch assignment")
  let branches ← Proc.read PartnerCredentialStore.branches
  .throwIf (nextBranchId ∉ branches) (.refused none (.branchNotFound nextBranchId))
  if credential.branchId ≠ some nextBranchId then
    saveCredential id { credential with branchId := some nextBranchId }

/-- The active POS credentials, the newest first. -/
def candidates (S : PartnerCredentialStore) : List (ℕ × PartnerCredentialRow) :=
  (S.credentials.list fun row => row.partnerType = .pos && row.status = .active).insertionSort
    fun a b => b.2.createdAt ≤ a.2.createdAt

def GrantsOneOf (requiredScopes : List PosPartnerScope) (scopes : List String) : Prop :=
  requiredScopes = [] ∨ ∃ scope ∈ requiredScopes, scope ∈ resolveGrantedPosScopes scopes
deriving Decidable

def authenticatePosCredential (presentedKey : String) (requiredScopes : List PosPartnerScope) :
    PartnerCredentialProc (ℕ × PartnerCredentialRow) := do
  let some (id, credential) ← Proc.read fun S : PartnerCredentialStore =>
      (candidates S).find? fun item => matchesPresentedKey sha presentedKey item.2.keyHash
    | throw (.unauthorized none "Invalid partner credential")
  .throwIf (¬ GrantsOneOf requiredScopes credential.scopes) (.unauthorized none
    ("Partner credential is missing required POS scope: " ++
      String.intercalate ", " (requiredScopes.map PosPartnerScope.value)))
  saveCredential id { credential with lastUsedAt := some now }
  return (id, { credential with lastUsedAt := some now })

end PartnerCredentials

end SuuqBackend
