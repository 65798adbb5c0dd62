import SuuqBackend.Common.Texts

/-!
# The audit log, and its listings by cursor

`AuditService`: the entries of the log in the order in which they were made, the latest first, page by page.  The
database keeps the time of an entry in microseconds; what is read of it is a `Date`, in milliseconds, and it is this
`Date` that a cursor carries (`encodeCursor`).

`meta` is kept as the texts that `->>` finds in it.  Left out are the listings by page number, the count and the labels
of actions, and the writing of an entry.
-/

namespace SuuqBackend

/-- A time of the database, in microseconds. -/
abbrev Timestamp : Type := ℤ

/-- The `Date` that is read of a time. -/
def Timestamp.toDate (t : Timestamp) : Date := t / 1000

/-- The time that a `Date` is written as. -/
def Timestamp.ofDate (date : Date) : Timestamp := date * 1000

/-- A row of `audit_log`, as it is stored (`AuditLog Timestamp`) or as it has been read (`AuditLog Date`). -/
structure AuditLog (time : Type) where
  actorId : Option ℕ := none
  actorEmail : Option String := none
  action : String
  targetType : String
  targetId : ℤ
  reason : Option String := none
  /-- The members of `meta`, with their texts. -/
  metadata : List (String × String) := []
  createdAt : time
deriving DecidableEq

/-- The entry as it is read. -/
def AuditLog.loaded (log : AuditLog Timestamp) : AuditLog Date := { log with createdAt := log.createdAt.toDate }

/-- `AuditFilters`; the texts of the values that `metaEquals` compares with. -/
structure AuditFilters where
  actions : List String := []
  actorEmail : Option String := none
  actorId : Option ℕ := none
  /-- `from`. -/
  fromDate : Option Date := none
  /-- `to`. -/
  toDate : Option Date := none
  metaEquals : List (String × String) := []

/-- What a listing by cursor is asked for. -/
structure AuditCursorOptions where
  after : Option String := none
  limit : Option ℤ := none
  filters : AuditFilters := {}

/-- A page of a listing by cursor. -/
structure AuditPage where
  items : List (ℕ × AuditLog Date)
  nextCursor : Option String

/-- What the service takes from the runtime and the database, with what it relies on of it. -/
structure AuditRuntime where
  /-- `Buffer.from(text).toString('base64url')`. -/
  toBase64url : String → String
  /-- `Buffer.from(text, 'base64url').toString('utf8')`. -/
  fromBase64url : String → String
  fromBase64url_toBase64url : ∀ text, fromBase64url (toBase64url text) = text
  toBase64url_ne_empty : ∀ text, text ≠ "" → toBase64url text ≠ ""
  /-- `date.toISOString()`. -/
  toISOString : Date → String
  /-- `new Date(text)`; `none` is an invalid one. -/
  parseDate : String → Option Date
  parseDate_toISOString : ∀ date, parseDate (toISOString date) = some date
  toISOString_ne_empty : ∀ date, toISOString date ≠ ""
  bar_notMem_toISOString : ∀ date, '|' ∉ (toISOString date).toList
  /-- `Number(text)`, if it is an integer. -/
  toInteger : String → Option ℤ
  toInteger_toString : ∀ n : ℕ, toInteger (toString n) = some (n : ℤ)
  /-- The lower case of the database. -/
  lower : String → String

/-- The table of the log. -/
structure AuditStore where
  logs : SerialTable (AuditLog Timestamp)
  /-- The ids of the database begin at 1. -/
  id_pos : ∀ id ∈ logs.rows, 0 < id

/-- A handler on this table. -/
abbrev AuditProc : Type → Type := Proc AuditStore HttpException

namespace AuditLogs

variable (env : AuditRuntime)

def clampLimit (limit : Option ℤ) (fallback max' : ℤ) : ℕ :=
  (min (max ((limit.filter (· ≠ 0)).getD fallback) 1) max').toNat

/-- `/^[A-Za-z0-9_]+$/`. -/
def IsMetaKey (key : String) : Prop := key ≠ "" ∧ ∀ c ∈ key.toList, c.isAlphanum ∨ c = '_'
deriving Decidable

/-- `applyFilters`: the conditions that are added to the query. -/
def Matches (filters : AuditFilters) (log : AuditLog Timestamp) : Prop :=
  (filters.actions ≠ [] → log.action ∈ filters.actions) ∧
    (∀ email ∈ filters.actorEmail.filter (· ≠ ""), ∃ actorEmail ∈ log.actorEmail,
      Texts.likes (env.lower s!"%{email}%").toList (env.lower actorEmail).toList = true) ∧
    (∀ actorId ∈ filters.actorId.filter (· ≠ 0), log.actorId = some actorId) ∧
    (∀ date ∈ filters.fromDate, .ofDate date ≤ log.createdAt) ∧
    (∀ date ∈ filters.toDate, log.createdAt ≤ .ofDate date) ∧
    ∀ entry ∈ filters.metaEquals, IsMetaKey entry.1 → log.metadata.lookup entry.1 = some entry.2
deriving Decidable

/-- What a listing is about: the entries for one target, or all, with a type or an id of targets if it is given. -/
inductive Listing where
  | target (targetType : String) (targetId : ℤ)
  | all (targetType : Option String) (targetId : Option ℤ)

/-- `buildBaseQuery` and `buildGlobalQuery`. -/
def Listing.Covers (log : AuditLog Timestamp) : Listing → Prop
  | target targetType targetId => log.targetType = targetType ∧ log.targetId = targetId
  | all targetType targetId =>
    (∀ type ∈ targetType.filter (· ≠ ""), log.targetType = type) ∧ ∀ id ∈ targetId, log.targetId = id

instance (log : AuditLog Timestamp) : (listing : Listing) → Decidable (listing.Covers log)
  | .target _ _ => inferInstanceAs (Decidable (_ ∧ _))
  | .all targetType targetId => inferInstanceAs (Decidable
      ((∀ type ∈ targetType.filter (· ≠ ""), log.targetType = type) ∧ ∀ id ∈ targetId, log.targetId = id))

/-- `a.createdAt DESC, a.id DESC`. -/
def latestFirst (a b : ℕ × AuditLog Timestamp) : Bool :=
  b.2.createdAt < a.2.createdAt ∨ (a.2.createdAt = b.2.createdAt ∧ b.1 ≤ a.1)

/-- The entries of a listing, the latest first. -/
def Listing.rows (listing : Listing) (filters : AuditFilters) (s : AuditStore) : List (ℕ × AuditLog Timestamp) :=
  (s.logs.list fun log => listing.Covers log ∧ Matches env filters log).mergeSort latestFirst

def encodeCursor (row : ℕ × AuditLog Date) : String :=
  env.toBase64url (env.toISOString row.2.createdAt ++ ("|" ++ toString row.1))

def decodeCursor (cursor : Option String) : AuditProc (Option (Date × ℤ)) :=
  let invalid : AuditProc (Option (Date × ℤ)) := throw (.badRequest "Invalid audit cursor")
  match cursor.filter (· ≠ "") with
  | none => pure none
  | some cursor => match Texts.split (env.fromBase64url cursor) '|' with
    | [iso, idStr] => match (if iso = "" then none else env.parseDate iso), env.toInteger idStr with
      | some createdAt, some id => if 0 < id then pure (some (createdAt, id)) else invalid
      | _, _ => invalid
    | _ => invalid

/-- `a.createdAt < :createdAt OR (a.createdAt = :createdAt AND a.id < :id)`. -/
def IsAfter (cursor : Date × ℤ) (row : ℕ × AuditLog Timestamp) : Prop :=
  row.2.createdAt < .ofDate cursor.1 ∨ (row.2.createdAt = .ofDate cursor.1 ∧ (row.1 : ℤ) < cursor.2)
deriving Decidable

/-- A page of a listing; one entry more is read than it shows. -/
def Listing.list (listing : Listing) (opts : AuditCursorOptions) : AuditProc AuditPage := do
  let l := clampLimit opts.limit 20 100
  let cursor ← decodeCursor env opts.after
  Proc.read fun s =>
    let found := listing.rows env opts.filters s
    let left := match cursor with
      | none => found
      | some cursor => found.filter fun row => IsAfter cursor row
    let rows := left.take (l + 1)
    let items := (rows.take l).map fun row => (row.1, row.2.loaded)
    { items, nextCursor := if l < rows.length then items.getLast?.map (encodeCursor env) else none }

def listForTargetCursor (targetType : String) (targetId : ℤ) (opts : AuditCursorOptions) : AuditProc AuditPage :=
  (Listing.target targetType targetId).list env opts

def listAllCursor (targetType : Option String) (targetId : Option ℤ) (opts : AuditCursorOptions) :
    AuditProc AuditPage :=
  (Listing.all targetType targetId).list env opts

end AuditLogs

end SuuqBackend
