import SuuqBackend.PosSync.ProductAliases

/-!
# Functions of the runtime on texts

`parseInt`, of any radix or of 10, `replace` with a text, `split` and `startsWith`, the numbers that patterns of digits
find in a text, and the patterns of the database.  A number that `parseInt` returns is exact here.
-/

namespace SuuqBackend.Texts

def digitValue (radix : ℕ) (c : Char) : Option ℕ :=
  let value :=
    if '0' ≤ c ∧ c ≤ '9' then some (c.toNat - 48)
    else if 'a' ≤ c ∧ c ≤ 'z' then some (c.toNat - 87)
    else if 'A' ≤ c ∧ c ≤ 'Z' then some (c.toNat - 55)
    else none
  value.filter (· < radix)

/-- The sign of a number, and what follows it. -/
def splitSign : List Char → Bool × List Char
  | '-' :: rest => (true, rest)
  | '+' :: rest => (false, rest)
  | text => (false, text)

/-- The radix of a number, and its digits. -/
def splitRadix : List Char → ℕ × List Char
  | '0' :: 'x' :: rest => (16, rest)
  | '0' :: 'X' :: rest => (16, rest)
  | text => (10, text)

/-- `parseInt(text)`; `none` is `NaN`. -/
def parseInt (text : String) : Option ℤ :=
  let (negative, unsigned) := splitSign (text.toList.dropWhile isWhiteSpace)
  let (radix, rest) := splitRadix unsigned
  let digits := (rest.takeWhile fun c => (digitValue radix c).isSome).filterMap (digitValue radix)
  let magnitude : ℤ := digits.foldl (fun n digit => radix * n + digit) 0
  if digits = [] then none else some (if negative then -magnitude else magnitude)

example : parseInt " 0042-a" = some 42 := by decide

/-- `parseInt(text, 10)`; `none` is `NaN`. -/
def parseDecimal (text : String) : Option ℤ :=
  let (negative, unsigned) := splitSign (text.toList.dropWhile isWhiteSpace)
  let digits := unsigned.takeWhile Char.isDigit
  let magnitude : ℤ := digits.foldl (fun n c => 10 * n + (c.toNat - 48 : ℕ)) 0
  if digits = [] then none else some (if negative then -magnitude else magnitude)

example : parseDecimal "0x10" = some 0 := by decide

/-- What is left of a text after the first occurrence of another is taken out of it. -/
def withoutFirst (pattern : List Char) : List Char → List Char
  | [] => []
  | c :: rest =>
    if pattern.isPrefixOf (c :: rest) then (c :: rest).drop pattern.length else c :: withoutFirst pattern rest

/-- `text.replace(pattern, '')`. -/
def remove (text pattern : String) : String := String.ofList (withoutFirst pattern.toList text.toList)

/-- `text.split(separator)`, for a separator of one character. -/
def split (text : String) (separator : Char) : List String := (text.toList.splitOn separator).map String.ofList

/-- `text.startsWith(start)`. -/
def StartsWith (text start : String) : Prop := start.toList.isPrefixOf text.toList = true
deriving Decidable

/-- `text.includes(part)`. -/
def Includes (text part : String) : Prop := text.toList.tails.any (part.toList.isPrefixOf ·) = true
deriving Decidable

/-- `Number.parseInt(digits, 10)`, for digits. -/
def numberOf (digits : List Char) : ℕ := digits.foldl (fun n c => 10 * n + (c.toNat - 48)) 0

/-- The number that a text consists of after `start`: what `(\d+)$` finds behind it. -/
def numberAfter (start text : String) : Option ℕ :=
  let digits := text.toList.drop start.toList.length
  if StartsWith text start ∧ digits ≠ [] ∧ digits.all Char.isDigit then some (numberOf digits) else none

/-- The first number in a text: what `(\d+)` finds. -/
def firstNumber (text : String) : Option ℕ :=
  let digits := (text.toList.dropWhile fun c => !c.isDigit).takeWhile Char.isDigit
  if digits = [] then none else some (numberOf digits)

/-- `LIKE`, as the database matches texts with patterns. -/
def likes : List Char → List Char → Bool
  | [], text => text.isEmpty
  | '%' :: pattern, text => text.tails.any (likes pattern)
  | '_' :: pattern, _ :: text => likes pattern text
  | '\\' :: c :: pattern, d :: text => c = d && likes pattern text
  | c :: pattern, d :: text => c = d && likes pattern text
  | _ :: _, [] => false

example : split "BOOST-12-starter-1700" '-' = ["BOOST", "12", "starter", "1700"] := by decide

end SuuqBackend.Texts
