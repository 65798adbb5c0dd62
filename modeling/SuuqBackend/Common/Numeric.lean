import Mathlib.Data.Rat.Floor

/-!
# Amounts in the database and in requests
-/

namespace SuuqBackend

/-- What a column `numeric(p, 2)` keeps of a value: the nearest cent, a half away from zero. -/
def numeric2 (x : ℚ) : ℚ :=
  if 0 ≤ x then (⌊x * 100 + 1 / 2⌋ : ℚ) / 100 else -((⌊-x * 100 + 1 / 2⌋ : ℚ) / 100)

/-- What a column `numeric(p, 4)` keeps of a value. -/
def numeric4 (x : ℚ) : ℚ :=
  if 0 ≤ x then (⌊x * 10000 + 1 / 2⌋ : ℚ) / 10000 else -((⌊-x * 10000 + 1 / 2⌋ : ℚ) / 10000)

/-- A number that `@IsNumber({ maxDecimalPlaces: 2 })` and `@Min(0)` let through. -/
structure Decimal2 where
  hundredths : ℕ
deriving DecidableEq

/-- The number. -/
def Decimal2.value (x : Decimal2) : ℚ := x.hundredths / 100

/-- What a column `numeric(p, 2)` holds. -/
structure Numeric2 where
  hundredths : ℤ
deriving DecidableEq

namespace Numeric2

/-- The number. -/
def value (x : Numeric2) : ℚ := x.hundredths / 100

/-- The text that the database returns for it. -/
def text (x : Numeric2) : String :=
  let cents := x.hundredths.natAbs
  let sign := if x.hundredths < 0 then "-" else ""
  s!"{sign}{cents / 100}.{cents % 100 / 10}{cents % 10}"

/-- The column after a value has been stored in it. -/
def ofRat (x : ℚ) : Numeric2 :=
  if 0 ≤ x then ⟨⌊x * 100 + 1 / 2⌋⟩ else ⟨-⌊-x * 100 + 1 / 2⌋⟩

example : (ofRat (-1 / 20)).text = "-0.05" := by decide +kernel

end Numeric2

end SuuqBackend

/-!
## Conversion between currencies

`CurrencyService.convert` goes through US dollars.  `rates` is the present table of rates, and `none` in it is
a code without a rate; `toUpperCase` is that of the runtime.
-/

namespace SuuqBackend.CurrencyService

/-- The currencies that are kept without decimals. -/
def integerCurrencies : List String := ["ETB", "KES", "SOS", "DJF", "KSH"]

/-- The converted amount as `convert` returns it. -/
def roundFor (target : String) (amount : ℚ) : ℚ :=
  if target ∈ integerCurrencies then round amount else round (amount * 100) / 100

/-- `!rate`: the code has no rate, or the rate is 0. -/
def NoRate (rate : Option ℚ) : Prop := rate = none ∨ rate = some 0
deriving Decidable

/-- `convert`: the message of its error, or the amount. -/
def convert (toUpperCase : String → String) (rates : String → Option ℚ) (amount : ℚ)
    (fromCurrency toCurrency : String) : Except String ℚ :=
  let source := toUpperCase fromCurrency
  let target := toUpperCase toCurrency
  if source = target then .ok (roundFor target amount)
  else if NoRate (rates source) ∨ NoRate (rates target) then
    .error s!"Unsupported currency: {source} or {target}"
  else .ok (roundFor target (amount / (rates source).getD 0 * (rates target).getD 0))

end SuuqBackend.CurrencyService
