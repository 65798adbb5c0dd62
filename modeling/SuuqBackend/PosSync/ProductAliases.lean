import SuuqBackend.Branches.InventoryStore

/-!
# Product aliases

The part of `ProductAliasesService` that resolves the alias of a point of sale to a product.  An alias
belongs to a retail tenant; the one of the partner goes before the one of the branch, and that before
the one of the whole tenant.  An alias that matches twice at one of these levels is refused.

`toLowerCase` is the lower case of the runtime; `trim` removes white space as the runtime does.
-/

namespace SuuqBackend

inductive ProductAliasType where
  | localSku
  | barcode
  | gtin
  | externalProductId
deriving DecidableEq

namespace ProductAliasType

/-- The value of the enumeration, as messages show it. -/
def text : ProductAliasType → String
  | .localSku => "LOCAL_SKU"
  | .barcode => "BARCODE"
  | .gtin => "GTIN"
  | .externalProductId => "EXTERNAL_PRODUCT_ID"

end ProductAliasType

structure ProductAlias where
  tenantId : ℕ
  branchId : Option ℕ
  partnerCredentialId : Option ℕ
  productId : ℕ
  aliasType : ProductAliasType
  normalizedAliasValue : String
  isActive : Bool

/-- The characters that `trim` removes. -/
def isWhiteSpace (c : Char) : Bool :=
  c.val ∈ [0x9, 0xA, 0xB, 0xC, 0xD, 0x20, 0xA0, 0x1680, 0x2028, 0x2029, 0x202F, 0x205F, 0x3000,
    0xFEFF] || (0x2000 ≤ c.val && c.val ≤ 0x200A)

/-- `text.trim()`. -/
def trim (text : String) : String :=
  String.ofList (((text.toList.dropWhile isWhiteSpace).reverse.dropWhile isWhiteSpace).reverse)

namespace ProductAliases

def normalizeAliasValue (toLowerCase : String → String) (value : String) : String :=
  toLowerCase (trim value)

/-- `resolveProductIdForBranch`, on the branch that was found and on all aliases in the order of
their ids. -/
def resolveProductIdForBranch (toLowerCase : String → String) (branch : Option Branch)
    (productAliases : List ProductAlias) (branchId : ℕ) (partnerCredentialId : Option ℕ)
    (aliasType : ProductAliasType) (aliasValue : String) : Except HttpException (Option ℕ) :=
  match branch with
  | none => .error (.branchNotFound branchId)
  | some branch =>
    match branch.retailTenantId with
    | none => .error (.badRequest s!"Branch {branchId} is not assigned to a Retail OS tenant")
    | some retailTenantId =>
      let aliases : List ProductAlias := productAliases.filter fun a =>
        a.tenantId = retailTenantId ∧ a.aliasType = aliasType ∧
          a.normalizedAliasValue = normalizeAliasValue toLowerCase aliasValue ∧ a.isActive
      let ambiguous (scope : String) : HttpException :=
        .badRequest s!"Alias {aliasType.text}:{aliasValue} is ambiguous for {scope}"
      let partnerMatches := match partnerCredentialId with
        | some id => aliases.filter fun a : ProductAlias => a.partnerCredentialId = some id
        | none => []
      let branchMatches := aliases.filter fun a : ProductAlias =>
        a.partnerCredentialId = none ∧ a.branchId = some branchId
      let tenantMatches := aliases.filter fun a : ProductAlias =>
        a.partnerCredentialId = none ∧ a.branchId = none
      match partnerMatches, branchMatches, tenantMatches with
      | _ :: _ :: _, _, _ =>
        .error (ambiguous s!"partner credential {partnerCredentialId.getD 0}")
      | [a], _, _ => .ok (some a.productId)
      | [], _ :: _ :: _, _ => .error (ambiguous s!"branch {branchId}")
      | [], [a], _ => .ok (some a.productId)
      | [], [], _ :: _ :: _ => .error (ambiguous s!"retail tenant {retailTenantId}")
      | [], [], [a] => .ok (some a.productId)
      | [], [], [] => .ok none

end ProductAliases

end SuuqBackend
