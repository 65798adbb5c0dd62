import Mathlib.Data.List.Basic

/-!
# Signed tokens

A scheme that signs payloads with keys: a token is opened with the key that signed it, and with no other.  A verifier
that tries several keys accepts a token if and only if its key is among them, whatever their order (`openAny_sign`).
-/

namespace SuuqBackend

/-- Payloads of type `π`, signed with keys of type `κ` into tokens of type `τ`. -/
structure SignatureScheme (κ τ π : Type) where
  sign : κ → π → τ
  /-- The payload, if the token was signed with the key. -/
  openWith : κ → τ → Option π
  openWith_sign : ∀ key payload, openWith key (sign key payload) = some payload
  /-- No other key opens the token. -/
  openWith_sign_of_ne : ∀ key other payload, other ≠ key → openWith other (sign key payload) = none

namespace SignatureScheme

variable {κ τ π : Type}

/-- The scheme whose tokens show their keys. -/
def transparent [DecidableEq κ] : SignatureScheme κ (κ × π) π where
  sign key payload := (key, payload)
  openWith key token := if key = token.1 then some token.2 else none
  openWith_sign _ _ := if_pos rfl
  openWith_sign_of_ne _ _ _ h := if_neg h

variable (C : SignatureScheme κ τ π)

/-- The first payload that one of the keys opens and that is accepted. -/
def openAny (keys : List κ) (accepts : π → Bool) (token : τ) : Option π :=
  keys.findSome? fun key => (C.openWith key token).filter accepts

/-- **A token is accepted under several keys** if its own is among them and its payload is accepted. -/
theorem openAny_sign [DecidableEq κ] (keys : List κ) (accepts : π → Bool) (key : κ) (payload : π) :
    C.openAny keys accepts (C.sign key payload) = if key ∈ keys ∧ accepts payload then some payload else none := by
  unfold openAny
  induction keys with
  | nil => rw [if_neg fun h => List.not_mem_nil h.1]; rfl
  | cons other keys ih =>
    by_cases hkey : other = key
    · subst hkey
      rw [List.findSome?_cons, C.openWith_sign]
      by_cases haccepts : accepts payload = true
      · rw [if_pos ⟨List.mem_cons_self, haccepts⟩, Option.filter_some, if_pos haccepts]
      · -- the other keys accept it no more than this one
        rw [if_neg fun h => haccepts h.2, Option.filter_some, if_neg haccepts, ih, if_neg fun h => haccepts h.2]
    · rw [List.findSome?_cons, C.openWith_sign_of_ne key other payload hkey, Option.filter_none, ih]
      have hmem : key ∈ other :: keys ↔ key ∈ keys := by
        rw [List.mem_cons, or_iff_right fun h => hkey h.symm]
      simp only [hmem]

/-- A token of one key is opened with another only if they are equal. -/
theorem openWith_sign_eq [DecidableEq κ] (key other : κ) (payload : π) :
    C.openWith other (C.sign key payload) = if other = key then some payload else none := by
  split_ifs with h
  · rw [h, C.openWith_sign]
  · exact C.openWith_sign_of_ne key other payload h

end SignatureScheme

/-!
## Salted hashes of passwords

A scheme that hashes a password with a salt, and verifies passwords against what is stored.  What is stored need not be
a hash at all: a password verifies if and only if the stored text is one of its hashes.
-/

structure PasswordHash where
  /-- The hash of a password with a salt. -/
  hash : String → String → String
  verify : String → String → Bool
  verify_iff : ∀ password stored, verify password stored = true ↔ ∃ salt, stored = hash salt password
  /-- Different passwords have no hash in common. -/
  hash_injective : ∀ salt salt' password password', hash salt password = hash salt' password' → password = password'
  /-- No password is one of its hashes. -/
  hash_ne : ∀ salt password, hash salt password ≠ password
  hash_ne_empty : ∀ salt password, hash salt password ≠ ""

namespace PasswordHash

def marked : PasswordHash where
  hash _ password := "#" ++ password
  verify password stored := stored = "#" ++ password
  verify_iff _ _ := ⟨fun h => ⟨"", of_decide_eq_true h⟩, fun ⟨_, h⟩ => decide_eq_true h⟩
  hash_injective _ _ password password' h := by
    have hlist : '#' :: password.toList = '#' :: password'.toList := by
      simpa using congrArg String.toList h
    exact String.toList_inj.mp (List.cons.inj hlist).2
  hash_ne _ password h := by
    have hlength : 1 + password.length = password.length := by
      simpa using congrArg String.length h
    omega
  hash_ne_empty _ password h := by
    have hlength : 1 + password.length = 0 := by
      simpa using congrArg String.length h
    omega

variable (H : PasswordHash)

def HashOf (password stored : String) : Prop := ∃ salt, stored = H.hash salt password

/-- **A hash verifies its password** and no other. -/
theorem HashOf.verify_iff {password stored : String} (h : H.HashOf password stored) (other : String) :
    H.verify other stored = true ↔ other = password := by
  obtain ⟨salt, rfl⟩ := h
  rw [H.verify_iff]
  constructor
  · rintro ⟨salt', heq⟩
    exact (H.hash_injective _ _ _ _ heq).symm
  · rintro rfl
    exact ⟨salt, rfl⟩

/-- A password that is stored as it is does not verify. -/
theorem not_hashOf_self (password : String) : ¬ H.HashOf password password := by
  rintro ⟨salt, heq⟩
  exact H.hash_ne salt password heq.symm

end PasswordHash

end SuuqBackend
