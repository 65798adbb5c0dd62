import Mathlib.Data.List.Basic
import Mathlib.Data.Int.Notation

/-!
# Keys that are put together from texts

Facts about the texts `label ++ rest` and `number ++ "-" ++ rest`, which programs use as keys: when two
of them are the same text.

* `toString_inj`, `toString_int_inj`: a number is determined by its decimal digits and its sign.
* `append_ne_append`: two labels of which neither begins the other lead to different texts.
* `toString_dash_inj`: a number before a dash, and what follows, are determined by the text.
-/

namespace SuuqBackend.TextKeys

/-- A number is determined by its decimal digits. -/
theorem toString_inj {m n : ℕ} : toString m = toString n ↔ m = n := by
  constructor
  · intro h
    have hdigits : Nat.toDigits 10 m = Nat.toDigits 10 n := by
      have hlist := congrArg String.toList h
      simpa only [Nat.toString_eq_repr, Nat.toList_repr] using hlist
    have hvalue := congrArg (fun digits => Nat.ofDigitChars 10 digits 0) hdigits
    simpa only [Nat.ofDigitChars_ten_toDigits] using hvalue
  · intro h
    rw [h]

/-- The digits of a number hold no dash. -/
theorem dash_notMem_toString (n : ℕ) : '-' ∉ (toString n).toList := by
  intro hmem
  rw [Nat.toString_eq_repr, Nat.toList_repr] at hmem
  have hdigit : ('-').isDigit = true := Nat.isDigit_of_mem_toDigits (by omega) (by omega) hmem
  exact absurd hdigit (by decide)

/-- An integer is determined by its decimal digits and its sign. -/
theorem toString_int_inj {m n : ℤ} : toString m = toString n ↔ m = n := by
  have hsign : ∀ m n : ℕ, toString m ≠ "-" ++ toString n := by
    intro m n h
    apply dash_notMem_toString m
    rw [h, String.toList_append]
    exact List.mem_append_left _ (by decide)
  constructor
  · intro h
    cases m with
    | ofNat m =>
      cases n with
      | ofNat n => exact congrArg Int.ofNat (toString_inj.mp h)
      | negSucc n => exact absurd h (hsign m (n + 1))
    | negSucc m =>
      cases n with
      | ofNat n => exact absurd h.symm (hsign n (m + 1))
      | negSucc n =>
        have habs : m + 1 = n + 1 := toString_inj.mp ((String.append_right_inj _).mp h)
        exact congrArg Int.negSucc (Nat.succ.inj habs)
  · intro h
    rw [h]

/-- What stands before the first dash. -/
theorem takeWhile_dash {before rest : List Char} (h : '-' ∉ before) :
    (before ++ '-' :: rest).takeWhile (· ≠ '-') = before := by
  have hall : ∀ c ∈ before, (decide (c ≠ '-')) = true := by
    intro c hc
    simp only [decide_eq_true_eq]
    rintro rfl
    exact h hc
  rw [List.takeWhile_append_of_pos hall]
  simp

/-- A number before a dash, and what follows, are determined by the text. -/
theorem toString_dash_inj {m n : ℕ} {rest rest' : String} :
    toString m ++ "-" ++ rest = toString n ++ "-" ++ rest' ↔ m = n ∧ rest = rest' := by
  constructor
  · intro h
    have hlist := congrArg String.toList h
    have hdash : "-".toList = ['-'] := by decide
    simp only [String.toList_append, hdash, List.append_assoc, List.singleton_append] at hlist
    -- the dash after the number is the first one on both sides
    have hnumber : (toString m).toList = (toString n).toList := by
      have htake := congrArg (List.takeWhile (· ≠ '-')) hlist
      rwa [takeWhile_dash (dash_notMem_toString m), takeWhile_dash (dash_notMem_toString n)] at htake
    rw [hnumber] at hlist
    have hrest : rest.toList = rest'.toList := (List.cons.inj (List.append_cancel_left hlist)).2
    exact ⟨toString_inj.mp (String.toList_inj.mp hnumber), String.toList_inj.mp hrest⟩
  · rintro ⟨rfl, rfl⟩
    rfl

/-- Two labels of which neither begins the other lead to different texts. -/
theorem append_ne_append {label label' : String} (h : ¬ label.toList <+: label'.toList)
    (h' : ¬ label'.toList <+: label.toList) (rest rest' : String) : label ++ rest ≠ label' ++ rest' := by
  intro heq
  have hlist : label.toList ++ rest.toList = label'.toList ++ rest'.toList := by
    have hlist := congrArg String.toList heq
    simpa only [String.toList_append] using hlist
  have hprefix : label.toList <+: label'.toList ++ rest'.toList := ⟨rest.toList, hlist⟩
  have hprefix' : label'.toList <+: label'.toList ++ rest'.toList := List.prefix_append _ _
  rcases List.prefix_or_prefix_of_prefix hprefix hprefix' with hbegins | hbegins
  · exact h hbegins
  · exact h' hbegins

end SuuqBackend.TextKeys
