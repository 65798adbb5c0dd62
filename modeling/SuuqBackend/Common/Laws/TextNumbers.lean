import Mathlib.Data.List.DropRight
import SuuqBackend.Common.Texts

/-!
# Texts without white space around them

* `trim_trim`: what `trim` returns has none.
* `trim_append`: neither has a text that is put together from two such texts.
-/

namespace SuuqBackend

variable {a b text : String}

theorem toList_trim (text : String) :
    (trim text).toList = (text.toList.dropWhile isWhiteSpace).rdropWhile isWhiteSpace := by
  unfold trim List.rdropWhile
  rw [String.toList_ofList]

theorem trim_eq_self_iff : trim text = text ↔
    text.toList.dropWhile isWhiteSpace = text.toList ∧ text.toList.rdropWhile isWhiteSpace = text.toList := by
  rw [← String.toList_inj, toList_trim]
  constructor
  · intro h
    have hprefix := List.rdropWhile_prefix isWhiteSpace (text.toList.dropWhile isWhiteSpace)
    have hsuffix := List.dropWhile_suffix (l := text.toList) isWhiteSpace
    rw [h] at hprefix
    have hdrop : text.toList.dropWhile isWhiteSpace = text.toList :=
      hsuffix.eq_of_length (le_antisymm hsuffix.length_le hprefix.length_le)
    rw [hdrop] at h
    exact ⟨hdrop, h⟩
  · rintro ⟨hdrop, hrdrop⟩
    rw [hdrop, hrdrop]

theorem trim_trim (text : String) : trim (trim text) = trim text := by
  rw [trim_eq_self_iff, toList_trim]
  refine ⟨?_, List.rdropWhile_idempotent _ _⟩
  rw [List.dropWhile_eq_self_iff]
  intro hpos
  have hprefix := List.rdropWhile_prefix isWhiteSpace (text.toList.dropWhile isWhiteSpace)
  rw [List.IsPrefix.getElem hprefix hpos]
  exact List.dropWhile_get_zero_not _ _ _

theorem trim_append (ha : trim a = a) (hb : trim b = b) (hane : a ≠ "") (hbne : b ≠ "") : trim (a ++ b) = a ++ b := by
  have hanil : a.toList ≠ [] := by rwa [Ne, String.toList_eq_nil_iff]
  have hbnil : b.toList ≠ [] := by rwa [Ne, String.toList_eq_nil_iff]
  obtain ⟨hdrop, -⟩ := trim_eq_self_iff.mp ha
  obtain ⟨-, hrdrop⟩ := trim_eq_self_iff.mp hb
  rw [trim_eq_self_iff, String.toList_append]
  constructor
  · rw [List.dropWhile_append, hdrop]
    simp [hanil]
  · rw [List.rdropWhile_eq_self_iff] at hrdrop ⊢
    intro hne
    rw [List.getLast_append_of_ne_nil _ hbnil]
    exact hrdrop hbnil

theorem isWhiteSpace_of_isDigit {c : Char} (h : c.isDigit) : isWhiteSpace c = false := by
  unfold Char.isDigit at h
  have hlist := List.all_eq_true.mp (show ([0x9, 0xA, 0xB, 0xC, 0xD, 0x20, 0xA0, 0x1680, 0x2028, 0x2029, 0x202F,
      0x205F, 0x3000, 0xFEFF] : List UInt32).all (fun w => w < 48 ∨ 57 < w) = true by decide)
  unfold isWhiteSpace
  rw [Bool.or_eq_false_iff, Bool.and_eq_false_iff, decide_eq_false_iff_not]
  refine ⟨fun hmem => ?_, .inl ?_⟩
  · grind
  · grind

theorem trim_of_forall (h : ∀ c ∈ text.toList, isWhiteSpace c = false) : trim text = text := by
  rw [trim_eq_self_iff, List.dropWhile_eq_self_iff, List.rdropWhile_eq_self_iff]
  constructor
  · intro hpos
    rw [h _ (List.getElem_mem hpos)]
    exact Bool.false_ne_true
  · intro hne
    rw [h _ (List.getLast_mem hne)]
    exact Bool.false_ne_true

theorem trim_toString (n : ℕ) : trim (toString n) = toString n := by
  refine trim_of_forall fun c hc => ?_
  rw [Nat.toString_eq_repr, Nat.toList_repr] at hc
  exact isWhiteSpace_of_isDigit (Nat.isDigit_of_mem_toDigits (by omega) (by omega) hc)

end SuuqBackend

/-!
## Numbers in texts, read back

What the functions that find numbers in a text make of the digits of a number (`parseInt_toString`,
`numberAfter_toString`, `firstNumber_label`), and of a text that begins with something else.
-/

namespace SuuqBackend.Texts

/-! ### Parts -/

variable {separator d : Char} {start label : String} {rest' : List Char}

theorem split_append {before between : String} (hbetween : between.toList = [separator])
    (h : separator ∉ before.toList) (rest : String) :
    split (before ++ (between ++ rest)) separator = before :: split rest separator := by
  unfold split
  rw [String.toList_append, String.toList_append, hbetween, List.singleton_append,
    List.splitOn_append_cons_self_of_not_mem h, List.map_cons, String.ofList_toList]

variable {text : String} {c : Char} {rest : List Char}

theorem split_of_notMem (h : separator ∉ text.toList) : split text separator = [text] := by
  unfold split
  rw [List.splitOn_eq_singleton h, List.map_singleton, String.ofList_toList]

/-! ### Digits -/

theorem isDigit_of_mem_toString {n : ℕ} (h : c ∈ (toString n).toList) : c.isDigit = true := by
  rw [Nat.toString_eq_repr, Nat.toList_repr] at h
  exact Nat.isDigit_of_mem_toDigits (by omega) (by omega) h

variable (n : ℕ)

theorem toList_toString_ne_nil : (toString n).toList ≠ [] := by
  rw [Nat.toString_eq_repr, Nat.toList_repr]
  exact Nat.toDigits_ne_nil

theorem numberOf_toString : numberOf (toString n).toList = n := by
  have hfold := Nat.ofDigitChars_ten_toDigits (n := n)
  rw [Nat.toString_eq_repr, Nat.toList_repr]
  rwa [Nat.ofDigitChars_eq_foldl] at hfold

theorem takeWhile_isDigit_toString (h : ∀ c ∈ rest.head?, c.isDigit = false) :
    ((toString n).toList ++ rest).takeWhile Char.isDigit = (toString n).toList := by
  rw [List.takeWhile_append_of_pos fun c hc => isDigit_of_mem_toString hc]
  cases rest with
  | nil => rw [List.takeWhile_nil, List.append_nil]
  | cons c rest => rw [List.takeWhile_cons_of_neg (by simpa using h c rfl), List.append_nil]

/-! ### `(\d+)$` -/

theorem numberAfter_append (start : String) (n : ℕ) : numberAfter start (start ++ toString n) = some n := by
  have hstart : StartsWith (start ++ toString n) start := by
    unfold StartsWith
    rw [String.toList_append, List.isPrefixOf_iff_prefix]
    exact List.prefix_append _ _
  have hall : (toString n).toList.all Char.isDigit = true :=
    List.all_eq_true.mpr fun c hc => isDigit_of_mem_toString hc
  unfold numberAfter
  rw [String.toList_append, List.drop_left, if_pos ⟨hstart, toList_toString_ne_nil n, hall⟩, numberOf_toString]

theorem numberAfter_toString : numberAfter "" (toString n) = some n := by
  have happend := numberAfter_append "" n
  rwa [String.empty_append] at happend

theorem numberAfter_of_not_startsWith (h : ¬ StartsWith text start) : numberAfter start text = none := by
  exact if_neg fun hall => h hall.1

theorem not_startsWith_of_head
    (htext : text.toList = c :: rest) (hstart : start.toList = d :: rest') (h : c ≠ d) : ¬ StartsWith text start := by
  unfold StartsWith
  rw [htext, hstart, List.isPrefixOf_cons_cons, Bool.and_eq_true, beq_iff_eq]
  exact fun hboth => h hboth.1.symm

theorem numberAfter_empty_of_head (htext : text.toList = c :: rest)
    (h : c.isDigit = false) : numberAfter "" text = none := by
  unfold numberAfter
  dsimp only
  rw [String.toList_empty, List.length_nil, List.drop_zero, htext, List.all_cons, h]
  exact if_neg fun hall => Bool.false_ne_true hall.2.2

theorem trim_append_prefix {before : List Char} (htext : text.toList = before ++ rest)
    (hne : before ≠ []) (h : ∀ c ∈ before, isWhiteSpace c = false) : ∃ rest', (trim text).toList = before ++ rest' := by
  have hdrop : (before ++ rest).dropWhile isWhiteSpace = before ++ rest := by
    rw [List.dropWhile_eq_self_iff]
    intro hpos
    rw [List.getElem_append_left (List.length_pos_of_ne_nil hne), h _ (List.getElem_mem _)]
    exact Bool.false_ne_true
  have hkept : before.reverse.dropWhile isWhiteSpace = before.reverse := by
    rw [List.dropWhile_eq_self_iff]
    intro hpos
    rw [h _ (List.mem_reverse.mp (List.getElem_mem hpos))]
    exact Bool.false_ne_true
  rw [toList_trim, htext, hdrop]
  unfold List.rdropWhile
  rw [List.reverse_append, List.dropWhile_append, hkept]
  split_ifs
  · exact ⟨[], by rw [List.reverse_reverse, List.append_nil]⟩
  · exact ⟨_, by rw [List.reverse_append, List.reverse_reverse]⟩

theorem trim_head (htext : text.toList = c :: rest)
    (h : isWhiteSpace c = false) : ∃ rest', (trim text).toList = c :: rest' :=
  trim_append_prefix htext (List.cons_ne_nil c []) fun _ hd => by rwa [List.mem_singleton.mp hd]

/-! ### `(\d+)` -/

theorem firstNumber_label {rest : String} (hlabel : ∀ c ∈ label.toList, c.isDigit = false) (n : ℕ)
    (hrest : ∀ c ∈ rest.toList.head?, c.isDigit = false) : firstNumber (label ++ (toString n ++ rest)) = some n := by
  have hdrop : (label ++ (toString n ++ rest)).toList.dropWhile (fun c => !c.isDigit) =
      (toString n).toList ++ rest.toList := by
    rw [String.toList_append, String.toList_append, List.dropWhile_append_of_pos fun c hc => by
      rw [hlabel c hc]
      rfl]
    rcases hdigits : (toString n).toList with _ | ⟨c, digits⟩
    · exact absurd hdigits (toList_toString_ne_nil n)
    · have hdigit : c.isDigit = true := isDigit_of_mem_toString (n := n) (by rw [hdigits]; exact List.mem_cons_self)
      rw [List.cons_append, List.dropWhile_cons_of_neg]
      rw [hdigit]
      exact Bool.false_ne_true
  unfold firstNumber
  rw [hdrop, takeWhile_isDigit_toString n hrest, if_neg (toList_toString_ne_nil n), numberOf_toString]

theorem firstNumber_of_numberAfter {n : ℕ} (h : numberAfter "" text = some n) : firstNumber text = some n := by
  unfold numberAfter at h
  dsimp only at h
  rw [String.toList_empty, List.length_nil, List.drop_zero] at h
  split_ifs at h with hdigits
  obtain ⟨-, hne, hall⟩ := hdigits
  have hdigit := List.all_eq_true.mp hall
  have hdrop : text.toList.dropWhile (fun c => !c.isDigit) = text.toList := by
    rw [List.dropWhile_eq_self_iff]
    intro hpos
    rw [hdigit _ (List.getElem_mem hpos)]
    exact Bool.false_ne_true
  have htake : text.toList.takeWhile Char.isDigit = text.toList := List.takeWhile_eq_self_iff.mpr hdigit
  unfold firstNumber
  rw [hdrop, htake, if_neg hne]
  exact h

/-! ### `parseInt` -/

theorem digitValue_of_isDigit (h : c.isDigit = true) : digitValue 10 c = some (c.toNat - 48) := by
  unfold Char.isDigit at h
  rw [Bool.and_eq_true, decide_eq_true_eq, decide_eq_true_eq] at h
  have hrange : '0' ≤ c ∧ c ≤ '9' := h
  have hle : c.toNat ≤ 57 := h.2
  unfold digitValue
  rw [if_pos hrange]
  exact Option.filter_some_pos (decide_eq_true (by omega))

theorem filterMap_digitValue (digits : List Char) (h : ∀ c ∈ digits, c.isDigit = true) :
    digits.takeWhile (fun c => (digitValue 10 c).isSome) = digits ∧
      ∀ n : ℤ, (digits.filterMap (digitValue 10)).foldl (fun (n : ℤ) (digit : ℕ) => (10 : ℕ) * n + digit) n =
        digits.foldl (fun (n : ℤ) c => 10 * n + (c.toNat - 48 : ℕ)) n := by
  constructor
  · refine List.takeWhile_eq_self_iff.mpr fun c hc => ?_
    rw [digitValue_of_isDigit (h c hc)]
    rfl
  · induction digits with
    | nil => exact fun n => rfl
    | cons c digits ih =>
      intro n
      rw [List.filterMap_cons_some (digitValue_of_isDigit (h c List.mem_cons_self))]
      exact ih (fun d hd => h d (List.mem_cons_of_mem c hd)) _

theorem foldl_digits_cast (digits : List Char) (n : ℕ) :
    digits.foldl (fun (n : ℤ) c => 10 * n + (c.toNat - 48 : ℕ)) (n : ℤ) =
      (digits.foldl (fun n c => 10 * n + (c.toNat - 48)) n : ℕ) := by
  induction digits generalizing n with
  | nil => rfl
  | cons c digits ih =>
    rw [List.foldl_cons, List.foldl_cons, ← ih]
    rfl

theorem splitSign_of_isDigit (h : c.isDigit = true) : splitSign (c :: rest) = (false, c :: rest) := by
  unfold splitSign
  split
  · next heq =>
    obtain ⟨rfl, -⟩ := List.cons_eq_cons.mp heq
    exact absurd h (by decide)
  · next heq =>
    obtain ⟨rfl, -⟩ := List.cons_eq_cons.mp heq
    exact absurd h (by decide)
  · rfl

theorem splitRadix_of_isDigit {digits : List Char} (h : ∀ c ∈ digits, c.isDigit = true) :
    splitRadix digits = (10, digits) := by
  unfold splitRadix
  split
  · exact absurd (h 'x' (List.mem_cons_of_mem _ List.mem_cons_self)) (by decide)
  · exact absurd (h 'X' (List.mem_cons_of_mem _ List.mem_cons_self)) (by decide)
  · rfl

theorem parseInt_toString : parseInt (toString n) = some (n : ℤ) := by
  have hdigits : ∀ c ∈ (toString n).toList, c.isDigit = true := fun c hc => isDigit_of_mem_toString hc
  obtain ⟨c, rest, hlist⟩ := List.exists_cons_of_ne_nil (toList_toString_ne_nil n)
  have hc : c.isDigit = true := hdigits c (by rw [hlist]; exact List.mem_cons_self)
  have hdrop : (toString n).toList.dropWhile isWhiteSpace = (toString n).toList := by
    rw [hlist, List.dropWhile_cons_of_neg]
    rw [isWhiteSpace_of_isDigit hc]
    exact Bool.false_ne_true
  have hsign : splitSign (toString n).toList = (false, (toString n).toList) := by
    rw [hlist]
    exact splitSign_of_isDigit hc
  obtain ⟨htake, hfold⟩ := filterMap_digitValue (toString n).toList hdigits
  have hvalue : (toString n).toList.foldl (fun n c => 10 * n + (c.toNat - 48)) 0 = n := numberOf_toString n
  have hne : (toString n).toList.filterMap (digitValue 10) ≠ [] := by
    rw [hlist, List.filterMap_cons_some (digitValue_of_isDigit hc)]
    exact List.cons_ne_nil _ _
  have hcast := foldl_digits_cast (toString n).toList 0
  rw [hvalue] at hcast
  unfold parseInt
  rw [hdrop, hsign]
  dsimp only
  rw [splitRadix_of_isDigit hdigits]
  have hcoe : (do let digit ← (toString n).toList.filterMap (digitValue 10); pure (digit : ℤ)) =
      ((toString n).toList.filterMap (digitValue 10)).map Nat.cast := List.flatMap_pure_eq_map _ _
  rw [htake, if_neg hne, hcoe, List.foldl_map, hfold]
  exact congrArg some hcast

theorem parseInt_of_head (htext : text.toList = c :: rest)
    (hspace : isWhiteSpace c = false) (hsign : c ≠ '-' ∧ c ≠ '+' ∧ c ≠ '0') (hdigit : digitValue 10 c = none) :
    parseInt text = none := by
  have hdrop : text.toList.dropWhile isWhiteSpace = c :: rest := by
    rw [htext, List.dropWhile_cons_of_neg]
    rw [hspace]
    exact Bool.false_ne_true
  have hunsigned : splitSign (c :: rest) = (false, c :: rest) := by
    unfold splitSign
    split
    · next heq => exact absurd (List.cons_eq_cons.mp heq).1 hsign.1
    · next heq => exact absurd (List.cons_eq_cons.mp heq).1 hsign.2.1
    · rfl
  have hradix : splitRadix (c :: rest) = (10, c :: rest) := by
    unfold splitRadix
    split
    · next heq => exact absurd (List.cons_eq_cons.mp heq).1 hsign.2.2
    · next heq => exact absurd (List.cons_eq_cons.mp heq).1 hsign.2.2
    · rfl
  unfold parseInt
  rw [hdrop, hunsigned]
  dsimp only
  rw [hradix]
  rw [List.takeWhile_cons_of_neg, List.filterMap_nil, if_pos rfl]
  rw [hdigit]
  exact Bool.false_ne_true

/-! ### `replace` -/

theorem remove_append (h : label ≠ "") (text : String) : remove (label ++ text) label = text := by
  obtain ⟨c, rest, hlabel⟩ := List.exists_cons_of_ne_nil (String.toList_eq_nil_iff.not.mpr h)
  have hprefix : label.toList.isPrefixOf (c :: (rest ++ text.toList)) = true := by
    rw [List.isPrefixOf_iff_prefix, ← List.cons_append, ← hlabel]
    exact List.prefix_append _ _
  unfold remove
  rw [String.toList_append, hlabel, List.cons_append, ← hlabel]
  unfold withoutFirst
  rw [if_pos hprefix, ← List.cons_append, ← hlabel, List.drop_left, String.ofList_toList]

theorem remove_head {pattern : String} (htext : text.toList = c :: rest)
    (hpattern : pattern.toList = d :: rest') (h : c ≠ d) : ∃ rest'', (remove text pattern).toList = c :: rest'' := by
  have hnot := not_startsWith_of_head htext hpattern h
  unfold StartsWith at hnot
  rw [htext] at hnot
  unfold remove
  rw [htext, String.toList_ofList]
  unfold withoutFirst
  rw [if_neg hnot]
  exact ⟨_, rfl⟩

end SuuqBackend.Texts
