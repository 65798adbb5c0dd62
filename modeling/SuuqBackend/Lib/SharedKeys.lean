import SuuqBackend.Lib.Run
import SuuqBackend.Lib.Table

/-!
# Rows that several owners keep under keys of their own choice

A table keeps at most one row under a key, whoever owns it.  A request of an owner may return the row that is there
under its key (`reuses`); otherwise it may be refused, fails if the key is taken, and makes its row if it is not.

* `Request.Clear`: the request does not meet the row of another owner.
* `clear_iff`: the requests that are clear are those that return a row of their owner, or none, and that the rows of
  another owner make no difference to.
* `along_of_answers`, `isolated_of_along`: a run keeps its owners apart if and only if every request of it is clear.
* `byKey`, `Keyed`: the rows of a `SerialTable` by their keys.
-/

namespace SuuqBackend.SharedKeys

set_option linter.unusedSectionVars false

variable {κ ρ ω ε : Type*} [DecidableEq κ] [DecidableEq ω]

/-- A request of an owner for a row under a key. -/
structure Request (κ ρ ω ε : Type*) where
  owner : ω
  key : κ
  /-- The row that is there is returned. -/
  reuses : Bool
  /-- Why no row can be made. -/
  refusal : Option ε
  row : ρ

abbrev Rows (κ ρ : Type*) : Type _ := κ → Option ρ

namespace Request

variable (taken : ε) (rows : Rows κ ρ) (r : Request κ ρ ω ε)

def answer : Except ε ρ :=
  match rows r.key with
  | some row => if r.reuses then .ok row else .error (r.refusal.getD taken)
  | none => match r.refusal with
    | some e => .error e
    | none => .ok r.row

def step : Rows κ ρ :=
  match rows r.key, r.refusal with
  | none, none => Function.update rows r.key (some r.row)
  | _, _ => rows

end Request

def answers (taken : ε) : Rows κ ρ → List (Request κ ρ ω ε) → List (ω × Except ε ρ)
  | _, [] => []
  | rows, r :: rs => (r.owner, r.answer taken rows) :: answers taken (r.step rows) rs

def stored (rows : Rows κ ρ) (rs : List (Request κ ρ ω ε)) : Rows κ ρ := Run.after (fun rows r => r.step rows) rows rs

section Owners

variable (ownerOf : ρ → ω)

def without (owner : ω) (rows : Rows κ ρ) : Rows κ ρ := fun key => (rows key).filter fun row => ownerOf row ≠ owner

def others (owner : ω) (rs : List (Request κ ρ ω ε)) : List (Request κ ρ ω ε) := rs.filter fun r => r.owner ≠ owner

/-- If there is a row under the key and the request is not refused before it is met, it is one of its owner. -/
def Request.Clear (rows : Rows κ ρ) (r : Request κ ρ ω ε) : Prop :=
  ∀ row ∈ rows r.key, r.reuses ∨ r.refusal = none → ownerOf row = r.owner

instance (rows : Rows κ ρ) (r : Request κ ρ ω ε) : Decidable (r.Clear ownerOf rows) :=
  match h : rows r.key with
  | none => .isTrue fun row hrow => by
    rw [h] at hrow
    cases hrow
  | some row => by
    refine decidable_of_iff (¬ (r.reuses ∨ r.refusal.isNone) ∨ ownerOf row = r.owner) ⟨fun hor row' hrow hmet => ?_, ?_⟩
    · rw [h] at hrow
      obtain rfl := Option.some.inj hrow
      rw [← Option.isNone_iff_eq_none] at hmet
      exact hor.resolve_left (not_not_intro hmet)
    · intro hclear
      by_cases hmet : r.reuses ∨ r.refusal.isNone
      · exact Or.inr (hclear row h (by rwa [← Option.isNone_iff_eq_none]))
      · exact Or.inl hmet

/-- **The owners of a run are kept apart**: a request returns only a row of its owner, and without the requests of an
owner the others would be answered the same and leave the same rows. -/
structure Isolated (taken : ε) (rows : Rows κ ρ) (rs : List (Request κ ρ ω ε)) : Prop where
  own : ∀ owner row, (owner, .ok row) ∈ answers taken rows rs → ownerOf row = owner
  answered : ∀ owner, (answers taken rows rs).filter (fun answer => answer.1 ≠ owner) =
    answers taken (without ownerOf owner rows) (others owner rs)
  left : ∀ owner, without ownerOf owner (stored rows rs) = stored (without ownerOf owner rows) (others owner rs)

variable {ownerOf} {taken : ε} {rows : Rows κ ρ} {r : Request κ ρ ω ε} {rs : List (Request κ ρ ω ε)} {owner : ω}

/-! ### One request -/

variable {key : κ}

variable {row : ρ}

theorem without_of_ne (h : rows key = some row) (hown : ownerOf row ≠ owner) :
    without ownerOf owner rows key = some row := by
  unfold without
  rw [h, Option.filter_some, if_pos (decide_eq_true hown)]

theorem without_of_eq (h : rows key = some row) (hown : ownerOf row = owner) :
    without ownerOf owner rows key = none := by
  unfold without
  rw [h, Option.filter_some, if_neg (by simpa using hown)]

theorem without_of_none (h : rows key = none) : without ownerOf owner rows key = none := by
  unfold without
  rw [h]
  rfl

theorem without_update (hown : ownerOf row ≠ owner) :
    without ownerOf owner (Function.update rows key (some row)) =
      Function.update (without ownerOf owner rows) key (some row) := by
  funext key'
  by_cases hkey : key' = key
  · subst hkey
    rw [Function.update_self]
    exact without_of_ne (Function.update_self ..) hown
  · rw [Function.update_of_ne hkey]
    unfold without
    rw [Function.update_of_ne hkey]

/-- A new row of the owner that is left out. -/
theorem without_update_self (hnone : rows key = none) (hown : ownerOf row = owner) :
    without ownerOf owner (Function.update rows key (some row)) = without ownerOf owner rows := by
  funext key'
  by_cases hkey : key' = key
  · subst hkey
    rw [without_of_none hnone]
    exact without_of_eq (Function.update_self ..) hown
  · unfold without
    rw [Function.update_of_ne hkey]

theorem Request.answer_of_some (h : rows r.key = some row) :
    r.answer taken rows = if r.reuses then .ok row else .error (r.refusal.getD taken) := by
  unfold Request.answer
  rw [h]

theorem Request.answer_of_none (h : rows r.key = none) :
    r.answer taken rows = match r.refusal with
      | some e => .error e
      | none => .ok r.row := by
  unfold Request.answer
  rw [h]

theorem Request.step_of_some (h : rows r.key = some row) : r.step rows = rows := by
  unfold Request.step
  rw [h]

theorem Request.step_of_refusal {e : ε} (h : r.refusal = some e) : r.step rows = rows := by
  unfold Request.step
  rw [h]
  cases rows r.key <;> rfl

theorem Request.step_of_none (h : rows r.key = none) (hnone : r.refusal = none) :
    r.step rows = Function.update rows r.key (some r.row) := by
  unfold Request.step
  rw [h, hnone]

variable (taken) in
/-- **A request that is clear** does not see the rows of another owner. -/
theorem Request.Clear.without (h : r.Clear ownerOf rows) (hrow : ownerOf r.row = r.owner) (hother : r.owner ≠ owner) :
    r.answer taken (without ownerOf owner rows) = r.answer taken rows ∧
      r.step (without ownerOf owner rows) = SharedKeys.without ownerOf owner (r.step rows) := by
  cases hfound : rows r.key with
  | none =>
    have hgone : SharedKeys.without ownerOf owner rows r.key = none := without_of_none hfound
    refine ⟨by rw [answer_of_none hgone, answer_of_none hfound], ?_⟩
    cases hrefusal : r.refusal with
    | some e => rw [step_of_refusal hrefusal, step_of_refusal hrefusal]
    | none =>
      have hown : ownerOf r.row ≠ owner := by rwa [hrow]
      rw [step_of_none hgone hrefusal, step_of_none hfound hrefusal, without_update hown]
  | some row =>
    rw [step_of_some hfound]
    by_cases hmet : r.reuses ∨ r.refusal = none
    · have hown : ownerOf row ≠ owner := by rwa [h row hfound hmet]
      have hstays : SharedKeys.without ownerOf owner rows r.key = some row := without_of_ne hfound hown
      exact ⟨by rw [answer_of_some hstays, answer_of_some hfound], step_of_some hstays⟩
    · -- The request is refused whether the row is there or not.
      obtain ⟨hnew, hrefused⟩ := not_or.mp hmet
      obtain ⟨e, he⟩ := Option.ne_none_iff_exists'.mp hrefused
      refine ⟨?_, step_of_refusal he⟩
      rw [answer_of_some hfound, if_neg hnew, he]
      cases hstays : SharedKeys.without ownerOf owner rows r.key with
      | none => rw [answer_of_none hstays, he, Option.getD_some]
      | some row' => rw [answer_of_some hstays, if_neg hnew, he]

theorem Request.without_step (hrow : ownerOf r.row = r.owner) :
    without ownerOf r.owner (r.step rows) = without ownerOf r.owner rows := by
  cases hfound : rows r.key with
  | some row => rw [step_of_some hfound]
  | none =>
    cases hrefusal : r.refusal with
    | some e => rw [step_of_refusal hrefusal]
    | none => rw [step_of_none hfound hrefusal, without_update_self hfound hrow]

variable (taken) in
/-- **When a request is clear.** -/
theorem Request.clear_iff (hrow : ownerOf r.row = r.owner) : r.Clear ownerOf rows ↔
    (∀ row, r.answer taken rows = .ok row → ownerOf row = r.owner) ∧
      ∀ owner, r.owner ≠ owner → r.answer taken (SharedKeys.without ownerOf owner rows) = r.answer taken rows := by
  constructor
  · intro h
    refine ⟨fun row hok => ?_, fun owner hother => (h.without taken hrow hother).1⟩
    cases hfound : rows r.key with
    | some found =>
      rw [answer_of_some hfound] at hok
      split_ifs at hok with hreuses
      obtain rfl := Except.ok.inj hok
      exact h found hfound (.inl hreuses)
    | none =>
      rw [answer_of_none hfound] at hok
      cases hrefusal : r.refusal with
      | some e =>
        rw [hrefusal] at hok
        cases hok
      | none =>
        rw [hrefusal] at hok
        rw [← Except.ok.inj hok]
        exact hrow
  · rintro ⟨hown, hsame⟩ row hfound hmet
    by_contra hother
    cases hreuses : r.reuses with
    | true =>
      refine hother (hown row ?_)
      rw [answer_of_some hfound, if_pos hreuses]
    | false =>
      rw [hreuses] at hmet
      have hnone : r.refusal = none := hmet.resolve_left Bool.false_ne_true
      have hgone : SharedKeys.without ownerOf (ownerOf row) rows r.key = none := without_of_eq hfound rfl
      have hanswers := hsame (ownerOf row) (Ne.symm hother)
      rw [answer_of_none hgone, answer_of_some hfound, hnone, hreuses] at hanswers
      cases hanswers

/-! ### Runs -/

theorem answers_cons (rs : List (Request κ ρ ω ε)) :
    answers taken rows (r :: rs) = (r.owner, r.answer taken rows) :: answers taken (r.step rows) rs := rfl

theorem filter_answers_cons_of_ne (h : r.owner ≠ owner) (rs : List (Request κ ρ ω ε)) :
    (answers taken rows (r :: rs)).filter (fun answer => answer.1 ≠ owner) =
      (r.owner, r.answer taken rows) :: (answers taken (r.step rows) rs).filter fun answer => answer.1 ≠ owner :=
  List.filter_cons_of_pos (decide_eq_true h)

theorem filter_answers_cons_self (rs : List (Request κ ρ ω ε)) :
    (answers taken rows (r :: rs)).filter (fun answer => answer.1 ≠ r.owner) =
      (answers taken (r.step rows) rs).filter fun answer => answer.1 ≠ r.owner :=
  List.filter_cons_of_neg (by simp)

theorem stored_cons (rs : List (Request κ ρ ω ε)) : stored rows (r :: rs) = stored (r.step rows) rs := rfl

theorem others_cons_self (rs : List (Request κ ρ ω ε)) : others r.owner (r :: rs) = others r.owner rs :=
  List.filter_cons_of_neg (by simp)

theorem others_cons_of_ne (h : r.owner ≠ owner) (rs : List (Request κ ρ ω ε)) :
    others owner (r :: rs) = r :: others owner rs :=
  List.filter_cons_of_pos (decide_eq_true h)

/-- A run whose answers keep the owners apart has only requests that are clear. -/
theorem along_of_answers {rs : List (Request κ ρ ω ε)} (hrs : ∀ r ∈ rs, ownerOf r.row = r.owner) {rows : Rows κ ρ}
    (hown : ∀ owner row, (owner, .ok row) ∈ answers taken rows rs → ownerOf row = owner)
    (hanswered : ∀ owner, (answers taken rows rs).filter (fun answer => answer.1 ≠ owner) =
      answers taken (without ownerOf owner rows) (others owner rs)) :
    Run.Along (fun rows r => r.step rows) (fun rows r => r.Clear ownerOf rows) rows rs := by
  induction rs generalizing rows with
  | nil => trivial
  | cons r rs ih =>
    have hrow := hrs r List.mem_cons_self
    have hsame (owner : ω) (hother : r.owner ≠ owner) :
        r.answer taken (without ownerOf owner rows) = r.answer taken rows ∧
          (answers taken (r.step rows) rs).filter (fun answer => answer.1 ≠ owner) =
            answers taken (r.step (without ownerOf owner rows)) (others owner rs) := by
      have hboth := hanswered owner
      rw [filter_answers_cons_of_ne hother, others_cons_of_ne hother] at hboth
      obtain ⟨hhead, htail⟩ := List.cons.inj hboth
      exact ⟨(Prod.mk.inj hhead).2.symm, htail⟩
    have hclear : r.Clear ownerOf rows :=
      (Request.clear_iff taken hrow).mpr
        ⟨fun row hok => hown r.owner row (hok ▸ List.mem_cons_self), fun owner hother => (hsame owner hother).1⟩
    refine ⟨hclear, ih (fun r' h => hrs r' (List.mem_cons_of_mem r h))
      (fun owner row hmem => hown owner row (List.mem_cons_of_mem _ hmem)) fun owner => ?_⟩
    by_cases hother : r.owner = owner
    · have hself := hanswered owner
      subst hother
      rw [filter_answers_cons_self, others_cons_self] at hself
      rw [hself, Request.without_step hrow]
    · rw [(hsame owner hother).2, (hclear.without taken hrow hother).2]

/-- **The owners of a run are kept apart** by requests that are clear. -/
theorem isolated_of_along (taken : ε) {rs : List (Request κ ρ ω ε)} (hrs : ∀ r ∈ rs, ownerOf r.row = r.owner)
    {rows : Rows κ ρ} (h : Run.Along (fun rows r => r.step rows) (fun rows r => r.Clear ownerOf rows) rows rs) :
    Isolated ownerOf taken rows rs := by
  induction rs generalizing rows with
  | nil =>
    refine ⟨fun owner row hmem => ?_, fun owner => rfl, fun owner => rfl⟩
    cases hmem
  | cons r rs ih =>
    have hrow := hrs r List.mem_cons_self
    obtain ⟨hclear, hrest⟩ := h
    have htail := ih (fun r' h => hrs r' (List.mem_cons_of_mem r h)) hrest
    obtain ⟨hown, -⟩ := (Request.clear_iff taken hrow).mp hclear
    refine ⟨fun owner row hmem => ?_, fun owner => ?_, fun owner => ?_⟩
    · rcases List.mem_cons.mp hmem with heq | hmem
      · obtain ⟨howner, hok⟩ := Prod.mk.inj heq
        rw [howner]
        exact hown row hok.symm
      · exact htail.own owner row hmem
    · by_cases hother : r.owner = owner
      · subst hother
        rw [filter_answers_cons_self, others_cons_self, htail.answered, Request.without_step hrow]
      · obtain ⟨hanswer, hstep⟩ := hclear.without taken hrow hother
        rw [filter_answers_cons_of_ne hother, others_cons_of_ne hother, answers_cons, htail.answered, hanswer, hstep]
    · rw [stored_cons, htail.left]
      by_cases hother : r.owner = owner
      · subst hother
        rw [others_cons_self, Request.without_step hrow]
      · rw [others_cons_of_ne hother, stored_cons, (hclear.without taken hrow hother).2]

end Owners

/-! ### Requests for rows of one kind among others -/

section Embed

variable {κ' ρ' : Type*} [DecidableEq κ'] {k : κ → κ'} {g : ρ → ρ'} {rows : Rows κ ρ} {rows' : Rows κ' ρ'}

/-- The request among the other rows. -/
def Request.embed (k : κ → κ') (g : ρ → ρ') (r : Request κ ρ ω ε) : Request κ' ρ' ω ε where
  owner := r.owner
  key := k r.key
  reuses := r.reuses
  refusal := r.refusal
  row := g r.row

theorem Request.answer_embed (h : ∀ key, rows' (k key) = (rows key).map g) (r : Request κ ρ ω ε) (taken : ε) :
    (r.embed k g).answer taken rows' = (r.answer taken rows).map g := by
  unfold Request.answer Request.embed
  rw [h]
  cases rows r.key with
  | some row =>
    split_ifs <;> rfl
  | none => cases r.refusal <;> rfl

theorem Request.step_embed (hk : Function.Injective k) (h : ∀ key, rows' (k key) = (rows key).map g)
    (r : Request κ ρ ω ε) (key : κ) : (r.embed k g).step rows' (k key) = (r.step rows key).map g := by
  unfold Request.step Request.embed
  rw [h]
  cases rows r.key with
  | some row => exact h key
  | none =>
    cases r.refusal with
    | some e => exact h key
    | none =>
      dsimp only [Option.map_none]
      by_cases hkey : key = r.key
      · subst hkey
        rw [Function.update_self, Function.update_self]
        rfl
      · rw [Function.update_of_ne (fun heq => hkey (hk heq)), Function.update_of_ne hkey, h]

theorem Request.step_embed_of_ne {r : Request κ ρ ω ε} {key' : κ'} (h : ∀ key, key' ≠ k key) :
    (r.embed k g).step rows' key' = rows' key' := by
  unfold Request.step Request.embed
  cases rows' (k r.key) with
  | some row => rfl
  | none =>
    cases r.refusal with
    | some e => rfl
    | none => exact Function.update_of_ne (h r.key) _ _

end Embed

/-! ### A table by its keys -/

section Tables

variable {ν : Type} (keyOf : ν → Option κ)

def byKey (t : SerialTable ν) : Rows κ ν := fun key => (t.first fun row => keyOf row = some key).map Prod.snd

/-- Every row has a key of its own. -/
def Keyed (t : SerialTable ν) : Prop :=
  ∀ id row, t.find id = some row → ∃ key, keyOf row = some key ∧ t.first (fun row => keyOf row = some key) = some (id, row)

theorem keyed_empty : Keyed keyOf (SerialTable.empty : SerialTable ν) := by
  intro id row hfind
  cases hfind

variable {keyOf} {t : SerialTable ν} {key : κ} {row : ν}

theorem first_of_byKey_eq_none (h : byKey keyOf t key = none) :
    t.first (fun row => keyOf row = some key) = none := Option.map_eq_none_iff.mp h

theorem Keyed.exists_find_iff (h : Keyed keyOf t) :
    (∃ id, t.find id = some row) ↔ ∃ key, byKey keyOf t key = some row := by
  constructor
  · rintro ⟨id, hfind⟩
    obtain ⟨key, -, hfirst⟩ := h id row hfind
    exact ⟨key, by rw [byKey, hfirst]; rfl⟩
  · rintro ⟨key, hkey⟩
    obtain ⟨⟨id, row'⟩, hfirst, rfl⟩ := Option.map_eq_some_iff.mp hkey
    exact ⟨id, (SerialTable.find_of_first hfirst).1⟩

theorem Keyed.add (h : Keyed keyOf t) (hkey : keyOf row = some key) (hnone : byKey keyOf t key = none) :
    Keyed keyOf (t.add row) := by
  intro id row' hfind
  rcases SerialTable.eq_or_find_of_find_add hfind with ⟨rfl, rfl⟩ | hold
  · exact ⟨key, hkey, SerialTable.first_add_of_eq_none (first_of_byKey_eq_none hnone) (decide_eq_true hkey)⟩
  · obtain ⟨key', hkey', hfirst⟩ := h id row' hold
    exact ⟨key', hkey', SerialTable.first_add hfirst row⟩

/-- A new row under a key that is free. -/
theorem byKey_add (hkey : keyOf row = some key) (hnone : byKey keyOf t key = none) :
    byKey keyOf (t.add row) = Function.update (byKey keyOf t) key (some row) := by
  funext key'
  by_cases hsame : key' = key
  · subst hsame
    rw [Function.update_self, byKey,
      SerialTable.first_add_of_eq_none (first_of_byKey_eq_none hnone) (decide_eq_true hkey)]
    rfl
  · rw [Function.update_of_ne hsame]
    unfold byKey
    cases hfirst : t.first (fun row => keyOf row = some key') with
    | some found =>
      rw [SerialTable.first_add hfirst row]
    | none =>
      cases hadded : (t.add row).first (fun row => keyOf row = some key') with
      | none => rfl
      | some found =>
        obtain ⟨hfind, hmeets⟩ := SerialTable.find_of_first hadded
        rcases SerialTable.eq_or_find_of_find_add hfind with ⟨-, rfl⟩ | hold
        · have hother := (of_decide_eq_true hmeets).symm.trans hkey
          exact absurd (Option.some.inj hother) hsame
        · have hany := SerialTable.any_find_of_first_eq_none hfirst found.1
          rw [hold, Option.any_some, hmeets] at hany
          cases hany

def Request.stepTable (keyOf : ν → Option κ) (r : Request κ ν ω ε) (t : SerialTable ν) : SerialTable ν :=
  match byKey keyOf t r.key, r.refusal with
  | none, none => t.add r.row
  | _, _ => t

variable {r : Request κ ν ω ε}

theorem Request.byKey_stepTable (hkey : keyOf r.row = some r.key) (t : SerialTable ν) :
    byKey keyOf (r.stepTable keyOf t) = r.step (byKey keyOf t) := by
  unfold Request.stepTable Request.step
  cases hfound : byKey keyOf t r.key with
  | some row => rfl
  | none =>
    cases r.refusal with
    | some e => rfl
    | none => exact byKey_add hkey hfound

theorem Keyed.stepTable (h : Keyed keyOf t) (hkey : keyOf r.row = some r.key) : Keyed keyOf (r.stepTable keyOf t) := by
  unfold Request.stepTable
  cases hfound : byKey keyOf t r.key with
  | some row => exact h
  | none =>
    cases r.refusal with
    | some e => exact h
    | none => exact h.add hkey hfound

/-- A handler that finds, refuses or inserts its row as the request says. -/
theorem Request.answer_stepTable {taken : ε} {t' : SerialTable ν} {o : Except ε (ℕ × ν)}
    (hreused : ∀ found, r.reuses = true → t.first (fun row => keyOf row = some r.key) = some found →
      o = .ok found ∧ t' = t)
    (hrefused : ∀ e, (r.reuses = true → byKey keyOf t r.key = none) → r.refusal = some e → o = .error e ∧ t' = t)
    (htaken : r.reuses = false → (byKey keyOf t r.key).isSome → r.refusal = none → o = .error taken ∧ t' = t)
    (hadded : byKey keyOf t r.key = none → r.refusal = none → (∃ id, o = .ok (id, r.row)) ∧ t' = t.add r.row) :
    o.map Prod.snd = r.answer taken (byKey keyOf t) ∧ t' = r.stepTable keyOf t := by
  cases hfound : byKey keyOf t r.key with
  | some row =>
    have hstep : r.stepTable keyOf t = t := by
      unfold Request.stepTable
      rw [hfound]
    rw [answer_of_some hfound, hstep]
    cases hreuses : r.reuses with
    | true =>
      obtain ⟨found, hfirst, rfl⟩ := Option.map_eq_some_iff.mp hfound
      obtain ⟨ho, ht⟩ := hreused found hreuses hfirst
      rw [ho]
      exact ⟨rfl, ht⟩
    | false =>
      cases hrefusal : r.refusal with
      | some e =>
        obtain ⟨ho, ht⟩ := hrefused e (fun h => by rw [hreuses] at h; cases h) hrefusal
        rw [ho]
        exact ⟨rfl, ht⟩
      | none =>
        obtain ⟨ho, ht⟩ := htaken hreuses (Option.isSome_of_mem hfound) hrefusal
        rw [ho]
        exact ⟨rfl, ht⟩
  | none =>
    unfold Request.stepTable
    rw [answer_of_none hfound, hfound]
    cases hrefusal : r.refusal with
    | some e =>
      obtain ⟨ho, ht⟩ := hrefused e (fun _ => hfound) hrefusal
      rw [ho]
      exact ⟨rfl, ht⟩
    | none =>
      obtain ⟨⟨id, ho⟩, ht⟩ := hadded hfound hrefusal
      rw [ho]
      exact ⟨rfl, ht⟩

end Tables

end SuuqBackend.SharedKeys
