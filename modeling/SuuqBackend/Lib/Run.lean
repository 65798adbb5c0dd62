import Mathlib.Data.List.Basic

/-!
# Runs of a step function

`after step s cs` is the state reached from `s` by the calls `cs`, executed one after another.
`Along step C s cs` says that every call of the run meets `C` in the state it starts from; `C` is
the condition under which a step is claimed to keep an invariant.

* `after_induction`: an invariant kept by every step that meets `C` holds after every run whose
  steps all meet `C`.
* `after_invariant`: the same without a condition.
* `after_filter`: calls that change nothing can be left out.
* `forall_take_iff`: when a step keeps `P` exactly if it meets `C`, all states of a run satisfy `P`
  exactly if all its steps meet `C`; `forall_take_iff_along` is for an invariant that only such steps keep.
* `rel_take`: what relates the states around every step relates any two states of a run, in order;
  `forall_rel_take_iff` says when it does, and `rel_succ` and `forall_succ_iff` are for what relates only the states
  around one step.

A run that meets `C` does so up to each of its states, so the rules speak about every state that it
passes through.
-/

namespace SuuqBackend.Run

variable {σ κ : Type*} (step : σ → κ → σ)

/-- The state after the calls `cs`, executed in order from `s`. -/
def after (s : σ) (cs : List κ) : σ := cs.foldl step s

/-- Every call of the run meets `C` in the state it starts from. -/
def Along (C : σ → κ → Prop) : σ → List κ → Prop
  | _, [] => True
  | s, c :: cs => C s c ∧ Along C (step s c) cs

@[simp] theorem after_nil (s : σ) : after step s [] = s := rfl

@[simp] theorem after_cons (s : σ) (c : κ) (cs : List κ) : after step s (c :: cs) = after step (step s c) cs := rfl

@[simp] theorem along_nil (C : σ → κ → Prop) (s : σ) : Along step C s [] := trivial

@[simp] theorem along_cons (C : σ → κ → Prop) (s : σ) (c : κ) (cs : List κ) :
    Along step C s (c :: cs) ↔ C s c ∧ Along step C (step s c) cs := Iff.rfl

/-- Whether a concrete run meets a decidable condition can be computed. -/
def decidableAlong (C : σ → κ → Prop) [∀ s c, Decidable (C s c)] :
    ∀ (s : σ) (cs : List κ), Decidable (Along step C s cs)
  | _, [] => .isTrue trivial
  | s, c :: cs =>
    have := decidableAlong C (step s c) cs
    inferInstanceAs (Decidable (C s c ∧ Along step C (step s c) cs))

instance (C : σ → κ → Prop) [∀ s c, Decidable (C s c)] (s : σ) (cs : List κ) : Decidable (Along step C s cs) :=
  decidableAlong step C s cs

variable {step} {C : σ → κ → Prop} {P : σ → Prop}

/-- **Invariant rule**: what every step meeting `C` keeps holds after every run meeting `C`. -/
theorem after_induction (hstep : ∀ s c, P s → C s c → P (step s c)) {s : σ} (h0 : P s) :
    ∀ {cs : List κ}, Along step C s cs → P (after step s cs) := by
  intro cs
  induction cs generalizing s with
  | nil => exact fun _ => h0
  | cons c cs ih => exact fun h => ih (hstep s c h0 h.1) h.2

/-- The invariant rule for an invariant that every step keeps. -/
theorem after_invariant (hstep : ∀ s c, P s → P (step s c)) {s : σ} (h0 : P s) (cs : List κ) : P (after step s cs) := by
  induction cs generalizing s with
  | nil => exact h0
  | cons c cs ih => exact ih (hstep s c h0)

variable {cs : List κ} {s : σ} {D : σ → κ → Prop} {I : σ → Prop} {R : σ → σ → Prop}

/-- Calls that change nothing can be left out of a run. -/
theorem after_filter (keep : κ → Bool) (h : Along step (fun s c => keep c = false → step s c = s) s cs) :
    after step s (cs.filter keep) = after step s cs := by
  induction cs generalizing s with
  | nil => rfl
  | cons c cs ih =>
    obtain ⟨hc, hcs⟩ := h
    by_cases hkeep : keep c = true
    · rw [List.filter_cons_of_pos hkeep, after_cons, after_cons, ih hcs]
    · have hsame : step s c = s := hc (Bool.not_eq_true _ ▸ hkeep)
      rw [List.filter_cons_of_neg hkeep, after_cons]
      rw [hsame] at hcs ⊢
      exact ih hcs

theorem along_mono {C : σ → κ → Prop} (h : ∀ s c, C s c → D s c) (hC : Along step C s cs) : Along step D s cs := by
  induction cs generalizing s with
  | nil => trivial
  | cons c cs ih => exact ⟨h s c hC.1, ih hC.2⟩

theorem along_take (h : Along step C s cs) (n : ℕ) : Along step C s (cs.take n) := by
  induction cs generalizing s n with
  | nil =>
    rw [List.take_nil]
    trivial
  | cons c cs ih =>
    cases n with
    | zero => trivial
    | succ n => exact ⟨h.1, ih h.2 n⟩

/-- Each call meets the condition in the state that the calls before it leave. -/
theorem along_getElem? (h : Along step C s cs) {n : ℕ} {c : κ} (hc : cs[n]? = some c) :
    C (after step s (cs.take n)) c := by
  induction cs generalizing s n with
  | nil => cases hc
  | cons c' cs ih =>
    cases n with
    | zero =>
      obtain rfl := Option.some.inj hc
      exact h.1
    | succ n => exact ih h.2 hc

/-- **Every call of the run** meets the condition in the state that the calls before it leave. -/
theorem forall_getElem?_iff : (∀ n c, cs[n]? = some c → C (after step s (cs.take n)) c) ↔ Along step C s cs := by
  constructor
  · intro h
    induction cs generalizing s with
    | nil => trivial
    | cons c cs ih => exact ⟨h 0 c rfl, ih fun n c' hc' => h (n + 1) c' hc'⟩
  · exact fun h _ _ hc => along_getElem? h hc

/-- A condition on the calls alone. -/
theorem along_of_forall {C : κ → Prop} (h : ∀ c ∈ cs, C c) : Along step (fun _ c => C c) s cs := by
  induction cs generalizing s with
  | nil => trivial
  | cons c cs ih =>
    exact ⟨h c List.mem_cons_self, ih fun c' hc' => h c' (List.mem_cons_of_mem c hc')⟩

theorem along_and {C : σ → κ → Prop} :
    Along step (fun s c => C s c ∧ D s c) s cs ↔ Along step C s cs ∧ Along step D s cs := by
  induction cs generalizing s with
  | nil => exact ⟨fun _ => ⟨trivial, trivial⟩, fun _ => trivial⟩
  | cons c cs ih =>
    rw [along_cons, ih]
    exact and_and_and_comm

/-- Two conditions that come to the same from every state of the invariant, which the steps that meet them
keep. -/
theorem along_congr {C : σ → κ → Prop} (hiff : ∀ s c, I s → (C s c ↔ D s c))
    (hstep : ∀ s c, I s → D s c → I (step s c)) {s : σ} (hI : I s) {cs : List κ} :
    Along step C s cs ↔ Along step D s cs := by
  induction cs generalizing s with
  | nil => exact Iff.rfl
  | cons c cs ih =>
    rw [along_cons, hiff s c hI]
    exact and_congr_right fun hc => ih (hstep s c hI hc)

/-- **When the states of a run all satisfy `P`**: exactly when its steps all meet `C`, if that is what one
step needs.  `I` is an invariant of the runs that meet `D`. -/
theorem forall_take_iff {P : σ → Prop} {C : σ → κ → Prop} (hstep : ∀ s c, I s → D s c → I (step s c))
    (hiff : ∀ s c, I s → D s c → P s → (P (step s c) ↔ C s c)) {s : σ} (hI : I s) (hP : P s)
    {cs : List κ} (hD : Along step D s cs) : (∀ n, P (after step s (cs.take n))) ↔ Along step C s cs := by
  induction cs generalizing s with
  | nil =>
    refine iff_of_true (fun n => ?_) trivial
    rw [List.take_nil]
    exact hP
  | cons c cs ih =>
    obtain ⟨hc, hcs⟩ := hD
    have hnext := hstep s c hI hc
    rw [along_cons, ← hiff s c hI hc hP]
    constructor
    · intro h
      have hP' : P (step s c) := h 1
      exact ⟨hP', (ih hnext hP' hcs).mp fun n => h (n + 1)⟩
    · rintro ⟨hP', hC⟩ n
      cases n with
      | zero => exact hP
      | succ n => exact (ih hnext hP' hcs).mpr hC n

/-- The same when the steps that meet `C` keep the invariant, and the invariant gives `P`. -/
theorem forall_take_iff_along {P : σ → Prop} {C : σ → κ → Prop} (hP : ∀ s, I s → P s)
    (hstep : ∀ s c, I s → C s c → I (step s c)) (hmeets : ∀ s c, I s → P (step s c) → C s c) {s : σ} (hI : I s)
    (cs : List κ) : (∀ n, P (after step s (cs.take n))) ↔ Along step C s cs := by
  constructor
  · intro h
    induction cs generalizing s with
    | nil => trivial
    | cons c cs ih =>
      have hc : C s c := hmeets s c hI (h 1)
      exact ⟨hc, ih (hstep s c hI hc) fun n => h (n + 1)⟩
  · exact fun h n => hP _ (after_induction hstep hI (along_take h n))

section

variable (hrefl : ∀ s, R s s)

include hrefl

/-- **Two states of a run**, in order, are related when the states around every step are. -/
theorem rel_take (htrans : ∀ s₁ s₂ s₃, R s₁ s₂ → R s₂ s₃ → R s₁ s₃)
    (hstep : ∀ s c, I s → D s c → I (step s c) ∧ R s (step s c)) {s : σ} (hI : I s) {cs : List κ}
    (hD : Along step D s cs) {n m : ℕ} (hnm : n ≤ m) : R (after step s (cs.take n)) (after step s (cs.take m)) := by
  induction cs generalizing s n m with
  | nil =>
    rw [List.take_nil, List.take_nil]
    exact hrefl s
  | cons c cs ih =>
    obtain ⟨hc, hcs⟩ := hD
    obtain ⟨hnext, hrel⟩ := hstep s c hI hc
    cases m with
    | zero =>
      rw [Nat.le_zero.mp hnm]
      exact hrefl s
    | succ m =>
      cases n with
      | zero => exact htrans _ _ _ hrel (ih hnext hcs (Nat.zero_le m))
      | succ n => exact ih hnext hcs (Nat.le_of_succ_le_succ hnm)

/-- **The states around each step of a run** are related, when its steps all meet `D`. -/
theorem rel_succ (hstep : ∀ s c, I s → D s c → I (step s c) ∧ R s (step s c)) {s : σ} (hI : I s) {cs : List κ}
    (hD : Along step D s cs) (n : ℕ) : R (after step s (cs.take n)) (after step s (cs.take (n + 1))) := by
  induction cs generalizing s n with
  | nil =>
    rw [List.take_nil]
    exact hrefl s
  | cons c cs ih =>
    obtain ⟨hc, hcs⟩ := hD
    obtain ⟨hnext, hrel⟩ := hstep s c hI hc
    cases n with
    | zero => exact hrel
    | succ n => exact ih hnext hcs n

/-- **When the states around each step of a run are related**: exactly when they are around each call. -/
theorem forall_succ_iff (s : σ) (cs : List κ) :
    (∀ n, R (after step s (cs.take n)) (after step s (cs.take (n + 1)))) ↔
      Along step (fun s c => R s (step s c)) s cs := by
  constructor
  · intro h
    induction cs generalizing s with
    | nil => trivial
    | cons c cs ih => exact ⟨h 0, ih (step s c) fun n => h (n + 1)⟩
  · exact fun h n => rel_succ (I := fun _ => True) hrefl (fun _ _ _ hc => ⟨trivial, hc⟩) trivial h n

/-- **When any two states of a run are related, in order**: exactly when its steps all meet `C`, if that is what
one step needs. -/
theorem forall_rel_take_iff {C : σ → κ → Prop}
    (htrans : ∀ s₁ s₂ s₃, R s₁ s₂ → R s₂ s₃ → R s₁ s₃) (hstep : ∀ s c, I s → C s c → I (step s c))
    (hiff : ∀ s c, I s → (R s (step s c) ↔ C s c)) {s : σ} (hI : I s) (cs : List κ) :
    (∀ n m, n ≤ m → R (after step s (cs.take n)) (after step s (cs.take m))) ↔ Along step C s cs := by
  constructor
  · intro h
    induction cs generalizing s with
    | nil => trivial
    | cons c cs ih =>
      have hc : C s c := (hiff s c hI).mp (h 0 1 (Nat.zero_le 1))
      exact ⟨hc, ih (hstep s c hI hc) fun n m hnm => h (n + 1) (m + 1) (Nat.succ_le_succ hnm)⟩
  · intro h n m hnm
    exact rel_take hrefl htrans (fun s c hI hc => ⟨hstep s c hI hc, (hiff s c hI).mpr hc⟩) hI h hnm

end

/-- **When the states of a run all satisfy `P` and any two of them, in order, are related by `K`**: exactly when its
steps all meet `C`, which then keep an invariant and a relation that give both. -/
theorem forall_take_and_rel_take_iff {P : σ → Prop} {K : σ → σ → Prop} {C : σ → κ → Prop} (hP : ∀ s, I s → P s)
    (hK : ∀ s s', R s s' → K s s') (hrefl : ∀ s, R s s) (htrans : ∀ s₁ s₂ s₃, R s₁ s₂ → R s₂ s₃ → R s₁ s₃)
    (hstep : ∀ s c, I s → C s c → I (step s c) ∧ R s (step s c))
    (hmeets : ∀ s c, I s → P (step s c) → K s (step s c) → C s c) {s : σ} (hI : I s) (cs : List κ) :
    ((∀ n, P (after step s (cs.take n))) ∧
      ∀ n m, n ≤ m → K (after step s (cs.take n)) (after step s (cs.take m))) ↔ Along step C s cs := by
  constructor
  · rintro ⟨hall, hkeeps⟩
    induction cs generalizing s with
    | nil => trivial
    | cons c cs ih =>
      have hc : C s c := hmeets s c hI (hall 1) (hkeeps 0 1 (Nat.zero_le 1))
      exact ⟨hc, ih (hstep s c hI hc).1 (fun n => hall (n + 1)) fun n m hnm =>
        hkeeps (n + 1) (m + 1) (Nat.succ_le_succ hnm)⟩
  · intro h
    exact ⟨fun n => hP _ (after_induction (fun s c hI hc => (hstep s c hI hc).1) hI (along_take h n)),
      fun n m hnm => hK _ _ (rel_take hrefl htrans hstep hI h hnm)⟩

end SuuqBackend.Run
