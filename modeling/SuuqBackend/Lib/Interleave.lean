import SuuqBackend.Lib.Proc
import Mathlib.Algebra.BigOperators.Group.Finset.Piecewise

/-!
# Handlers that run beside each other

A handler reads the store and then acts on what it read, so where a handler stands is a function
of the stores that its actions started from: `resume p seen` is what is left of `p` after its first
actions saw the stores `seen`.

A `Pool` is a store with any number of handlers on it.  One `step` performs the next action of one
handler, at once visible to the others; a schedule is a list of handler names (`Run.after`).

`isolated p` is a transaction beside other handlers, at the isolation level "read committed": its writes are
kept back, each of its actions sees the last committed store under them, and its last step publishes them.
Alone it runs as `transaction p` (`run_isolated`).

* `ActsAfter R seen p` says that each action of `p` is in `R`, together with what `p` has seen before it;
  `ActsBy R view p` says it with what `view` makes of that.
* `gain f p seen` is what the actions of `p` added to the measure `f`, each measured at the store it
  started from; `Adds I f p d` says that `p` adds `d` to it in the end.
* `measure_after`: at every point of every schedule, the measure of the store is the initial one
  plus the gains of the handlers.  What is left to prove of a handler is its own gain.
* `ends_as_one`: when the handlers only read before they go past a guarded action, and none goes past its own once
  one has, all of them together leave what that one leaves alone.
-/

namespace SuuqBackend

namespace Proc

variable {σ ε α β γ : Type}

/-- What is left of the handler after its first actions started from the stores `seen`. -/
def resume : Proc σ ε α → List σ → Proc σ ε α
  | .step _ next, s :: seen => resume (next s) seen
  | p, _ => p

variable (p : Proc σ ε α)

@[simp] theorem resume_nil : p.resume [] = p := by
  cases p <;> rfl

@[simp] theorem resume_done (a : α) (seen : List σ) : (Proc.done a : Proc σ ε α).resume seen = .done a := by
  cases seen <;> rfl

@[simp] theorem resume_fail (e : ε) (seen : List σ) : (Proc.fail e : Proc σ ε α).resume seen = .fail e := by
  cases seen <;> rfl

@[simp] theorem resume_step_cons (act : σ → σ) (next : σ → Proc σ ε α) (s : σ) (seen : List σ) :
    (Proc.step act next).resume (s :: seen) = (next s).resume seen := rfl

theorem resume_read_bind (g : σ → α) (f : α → Proc σ ε β) (s : σ) (seen : List σ) :
    (Proc.read g >>= f).resume (s :: seen) = (f (g s)).resume seen := rfl

theorem resume_throw_bind (e : ε) (f : α → Proc σ ε β) (seen : List σ) :
    ((throw e : Proc σ ε α) >>= f).resume seen = .fail e :=
  resume_fail e seen

variable {seen rest : List σ} {a : α} {P : α → Prop}

/-- What is left after the next action. -/
theorem resume_concat {p : Proc σ ε α} {act : σ → σ} {next : σ → Proc σ ε α}
    (h : p.resume seen = .step act next) (s : σ) : p.resume (seen ++ [s]) = next s := by
  induction seen generalizing p with
  | nil =>
    rw [resume_nil] at h
    subst h
    exact resume_nil (next s)
  | cons t seen ih =>
    cases p with
    | done a => rw [resume_done] at h; cases h
    | fail e => rw [resume_fail] at h; cases h
    | step act' next' => exact ih h

def returned : Proc σ ε α → List σ → Option (α × List σ)
  | .done a, seen => some (a, seen)
  | .fail _, _ => none
  | .step _ _, [] => none
  | .step _ next, s :: seen => returned (next s) seen

/-- Once its first part has returned, what is left of a bind is what is left of the second one. -/
theorem resume_bind_of_returned {p : Proc σ ε α} (h : p.returned seen = some (a, rest))
    (f : α → Proc σ ε β) : (p >>= f).resume seen = (f a).resume rest := by
  induction p generalizing seen with
  | done b =>
    cases h
    rfl
  | fail e => cases h
  | step act next ih =>
    cases seen with
    | nil => cases h
    | cons s seen => exact ih s h

/-- Before its first part has returned, a bind performs the actions of that one. -/
theorem resume_bind_of_returned_eq_none {p : Proc σ ε α} (h : p.returned seen = none)
    (f : α → Proc σ ε β) : (∃ e, (p >>= f).resume seen = .fail e) ∨
      ∃ act next, p.resume seen = .step act next ∧ (p >>= f).resume seen = .step act fun s => next s >>= f := by
  induction p generalizing seen with
  | done a => cases h
  | fail e =>
    refine Or.inl ⟨e, ?_⟩
    rw [fail_bind, resume_fail]
  | step act next ih =>
    cases seen with
    | nil => exact Or.inr ⟨act, next, rfl, rfl⟩
    | cons s seen => exact ih s h

/-- Whatever the handler reads, what it returns is in `P`. -/
def Returns (P : α → Prop) : Proc σ ε α → Prop
  | .done a => P a
  | .fail _ => True
  | .step _ next => ∀ s, Returns P (next s)

theorem returns_bind {P : β → Prop} {f : α → Proc σ ε β} (hf : ∀ a, (f a).Returns P) : (p >>= f).Returns P := by
  induction p with
  | done a => exact hf a
  | fail e => trivial
  | step act next ih => exact fun s => ih s

theorem returns_true : p.Returns fun _ => True := by
  induction p with
  | done a => trivial
  | fail e => trivial
  | step act next ih => exact ih

theorem Returns.of_returned {p : Proc σ ε α} (h : p.Returns P) (ha : p.returned seen = some (a, rest)) : P a := by
  induction p generalizing seen with
  | done b =>
    cases ha
    exact h
  | fail e => cases ha
  | step act next ih =>
    cases seen with
    | nil => cases ha
    | cons s seen => exact ih s (h s) ha

theorem Returns.of_run {p : Proc σ ε α} (h : p.Returns P) {s : σ} (ha : (run p s).1 = .ok a) : P a := by
  induction p generalizing s with
  | done b =>
    cases ha
    exact h
  | fail e => cases ha
  | step act next ih => exact ih s (h s) ha

/-- What every action of the handler does, every action of what is left of it does. -/
theorem Acts.resume {R : σ → σ → Prop} {p : Proc σ ε α} (h : p.Acts R) (seen : List σ) : (p.resume seen).Acts R := by
  induction seen generalizing p with
  | nil => rwa [resume_nil]
  | cons s seen ih =>
    cases p with
    | done a => trivial
    | fail e => trivial
    | step act next => exact ih (h s).2

/-- No action of the handler changes the store, whatever it has read. -/
def OnlyReads (p : Proc σ ε α) : Prop := p.Acts fun s s' => s' = s

section OnlyReads

theorem onlyReads_pure (a : α) : OnlyReads (pure a : Proc σ ε α) := trivial

theorem onlyReads_throw (e : ε) : OnlyReads (throw e : Proc σ ε α) := trivial

theorem onlyReads_read (f : σ → α) : OnlyReads (read f : Proc σ ε α) := fun _ => ⟨rfl, trivial⟩

theorem onlyReads_throwIf (c : Prop) [Decidable c] (e : ε) : OnlyReads (throwIf c e : Proc σ ε Unit) := acts_throwIf c e

theorem OnlyReads.bind {p : Proc σ ε α} {f : α → Proc σ ε β} (hp : OnlyReads p) (hf : ∀ a, OnlyReads (f a)) :
    OnlyReads (p >>= f) := Acts.bind hp hf

theorem OnlyReads.ite {c : Prop} [Decidable c] {p q : Proc σ ε α} (hp : OnlyReads p) (hq : OnlyReads q) :
    OnlyReads (if c then p else q) := Acts.ite hp hq

theorem OnlyReads.zoom {τ : Type} {L : Lens τ σ} {p : Proc σ ε α} (hp : OnlyReads p) : OnlyReads (zoom L p) :=
  Acts.zoom (R := fun s s' => s' = s) hp fun t _ hs => hs ▸ L.set_get t

theorem OnlyReads.readOnly {p : Proc σ ε α} (hp : OnlyReads p) : ReadOnly p := by
  intro s
  refine Acts.rel_run (R := fun s s' => s' = s) (fun _ => rfl) (fun s₁ s₂ s₃ h h' => ?_) hp s
  rw [h', h]

theorem OnlyReads.act_eq {p : Proc σ ε α} (hp : OnlyReads p) {seen : List σ} {act : σ → σ} {next : σ → Proc σ ε α}
    (h : p.resume seen = .step act next) (s : σ) : act s = s := by
  have hleft := Acts.resume hp seen
  rw [h] at hleft
  exact (hleft s).1

end OnlyReads

/-- Each action of the handler is in `R`, together with the stores that the handler has seen before it. -/
inductive ActsAfter (R : List σ → (σ → σ) → Prop) : List σ → Proc σ ε α → Prop where
  | done {seen : List σ} (a : α) : ActsAfter R seen (.done a)
  | fail {seen : List σ} (e : ε) : ActsAfter R seen (.fail e)
  | step {seen : List σ} {act : σ → σ} {next : σ → Proc σ ε α} (h : R seen act)
      (hnext : ∀ s, ActsAfter R (seen ++ [s]) (next s)) : ActsAfter R seen (.step act next)

section ActsAfter

variable {R : List σ → (σ → σ) → Prop} {seen : List σ}

theorem actsAfter_pure (a : α) : ActsAfter R seen (pure a : Proc σ ε α) := .done a

theorem ActsAfter.bind {p : Proc σ ε α} {f : α → Proc σ ε β} (hp : ActsAfter R seen p)
    (hf : ∀ a seen', seen <+: seen' → ActsAfter R seen' (f a)) : ActsAfter R seen (p >>= f) := by
  induction hp with
  | done a => exact hf a _ List.prefix_rfl
  | fail e => exact .fail e
  | step h _ ih =>
    exact .step h fun s => ih s fun a seen' hseen => hf a seen' ((List.prefix_append _ [s]).trans hseen)

theorem ActsAfter.ite {c : Prop} [Decidable c] {p q : Proc σ ε α} (hp : ActsAfter R seen p)
    (hq : ActsAfter R seen q) : ActsAfter R seen (if c then p else q) := by
  split_ifs
  · exact hp
  · exact hq

theorem actsAfter_forEach {body : β → Proc σ ε Unit} {xs : List β}
    (hbody : ∀ x ∈ xs, ∀ seen', seen <+: seen' → ActsAfter R seen' (body x)) : ActsAfter R seen (forEach xs body) := by
  induction xs generalizing seen with
  | nil => exact .done ()
  | cons x xs ih =>
    refine ActsAfter.bind (hbody x List.mem_cons_self seen List.prefix_rfl) fun _ seen' hseen => ?_
    exact ih fun y hy seen'' h => hbody y (List.mem_cons_of_mem x hy) seen'' (hseen.trans h)

/-- What every action does, it does whatever was seen before. -/
theorem Acts.actsAfter {Q : σ → σ → Prop} {p : Proc σ ε α} (h : p.Acts Q)
    (hR : ∀ seen act, (∀ s, Q s (act s)) → R seen act) (seen : List σ) : ActsAfter R seen p := by
  induction p generalizing seen with
  | done a => exact .done a
  | fail e => exact .fail e
  | step act next ih => exact .step (hR seen act fun s => (h s).1) fun s => ih s (h s).2 (seen ++ [s])

/-- The next action of what is left of the handler. -/
theorem ActsAfter.of_resume {p : Proc σ ε α} {before : List σ} (h : ActsAfter R before p) {act : σ → σ}
    {next : σ → Proc σ ε α} (hleft : p.resume seen = .step act next) : R (before ++ seen) act := by
  induction seen generalizing p before with
  | nil =>
    rw [resume_nil] at hleft
    subst hleft
    rw [List.append_nil]
    cases h with
    | step hact _ => exact hact
  | cons s seen ih =>
    cases h with
    | done a => cases hleft
    | fail e => cases hleft
    | step _ hnext =>
      have hrest := ih (hnext s) hleft
      rwa [List.append_assoc] at hrest

end ActsAfter

/-- The next action of the handler; one that has ended leaves the store alone. -/
def action : Proc σ ε α → σ → σ
  | .step act _ => act
  | _ => id

@[simp] theorem action_pure (a : α) : (pure a : Proc σ ε α).action = id := rfl

@[simp] theorem action_step (act : σ → σ) (next : σ → Proc σ ε α) : (Proc.step act next).action = act := rfl

/-- Before its first part has returned, a bind performs the actions of that one. -/
theorem action_resume_bind {p : Proc σ ε α} {seen : List σ} (h : p.returned seen = none) (f : α → Proc σ ε β) :
    ((p >>= f).resume seen).action = (p.resume seen).action := by
  induction p generalizing seen with
  | done a => cases h
  | fail e => rw [fail_bind]; rfl
  | step act next ih =>
    cases seen with
    | nil => rfl
    | cons s seen => exact ih s h

/-- Each action of the handler is in `R`, with what `view` makes of what the handler has seen before it. -/
def ActsBy {δ : Type} (R : δ → (σ → σ) → Prop) (view : List σ → δ) (p : Proc σ ε α) : Prop :=
  ∀ seen, R (view seen) (p.resume seen).action

/-- A bind is viewed as its first part until that one has returned, and then as the second one. -/
def viewBind {δ : Type} (p : Proc σ ε α) (v : List σ → δ) (w : α → List σ → δ) (seen : List σ) : δ :=
  match p.returned seen with
  | some (a, rest) => w a rest
  | none => v seen

section ActsBy

variable {δ : Type} {R : δ → (σ → σ) → Prop} {view : List σ → δ}

theorem actsBy_pure (h : ∀ seen, R (view seen) id) (a : α) : ActsBy R view (pure a : Proc σ ε α) := by
  intro seen
  exact h seen

theorem actsBy_throw (h : ∀ seen, R (view seen) id) (e : ε) : ActsBy R view (throw e : Proc σ ε α) := by
  intro seen
  exact h seen

theorem actsBy_step {act : σ → σ} {next : σ → Proc σ ε α} (h : R (view []) act)
    (hnext : ∀ s, ActsBy R (fun seen => view (s :: seen)) (next s)) : ActsBy R view (.step act next) := by
  intro seen
  cases seen with
  | nil => exact h
  | cons s seen => exact hnext s seen

theorem ActsBy.bind {p : Proc σ ε α} {f : α → Proc σ ε β} {v : List σ → δ} {w : α → List σ → δ}
    (hp : ActsBy R v p) (hf : ∀ a, ActsBy R (w a) (f a)) : ActsBy R (viewBind p v w) (p >>= f) := by
  intro seen
  unfold viewBind
  cases hreturned : p.returned seen with
  | none =>
    rw [action_resume_bind hreturned]
    exact hp seen
  | some returned =>
    rw [resume_bind_of_returned hreturned]
    exact hf returned.1 returned.2

theorem ActsBy.bind_return {p : Proc σ ε α} (hp : ActsBy R view p) (f : α → β) :
    ActsBy R view (p >>= fun a => pure (f a)) := by
  intro seen
  have hview := hp seen
  cases hreturned : p.returned seen with
  | none => rwa [action_resume_bind hreturned]
  | some returned =>
    have hleft := resume_bind_of_returned hreturned fun a => (pure a : Proc σ ε α)
    rw [bind_pure] at hleft
    rw [hleft] at hview
    rw [resume_bind_of_returned hreturned]
    rwa [show (pure returned.1 : Proc σ ε α).resume returned.2 = .done returned.1 from resume_done _ _] at hview

theorem action_resume_attempt {ε' : Type} (p : Proc σ ε α) (seen : List σ) :
    ((attempt p : Proc σ ε' (Except ε α)).resume seen).action = (p.resume seen).action := by
  induction seen generalizing p with
  | nil =>
    cases p <;> rfl
  | cons s seen ih =>
    cases p with
    | done a => rfl
    | fail e => rfl
    | step act next => exact ih (next s)

theorem ActsBy.attempt {ε' : Type} {p : Proc σ ε α} (hp : ActsBy R view p) :
    ActsBy R view (attempt p : Proc σ ε' (Except ε α)) := by
  intro seen
  rw [action_resume_attempt]
  exact hp seen

/-- A loop is viewed as the round it is in. -/
def viewEach {δ : Type} (body : β → Proc σ ε Unit) (v : β → List σ → δ) (idle : δ) : List β → List σ → δ
  | [] => fun _ => idle
  | x :: xs => viewBind (body x) (v x) fun _ => viewEach body v idle xs

theorem actsBy_forEach {body : β → Proc σ ε Unit} {v : β → List σ → δ} {idle : δ} (hidle : R idle id)
    (hbody : ∀ x, ActsBy R (v x) (body x)) (xs : List β) : ActsBy R (viewEach body v idle xs) (forEach xs body) := by
  induction xs with
  | nil => exact actsBy_pure (fun _ => hidle) ()
  | cons x xs ih => exact (hbody x).bind fun _ => ih

/-- What every action does, it does however it is viewed. -/
theorem Acts.actsBy {Q : σ → σ → Prop} {d : δ} (hR : ∀ act, (∀ s, Q s (act s)) → R d act) (hQ : ∀ s, Q s s)
    {p : Proc σ ε α} (h : p.Acts Q) : ActsBy R (fun _ => d) p := by
  induction p with
  | done a => exact actsBy_pure (fun _ => hR id hQ) a
  | fail e => exact actsBy_throw (fun _ => hR id hQ) e
  | step act next ih => exact actsBy_step (hR act fun s => (h s).1) fun s => ih s (h s).2

end ActsBy

/-- The rest of a transaction that keeps the writes `w` back. -/
def isolatedAfter (w : σ → σ) : Proc σ ε α → Proc σ ε α
  | .done a => .step w fun _ => .done a
  | .fail e => .fail e
  | .step act next => .step id fun s => isolatedAfter (act ∘ w) (next (w s))

/-- A transaction that runs beside other handlers. -/
def isolated (p : Proc σ ε α) : Proc σ ε α := isolatedAfter id p

/-- A read of a transaction sees the committed store under the writes kept back. -/
theorem resume_isolatedAfter_read_bind (w : σ → σ) (g : σ → γ) (f : γ → Proc σ ε α)
    (k : α → Proc σ ε β) (s : σ) (seen : List σ) :
    (isolatedAfter w (Proc.read g >>= f) >>= k).resume (s :: seen) =
      (isolatedAfter w (f (g (w s))) >>= k).resume seen := rfl

theorem run_isolatedAfter (w : σ → σ) (p : Proc σ ε α) (s : σ) :
    run (isolatedAfter w p) s = match run p (w s) with
      | (.ok a, s') => (.ok a, s')
      | (.error e, _) => (.error e, s) := by
  induction p generalizing w with
  | done a => rfl
  | fail e => rfl
  | step act next ih => exact ih (w s) (act ∘ w)

theorem run_isolated (p : Proc σ ε α) (s : σ) : run (isolated p) s = run (transaction p) s := by
  unfold isolated
  rw [run_isolatedAfter, run_transaction]
  rfl

/-- However a transaction that keeps the writes `w` back goes on, the writes that it publishes and what it returns are
in `Q`. -/
def Commits (Q : (σ → σ) → α → Prop) : Proc σ ε α → (σ → σ) → Prop
  | .done a, w => Q w a
  | .fail _, _ => True
  | .step act next, w => ∀ s, Commits Q (next s) (act ∘ w)

section Commits

variable {w : σ → σ}

theorem Commits.bind {Q : (σ → σ) → β → Prop} {p : Proc σ ε α} {f : α → Proc σ ε β}
    (h : p.Commits (fun w a => (f a).Commits Q w) w) : (p >>= f).Commits Q w := by
  induction p generalizing w with
  | done a => exact h
  | fail e => trivial
  | step act next ih => exact fun s => ih s (h s)

variable {Q : (σ → σ) → α → Prop} {δ : Type} {idle commit : δ} {R : δ → (σ → σ) → Prop}

theorem Commits.mono {Q' : (σ → σ) → α → Prop} (hQ : ∀ w a, Q w a → Q' w a) {p : Proc σ ε α}
    (h : p.Commits Q w) : p.Commits Q' w := by
  induction p generalizing w with
  | done a => exact hQ w a h
  | fail e => trivial
  | step act next ih => exact fun s => ih s (h s)

theorem Commits.mapError {ε' : Type} {p : Proc σ ε α} (h : p.Commits Q w) (f : ε → ε') :
    (mapError f p).Commits Q w := by
  induction p generalizing w with
  | done a => exact h
  | fail e => trivial
  | step act next ih => exact fun s => ih s (h s)

/-- What holds of the writes kept back, and of each action after them, holds of the writes published. -/
theorem Acts.commits {I : (σ → σ) → Prop} {R : σ → σ → Prop} (hI : ∀ w act, I w → (∀ s, R s (act s)) → I (act ∘ w))
    {P : α → Prop} {p : Proc σ ε α} (hp : p.Acts R) (hreturns : p.Returns P) (hw : I w) :
    p.Commits (fun w a => I w ∧ P a) w := by
  induction p generalizing w with
  | done a => exact ⟨hw, hreturns⟩
  | fail e => trivial
  | step act next ih => exact fun s => ih s (hp s).2 (hreturns s) (hI w act hw fun s => (hp s).1)

/-- A transaction is viewed as `commit` when it publishes its writes next. -/
def isolatedView {δ : Type} (commit idle : δ) : Proc σ ε α → (σ → σ) → List σ → δ
  | .done _, _, [] => commit
  | .done _, _, _ :: _ => idle
  | .fail _, _, _ => idle
  | .step _ _, _, [] => idle
  | .step act next, w, s :: seen => isolatedView commit idle (next (w s)) (act ∘ w) seen

theorem actsBy_isolatedAfter
    (hidle : R idle id) (hcommit : ∀ w a, Q w a → R commit w) {p : Proc σ ε α} (h : p.Commits Q w) :
    ActsBy R (isolatedView commit idle p w) (isolatedAfter w p) := by
  induction p generalizing w with
  | done a => exact actsBy_step (hcommit w a h) fun s => actsBy_pure (fun _ => hidle) a
  | fail e =>
    refine fun seen => ?_
    cases seen <;> exact hidle
  | step act next ih => exact actsBy_step hidle fun s => ih (w s) (h (w s))

/-- **A transaction** leaves the store alone until it publishes what it has kept back. -/
theorem actsBy_isolated
    (hidle : R idle id) (hcommit : ∀ w a, Q w a → R commit w) {p : Proc σ ε α} (h : p.Commits Q id) :
    ActsBy R (isolatedView commit idle p id) (isolated p) :=
  actsBy_isolatedAfter hidle hcommit h

end Commits

/-- The handler has nothing left to do and has succeeded. -/
def isDone : Proc σ ε α → Bool
  | .done _ => true
  | _ => false

/-- The handler has nothing left to do and has failed. -/
def isFail : Proc σ ε α → Bool
  | .fail _ => true
  | _ => false

theorem eq_done_of_isDone {p : Proc σ ε α} (h : p.isDone = true) : ∃ a, p = .done a := by
  cases p with
  | done a => exact ⟨a, rfl⟩
  | fail e => cases h
  | step act next => cases h

theorem eq_fail_of_isFail {p : Proc σ ε α} (h : p.isFail = true) : ∃ e, p = .fail e := by
  cases p with
  | done a => cases h
  | fail e => exact ⟨e, rfl⟩
  | step act next => cases h

/-- The handler ends in no failure, whatever it reads. -/
def Total : Proc σ ε α → Prop
  | .done _ => True
  | .fail _ => False
  | .step _ next => ∀ s, Total (next s)

theorem Total.bind {p : Proc σ ε α} {f : α → Proc σ ε β} (hp : p.Total) (hf : ∀ a, (f a).Total) : (p >>= f).Total := by
  induction p with
  | done a => exact hf a
  | fail e => exact hp.elim
  | step act next ih => exact fun s => ih s (hp s)

theorem Total.isFail_resume {p : Proc σ ε α} (h : p.Total) (seen : List σ) : (p.resume seen).isFail = false := by
  induction seen generalizing p with
  | nil =>
    cases p with
    | done a => rfl
    | fail e => exact h.elim
    | step act next => rfl
  | cons s seen ih =>
    cases p with
    | done a => rfl
    | fail e => exact h.elim
    | step act next => exact ih (h s)

/-- What the actions of the handler added to `f`, each measured at the store it started from. -/
def gain (f : σ → ℤ) : Proc σ ε α → List σ → ℤ
  | .step act next, s :: seen => f (act s) - f s + gain f (next s) seen
  | _, _ => 0

@[simp] theorem gain_nil (f : σ → ℤ) (p : Proc σ ε α) : p.gain f [] = 0 := by
  cases p <;> rfl

@[simp] theorem gain_done (f : σ → ℤ) (a : α) (seen : List σ) : (Proc.done a : Proc σ ε α).gain f seen = 0 := by
  cases seen <;> rfl

@[simp] theorem gain_fail (f : σ → ℤ) (e : ε) (seen : List σ) : (Proc.fail e : Proc σ ε α).gain f seen = 0 := by
  cases seen <;> rfl

@[simp] theorem gain_step_cons (f : σ → ℤ) (act : σ → σ) (next : σ → Proc σ ε α) (s : σ) (seen : List σ) :
    (Proc.step act next).gain f (s :: seen) = f (act s) - f s + (next s).gain f seen := rfl

/-- A handler none of whose actions changes `f` gains nothing. -/
theorem gain_eq_zero {f : σ → ℤ} {p : Proc σ ε α} (h : p.Acts fun s s' => f s' = f s)
    (seen : List σ) : p.gain f seen = 0 := by
  induction seen generalizing p with
  | nil => exact gain_nil f p
  | cons s seen ih =>
    cases p with
    | done a => exact gain_done f a _
    | fail e => exact gain_fail f e _
    | step act next => rw [gain_step_cons, ih (h s).2, (h s).1, sub_self, add_zero]

/-- The next action of a handler adds its change of the store to the gain. -/
theorem gain_concat (f : σ → ℤ) {p : Proc σ ε α} {seen : List σ} {act : σ → σ}
    {next : σ → Proc σ ε α} (h : p.resume seen = .step act next) (s : σ) :
    p.gain f (seen ++ [s]) = p.gain f seen + (f (act s) - f s) := by
  induction seen generalizing p with
  | nil =>
    rw [resume_nil] at h
    subst h
    simp
  | cons t seen ih =>
    cases p with
    | done a => rw [resume_done] at h; cases h
    | fail e => rw [resume_fail] at h; cases h
    | step act' next' =>
      rw [List.cons_append, gain_step_cons, gain_step_cons, ih h, add_assoc]

/-- However the handler goes on, it adds `d` to `f` until it ends, when its actions start from stores of `I`. -/
def Adds (I : σ → Prop) (f : σ → ℤ) : Proc σ ε α → ℤ → Prop
  | .done _, d => d = 0
  | .fail _, d => d = 0
  | .step act next, d => ∀ s, I s → Adds I f (next s) (d - (f (act s) - f s))

section Adds

variable {I : σ → Prop} {f : σ → ℤ}

theorem adds_pure (a : α) : Adds I f (pure a : Proc σ ε α) 0 := rfl

theorem adds_step {act : σ → σ} {next : σ → Proc σ ε α} {d : ℤ}
    (h : ∀ s, I s → Adds I f (next s) (d - (f (act s) - f s))) : Adds I f (.step act next) d := h

/-- A handler none of whose actions changes `f` adds nothing. -/
theorem Acts.adds {p : Proc σ ε α} (h : p.Acts fun s s' => f s' = f s) : Adds I f p 0 := by
  induction p with
  | done a => rfl
  | fail e => rfl
  | step act next ih =>
    intro s _
    rw [(h s).1, sub_self]
    exact ih s (h s).2

/-- What adds nothing may follow. -/
theorem Adds.bind {p : Proc σ ε α} {k : α → Proc σ ε β} {d : ℤ} (hp : Adds I f p d) (hk : ∀ a, Adds I f (k a) 0) :
    Adds I f (p >>= k) d := by
  induction p generalizing d with
  | done a =>
    have hd : d = 0 := hp
    rw [hd]
    exact hk a
  | fail e => exact hp
  | step act next ih => exact fun s hs => ih s (hp s hs)

theorem adds_read_bind {g : σ → γ} {k : γ → Proc σ ε α} {d : ℤ} (hk : ∀ a, Adds I f (k a) d) :
    Adds I f (Proc.read g >>= k) d := by
  intro s _
  rw [id_eq, sub_self, sub_zero]
  exact hk (g s)

/-- A handler that has ended adds nothing. -/
theorem Adds.eq_zero {p : Proc σ ε α} {d : ℤ} (h : Adds I f p d) (hended : p.isDone = true ∨ p.isFail = true) :
    d = 0 := by
  rcases hended with hdone | hfail
  · obtain ⟨a, rfl⟩ := eq_done_of_isDone hdone
    exact h
  · obtain ⟨e, rfl⟩ := eq_fail_of_isFail hfail
    exact h

end Adds

end Proc

/-- Handlers `ι` on one store: where each of them stands is what it has seen. -/
structure Pool (ι σ : Type) where
  store : σ
  /-- The stores that the actions of each handler started from. -/
  seen : ι → List σ

namespace Pool

variable {ι σ ε α : Type} [DecidableEq ι] (start : ι → Proc σ ε α)

/-- No handler has begun. -/
def init (s : σ) : Pool ι σ := ⟨s, fun _ => []⟩

def left (P : Pool ι σ) (i : ι) : Proc σ ε α := (start i).resume (P.seen i)

/-- Perform the next action of the handler `i`, if it has one. -/
def step (P : Pool ι σ) (i : ι) : Pool ι σ :=
  match P.left start i with
  | .step act _ => ⟨act P.store, Function.update P.seen i (P.seen i ++ [P.store])⟩
  | _ => P

/-- The handler has ended successfully. -/
def Succeeded (P : Pool ι σ) (i : ι) : Prop := (P.left start i).isDone = true
deriving Decidable

/-- The handler has ended with a failure. -/
def Failed (P : Pool ι σ) (i : ι) : Prop := (P.left start i).isFail = true
deriving Decidable

omit [DecidableEq ι] in
@[simp] theorem left_init (s : σ) (i : ι) : (init s).left start i = start i :=
  Proc.resume_nil _

theorem step_of_left {P : Pool ι σ} {i : ι} {act : σ → σ} {next : σ → Proc σ ε α}
    (h : P.left start i = .step act next) :
    P.step start i = ⟨act P.store, Function.update P.seen i (P.seen i ++ [P.store])⟩ := by
  unfold step
  rw [h]

variable (P : Pool ι σ) (i : ι)

/-- A step performs one action of the handler or changes nothing. -/
theorem step_cases : (∃ act next, P.left start i = .step act next ∧
      P.step start i = ⟨act P.store, Function.update P.seen i (P.seen i ++ [P.store])⟩) ∨ P.step start i = P := by
  cases h : P.left start i with
  | done a =>
    refine Or.inr ?_
    unfold step
    rw [h]
  | fail e =>
    refine Or.inr ?_
    unfold step
    rw [h]
  | step act next => exact Or.inl ⟨act, next, rfl, step_of_left start h⟩

/-- A step performs the next action of its handler. -/
theorem store_step : (P.step start i).store = (P.left start i).action P.store := by
  unfold step
  cases P.left start i <;> rfl

/-- A step adds at most the present store to what its handler has seen. -/
theorem seen_step (j : ι) :
    (P.step start i).seen j = P.seen j ∨ j = i ∧ (P.step start i).seen j = P.seen j ++ [P.store] := by
  rcases P.step_cases start i with ⟨act, next, -, hstep⟩ | hstep
  · by_cases hj : j = i
    · subst hj
      rw [hstep]
      exact Or.inr ⟨rfl, Function.update_self ..⟩
    · rw [hstep]
      exact Or.inl (Function.update_of_ne hj ..)
  · rw [hstep]
    exact Or.inl rfl

/-- What a step adds for the handler that performs it, it adds to the sum over the handlers. -/
theorem sum_seen_update [Fintype ι] {M : Type} [AddCommMonoid M] (f : ι → List σ → M)
    (seen : ι → List σ) {i : ι} {seen' : List σ} {d : M} (h : f i seen' = f i (seen i) + d) :
    ∑ j, f j (Function.update seen i seen' j) = ∑ j, f j (seen j) + d := by
  have heach : ∀ j, f j (Function.update seen i seen' j) = f j (seen j) + if j = i then d else 0 := by
    intro j
    by_cases hj : j = i
    · subst hj
      rw [Function.update_self, if_pos rfl, h]
    · rw [Function.update_of_ne hj, if_neg hj, add_zero]
  simp only [heach, Finset.sum_add_distrib, Finset.sum_ite_eq', Finset.mem_univ, if_true]

/-- One step keeps the measure of the store and the gains of the handlers together. -/
theorem measure_step [Fintype ι] (f : σ → ℤ) (m : ℤ) (P : Pool ι σ) (i : ι)
    (h : f P.store = m + ∑ j, (start j).gain f (P.seen j)) :
    f (P.step start i).store = m + ∑ j, (start j).gain f ((P.step start i).seen j) := by
  rcases P.step_cases start i with ⟨act, next, hleft, hstep⟩ | hstep
  · rw [hstep]
    dsimp only
    rw [sum_seen_update _ P.seen (Proc.gain_concat f hleft P.store)]
    omega
  · rw [hstep]
    exact h

/-- **The measure of the store is the initial one plus the gains of the handlers**, at every point
of every schedule. -/
theorem measure_after [Fintype ι] (f : σ → ℤ) (s : σ) (schedule : List ι) :
    f (Run.after (step start) (init s) schedule).store = f s +
      ∑ j, (start j).gain f ((Run.after (step start) (init s) schedule).seen j) :=
  Run.after_invariant (P := fun P : Pool ι σ => f P.store = f s + ∑ j, (start j).gain f (P.seen j))
    (measure_step start f (f s)) (by simp [init]) schedule

end Pool

/-! ### One handler that writes -/

/-- The handler has ended, or only reads next. -/
def Proc.Reads {σ ε α : Type} : Proc σ ε α → Prop
  | .step act _ => act = id
  | _ => True

/-- What the handler has seen does not go past a place in `G`. -/
def Before {σ : Type} (G : List σ → Prop) (seen : List σ) : Prop := ∀ n < seen.length, ¬ G (seen.take n)

theorem before_nil {σ : Type} (G : List σ → Prop) : Before G [] := fun _ hn => absurd hn (Nat.not_lt_zero _)

theorem Before.concat {σ : Type} {G : List σ → Prop} {seen : List σ} (h : Before G seen) (hG : ¬ G seen) (s : σ) :
    Before G (seen ++ [s]) := by
  intro n hn
  rw [List.length_append, List.length_singleton] at hn
  rw [List.take_append_of_le_length (by omega)]
  rcases Nat.lt_succ_iff_lt_or_eq.mp hn with hlt | rfl
  · exact h n hlt
  · rw [List.take_length]
    exact hG

namespace Pool

section OneWriter

variable {ι σ ε α : Type} [DecidableEq ι] {start : ι → Proc σ ε α} {G : ι → List σ → Prop} {F : σ → Prop} {s₀ : σ}

variable (start G F s₀) in
/-- No handler has gone past its guarded action, or one has: what is left of it leaves what all of it leaves alone. -/
def OneWriter (P : Pool ι σ) : Prop :=
  (P.store = s₀ ∧ ∀ i, Before (G i) (P.seen i) ∧ Proc.run (P.left start i) s₀ = Proc.run (start i) s₀) ∨
  ∃ k, F P.store ∧ Proc.run (P.left start k) P.store = Proc.run (start k) s₀ ∧
    (P.left start k).Acts (fun s s' => F s → F s') ∧ ∀ j ≠ k, Before (G j) (P.seen j)

variable {i : ι} {P : Pool ι σ}

theorem left_update_self {act : σ → σ} {next : σ → Proc σ ε α} (h : P.left start i = .step act next) (s : σ) :
    (⟨s, Function.update P.seen i (P.seen i ++ [P.store])⟩ : Pool ι σ).left start i = next P.store := by
  unfold left
  dsimp only
  rw [Function.update_self, Proc.resume_concat h]

theorem left_update_of_ne {j : ι} (hj : j ≠ i) (s : σ) (seen : List σ) :
    (⟨s, Function.update P.seen i seen⟩ : Pool ι σ).left start j = P.left start j := by
  unfold left
  dsimp only
  rw [Function.update_of_ne hj]

variable (hreads : ∀ i seen, Before (G i) seen → ¬ G i seen → ((start i).resume seen).Reads)
  (hwrites : ∀ i seen act next s, G i seen → (start i).resume seen = .step act next →
    F (act s) ∧ (next s).Acts fun s s' => F s → F s')
include hreads hwrites

/-- A handler that is not past its guarded action changes nothing unless it performs it. -/
theorem oneWriter_step (h : OneWriter start G F s₀ P)
    (hguard : G i (P.seen i) → ¬ F P.store) : OneWriter start G F s₀ (P.step start i) := by
  rcases P.step_cases start i with ⟨act, next, hleft, hstep⟩ | hstep
  swap
  · rw [hstep]
    exact h
  rw [hstep]
  rcases h with ⟨hstore, hbefore⟩ | ⟨k, hF, hrun, hacts, hothers⟩
  · obtain ⟨hi, hrun⟩ := hbefore i
    rw [hleft, ← hstore] at hrun
    by_cases hG : G i (P.seen i)
    · obtain ⟨hset, hacts⟩ := hwrites i _ act next P.store hG hleft
      refine Or.inr ⟨i, hset, ?_, ?_, fun j hj => ?_⟩
      · rw [left_update_self hleft, ← hstore]
        exact hrun
      · rw [left_update_self hleft]
        exact hacts
      · dsimp only
        rw [Function.update_of_ne hj]
        exact (hbefore j).1
    · have hread : (P.left start i).Reads := hreads i _ hi hG
      rw [hleft] at hread
      have hid : act = id := hread
      subst hid
      refine Or.inl ⟨hstore, fun j => ?_⟩
      by_cases hj : j = i
      · subst hj
        refine ⟨?_, ?_⟩
        · dsimp only
          rw [Function.update_self]
          exact hi.concat hG P.store
        · rw [left_update_self hleft, ← hstore]
          exact hrun
      · rw [left_update_of_ne hj]
        refine ⟨?_, (hbefore j).2⟩
        dsimp only
        rw [Function.update_of_ne hj]
        exact (hbefore j).1
  · by_cases hk : i = k
    · subst hk
      rw [hleft] at hacts hrun
      refine Or.inr ⟨i, (hacts P.store).1 hF, ?_, ?_, fun j hj => ?_⟩
      · rw [left_update_self hleft]
        exact hrun
      · rw [left_update_self hleft]
        exact (hacts P.store).2
      · dsimp only
        rw [Function.update_of_ne hj]
        exact hothers j hj
    · have hG : ¬ G i (P.seen i) := fun hG => hguard hG hF
      have hread : (P.left start i).Reads := hreads i _ (hothers i hk) hG
      rw [hleft] at hread
      have hid : act = id := hread
      subst hid
      refine Or.inr ⟨k, hF, ?_, ?_, fun j hj => ?_⟩
      · rw [left_update_of_ne (Ne.symm hk)]
        exact hrun
      · rw [left_update_of_ne (Ne.symm hk)]
        exact hacts
      · by_cases hji : j = i
        · subst hji
          dsimp only
          rw [Function.update_self]
          exact (hothers j hk).concat hG P.store
        · dsimp only
          rw [Function.update_of_ne hji]
          exact hothers j hj

/-- **The handlers end as one of them**: when no handler performs its guarded action after another one has, they
leave what one of them leaves alone. -/
theorem ends_as_one [Nonempty ι] {schedule : List ι}
    (h : Run.Along (step start) (fun P i => G i (P.seen i) → ¬ F P.store) (init s₀) schedule)
    (hended : ∀ i, (Run.after (step start) (init s₀) schedule).Succeeded start i ∨
      (Run.after (step start) (init s₀) schedule).Failed start i) :
    ∃ k, (Run.after (step start) (init s₀) schedule).store = (Proc.run (start k) s₀).2 := by
  have hinit : OneWriter start G F s₀ (init s₀) :=
    Or.inl ⟨rfl, fun i => ⟨before_nil _, by rw [left_init]⟩⟩
  have hstep : ∀ (P : Pool ι σ) i, OneWriter start G F s₀ P → (G i (P.seen i) → ¬ F P.store) →
      OneWriter start G F s₀ (P.step start i) :=
    fun P i hP hguard => oneWriter_step hreads hwrites hP hguard
  have hafter := Run.after_induction hstep hinit h
  have hleft : ∀ i s, (Proc.run ((Run.after (step start) (init s₀) schedule).left start i) s).2 = s := by
    intro i s
    rcases hended i with hdone | hfail
    · obtain ⟨a, ha⟩ := Proc.eq_done_of_isDone hdone
      rw [ha, Proc.run_done]
    · obtain ⟨e, he⟩ := Proc.eq_fail_of_isFail hfail
      rw [he, Proc.run_fail]
  rcases hafter with ⟨hstore, hbefore⟩ | ⟨k, -, hrun, -⟩
  · obtain ⟨i⟩ := ‹Nonempty ι›
    refine ⟨i, ?_⟩
    rw [hstore, ← (hbefore i).2, hleft]
  · refine ⟨k, ?_⟩
    rw [← hrun, hleft]

end OneWriter

end Pool

end SuuqBackend
