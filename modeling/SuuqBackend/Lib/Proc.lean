import SuuqBackend.Lib.Run
import Mathlib.Control.Lawful

/-!
# Request handlers as chains of atomic store actions

A `Proc σ ε α` is a handler over a store `σ` that ends with a result `α` or fails with `ε`.  Each
`step` is one atomic action of the handler, a read or a write of the store; `next` gets the store
as it was before the action, so a read is a step whose action is `id`.  Between two steps of one
handler other handlers may run (`Lib/Interleave.lean`, `Lib/ReadCommitted.lean`).

`run p s` executes the handler alone.  A failure keeps what was written before it; `transaction`
undoes it, `attempt` catches it and goes on.  `zoom` runs a handler on a part of a larger store.

* `run_bind` and the other `run_*` lemmas are the simp set that executes a handler.
* `run_bind_eq_ok` takes a successful run apart at a bind.
* `forEach_induction`, `run_forEach_ok_iff` and `forEach_rel` are the loop rules: for a loop that
  succeeds, for when it does, and for whatever it leaves when it fails.
* `ReadOnly p` says that `p` changes nothing; `Raises P p` and `RaisesFrom P p s` say which failures `p`
  can have.
* `Acts R p` says that each action of `p` moves the store along `R`.
-/

namespace SuuqBackend

/-- A handler over the store `σ`: it ends, fails, or performs one atomic action and goes on. -/
inductive Proc (σ ε α : Type) : Type where
  | done (a : α)
  | fail (e : ε)
  | step (act : σ → σ) (next : σ → Proc σ ε α)

namespace Proc

variable {σ τ ε ε' α β γ : Type}

/-- Sequencing. -/
def bind : Proc σ ε α → (α → Proc σ ε β) → Proc σ ε β
  | .done a, f => f a
  | .fail e, _ => .fail e
  | .step act next, f => .step act fun s => (next s).bind f

/-- Hand a failure to `h`. -/
def handle : Proc σ ε α → (ε → Proc σ ε α) → Proc σ ε α
  | .done a, _ => .done a
  | .fail e, h => h e
  | .step act next, h => .step act fun s => (next s).handle h

instance : Monad (Proc σ ε) where
  pure := Proc.done
  bind := Proc.bind

instance : MonadExceptOf ε (Proc σ ε) where
  throw := Proc.fail
  tryCatch := Proc.handle

variable (a : α) (p : Proc σ ε α) (c : Prop) (e : ε) (x : Except ε α) (s : σ)

@[simp] theorem done_bind (f : α → Proc σ ε β) : (Proc.done a >>= f) = f a := rfl

@[simp] theorem fail_bind (f : α → Proc σ ε β) : (Proc.fail e >>= f) = .fail e := rfl

@[simp] theorem step_bind (act : σ → σ) (next : σ → Proc σ ε α) (f : α → Proc σ ε β) :
    (Proc.step act next >>= f) = .step act fun s => next s >>= f := rfl

theorem bind_done : p.bind Proc.done = p := by
  induction p with
  | done a => rfl
  | fail e => rfl
  | step act next ih => exact congrArg (Proc.step act) (funext ih)

theorem bind_bind (f : α → Proc σ ε β) (g : β → Proc σ ε γ) : (p.bind f).bind g = p.bind fun a => (f a).bind g := by
  induction p with
  | done a => rfl
  | fail e => rfl
  | step act next ih => exact congrArg (Proc.step act) (funext ih)

instance : LawfulMonad (Proc σ ε) := LawfulMonad.mk' _ bind_done (fun _ _ => rfl) bind_bind

/-- One atomic read of the store. -/
def read (f : σ → α) : Proc σ ε α := .step id fun s => .done (f s)

/-- One atomic write of the store. -/
def write (f : σ → σ) : Proc σ ε Unit := .step f fun _ => .done ()

/-- `if (c) throw e`. -/
def throwIf (c : Prop) [Decidable c] (e : ε) : Proc σ ε Unit := if c then throw e else pure ()

/-- A computation that does not touch the store. -/
def ofExcept : Except ε α → Proc σ ε α
  | .ok a => .done a
  | .error e => .fail e

/-! ### Running a handler alone -/

/-- The outcome and the final store of the handler when nothing runs beside it. -/
def run : Proc σ ε α → σ → Except ε α × σ
  | .done a, s => (.ok a, s)
  | .fail e, s => (.error e, s)
  | .step act next, s => run (next s) (act s)

@[simp] theorem run_done : run (.done a : Proc σ ε α) s = (.ok a, s) := rfl

@[simp] theorem run_fail : run (.fail e : Proc σ ε α) s = (.error e, s) := rfl

@[simp] theorem run_step (act : σ → σ) (next : σ → Proc σ ε α) (s : σ) :
    run (.step act next) s = run (next s) (act s) := rfl

@[simp] theorem run_pure : run (pure a : Proc σ ε α) s = (.ok a, s) := rfl

@[simp] theorem run_throw : run (throw e : Proc σ ε α) s = (.error e, s) := rfl

@[simp] theorem run_read (f : σ → α) (s : σ) : run (read f : Proc σ ε α) s = (.ok (f s), s) := rfl

@[simp] theorem run_write (f : σ → σ) (s : σ) : run (write f : Proc σ ε Unit) s = (.ok (), f s) := rfl

@[simp] theorem run_throwIf [Decidable c] :
    run (throwIf c e : Proc σ ε Unit) s = (if c then .error e else .ok (), s) := by
  unfold throwIf
  split_ifs <;> rfl

@[simp] theorem run_ofExcept : run (ofExcept x : Proc σ ε α) s = (x, s) := by
  cases x <;> rfl

theorem run_bind (f : α → Proc σ ε β) (s : σ) :
    run (p >>= f) s = match run p s with
      | (.ok a, s') => run (f a) s'
      | (.error e, s') => (.error e, s') := by
  induction p generalizing s with
  | done a => rfl
  | fail e => rfl
  | step act next ih => exact ih s (act s)

theorem run_bind_congr {p q : Proc σ ε α} {s : σ} (h : run p s = run q s) (f : α → Proc σ ε β) :
    run (p >>= f) s = run (q >>= f) s := by
  rw [run_bind, run_bind, h]

theorem run_bind_of_ok {p : Proc σ ε α} {s s' : σ} {a : α} (h : run p s = (.ok a, s'))
    (f : α → Proc σ ε β) : run (p >>= f) s = run (f a) s' := by
  rw [run_bind, h]

theorem run_bind_of_error {p : Proc σ ε α} {s s' : σ} {e : ε} (h : run p s = (.error e, s'))
    (f : α → Proc σ ε β) : run (p >>= f) s = (.error e, s') := by
  rw [run_bind, h]

@[simp] theorem run_read_bind (g : σ → α) (f : α → Proc σ ε β) (s : σ) : run (read g >>= f) s = run (f (g s)) s := rfl

@[simp] theorem run_write_bind (g : σ → σ) (f : Unit → Proc σ ε β) (s : σ) :
    run (write g >>= f) s = run (f ()) (g s) := rfl

@[simp] theorem run_throwIf_bind [Decidable c] (f : Unit → Proc σ ε β) (s : σ) :
    run (throwIf c e >>= f) s = if c then (.error e, s) else run (f ()) s := by
  unfold throwIf
  split_ifs <;> rfl

/-- A successful run of a bind is a successful run of its first part and then of the rest. -/
theorem run_bind_eq_ok {p : Proc σ ε α} {f : α → Proc σ ε β} {s s'' : σ} {b : β} :
    run (p >>= f) s = (.ok b, s'') ↔ ∃ a s', run p s = (.ok a, s') ∧ run (f a) s' = (.ok b, s'') := by
  rw [run_bind]
  rcases h : run p s with ⟨e | a, s'⟩
  · simp
  · constructor
    · exact fun hf => ⟨a, s', rfl, hf⟩
    · rintro ⟨a', s₁, heq, hf⟩
      cases heq
      exact hf

/-- A failed run of a bind failed in its first part or in the rest. -/
theorem run_bind_eq_error {p : Proc σ ε α} {f : α → Proc σ ε β} {s s'' : σ} {e : ε} :
    run (p >>= f) s = (.error e, s'') ↔ run p s = (.error e, s'') ∨
      ∃ a s', run p s = (.ok a, s') ∧ run (f a) s' = (.error e, s'') := by
  rw [run_bind]
  rcases h : run p s with ⟨e' | a, s'⟩
  · simp
  · constructor
    · exact fun hf => Or.inr ⟨a, s', rfl, hf⟩
    · rintro (heq | ⟨a', s₁, heq, hf⟩)
      · cases heq
      · cases heq
        exact hf

/-! ### Transactions and caught failures -/

/-- Run the handler as one database transaction: a failure rolls every write back. -/
def transaction (p : Proc σ ε α) : Proc σ ε α :=
  .step (fun s => match run p s with
      | (.ok _, s') => s'
      | (.error _, _) => s)
    fun s => match run p s with
      | (.ok a, _) => .done a
      | (.error e, _) => .fail e

theorem run_transaction :
    run (transaction p) s = match run p s with
      | (.ok a, s') => (.ok a, s')
      | (.error e, _) => (.error e, s) := by
  rw [transaction, run_step]
  rcases run p s with ⟨e | a, s'⟩ <;> rfl

theorem run_transaction_of_ok {p : Proc σ ε α} {s s' : σ} {a : α} (h : run p s = (.ok a, s')) :
    run (transaction p) s = (.ok a, s') := by
  rw [run_transaction, h]

theorem run_transaction_of_error {p : Proc σ ε α} {s s' : σ} {e : ε}
    (h : run p s = (.error e, s')) : run (transaction p) s = (.error e, s) := by
  rw [run_transaction, h]

theorem run_transaction_eq_ok {p : Proc σ ε α} {s s' : σ} {a : α} :
    run (transaction p) s = (.ok a, s') ↔ run p s = (.ok a, s') := by
  rw [run_transaction]
  rcases run p s with ⟨e | a', s₁⟩ <;> simp

/-- A failed transaction changes nothing. -/
theorem eq_of_run_transaction_eq_error {p : Proc σ ε α} {s s' : σ} {e : ε}
    (h : run (transaction p) s = (.error e, s')) : s' = s := by
  rw [run_transaction] at h
  rcases hp : run p s with ⟨e' | a, s₁⟩ <;> rw [hp] at h <;> cases h
  rfl

/-- Run in the caller's transaction, or in one of its own. -/
def inTransaction (manager : Bool) (p : Proc σ ε α) : Proc σ ε α :=
  if manager then p else transaction p

/-- Catch the failure of the handler and return it. -/
def attempt : Proc σ ε α → Proc σ ε' (Except ε α)
  | .done a => .done (.ok a)
  | .fail e => .done (.error e)
  | .step act next => .step act fun s => attempt (next s)

/-- Change what the handler fails with. -/
def mapError (f : ε → ε') : Proc σ ε α → Proc σ ε' α
  | .done a => .done a
  | .fail e => .fail (f e)
  | .step act next => .step act fun s => mapError f (next s)

@[simp] theorem inTransaction_true : inTransaction true p = p := rfl

@[simp] theorem run_attempt : run (attempt p : Proc σ ε' (Except ε α)) s = (.ok (run p s).1, (run p s).2) := by
  induction p generalizing s with
  | done a => rfl
  | fail e => rfl
  | step act next ih => exact ih s (act s)

/-- A failure that is caught and forgotten. -/
theorem run_attempt_bind_pure (b : β) (s : σ) :
    run ((attempt p : Proc σ ε' (Except ε α)) >>= fun _ => pure b) s = (.ok b, (run p s).2) := by
  rw [run_bind, run_attempt]
  rfl

theorem snd_run_attempt_bind_pure (b : β) (s : σ) :
    (run ((attempt p : Proc σ ε' (Except ε α)) >>= fun _ => pure b) s).2 = (run p s).2 :=
  congrArg Prod.snd (run_attempt_bind_pure p b s)

@[simp] theorem run_mapError (f : ε → ε') (p : Proc σ ε α) (s : σ) :
    run (mapError f p) s = ((run p s).1.mapError f, (run p s).2) := by
  induction p generalizing s with
  | done a => rfl
  | fail e => rfl
  | step act next ih => exact ih s (act s)

theorem run_mapError_eq_ok {f : ε → ε'} {p : Proc σ ε α} {s s' : σ} {a : α} :
    run (mapError f p) s = (.ok a, s') ↔ run p s = (.ok a, s') := by
  rw [run_mapError]
  rcases run p s with ⟨e | a', s₁⟩ <;> simp [Except.mapError]

/-! ### Handlers that leave the store alone -/

def ReadOnly (p : Proc σ ε α) : Prop := ∀ s, (run p s).2 = s

theorem readOnly_pure : ReadOnly (pure a : Proc σ ε α) := fun _ => rfl

theorem readOnly_throw : ReadOnly (throw e : Proc σ ε α) := fun _ => rfl

theorem readOnly_read (f : σ → α) : ReadOnly (read f : Proc σ ε α) := fun _ => rfl

theorem readOnly_throwIf [Decidable c] : ReadOnly (throwIf c e : Proc σ ε Unit) := fun s => by rw [run_throwIf]

theorem readOnly_ofExcept : ReadOnly (ofExcept x : Proc σ ε α) := fun s => by
  rw [run_ofExcept]

theorem ReadOnly.bind {p : Proc σ ε α} {f : α → Proc σ ε β} (hp : ReadOnly p)
    (hf : ∀ a, ReadOnly (f a)) : ReadOnly (p >>= f) := by
  intro s
  have hs := hp s
  rw [run_bind]
  rcases hrun : run p s with ⟨e | a, s'⟩
  · rwa [hrun] at hs
  · rw [hrun] at hs
    exact (hf a s').trans hs

theorem ReadOnly.ite {c : Prop} [Decidable c] {p q : Proc σ ε α} (hp : ReadOnly p)
    (hq : ReadOnly q) : ReadOnly (if c then p else q) := by
  split_ifs
  · exact hp
  · exact hq

theorem ReadOnly.eq_of_run {p : Proc σ ε α} (hp : ReadOnly p) {s s' : σ} {o : Except ε α}
    (h : run p s = (o, s')) : s' = s := by
  rw [← hp s, h]

/-- What is left of a handler that begins with checks. -/
theorem ReadOnly.snd_run_bind {p : Proc σ ε α} (hp : ReadOnly p) (f : α → Proc σ ε β) (s : σ) :
    (run (p >>= f) s).2 = match (run p s).1 with
      | .ok a => (run (f a) s).2
      | .error _ => s := by
  have hs := hp s
  rw [run_bind]
  rcases hrun : run p s with ⟨e | a, s'⟩ <;> rw [hrun] at hs <;> cases hs <;> rfl

/-- A handler that only reads returns the same from two stores when its parts do. -/
theorem ReadOnly.fst_run_bind_congr {p : Proc σ ε α} (hp : ReadOnly p) {f : α → Proc σ ε β} {s s' : σ}
    (h : (run p s').1 = (run p s).1) (hf : ∀ a, (run (f a) s').1 = (run (f a) s).1) :
    (run (p >>= f) s').1 = (run (p >>= f) s).1 := by
  have hs := hp s
  have hs' := hp s'
  rw [run_bind, run_bind]
  rcases hrun : run p s with ⟨o, t⟩
  rcases hrun' : run p s' with ⟨o', t'⟩
  rw [hrun] at h hs
  rw [hrun'] at h hs'
  cases h
  cases hs
  cases hs'
  cases o with
  | ok a => exact hf a
  | error e => rfl

/-- Checks at the end leave the store alone. -/
theorem snd_run_bind_readOnly {f : α → Proc σ ε β} (hf : ∀ a, ReadOnly (f a))
    (s : σ) : (run (p >>= f) s).2 = (run p s).2 := by
  rw [run_bind]
  rcases run p s with ⟨e | a, s'⟩
  · rfl
  · exact hf a s'

/-! ### Handlers on a part of the store -/

/-- A part `σ` of a larger store `τ`. -/
structure Lens (τ σ : Type) where
  get : τ → σ
  set : τ → σ → τ
  get_set : ∀ t s, get (set t s) = s := by intros; rfl
  set_get : ∀ t, set t (get t) = t := by intros; rfl
  set_set : ∀ t s s', set (set t s) s' = set t s' := by intros; rfl

/-- Run a handler of the part on the whole store. -/
def zoom (L : Lens τ σ) : Proc σ ε α → Proc τ ε α
  | .done a => .done a
  | .fail e => .fail e
  | .step act next => .step (fun t => L.set t (act (L.get t))) fun t => zoom L (next (L.get t))

@[simp] theorem run_zoom (L : Lens τ σ) (p : Proc σ ε α) (t : τ) :
    run (zoom L p) t = ((run p (L.get t)).1, L.set t (run p (L.get t)).2) := by
  induction p generalizing t with
  | done a => exact congrArg (Prod.mk _) (L.set_get t).symm
  | fail e => exact congrArg (Prod.mk _) (L.set_get t).symm
  | step act next ih =>
    show run (zoom L (next (L.get t))) (L.set t (act (L.get t))) = _
    rw [ih, L.get_set, L.set_set]
    rfl

variable {L : Lens τ σ}

theorem run_zoom_of {p : Proc σ ε α} {t : τ} {o : Except ε α} {s : σ}
    (h : run p (L.get t) = (o, s)) : run (zoom L p) t = (o, L.set t s) := by
  rw [run_zoom, h]

theorem ReadOnly.zoom {p : Proc σ ε α} (hp : ReadOnly p) : ReadOnly (zoom L p) := by
  intro t
  rw [run_zoom, hp, L.set_get]

theorem run_zoom_eq {p : Proc σ ε α} {t t' : τ} {o : Except ε α} :
    run (zoom L p) t = (o, t') ↔ ∃ s, run p (L.get t) = (o, s) ∧ t' = L.set t s := by
  rw [run_zoom]
  rcases run p (L.get t) with ⟨o', s⟩
  constructor
  · rintro h
    cases h
    exact ⟨s, rfl, rfl⟩
  · rintro ⟨s', h, rfl⟩
    cases h
    rfl

/-! ### Loops -/

/-- `for x of xs`: the body for each element in order. -/
def forEach : List β → (β → Proc σ ε Unit) → Proc σ ε Unit
  | [], _ => pure ()
  | x :: xs, body => body x >>= fun _ => forEach xs body

@[simp] theorem run_forEach_nil (body : β → Proc σ ε Unit) (s : σ) : run (forEach [] body) s = (.ok (), s) := rfl

theorem forEach_cons (x : β) (xs : List β) (body : β → Proc σ ε Unit) :
    forEach (x :: xs) body = body x >>= fun _ => forEach xs body := rfl

variable {body : β → Proc σ ε Unit}

/-- A loop relates the stores that its rounds relate, one after another. -/
theorem forEach_induction {R : List β → σ → σ → Prop} (hnil : ∀ s, R [] s s)
    (hcons : ∀ x xs s s' s'', run (body x) s = (.ok (), s') → R xs s' s'' → R (x :: xs) s s'') :
    ∀ (xs : List β) (s s' : σ), run (forEach xs body) s = (.ok (), s') → R xs s s' := by
  intro xs
  induction xs with
  | nil =>
    intro s s' h
    cases h
    exact hnil s
  | cons x xs ih =>
    intro s s' h
    obtain ⟨_, s₁, hbody, hrest⟩ := run_bind_eq_ok.mp h
    exact hcons x xs s s₁ s' hbody (ih s₁ s' hrest)

/-- When a round succeeds exactly where `C` holds, the loop does so exactly where its rounds do, one
after another. -/
theorem run_forEach_ok_iff {C : σ → β → Prop} {next : σ → β → σ}
    (hok : ∀ s x, C s x → run (body x) s = (.ok (), next s x))
    (hfail : ∀ s x, ¬ C s x → ∃ e s', run (body x) s = (.error e, s')) (xs : List β) (s : σ) :
    (∃ s', run (forEach xs body) s = (.ok (), s')) ↔ Run.Along next C s xs := by
  induction xs generalizing s with
  | nil => exact ⟨fun _ => trivial, fun _ => ⟨s, rfl⟩⟩
  | cons x xs ih =>
    rw [forEach_cons]
    by_cases hx : C s x
    · rw [run_bind_of_ok (hok s x hx), ih]
      exact ⟨fun h => ⟨hx, h⟩, fun h => h.2⟩
    · obtain ⟨e, s', hrun⟩ := hfail s x hx
      rw [run_bind_of_error hrun]
      constructor
      · rintro ⟨s'', h⟩
        cases h
      · intro h
        exact absurd h.1 hx

/-- What relates the stores around every round, whether it succeeds or fails, relates those around the
loop. -/
theorem forEach_rel {R : σ → σ → Prop} (hrefl : ∀ s, R s s)
    (htrans : ∀ s₁ s₂ s₃, R s₁ s₂ → R s₂ s₃ → R s₁ s₃) (hbody : ∀ x s, R s (run (body x) s).2) (xs : List β) (s : σ) :
    R s (run (forEach xs body) s).2 := by
  induction xs generalizing s with
  | nil => exact hrefl s
  | cons x xs ih =>
    have hx := hbody x s
    rw [forEach_cons]
    rcases hrun : run (body x) s with ⟨e | _, s'⟩
    · rw [run_bind_of_error hrun]
      rwa [hrun] at hx
    · rw [run_bind_of_ok hrun]
      rw [hrun] at hx
      exact htrans _ _ _ hx (ih s')

theorem readOnly_forEach (hbody : ∀ x, ReadOnly (body x)) (xs : List β) :
    ReadOnly (forEach xs body) :=
  fun s => forEach_rel (R := fun s s' => s' = s) (fun _ => rfl) (fun _ _ _ h h' => h'.trans h) hbody xs s

/-! ### Which failures can occur -/

/-- Every failure of the handler from the store is one of `P`. -/
def RaisesFrom (P : ε → Prop) (p : Proc σ ε α) (s : σ) : Prop :=
  ∀ s' e, run p s = (.error e, s') → P e

/-- Every failure of the handler is one of `P`. -/
def Raises (P : ε → Prop) (p : Proc σ ε α) : Prop := ∀ s, RaisesFrom P p s

section Raises

variable {P : ε → Prop}

theorem raises_pure (a : α) : Raises P (pure a : Proc σ ε α) := by
  intro s s' e h
  cases h

theorem raises_read (f : σ → α) : Raises P (read f : Proc σ ε α) := by
  intro s s' e h
  cases h

theorem raises_write (f : σ → σ) : Raises P (write f : Proc σ ε Unit) := by
  intro s s' e h
  cases h

theorem raises_throw {e : ε} (he : P e) : Raises P (throw e : Proc σ ε α) := by
  intro s s' e' h
  cases h
  exact he

theorem raises_throwIf {c : Prop} [Decidable c] {e : ε} (he : P e) : Raises P (throwIf c e : Proc σ ε Unit) := by
  intro s s' e' h
  rw [run_throwIf] at h
  split_ifs at h <;> cases h
  exact he

theorem raises_ofExcept {x : Except ε α} (hx : ∀ e, x = .error e → P e) : Raises P (ofExcept x : Proc σ ε α) := by
  intro s s' e h
  rw [run_ofExcept] at h
  exact hx e (congrArg Prod.fst h)

variable {f : α → Proc σ ε β} {p : Proc σ ε α}

theorem RaisesFrom.bind {s : σ} (hp : RaisesFrom P p s)
    (hf : ∀ a, Raises P (f a)) : RaisesFrom P (p >>= f) s := by
  intro s' e h
  rcases run_bind_eq_error.mp h with hfail | ⟨a, s₁, -, hrest⟩
  · exact hp s' e hfail
  · exact hf a s₁ s' e hrest

theorem Raises.bind (hp : Raises P p) (hf : ∀ a, Raises P (f a)) : Raises P (p >>= f) :=
  fun s => (hp s).bind hf

theorem Raises.ite {c : Prop} [Decidable c] {p q : Proc σ ε α} (hp : Raises P p)
    (hq : Raises P q) : Raises P (if c then p else q) := by
  split_ifs
  · exact hp
  · exact hq

theorem RaisesFrom.transaction {s : σ} (hp : RaisesFrom P p s) : RaisesFrom P (transaction p) s := by
  intro s' e h
  rw [run_transaction] at h
  rcases hrun : run p s with ⟨e' | a, s₁⟩ <;> rw [hrun] at h <;> cases h
  exact hp s₁ e hrun

/-- Checks before the rest of a handler. -/
theorem ReadOnly.raisesFrom_bind {s : σ} (hread : ReadOnly p)
    (hp : Raises P p) (hf : ∀ a, run p s = (.ok a, s) → RaisesFrom P (f a) s) : RaisesFrom P (p >>= f) s := by
  intro s' e h
  rcases run_bind_eq_error.mp h with hfail | ⟨a, s₁, hok, hrest⟩
  · exact hp s s' e hfail
  · obtain rfl := hread.eq_of_run hok
    exact hf a hok s' e hrest

theorem Raises.zoom {L : Lens τ σ} {p : Proc σ ε α} (hp : Raises P p) : Raises P (zoom L p) := by
  intro t t' e h
  obtain ⟨s, hrun, -⟩ := run_zoom_eq.mp h
  exact hp (L.get t) s e hrun

theorem raises_forEach {body : β → Proc σ ε Unit} (hbody : ∀ x, Raises P (body x)) (xs : List β) :
    Raises P (forEach xs body) := by
  induction xs with
  | nil => exact raises_pure ()
  | cons x xs ih => exact (hbody x).bind fun _ => ih

end Raises

/-! ### Properties of every action -/

/-- Each action of the handler moves the store along `R`, whatever the reads returned. -/
def Acts (R : σ → σ → Prop) : Proc σ ε α → Prop
  | .done _ => True
  | .fail _ => True
  | .step act next => ∀ s, R s (act s) ∧ Acts R (next s)

variable {R : σ → σ → Prop}

@[simp] theorem acts_pure (a : α) : Acts R (pure a : Proc σ ε α) := trivial

@[simp] theorem acts_throw (e : ε) : Acts R (throw e : Proc σ ε α) := trivial

theorem acts_read (hR : ∀ s, R s s) (f : σ → α) : Acts R (read f : Proc σ ε α) :=
  fun s => ⟨hR s, trivial⟩

@[simp] theorem acts_throwIf (c : Prop) [Decidable c] (e : ε) : Acts R (throwIf c e : Proc σ ε Unit) := by
  unfold throwIf
  split_ifs <;> trivial

theorem acts_step {act : σ → σ} {next : σ → Proc σ ε α} (h : ∀ s, R s (act s)) (hnext : ∀ s, Acts R (next s)) :
    Acts R (.step act next) :=
  fun s => ⟨h s, hnext s⟩

theorem acts_ofExcept (x : Except ε α) : Acts R (ofExcept x : Proc σ ε α) := by
  cases x <;> trivial

theorem Acts.ite {c : Prop} [Decidable c] {p q : Proc σ ε α} (hp : Acts R p) (hq : Acts R q) :
    Acts R (if c then p else q) := by
  split_ifs
  · exact hp
  · exact hq

theorem acts_write {f : σ → σ} (h : ∀ s, R s (f s)) : Acts R (write f : Proc σ ε Unit) :=
  fun s => ⟨h s, trivial⟩

theorem acts_transaction {p : Proc σ ε α} (h : ∀ s, R s (run (transaction p) s).2) : Acts R (transaction p) := by
  refine acts_step (fun s => ?_) fun s => ?_
  · have hs := h s
    rw [run_transaction] at hs
    rcases hrun : run p s with ⟨e | a, s'⟩ <;> rw [hrun] at hs <;> exact hs
  · rcases run p s with ⟨e | a, s'⟩ <;> trivial

/-- The actions of a handler on a part of the store, as actions on the whole. -/
theorem Acts.zoom {R' : τ → τ → Prop} {L : Lens τ σ} {p : Proc σ ε α} (hp : Acts R p)
    (h : ∀ t s, R (L.get t) s → R' t (L.set t s)) : Acts R' (zoom L p) := by
  induction p with
  | done a => trivial
  | fail e => trivial
  | step act next ih => exact fun t => ⟨h t _ (hp (L.get t)).1, ih (L.get t) (hp (L.get t)).2⟩

/-- A handler on a part of the store writes to that part only. -/
theorem acts_zoom {R : τ → τ → Prop} {L : Lens τ σ} (h : ∀ t s, R t (L.set t s)) (p : Proc σ ε α) :
    Acts R (zoom L p) := by
  induction p with
  | done a => trivial
  | fail e => trivial
  | step act next ih => exact fun t => ⟨h t _, ih (L.get t)⟩

theorem Acts.bind {p : Proc σ ε α} {f : α → Proc σ ε β} (hp : Acts R p) (hf : ∀ a, Acts R (f a)) :
    Acts R (p >>= f) := by
  induction p with
  | done a => exact hf a
  | fail e => trivial
  | step act next ih => exact fun s => ⟨(hp s).1, ih s (hp s).2⟩

theorem Acts.mono {R' : σ → σ → Prop} (h : ∀ s s', R s s' → R' s s') {p : Proc σ ε α} (hp : Acts R p) : Acts R' p := by
  induction p with
  | done a => trivial
  | fail e => trivial
  | step act next ih => exact fun s => ⟨h _ _ (hp s).1, ih s (hp s).2⟩

/-- What every action does, the whole run does, when it holds of no action and of two in a row. -/
theorem Acts.rel_run (hrefl : ∀ s, R s s) (htrans : ∀ s₁ s₂ s₃, R s₁ s₂ → R s₂ s₃ → R s₁ s₃) {p : Proc σ ε α}
    (hp : Acts R p) (s : σ) : R s (run p s).2 := by
  induction p generalizing s with
  | done a => exact hrefl s
  | fail e => exact hrefl s
  | step act next ih =>
    exact htrans _ _ _ (hp s).1 (ih s (hp s).2 (act s))

/-- A caught failure acts as the handler does. -/
theorem Acts.attempt {p : Proc σ ε α} (hp : Acts R p) : Acts R (attempt p : Proc σ ε' (Except ε α)) := by
  induction p with
  | done a => trivial
  | fail e => trivial
  | step act next ih => exact fun s => ⟨(hp s).1, ih s (hp s).2⟩

theorem acts_forEach {xs : List β} (hbody : ∀ x ∈ xs, Acts R (body x)) :
    Acts R (forEach xs body) := by
  induction xs with
  | nil => trivial
  | cons x xs ih =>
    exact (hbody x List.mem_cons_self).bind fun _ => ih fun y hy => hbody y (List.mem_cons_of_mem x hy)

end Proc

end SuuqBackend
