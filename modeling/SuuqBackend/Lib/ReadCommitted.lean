import SuuqBackend.Lib.Interleave

/-!
# Transactions that run beside each other

A `Sessions` is a store with any number of transactions on it, at the isolation level "read
committed": a transaction reads the last committed store under its own writes, and its writes are
kept back until it ends.  A successful end publishes them, a failure drops them.

`Proc.pending p seen` are the writes that `p` has kept back after its first actions saw the stores
`seen`, as one function on the store.  `Sees p s seen` says that `seen` is what `p` sees when it
runs alone from `s`.

* `run_resume_pending`: a transaction that has so far seen what it sees alone goes on as alone.
* `step_cases`: a step is an action kept back, a commit, an abort, or nothing.
* `one_commit`: transactions that begin with a check, and that commit only while what they checked
  still holds, commit once; the store is then what the one that committed makes of it alone.
* `store_invariant`: what the kept back writes of every transaction preserve holds of every committed
  store.
-/

namespace SuuqBackend

namespace Proc

variable {σ ε α : Type}

/-- The writes of the first actions of the handler, as one function on the store. -/
def pending : Proc σ ε α → List σ → σ → σ
  | .step act next, s :: seen => fun t => pending (next s) seen (act t)
  | _, _ => id

@[simp] theorem pending_nil (p : Proc σ ε α) : p.pending [] = id := by
  cases p <;> rfl

/-- The stores `seen` are the first ones that the handler sees when it runs alone from `s`. -/
def Sees : Proc σ ε α → σ → List σ → Prop
  | _, _, [] => True
  | .step act next, s, t :: seen => t = s ∧ Sees (next s) (act s) seen
  | _, _, _ :: _ => False

@[simp] theorem sees_nil (p : Proc σ ε α) (s : σ) : p.Sees s [] := by
  cases p <;> trivial

variable {s : σ} {p : Proc σ ε α} {seen : List σ}

/-- The first store that a handler sees alone is the initial one. -/
theorem Sees.head {s' : σ} (h : p.Sees s (s' :: seen)) : s' = s := by
  cases p with
  | done a => exact h.elim
  | fail e => exact h.elim
  | step act next => exact h.1

/-- A handler that has seen what it sees alone ends as it does alone. -/
theorem run_resume_pending (h : p.Sees s seen) : (p.resume seen).run (p.pending seen s) = p.run s := by
  induction seen generalizing p s with
  | nil => rw [resume_nil, pending_nil, id]
  | cons t seen ih =>
    cases p with
    | done a => exact h.elim
    | fail e => exact h.elim
    | step act next =>
      obtain ⟨rfl, h⟩ := h
      exact ih h

/-- What a handler sees next under its own writes is what it sees next alone. -/
theorem Sees.concat {act : σ → σ} {next : σ → Proc σ ε α} (h : p.Sees s seen) (hleft : p.resume seen = .step act next) :
    p.Sees s (seen ++ [p.pending seen s]) := by
  induction seen generalizing p s with
  | nil =>
    rw [resume_nil] at hleft
    subst hleft
    exact ⟨rfl, sees_nil _ _⟩
  | cons t seen ih =>
    cases p with
    | done a => exact h.elim
    | fail e => exact h.elim
    | step act' next' =>
      obtain ⟨rfl, h⟩ := h
      exact ⟨rfl, ih h hleft⟩

/-- A handler that has ended after it saw what it sees alone has the result it has alone. -/
theorem run_eq_of_resume_eq_done {a : α} (h : p.Sees s seen) (hleft : p.resume seen = .done a) :
    p.run s = (.ok a, p.pending seen s) := by
  rw [← run_resume_pending h, hleft, run_done]

end Proc

/-- Transactions `ι` on one store. -/
structure Sessions (ι σ : Type) where
  /-- The last committed store. -/
  store : σ
  /-- What the actions of each transaction saw. -/
  seen : ι → List σ
  /-- The transactions that have committed or aborted. -/
  ended : ι → Bool

namespace Sessions

variable {ι σ ε α : Type} [DecidableEq ι] (start : ι → Proc σ ε α)

/-- No transaction has begun. -/
def init (s : σ) : Sessions ι σ := ⟨s, fun _ => [], fun _ => false⟩

def left (S : Sessions ι σ) (i : ι) : Proc σ ε α := (start i).resume (S.seen i)

/-- The store as the transaction `i` sees it. -/
def view (S : Sessions ι σ) (i : ι) : σ := (start i).pending (S.seen i) S.store

/-- The transaction `i` performs an action: its write is kept back. -/
def act (S : Sessions ι σ) (i : ι) : Sessions ι σ :=
  { S with seen := Function.update S.seen i (S.seen i ++ [S.view start i]) }

/-- The transaction `i` commits. -/
def commit (S : Sessions ι σ) (i : ι) : Sessions ι σ :=
  { S with store := S.view start i, ended := Function.update S.ended i true }

/-- The transaction `i` aborts. -/
def abort (S : Sessions ι σ) (i : ι) : Sessions ι σ :=
  { S with ended := Function.update S.ended i true }

/-- Let the transaction `i` perform its next action, commit or abort. -/
def step (S : Sessions ι σ) (i : ι) : Sessions ι σ :=
  if S.ended i then S
  else match S.left start i with
    | .step _ _ => S.act start i
    | .done _ => S.commit start i
    | .fail _ => S.abort i

instance decidableDone (p : Proc σ ε α) : Decidable (∃ a, p = .done a) :=
  match p with
  | .done a => .isTrue ⟨a, rfl⟩
  | .fail _ => .isFalse fun ⟨_, h⟩ => nomatch h
  | .step _ _ => .isFalse fun ⟨_, h⟩ => nomatch h

def Committed (S : Sessions ι σ) (i : ι) : Prop := S.ended i = true ∧ ∃ a, S.left start i = .done a
deriving Decidable

/-- The next step of the transaction `i` is its commit. -/
def Commits (S : Sessions ι σ) (i : ι) : Prop := S.ended i = false ∧ ∃ a, S.left start i = .done a
deriving Decidable

/-- A step is an action kept back, a commit, an abort, or nothing. -/
theorem step_cases (S : Sessions ι σ) (i : ι) :
    S.step start i = S ∨ S.ended i = false ∧
      ((∃ a next, S.left start i = .step a next ∧ S.step start i = S.act start i) ∨
        (∃ a, S.left start i = .done a ∧ S.step start i = S.commit start i) ∨
        (∃ e, S.left start i = .fail e ∧ S.step start i = S.abort i)) := by
  unfold step
  cases hi : S.ended i with
  | true => exact .inl (if_pos rfl)
  | false =>
    refine .inr ⟨rfl, ?_⟩
    cases h : S.left start i with
    | done a => exact .inr (.inl ⟨a, rfl, rfl⟩)
    | fail e => exact .inr (.inr ⟨e, rfl, rfl⟩)
    | step a next => exact .inl ⟨a, next, rfl, rfl⟩

theorem seen_act_self (S : Sessions ι σ) (i : ι) : (S.act start i).seen i = S.seen i ++ [S.view start i] :=
  Function.update_self ..

variable {i : ι} {S : Sessions ι σ}

theorem seen_act_of_ne (S : Sessions ι σ) {j : ι} (h : j ≠ i) : (S.act start i).seen j = S.seen j :=
  Function.update_of_ne h ..

/-- The first store that a transaction has seen is one it saw before, or the present one. -/
theorem head_seen_act {j : ι} {s : σ} {seen : List σ}
    (h : (S.act start i).seen j = s :: seen) : (∃ seen', S.seen j = s :: seen') ∨ s = S.store := by
  by_cases hj : j = i
  · subst hj
    rw [seen_act_self] at h
    cases hold : S.seen j with
    | nil =>
      have hview : S.view start j = S.store := by
        rw [view, hold, Proc.pending_nil, id]
      rw [hold, hview] at h
      exact .inr (List.cons.inj h).1.symm
    | cons s' seen' =>
      rw [hold] at h
      exact .inl ⟨seen', by rw [(List.cons.inj h).1]⟩
  · rw [seen_act_of_ne start S hj] at h
    exact .inl ⟨seen, h⟩

omit [DecidableEq ι] in
theorem committed_congr {S' : Sessions ι σ} (hended : S'.ended i = S.ended i)
    (hseen : S'.seen i = S.seen i) : S'.Committed start i ↔ S.Committed start i := by
  unfold Committed left
  rw [hended, hseen]

/-- An action commits nothing. -/
theorem committed_act (hrunning : S.ended i = false) (j : ι) :
    (S.act start i).Committed start j ↔ S.Committed start j := by
  by_cases hj : j = i
  · subst hj
    have hnot : S.ended j ≠ true := by rw [hrunning]; decide
    constructor
    · intro h
      exact absurd h.1 hnot
    · intro h
      exact absurd h.1 hnot
  · exact committed_congr start rfl (S.seen_act_of_ne start hj)

theorem committed_abort (hrunning : S.ended i = false) {e : ε} (hleft : S.left start i = .fail e) (j : ι) :
    (S.abort i).Committed start j ↔ S.Committed start j := by
  by_cases hj : j = i
  · subst hj
    constructor
    · rintro ⟨-, a, ha⟩
      have ha : S.left start j = .done a := ha
      rw [hleft] at ha
      cases ha
    · rintro ⟨hended, -⟩
      rw [hrunning] at hended
      cases hended
  · exact committed_congr start (Function.update_of_ne hj ..) rfl

/-- A committed store satisfies what the writes of every transaction preserve, as long as it has seen
only stores that do. -/
theorem store_invariant {P : σ → Prop} (hpending : ∀ i seen, (∀ s ∈ seen, P s) →
    ∀ s, P s → P ((start i).pending seen s)) {s₀ : σ} (h0 : P s₀) (schedule : List ι) :
    P (Run.after (step start) (init s₀) schedule).store := by
  suffices h : let S := Run.after (step start) (init s₀) schedule
      P S.store ∧ ∀ i, ∀ s ∈ S.seen i, P s from h.1
  refine Run.after_invariant (P := fun S : Sessions ι σ => P S.store ∧ ∀ i, ∀ s ∈ S.seen i, P s)
    ?_ ⟨h0, fun i s hs => absurd hs List.not_mem_nil⟩ schedule
  rintro S i ⟨hstore, hseen⟩
  have hview : P (S.view start i) := hpending i _ (hseen i) _ hstore
  rcases S.step_cases start i with hstep | ⟨-, ⟨act, next, -, hstep⟩ | ⟨a, -, hstep⟩ | ⟨e, -, hstep⟩⟩
  · rw [hstep]
    exact ⟨hstore, hseen⟩
  · rw [hstep]
    refine ⟨hstore, fun j s hs => ?_⟩
    by_cases hj : j = i
    · subst hj
      rw [seen_act_self] at hs
      rcases List.mem_append.mp hs with hs | hs
      · exact hseen j s hs
      · rw [List.mem_singleton.mp hs]
        exact hview
    · rw [seen_act_of_ne start S hj] at hs
      exact hseen j s hs
  · rw [hstep]
    exact ⟨hview, hseen⟩
  · rw [hstep]
    exact ⟨hstore, hseen⟩

/-! ### At most one commit -/

/-- The transaction may commit only while the first store that it saw and the present one agree on
`free`. -/
def Validates (free : σ → Prop) (S : Sessions ι σ) (i : ι) : Prop :=
  S.Commits start i → ∀ s seen, S.seen i = s :: seen → free s → free S.store

omit [DecidableEq ι] in
theorem validates_iff_head (free : σ → Prop) (S : Sessions ι σ) (i : ι) :
    S.Validates start free i ↔ (S.Commits start i → ∀ s ∈ (S.seen i).head?, free s → free S.store) := by
  simp [Validates, List.head?_eq_some_iff]

instance decidableValidates (free : σ → Prop) [DecidablePred free] (S : Sessions ι σ) (i : ι) :
    Decidable (S.Validates start free i) :=
  decidable_of_iff' _ (validates_iff_head start free S i)

/-- Nobody has committed, or one transaction has. -/
def OneCommit (closed : σ → Prop) (s₀ : σ) (S : Sessions ι σ) : Prop :=
  (S.store = s₀ ∧ (∀ i, (start i).Sees s₀ (S.seen i)) ∧ ∀ i, ¬ S.Committed start i) ∨
  (closed S.store ∧ (∃ i a, S.Committed start i ∧ (start i).run s₀ = (.ok a, S.store)) ∧
    ∀ j s seen, S.seen j = s :: seen → s = s₀ ∨ s = S.store)

variable {start}

section OneCommit

variable {free closed : σ → Prop} {s₀ : σ} {S : Sessions ι σ} {i : ι}

/-- A transaction that performs an action has seen one more store. -/
theorem OneCommit.act (h : OneCommit start closed s₀ S) (hrunning : S.ended i = false)
    {act : σ → σ} {next : σ → Proc σ ε α} (hleft : S.left start i = .step act next) :
    OneCommit start closed s₀ (S.act start i) := by
  have hcommitted := committed_act start hrunning
  rcases h with ⟨hstore, hsees, hnone⟩ | ⟨hclosed, ⟨w, b, hw, hrun⟩, hheads⟩
  · refine .inl ⟨hstore, fun j => ?_, fun j hj => hnone j ((hcommitted j).mp hj)⟩
    by_cases hj : j = i
    · subst hj
      rw [seen_act_self, view, hstore]
      exact (hsees j).concat hleft
    · rw [seen_act_of_ne start S hj]
      exact hsees j
  · refine .inr ⟨hclosed, ⟨w, b, (hcommitted w).mpr hw, hrun⟩, fun j s seen hseen => ?_⟩
    rcases head_seen_act start hseen with ⟨seen', hold⟩ | hs
    · exact hheads j s seen' hold
    · exact .inr hs

/-- The first commit ends as the transaction does alone. -/
theorem OneCommit.firstCommit (hstore : S.store = s₀) (hsees : ∀ j, (start j).Sees s₀ (S.seen j))
    {a : α} (hleft : S.left start i = .done a) (hcloses : ∀ i a s, (start i).run s₀ = (.ok a, s) → closed s) :
    OneCommit start closed s₀ (S.commit start i) := by
  have hrun : (start i).run s₀ = (.ok a, S.view start i) := by
    rw [view, hstore]
    exact Proc.run_eq_of_resume_eq_done (hsees i) hleft
  have hcommits : (S.commit start i).Committed start i := ⟨Function.update_self .., a, hleft⟩
  refine .inr ⟨hcloses i a _ hrun, ⟨i, a, hcommits, hrun⟩, fun j s seen hseen => .inl ?_⟩
  have hj : (start j).Sees s₀ (s :: seen) := hseen ▸ hsees j
  exact hj.head

omit [DecidableEq ι] in
/-- There is no second commit: what the transaction has checked holds no more. -/
theorem not_commits_of_closed (hopen : ∀ i a, start i ≠ .done a)
    (hclosed : ∀ i s seen a, closed s → (start i).resume (s :: seen) ≠ .done a)
    (hdisjoint : ∀ s, closed s → ¬ free s) (h0 : free s₀) (hvalid : S.Validates start free i)
    (hstore : closed S.store) (hheads : ∀ j s seen, S.seen j = s :: seen → s = s₀ ∨ s = S.store) :
    ¬ S.Commits start i := by
  intro hcommits
  obtain ⟨-, a, hleft⟩ := id hcommits
  cases hseen : S.seen i with
  | nil =>
    rw [left, hseen, Proc.resume_nil] at hleft
    exact hopen i a hleft
  | cons s seen =>
    rcases hheads i s seen hseen with hs | hs
    · have hfree := hvalid hcommits s seen hseen (by rw [hs]; exact h0)
      exact hdisjoint _ hstore hfree
    · rw [left, hseen] at hleft
      exact hclosed i s seen a (by rw [hs]; exact hstore) hleft

theorem OneCommit.abort (h : OneCommit start closed s₀ S) (hrunning : S.ended i = false) {e : ε}
    (hleft : S.left start i = .fail e) : OneCommit start closed s₀ (S.abort i) := by
  have hcommitted := committed_abort start hrunning hleft
  rcases h with ⟨hstore, hsees, hnone⟩ | ⟨hclosed, ⟨w, b, hw, hrun⟩, hheads⟩
  · exact .inl ⟨hstore, hsees, fun j hj => hnone j ((hcommitted j).mp hj)⟩
  · exact .inr ⟨hclosed, ⟨w, b, (hcommitted w).mpr hw, hrun⟩, hheads⟩

/-- One step of transactions that begin with a check of `free`, fail when it is `closed`, and close
it themselves. -/
theorem OneCommit.step (h : OneCommit start closed s₀ S) (i : ι) (hopen : ∀ i a, start i ≠ .done a)
    (hclosed : ∀ i s seen a, closed s → (start i).resume (s :: seen) ≠ .done a)
    (hcloses : ∀ i a s, (start i).run s₀ = (.ok a, s) → closed s)
    (hdisjoint : ∀ s, closed s → ¬ free s) (h0 : free s₀) (hvalid : S.Validates start free i) :
    OneCommit start closed s₀ (S.step start i) := by
  rcases S.step_cases start i with hstep | ⟨hrunning, hcases⟩
  · rw [hstep]
    exact h
  rcases hcases with ⟨act, next, hleft, hstep⟩ | ⟨a, hleft, hstep⟩ | ⟨e, hleft, hstep⟩
  · rw [hstep]
    exact h.act hrunning hleft
  · rw [hstep]
    rcases h with ⟨hstore, hsees, -⟩ | ⟨hclosedStore, -, hheads⟩
    · exact OneCommit.firstCommit hstore hsees hleft hcloses
    · exact absurd ⟨hrunning, a, hleft⟩ (not_commits_of_closed hopen hclosed hdisjoint h0 hvalid hclosedStore hheads)
  · rw [hstep]
    exact h.abort hrunning hleft

end OneCommit

/-- **A validated check lets one transaction commit**: the store is the initial one, or what the one
that has committed makes of it alone. -/
theorem one_commit {free closed : σ → Prop} {s₀ : σ} (hopen : ∀ i a, start i ≠ .done a)
    (hclosed : ∀ i s seen a, closed s → (start i).resume (s :: seen) ≠ .done a)
    (hcloses : ∀ i a s, (start i).run s₀ = (.ok a, s) → closed s)
    (hdisjoint : ∀ s, closed s → ¬ free s) (h0 : free s₀) (schedule : List ι)
    (hvalid : Run.Along (step start) (Validates start free) (init s₀) schedule) :
    let S := Run.after (step start) (init s₀) schedule
    (S.store = s₀ ∧ ∀ i, ¬ S.Committed start i) ∨ ∃ i a, S.Committed start i ∧ (start i).run s₀ = (.ok a, S.store) := by
  intro S
  have hS : OneCommit start closed s₀ S := by
    refine Run.after_induction (C := Validates start free)
      (fun S i h hi => h.step i hopen hclosed hcloses hdisjoint h0 hi) (.inl ?_) hvalid
    refine ⟨rfl, fun i => Proc.sees_nil _ _, ?_⟩
    rintro i ⟨hended, -⟩
    cases hended
  rcases hS with ⟨hstore, -, hnone⟩ | ⟨-, hone, -⟩
  · exact .inl ⟨hstore, hnone⟩
  · exact .inr hone

end Sessions

end SuuqBackend

/-!
## What a transaction writes

The writes that a transaction keeps back are applied to a store that need not be any of those that it
has read from.  `Delivers Q p w` says that, after the writes `w` and whatever the actions of `p` see, `p`
ends with a result `a` and writes `w'` in `Q a w'`, or fails.

* `Delivers.bind`, `delivers_zoom`, `delivers_forEach`: the rules for sequences, parts of the store and loops.
* `Acts.delivers`: what every action does, the writes do together.
* `Still.delivers`: checks write nothing.
* `Delivers.pending`: the writes of a transaction that has ended.
-/

namespace SuuqBackend.Proc

variable {σ τ ε α β : Type} {Q : α → (σ → σ) → Prop} {Q' : β → (σ → σ) → Prop} {w : σ → σ}

/-- Whatever the handler sees, it ends with a result and writes in `Q`, or fails; `w` are the writes
before it. -/
def Delivers (Q : α → (σ → σ) → Prop) : Proc σ ε α → (σ → σ) → Prop
  | .done a, w => Q a w
  | .fail _, _ => True
  | .step act next, w => ∀ s, Delivers Q (next s) (act ∘ w)

theorem delivers_pure {a : α} (h : Q a w) : Delivers Q (pure a : Proc σ ε α) w := h

theorem delivers_throw (e : ε) : Delivers Q (throw e : Proc σ ε α) w := trivial

theorem delivers_write {f : σ → σ} {Q : Unit → (σ → σ) → Prop} (h : Q () (f ∘ w)) :
    Delivers Q (write f : Proc σ ε Unit) w :=
  fun _ => h

variable {p : Proc σ ε α}

variable {c : Prop} {f : α → Proc σ ε β}

theorem delivers_failIf [Decidable c] {e : ε} (h : ¬ c → Delivers Q p w) : Delivers Q (if c then .fail e else p) w := by
  split_ifs with hc
  · trivial
  · exact h hc

theorem delivers_throwIf [Decidable c] {e : ε} {Q : Unit → (σ → σ) → Prop}
    (h : ¬ c → Q () w) : Delivers Q (throwIf c e : Proc σ ε Unit) w := by
  unfold throwIf
  split_ifs with hc
  · exact delivers_throw e
  · exact delivers_pure (h hc)

theorem delivers_ofExcept {x : Except ε α} (h : ∀ a, x = .ok a → Q a w) : Delivers Q (ofExcept x : Proc σ ε α) w := by
  cases x with
  | error e => exact trivial
  | ok a => exact h a rfl

theorem Delivers.bind (hp : Delivers Q p w) (hf : ∀ a w', Q a w' → Delivers Q' (f a) w') : Delivers Q' (p >>= f) w := by
  induction p generalizing w with
  | done a => exact hf a w hp
  | fail e => trivial
  | step act next ih => exact fun s => ih s (hp s)

theorem Delivers.mono {R : α → (σ → σ) → Prop} (hp : Delivers Q p w)
    (h : ∀ a w', Q a w' → R a w') : Delivers R p w := by
  induction p generalizing w with
  | done a => exact h a w hp
  | fail e => trivial
  | step act next ih => exact fun s => ih s (hp s)

/-- What every action of the handler does to a store, its writes do together. -/
theorem Acts.delivers {R : σ → σ → Prop} (hrefl : ∀ s, R s s)
    (htrans : ∀ s s' s'', R s s' → R s' s'' → R s s'') (hp : Acts R p) :
    Delivers (fun _ w' => ∀ t, R (w t) (w' t)) p w := by
  suffices h : ∀ w', (∀ t, R (w t) (w' t)) → Delivers (fun _ w' => ∀ t, R (w t) (w' t)) p w' from
    h w fun t => hrefl (w t)
  intro w' hw'
  induction p generalizing w' with
  | done a => exact hw'
  | fail e => trivial
  | step act next ih =>
    intro s
    exact ih s (hp s).2 _ fun t => htrans _ _ _ (hw' t) (hp (w' t)).1

/-- A handler on a part of the store writes to that part. -/
theorem delivers_zoom {L : Lens τ σ} (hp : Delivers Q p id) {w : τ → τ} :
    Delivers (fun a w' => ∃ u, Q a u ∧ ∀ t, w' t = L.set (w t) (u (L.get (w t)))) (zoom L p) w := by
  suffices h : ∀ (u : σ → σ) (w' : τ → τ), Delivers Q p u →
      (∀ t, w' t = L.set (w t) (u (L.get (w t)))) →
      Delivers (fun a w' => ∃ u, Q a u ∧ ∀ t, w' t = L.set (w t) (u (L.get (w t)))) (zoom L p) w' from
    h id w hp fun t => (L.set_get (w t)).symm
  clear hp
  induction p with
  | done a => exact fun u w' hp hw' => ⟨u, hp, hw'⟩
  | fail e => exact fun _ _ _ _ => trivial
  | step act next ih =>
    intro u w' hp hw' t
    refine ih (L.get t) (act ∘ u) _ (hp (L.get t)) fun t' => ?_
    show L.set (w' t') (act (L.get (w' t'))) = _
    rw [hw', L.get_set, L.set_set]
    rfl

/-- A loop writes what its rounds write, one after another. -/
theorem delivers_forEach {body : β → Proc σ ε Unit} {R : List β → σ → σ → Prop} (hnil : ∀ s, R [] s s)
    (hcons : ∀ x xs (w : σ → σ), Delivers (fun _ w' => ∀ t t', R xs (w' t) t' → R (x :: xs) (w t) t')
      (body x) w) (xs : List β) : Delivers (fun _ w' => ∀ t, R xs (w t) (w' t)) (forEach xs body) w := by
  induction xs generalizing w with
  | nil => exact fun t => hnil (w t)
  | cons x xs ih =>
    refine (hcons x xs w).bind fun _ w₁ hround => ?_
    exact (ih (w := w₁)).mono fun _ w₂ hrest t => hround t (w₂ t) (hrest t)

/-- The handler performs no action. -/
def Still (p : Proc σ ε α) : Prop := ∀ act next, p ≠ .step act next

theorem still_pure (a : α) : Still (pure a : Proc σ ε α) := fun _ _ h => nomatch h

theorem still_throwIf (c : Prop) [Decidable c] (e : ε) : Still (throwIf c e : Proc σ ε Unit) := by
  unfold throwIf
  split_ifs
  · exact fun _ _ h => nomatch h
  · exact still_pure ()

theorem still_ofExcept (x : Except ε α) : Still (ofExcept x : Proc σ ε α) := by
  cases x with
  | error e => exact fun _ _ h => nomatch h
  | ok a => exact still_pure a

theorem Still.bind (hp : Still p) (hf : ∀ a, Still (f a)) : Still (p >>= f) := by
  cases p with
  | done a => exact hf a
  | fail e => exact fun _ _ h => nomatch h
  | step act next => exact absurd rfl (hp act next)

/-- A handler without actions writes nothing, and has the result that it has from any store. -/
theorem Still.delivers (hp : Still p) (s : σ) (h : ∀ a, p.run s = (.ok a, s) → Q a w) : Delivers Q p w := by
  cases p with
  | done a => exact h a rfl
  | fail e => trivial
  | step act next => exact absurd rfl (hp act next)

/-- The writes of a handler that has ended. -/
theorem Delivers.pending (hp : Delivers Q p w) {seen : List σ} {a : α}
    (h : p.resume seen = .done a) : Q a (p.pending seen ∘ w) := by
  induction seen generalizing p w with
  | nil =>
    rw [resume_nil] at h
    subst h
    exact hp
  | cons s seen ih =>
    cases p with
    | done b =>
      cases h
      exact hp
    | fail e => cases h
    | step act next => exact ih (hp s) h

end SuuqBackend.Proc
