import SuuqBackend.PosSync.Laws.CheckoutIngest

/-!
# Checkouts beside each other

`ingest` and `voidCheckout` as handlers that run beside others: the transaction of `ingest` is one at the level "read
committed", and a void updates the columns of a void.  Alone they run as before (`run_ingestBeside`,
`run_voidBeside`).

`ingest` stores its checkout once more when its transaction commits, as processed, or when it has failed, as failed, and
tests neither what has become of the cart nor of the row by then.  `savesNext` is what a handler stores so next, by what
it has seen; every other step is harmless (`actsBy_proc`).

`carts_sold_once_iff`: a cart is sold at most once and a void is final exactly in the schedules in which each of these
stores is in time.

A save leaves the columns of a void alone that the entity has never had; here it writes the whole row.  No status
depends on them.
-/

namespace SuuqBackend

open Proc PosCheckouts PosCheckoutRepository SerialTable

def PosCheckout.SoldFrom (cartId : ℕ) (checkout : PosCheckout) : Prop :=
  checkout.status = .processed ∧ checkout.suspendedCartId = some cartId
deriving Decidable

def PosCheckoutStore.SoldOnce (s : PosCheckoutStore) : Prop :=
  ∀ cartId id id' row row', s.checkouts.find id = some row → s.checkouts.find id' = some row' →
    row.SoldFrom cartId → row'.SoldFrom cartId → id = id'

/-- A checkout that is voided in the first state is voided in the second one. -/
def KeepsVoids (s s' : PosCheckoutStore) : Prop :=
  ∀ id row, s.checkouts.find id = some row → row.status = .voided →
    ∃ row', s'.checkouts.find id = some row' ∧ row'.status = .voided

theorem KeepsVoids.refl (s : PosCheckoutStore) : KeepsVoids s s := fun _ row hfind hvoided => ⟨row, hfind, hvoided⟩

theorem KeepsVoids.trans {s₁ s₂ s₃ : PosCheckoutStore} (h : KeepsVoids s₁ s₂) (h' : KeepsVoids s₂ s₃) :
    KeepsVoids s₁ s₃ := by
  intro id row hfind hvoided
  obtain ⟨row₂, hfind₂, hvoided₂⟩ := h id row hfind hvoided
  exact h' id row₂ hfind₂ hvoided₂

namespace PosCheckouts

/-! ### The handlers -/

section Ingest

variable (env : PosCheckoutRuntime) (dto : IngestPosCheckoutDto) (actor : PosActor)

/-- The transaction of `ingest`, with the failure that is caught. -/
def ingestTransaction (id : ℕ) (checkout : PosCheckout) : PosCheckoutProc (Except (HttpException × PosCheckout) Unit) :=
  attempt (isolated (ingestWithin env dto actor id checkout))

/-- `ingest` from where the checkout is stored, beside other handlers. -/
def processNewBeside (id : ℕ) (checkout : PosCheckout) : PosCheckoutProc (ℕ × PosCheckout) := do
  match ← ingestTransaction env dto actor id checkout with
  | .error (error, checkout) =>
    saveCheckout id (failedCheckout env.now checkout error)
    match error with
    | .badRequest _ | .notFound _ => findOneById id
    | _ => throw error
  | .ok () =>
    let processed ← findOneById id
    let _ : Except HttpException Unit ←
      attempt (postCheckoutToLedger env processed.1 processed.2)
    return processed

/-- `ingest` beside other handlers. -/
def ingestBeside : PosCheckoutProc (ℕ × PosCheckout) := do
  assertRequest dto
  match ← findExistingForIdempotency dto with
  | some existing => return existing
  | none =>
    assertScope dto.branchId dto.partnerCredentialId
    let checkout := newCheckout env dto actor
    let id ← insertCheckout checkout
    processNewBeside env dto actor id checkout

theorem run_ingestBeside (S : PosCheckoutStore) : (ingestBeside env dto actor).run S = (ingest env dto actor).run S := by
  have hisolated (id : ℕ) (checkout : PosCheckout) (S : PosCheckoutStore) :
      (processNewBeside env dto actor id checkout).run S = (processNew env dto actor id checkout).run S := by
    have hattempt : (ingestTransaction env dto actor id checkout).run S =
        (attempt (transaction (ingestWithin env dto actor id checkout))).run S := by
      rw [ingestTransaction, run_attempt, run_attempt, run_isolated]
    exact run_bind_congr hattempt _
  unfold ingestBeside ingest
  rw [run_bind, run_bind]
  rcases (assertRequest dto).run S with ⟨e | _, S₁⟩
  · rfl
  dsimp only
  rw [run_bind, run_bind]
  rcases (findExistingForIdempotency dto).run S₁ with ⟨e | existing, S₂⟩
  · rfl
  cases existing with
  | some existing => rfl
  | none =>
    dsimp only
    rw [run_bind, run_bind]
    rcases (assertScope dto.branchId dto.partnerCredentialId).run S₂ with ⟨e | _, S₃⟩
    · rfl
    dsimp only
    rw [run_bind, run_bind]
    rcases (insertCheckout (newCheckout env dto actor)).run S₃ with ⟨e | id, S₄⟩
    · rfl
    · exact hisolated id _ S₄

end Ingest

/-- `posCheckoutsRepository.update(id, …)` of a void. -/
def updateVoided (now : Date) (id voidedByUserId : ℕ) (voidReason : Option String) : PosCheckoutProc Unit :=
  Proc.write fun s => match s.checkouts.find id with
    | none => s
    | some row => { s with checkouts := s.checkouts.set id { row with
        status := .voided
        voidedAt := some now
        voidedByUserId := some voidedByUserId
        voidReason } }

/-- `voidCheckout` beside other handlers. -/
def voidBeside (env : PosCheckoutRuntime) (id : ℕ) (dto : VoidPosCheckoutDto) (actorId : ℕ)
    (actorBranchId : Option ℕ) : PosCheckoutProc VoidResponse := do
  match ← findCheckout id with
  | none => throw (.notFound s!"Checkout #{id} not found")
  | some checkout =>
    .throwIf (∃ b ∈ actorBranchId, checkout.branchId ≠ b)
      (.forbidden "You do not have permission to void checkouts on this branch")
    .throwIf (checkout.status = .voided) (.badRequest "Checkout is already voided")
    let voidedByUserId := dto.authorisedByUserId.getD actorId
    updateVoided env.now id voidedByUserId dto.reason
    let _ : Except HttpException Unit ←
      attempt (onJournal (reverseCheckoutEntry env.now id checkout voidedByUserId))
    return { id, status := .voided, voidedAt := env.now, voidedByUserId }

/-- Alone, it is `voidCheckout`. -/
theorem run_voidBeside (env : PosCheckoutRuntime) (id : ℕ) (dto : VoidPosCheckoutDto) (actorId : ℕ)
    (actorBranchId : Option ℕ) (S : PosCheckoutStore) :
    (voidBeside env id dto actorId actorBranchId).run S = (voidCheckout env id dto actorId actorBranchId).run S := by
  unfold voidBeside voidCheckout findCheckout
  rw [run_read_bind, run_read_bind]
  cases hfind : S.checkouts.find id with
  | none => rfl
  | some checkout =>
    simp only [run_throwIf_bind]
    split_ifs
    · rfl
    · rfl
    · unfold updateVoided saveCheckout
      rw [run_write_bind, run_write_bind, hfind]

/-! ### What a handler stores next -/

/-- A checkout that is stored once more: its status, and the cart that it names. -/
structure SavedCheckout where
  id : ℕ
  status : PosCheckoutStatus
  suspendedCartId : Option ℕ

section SavesNext

variable (env : PosCheckoutRuntime) (dto : IngestPosCheckoutDto) (actor : PosActor)

/-- What `ingest` stores after its transaction. -/
def afterTransaction (id : ℕ) :
    Except (HttpException × PosCheckout) Unit → List PosCheckoutStore → Option SavedCheckout
  | .error (_, checkout), [] => some ⟨id, .failed, checkout.suspendedCartId⟩
  | _, _ => none

/-- What `ingest` stores next, from where the checkout is stored. -/
def processSavesNext (id : ℕ) (checkout : PosCheckout) : List PosCheckoutStore → Option SavedCheckout :=
  viewBind (ingestTransaction env dto actor id checkout)
    (isolatedView (some ⟨id, .processed, checkout.suspendedCartId⟩) none
      (ingestWithin env dto actor id checkout) (fun s => s))
    (afterTransaction id)

/-- What `ingest` stores next. -/
def ingestSavesNext : List PosCheckoutStore → Option SavedCheckout :=
  viewBind (assertRequest dto) (fun _ => none) fun _ =>
    viewBind (findExistingForIdempotency dto) (fun _ => none) fun
      | some _ => fun _ => none
      | none =>
        viewBind (assertScope dto.branchId dto.partnerCredentialId) (fun _ => none) fun _ =>
          viewBind (insertCheckout (newCheckout env dto actor)) (fun _ => none) fun id =>
            processSavesNext env dto actor id (newCheckout env dto actor)

end SavesNext

/-! ### The steps of a handler -/

def Harmless (s s' : PosCheckoutStore) : Prop := (s.SoldOnce → s'.SoldOnce) ∧ KeepsVoids s s'

/-- The action stores the checkout with this status and this cart, or it is harmless. -/
def Stores (saved : Option SavedCheckout) (act : PosCheckoutStore → PosCheckoutStore) : Prop :=
  ∀ s, match saved with
    | none => Harmless s (act s)
    | some saved => saved.status ≠ .voided ∧ ∃ row : PosCheckout, row.status = saved.status ∧
        row.suspendedCartId = saved.suspendedCartId ∧ (act s).checkouts = s.checkouts.set saved.id row

def KeepsCheckouts (s s' : PosCheckoutStore) : Prop := s'.checkouts = s.checkouts

section Steps

variable {s s' : PosCheckoutStore}

theorem harmless_of_eq (h : KeepsCheckouts s s') : Harmless s s' := by
  refine ⟨fun honce cartId id id' row row' hfind hfind' => ?_, fun id row hfind hvoided => ?_⟩
  · rw [h] at hfind hfind'
    exact honce cartId id id' row row' hfind hfind'
  · exact ⟨row, by rw [h, hfind], hvoided⟩

theorem harmless_add {row : PosCheckout} (h : row.status ≠ .processed)
    (hadd : s'.checkouts = s.checkouts.add row) : Harmless s s' := by
  refine ⟨fun honce cartId id id' c c' hfind hfind' hsold hsold' => ?_, fun id c hfind hvoided => ?_⟩
  · rw [hadd] at hfind hfind'
    rcases eq_or_find_of_find_add hfind with ⟨-, rfl⟩ | hold
    · exact absurd hsold.1 h
    · rcases eq_or_find_of_find_add hfind' with ⟨-, rfl⟩ | hold'
      · exact absurd hsold'.1 h
      · exact honce cartId id id' c c' hold hold' hsold hsold'
  · exact ⟨c, by rw [hadd, find_add_of_find hfind], hvoided⟩

theorem harmless_void {id : ℕ} {row : PosCheckout} (h : row.status = .voided)
    (hset : s'.checkouts = s.checkouts.set id row) : Harmless s s' := by
  have hnot : row.status ≠ .processed := by
    rw [h]
    decide
  refine ⟨fun honce cartId id₁ id₂ c c' hfind hfind' hsold hsold' => ?_, fun id₁ c hfind hvoided => ?_⟩
  · rw [hset] at hfind hfind'
    rcases eq_or_find_of_find_set hfind with ⟨-, rfl⟩ | ⟨-, hold⟩
    · exact absurd hsold.1 hnot
    · rcases eq_or_find_of_find_set hfind' with ⟨-, rfl⟩ | ⟨-, hold'⟩
      · exact absurd hsold'.1 hnot
      · exact honce cartId id₁ id₂ c c' hold hold' hsold hsold'
  · by_cases hid : id₁ = id
    · subst hid
      exact ⟨row, by rw [hset, find_set_self hfind], h⟩
    · exact ⟨c, by rw [hset, find_set_of_ne _ _ hid, hfind], hvoided⟩

theorem stores_none_id : Stores none id := fun _ => harmless_of_eq rfl

end Steps

theorem actsBy_of_keepsCheckouts {α : Type} {p : PosCheckoutProc α} (hp : p.Acts KeepsCheckouts) :
    ActsBy Stores (fun _ => none) p :=
  Acts.actsBy (fun _ hact s => harmless_of_eq (hact s)) (fun _ => rfl) hp

theorem keepsCheckouts_of_onlyReads {ε α : Type} {p : Proc PosCheckoutStore ε α} (hp : p.OnlyReads) :
    p.Acts KeepsCheckouts :=
  hp.mono fun s s' heq => by rw [heq]; rfl

section Transaction

variable {env : PosCheckoutRuntime} {dto : IngestPosCheckoutDto} {actor : PosActor}

theorem acts_processItem (item : PosCheckoutItemDto) (checkoutId : ℕ) (occurredAt : Date) (actorId : Option ℕ) :
    (processItem env dto item checkoutId occurredAt actorId).Acts KeepsCheckouts := by
  have hvariant {α : Type} (p : VariantProc α) : (onVariants p).Acts KeepsCheckouts :=
    acts_zoom (fun _ _ => rfl) p
  refine (keepsCheckouts_of_onlyReads (onlyReads_resolveProductId env dto item)).bind fun productId => ?_
  refine (keepsCheckouts_of_onlyReads (onlyReads_resolveCheckoutVariantId productId _)).bind fun variantId => ?_
  cases variantId with
  | some variantId => exact hvariant _
  | none =>
    have hmanages : (managesStock productId).Acts KeepsCheckouts := (hvariant _).bind fun _ => acts_pure _
    exact hmanages.bind fun managed => Acts.ite (hvariant _) (acts_pure _)

theorem acts_postCheckoutToLedger (env : PosCheckoutRuntime) (id : ℕ) (checkout : PosCheckout) :
    (postCheckoutToLedger env id checkout).Acts KeepsCheckouts := by
  have hjournal {α : Type} (p : GlProc α) : (onJournal p).Acts KeepsCheckouts := acts_zoom (fun _ _ => rfl) p
  have hcogs : (postCheckoutCogs env id checkout).Acts KeepsCheckouts := by
    refine (keepsCheckouts_of_onlyReads (onlyReads_read _)).bind fun cost => ?_
    exact Acts.ite ((hjournal _).bind fun _ => acts_pure _) (acts_pure _)
  unfold postCheckoutToLedger
  split
  · exact acts_pure _
  · refine Acts.ite (acts_pure _) (Acts.ite (acts_pure _) (Acts.ite (acts_pure _) ?_))
    exact (hjournal _).bind fun _ => Acts.ite hcogs (acts_pure _)

theorem returns_assertSources (dto : IngestPosCheckoutDto) :
    (assertSources dto).Returns fun sources => dto.suspendedCartId = none → sources.2 = none := by
  refine returns_bind _ fun registerSession => ?_
  cases hcart : dto.suspendedCartId with
  | none =>
    have hnone : assertSuspendedCart dto registerSession = pure none := by
      unfold assertSuspendedCart
      rw [hcart]
    rw [hnone]
    exact returns_bind (assertReturnSourceSaleProcessed dto) fun _ _ => rfl
  | some cartId =>
    exact returns_bind _ fun cart => returns_bind _ fun _ h => by cases h

theorem commits_processCheckout {id : ℕ} {checkout : PosCheckout} {suspendedCart : Option (ℕ × PosSuspendedCart)}
    {w : PosCheckoutStore → PosCheckoutStore} (hw : ∀ s, KeepsCheckouts s (w s)) :
    (processCheckout env dto actor id checkout suspendedCart).Commits
      (fun w _ => ∀ s, (w s).checkouts = s.checkouts.set id (processedCheckout env.now checkout)) w := by
  have hkeeps : ∀ (w act : PosCheckoutStore → PosCheckoutStore), (∀ s, KeepsCheckouts s (w s)) →
      (∀ s, KeepsCheckouts s (act s)) → ∀ s, KeepsCheckouts s ((act ∘ w) s) :=
    fun w act hw hact s => (hact (w s)).trans (hw s)
  have hitems : (Proc.forEach dto.items fun item =>
      processItem env dto item id checkout.occurredAt actor.id).Acts KeepsCheckouts :=
    acts_forEach fun item _ => acts_processItem item id checkout.occurredAt actor.id
  have hsave {w : PosCheckoutStore → PosCheckoutStore} (hw : ∀ s, KeepsCheckouts s (w s)) :
      (saveCheckout id (processedCheckout env.now checkout)).Commits
        (fun w _ => ∀ s, (w s).checkouts = s.checkouts.set id (processedCheckout env.now checkout)) w := by
    intro _ s
    have hsame : (w s).checkouts = s.checkouts := hw s
    show (w s).checkouts.set id _ = _
    rw [hsame]
  refine Proc.Commits.bind ((hitems.commits hkeeps (returns_true _) hw).mono fun w _ hkept => ?_)
  cases suspendedCart with
  | none => exact hsave hkept.1
  | some cart =>
    exact fun _ => hsave (hkeeps w _ hkept.1 fun _ => rfl)

theorem commits_ingestWithin {id : ℕ} {checkout : PosCheckout} (hcart : checkout.suspendedCartId = dto.suspendedCartId) :
    (ingestWithin env dto actor id checkout).Commits (fun w _ => Stores (some ⟨id, .processed,
      checkout.suspendedCartId⟩) w) (fun s => s) := by
  have hsources : (assertSources dto).Commits
      (fun w sources => (∀ s, KeepsCheckouts s (w s)) ∧ (dto.suspendedCartId = none → sources.2 = none)) (fun s => s) :=
    (keepsCheckouts_of_onlyReads (onlyReads_assertSources dto)).commits
      (fun w act hw hact s => (hact (w s)).trans (hw s)) (returns_assertSources dto) fun _ => rfl
  refine Proc.Commits.bind ((hsources.mapError _).mono fun w sources hkept => ?_)
  obtain ⟨registerSession, suspendedCart⟩ := sources
  obtain ⟨hw, hnone⟩ := hkept
  refine Proc.Commits.mapError ((commits_processCheckout hw).mono fun w _ hset s => ?_) _
  refine ⟨nofun, processedCheckout env.now (linkedCheckout checkout registerSession suspendedCart), rfl, ?_, hset s⟩
  show (checkout.suspendedCartId <|> suspendedCart.map Prod.fst) = checkout.suspendedCartId
  cases hsuspended : checkout.suspendedCartId with
  | some cartId => rfl
  | none =>
    have hloaded : suspendedCart = none := hnone (hcart.symm.trans hsuspended)
    rw [hloaded]
    rfl

end Transaction

section Handlers

variable (env : PosCheckoutRuntime) (dto : IngestPosCheckoutDto) (actor : PosActor)

/-- What follows the transaction stores a failed checkout at once, or no checkout at all. -/
theorem actsBy_processNewBeside {id : ℕ} {checkout : PosCheckout}
    (hcart : checkout.suspendedCartId = dto.suspendedCartId) :
    ActsBy Stores (processSavesNext env dto actor id checkout) (processNewBeside env dto actor id checkout) := by
  have htransaction : ActsBy Stores _ (ingestTransaction env dto actor id checkout) :=
    (actsBy_isolated stores_none_id (fun w _ hw => hw) (commits_ingestWithin hcart)).attempt
  have hfind (id : ℕ) : (findOneById id).Acts KeepsCheckouts := keepsCheckouts_of_onlyReads (onlyReads_findOneById id)
  refine htransaction.bind fun result => ?_
  rcases result with ⟨error, checkout⟩ | _
  · have hrest : ActsBy Stores (fun _ => none) (match error with
        | .badRequest _ | .notFound _ => findOneById id
        | _ => throw error) := by
      refine actsBy_of_keepsCheckouts ?_
      split
      · exact hfind id
      · exact hfind id
      · exact acts_throw error
    refine actsBy_step (fun s => ⟨nofun, failedCheckout env.now checkout error, rfl, rfl, rfl⟩) fun s => ?_
    exact hrest
  · refine actsBy_of_keepsCheckouts ((hfind id).bind fun processed => Acts.bind (Acts.attempt ?_) fun _ =>
      acts_pure _)
    exact acts_postCheckoutToLedger env processed.1 processed.2

theorem newCheckout_not_processed (env : PosCheckoutRuntime) (dto : IngestPosCheckoutDto) (actor : PosActor) :
    (newCheckout env dto actor).status ≠ .processed := by
  show PosCheckoutStatus.received ≠ .processed
  decide

theorem actsBy_ingestBeside : ActsBy Stores (ingestSavesNext env dto actor) (ingestBeside env dto actor) := by
  have hreads {α : Type} {p : PosCheckoutProc α} (hp : p.OnlyReads) : ActsBy Stores (fun _ => none) p :=
    actsBy_of_keepsCheckouts (keepsCheckouts_of_onlyReads hp)
  refine (hreads (onlyReads_assertRequest dto)).bind fun _ => ?_
  refine (hreads (onlyReads_read _)).bind fun existing => ?_
  cases existing with
  | some existing => exact actsBy_pure (fun _ => stores_none_id) _
  | none =>
    refine (hreads (onlyReads_assertScope _ _)).bind fun _ => ?_
    refine ActsBy.bind (actsBy_step (fun s => ?_) fun s => ?_) fun id =>
      actsBy_processNewBeside env dto actor rfl
    · cases hinsert : insertError (newCheckout env dto actor) s with
      | none => exact harmless_add (newCheckout_not_processed env dto actor) (by simp only [hinsert])
      | some error => exact harmless_of_eq (by simp only [KeepsCheckouts, hinsert])
    · split
      · exact actsBy_pure (fun _ => stores_none_id) _
      · exact actsBy_throw (fun _ => stores_none_id) _

theorem actsBy_voidBeside (id : ℕ) (dto : VoidPosCheckoutDto) (actorId : ℕ) (actorBranchId : Option ℕ) :
    ActsBy Stores (fun _ => none) (voidBeside env id dto actorId actorBranchId) := by
  refine Acts.actsBy (fun _ hact => hact) (fun s => harmless_of_eq rfl) ?_
  have hkeeps {ε α : Type} {p : Proc PosCheckoutStore ε α} (hp : p.Acts KeepsCheckouts) : p.Acts Harmless :=
    hp.mono fun _ _ => harmless_of_eq
  refine (hkeeps (keepsCheckouts_of_onlyReads (onlyReads_read _))).bind fun found => ?_
  cases found with
  | none => exact acts_throw _
  | some checkout =>
    refine (acts_throwIf _ _).bind fun _ => (acts_throwIf _ _).bind fun _ => ?_
    refine (acts_write fun s => ?_).bind fun _ => ?_
    · split
      · exact harmless_of_eq rfl
      · exact harmless_void rfl rfl
    · have hjournal : (onJournal (reverseCheckoutEntry env.now id checkout
          (dto.authorisedByUserId.getD actorId))).Acts KeepsCheckouts := acts_zoom (fun _ _ => rfl) _
      exact (hkeeps hjournal.attempt).bind fun _ => acts_pure _

end Handlers

end PosCheckouts

/-! ### The schedules -/

inductive CheckoutHandler
  | ingest (env : PosCheckoutRuntime) (dto : IngestPosCheckoutDto) (actor : PosActor)
  | voidCheckout (env : PosCheckoutRuntime) (id : ℕ) (dto : VoidPosCheckoutDto) (actorId : ℕ)
      (actorBranchId : Option ℕ)

namespace CheckoutHandler

def proc : CheckoutHandler → PosCheckoutProc Unit
  | ingest env dto actor => do
    let _ ← ingestBeside env dto actor
  | voidCheckout env id dto actorId actorBranchId => do
    let _ ← voidBeside env id dto actorId actorBranchId

/-- The checkout that the request stores once more by its next step, if it does. -/
def savesNext : CheckoutHandler → List PosCheckoutStore → Option SavedCheckout
  | ingest env dto actor => ingestSavesNext env dto actor
  | voidCheckout .. => fun _ => none

theorem actsBy_proc (handler : CheckoutHandler) : ActsBy Stores handler.savesNext handler.proc := by
  cases handler with
  | ingest env dto actor => exact ActsBy.bind_return (actsBy_ingestBeside env dto actor) _
  | voidCheckout env id dto actorId actorBranchId =>
    exact ActsBy.bind_return (actsBy_voidBeside env id dto actorId actorBranchId) _

end CheckoutHandler

def PosCheckoutStore.SoldByOther (s : PosCheckoutStore) (cartId id : ℕ) : Prop :=
  ∃ other ∈ s.checkouts.list (fun checkout => checkout.SoldFrom cartId), other.1 ≠ id
deriving Decidable

namespace PosCheckouts

/-- **The checkout is stored in time**: it has not been voided and, when it is stored as processed, no other checkout
has sold its cart. -/
def SavedCheckout.InTime (saved : SavedCheckout) (s : PosCheckoutStore) : Prop :=
  ∀ stored ∈ s.checkouts.find saved.id, stored.status ≠ .voided ∧
    (saved.status = .processed → ∀ cartId ∈ saved.suspendedCartId, ¬ s.SoldByOther cartId saved.id)
deriving Decidable

/-- Whichever checkout is stored is stored in time. -/
def InTime (saved : Option SavedCheckout) (s : PosCheckoutStore) : Prop := ∀ checkout ∈ saved, checkout.InTime s
deriving Decidable

section OneStep

variable {s s' : PosCheckoutStore}

theorem soldByOther_of_find {cartId id id' : ℕ} {row : PosCheckout} (hfind : s.checkouts.find id' = some row)
    (hsold : row.SoldFrom cartId) (hne : id' ≠ id) : s.SoldByOther cartId id :=
  ⟨(id', row), mem_list_iff.mpr ⟨hfind, decide_eq_true hsold⟩, hne⟩

theorem soldOnce_set_iff {saved : SavedCheckout} {row : PosCheckout} (honce : s.SoldOnce)
    (hstatus : row.status = saved.status) (hcart : row.suspendedCartId = saved.suspendedCartId)
    (hnot : saved.status ≠ .voided) (hset : s'.checkouts = s.checkouts.set saved.id row) :
    (s'.SoldOnce ∧ KeepsVoids s s') ↔ InTime (some saved) s := by
  cases hstored : s.checkouts.find saved.id with
  | none =>
    have hsame : s'.checkouts = s.checkouts := hset.trans (set_of_eq_none hstored row)
    have hharmless := harmless_of_eq hsame
    refine iff_of_true ⟨hharmless.1 honce, hharmless.2⟩ fun other hother stored hfind => ?_
    obtain rfl := Option.some.inj hother
    rw [hstored] at hfind
    cases hfind
  | some stored =>
    have hself : s'.checkouts.find saved.id = some row := by
      rw [hset]
      exact find_set_self hstored row
    have hother {id : ℕ} (hid : id ≠ saved.id) : s'.checkouts.find id = s.checkouts.find id := by
      rw [hset]
      exact find_set_of_ne _ _ hid
    constructor
    · rintro ⟨honce', hkeeps⟩ other hother' found hfound
      obtain rfl := Option.some.inj hother'
      obtain rfl := Option.mem_unique hstored hfound
      refine ⟨fun hvoided => ?_, fun hprocessed cartId hnames => ?_⟩
      · obtain ⟨row', hfind, hvoided'⟩ := hkeeps _ stored hstored hvoided
        obtain rfl := Option.mem_unique hself hfind
        exact hnot (hstatus.symm.trans hvoided')
      · rintro ⟨⟨id, sold⟩, hmem, hne⟩
        obtain ⟨hfind, hsold⟩ := mem_list_iff.mp hmem
        refine hne (honce' cartId id saved.id sold row ((hother hne).trans hfind) hself (of_decide_eq_true hsold) ?_)
        exact ⟨hstatus.trans hprocessed, hcart.trans hnames⟩
    · intro htime
      obtain ⟨hopen, hfree⟩ := htime saved rfl stored hstored
      refine ⟨fun cartId id id' c c' hfind hfind' hsold hsold' => ?_, fun id found hfind hvoided => ?_⟩
      · have hfreed (hsold : row.SoldFrom cartId) : ¬ s.SoldByOther cartId saved.id :=
          hfree (hstatus.symm.trans hsold.1) cartId (hcart.symm.trans hsold.2)
        -- Of two checkouts that have sold the cart, the one that is stored now is the only one.
        by_cases hid : id = saved.id <;> by_cases hid' : id' = saved.id
        · rw [hid, hid']
        · subst hid
          obtain rfl := Option.mem_unique hself hfind
          exact absurd (soldByOther_of_find ((hother hid').symm.trans hfind') hsold' hid') (hfreed hsold)
        · subst hid'
          obtain rfl := Option.mem_unique hself hfind'
          exact absurd (soldByOther_of_find ((hother hid).symm.trans hfind) hsold hid) (hfreed hsold')
        · exact honce cartId id id' c c' ((hother hid).symm.trans hfind) ((hother hid').symm.trans hfind') hsold hsold'
      · by_cases hid : id = saved.id
        · subst hid
          obtain rfl := Option.mem_unique hstored hfind
          exact absurd hvoided hopen
        · exact ⟨found, (hother hid).trans hfind, hvoided⟩

variable {ι : Type} [DecidableEq ι] {handlers : ι → CheckoutHandler}

theorem soldOnce_step_iff {P : Pool ι PosCheckoutStore} (honce : P.store.SoldOnce) (i : ι) :
    ((P.step (fun j => (handlers j).proc) i).store.SoldOnce ∧
        KeepsVoids P.store (P.step (fun j => (handlers j).proc) i).store) ↔
      InTime ((handlers i).savesNext (P.seen i)) P.store := by
  have hstores : Stores ((handlers i).savesNext (P.seen i)) _ := (handlers i).actsBy_proc (P.seen i)
  have hstore := hstores P.store
  rw [Pool.store_step]
  cases hsaved : (handlers i).savesNext (P.seen i) with
  | none =>
    rw [hsaved] at hstore
    exact iff_of_true ⟨hstore.1 honce, hstore.2⟩ nofun
  | some saved =>
    rw [hsaved] at hstore
    obtain ⟨hnot, row, hstatus, hcart, hset⟩ := hstore
    exact soldOnce_set_iff honce hstatus hcart hnot hset

end OneStep

end PosCheckouts

def shopWithCart : PosCheckoutStore :=
  { tenInTheShop with
    suspendedCarts := (∅ : Table ℕ PosSuspendedCart).insert 1 ⟨1, none, none, .suspended, none, none, none, none⟩ }

def saleOfCart : IngestPosCheckoutDto := { cashSaleForTen with suspendedCartId := some 1 }

def saleAndVoid : Bool → CheckoutHandler
  | false => .ingest plainCheckoutRuntime saleOfCart {}
  | true => .voidCheckout plainCheckoutRuntime 1 {} 5 none

def twoSalesOfCart : Bool → CheckoutHandler := fun _ => .ingest plainCheckoutRuntime saleOfCart {}

end SuuqBackend
