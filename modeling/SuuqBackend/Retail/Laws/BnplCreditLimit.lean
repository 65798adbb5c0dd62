import SuuqBackend.Lib.Interleave
import SuuqBackend.Retail.Laws.BnplActivations

/-!
# The credit limit of an equity partner

`bnplCreditLimit` is the largest number of activations of a partner that may be `OUTSTANDING` at once, whatever their
amounts.  A start counts them in its second read and inserts its own activation many actions later.
-/

namespace SuuqBackend

open Proc EquityPartnerBnpl

/-- A call of `startBnplActivation`. -/
structure BnplStart where
  env : BnplRuntime
  partnerUserId : ℕ
  input : StartBnplActivationInput

def BnplStart.proc (start : BnplStart) : BnplProc ℕ :=
  startBnplActivation start.env start.partnerUserId start.input

namespace BnplStore

def creditLimitOf (s : BnplStore) (partnerId : ℕ) : Option ℕ :=
  (s.partners.find partnerId).map (·.bnplCreditLimit)

/-- What the activations of a partner amount to that are `OUTSTANDING`. -/
def outstandingAmountOf (s : BnplStore) (partnerId : ℕ) : ℚ :=
  s.activations.total fun a => if a.equityPartnerId = partnerId ∧ a.status = .outstanding then a.amountDue else 0

end BnplStore

/-- The limits are the same, and so are the numbers, but for one partner, who may have got one activation more. -/
structure Counts (partnerId : ℕ) (s s' : BnplStore) : Prop where
  limit_eq : ∀ id, s'.creditLimitOf id = s.creditLimitOf id
  self : s'.outstandingOf partnerId ≤ s.outstandingOf partnerId + 1
  other : ∀ id ≠ partnerId, s'.outstandingOf id = s.outstandingOf id

section Counts

variable {s s' : BnplStore} {partnerId : ℕ}

theorem Counts.refl (s : BnplStore) : Counts partnerId s s := ⟨fun _ => rfl, Nat.le_succ _, fun _ _ => rfl⟩

theorem counts_of_sameBooks (h : BnplStore.SameBooks s s') : Counts partnerId s s' := by
  have houtstanding : ∀ id, s'.outstandingOf id = s.outstandingOf id := by
    intro id
    unfold BnplStore.outstandingOf
    rw [h.activations_eq]
  refine ⟨h.limit_eq, ?_, fun id _ => houtstanding id⟩
  rw [houtstanding]
  exact Nat.le_succ _

theorem counts_setCreditLedger (s : BnplStore) (creditLedger : SerialTable EquityPartnerBnplCreditLedgerEntry) :
    Counts partnerId s { s with creditLedger } :=
  ⟨fun _ => rfl, Nat.le_succ _, fun _ _ => rfl⟩

theorem counts_addActivation (s : BnplStore) {activation : EquityPartnerBnplActivation}
    (h : activation.equityPartnerId = partnerId) :
    Counts partnerId s { s with activations := s.activations.add activation } where
  limit_eq _ := rfl
  self := by
    unfold BnplStore.outstandingOf
    rw [SerialTable.total_add, add_comm]
    refine Nat.add_le_add_left ?_ _
    split_ifs <;> simp
  other := by
    intro id hid
    have hother : ¬ (activation.equityPartnerId = id ∧ activation.status = .outstanding) :=
      fun hboth => hid (hboth.1.symm.trans h)
    unfold BnplStore.outstandingOf
    rw [SerialTable.total_add, if_neg hother, zero_add]

variable (activationId : ℕ) (activation : EquityPartnerBnplActivation)

theorem acts_insertEntry : (insertEntry activationId activation).Acts (Counts partnerId) := by
  refine acts_step (fun s => ?_) fun s => ?_
  · split_ifs
    · exact Counts.refl s
    · exact counts_setCreditLedger s _
  · split_ifs
    · exact acts_throw _
    · exact acts_pure _

theorem acts_ensureCreditLedgerEntry : (ensureCreditLedgerEntry activationId activation).Acts (Counts partnerId) := by
  refine (acts_read Counts.refl _).bind fun found => ?_
  cases found with
  | none => exact acts_insertEntry activationId activation
  | some found =>
    refine (acts_read Counts.refl _).bind fun found => ?_
    cases found with
    | none => exact acts_insertEntry activationId activation
    | some found => exact acts_write fun s => counts_setCreditLedger s _

theorem acts_afterCount (env : BnplRuntime) (partner : EquityPartner) (input : StartBnplActivationInput) :
    (do
      let provisioned ← provisionBranch env partnerId partner input
      let activation := newActivation partnerId input provisioned
      let activationId ← insertActivation activation
      ensureCreditLedgerEntry activationId activation
      return activationId : BnplProc ℕ).Acts (Counts partnerId) := by
  have hprovision := (acts_provisionBranch env partnerId partner input).mono
    fun s s' hsame => (counts_of_sameBooks hsame : Counts partnerId s s')
  refine hprovision.bind fun provisioned => ?_
  have hinsert : (insertActivation (newActivation partnerId input provisioned)).Acts (Counts partnerId) :=
    acts_step (fun s => counts_addActivation s rfl) fun _ => acts_pure _
  refine hinsert.bind fun activationId => ?_
  exact (acts_ensureCreditLedgerEntry activationId _).bind fun _ => acts_pure _

end Counts

/-- Where a start stands that performs an action: it reads, or its count was below the limit of its partner. -/
theorem BnplStart.action_cases (start : BnplStart) {seen : List BnplStore} {act : BnplStore → BnplStore}
    {next : BnplStore → BnplProc ℕ} (h : start.proc.resume seen = .step act next) :
    act = id ∨ ∃ partnerId s t rest limit, seen = s :: t :: rest ∧ s.creditLimitOf partnerId = some limit ∧
      t.outstandingOf partnerId < limit ∧ ∀ u, Counts partnerId u (act u) := by
  unfold BnplStart.proc startBnplActivation requireActivePartnerForUser at h
  cases seen with
  | nil =>
    cases h
    exact .inl rfl
  | cons s seen =>
    simp only [bind_assoc] at h
    rw [resume_read_bind] at h
    rcases hfirst : s.partners.first fun partner => partner.userId = some start.partnerUserId with
      _ | ⟨partnerId, partner⟩
    · rw [hfirst] at h
      cases h
    rw [hfirst] at h
    have hlimit : s.creditLimitOf partnerId = some partner.bnplCreditLimit := by
      unfold BnplStore.creditLimitOf
      rw [(SerialTable.find_of_first hfirst).1]
      rfl
    dsimp only at h
    unfold throwIf assertCreditCapacity at h
    split_ifs at h with hstatus
    · cases h
    simp only [pure_bind, bind_assoc] at h
    cases seen with
    | nil =>
      cases h
      exact .inl rfl
    | cons t rest =>
      rw [resume_read_bind] at h
      unfold throwIf at h
      split_ifs at h with hcount
      · cases h
      have hacts := (@acts_afterCount partnerId start.env partner start.input).resume rest
      rw [pure_bind] at h
      rw [h] at hacts
      exact .inr ⟨partnerId, s, t, rest, partner.bnplCreditLimit, rfl, hlimit, Nat.lt_of_not_le hcount,
        fun u => (hacts u).1⟩

section Pool

variable {ι : Type} [DecidableEq ι] (calls : ι → BnplStart) (partnerId : ℕ)

/-- When the next action of the call changes the number of the partner, it is no more than the call has counted. -/
def AsCounted (P : Pool ι BnplStore) (i : ι) : Prop :=
  (P.step (fun j => (calls j).proc) i).store.outstandingOf partnerId ≠ P.store.outstandingOf partnerId →
    ∀ counted ∈ (P.seen i)[1]?, P.store.outstandingOf partnerId ≤ counted.outstandingOf partnerId
deriving Decidable

/-- The partner has its limit in every store that a call has met, and no more activations than that. -/
structure WithinLimit (limit : ℕ) (P : Pool ι BnplStore) : Prop where
  limit_seen : ∀ i, ∀ s ∈ P.seen i, s.creditLimitOf partnerId = some limit
  limit_store : P.store.creditLimitOf partnerId = some limit
  within : P.store.outstandingOf partnerId ≤ limit

variable {calls partnerId}

theorem withinLimit_step {limit : ℕ} {P : Pool ι BnplStore} (h : WithinLimit partnerId limit P) (i : ι)
    (hcounted : AsCounted calls partnerId P i) : WithinLimit partnerId limit (P.step (fun j => (calls j).proc) i) := by
  have hseen : ∀ j, ∀ s ∈ (P.step (fun j => (calls j).proc) i).seen j, s.creditLimitOf partnerId = some limit := by
    intro j s hs
    rcases P.seen_step (fun j => (calls j).proc) i j with hsame | ⟨-, hmore⟩
    · rw [hsame] at hs
      exact h.limit_seen j s hs
    · rw [hmore, List.mem_append, List.mem_singleton] at hs
      rcases hs with hs | rfl
      · exact h.limit_seen j s hs
      · exact h.limit_store
  rcases P.step_cases (fun j => (calls j).proc) i with ⟨act, next, hleft, hstep⟩ | hstep
  swap
  · rw [hstep]
    exact h
  have hstore : (P.step (fun j => (calls j).proc) i).store = act P.store := congrArg Pool.store hstep
  unfold AsCounted at hcounted
  rw [hstore] at hcounted
  rcases (calls i).action_cases hleft with rfl | ⟨owner, s, t, rest, limit', hi, hlimit', hlt, hcounts⟩
  · exact ⟨hseen, hstore ▸ h.limit_store, hstore ▸ h.within⟩
  refine ⟨hseen, ?_, ?_⟩
  · rw [hstore, (hcounts P.store).limit_eq]
    exact h.limit_store
  · rw [hstore]
    by_cases hchange : (act P.store).outstandingOf partnerId = P.store.outstandingOf partnerId
    · rw [hchange]
      exact h.within
    -- the activation is one of the partner, whose start has counted less than the limit
    have howner : partnerId = owner := by
      by_contra hne
      exact hchange ((hcounts P.store).other partnerId hne)
    subst howner
    have hs : s ∈ P.seen i := hi ▸ List.mem_cons_self
    have hsame : limit' = limit := Option.some_inj.mp (hlimit'.symm.trans (h.limit_seen i s hs))
    have hfresh : P.store.outstandingOf partnerId ≤ t.outstandingOf partnerId := by
      refine hcounted hchange t ?_
      rw [hi]
      rfl
    have hself := (hcounts P.store).self
    omega

/-- **The credit limit under concurrency**: beside any number of other starts, a partner has at no time more
`OUTSTANDING` activations than its limit, when no activation is inserted while more of them are `OUTSTANDING` than
its start has counted. -/
theorem within_credit_limit {s₀ : BnplStore} {limit : ℕ} (hlimit : s₀.creditLimitOf partnerId = some limit)
    (hs₀ : s₀.outstandingOf partnerId ≤ limit) (schedule : List ι)
    (h : Run.Along (Pool.step fun j => (calls j).proc) (AsCounted calls partnerId) (Pool.init s₀) schedule) (n : ℕ) :
    (Run.after (Pool.step fun j => (calls j).proc) (Pool.init s₀) (schedule.take n)).store.outstandingOf partnerId ≤
      limit := by
  have hinit : WithinLimit partnerId limit (Pool.init s₀ : Pool ι BnplStore) :=
    ⟨fun _ _ hs => absurd hs List.not_mem_nil, hlimit, hs₀⟩
  have hstep : ∀ P i, WithinLimit partnerId limit P → AsCounted calls partnerId P i →
      WithinLimit partnerId limit (P.step (fun j => (calls j).proc) i) := fun P i hP => withinLimit_step hP i
  exact (Run.after_induction hstep hinit (Run.along_take h n)).within

end Pool

/-! ### Schedules -/

def yearlyStart : BnplStart :=
  ⟨plainBnplRuntime, 900, ⟨"Bole Salon", "retail", "Owner@Example.com", .oneYear⟩⟩

def limitedTo (limit : ℕ) : BnplStore :=
  { onePartner with partners := SerialTable.empty.add ⟨some 900, "Abebe", .active, limit, some 3⟩ }

/-- Two starts beside each other, the second of which counts after the first has inserted its activation, and a third
one. -/
def startsInTurn : List (Fin 3) := List.replicate 10 0 ++ [1] ++ List.replicate 6 0 ++ List.replicate 16 1 ++ [2, 2]

theorem within_credit_limit_startsInTurn :
    let start : Fin 3 → BnplStart := fun _ => yearlyStart
    let pool (n : ℕ) := Run.after (Pool.step fun j => (start j).proc) (Pool.init (limitedTo 2)) (startsInTurn.take n)
    ((pool 35).store.outstandingOf 1 = 2 ∧ (pool 35).Failed (fun j => (start j).proc) 2) ∧
      ∀ n, (pool n).store.outstandingOf 1 ≤ 2 :=
  ⟨by decide +kernel, within_credit_limit (by decide +kernel) (by decide +kernel) startsInTurn (by decide +kernel)⟩

/-- One start takes the amounts over a limit of five.  Two that have both counted before either inserts its activation
take the number over a limit of one. -/
theorem amounts_exceed_credit_limit :
    let start : Fin 2 → BnplStart := fun _ => yearlyStart
    let store (limit : ℕ) (schedule : List (Fin 2)) :=
      (Run.after (Pool.step fun j => (start j).proc) (Pool.init (limitedTo limit)) schedule).store
    ((store 5 (List.replicate 16 0)).outstandingOf 1 = 1 ∧
      (store 5 (List.replicate 16 0)).outstandingAmountOf 1 = 22800) ∧
      (store 1 ([0, 1] ++ List.replicate 16 0 ++ List.replicate 16 1)).outstandingOf 1 = 1 ∧
      (store 1 ([0, 0, 1, 1] ++ List.replicate 16 0 ++ List.replicate 16 1)).outstandingOf 1 = 2 := by
  decide +kernel

end SuuqBackend
