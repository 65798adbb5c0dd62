import SuuqBackend.Ebirr.Laws.InitiatedPayments
import SuuqBackend.PosWorkspace.PosWorkspaceActivation

/-!
# What the payments of workspaces do

What each call leaves of the subscriptions and the branches, and when: `completeBranchCreation_cases` and
`startBranchCreation_cases` for the payments of additional branches.  What the calls do among the transactions of Ebirr
is kept apart (`withEbirr`).
-/

namespace SuuqBackend

open Proc PosWorkspaceActivation

namespace PosWorkspaceStore

/-- The tables of Ebirr become `ebirr`. -/
def withEbirr (s : PosWorkspaceStore) (ebirr : EbirrStore) : PosWorkspaceStore := { s with ebirr }

def managersAdded (staff : SerialTable BranchStaffAssignment) (branchId ownerUserId userId : ℕ) :
    SerialTable BranchStaffAssignment :=
  let withOwner := staff.add ⟨branchId, ownerUserId, .manager, true⟩
  if ownerUserId ≠ userId then withOwner.add ⟨branchId, userId, .manager, true⟩ else withOwner

/-- A branch was created for the payment that the slot of a subscription remembers. -/
def withBranch (s : PosWorkspaceStore) (env : PosWorkspaceRuntime) (now : ℤ) (tenantId userId id : ℕ)
    (row : TenantSubscription) (pending : PendingBranchCreation) (code : String) : PosWorkspaceStore :=
  let ownerUserId := ownerOf env s userId pending
  { s with
    branches := s.branches.add (createdBranch tenantId ownerUserId code pending)
    staffAssignments := managersAdded s.staffAssignments s.branches.next ownerUserId userId
    subscriptions := s.subscriptions.set id (withCreatedBranch now pending s.branches.next row) }

end PosWorkspaceStore

open PosWorkspaceStore

variable {env : PosWorkspaceRuntime} {now : ℤ} {s : PosWorkspaceStore}

/-! ### Branch creations -/

theorem run_insertManagers (branchId ownerUserId userId : ℕ) (s : PosWorkspaceStore) :
    run (insertManagers branchId ownerUserId userId) s =
      (.ok (), { s with staffAssignments := managersAdded s.staffAssignments branchId ownerUserId userId }) := by
  unfold insertManagers insertManager managersAdded
  split_ifs <;> rfl

theorem createBranch_cases (env : PosWorkspaceRuntime) (now : ℤ) (tenantId userId id : ℕ) (row : TenantSubscription)
    (pending : PendingBranchCreation) (s : PosWorkspaceStore) :
    (∃ failure, run (createBranch env now tenantId userId id row pending) s = (.error failure, s)) ∨
    ∃ code, run (createBranch env now tenantId userId id row pending) s =
      (.ok (s.branches.next, true), s.withBranch env now tenantId userId id row pending code) := by
  unfold createBranch generateBranchCode
  rw [bind_assoc, run_read_bind]
  cases ((List.range 8).map (attemptedCode now (codeBase env pending.branchName))).find? fun code =>
      (s.branches.first fun branch => branch.code = some code).isNone with
  | none => exact .inl ⟨_, rfl⟩
  | some code =>
    refine .inr ⟨code, ?_⟩
    show run (insertManagers s.branches.next (ownerOf env s userId pending) userId >>= fun _ => _) _ = _
    rw [run_bind, run_insertManagers]
    rfl

namespace PosWorkspaceStore

/-- The subscription of a tenant whose slot waits for a branch, with the slot. -/
def awaiting (s : PosWorkspaceStore) (tenantId : ℕ) : Option (ℕ × TenantSubscription × PendingBranchCreation) :=
  (s.latestSubscription tenantId).bind fun found =>
    (found.2.metadata.pendingBranchCreation.filter fun pending =>
      pending.branchName ≠ "" ∧ pending.createdBranchId = none).map fun pending => (found.1, found.2, pending)

end PosWorkspaceStore

/-- The completion of a branch creation creates a branch only from the slot of the tenant's newest subscription. -/
theorem completeBranchCreation_cases (env : PosWorkspaceRuntime) (now : ℤ) (referenceId : String)
    (s : PosWorkspaceStore) :
    (run (completeBranchCreationPayment env now referenceId) s).2 = s ∨
    ∃ tenantId userId id row pending code,
      parseBranchCreationReference referenceId = some (tenantId, userId) ∧
      s.awaiting tenantId = some (id, row, pending) ∧
      run (completeBranchCreationPayment env now referenceId) s =
        (.ok (s.branches.next, true), s.withBranch env now tenantId userId id row pending code) := by
  unfold completeBranchCreationPayment
  cases hparse : parseBranchCreationReference referenceId with
  | none => exact .inl rfl
  | some parsed =>
    obtain ⟨tenantId, userId⟩ := parsed
    rw [run_read_bind]
    cases hlatest : s.latestSubscription tenantId with
    | none => exact .inl rfl
    | some found =>
      obtain ⟨id, row⟩ := found
      dsimp only
      cases hslot : row.metadata.pendingBranchCreation.filter fun pending => pending.branchName ≠ "" with
      | none => exact .inl rfl
      | some pending =>
        dsimp only
        cases hcreated : pending.createdBranchId with
        | some branchId => exact .inl rfl
        | none =>
          rcases createBranch_cases env now tenantId userId id row pending s with ⟨failure, hrun⟩ | ⟨code, hrun⟩
          · exact .inl (congrArg Prod.snd hrun)
          · refine .inr ⟨tenantId, userId, id, row, pending, code, rfl, ?_, hrun⟩
            obtain ⟨hpending, hname⟩ := Option.filter_eq_some_iff.mp hslot
            unfold awaiting
            rw [hlatest, Option.bind_some, hpending]
            simpa [Option.filter, hcreated] using hname

def EbirrExchange.Approves (exchange : EbirrExchange) : Prop :=
  match exchange.reply with
  | .data response => ApprovedImmediately response
  | _ => False

instance (exchange : EbirrExchange) : Decidable exchange.Approves := by
  unfold EbirrExchange.Approves
  cases exchange.reply with
  | data response => exact inferInstanceAs (Decidable (ApprovedImmediately response))
  | noAnswer networkDrop => exact .isFalse not_false
  | refused text errorCode => exact .isFalse not_false
  | unexpected message => exact .isFalse not_false

variable {request : EbirrPaymentRequest}

theorem run_initiatePayment_of_asked (h : s.ebirr.Accepts env.ebirr request) (exchange : EbirrExchange) :
    run (initiatePayment env request exchange) s = (EbirrPayments.answerOf exchange.reply,
      s.withEbirr (s.ebirr.initiated request exchange.reply exchange.repliedAt)) := by
  unfold initiatePayment
  rw [run_zoom]
  show ((run _ s.ebirr).1, s.withEbirr (run _ s.ebirr).2) = _
  rw [run_initiatePayment_of_accepts h]

theorem run_initiatePayment_of_refused (h : ¬ s.ebirr.Accepts env.ebirr request)
    (exchange : EbirrExchange) : ∃ failure, run (initiatePayment env request exchange) s = (.error failure, s) := by
  obtain ⟨failure, hrun⟩ :=
    run_initiatePayment_of_not_accepts h exchange.reply exchange.requestedAt exchange.repliedAt
  refine ⟨failure, ?_⟩
  unfold initiatePayment
  rw [run_zoom]
  show ((run _ s.ebirr).1, s.withEbirr (run _ s.ebirr).2) = _
  rw [hrun]
  rfl

theorem order_expireStale (now : ℤ) (referencePrefix : String) (s : EbirrStore) :
    (run (EbirrPayments.expireStalePendingTransactionsForPrefix now referencePrefix) s).2.order = s.order := by
  have hfold : ∀ (rows : List (ℕ × EbirrTransaction)) (s : EbirrStore),
      (rows.foldl (fun s row => s.saveTransaction row.1 { row.2 with updatedAt := now }) s).order = s.order := by
    intro rows
    induction rows with
    | nil => exact fun _ => rfl
    | cons row rows ih => exact fun s => ih _
  unfold EbirrPayments.expireStalePendingTransactionsForPrefix
  split_ifs
  · rfl
  · rw [run_read_bind]
    split_ifs
    · rfl
    · exact hfold _ s

/-- The payment of a branch completes it at once when Ebirr approves it, and otherwise leaves only its traces among
the transactions. -/
theorem payForBranch_cases (env : PosWorkspaceRuntime) (user : WorkspaceUser) (tenantId : ℕ) (dto : BranchCreationDto)
    (now : ℤ) (referenceId : String) (exchange : EbirrExchange) (s : PosWorkspaceStore) :
    ∃ ebirr : EbirrStore, ebirr.order = s.ebirr.order ∧
      ((∃ outcome,
        run (payForBranch env user tenantId dto now referenceId exchange) s = (outcome, s.withEbirr ebirr)) ∨
      exchange.Approves ∧ run (payForBranch env user tenantId dto now referenceId exchange) s =
        run (completeBranchCreationPayment env exchange.repliedAt referenceId >>= fun created =>
          pure ("CREATED", some created.1)) (s.withEbirr ebirr)) := by
  have horder := order_expireStale now s!"POSBRANCH-{tenantId}-{user.id}-" s.ebirr
  unfold payForBranch
  rw [run_bind, run_attempt, run_zoom]
  show ∃ ebirr : EbirrStore, _ ∧ ((∃ outcome, run _
    (s.withEbirr (run (EbirrPayments.expireStalePendingTransactionsForPrefix _ _) s.ebirr).2) = _) ∨
      _ ∧ run _ (s.withEbirr (run (EbirrPayments.expireStalePendingTransactionsForPrefix _ _) s.ebirr).2) = _)
  generalize (run (EbirrPayments.expireStalePendingTransactionsForPrefix _ _) s.ebirr).2 = expired at horder ⊢
  rw [run_bind, run_attempt]
  let request : EbirrPaymentRequest := ⟨some dto.phoneNumber, referenceId, s!"POSBRANCHINV-{tenantId}-{now}"⟩
  by_cases haccepts : (s.withEbirr expired).ebirr.Accepts env.ebirr request
  · rw [run_initiatePayment_of_asked haccepts exchange]
    refine ⟨expired.initiated request exchange.reply exchange.repliedAt, horder, ?_⟩
    cases hanswer : EbirrPayments.answerOf exchange.reply with
    | error failure =>
      left
      dsimp only
      split_ifs
      · exact ⟨.ok ("PENDING", none), rfl⟩
      · exact ⟨.error failure, rfl⟩
    | ok response =>
      dsimp only
      by_cases happroved : ApprovedImmediately response
      · rw [if_pos happroved]
        refine .inr ⟨?_, rfl⟩
        unfold EbirrExchange.Approves
        rw [eq_data_of_answerOf hanswer]
        exact happroved
      · rw [if_neg happroved]
        exact .inl ⟨.ok ("PENDING", none), rfl⟩
  · obtain ⟨failure, hrun⟩ := run_initiatePayment_of_refused haccepts exchange
    rw [hrun]
    refine ⟨expired, horder, .inl ?_⟩
    dsimp only
    split_ifs
    · exact ⟨.ok ("PENDING", none), rfl⟩
    · exact ⟨.error failure, rfl⟩

namespace PosWorkspaceStore

/-- The tenant for which a user can pay for a branch, with its newest subscription. -/
def payingTenant (s : PosWorkspaceStore) (user : WorkspaceUser) : Option (ℕ × ℕ × TenantSubscription) :=
  if (s.staffAssignments.first fun row => row.userId = user.id ∧ row.isActive).isSome then
    (tenantOfUser s user.id).bind fun tenantId =>
      ((s.latestSubscription tenantId).filter fun found => found.2.status = .active ∨ found.2.status = .trial).map
        fun found => (tenantId, found)
  else none

def withPending (s : PosWorkspaceStore) (id : ℕ) (row : TenantSubscription) (pending : PendingBranchCreation) :
    PosWorkspaceStore :=
  s.saveSubscription id { row with metadata := { row.metadata with pendingBranchCreation := some pending } }

end PosWorkspaceStore

theorem run_startBranchCreation (env : PosWorkspaceRuntime) (now : ℤ) (user : WorkspaceUser) (dto : BranchCreationDto)
    (exchange : EbirrExchange) (s : PosWorkspaceStore) :
    (s.payingTenant user = none ∧ ∃ failure,
      run (startAdditionalBranchCreationPayment env now user dto exchange) s = (.error failure, s)) ∨
    ∃ tenantId id row, s.payingTenant user = some (tenantId, id, row) ∧
      let reference := branchCreationReference tenantId user.id now
      run (startAdditionalBranchCreationPayment env now user dto exchange) s =
        run (payForBranch env user tenantId dto now reference exchange >>= fun paid =>
          pure (reference, paid.1, paid.2)) (s.withPending id row (pendingCreation env user dto reference)) := by
  unfold startAdditionalBranchCreationPayment tenantForCreation payingTenant
  rw [bind_assoc, run_read_bind, bind_assoc, run_throwIf_bind]
  cases (s.staffAssignments.first fun row => row.userId = user.id ∧ row.isActive).isSome with
  | false => exact .inl ⟨rfl, _, rfl⟩
  | true =>
    rw [if_neg Bool.false_ne_true.symm, bind_assoc, run_read_bind]
    cases htenant : tenantOfUser s user.id with
    | none => exact .inl ⟨rfl, _, rfl⟩
    | some tenantId =>
      rw [pure_bind, run_read_bind]
      cases hlatest : (s.latestSubscription tenantId).filter fun found =>
          found.2.status = .active ∨ found.2.status = .trial with
      | none =>
        refine .inl ⟨?_, _, rfl⟩
        rw [Option.bind_some, hlatest]
        rfl
      | some found =>
        obtain ⟨id, row⟩ := found
        refine .inr ⟨tenantId, id, row, ?_, ?_⟩
        · rw [Option.bind_some, hlatest]
          rfl
        · unfold PosWorkspaceActivation.saveSubscription withPending
          rw [run_write_bind]

/-- **The start of a branch creation** is refused, or remembered and left open, or remembered and completed. -/
theorem startBranchCreation_cases (env : PosWorkspaceRuntime) (now : ℤ) (user : WorkspaceUser) (dto : BranchCreationDto)
    (exchange : EbirrExchange) (s : PosWorkspaceStore) :
    (s.payingTenant user = none ∧ ∃ failure,
      run (startAdditionalBranchCreationPayment env now user dto exchange) s = (.error failure, s)) ∨
    ∃ tenantId id row, ∃ ebirr : EbirrStore, ebirr.order = s.ebirr.order ∧
      s.payingTenant user = some (tenantId, id, row) ∧
      let reference := branchCreationReference tenantId user.id now
      let remembered := (s.withPending id row (pendingCreation env user dto reference)).withEbirr ebirr
      (∃ outcome, run (startAdditionalBranchCreationPayment env now user dto exchange) s = (outcome, remembered)) ∨
      exchange.Approves ∧ run (startAdditionalBranchCreationPayment env now user dto exchange) s =
        run (completeBranchCreationPayment env exchange.repliedAt reference >>= fun created =>
          pure (reference, "CREATED", some created.1)) remembered := by
  rcases run_startBranchCreation env now user dto exchange s with hrefused | ⟨tenantId, id, row, hpays, hrun⟩
  · exact .inl hrefused
  · obtain ⟨ebirr, horder, hcases⟩ := payForBranch_cases env user tenantId dto now
      (branchCreationReference tenantId user.id now) exchange
      (s.withPending id row (pendingCreation env user dto (branchCreationReference tenantId user.id now)))
    refine .inr ⟨tenantId, id, row, ebirr, horder, hpays, ?_⟩
    rcases hcases with ⟨outcome, hpay⟩ | ⟨happroves, hpay⟩
    · left
      rw [hrun, run_bind, hpay]
      cases outcome with
      | error failure => exact ⟨_, rfl⟩
      | ok paid => exact ⟨_, rfl⟩
    · refine .inr ⟨happroves, ?_⟩
      rw [hrun, run_bind, hpay, ← run_bind, bind_assoc]
      rfl

end SuuqBackend
