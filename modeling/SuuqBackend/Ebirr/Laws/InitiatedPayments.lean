import SuuqBackend.Ebirr.EbirrPayments

/-!
# What a payment leaves when nothing runs beside it

A payment is accepted when it has a payer, its order is not paid, Ebirr is set up, and its reference is new
(`EbirrStore.Accepts`).  Its transaction is then stored with what Ebirr replied, and the reply decides what the caller
gets (`run_initiatePayment_of_accepts`); otherwise the tables stay as they are.
-/

namespace SuuqBackend

open Proc EbirrPayments

namespace EbirrStore

/-- The transaction of a payment is stored, with the reply of Ebirr. -/
def initiated (s : EbirrStore) (request : EbirrPaymentRequest) (reply : EbirrReply) (repliedAt : ℤ) : EbirrStore :=
  let replied := repliedTransaction (createdTransaction request) reply
  { s with transactions := s.transactions.add { replied with updatedAt := repliedAt } }

def Accepts (env : EbirrRuntime) (s : EbirrStore) (request : EbirrPaymentRequest) : Prop :=
  (payerOf request).isOk = true ∧ (run (refusePaid request) s).1.isOk = true ∧
    env.apiUrl.all (· = "") = false ∧ s.byReference request.referenceId = none
deriving Decidable

theorem reference_repliedTransaction (tx : EbirrTransaction) (reply : EbirrReply) :
    (repliedTransaction tx reply).merchOrderId = tx.merchOrderId := by
  unfold repliedTransaction
  cases reply with
  | data response =>
    dsimp only
    split
    · rfl
    · split <;> rfl
  | noAnswer networkDrop => rfl
  | refused text errorCode => rfl
  | unexpected message => rfl

theorem byReference_initiated {s : EbirrStore} {request : EbirrPaymentRequest}
    (h : s.byReference request.referenceId = none) (reply : EbirrReply) (repliedAt : ℤ) :
    (s.initiated request reply repliedAt).byReference request.referenceId =
      some (s.transactions.next,
        { repliedTransaction (createdTransaction request) reply with updatedAt := repliedAt }) :=
  SerialTable.first_add_of_eq_none h (decide_eq_true (reference_repliedTransaction _ _))

theorem isSome_byReference_initiated {s : EbirrStore} {reference : String} (h : (s.byReference reference).isSome)
    (request : EbirrPaymentRequest) (reply : EbirrReply) (repliedAt : ℤ) :
    ((s.initiated request reply repliedAt).byReference reference).isSome := by
  obtain ⟨⟨id, tx⟩, hfirst⟩ := Option.isSome_iff_exists.mp h
  have hsame := SerialTable.first_add hfirst
    { repliedTransaction (createdTransaction request) reply with updatedAt := repliedAt }
  exact Option.isSome_iff_exists.mpr ⟨_, hsame⟩

end EbirrStore

variable {s : EbirrStore}

theorem readOnly_refusePaid (request : EbirrPaymentRequest) : (refusePaid request).ReadOnly := by
  unfold refusePaid
  cases requestedOrderId request with
  | none => exact readOnly_pure _
  | some orderId => exact (readOnly_read _).bind fun _ => readOnly_throwIf _ _

theorem run_insertTransaction_of_taken (now : ℤ) (tx : EbirrTransaction) (h : (s.byReference tx.merchOrderId).isSome) :
    run (insertTransaction now tx) s =
      (.error (.refused (.queryFailed "duplicate key value violates unique constraint")), s) := by
  unfold insertTransaction
  rw [run_step, if_pos h, if_pos h, run_fail]

theorem run_insertTransaction_of_new (now : ℤ) (tx : EbirrTransaction) (h : s.byReference tx.merchOrderId = none) :
    run (insertTransaction now tx) s = (.ok s.transactions.next,
      { s with transactions := s.transactions.add { tx with updatedAt := now } }) := by
  have hnew : ¬ (s.byReference tx.merchOrderId).isSome := by
    rw [h]
    exact Bool.false_ne_true
  unfold insertTransaction
  rw [run_step, if_neg hnew, if_neg hnew, run_done]

variable {request : EbirrPaymentRequest}

theorem run_requestPayment_of_taken (h : (s.byReference request.referenceId).isSome)
    (reply : EbirrReply) (requestedAt repliedAt : ℤ) :
    ∃ failure, run (requestPayment request reply requestedAt repliedAt) s = (.error failure, s) := by
  have hinsert := run_insertTransaction_of_taken requestedAt (createdTransaction request) h
  have hagain := run_insertTransaction_of_taken requestedAt { createdTransaction request with status := .error } h
  refine ⟨.refused (.queryFailed "duplicate key value violates unique constraint"), ?_⟩
  unfold requestPayment
  rw [run_bind, run_attempt, hinsert]
  dsimp only
  rw [run_bind_of_error hagain]

theorem run_requestPayment_of_new (h : s.byReference request.referenceId = none)
    (reply : EbirrReply) (requestedAt repliedAt : ℤ) :
    run (requestPayment request reply requestedAt repliedAt) s =
      (answerOf reply, s.initiated request reply repliedAt) := by
  have hinsert := run_insertTransaction_of_new requestedAt (createdTransaction request) h
  unfold requestPayment
  rw [run_bind, run_attempt, hinsert]
  dsimp only
  have hsave : run (saveTransaction repliedAt s.transactions.next
        (repliedTransaction (createdTransaction request) reply))
      { s with transactions := s.transactions.add { createdTransaction request with updatedAt := requestedAt } } =
        (.ok (), s.initiated request reply repliedAt) := by
    unfold saveTransaction EbirrStore.saveTransaction EbirrStore.initiated
    rw [run_write]
    rw [SerialTable.set_add_next]
  rw [run_bind_of_ok hsave, run_ofExcept]

theorem run_initiatePayment_of_accepts {env : EbirrRuntime}
    (h : s.Accepts env request) (reply : EbirrReply) (requestedAt repliedAt : ℤ) :
    run (initiatePayment env request reply requestedAt repliedAt) s =
      (answerOf reply, s.initiated request reply repliedAt) := by
  obtain ⟨hpayer, hunpaid, hurl, hnew⟩ := h
  have hreadOnly := readOnly_refusePaid request s
  unfold initiatePayment
  rw [run_bind, run_ofExcept]
  cases hphone : payerOf request with
  | error failure =>
    rw [hphone] at hpayer
    cases hpayer
  | ok phone =>
    dsimp only
    rw [run_bind]
    rcases hrefuse : run (refusePaid request) s with ⟨failure | u, s'⟩
    · rw [hrefuse] at hunpaid
      cases hunpaid
    · rw [hrefuse] at hreadOnly
      obtain rfl : s' = s := hreadOnly
      dsimp only
      rw [run_throwIf_bind, if_neg (by rw [hurl]; exact Bool.false_ne_true)]
      exact run_requestPayment_of_new hnew reply requestedAt repliedAt

theorem run_initiatePayment_of_not_accepts {env : EbirrRuntime}
    (h : ¬ s.Accepts env request) (reply : EbirrReply) (requestedAt repliedAt : ℤ) :
    ∃ failure, run (initiatePayment env request reply requestedAt repliedAt) s = (.error failure, s) := by
  have hreadOnly := readOnly_refusePaid request s
  unfold initiatePayment
  rw [run_bind, run_ofExcept]
  cases hphone : payerOf request with
  | error failure => exact ⟨failure, rfl⟩
  | ok phone =>
    dsimp only
    rw [run_bind]
    rcases hrefuse : run (refusePaid request) s with ⟨failure | u, s'⟩
    · rw [hrefuse] at hreadOnly
      obtain rfl : s' = s := hreadOnly
      exact ⟨failure, rfl⟩
    · rw [hrefuse] at hreadOnly
      obtain rfl : s' = s := hreadOnly
      dsimp only
      rw [run_throwIf_bind]
      by_cases hurl : env.apiUrl.all (· = "") = true
      · rw [if_pos hurl]
        exact ⟨_, rfl⟩
      · rw [if_neg hurl]
        have htaken : (s'.byReference request.referenceId).isSome := by
          by_contra hnone
          refine h ⟨by rw [hphone]; rfl, by rw [hrefuse]; rfl, Bool.not_eq_true _ ▸ hurl, ?_⟩
          exact Option.not_isSome_iff_eq_none.mp hnone
        exact run_requestPayment_of_taken htaken reply requestedAt repliedAt

theorem eq_data_of_answerOf {reply : EbirrReply} {response : EbirrResponse} (h : answerOf reply = .ok response) :
    reply = .data response := by
  cases reply with
  | data data =>
    unfold answerOf at h
    dsimp only at h
    cases hsoft : EbirrResponse.softError data with
    | none =>
      rw [hsoft] at h
      rw [Except.ok.inj h]
    | some code =>
      rw [hsoft] at h
      cases h
  | noAnswer networkDrop => cases h
  | refused text errorCode => cases h
  | unexpected message => cases h

end SuuqBackend
