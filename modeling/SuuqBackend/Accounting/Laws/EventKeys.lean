import SuuqBackend.Lib.TextKeys
import SuuqBackend.PosSync.Laws.CheckoutLedger
import SuuqBackend.PropertyRental.PropertyRentalBookings

/-!
# The keys of financial events

Several services post to one journal under keys that they put together from a label and either the key
of the client or a number that the server has given; a settlement is posted under the key of the client
as it is.  A `FinancialEvent` is what such a key stands for, and `Posts` says which entries the services
post for it.

* `Posts.key_eq`: every entry of an event is posted under the key of the event.
* `identified_iff`: the keys identify two events exactly when these do not clash.
-/

namespace SuuqBackend

open GeneralLedger PosCheckouts PropertyRentalBookings TextKeys

/-! ### Events -/

/-- What tells the events of one kind apart: the key of the client, or a number of the server. -/
inductive EventRef where
  | keyed (key : String) (ne_empty : key ≠ "")
  | numbered (n : ℕ)
deriving DecidableEq

namespace EventRef

/-- The reference of what is stored with the key of the client, or without one. -/
def of (key : Option String) (n : ℕ) : EventRef :=
  match key with
  | none => numbered n
  | some key => if h : key = "" then numbered n else keyed key h

theorem of_some {key : String} (h : key ≠ "") (n : ℕ) : of (some key) n = keyed key h := dif_neg h

theorem of_empty (n : ℕ) : of (some "") n = numbered n := by simp [of]

def text : EventRef → String
  | keyed key _ => key
  | numbered n => toString n

/-- The client of one event has chosen a key that reads as the number of the other. -/
def Clashes : EventRef → EventRef → Prop
  | keyed key _, numbered n => key = toString n
  | numbered n, keyed key _ => key = toString n
  | keyed _ _, keyed _ _ => False
  | numbered _, numbered _ => False

theorem text_eq_iff (r r' : EventRef) : r.text = r'.text ↔ r = r' ∨ r.Clashes r' := by
  cases r with
  | keyed key h =>
    cases r' with
    | keyed key' h' => simp [text, Clashes]
    | numbered n => simp [text, Clashes]
  | numbered n =>
    cases r' with
    | keyed key' h' =>
      simp only [text, Clashes, reduceCtorEq, false_or]
      exact eq_comm
    | numbered n' =>
      simp only [text, Clashes, or_false, numbered.injEq]
      exact toString_inj

end EventRef

/-- The events that are posted to the ledger.  The cost of a checkout has an entry of its own. -/
inductive FinancialEvent where
  | checkout (ref : EventRef)
  | cost (checkout : EventRef)
  | settlement (key : String)
  | payment (bookingId : ℕ) (ref : EventRef)
deriving DecidableEq

namespace FinancialEvent

def key : FinancialEvent → String
  | checkout ref => "pos-checkout-" ++ ref.text
  | cost ref => "pos-cogs-" ++ ("pos-checkout-" ++ ref.text)
  | settlement key => key
  | payment bookingId ref => "prop-pay-" ++ (toString bookingId ++ "-" ++ ref.text)

end FinancialEvent

/-- The text that a client has chosen for a settlement reads as the key of an event of another kind. -/
def Imitates (text : String) : FinancialEvent → Prop
  | .checkout ref => text = "pos-checkout-" ++ ref.text
  | .cost ref => text = "pos-cogs-" ++ ("pos-checkout-" ++ ref.text)
  | .settlement _ => False
  | .payment bookingId ref => text = "prop-pay-" ++ (toString bookingId ++ "-" ++ ref.text)

/-- A client's key reads as a number that the server gave to an event of the same kind (and, for a
payment, of the same booking), or the key of a settlement reads as that of another kind of event. -/
def Clash : FinancialEvent → FinancialEvent → Prop
  | .checkout ref, .checkout ref' => ref.Clashes ref'
  | .cost ref, .cost ref' => ref.Clashes ref'
  | .payment bookingId ref, .payment bookingId' ref' => bookingId = bookingId' ∧ ref.Clashes ref'
  | .settlement text, event => Imitates text event
  | event, .settlement text => Imitates text event
  | _, _ => False

theorem key_ne_of_labels (text text' : String) :
    "pos-checkout-" ++ text ≠ "pos-cogs-" ++ text' ∧ "pos-checkout-" ++ text ≠ "prop-pay-" ++ text' ∧
      "pos-cogs-" ++ text ≠ "prop-pay-" ++ text' :=
  ⟨append_ne_append (by decide) (by decide) _ _, append_ne_append (by decide) (by decide) _ _,
    append_ne_append (by decide) (by decide) _ _⟩

variable (e e' : FinancialEvent)

theorem key_eq_iff : e.key = e'.key ↔ e = e' ∨ Clash e e' := by
  cases e with
  | checkout ref =>
    cases e' with
    | checkout ref' =>
      simp only [FinancialEvent.key, Clash, FinancialEvent.checkout.injEq, String.append_right_inj]
      exact EventRef.text_eq_iff ref ref'
    | cost ref' => simp [FinancialEvent.key, Clash, (key_ne_of_labels _ _).1]
    | settlement text =>
      simp only [FinancialEvent.key, Clash, Imitates, reduceCtorEq, false_or]
      exact eq_comm
    | payment bookingId ref' => simp [FinancialEvent.key, Clash, (key_ne_of_labels _ _).2.1]
  | cost ref =>
    cases e' with
    | checkout ref' => simp [FinancialEvent.key, Clash, (key_ne_of_labels _ _).1.symm]
    | cost ref' =>
      simp only [FinancialEvent.key, Clash, FinancialEvent.cost.injEq, String.append_right_inj]
      exact EventRef.text_eq_iff ref ref'
    | settlement text =>
      simp only [FinancialEvent.key, Clash, Imitates, reduceCtorEq, false_or]
      exact eq_comm
    | payment bookingId ref' => simp [FinancialEvent.key, Clash, (key_ne_of_labels _ _).2.2]
  | settlement text =>
    cases e' with
    | settlement text' => simp [FinancialEvent.key, Clash, Imitates]
    | _ => simp [FinancialEvent.key, Clash, Imitates]
  | payment bookingId ref =>
    cases e' with
    | checkout ref' => simp [FinancialEvent.key, Clash, (key_ne_of_labels _ _).2.1.symm]
    | cost ref' => simp [FinancialEvent.key, Clash, (key_ne_of_labels _ _).2.2.symm]
    | settlement text =>
      simp only [FinancialEvent.key, Clash, Imitates, reduceCtorEq, false_or]
      exact eq_comm
    | payment bookingId' ref' =>
      -- the number of the booking ends at the first dash
      simp only [FinancialEvent.key, Clash, FinancialEvent.payment.injEq, String.append_right_inj,
        toString_dash_inj, EventRef.text_eq_iff]
      exact and_or_left

/-! ### Postings -/

inductive Posts : FinancialEvent → PostJournalEntryInput → Prop
  | checkout (env : PosCheckoutRuntime) (id : ℕ) (checkout : PosCheckout)
      (fc : FinancialClassification) :
      Posts (.checkout (.of checkout.idempotencyKey id)) (checkoutEntry env id checkout fc)
  | cost (id : ℕ) (checkout : PosCheckout) (totalCost : ℚ) :
      Posts (.cost (.of checkout.idempotencyKey id)) (cogsEntry id checkout totalCost)
  | settlement (env : PosCheckoutRuntime) (dto : SettleReceivableDto) (actorId : Option ℕ) :
      Posts (.settlement dto.idempotencyKey) (settlementEntry env dto actorId)
  | payment (env : PropertyRentalRuntime) (bookingId : ℕ) (booking : PropertyRentalBooking) (total : ℚ)
      (records : List PropertyBookingPaymentRecord) (idempotencyKey : Option String) (earlier : ℕ)
      (occurredAt : Date) :
      Posts (.payment bookingId (.of idempotencyKey earlier))
        (deferralEntry env bookingId booking total records (paymentKey bookingId idempotencyKey earlier) occurredAt)

theorem ledgerKeyForCheckout_eq (id : ℕ) (checkout : PosCheckout) :
    ledgerKeyForCheckout id checkout = "pos-checkout-" ++ (EventRef.of checkout.idempotencyKey id).text := by
  unfold ledgerKeyForCheckout
  generalize checkout.idempotencyKey = key
  cases key with
  | none => simp [EventRef.of, EventRef.text, toString]
  | some key =>
    by_cases h : key = ""
    · subst h
      simp [EventRef.of_empty, EventRef.text, toString]
    · rw [EventRef.of_some h]
      simp [EventRef.text, toString]

theorem paymentKey_eq (bookingId : ℕ) (idempotencyKey : Option String) (earlier : ℕ) :
    paymentKey bookingId idempotencyKey earlier =
      "prop-pay-" ++ (toString bookingId ++ "-" ++ (EventRef.of idempotencyKey earlier).text) := by
  unfold paymentKey
  cases idempotencyKey with
  | none => simp [EventRef.of, EventRef.text, toString, String.append_assoc]
  | some key =>
    by_cases h : key = ""
    · subst h
      simp [EventRef.of_empty, EventRef.text, toString, String.append_assoc]
    · rw [EventRef.of_some h]
      simp [EventRef.text, toString, String.append_assoc]

theorem Posts.key_eq {e : FinancialEvent} {i : PostJournalEntryInput} (h : Posts e i) : i.idempotencyKey = e.key := by
  cases h with
  | checkout env id checkout fc => exact ledgerKeyForCheckout_eq id checkout
  | cost id checkout totalCost =>
    show s!"pos-cogs-{ledgerKeyForCheckout id checkout}" = _
    rw [ledgerKeyForCheckout_eq]
    rfl
  | settlement env dto actorId => rfl
  | payment env bookingId booking total records idempotencyKey earlier occurredAt =>
    exact paymentKey_eq bookingId idempotencyKey earlier

/-- The client key that a reference stands for, if it does. -/
def EventRef.clientKey : EventRef → Option String
  | keyed key _ => some key
  | numbered _ => none

/-- The number that a reference stands for; any will do for the key of a client. -/
def EventRef.number : EventRef → ℕ
  | keyed _ _ => 0
  | numbered n => n

theorem EventRef.of_clientKey (ref : EventRef) : of ref.clientKey ref.number = ref := by
  cases ref with
  | keyed key h => exact of_some h 0
  | numbered n => rfl

def sampleCheckout (branchId : ℕ) (ref : EventRef) : PosCheckout :=
  { rowForTen 0 0 [] with branchId, idempotencyKey := ref.clientKey }

theorem exists_posts (branchId : ℕ) : ∃ i, Posts e i ∧ i.branchId = branchId := by
  cases e with
  | checkout ref =>
    have h := Posts.checkout plainCheckoutRuntime ref.number (sampleCheckout branchId ref) {}
    rw [show (sampleCheckout branchId ref).idempotencyKey = ref.clientKey from rfl, ref.of_clientKey] at h
    exact ⟨_, h, rfl⟩
  | cost ref =>
    have h := Posts.cost ref.number (sampleCheckout branchId ref) 1
    rw [show (sampleCheckout branchId ref).idempotencyKey = ref.clientKey from rfl, ref.of_clientKey] at h
    exact ⟨_, h, rfl⟩
  | settlement key =>
    exact ⟨_, .settlement plainCheckoutRuntime
      { branchId, idempotencyKey := key, currency := "ETB", originalReceiptNumber := "", settledAmount := 1 }
      none, rfl⟩
  | payment bookingId ref =>
    have h := Posts.payment { now := 0, toUpperCase := plainCheckoutRuntime.toUpperCase } bookingId
      { branchId, status := .opened, currency := "ETB", paidAmount := none, payments := none } 1 []
      ref.clientKey ref.number 0
    rw [ref.of_clientKey] at h
    exact ⟨_, h, rfl⟩

/-- **The keys identify the two events**: in one branch, different events are posted under different
keys, so that neither is taken for a replay of the other, and the same event always under the same. -/
structure Identified (e e' : FinancialEvent) : Prop where
  keys_ne : e ≠ e' → ∀ i i', Posts e i → Posts e' i' → i.branchId = i'.branchId → i.idempotencyKey ≠ i'.idempotencyKey
  /-- The posting of `e` leaves that of `e'` to be made. -/
  posted : e ≠ e' → ∀ i i', Posts e i → Posts e' i' → i.branchId = i'.branchId →
    assertBalanced i' = .ok () →
    ∀ (J : GlStore) (now now' : ℤ) (manager manager' : Bool),
      J.entryByKey i'.branchId i'.idempotencyKey = none →
      let J₁ := ((post now i manager).run J).2
      ((post now' i' manager').run J₁).2 = J₁.posted now' i'
  keys_eq : e = e' → ∀ i i', Posts e i → Posts e' i' → i.idempotencyKey = i'.idempotencyKey

theorem entryByKey_post_of_ne {J : GlStore} {i : PostJournalEntryInput} {branchId : ℕ} {key : String}
    (h : i.idempotencyKey ≠ key) (now : ℤ) (manager : Bool) :
    ((post now i manager).run J).2.entryByKey branchId key = J.entryByKey branchId key := by
  cases hok : assertBalanced i with
  | ok u =>
    obtain ⟨entry, hrun⟩ := run_post_of_ok hok now manager J
    rw [hrun]
    exact entryByKey_entered_of_ne h now
  | error e => rw [run_post_of_error hok now manager J]

theorem not_clash_self : ¬ Clash e e := by
  have href : ∀ ref : EventRef, ¬ ref.Clashes ref := by
    intro ref
    cases ref <;> exact id
  cases e with
  | checkout ref => exact href ref
  | cost ref => exact href ref
  | settlement text => exact id
  | payment bookingId ref => exact fun hclash => href ref hclash.2

theorem identified_iff : Identified e e' ↔ ¬ Clash e e' := by
  constructor
  · intro h hclash
    obtain ⟨i, hi, hbranch⟩ := exists_posts e 1
    obtain ⟨i', hi', hbranch'⟩ := exists_posts e' 1
    have hkey : e.key = e'.key := (key_eq_iff e e').mpr (.inr hclash)
    have hne : e ≠ e' := by
      rintro rfl
      exact not_clash_self e hclash
    apply h.keys_ne hne i i' hi hi' (hbranch.trans hbranch'.symm)
    rw [hi.key_eq, hi'.key_eq, hkey]
  · intro h
    have hne : e ≠ e' → ∀ i i', Posts e i → Posts e' i' → i.idempotencyKey ≠ i'.idempotencyKey := by
      intro hne i i' hi hi' hkey
      rw [hi.key_eq, hi'.key_eq, key_eq_iff] at hkey
      rcases hkey with heq | hclash
      · exact hne heq
      · exact h hclash
    refine ⟨fun hdistinct i i' hi hi' _ => hne hdistinct i i' hi hi', ?_, ?_⟩
    · intro hdistinct i i' hi hi' _ hok J now now' manager manager' hnew J₁
      have hkey : J₁.entryByKey i'.branchId i'.idempotencyKey = none := by
        rw [← hnew]
        exact entryByKey_post_of_ne (hne hdistinct i i' hi hi') now manager
      obtain ⟨entry, hrun⟩ := run_post_of_ok hok now' manager' J₁
      rw [hrun]
      exact if_pos hkey
    · rintro rfl i i' hi hi'
      rw [hi.key_eq, hi'.key_eq]

end SuuqBackend
