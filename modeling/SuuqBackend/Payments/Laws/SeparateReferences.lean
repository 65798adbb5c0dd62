import SuuqBackend.Common.Laws.TextNumbers
import SuuqBackend.Payments.StartedPayments
import SuuqBackend.Payments.Laws.ConfirmedPayments

/-!
# References of different kinds

The webhook of a provider finds an order in the reference of a payment.  It finds the order that the payment was started
for, or none, except for the hotel prepayments with M-Pesa, which are started under the reference of the order with the
number of the reservation, and with StarPay, where the first number of any reference counts
(`kept_apart_iff`).  So a guest who pays for a room completes an order of somebody else
(`reservation_completes_order`).
-/

namespace SuuqBackend

open Proc Texts EbirrPayments Starpay

/-! ### Kept apart -/

namespace StartedPayment

/-- The report on a payment leaves the orders as they are, whatever else it says. -/
def LeavesOrders (payment : StartedPayment) : Prop :=
  match payment.provider with
  | .ebirr => ∀ (env : EbirrRuntime) now (body : EbirrNotice) (t : EbirrStore) id tx,
      orText body.referenceId body.merchOrderId = some payment.reference →
      t.byReference payment.reference = some (id, tx) → tx.invoiceId = some payment.invoice →
        (run (processCallback env now body) t).2.order.orders = t.order.orders
  | .telebirr => ∀ (env : PaymentsRuntime) now (body : TelebirrCallbackBody) (s : PaymentStore),
      body.outTradeNo = some payment.reference → (run (Payments.telebirrCallback env now body) s).2.orders = s.orders
  | .mpesa => ∀ (callback : StkCallback) (s : PaymentStore), callback.AccountReference = some payment.reference →
        (run (Payments.mpesaCallback (some callback)) s).2.orders = s.orders
  | .starpay => ∀ toLowerCase (env : PaymentRuntime) refused place (status message : Option String) (s : OrderStore),
        (run (handleWebhook toLowerCase env refused
          { payment.starpayPayload place with status, message }) s).2.orders = s.orders

/-- The webhook finds the order that the payment is for, or none; and a payment that is for no order completes none. -/
structure KeptApart (payment : StartedPayment) : Prop where
  extractedId_eq : ∀ place, payment.extractedId place = none ∨ payment.extractedId place = payment.orderId.map Nat.cast
  leavesOrders : payment.orderId = none → payment.LeavesOrders

/-- The condition on a payment: it is no hotel prepayment with M-Pesa or StarPay, and what the client gives for a
reference names no other order than the rest of the request. -/
def NamesItsOrder : StartedPayment → Prop
  | hotelPrepayment provider reservationId _ => provider = .mpesa ∨ provider = .starpay → reservationId = 0
  | ebirrRequest request => ∀ referenceOrder ∈ parseOrderIdFromReference request.referenceId,
      ∀ invoiceOrder ∈ parseOrderIdFromInvoice (some request.invoiceId), referenceOrder = invoiceOrder
  | starpayRequest orderId referenceId => (digitsOf (trim orderId)).isSome ∨
      ∀ number ∈ firstNumber (trim referenceId), number = 0
  | _ => True

/-! ### Ebirr -/

section Ebirr

variable {text : String} {c : Char} {rest : List Char}

theorem parseReference_of_head (htext : text.toList = c :: rest) (hspace : isWhiteSpace c = false) (h : c ≠ 'R') :
    parseOrderIdFromReference text = none := by
  obtain ⟨rest', htrim⟩ := trim_head htext hspace
  have hstart : "REF-".toList = 'R' :: ['E', 'F', '-'] := by decide
  unfold parseOrderIdFromReference
  rw [numberAfter_of_not_startsWith (not_startsWith_of_head htrim hstart h)]
  rfl

theorem parseInvoice_of_head (htext : text.toList = c :: rest) (hspace : isWhiteSpace c = false) (h : c ≠ 'I')
    (hdigit : c.isDigit = false) : parseOrderIdFromInvoice (some text) = none := by
  obtain ⟨rest', htrim⟩ := trim_head htext hspace
  have hstart : "INV-".toList = 'I' :: ['N', 'V', '-'] := by decide
  unfold parseOrderIdFromInvoice
  dsimp only [Option.getD_some]
  rw [numberAfter_of_not_startsWith (not_startsWith_of_head htrim hstart h), numberAfter_empty_of_head htrim hdigit]
  rfl

end Ebirr

/-! ### Telebirr and M-Pesa -/

theorem orderIdOf_order (orderId : ℕ) : Payments.orderIdOf s!"ORDER-{orderId}" = (some (orderId : ℤ)).filter (· ≠ 0) := by
  have htext : s!"ORDER-{orderId}" = "ORDER-" ++ toString orderId := rfl
  have hlabel : "ORDER-" ≠ "" := by decide
  unfold Payments.orderIdOf
  rw [htext, remove_append hlabel, parseInt_toString]

theorem orderIdOf_of_head {text : String} {c : Char} {rest : List Char} (htext : text.toList = c :: rest)
    (hspace : isWhiteSpace c = false) (hc : c ≠ 'O') (hsign : c ≠ '-' ∧ c ≠ '+' ∧ c ≠ '0')
    (hdigit : digitValue 10 c = none) : Payments.orderIdOf text = none := by
  have hpattern : "ORDER-".toList = 'O' :: ['R', 'D', 'E', 'R', '-'] := by decide
  obtain ⟨rest', hremoved⟩ := remove_head htext hpattern hc
  unfold Payments.orderIdOf
  rw [parseInt_of_head hremoved hspace hsign hdigit]
  rfl

/-! ### StarPay -/

section StarPay

theorem textOf_none (texts : List (Option String)) : textOf (none :: texts) = textOf texts := rfl

variable (text : String)

theorem textOf_some (texts : List (Option String)) :
    textOf (some text :: texts) = if text = "" then textOf texts else trim text := by
  unfold textOf orText
  rw [List.foldr_cons]
  by_cases htext : text = ""
  · subst htext
    rfl
  · have hfilter : (some text).filter (· ≠ "") = some text := Option.filter_some_pos (decide_eq_true htext)
    rw [hfilter, if_neg htext]
    rfl

theorem textOf_singleton : textOf [some text] = trim text := by
  rw [textOf_some]
  by_cases htext : text = ""
  · subst htext
    decide
  · rw [if_neg htext]

theorem digitsOf_or_firstNumber_self : (digitsOf text).or (firstNumber text) = firstNumber text := by
  rcases hdigits : digitsOf text with _ | n
  · rw [Option.none_or]
  · rw [firstNumber_of_numberAfter hdigits, Option.some_or]

theorem digitsOf_or_firstNumber (text : Option String) (reference : String) :
    (digitsOf (textOf [text, some reference])).or (firstNumber (trim reference)) =
      (text.bind fun text => digitsOf (trim text)).or (firstNumber (trim reference)) := by
  rcases text with _ | text
  · rw [textOf_none, textOf_singleton, Option.bind_none, Option.none_or, digitsOf_or_firstNumber_self]
  · rw [textOf_some, textOf_singleton, Option.bind_some]
    by_cases htext : text = ""
    · have hempty : digitsOf (trim "") = none := by decide
      subst htext
      rw [if_pos rfl, hempty, Option.none_or, digitsOf_or_firstNumber_self]
    · rw [if_neg htext]

theorem extractOrderId_starpayPayload (payment : StartedPayment) (place : StarpayPlace) :
    extractOrderId (payment.starpayPayload place) =
      (payment.starpayOrderId.bind fun text => digitsOf (trim text)).or (firstNumber (trim payment.reference)) := by
  have hnone : digitsOf (textOf []) = none := by decide
  have hdigits : digitsOf (textOf [payment.starpayOrderId]) =
      payment.starpayOrderId.bind fun text => digitsOf (trim text) := by
    cases payment.starpayOrderId with
    | none => exact hnone
    | some text => rw [textOf_singleton, Option.bind_some]
  unfold extractOrderId
  cases place with
  | root =>
    have hlike : textOf [some payment.reference, none, none] = trim payment.reference :=
      textOf_singleton payment.reference
    dsimp only [starpayPayload]
    rw [hdigits, hlike, textOf_none, textOf_none, hnone, Option.or_none]
  | data =>
    have hlike : textOf [none, some payment.reference, none] = trim payment.reference :=
      textOf_singleton payment.reference
    dsimp only [starpayPayload]
    rw [hlike, textOf_none, hnone, Option.none_or]
    exact digitsOf_or_firstNumber payment.starpayOrderId payment.reference
  | orderReference =>
    have hlike : textOf [none, none, some payment.reference] = trim payment.reference :=
      textOf_singleton payment.reference
    have halone : textOf [payment.starpayOrderId, none] = textOf [payment.starpayOrderId] := by
      cases payment.starpayOrderId <;> rfl
    dsimp only [starpayPayload]
    rw [hlike, textOf_none, hnone, Option.none_or, halone, hdigits]

end StarPay

/-! ### References of reservations -/

variable (reservationId : ℕ) (now : ℤ)

theorem toList_hotelReference : (hotelReference reservationId now).toList =
    ("RES-".toList ++ ((toString reservationId).toList ++ "-".toList)) ++ (toString now).toList := by
  have happend : hotelReference reservationId now = "RES-" ++ (toString reservationId ++ ("-" ++ toString now)) := by
    unfold hotelReference
    simp only [String.append_assoc]
    rfl
  rw [happend]
  simp only [String.toList_append, List.append_assoc]

theorem trim_hotelReference :
    ∃ rest, trim (hotelReference reservationId now) = "RES-" ++ (toString reservationId ++ ("-" ++ rest)) := by
  have hlabel : "RES-".toList.all (fun c => isWhiteSpace c = false) = true := by decide
  have hdash : "-".toList.all (fun c => isWhiteSpace c = false) = true := by decide
  have hspace : ∀ c ∈ "RES-".toList ++ ((toString reservationId).toList ++ "-".toList), isWhiteSpace c = false := by
    intro c hc
    rcases List.mem_append.mp hc with hc | hc
    · exact of_decide_eq_true (List.all_eq_true.mp hlabel c hc)
    · rcases List.mem_append.mp hc with hc | hc
      · exact isWhiteSpace_of_isDigit (isDigit_of_mem_toString hc)
      · exact of_decide_eq_true (List.all_eq_true.mp hdash c hc)
  have hne : "RES-".toList ++ ((toString reservationId).toList ++ "-".toList) ≠ [] :=
    List.append_ne_nil_of_left_ne_nil (by decide) _
  obtain ⟨rest, hrest⟩ := trim_append_prefix (toList_hotelReference reservationId now) hne hspace
  refine ⟨String.ofList rest, String.toList_inj.mp ?_⟩
  rw [hrest]
  simp only [String.toList_append, String.toList_ofList, List.append_assoc]

theorem firstNumber_hotelReference : firstNumber (trim (hotelReference reservationId now)) = some reservationId := by
  obtain ⟨rest, htrim⟩ := trim_hotelReference reservationId now
  have hlabel : "RES-".toList.all (fun c => c.isDigit = false) = true := by decide
  rw [htrim]
  refine firstNumber_label (fun c hc => of_decide_eq_true (List.all_eq_true.mp hlabel c hc)) reservationId ?_
  intro c hc
  have hdash : "-".toList = ['-'] := by decide
  rw [String.toList_append, hdash, List.singleton_append, List.head?_cons, Option.mem_some_iff] at hc
  rw [← hc]
  rfl

theorem parse_hotelReference :
    parseOrderIdFromReference (hotelReference reservationId now) = none ∧
      parseOrderIdFromInvoice (some (hotelReference reservationId now)) = none := by
  obtain ⟨rest, htrim⟩ := trim_hotelReference reservationId now
  have hlist := toList_hotelReference reservationId now
  constructor
  · have hstart : ¬ StartsWith (trim (hotelReference reservationId now)) "REF-" := by
      unfold StartsWith
      rw [htrim, String.toList_append]
      exact Bool.false_ne_true
    unfold parseOrderIdFromReference
    rw [numberAfter_of_not_startsWith hstart]
    rfl
  · exact parseInvoice_of_head hlist (by decide) (by decide) (by decide)

/-! ### What the webhooks find -/

theorem head_append {a : String} {c : Char} (h : ∃ rest, a.toList = c :: rest) (b : String) :
    ∃ rest, (a ++ b).toList = c :: rest := by
  obtain ⟨rest, ha⟩ := h
  exact ⟨rest ++ b.toList, by rw [String.toList_append, ha, List.cons_append]⟩

variable {payment : StartedPayment}

theorem extractedId_ebirr (hprovider : payment.provider = .ebirr) (place : StarpayPlace) :
    payment.extractedId place = ((parseOrderIdFromInvoice (some payment.invoice)).or
      (parseOrderIdFromReference payment.reference)).map Nat.cast := by
  unfold extractedId
  rw [hprovider]
  rfl

/-- A payment with Ebirr whose reference and invoice begin otherwise than those of an order. -/
theorem extractedId_of_heads {c d : Char} (hprovider : payment.provider = .ebirr)
    (hreference : ∃ rest, payment.reference.toList = c :: rest) (hinvoice : ∃ rest, payment.invoice.toList = d :: rest)
    (hc : isWhiteSpace c = false ∧ c ≠ 'R') (hd : isWhiteSpace d = false ∧ d ≠ 'I' ∧ d.isDigit = false)
    (place : StarpayPlace) : payment.extractedId place = none := by
  obtain ⟨rest, hreference⟩ := hreference
  obtain ⟨rest', hinvoice⟩ := hinvoice
  rw [extractedId_ebirr hprovider, parseReference_of_head hreference hc.1 hc.2, parseInvoice_of_head hinvoice hd.1 hd.2.1 hd.2.2]
  rfl

theorem extractedId_telebirr (hprovider : payment.provider = .telebirr)
    (place : StarpayPlace) : payment.extractedId place =
      if StartsWith payment.reference "BOOST-" then none else Payments.orderIdOf payment.reference := by
  unfold extractedId
  rw [hprovider]

theorem extractedId_mpesa (hprovider : payment.provider = .mpesa) (place : StarpayPlace) :
    payment.extractedId place = Payments.orderIdOf payment.reference := by
  unfold extractedId
  rw [hprovider]

theorem extractedId_starpay (hprovider : payment.provider = .starpay) (place : StarpayPlace) :
    payment.extractedId place =
      (((payment.starpayOrderId.bind fun text => digitsOf (trim text)).or
        (firstNumber (trim payment.reference))).filter (· ≠ 0)).map Nat.cast := by
  unfold extractedId
  rw [hprovider]
  rw [extractOrderId_starpayPayload]

theorem extractedId_hotelPrepayment (provider : PaymentProvider) (reservationId : ℕ) (now : ℤ) (place : StarpayPlace) :
    (hotelPrepayment provider reservationId now).extractedId place =
      if provider = .mpesa ∨ provider = .starpay then (some (reservationId : ℤ)).filter (· ≠ 0) else none := by
  obtain ⟨hreference, hinvoice⟩ := parse_hotelReference reservationId now
  cases provider with
  | ebirr =>
    rw [extractedId_ebirr rfl]
    dsimp only [invoice, reference]
    rw [hinvoice, hreference]
    rfl
  | telebirr =>
    have hhead : ∃ rest, (hotelPrepayment .telebirr reservationId now).reference.toList = 'R' :: rest :=
      head_append (head_append (head_append ⟨_, rfl⟩ _) _) _
    obtain ⟨rest, hhead⟩ := hhead
    have horder := orderIdOf_of_head hhead (by decide) (by decide) (by decide) (by decide)
    rw [extractedId_telebirr rfl, horder, ite_self, if_neg (by decide)]
  | mpesa =>
    exact orderIdOf_order reservationId
  | starpay =>
    rw [extractedId_starpay rfl]
    dsimp only [starpayOrderId, reference]
    rw [firstNumber_hotelReference]
    cases reservationId <;> rfl

theorem extractedId_of_noOrder (hnames : payment.NamesItsOrder)
    (hnone : payment.orderId = none) (place : StarpayPlace) : payment.extractedId place = none := by
  cases payment with
  | ebirrOrder | telebirrOrder | mpesaOrder => cases hnone
  | ebirrRequest request =>
    obtain ⟨hreference, hinvoice⟩ := Option.or_eq_none_iff.mp hnone
    rw [extractedId_ebirr rfl]
    dsimp only [invoice, reference]
    rw [hinvoice, hreference]
    rfl
  | starpayRequest orderId referenceId =>
    rw [extractedId_starpay rfl]
    dsimp only [StartedPayment.orderId, starpayOrderId, reference] at hnone ⊢
    rw [Option.bind_some]
    rcases hdigits : digitsOf (trim orderId) with _ | number
    · have hzero := hnames.resolve_left (by rw [hdigits]; exact Bool.false_ne_true)
      rcases hfirst : firstNumber (trim referenceId) with _ | number
      · rfl
      · rw [hzero number hfirst]
        rfl
    · rw [hdigits] at hnone
      rw [Option.some_or, hnone]
      rfl
  | telebirrBoost productId tier now =>
    have htext : (boostReference productId tier now).toList =
        "BOOST-".toList ++ (productId ++ ("-" ++ (tier ++ ("-" ++ toString now)))).toList := by
      rw [← String.toList_append]
      unfold boostReference
      simp only [String.append_assoc]
      rfl
    have hboost : StartsWith (boostReference productId tier now) "BOOST-" := by
      unfold StartsWith
      rw [htext, List.isPrefixOf_iff_prefix]
      exact List.prefix_append _ _
    exact if_pos hboost
  | ebirrBoost productId tier now =>
    have hhead : ∃ rest, (ebirrBoost productId tier now).reference.toList = 'B' :: rest :=
      head_append (head_append (head_append (head_append (head_append ⟨_, rfl⟩ _) _) _) _) _
    exact extractedId_of_heads rfl hhead hhead (by decide) (by decide) place
  | activation branchId now =>
    have hreference : ∃ rest, (activation branchId now).reference.toList = 'P' :: rest :=
      head_append (head_append (head_append ⟨_, rfl⟩ _) _) _
    have hinvoice : ∃ rest, (activation branchId now).invoice.toList = 'P' :: rest := head_append ⟨_, rfl⟩ _
    exact extractedId_of_heads rfl hreference hinvoice (by decide) (by decide) place
  | branchCreation tenantId userId now invoicedAt =>
    have hreference : ∃ rest, (branchCreation tenantId userId now invoicedAt).reference.toList = 'P' :: rest :=
      head_append (head_append (head_append (head_append (head_append ⟨_, rfl⟩ _) _) _) _) _
    have hinvoice : ∃ rest, (branchCreation tenantId userId now invoicedAt).invoice.toList = 'P' :: rest :=
      head_append (head_append (head_append ⟨_, rfl⟩ _) _) _
    exact extractedId_of_heads rfl hreference hinvoice (by decide) (by decide) place
  | bnplSettlement activationId now =>
    have hreference : ∃ rest, (bnplSettlement activationId now).reference.toList = 'B' :: rest :=
      head_append (head_append (head_append ⟨_, rfl⟩ _) _) _
    have hinvoice : ∃ rest, (bnplSettlement activationId now).invoice.toList = 'B' :: rest := head_append ⟨_, rfl⟩ _
    exact extractedId_of_heads rfl hreference hinvoice (by decide) (by decide) place
  | disbursement orderId =>
    obtain ⟨rest, hhead⟩ : ∃ rest, (disbursement orderId).reference.toList = 'D' :: rest := head_append ⟨_, rfl⟩ _
    have horder := orderIdOf_of_head hhead (by decide) (by decide) (by decide) (by decide)
    rw [extractedId_telebirr rfl, horder, ite_self]
  | hotelPrepayment provider reservationId now =>
    rw [extractedId_hotelPrepayment]
    split_ifs with hprovider
    · rw [hnames hprovider]
      rfl
    · rfl

theorem filter_eq_none_or_self {α : Type} (a : Option α) (p : α → Bool) : a.filter p = none ∨ a.filter p = a := by
  cases a with
  | none => exact .inl rfl
  | some a =>
    exact (ite_eq_or_eq _ _ _).symm

theorem parse_orderTexts (orderId : ℕ) :
    parseOrderIdFromReference s!"REF-{orderId}" = (some orderId).filter (0 < ·) ∧
      parseOrderIdFromInvoice (some s!"INV-{orderId}") = (some orderId).filter (0 < ·) := by
  have hdigits := trim_toString orderId
  have hne : toString orderId ≠ "" := String.toList_eq_nil_iff.not.mp (toList_toString_ne_nil orderId)
  have hreference : trim ("REF-" ++ toString orderId) = "REF-" ++ toString orderId :=
    trim_append (by decide) hdigits (by decide) hne
  have hinvoice : trim ("INV-" ++ toString orderId) = "INV-" ++ toString orderId :=
    trim_append (by decide) hdigits (by decide) hne
  constructor
  · have htext : s!"REF-{orderId}" = "REF-" ++ toString orderId := rfl
    unfold parseOrderIdFromReference
    rw [htext, hreference, numberAfter_append]
  · have htext : s!"INV-{orderId}" = "INV-" ++ toString orderId := rfl
    unfold parseOrderIdFromInvoice
    dsimp only [Option.getD_some]
    rw [htext, hinvoice, numberAfter_append, Option.some_or]

theorem extractedId_of_order (hnames : payment.NamesItsOrder) {orderId : ℕ}
    (horder : payment.orderId = some orderId) (place : StarpayPlace) :
    payment.extractedId place = none ∨ payment.extractedId place = some (orderId : ℤ) := by
  cases payment with
  | telebirrBoost | ebirrBoost | activation | branchCreation | bnplSettlement | hotelPrepayment | disbursement =>
    cases horder
  | ebirrOrder id =>
    obtain rfl : id = orderId := Option.some.inj horder
    obtain ⟨hreference, hinvoice⟩ := parse_orderTexts id
    rw [extractedId_ebirr rfl]
    dsimp only [invoice, reference]
    rw [hreference, hinvoice, Option.or_self]
    rcases filter_eq_none_or_self (some id) (fun id => decide (0 < id)) with hfilter | hfilter
    · exact .inl (by rw [hfilter, Option.map_none])
    · exact .inr (by rw [hfilter, Option.map_some])
  | telebirrOrder id =>
    obtain rfl : id = orderId := Option.some.inj horder
    have hextracted : Payments.orderIdOf (telebirrOrder id).reference = (some (id : ℤ)).filter (· ≠ 0) :=
      orderIdOf_order id
    rw [extractedId_telebirr rfl, hextracted]
    split_ifs
    · exact .inl rfl
    · exact filter_eq_none_or_self _ _
  | mpesaOrder id =>
    obtain rfl : id = orderId := Option.some.inj horder
    have hextracted : Payments.orderIdOf (mpesaOrder id).reference = (some (id : ℤ)).filter (· ≠ 0) :=
      orderIdOf_order id
    rw [extractedId_mpesa rfl, hextracted]
    exact filter_eq_none_or_self _ _
  | ebirrRequest request =>
    rw [extractedId_ebirr rfl]
    dsimp only [StartedPayment.orderId, invoice, reference] at horder ⊢
    have hagree : ∀ referenceOrder ∈ parseOrderIdFromReference request.referenceId,
        ∀ invoiceOrder ∈ parseOrderIdFromInvoice (some request.invoiceId), referenceOrder = invoiceOrder := hnames
    unfold requestedOrderId at horder
    cases hinvoice : parseOrderIdFromInvoice (some request.invoiceId) with
    | none =>
      rw [hinvoice, Option.or_none] at horder
      exact .inr (by rw [horder, Option.none_or, Option.map_some])
    | some invoiceOrder =>
      cases hreference : parseOrderIdFromReference request.referenceId with
      | none =>
        rw [hinvoice, hreference, Option.none_or] at horder
        exact .inr (by rw [horder, Option.or_none, Option.map_some])
      | some referenceOrder =>
        rw [hreference, Option.some_or] at horder
        rw [← hagree referenceOrder hreference invoiceOrder hinvoice, horder]
        exact .inr rfl
  | starpayRequest id referenceId =>
    rw [extractedId_starpay rfl]
    dsimp only [StartedPayment.orderId, starpayOrderId, reference] at horder ⊢
    obtain ⟨hdigits, -⟩ := Option.filter_eq_some_iff.mp horder
    rw [hdigits] at horder
    rw [Option.bind_some, hdigits, Option.some_or, horder]
    exact .inr rfl

/-! ### What the webhooks do -/

theorem orders_of_orderNotice {env : PaymentsRuntime} {s : PaymentStore} {c : PaymentCallback}
    (h : c.orderNotice env = none) : (c.step env s).orders = s.orders := by
  have hnoticed : c.noticedOrder env s = none := by
    unfold PaymentCallback.noticedOrder
    rw [h, Option.bind_none]
  rw [(step_tables env s c).1, hnoticed]
  rfl

theorem snd_run_handleWebhook {toLowerCase : String → String} {env : PaymentRuntime} {refused : Option HttpException}
    {payload : StarpayPayload} {s : OrderStore} (h : (extractOrderId payload).filter (· ≠ 0) = none) :
    (run (handleWebhook toLowerCase env refused payload) s).2 = s := by
  cases refused with
  | some failure => rfl
  | none =>
    unfold handleWebhook tryCompleteOrderFromGatewayResponse
    rw [h]
    rfl

theorem orders_processCallback {env : EbirrRuntime} {now : ℤ} {body : EbirrNotice} {t : EbirrStore} {reference : String}
    (hreference : orText body.referenceId body.merchOrderId = some reference)
    (h : ∀ id tx, t.byReference reference = some (id, tx) → orderIdOf tx reference = none) :
    (run (processCallback env now body) t).2.order.orders = t.order.orders := by
  unfold processCallback
  rw [hreference]
  cases hempty : (some reference).filter (· ≠ "") with
  | none => rfl
  | some refId =>
    obtain ⟨hrefId, -⟩ := Option.filter_eq_some_iff.mp hempty
    obtain rfl : reference = refId := Option.some.inj hrefId
    rw [run_read_bind]
    cases hfound : t.byReference reference with
    | none => rfl
    | some found =>
      obtain ⟨id, tx⟩ := found
      dsimp only
      split_ifs
      · rfl
      · unfold settleCallback
        dsimp only
        rw [h id tx hfound, ite_self]
        rfl

theorem leavesOrders_of_extracted (h : ∀ place, payment.extractedId place = none) : payment.LeavesOrders := by
  have hroot := h .root
  unfold LeavesOrders
  cases hprovider : payment.provider with
  | ebirr =>
    intro env now body t id tx hreference hfound hinvoice
    refine orders_processCallback hreference fun id' tx' hfound' => ?_
    obtain ⟨-, rfl⟩ := Prod.mk.injEq .. ▸ Option.mem_unique hfound hfound'
    unfold orderIdOf
    rw [extractedId_ebirr hprovider] at hroot
    rw [hinvoice]
    exact Option.map_eq_none_iff.mp hroot
  | telebirr =>
    intro env now body s hreference
    rw [extractedId_telebirr hprovider] at hroot
    refine orders_of_orderNotice (c := .telebirr now body) ?_
    have hnumber : Payments.outTradeNoOf body = payment.reference := by
      unfold Payments.outTradeNoOf
      rw [hreference, Option.getD_some]
    unfold PaymentCallback.orderNotice
    dsimp only
    rw [hnumber]
    split_ifs with hboost
    · rw [if_neg hboost.2] at hroot
      rw [hroot, Option.map_none]
    · rfl
  | mpesa =>
    intro callback s hreference
    rw [extractedId_mpesa hprovider] at hroot
    unfold Payments.mpesaCallback
    rw [run_orderCallback, hreference, Option.getD_some, hroot]
    rfl
  | starpay =>
    intro toLowerCase env refused place status message s
    rw [extractedId_starpay hprovider, ← extractOrderId_starpayPayload payment place] at hroot
    rw [snd_run_handleWebhook]
    exact Option.map_eq_none_iff.mp hroot

/-- A payment completes its own order or none exactly when its reference names its order. -/
theorem kept_apart_iff (payment : StartedPayment) : payment.KeptApart ↔ payment.NamesItsOrder := by
  constructor
  · intro h
    have hroot := h.extractedId_eq .root
    cases payment with
    | ebirrOrder | telebirrOrder | mpesaOrder | telebirrBoost | ebirrBoost | activation | branchCreation
    | bnplSettlement | disbursement => exact trivial
    | ebirrRequest request =>
      intro referenceOrder hreference invoiceOrder hinvoice
      have hextracted : (ebirrRequest request).extractedId .root = some (invoiceOrder : ℤ) := by
        rw [extractedId_ebirr rfl]
        dsimp only [invoice, reference]
        rw [Option.mem_def.mp hinvoice, Option.some_or, Option.map_some]
      have horder : (ebirrRequest request).orderId = some referenceOrder := by
        dsimp only [StartedPayment.orderId]
        unfold requestedOrderId
        rw [Option.mem_def.mp hreference, Option.some_or]
      rw [hextracted, horder] at hroot
      have heq := Option.some.inj (hroot.resolve_left (Option.some_ne_none _))
      omega
    | starpayRequest orderId referenceId =>
      by_cases hdigits : (digitsOf (trim orderId)).isSome = true
      · exact Or.inl hdigits
      · refine Or.inr fun number hnumber => ?_
        rw [Option.not_isSome_iff_eq_none] at hdigits
        rw [extractedId_starpay rfl] at hroot
        dsimp only [StartedPayment.orderId, starpayOrderId, reference] at hroot
        rw [Option.bind_some, hdigits, Option.mem_def.mp hnumber, Option.filter_none, Option.map_none,
          or_self, Option.map_eq_none_iff] at hroot
        simpa using Option.filter_eq_none_iff.mp hroot number rfl
    | hotelPrepayment provider reservationId now =>
      intro hprovider
      rw [extractedId_hotelPrepayment, if_pos hprovider] at hroot
      have hnone := hroot.elim id id
      simpa using Option.filter_eq_none_iff.mp hnone reservationId rfl
  · intro hnames
    constructor
    · intro place
      cases horder : payment.orderId with
      | none => exact Or.inl (extractedId_of_noOrder hnames horder place)
      | some orderId => exact extractedId_of_order hnames horder place
    · intro hnone
      exact leavesOrders_of_extracted (extractedId_of_noOrder hnames hnone)

/-- A guest pays for the reservation 7, and the order 7 of somebody else is paid. -/
theorem reservation_completes_order :
    (hotelPrepayment .mpesa 7 1700000000000).orderId = none ∧
    ¬ (hotelPrepayment .mpesa 7 1700000000000).KeptApart ∧
    ¬ unpaidOrder.IsPaid 7 ∧
    (run (Payments.mpesaCallback (some ⟨some 0, (hotelPrepayment .mpesa 7 1700000000000).reference⟩))
      unpaidOrder).2.IsPaid 7 := by
  unfold PaymentStore.IsPaid
  refine ⟨rfl, fun h => ?_, by decide, by decide⟩
  have hroot := h.extractedId_eq .root
  exact hroot.elim (fun h => nomatch h) fun h => nomatch h

end StartedPayment

end SuuqBackend
