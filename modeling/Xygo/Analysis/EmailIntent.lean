import Xygo.Analysis.EmailSpec
import Xygo.Model.EmailQueue

/-!
# What stays of a delivery

The marks of a worker and the events of the provider change the progress of a delivery, never
what it asks for: who is written to, for which tenant, under which key, with which message.
`EmailDelivery.intent` is that part of the record, and a stored delivery can be compared with the
queued one by it. The address in a new delivery is trimmed and in lower case, and stays so.
-/

set_option autoImplicit false

namespace Xygo.Analysis

open Xygo.Computation Xygo.Model

/-- What a delivery asks for: the fields `emailDeliveryIntentMatches` compares.
SOURCE: packages/email-delivery/src/index.js:289-305 -/
structure EmailIntent where
  id : String
  tenantId : String
  recipientUserId : Option String
  recipientEmail : String
  kind : EmailDeliveryKind
  resourceType : Option String
  resourceId : Option String
  idempotencyKey : String
  message : EmailMessage

/-- The intent of a delivery. -/
def EmailDelivery.intent (delivery : EmailDelivery) : EmailIntent where
  id := delivery.id
  tenantId := delivery.tenantId
  recipientUserId := delivery.recipientUserId
  recipientEmail := delivery.recipientEmail
  kind := delivery.kind
  resourceType := delivery.resourceType
  resourceId := delivery.resourceId
  idempotencyKey := delivery.idempotencyKey
  message := delivery.message

open EmailDelivery (intent)

/-- INTERNAL: the comparison of the code compares intents.
SOURCE: packages/email-delivery/src/index.js:289-305 -/
theorem intentMatches_iff {left right : EmailDelivery} :
    emailDeliveryIntentMatches left right = true ↔ intent left = intent right := by
  simp [emailDeliveryIntentMatches, intent, and_assoc]

section

variable {P : Platform} {a b delivery marked : EmailDelivery}

theorem id_of_intent (h : intent a = intent b) : a.id = b.id :=
  congrArg EmailIntent.id h

theorem tenantId_of_intent (h : intent a = intent b) : a.tenantId = b.tenantId :=
  congrArg EmailIntent.tenantId h

theorem recipientEmail_of_intent (h : intent a = intent b) : a.recipientEmail = b.recipientEmail :=
  congrArg EmailIntent.recipientEmail h

theorem idempotencyKey_of_intent (h : intent a = intent b) : a.idempotencyKey = b.idempotencyKey :=
  congrArg EmailIntent.idempotencyKey h

/-- INTERNAL: the checks of a delivery read its intent.
SOURCE: packages/email-delivery/src/index.js:279-287 -/
theorem valid_of_intent (h : intent b = intent a) (hvalid : ValidDelivery P a) :
    ValidDelivery P b :=
  validDelivery_congr P hvalid (id_of_intent h) (tenantId_of_intent h) (recipientEmail_of_intent h)
    (idempotencyKey_of_intent h)

/-- INTERNAL: every mark leaves a finished delivery as it is.
SOURCE: packages/email-delivery/src/index.js:309, 321, 337, 349 -/
theorem marked_terminal {rest : Except JsError EmailDelivery}
    (hterm : delivery.status.isTerminal = true)
    (h : (do
      let _ ← assertEmailDelivery P delivery
      if delivery.status.isTerminal then return delivery
      rest) = .ok marked) : marked = delivery := by
  obtain ⟨_, -, hrest⟩ := bind_eq_ok.mp h
  simp only [hterm, if_true] at hrest
  exact (Except.ok.inj hrest).symm

theorem ne_accepted_of_terminal {status : EmailDeliveryStatus} (h : status.isTerminal = true) :
    status ≠ .accepted := by
  rintro rfl
  cases h

/-- INTERNAL: the mark as sending keeps the intent.
SOURCE: packages/email-delivery/src/index.js:307-317 -/
theorem intent_markSending {attempt : Nat} {now : Int}
    (h : markEmailDeliverySending P delivery attempt now = .ok marked) :
    intent marked = intent delivery := by
  cases hterm : delivery.status.isTerminal with
  | false =>
    obtain rfl := markSending_eq_ok hterm h
    rfl
  | true =>
    obtain rfl := marked_terminal hterm h
    rfl

/-- INTERNAL: the mark as accepted keeps the intent.
SOURCE: packages/email-delivery/src/index.js:319-333 -/
theorem intent_markAccepted {provider id : String} {now : Int}
    (h : markEmailDeliveryAccepted P delivery provider id now = .ok marked) :
    intent marked = intent delivery := by
  cases hterm : delivery.status.isTerminal with
  | false =>
    obtain ⟨provider', id', rfl⟩ := markAccepted_eq_ok hterm h
    rfl
  | true =>
    obtain rfl := marked_terminal hterm h
    rfl

/-- INTERNAL: the mark as failed keeps the intent.
SOURCE: packages/email-delivery/src/index.js:335-345 -/
theorem intent_markFailed {error : JsError} {attempt : Nat} {now : Int}
    (h : markEmailDeliveryFailed P delivery error attempt now = .ok marked) :
    intent marked = intent delivery := by
  cases hterm : delivery.status.isTerminal with
  | false =>
    obtain rfl := markFailed_eq_ok hterm h
    rfl
  | true =>
    obtain rfl := marked_terminal hterm h
    rfl

/-- INTERNAL: the mark as suppressed keeps the intent.
SOURCE: packages/email-delivery/src/index.js:347-363 -/
theorem intent_markSuppressed {suppression : EmailSuppression} {attempt : Nat} {now : Int}
    (h : markEmailDeliverySuppressed P delivery suppression attempt now = .ok marked) :
    intent marked = intent delivery := by
  cases hterm : delivery.status.isTerminal with
  | false =>
    obtain ⟨reason, rfl⟩ := markSuppressed_eq_ok hterm h
    rfl
  | true =>
    obtain rfl := marked_terminal hterm h
    rfl

/-- INTERNAL: an event of the provider keeps the intent.
SOURCE: packages/email-delivery/src/index.js:365-385 -/
theorem intent_applyStatus {event : WebhookEvent}
    (h : applyEmailWebhookStatus P delivery event = .ok marked) :
    intent marked = intent delivery := by
  obtain rfl | ⟨status, occurredAt, -, -, -, rfl⟩ := applyStatus_eq_ok h
  · rfl
  · rfl

end

/-- INTERNAL: what is trimmed has nothing more to trim. -/
theorem trim_trim (value : String) : trim (trim value) = trim value := by
  unfold trim
  rw [String.toList_ofList]
  have hright : ∀ l : List Char, (l.reverse.dropWhile isWhitespace).reverse =
      l.rdropWhile isWhitespace := fun l => rfl
  rw [hright, hright]
  have hleft : ((value.toList.dropWhile isWhitespace).rdropWhile isWhitespace).dropWhile
      isWhitespace = (value.toList.dropWhile isWhitespace).rdropWhile isWhitespace := by
    rw [List.dropWhile_eq_self_iff]
    intro hne
    have hbegins : (value.toList.dropWhile isWhitespace).rdropWhile isWhitespace <+:
        value.toList.dropWhile isWhitespace := List.rdropWhile_prefix isWhitespace _
    rw [hbegins.getElem hne]
    exact List.dropWhile_get_zero_not _ _ (Nat.lt_of_lt_of_le hne hbegins.length_le)
  rw [hleft, List.rdropWhile_idempotent]

/-- What `String.prototype.toLowerCase` does, as far as addresses need it: a second call changes
nothing, and it neither makes nor removes white space at the ends of a trimmed text. -/
structure LowercaseLaws (P : Platform) : Prop where
  idempotent : ∀ value, P.toLowerCase (P.toLowerCase value) = P.toLowerCase value
  trimmed : ∀ value, trim (P.toLowerCase (trim value)) = P.toLowerCase (trim value)

/-- INTERNAL: a normalized address is normal.
SOURCE: packages/email-delivery/src/index.js:61-65 -/
theorem normalAddress_normal {P : Platform} (laws : LowercaseLaws P) (value : String) :
    normalAddress P (normalAddress P value) = normalAddress P value := by
  unfold normalAddress
  rw [laws.trimmed, laws.idempotent]

/-- A delivery as it is queued and kept: it is valid, and its address is normal.
SOURCE: packages/email-delivery/src/index.js:169, 251 -/
structure Queued (P : Platform) (delivery : EmailDelivery) : Prop where
  valid : ValidDelivery P delivery
  normal : normalAddress P delivery.recipientEmail = delivery.recipientEmail

/-- INTERNAL: being queued reads the intent. -/
theorem Queued.of_intent {P : Platform} {a b : EmailDelivery} (ha : Queued P a)
    (h : intent b = intent a) : Queued P b := by
  refine ⟨valid_of_intent h ha.valid, ?_⟩
  rw [recipientEmail_of_intent h]
  exact ha.normal

/-- INTERNAL: the address and the key of a new delivery.
SOURCE: packages/email-delivery/src/index.js:167-204 -/
theorem createEmailDelivery_ok {P : Platform} {parseUrl : String → Option ParsedUrl}
    {input : EmailDeliveryInput} {id : String} {now : Int} {delivery : EmailDelivery}
    (h : Email.createEmailDelivery parseUrl P input id now = .ok delivery) :
    delivery.recipientEmail = normalAddress P input.recipientEmail ∧
      trim delivery.idempotencyKey = delivery.idempotencyKey := by
  obtain ⟨tenantId, -, h⟩ := bind_eq_ok.mp h
  obtain ⟨recipientEmail, haddress, h⟩ := bind_eq_ok.mp h
  obtain ⟨message, -, h⟩ := bind_eq_ok.mp h
  obtain ⟨createdAt, -, h⟩ := bind_eq_ok.mp h
  obtain ⟨deliveryId, -, h⟩ := bind_eq_ok.mp h
  obtain ⟨idempotencyKey, hkey, h⟩ := bind_eq_ok.mp h
  obtain ⟨recipientUserId, -, h⟩ := bind_eq_ok.mp h
  obtain ⟨resourceType, -, h⟩ := bind_eq_ok.mp h
  obtain ⟨resourceId, -, h⟩ := bind_eq_ok.mp h
  obtain rfl := Except.ok.inj h
  constructor
  · exact ((emailAddress_eq_ok P).mp haddress).2.2
  · obtain ⟨normalized, hrequired, hline⟩ := bind_eq_ok.mp hkey
    obtain ⟨-, rfl⟩ := requiredString_eq_ok.mp hrequired
    dsimp only at hline ⊢
    split at hline
    · cases hline
    · obtain rfl := Except.ok.inj hline
      exact trim_trim _

end Xygo.Analysis
