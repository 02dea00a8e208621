import Xygo.Model.Service

/-!
# What the operations on email deliveries do

One lemma for each operation: what a mark makes of a record, and which of the stores of the
repository an operation writes. The proofs about runs use these and unfold no operation
again.
-/

set_option autoImplicit false

namespace Xygo.Analysis

open Xygo.Computation Xygo.Model

/-- A text `requiredString` takes: it is not blank, at most so long, and printable.
SOURCE: packages/email-delivery/src/index.js:46-53 -/
structure Required (maximum : Nat) (value : String) : Prop where
  nonempty : trim value ≠ ""
  short : utf16Length (trim value) ≤ maximum
  printable : (trim value).toList.any Email.isForbidden = false

/-- INTERNAL: `requiredString` gives the trimmed text, whatever its label.
SOURCE: packages/email-delivery/src/index.js:46-53 -/
theorem requiredString_eq_ok {value label normalized : String} {maximum : Nat} :
    Email.requiredString value label maximum = .ok normalized ↔
      Required maximum value ∧ normalized = trim value := by
  unfold Email.requiredString
  dsimp only
  constructor
  · intro h
    split at h
    · cases h
    · rename_i hnonempty
      split at h
      · cases h
      · rename_i hfits
        rw [not_or, Nat.not_lt] at hfits
        exact ⟨⟨hnonempty, hfits.1, by simpa using hfits.2⟩, (Except.ok.inj h).symm⟩
  · rintro ⟨hvalue, rfl⟩
    rw [if_neg hvalue.nonempty, if_neg]
    rw [not_or, Nat.not_lt, Bool.not_eq_true]
    exact ⟨hvalue.short, hvalue.printable⟩

section

variable (P : Platform)

/-- The address `emailAddress` makes of a text.
SOURCE: packages/email-delivery/src/index.js:61-65 -/
def normalAddress (value : String) : String := P.toLowerCase (trim value)

/-- INTERNAL: `emailAddress` gives the trimmed address in lower case, whatever its label.
SOURCE: packages/email-delivery/src/index.js:61-65 -/
theorem emailAddress_eq_ok {value label normalized : String} :
    Email.emailAddress P value label = .ok normalized ↔
      Required 320 value ∧ Email.isAddress (normalAddress P value) = true ∧
        normalized = normalAddress P value := by
  unfold Email.emailAddress normalAddress
  rw [bind_eq_ok]
  constructor
  · rintro ⟨text, htext, hrest⟩
    obtain ⟨hrequired, rfl⟩ := requiredString_eq_ok.mp htext
    dsimp only at hrest
    split at hrest
    · rename_i haddress
      exact ⟨hrequired, haddress, (Except.ok.inj hrest).symm⟩
    · cases hrest
  · rintro ⟨hrequired, haddress, rfl⟩
    refine ⟨trim value, requiredString_eq_ok.mpr ⟨hrequired, rfl⟩, ?_⟩
    rw [if_pos haddress]
    rfl

/-- A delivery that passes `assertEmailDelivery`.
SOURCE: packages/email-delivery/src/index.js:279-287 -/
structure ValidDelivery (delivery : EmailDelivery) : Prop where
  id : Required 200 delivery.id
  tenantId : Required 200 delivery.tenantId
  recipientEmail : Required 320 delivery.recipientEmail
  address : Email.isAddress (normalAddress P delivery.recipientEmail) = true
  idempotencyKey : Required 256 delivery.idempotencyKey

/-- INTERNAL: `assertEmailDelivery` gives the delivery back.
SOURCE: packages/email-delivery/src/index.js:279-287 -/
theorem assertEmailDelivery_eq_ok {delivery checked : EmailDelivery} :
    assertEmailDelivery P delivery = .ok checked ↔
      ValidDelivery P delivery ∧ checked = delivery := by
  unfold assertEmailDelivery
  constructor
  · intro h
    obtain ⟨_, hid, hrest⟩ := bind_eq_ok.mp h
    obtain ⟨_, htenant, hrest⟩ := bind_eq_ok.mp hrest
    obtain ⟨_, hemail, hrest⟩ := bind_eq_ok.mp hrest
    obtain ⟨_, hkey, hret⟩ := bind_eq_ok.mp hrest
    obtain ⟨hrequired, haddress, -⟩ := (emailAddress_eq_ok P).mp hemail
    exact ⟨⟨(requiredString_eq_ok.mp hid).1, (requiredString_eq_ok.mp htenant).1, hrequired,
      haddress, (requiredString_eq_ok.mp hkey).1⟩, (Except.ok.inj hret).symm⟩
  · rintro ⟨hvalid, rfl⟩
    rw [requiredString_eq_ok.mpr ⟨hvalid.id, rfl⟩, requiredString_eq_ok.mpr ⟨hvalid.tenantId, rfl⟩,
      (emailAddress_eq_ok P).mpr ⟨hvalid.recipientEmail, hvalid.address, rfl⟩,
      requiredString_eq_ok.mpr ⟨hvalid.idempotencyKey, rfl⟩]
    rfl

/-- INTERNAL: the checks of a delivery read four of its fields.
SOURCE: packages/email-delivery/src/index.js:279-287 -/
theorem validDelivery_congr {a b : EmailDelivery} (h : ValidDelivery P a)
    (hid : b.id = a.id) (htenant : b.tenantId = a.tenantId)
    (hemail : b.recipientEmail = a.recipientEmail) (hkey : b.idempotencyKey = a.idempotencyKey) :
    ValidDelivery P b := by
  obtain ⟨h1, h2, h3, h4, h5⟩ := h
  rw [← hid] at h1
  rw [← htenant] at h2
  rw [← hemail] at h3 h4
  rw [← hkey] at h5
  exact ⟨h1, h2, h3, h4, h5⟩

end

section

variable {P : Platform} {delivery marked : EmailDelivery}

/-- INTERNAL: a text that is required is not empty.
SOURCE: packages/email-delivery/src/index.js:47 -/
theorem Required.ne_empty {maximum : Nat} {value : String} (h : Required maximum value) :
    value ≠ "" := by
  rintro rfl
  exact h.nonempty (by decide)

/-- INTERNAL: there is evidence on every valid delivery, under the id its suffix gives, in its
tenant and on it.
SOURCE: packages/email-delivery/src/index.js:218-242 -/
theorem emailAudit_ok (options : EmailAuditOptions) (hvalid : ValidDelivery P delivery)
    (haction : options.action ≠ "") (previousHash : Option String) :
    ∃ event, createEmailDeliveryAuditEvent P delivery options previousHash = .ok event ∧
      event.eventId = some (delivery.id ++ "-" ++ options.suffix ++ "-audit") ∧
      event.tenantId = delivery.tenantId ∧ event.action = options.action ∧
      event.resourceId = delivery.id := by
  unfold createEmailDeliveryAuditEvent
  rw [(assertEmailDelivery_eq_ok P).mpr ⟨hvalid, rfl⟩]
  simp only [bind, Except.bind, createAuditEvent]
  rw [if_neg (by simp [hvalid.tenantId.ne_empty, haction, hvalid.id.ne_empty])]
  exact ⟨_, rfl, rfl, rfl, rfl, rfl⟩

/-- INTERNAL: a mark of a delivery that is not finished as sending.
SOURCE: packages/email-delivery/src/index.js:307-317 -/
theorem markSending_eq_ok {attempt : Nat} {now : Int}
    (unfinished : delivery.status.isTerminal = false)
    (h : markEmailDeliverySending P delivery attempt now = .ok marked) :
    marked = delivery.sending attempt now := by
  obtain ⟨_, -, hrest⟩ := bind_eq_ok.mp h
  simp only [unfinished, Bool.false_eq_true, if_false] at hrest
  obtain ⟨t, ht, hret⟩ := bind_eq_ok.mp hrest
  obtain ⟨rfl, -⟩ := toISOString_eq_ok ht
  exact (Except.ok.inj hret).symm

/-- INTERNAL: a mark of a delivery that is not finished as accepted.
SOURCE: packages/email-delivery/src/index.js:319-333 -/
theorem markAccepted_eq_ok {provider id : String} {now : Int}
    (unfinished : delivery.status.isTerminal = false)
    (h : markEmailDeliveryAccepted P delivery provider id now = .ok marked) :
    ∃ provider' id', marked = delivery.accepted provider' id' now := by
  obtain ⟨_, -, hrest⟩ := bind_eq_ok.mp h
  simp only [unfinished, Bool.false_eq_true, if_false] at hrest
  obtain ⟨t, ht, hrest'⟩ := bind_eq_ok.mp hrest
  obtain ⟨rfl, -⟩ := toISOString_eq_ok ht
  obtain ⟨provider', -, hlast⟩ := bind_eq_ok.mp hrest'
  obtain ⟨id', -, hret⟩ := bind_eq_ok.mp hlast
  exact ⟨provider', id', (Except.ok.inj hret).symm⟩

/-- INTERNAL: a mark of a delivery that is not finished as failed.
SOURCE: packages/email-delivery/src/index.js:335-345 -/
theorem markFailed_eq_ok {error : JsError} {attempt : Nat} {now : Int}
    (unfinished : delivery.status.isTerminal = false)
    (h : markEmailDeliveryFailed P delivery error attempt now = .ok marked) :
    marked = delivery.failed error attempt now := by
  obtain ⟨_, -, hrest⟩ := bind_eq_ok.mp h
  simp only [unfinished, Bool.false_eq_true, if_false] at hrest
  obtain ⟨t, ht, hret⟩ := bind_eq_ok.mp hrest
  obtain ⟨rfl, -⟩ := toISOString_eq_ok ht
  exact (Except.ok.inj hret).symm

/-- INTERNAL: a mark as suppressed keeps the id.
SOURCE: packages/email-delivery/src/index.js:347-363 -/
theorem markSuppressed_eq_ok {suppression : EmailSuppression} {attempt : Nat} {now : Int}
    (unfinished : delivery.status.isTerminal = false)
    (h : markEmailDeliverySuppressed P delivery suppression attempt now = .ok marked) :
    ∃ reason, marked = delivery.suppressed reason attempt now := by
  obtain ⟨_, -, hrest⟩ := bind_eq_ok.mp h
  simp only [unfinished, Bool.false_eq_true, if_false] at hrest
  split at hrest
  · cases hrest
  · obtain ⟨recipient, -, hrest'⟩ := bind_eq_ok.mp hrest
    split at hrest'
    · cases hrest'
    · obtain ⟨t, ht, hlast⟩ := bind_eq_ok.mp hrest'
      obtain ⟨rfl, -⟩ := toISOString_eq_ok ht
      obtain ⟨reason, -, hret⟩ := bind_eq_ok.mp hlast
      exact ⟨reason, (Except.ok.inj hret).symm⟩

/-- INTERNAL: a provider event leaves a delivery as it is, or is tracked and not older than
its status and makes it the record after the event.
SOURCE: packages/email-delivery/src/index.js:365-385 -/
theorem applyStatus_eq_ok {event : WebhookEvent}
    (h : applyEmailWebhookStatus P delivery event = .ok marked) :
    marked = delivery ∨ ∃ status occurredAt, webhookStatus event.type = some status ∧
      event.occurredAt = .ok occurredAt ∧ delivery.isStale occurredAt = false ∧
      marked = delivery.afterEvent event status occurredAt := by
  obtain ⟨_, -, hrest⟩ := bind_eq_ok.mp h
  cases hstatus : webhookStatus event.type with
  | none =>
    rw [hstatus] at hrest
    exact Or.inl (Except.ok.inj hrest).symm
  | some status =>
    simp only [hstatus] at hrest
    split at hrest
    · cases hrest
    · obtain ⟨occurredAt, hocc, hlast⟩ := bind_eq_ok.mp hrest
      split at hlast
      · exact Or.inl (Except.ok.inj hlast).symm
      · rename_i hstale
        exact Or.inr ⟨status, occurredAt, rfl, hocc, by simpa using hstale,
          (Except.ok.inj hlast).symm⟩

/-- INTERNAL: a provider event is applied to a valid delivery, and gives a valid one about the
same message.
SOURCE: packages/email-delivery/src/index.js:365-385 -/
theorem valid_of_applyStatus {event : WebhookEvent}
    (h : applyEmailWebhookStatus P delivery event = .ok marked) :
    ValidDelivery P marked ∧ marked.providerMessageId = delivery.providerMessageId := by
  obtain ⟨checked, hvalid, -⟩ := bind_eq_ok.mp h
  obtain ⟨hvalid, rfl⟩ := (assertEmailDelivery_eq_ok P).mp hvalid
  obtain rfl | ⟨status, occurredAt, -, -, -, rfl⟩ := applyStatus_eq_ok h
  · exact ⟨hvalid, rfl⟩
  · exact ⟨validDelivery_congr P hvalid rfl rfl rfl rfl, rfl⟩

/-- INTERNAL: an event that suppresses the recipient is a tracked one, and was applied only if
it has a time.
SOURCE: packages/email-delivery/src/index.js:29-44, 370-371 -/
theorem occurredAt_of_applyStatus {event : WebhookEvent} {reason : String}
    (h : applyEmailWebhookStatus P delivery event = .ok marked)
    (hreason : suppressionReason event.type = some reason) :
    ∃ occurredAt, event.occurredAt = .ok occurredAt := by
  obtain ⟨status, hstatus⟩ : ∃ status, webhookStatus event.type = some status := by
    unfold suppressionReason at hreason
    split at hreason <;> simp_all [webhookStatus]
  obtain ⟨_, -, hrest⟩ := bind_eq_ok.mp h
  simp only [hstatus] at hrest
  split at hrest
  · cases hrest
  · obtain ⟨occurredAt, hocc, -⟩ := bind_eq_ok.mp hrest
    exact ⟨occurredAt, hocc⟩

/-- What a suppression takes from its delivery and its webhook.
SOURCE: packages/email-delivery/src/index.js:84-100 -/
structure SuppressionOf (P : Platform) (delivery : EmailDelivery) (reason : String)
    (suppression : EmailSuppression) : Prop where
  tenantId : suppression.tenantId = delivery.tenantId
  recipient : suppression.normalizedRecipient = normalAddress P delivery.recipientEmail
  reason : suppression.reason = reason

/-- INTERNAL: an event that suppresses nobody.
SOURCE: packages/email-delivery/src/index.js:72-76 -/
theorem createSuppression_none {event : WebhookEvent} {webhookId : String}
    (hvalid : ValidDelivery P delivery) (hreason : suppressionReason event.type = none) :
    createEmailSuppressionFromWebhook P delivery event webhookId = .ok none := by
  unfold createEmailSuppressionFromWebhook
  rw [(assertEmailDelivery_eq_ok P).mpr ⟨hvalid, rfl⟩]
  simp [bind, Except.bind, hreason, pure, Except.pure]

/-- INTERNAL: an event that suppresses the recipient, under a usable webhook id.
SOURCE: packages/email-delivery/src/index.js:71-101 -/
theorem createSuppression_some {event : WebhookEvent} {webhookId reason : String}
    {occurredAt : Int} (hvalid : ValidDelivery P delivery)
    (hreason : suppressionReason event.type = some reason)
    (hmessage : delivery.hasMessage event.emailId = true)
    (hocc : event.occurredAt = .ok occurredAt) (hid : Required 200 webhookId) :
    ∃ incoming,
      createEmailSuppressionFromWebhook P delivery event webhookId = .ok (some incoming) ∧
        SuppressionOf P delivery reason incoming := by
  have hprovider : Email.requiredString "resend" "Email suppression provider" 100 =
      .ok "resend" := by
    decide
  unfold createEmailSuppressionFromWebhook
  rw [(assertEmailDelivery_eq_ok P).mpr ⟨hvalid, rfl⟩]
  simp only [bind, Except.bind, hreason, hmessage, hocc, Bool.not_true, Bool.false_eq_true, if_false,
    normalizeEmailRecipient,
    (emailAddress_eq_ok P).mpr ⟨hvalid.recipientEmail, hvalid.address, rfl⟩, hprovider,
    requiredString_eq_ok.mpr ⟨hid, rfl⟩]
  exact ⟨_, rfl, rfl, rfl, rfl⟩

/-- INTERNAL: a suppression is created under a usable webhook id only, from its delivery.
SOURCE: packages/email-delivery/src/index.js:71-101 -/
theorem createSuppression_eq_some {event : WebhookEvent} {webhookId reason : String}
    {created : Option EmailSuppression} (hreason : suppressionReason event.type = some reason)
    (h : createEmailSuppressionFromWebhook P delivery event webhookId = .ok created) :
    Required 200 webhookId ∧
      ∃ incoming, created = some incoming ∧ SuppressionOf P delivery reason incoming := by
  obtain ⟨_, -, hrest⟩ := bind_eq_ok.mp h
  simp only [hreason] at hrest
  split at hrest
  · cases hrest
  · obtain ⟨occurredAt, -, hrest⟩ := bind_eq_ok.mp hrest
    obtain ⟨recipient, hrecipient, hrest⟩ := bind_eq_ok.mp hrest
    obtain ⟨provider, -, hrest⟩ := bind_eq_ok.mp hrest
    obtain ⟨providerEventId, hid, hret⟩ := bind_eq_ok.mp hrest
    obtain rfl := Except.ok.inj hret
    obtain ⟨-, -, rfl⟩ := (emailAddress_eq_ok P).mp hrecipient
    exact ⟨(requiredString_eq_ok.mp hid).1, _, rfl, rfl, rfl, rfl⟩

/-- INTERNAL: a suppression merges with one of the same tenant and recipient.
SOURCE: packages/email-delivery/src/index.js:103-110 -/
theorem merge_ok {existing : Option EmailSuppression} {incoming : EmailSuppression}
    (h : ∀ e, existing = some e →
      e.tenantId = incoming.tenantId ∧ e.normalizedRecipient = incoming.normalizedRecipient) :
    ∃ merged, mergeEmailSuppression existing incoming = .ok merged := by
  cases existing with
  | none => exact ⟨incoming, rfl⟩
  | some e =>
    obtain ⟨htenant, hrecipient⟩ := h e rfl
    unfold mergeEmailSuppression
    simp only [htenant, hrecipient, ne_eq, not_true_eq_false, or_self, if_false]
    split
    · exact ⟨e, rfl⟩
    · exact ⟨_, rfl⟩

/-- INTERNAL: a provider event keeps the id.
SOURCE: packages/email-delivery/src/index.js:365-385 -/
theorem id_of_applyStatus {event : WebhookEvent}
    (h : applyEmailWebhookStatus P delivery event = .ok marked) : marked.id = delivery.id := by
  obtain rfl | ⟨status, occurredAt, -, -, -, rfl⟩ := applyStatus_eq_ok h
  · rfl
  · rfl

end

/-- INTERNAL: the evidence of an operation touches the audit events only.
SOURCE: apps/api/src/repositories/memory.js:304, 322 -/
theorem exec_pushEvidence (event : Option AuditEvent) (r : MemoryRepository) :
    ∃ events, Effect.exec (pushEvidence event) r =
      (.ok (), { r with auditEventStore := r.auditEventStore ++ events }) ∧
      (events = [] ∨ ∃ e, event = some e ∧ events = [e]) := by
  cases event with
  | none => exact ⟨[], by simp [pushEvidence], Or.inl rfl⟩
  | some e =>
    cases hstored : r.auditEventStore.any fun stored => stored.eventId = e.eventId with
    | true => exact ⟨[], by simp [pushEvidence, -List.any_eq_true, hstored], Or.inl rfl⟩
    | false =>
      exact ⟨[e], by simp [pushEvidence, -List.any_eq_false, -List.any_eq_true, hstored],
        Or.inr ⟨e, rfl, rfl⟩⟩

/-- INTERNAL: evidence with a new id is appended.
SOURCE: apps/api/src/repositories/memory.js:304, 322 -/
theorem exec_pushEvidence_new {r : MemoryRepository} {event : AuditEvent}
    (hnew : ∀ stored ∈ r.auditEventStore, stored.eventId ≠ event.eventId) :
    Effect.exec (pushEvidence (some event)) r =
      (.ok (), { r with auditEventStore := r.auditEventStore ++ [event] }) := by
  have hfresh : (r.auditEventStore.any fun stored => stored.eventId = event.eventId) = false :=
    List.any_eq_false.mpr fun stored hmem => by simpa using hnew stored hmem
  simp [pushEvidence, -List.any_eq_false, -List.any_eq_true, hfresh]

/-- INTERNAL: what saving a delivery does.
SOURCE: apps/api/src/repositories/memory.js:294-298 -/
theorem exec_saveEmailDelivery (delivery : EmailDelivery) (r : MemoryRepository) :
    Effect.exec (saveEmailDelivery delivery) r =
      if r.emailDeliveryStore.has delivery.id then
        (.ok delivery, { r with emailDeliveryStore := r.emailDeliveryStore.put delivery })
      else (.error deliveryNotFound, r) := by
  cases h : r.emailDeliveryStore.has delivery.id <;> simp [saveEmailDelivery, h]

/-- INTERNAL: finalizing a delivery stores it and appends at most the evidence that follows
the tenant's last event.
SOURCE: apps/api/src/repositories/memory.js:299-306 -/
theorem exec_finalizeEmailDelivery (delivery : EmailDelivery) (evidence : Evidence)
    (r : MemoryRepository) :
    (Effect.exec (finalizeEmailDelivery delivery evidence) r = (.error deliveryNotFound, r)) ∨
    ∃ result events,
      Effect.exec (finalizeEmailDelivery delivery evidence) r =
        (result, { r with
          emailDeliveryStore := r.emailDeliveryStore.put delivery
          auditEventStore := r.auditEventStore ++ events }) ∧
      (events = [] ∨ ∃ e, evidence.resolve (r.lastEventHash delivery.tenantId) = .ok (some e) ∧
        events = [e]) := by
  cases hhas : r.emailDeliveryStore.has delivery.id with
  | false => exact Or.inl (by simp [finalizeEmailDelivery, hhas])
  | true =>
    right
    cases hres : evidence.resolve (r.lastEventHash delivery.tenantId) with
    | error e =>
      exact ⟨.error e, [], by simp [finalizeEmailDelivery, hhas, hres], Or.inl rfl⟩
    | ok event =>
      obtain ⟨events, hpush, hevents⟩ := exec_pushEvidence event
        { r with emailDeliveryStore := r.emailDeliveryStore.put delivery }
      refine ⟨.ok delivery, events, by simp [finalizeEmailDelivery, hhas, hres, hpush], ?_⟩
      obtain rfl | ⟨e, rfl, rfl⟩ := hevents
      · exact Or.inl rfl
      · exact Or.inr ⟨e, rfl, rfl⟩

/-- INTERNAL: the suppression of a webhook touches the suppression list only.
SOURCE: apps/api/src/repositories/memory.js:314-318 -/
theorem exec_putSuppression (P : Platform) (delivery : EmailDelivery) (event : WebhookEvent)
    (webhookId : String) (r : MemoryRepository) :
    ∃ result suppressions, Effect.exec (putSuppression P delivery event webhookId) r =
      (result, { r with emailSuppressionStore := suppressions }) := by
  cases hnew : createEmailSuppressionFromWebhook P delivery event webhookId with
  | error e => exact ⟨.error e, _, by simp [putSuppression, hnew]; rfl⟩
  | ok incoming =>
    cases incoming with
    | none => exact ⟨.ok (), _, by simp [putSuppression, hnew]; rfl⟩
    | some incoming =>
      cases hmerge : mergeEmailSuppression (r.emailSuppressionStore.get incoming.storeKey)
          incoming with
      | error e => exact ⟨.error e, _, by simp [putSuppression, hnew, hmerge]; rfl⟩
      | ok merged => exact ⟨.ok (), _, by simp [putSuppression, hnew, hmerge]; rfl⟩

/-- What a webhook that updates a delivery leaves in the repository: the updated delivery, and
at most its own id among the webhooks and its own evidence among the audit events. -/
structure WebhookEffect (r t : MemoryRepository) (webhookId : String) (evidence : Evidence)
    (updated : EmailDelivery) : Prop where
  deliveries : t.emailDeliveryStore = r.emailDeliveryStore.put updated
  webhooks : ∀ k, t.emailWebhookEventStore.has k = true →
    k = webhookId ∨ r.emailWebhookEventStore.has k = true
  audit : t.auditEventStore = r.auditEventStore ∨
    ∃ e, evidence.resolve (r.lastEventHash updated.tenantId) = .ok (some e) ∧
      t.auditEventStore = r.auditEventStore ++ [e]

/-- INTERNAL: the ways a webhook can end: nothing changes, or the delivery of its message is
updated.
SOURCE: apps/api/src/repositories/memory.js:307-324 -/
theorem exec_applyEmailWebhook (P : Platform) (webhookId : String) (event : WebhookEvent)
    (evidence : EmailDelivery → Evidence) (r : MemoryRepository) :
    ((Effect.exec (applyEmailWebhook P webhookId event evidence) r).2 = r ∧
      (r.emailWebhookEventStore.has webhookId = true ∨
        r.deliveryOfMessage event.emailId = none ∨
        ∃ delivery e, r.deliveryOfMessage event.emailId = some delivery ∧
          applyEmailWebhookStatus P delivery event = .error e)) ∨
    ∃ delivery updated, r.emailWebhookEventStore.has webhookId = false ∧
      r.deliveryOfMessage event.emailId = some delivery ∧
      applyEmailWebhookStatus P delivery event = .ok updated ∧
      WebhookEffect r (Effect.exec (applyEmailWebhook P webhookId event evidence) r).2 webhookId
        (evidence updated) updated := by
  cases hdup : r.emailWebhookEventStore.has webhookId with
  | true => exact Or.inl ⟨by simp [applyEmailWebhook, hdup], Or.inl rfl⟩
  | false =>
    cases hfound : r.deliveryOfMessage event.emailId with
    | none =>
      exact Or.inl ⟨by simp [applyEmailWebhook, hdup, hfound], Or.inr (Or.inl rfl)⟩
    | some delivery =>
      cases happly : applyEmailWebhookStatus P delivery event with
      | error e =>
        exact Or.inl ⟨by simp [applyEmailWebhook, hdup, hfound, happly],
          Or.inr (Or.inr ⟨delivery, e, rfl, happly⟩)⟩
      | ok updated =>
        right
        refine ⟨delivery, updated, rfl, rfl, happly, ?_⟩
        obtain ⟨result, suppressions, hput⟩ := exec_putSuppression P updated event webhookId
          { r with emailDeliveryStore := r.emailDeliveryStore.put updated }
        cases result with
        | error e =>
          constructor
          · simp [applyEmailWebhook, hdup, hfound, happly, hput]
          · intro k hk
            exact Or.inr (by simpa [applyEmailWebhook, hdup, hfound, happly, hput] using hk)
          · exact Or.inl (by simp [applyEmailWebhook, hdup, hfound, happly, hput])
        | ok _ =>
          cases hres : (evidence updated).resolve (r.lastEventHash updated.tenantId) with
          | error e =>
            constructor
            · simp [applyEmailWebhook, hdup, hfound, happly, hput, hres]
            · intro k hk
              simpa [applyEmailWebhook, hdup, hfound, happly, hput, hres] using hk
            · exact Or.inl (by simp [applyEmailWebhook, hdup, hfound, happly, hput, hres])
          | ok auditEvent =>
            obtain ⟨events, hpush, hevents⟩ := exec_pushEvidence auditEvent
              { r with
                emailDeliveryStore := r.emailDeliveryStore.put updated
                emailSuppressionStore := suppressions
                emailWebhookEventStore :=
                  r.emailWebhookEventStore.put ⟨webhookId, updated.tenantId, event⟩ }
            constructor
            · simp [applyEmailWebhook, hdup, hfound, happly, hput, hres, hpush]
            · intro k hk
              simpa [applyEmailWebhook, hdup, hfound, happly, hput, hres, hpush] using hk
            · obtain rfl | ⟨e, rfl, rfl⟩ := hevents
              · exact Or.inl (by simp [applyEmailWebhook, hdup, hfound, happly, hput, hres, hpush])
              · exact Or.inr ⟨e, hres, by
                  simp [applyEmailWebhook, hdup, hfound, happly, hput, hres, hpush]⟩

/-- INTERNAL: a delivery found by its message is the stored one.
SOURCE: apps/api/src/repositories/memory.js:309-311 -/
theorem get_of_deliveryOfMessage {r : MemoryRepository} {emailId : Option String}
    {delivery : EmailDelivery} (h : r.deliveryOfMessage emailId = some delivery) :
    r.emailDeliveryStore.get delivery.id = some delivery :=
  Table.get_key (List.mem_of_find?_eq_some h)

/-- INTERNAL: a delivery found by a message has the message.
SOURCE: apps/api/src/repositories/memory.js:309-311 -/
theorem hasMessage_of_deliveryOfMessage {r : MemoryRepository} {emailId : Option String}
    {delivery : EmailDelivery} (h : r.deliveryOfMessage emailId = some delivery) :
    delivery.hasMessage emailId = true :=
  List.find?_some (p := fun delivery : EmailDelivery => delivery.hasMessage emailId) h

/-- INTERNAL: the ways a verified webhook can end.
SOURCE: apps/api/src/email-webhook.js:14-44 -/
theorem exec_handleEmailWebhook (E : Environment) (webhookId : String) (event : WebhookEvent)
    (r : MemoryRepository) :
    (Effect.exec (handleEmailWebhook E webhookId event) r).2 = r ∨
    ∃ status delivery updated, r.emailWebhookEventStore.has webhookId = false ∧
      r.deliveryOfMessage event.emailId = some delivery ∧
      applyEmailWebhookStatus E.platform delivery event = .ok updated ∧
      WebhookEffect r (Effect.exec (handleEmailWebhook E webhookId event) r).2 webhookId
        (webhookEvidence E webhookId event status updated) updated := by
  cases hstatus : webhookStatus event.type with
  | none => exact Or.inl (by simp [handleEmailWebhook, hstatus])
  | some status =>
    by_cases hid : event.emailId.getD "" = ""
    · exact Or.inl (by simp [handleEmailWebhook, hstatus, hid])
    · have hstore : (Effect.exec (handleEmailWebhook E webhookId event) r).2 =
          (Effect.exec (applyEmailWebhook E.platform webhookId event
            (webhookEvidence E webhookId event status)) r).2 := by
        simp only [handleEmailWebhook, hstatus, hid, if_false]
        exact Effect.store_bind _ (fun _ _ => rfl) r
      rw [hstore]
      obtain ⟨hsame, -⟩ | ⟨delivery, updated, hnew, hfound, happly, heffect⟩ :=
        exec_applyEmailWebhook E.platform webhookId event
          (webhookEvidence E webhookId event status) r
      · exact Or.inl hsame
      · exact Or.inr ⟨status, delivery, updated, hnew, hfound, happly, heffect⟩

/-- INTERNAL: a request writes no delivery.
SOURCE: apps/api/src/repositories/memory.js:336-348 -/
theorem deliveries_writeTenantAudit (E : Environment) (audit : TenantAudit) (write : AuditWrite)
    (existingEvents : List AuditEvent) (draw : AuditDraw) (r : MemoryRepository) :
    (Effect.exec (writeTenantAudit E audit write existingEvents draw) r).2.emailDeliveryStore =
      r.emailDeliveryStore := by
  cases hbuild : buildTenantAuditEvent E audit existingEvents draw with
  | error e => simp [writeTenantAudit, hbuild]
  | ok event =>
    cases write with
    | append => simp [writeTenantAudit, hbuild, appendAuditEvent]
    | finalizeFile fileRecord =>
      cases hhas : r.fileRecordStore.has fileRecord.id <;>
        simp [writeTenantAudit, hbuild, finalizeFileRecord, hhas]

/-- INTERNAL: a webhook has evidence on every valid delivery.
SOURCE: apps/api/src/email-webhook.js:23-31 -/
theorem webhookEvidence_ok (E : Environment) {delivery : EmailDelivery}
    (hvalid : ValidDelivery E.platform delivery) (webhookId : String) (event : WebhookEvent)
    (status : EmailDeliveryStatus) (previousHash : Option String) :
    ∃ e, (webhookEvidence E webhookId event status delivery).resolve previousHash = .ok (some e) ∧
      e.eventId = some (delivery.id ++ "-" ++ ("webhook-" ++ webhookId) ++ "-audit") := by
  have haction : "email.delivery." ++ status.text ≠ "" := by cases status <;> decide
  obtain ⟨e, he, hid, -⟩ := emailAudit_ok
    { action := "email.delivery." ++ status.text
      actorId := "resend-webhook"
      signingKey := E.signingKey
      timestamp := event.createdAt.text
      suffix := "webhook-" ++ webhookId } hvalid haction previousHash
  exact ⟨e, map_eq_ok.mpr ⟨e, he, rfl⟩, hid⟩

/-- INTERNAL: what one run of the handler did, seen from the service. -/
theorem onHandler_eq_some {s t : Service} {i : Nat}
    {f : Handler → Option (Handler × MemoryRepository)} (h : s.onHandler i f = some t) :
    ∃ handler next r', s.handlers[i]? = some handler ∧ f handler = some (next, r') ∧
      t = { s with repository := r', handlers := s.handlers.set i next } := by
  unfold Service.onHandler at h
  cases hget : s.handlers[i]? with
  | none => simp [hget] at h
  | some handler =>
    simp only [hget, Option.map_eq_some_iff] at h
    obtain ⟨⟨next, r'⟩, hf, rfl⟩ := h
    exact ⟨handler, next, r', rfl, hf, rfl⟩

/-- A hash function known on the contents of some audit events. -/
def digestOf (known : List (AuditInput × String)) (text : String) : String :=
  ((known.find? fun entry =>
    stableSerialize (auditContent entry.1 ⟨"", "", "", ""⟩) = text).map Prod.snd).getD ""

end Xygo.Analysis
