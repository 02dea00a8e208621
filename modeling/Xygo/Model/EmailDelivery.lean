import Xygo.Model.Audit

/-!
# Email deliveries

`packages/email-delivery/src/index.js`: the record of one email, what a worker and the
provider's webhooks make of it, and the suppression list of recipients who must not be
written to again.
-/

set_option autoImplicit false

namespace Xygo.Model

/-- `EMAIL_DELIVERY_KINDS`
SOURCE: packages/email-delivery/src/index.js:9-13 -/
inductive EmailDeliveryKind
  | activation
  | reportReady
  | portalUpdate
  deriving DecidableEq, Repr

/-- `EMAIL_DELIVERY_STATUSES`
SOURCE: packages/email-delivery/src/index.js:14-24 -/
inductive EmailDeliveryStatus
  | queued
  | sending
  | accepted
  | delivered
  | delayed
  | failed
  | bounced
  | complained
  | suppressed
  deriving DecidableEq, Repr

/-- The text of a status. -/
def EmailDeliveryStatus.text : EmailDeliveryStatus → String
  | .queued => "queued"
  | .sending => "sending"
  | .accepted => "accepted"
  | .delivered => "delivered"
  | .delayed => "delayed"
  | .failed => "failed"
  | .bounced => "bounced"
  | .complained => "complained"
  | .suppressed => "suppressed"

/-- `TERMINAL_STATUSES`
SOURCE: packages/email-delivery/src/index.js:28 -/
def EmailDeliveryStatus.isTerminal (status : EmailDeliveryStatus) : Bool :=
  status ∈ [.delivered, .bounced, .complained, .suppressed]

/-- `WEBHOOK_STATUS`
SOURCE: packages/email-delivery/src/index.js:29-38 -/
def webhookStatus : String → Option EmailDeliveryStatus
  | "email.sent" => some .accepted
  | "email.delivered" => some .delivered
  | "email.delivery_delayed" => some .delayed
  | "email.failed" => some .failed
  | "email.bounced" => some .bounced
  | "email.complained" => some .complained
  | "email.suppressed" => some .suppressed
  | "email.unsubscribed" => some .suppressed
  | _ => none

/-- `SUPPRESSION_REASONS`
SOURCE: packages/email-delivery/src/index.js:39-44 -/
def suppressionReason : String → Option String
  | "email.bounced" => some "bounce"
  | "email.complained" => some "complaint"
  | "email.suppressed" => some "provider_suppression"
  | "email.unsubscribed" => some "unsubscribe"
  | _ => none

/-- What `renderEmailTemplate` returns. -/
structure EmailMessage where
  subject : String
  text : String
  html : String
  actionUrl : String
  deriving DecidableEq, Repr

/-- An email delivery.
SOURCE: packages/email-delivery/src/index.js:181-203 -/
structure EmailDelivery where
  id : String
  tenantId : String
  recipientUserId : Option String
  recipientEmail : String
  kind : EmailDeliveryKind
  resourceType : Option String
  resourceId : Option String
  idempotencyKey : String
  status : EmailDeliveryStatus
  attempts : Nat
  provider : Option String
  providerMessageId : Option String
  providerStatusAt : Option Int
  lastError : Option String
  message : EmailMessage
  createdAt : Int
  updatedAt : Int
  acceptedAt : Option Int
  deliveredAt : Option Int
  staged : Bool := true
  deriving DecidableEq, Repr

/-- An entry of the suppression list.
SOURCE: packages/email-delivery/src/index.js:84-100 -/
structure EmailSuppression where
  id : String
  tenantId : String
  normalizedRecipient : String
  recipientUserId : Option String
  reason : String
  source : String := "provider_webhook"
  provider : String
  providerEventId : String
  providerMessageId : Option String
  deliveryId : String
  resourceType : Option String
  resourceId : Option String
  createdAt : Int
  updatedAt : Int
  staged : Bool := true
  deriving DecidableEq, Repr

/-- A provider event: its `type`, `data.email_id`, `data.bounce.message` and `created_at`, which
is empty where the event has none. -/
structure WebhookEvent where
  type : String
  emailId : Option String
  bounceMessage : Option String := none
  createdAt : DateText
  deriving DecidableEq, Repr

namespace Email

/-- The control characters `[\u0000-\u0008\u000b\u000c\u000e-\u001f\u007f]`: all but tab, line
feed and carriage return. -/
def isForbidden (c : Char) : Bool := isControl c && !(c.toNat ∈ [0x09, 0x0A, 0x0D])

/-- `requiredString`
SOURCE: packages/email-delivery/src/index.js:46-53 -/
def requiredString (value label : String) (maximum : Nat := 2000) : Except JsError String :=
  let normalized := trim value
  if normalized = "" then .error (newError (label ++ " is required."))
  else if maximum < utf16Length normalized ∨ normalized.toList.any isForbidden then
    .error (newError (label ++ " is invalid or too long."))
  else .ok normalized

/-- A character the regular expression for addresses allows in each of its three parts. -/
def isAddressChar (c : Char) : Bool := !isWhitespace c && c ≠ '@' && c ≠ '<' && c ≠ '>'

/-- `/^[^\s@<>]+@[^\s@<>]+\.[^\s@<>]+$/`: one `@`, and a full stop inside what follows it.
SOURCE: packages/email-delivery/src/index.js:63 -/
def isAddress (value : String) : Bool :=
  let isLocal : Char → Bool := fun c => c ≠ '@'
  let mailbox := value.toList.takeWhile isLocal
  let domain := (value.toList.dropWhile isLocal).drop 1
  mailbox ≠ [] && mailbox.all isAddressChar && domain.all isAddressChar &&
    (domain.drop 1).dropLast.contains '.'

section

variable (P : Platform)

/-- `emailAddress`
SOURCE: packages/email-delivery/src/index.js:61-65 -/
def emailAddress (value label : String) : Except JsError String := do
  let normalized := P.toLowerCase (← requiredString value label 320)
  if isAddress normalized then return normalized else throw (newError (label ++ " is invalid."))

end

end Email

section

variable (P : Platform)

/-- `normalizeEmailRecipient`
SOURCE: packages/email-delivery/src/index.js:67-69 -/
def normalizeEmailRecipient (value : String) : Except JsError String :=
  Email.emailAddress P value "Suppression recipient"

/-- `assertEmailDelivery`. The kind and the status are of their sets by their types.
SOURCE: packages/email-delivery/src/index.js:279-287 -/
def assertEmailDelivery (delivery : EmailDelivery) : Except JsError EmailDelivery := do
  let _ ← Email.requiredString delivery.id "Email delivery id" 200
  let _ ← Email.requiredString delivery.tenantId "Email delivery tenantId" 200
  let _ ← Email.emailAddress P delivery.recipientEmail "Recipient email"
  let _ ← Email.requiredString delivery.idempotencyKey "Email delivery idempotency key" 256
  return delivery

/-- The attempt number of a mark: `Number(attempt) || 1`. -/
def attemptNumber (attempt : Nat) : Nat := if attempt = 0 then 1 else attempt

/-- The record of a delivery that is being sent.
SOURCE: packages/email-delivery/src/index.js:310-316 -/
def EmailDelivery.sending (delivery : EmailDelivery) (attempt : Nat) (now : Int) : EmailDelivery :=
  { delivery with
    status := .sending
    attempts := max delivery.attempts (attemptNumber attempt)
    lastError := none
    updatedAt := now }

/-- `markEmailDeliverySending`
SOURCE: packages/email-delivery/src/index.js:307-317 -/
def markEmailDeliverySending (delivery : EmailDelivery) (attempt : Nat) (now : Int) :
    Except JsError EmailDelivery := do
  let _ ← assertEmailDelivery P delivery
  if delivery.status.isTerminal then return delivery
  let timestamp ← toISOString now
  return delivery.sending attempt timestamp

/-- The record of a delivery the provider took.
SOURCE: packages/email-delivery/src/index.js:323-332 -/
def EmailDelivery.accepted (delivery : EmailDelivery) (provider providerMessageId : String)
    (now : Int) : EmailDelivery :=
  { delivery with
    status := .accepted
    provider := some provider
    providerMessageId := some providerMessageId
    providerStatusAt := some now
    lastError := none
    acceptedAt := some (delivery.acceptedAt.getD now)
    updatedAt := now }

/-- `markEmailDeliveryAccepted`
SOURCE: packages/email-delivery/src/index.js:319-333 -/
def markEmailDeliveryAccepted (delivery : EmailDelivery) (provider providerMessageId : String)
    (now : Int) : Except JsError EmailDelivery := do
  let _ ← assertEmailDelivery P delivery
  if delivery.status.isTerminal then return delivery
  let timestamp ← toISOString now
  let provider ← Email.requiredString provider "Email provider" 100
  let providerMessageId ← Email.requiredString providerMessageId "Provider message id" 200
  return delivery.accepted provider providerMessageId timestamp

/-- The text of an error in a record: printable, and at most 2000 characters of it.
SOURCE: packages/email-delivery/src/index.js:342 -/
def failureText (error : JsError) : String :=
  slicePrefix (error.message.map fun c => if isControl c then ' ' else c) 2000

/-- The record of a delivery whose attempt failed.
SOURCE: packages/email-delivery/src/index.js:338-344 -/
def EmailDelivery.failed (delivery : EmailDelivery) (error : JsError) (attempt : Nat) (now : Int) :
    EmailDelivery :=
  { delivery with
    status := .failed
    attempts := max delivery.attempts (attemptNumber attempt)
    lastError := some (failureText error)
    updatedAt := now }

/-- `markEmailDeliveryFailed`
SOURCE: packages/email-delivery/src/index.js:335-345 -/
def markEmailDeliveryFailed (delivery : EmailDelivery) (error : JsError) (attempt : Nat)
    (now : Int) : Except JsError EmailDelivery := do
  let _ ← assertEmailDelivery P delivery
  if delivery.status.isTerminal then return delivery
  let timestamp ← toISOString now
  return delivery.failed error attempt timestamp

/-- The record of a delivery whose recipient is on the suppression list.
SOURCE: packages/email-delivery/src/index.js:355-362 -/
def EmailDelivery.suppressed (delivery : EmailDelivery) (reason : String) (attempt : Nat)
    (now : Int) : EmailDelivery :=
  { delivery with
    status := .suppressed
    attempts := max delivery.attempts (attemptNumber attempt)
    providerStatusAt := some now
    lastError := some ("recipient suppressed: " ++ reason)
    updatedAt := now }

/-- The error of a suppression of another recipient or tenant.
SOURCE: packages/email-delivery/src/index.js:352 -/
def suppressionMismatch : JsError :=
  newError "Email suppression does not match delivery recipient and tenant."

/-- `markEmailDeliverySuppressed`
SOURCE: packages/email-delivery/src/index.js:347-363 -/
def markEmailDeliverySuppressed (delivery : EmailDelivery) (suppression : EmailSuppression)
    (attempt : Nat) (now : Int) : Except JsError EmailDelivery := do
  let _ ← assertEmailDelivery P delivery
  if delivery.status.isTerminal then return delivery
  if suppression.tenantId ≠ delivery.tenantId then throw suppressionMismatch
  let recipient ← normalizeEmailRecipient P suppression.normalizedRecipient
  if recipient ≠ delivery.recipientEmail then throw suppressionMismatch
  let timestamp ← toISOString now
  let reason ← Email.requiredString suppression.reason "Email suppression reason" 100
  return delivery.suppressed reason attempt timestamp

/-- The error text a provider event leaves on a delivery. -/
def WebhookEvent.errorText (event : WebhookEvent) : String :=
  slicePrefix (event.bounceMessage.getD event.type) 2000

/-- The statuses whose events record an error.
SOURCE: packages/email-delivery/src/index.js:380 -/
def EmailDeliveryStatus.isFailure (status : EmailDeliveryStatus) : Bool :=
  status ∈ [.failed, .bounced, .complained, .suppressed]

/-- The record after a provider event of the given status that occurred at `timestamp`.
SOURCE: packages/email-delivery/src/index.js:375-384 -/
def EmailDelivery.afterEvent (delivery : EmailDelivery) (event : WebhookEvent)
    (status : EmailDeliveryStatus) (timestamp : Int) : EmailDelivery :=
  { delivery with
    status := status
    providerStatusAt := some timestamp
    deliveredAt := if status = .delivered then some timestamp else delivery.deliveredAt
    lastError := if status.isFailure then some event.errorText else delivery.lastError
    updatedAt := timestamp }

/-- Whether an event that occurred at `occurredAt` is older than what the delivery's status
rests on.
SOURCE: packages/email-delivery/src/index.js:372-373 -/
def EmailDelivery.isStale (delivery : EmailDelivery) (occurredAt : Int) : Bool :=
  match delivery.providerStatusAt with
  | some currentAt => occurredAt < currentAt
  | none => false

/-- The time of a webhook, as both functions that read it check it.
SOURCE: packages/email-delivery/src/index.js:80-81, 370-371 -/
def WebhookEvent.occurredAt (event : WebhookEvent) : Except JsError Int := do
  let _ ← Email.requiredString event.createdAt.text "Webhook created_at" 100
  match event.createdAt.date with
  | some occurredAt => return occurredAt
  | none => throw (newError "Webhook created_at is invalid.")

/-- Whether a provider event is about the message of a delivery: an event without an id is
about none.
SOURCE: packages/email-delivery/src/index.js:77, 369 -/
def EmailDelivery.hasMessage (delivery : EmailDelivery) (emailId : Option String) : Bool :=
  emailId.isSome && delivery.providerMessageId = emailId

/-- `applyEmailWebhookStatus`
SOURCE: packages/email-delivery/src/index.js:365-385 -/
def applyEmailWebhookStatus (delivery : EmailDelivery) (event : WebhookEvent) :
    Except JsError EmailDelivery := do
  let _ ← assertEmailDelivery P delivery
  match webhookStatus event.type with
  | none => return delivery
  | some status =>
    if !delivery.hasMessage event.emailId then
      throw (newError "Email webhook provider message does not match delivery.")
    let occurredAt ← event.occurredAt
    if delivery.isStale occurredAt then return delivery
    return delivery.afterEvent event status occurredAt

/-- `createEmailSuppressionFromWebhook`
SOURCE: packages/email-delivery/src/index.js:71-101 -/
def createEmailSuppressionFromWebhook (delivery : EmailDelivery) (event : WebhookEvent)
    (webhookId : String) (provider : String := "resend") :
    Except JsError (Option EmailSuppression) := do
  let _ ← assertEmailDelivery P delivery
  match suppressionReason event.type with
  | none => return none
  | some reason =>
    if !delivery.hasMessage event.emailId then
      throw (newError "Email suppression webhook provider message does not match delivery.")
    let occurredAt ← event.occurredAt
    let normalizedRecipient ← normalizeEmailRecipient P delivery.recipientEmail
    let provider ← Email.requiredString provider "Email suppression provider" 100
    let providerEventId ← Email.requiredString webhookId "Email suppression provider event id" 200
    return some {
      id := "email-suppression-" ++
        P.sha256 (delivery.tenantId ++ "\u0000" ++ normalizedRecipient)
      tenantId := delivery.tenantId
      normalizedRecipient := normalizedRecipient
      recipientUserId := delivery.recipientUserId
      reason := reason
      provider := provider
      providerEventId := providerEventId
      providerMessageId := delivery.providerMessageId
      deliveryId := delivery.id
      resourceType := delivery.resourceType
      resourceId := delivery.resourceId
      createdAt := occurredAt
      updatedAt := occurredAt }

/-- `mergeEmailSuppression`
SOURCE: packages/email-delivery/src/index.js:103-110 -/
def mergeEmailSuppression (existing : Option EmailSuppression) (incoming : EmailSuppression) :
    Except JsError EmailSuppression :=
  match existing with
  | none => .ok incoming
  | some existing =>
    if existing.tenantId ≠ incoming.tenantId ∨
        existing.normalizedRecipient ≠ incoming.normalizedRecipient then
      .error (newError "Email suppression identity cannot be changed.")
    else if incoming.updatedAt < existing.updatedAt then .ok existing
    else .ok { incoming with id := existing.id, createdAt := existing.createdAt }

/-- The options of `createEmailDeliveryAuditEvent`. -/
structure EmailAuditOptions where
  action : String
  actorId : String := "email-worker"
  signingKey : Option String := none
  timestamp : String
  suffix : String

/-- `createEmailDeliveryAuditEvent`
SOURCE: packages/email-delivery/src/index.js:218-242 -/
def createEmailDeliveryAuditEvent (delivery : EmailDelivery) (options : EmailAuditOptions)
    (previousHash : Option String) : Except JsError AuditEvent := do
  let _ ← assertEmailDelivery P delivery
  createAuditEvent P {
    eventId := some (delivery.id ++ "-" ++ options.suffix ++ "-audit")
    tenantId := delivery.tenantId
    actorType := some "system"
    actorId := some options.actorId
    action := options.action
    resourceType := "email_delivery"
    resourceId := delivery.id
    afterStateRef := .string delivery.status.text
    correlationId := some delivery.id
    requestId := some delivery.id
    timestamp := some options.timestamp
    previousHash := previousHash
    signingKey := options.signingKey } ⟨"", "", "", ""⟩

end

end Xygo.Model
