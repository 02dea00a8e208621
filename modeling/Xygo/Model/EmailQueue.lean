import Xygo.Model.Outbox
import Xygo.Model.Repository

/-!
# Queueing an email

The rest of `packages/email-delivery/src/index.js`: the texts of an email, the record of a new
delivery, the outbox event that asks a worker to send it, and the local sink that stands for a
provider. URLs are parsed by the platform.
-/

set_option autoImplicit false

namespace Xygo.Model

open Xygo.Computation

/-- The text of a kind. -/
def EmailDeliveryKind.text : EmailDeliveryKind → String
  | .activation => "activation"
  | .reportReady => "report_ready"
  | .portalUpdate => "portal_update"

/-- What the source reads of a `URL`. -/
structure ParsedUrl where
  protocol : String
  username : String
  password : String
  hash : String
  href : String
  deriving DecidableEq, Repr

/-- The input of a template; a member the caller leaves out is `none`. -/
structure TemplateData where
  recipientName : Option String := none
  actionUrl : Option String := none
  workspaceName : Option String := none
  reportTitle : Option String := none
  projectName : Option String := none
  updateSummary : Option String := none

/-- The input of `createEmailDelivery`. -/
structure EmailDeliveryInput where
  tenantId : String
  recipientUserId : Option String := none
  recipientEmail : String
  kind : EmailDeliveryKind
  resourceType : Option String := none
  resourceId : Option String := none
  idempotencyKey : Option String := none
  templateData : TemplateData := {}

namespace Email

/-- `singleLineString`
SOURCE: packages/email-delivery/src/index.js:55-59 -/
def singleLineString (value label : String) (maximum : Nat := 2000) : Except JsError String := do
  let normalized ← requiredString value label maximum
  if normalized.toList.any fun c => c = '\r' || c = '\n' then
    throw (newError (label ++ " must be a single line."))
  return normalized

/-- `escapeHtml`
SOURCE: packages/email-delivery/src/index.js:125-129 -/
def escapeHtml (value : String) : String :=
  String.join (value.toList.map fun c =>
    match c with
    | '&' => "&amp;"
    | '<' => "&lt;"
    | '>' => "&gt;"
    | '"' => "&quot;"
    | '\'' => "&#39;"
    | c => String.singleton c)

/-- A member that may be missing: `requiredString` takes only a text. -/
def required (value : Option String) (label : String) (maximum : Nat) : Except JsError String :=
  requiredString (value.getD "") label maximum

section

variable (parseUrl : String → Option ParsedUrl)

/-- `httpUrl`
SOURCE: packages/email-delivery/src/index.js:112-123 -/
def httpUrl (value : Option String) (label : String) : Except JsError String :=
  match (required value label 2048).toOption.bind parseUrl with
  | none => .error (newError (label ++ " must be an absolute HTTP or HTTPS URL."))
  | some parsed =>
    if !(parsed.protocol ∈ ["http:", "https:"]) || parsed.username ≠ "" || parsed.password ≠ "" ||
        parsed.hash ≠ "" then
      .error (newError (label ++
        " must be an HTTP or HTTPS URL without credentials or a fragment."))
    else .ok parsed.href

/-- The subject, the heading and the summary of a kind.
SOURCE: packages/email-delivery/src/index.js:134-154 -/
def templateTexts (kind : EmailDeliveryKind) (input : TemplateData) :
    Except JsError (String × String × String) :=
  match kind with
  | .activation => do
    let workspaceName ← singleLineString (input.workspaceName.getD "") "Workspace name" 200
    return (workspaceName ++ " access is ready", "Welcome to " ++ workspaceName,
      "Your managed sign-in has been connected. Use the secure link below to open your " ++
        "workspace.")
  | .reportReady => do
    let reportTitle ← singleLineString (input.reportTitle.getD "") "Report title" 200
    return ("Report ready: " ++ reportTitle, reportTitle,
      "An approved report is available in your client portal.")
  | .portalUpdate => do
    let projectName ← singleLineString (input.projectName.getD "") "Project name" 200
    let summary ← required input.updateSummary "Update summary" 1000
    return ("Project update: " ++ projectName, projectName, summary)

/-- `renderEmailTemplate`. The kind is of its set by its type.
SOURCE: packages/email-delivery/src/index.js:131-165 -/
def renderEmailTemplate (kind : EmailDeliveryKind) (input : TemplateData) :
    Except JsError EmailMessage := do
  let recipientName ← requiredString (input.recipientName.getD "there") "Recipient name" 200
  let actionUrl ← httpUrl parseUrl input.actionUrl "Email actionUrl"
  let (subject, heading, summary) ← templateTexts kind input
  let text := "Hello " ++ recipientName ++ ",\n\n" ++ summary ++ "\n\nOpen Xygo: " ++ actionUrl ++
    "\n\nThis is an automated operational message."
  let html := String.join [
    "<p>Hello " ++ escapeHtml recipientName ++ ",</p>",
    "<h1>" ++ escapeHtml heading ++ "</h1>",
    "<p>" ++ escapeHtml summary ++ "</p>",
    "<p><a href=\"" ++ escapeHtml actionUrl ++ "\">Open Xygo</a></p>",
    "<p>This is an automated operational message.</p>"]
  return ⟨subject, text, html, actionUrl⟩

/-- A member that is left out when it is empty.
SOURCE: packages/email-delivery/src/index.js:184, 187-188 -/
def optionalString (value : Option String) (label : String) (maximum : Nat) :
    Except JsError (Option String) :=
  match value.filter (· ≠ "") with
  | none => .ok none
  | some value => some <$> requiredString value label maximum

variable (P : Platform)

/-- `createEmailDelivery` of the package, with the id and the time of its options.
SOURCE: packages/email-delivery/src/index.js:167-204 -/
def createEmailDelivery (input : EmailDeliveryInput) (id : String) (now : Int) :
    Except JsError EmailDelivery := do
  let tenantId ← requiredString input.tenantId "Email delivery tenantId" 200
  let recipientEmail ← emailAddress P input.recipientEmail "Recipient email"
  let message ← renderEmailTemplate parseUrl input.kind input.templateData
  let createdAt ← toISOString now
  let deliveryId ← requiredString id "Email delivery id" 200
  let idempotencyKey ← singleLineString
    (input.idempotencyKey.getD (tenantId ++ ":email:" ++ input.kind.text ++ ":" ++ deliveryId))
    "Email delivery idempotency key" 256
  let recipientUserId ← optionalString input.recipientUserId "Recipient user id" 200
  let resourceType ← optionalString input.resourceType "Resource type" 100
  let resourceId ← optionalString input.resourceId "Resource id" 200
  return {
    id := deliveryId
    tenantId := tenantId
    recipientUserId := recipientUserId
    recipientEmail := recipientEmail
    kind := input.kind
    resourceType := resourceType
    resourceId := resourceId
    idempotencyKey := idempotencyKey
    status := .queued
    attempts := 0
    provider := none
    providerMessageId := none
    providerStatusAt := none
    lastError := none
    message := message
    createdAt := createdAt
    updatedAt := createdAt
    acceptedAt := none
    deliveredAt := none }

end

end Email

/-- `emailDeliveryIntentMatches`
SOURCE: packages/email-delivery/src/index.js:289-305 -/
def emailDeliveryIntentMatches (left right : EmailDelivery) : Bool :=
  left.id = right.id &&
  left.tenantId = right.tenantId &&
  left.recipientUserId = right.recipientUserId &&
  left.recipientEmail = right.recipientEmail &&
  left.kind = right.kind &&
  left.resourceType = right.resourceType &&
  left.resourceId = right.resourceId &&
  left.idempotencyKey = right.idempotencyKey &&
  left.message = right.message

/-- The input of `createOutboxEvent`. -/
structure OutboxEventInput where
  id : Option String := none
  eventType : String
  eventVersion : Option Int := none
  aggregateType : String
  aggregateId : String
  tenantId : Option String := none
  payload : Option Json := none
  occurredAt : Option Int := none

/-- What `createOutboxEvent` draws where the input has no value: a random UUID and the time. -/
structure OutboxDraw where
  id : String
  now : Int

/-- `createOutboxEvent`
SOURCE: packages/audit/src/foundation.js:114-131 -/
def createOutboxEvent (input : OutboxEventInput) (draw : OutboxDraw) : Except JsError OutboxEvent :=
  if input.eventType = "" ∨ input.aggregateType = "" ∨ input.aggregateId = "" then
    .error (newError "Outbox events require eventType, aggregateType, and aggregateId.")
  else
    .ok {
      id := input.id.getD draw.id
      eventType := input.eventType
      eventVersion := some (input.eventVersion.getD 1)
      aggregateType := input.aggregateType
      aggregateId := input.aggregateId
      tenantId := input.tenantId
      payload := input.payload.getD (.object [])
      occurredAt := input.occurredAt.getD draw.now }

/-- `createEmailDeliveryOutboxEvent`
SOURCE: packages/email-delivery/src/index.js:206-216 -/
def createEmailDeliveryOutboxEvent (P : Platform) (delivery : EmailDelivery) :
    Except JsError OutboxEvent := do
  let _ ← assertEmailDelivery P delivery
  createOutboxEvent {
    id := some (delivery.id ++ "-outbox")
    eventType := "email.delivery.requested"
    aggregateType := "email_delivery"
    aggregateId := delivery.id
    tenantId := some delivery.tenantId
    occurredAt := some delivery.createdAt
    payload := some (.object [("deliveryId", .string delivery.id),
      ("kind", .string delivery.kind.text)]) } ⟨"", 0⟩

/-- What a repository's `createEmailDelivery` returns. -/
structure CreatedDelivery where
  created : Bool
  delivery : EmailDelivery
  deriving DecidableEq, Repr

/-- The error of a delivery whose key is bound to another one.
SOURCE: apps/api/src/repositories/memory.js:271-273 -/
def deliveryConflict : JsError :=
  { message := "Email delivery idempotency key is bound to a different logical delivery."
    code := some "email_idempotency_conflict" }

/-- `createEmailDelivery` of the memory repository.
SOURCE: apps/api/src/repositories/memory.js:267-280 -/
def createEmailDelivery (delivery : EmailDelivery) : RepositoryM CreatedDelivery := do
  let r ← get
  match r.emailDeliveryStore.values.find? fun item =>
      item.idempotencyKey = delivery.idempotencyKey with
  | some existing =>
    if emailDeliveryIntentMatches existing delivery then return ⟨false, existing⟩
    else throw deliveryConflict
  | none =>
    if r.emailDeliveryStore.has delivery.id then
      throw (newError "Email delivery id already exists.")
    set { r with emailDeliveryStore := r.emailDeliveryStore.put delivery }
    return ⟨true, delivery⟩

/-- A message the local sink holds.
SOURCE: packages/email-delivery/src/index.js:418 -/
structure SinkMessage where
  providerMessageId : String
  idempotencyKey : String
  delivery : EmailDelivery
  acceptedAt : Int

/-- The error of a send under a key that is bound to another delivery.
SOURCE: packages/email-delivery/src/index.js:410-413 -/
def sinkConflict : JsError :=
  { message := "Email sink idempotency key is bound to a different delivery."
    code := some "email_idempotency_conflict"
    retryable := some false }

/-- `send` of `createLocalEmailSink`; the file, when there is one, holds the list.
SOURCE: packages/email-delivery/src/index.js:402-421 -/
def sinkSend (P : Platform) (delivery : EmailDelivery) (idempotencyKey : String) (now : Int) :
    Effect JsError (List SinkMessage) String := do
  let _ ← assertEmailDelivery P delivery
  let memory ← get
  match memory.find? fun item => item.idempotencyKey = idempotencyKey with
  | some existing =>
    if !emailDeliveryIntentMatches existing.delivery delivery then throw sinkConflict
    return existing.providerMessageId
  | none =>
    let providerMessageId := "sink-" ++ slicePrefix (P.sha256 idempotencyKey) 24
    let acceptedAt ← toISOString now
    set (memory ++ [SinkMessage.mk providerMessageId idempotencyKey delivery acceptedAt])
    return providerMessageId

end Xygo.Model
