import Xygo.Computation.Machine
import Xygo.Model.Outbox
import Xygo.Model.Repository

/-!
# Workers, webhooks and requests over one repository

The writers of a repository as they interleave at their awaits: any number of runs of the
email handler of `apps/worker/src/worker.js`, the provider's webhooks, and the API requests
that append audit events. An operation of the memory repository runs in one step; what a
writer read before an await may be out of date when it goes on.
-/

set_option autoImplicit false

namespace Xygo.Model

open Xygo.Computation

/-- What `processOutboxOnce` hands to a handler: the event of a job, with the attempt and the
key.
SOURCE: apps/api/src/reliability/outbox.js:655-658 -/
structure HandlerEvent where
  event : OutboxEvent
  attempt : Nat
  idempotencyKey : String

/-- Where a run of the email handler is: it has read the delivery, it has read the suppression
list, it has saved the delivery as sending, the provider has answered; or it has returned,
thrown, or died with its process.
SOURCE: apps/worker/src/worker.js:35-117 -/
inductive Handler
  | loaded (event : HandlerEvent) (delivery : Option EmailDelivery)
  | checked (event : HandlerEvent) (delivery : EmailDelivery)
      (suppression : Option EmailSuppression)
  | saved (event : HandlerEvent) (sending : EmailDelivery)
  | sent (event : HandlerEvent) (sending : EmailDelivery) (outcome : Except JsError String)
  | returned
  | thrown (error : JsError)
  | crashed

/-- The error of an event without a delivery of its tenant.
SOURCE: apps/worker/src/worker.js:41-46 -/
def deliveryNotResolved : JsError :=
  { message := "Email delivery event does not resolve to an in-tenant delivery record."
    code := some "email_delivery_not_found"
    retryable := some false }

/-- The statuses a replayed job has nothing to do for.
SOURCE: apps/worker/src/worker.js:50 -/
def EmailDeliveryStatus.isSettled (status : EmailDeliveryStatus) : Bool :=
  status ∈ [.accepted, .delivered, .bounced, .complained, .suppressed]

/-- The environment of the writers: the platform, the name of the email provider, and the key
audit events are signed with. -/
structure Environment where
  platform : Platform
  provider : String
  signingKey : Option String

section

variable (E : Environment)

/-- The evidence of a worker: an audit event on the record it finalizes.
SOURCE: apps/worker/src/worker.js:57-64, 84-91, 104-111 -/
def workerEvidence (delivery : EmailDelivery) (action suffix : String) : Evidence where
  auditEventFactory := some (createEmailDeliveryAuditEvent E.platform delivery
    { action := action, signingKey := E.signingKey, timestamp := isoText delivery.updatedAt,
      suffix := suffix })

/-- The handler's path for a recipient on the suppression list.
SOURCE: apps/worker/src/worker.js:53-72 -/
def suppressDelivery (event : HandlerEvent) (delivery : EmailDelivery)
    (suppression : EmailSuppression) (now : Int) : RepositoryM Unit := do
  let suppressed ← markEmailDeliverySuppressed E.platform delivery suppression event.attempt now
  let _ ← finalizeEmailDelivery suppressed
    (workerEvidence E suppressed "email.delivery.suppressed" ("suppression-" ++ suppression.id))

/-- The record of the attempt before the provider is called.
SOURCE: apps/worker/src/worker.js:75-76 -/
def saveSending (event : HandlerEvent) (delivery : EmailDelivery) (now : Int) :
    RepositoryM EmailDelivery := do
  let sending ← markEmailDeliverySending E.platform delivery event.attempt now
  saveEmailDelivery sending

/-- The rest of the `try` block once the provider answered.
SOURCE: apps/worker/src/worker.js:78-99 -/
def finalizeAccepted (sending : EmailDelivery) (outcome : Except JsError String) (now : Int) :
    RepositoryM Unit := do
  let id ← outcome
  let accepted ← markEmailDeliveryAccepted E.platform sending E.provider id now
  let _ ← finalizeEmailDelivery accepted
    (workerEvidence E accepted "email.delivery.accepted" "accepted")

/-- The `catch` block: the failure is recorded, and the error thrown again.
SOURCE: apps/worker/src/worker.js:100-115 -/
def finalizeFailed (event : HandlerEvent) (sending : EmailDelivery) (error : JsError)
    (now : Int) : RepositoryM Unit := do
  let failed ← markEmailDeliveryFailed E.platform sending error event.attempt now
  let _ ← finalizeEmailDelivery failed
    (workerEvidence E failed "email.delivery.failed"
      ("attempt-" ++ toString failed.attempts ++ "-failed"))
  throw error

/-- What follows the provider's answer.
SOURCE: apps/worker/src/worker.js:77-115 -/
def finalizeSent (event : HandlerEvent) (sending : EmailDelivery)
    (outcome : Except JsError String) (acceptedAt failedAt : Int) : RepositoryM Unit :=
  tryCatch (finalizeAccepted E sending outcome acceptedAt)
    fun error => finalizeFailed E event sending error failedAt

/-- What `handleEmailWebhook` answers.
SOURCE: apps/api/src/email-webhook.js:16-19, 33-43 -/
inductive WebhookAnswer
  | ignored
  | invalidPayload
  | applied (result : WebhookResult)

/-- The evidence of a webhook.
SOURCE: apps/api/src/email-webhook.js:23-31 -/
def webhookEvidence (webhookId : String) (event : WebhookEvent) (status : EmailDeliveryStatus)
    (delivery : EmailDelivery) : Evidence where
  auditEventFactory := some (createEmailDeliveryAuditEvent E.platform delivery
    { action := "email.delivery." ++ status.text
      actorId := "resend-webhook"
      signingKey := E.signingKey
      timestamp := event.createdAt.text
      suffix := "webhook-" ++ webhookId })

/-- `handleEmailWebhook`, once the signature is verified.
SOURCE: apps/api/src/email-webhook.js:14-44 -/
def handleEmailWebhook (webhookId : String) (event : WebhookEvent) :
    RepositoryM WebhookAnswer := do
  match webhookStatus event.type with
  | none => return .ignored
  | some status =>
    if event.emailId.getD "" = "" then return .invalidPayload
    let result ← applyEmailWebhook E.platform webhookId event
      (webhookEvidence E webhookId event status)
    return .applied result

/-- The audit event a request is about to append.
SOURCE: apps/api/src/handlers.js:279-304 -/
structure TenantAudit where
  tenantId : String
  actorId : Option String
  action : String
  resourceType : String
  resourceId : String
  beforeStateRef : Json := .null
  afterStateRef : Json := .null

/-- `buildTenantAuditEvent`, from the events it read.
SOURCE: apps/api/src/handlers.js:290-303 -/
def buildTenantAuditEvent (audit : TenantAudit) (existingEvents : List AuditEvent)
    (draw : AuditDraw) : Except JsError AuditEvent :=
  createAuditEvent E.platform {
    tenantId := audit.tenantId
    actorType := some "user"
    actorId := some (audit.actorId.getD "synthetic-user")
    action := audit.action
    resourceType := audit.resourceType
    resourceId := audit.resourceId
    beforeStateRef := audit.beforeStateRef
    afterStateRef := audit.afterStateRef
    previousHash := existingEvents.getLast?.map AuditEvent.eventHash
    signingKey := E.signingKey } draw

/-- How a request stores its event: by `appendAuditEvent`, or together with a file record by
`finalizeFileRecord`.
SOURCE: apps/api/src/handlers.js:275, 791, 961 -/
inductive AuditWrite
  | append
  | finalizeFile (fileRecord : FileRecord)

/-- A request between the await of `listAuditEventsByTenant` and its write, and after it. -/
inductive AuditRequest
  | read (audit : TenantAudit) (write : AuditWrite) (existingEvents : List AuditEvent)
  | written
  | thrown (error : JsError)

/-- The event of a request, built and stored. -/
def writeTenantAudit (audit : TenantAudit) (write : AuditWrite)
    (existingEvents : List AuditEvent) (draw : AuditDraw) : RepositoryM Unit := do
  let event ← buildTenantAuditEvent E audit existingEvents draw
  match write with
  | .append =>
    let _ ← appendAuditEvent event
  | .finalizeFile fileRecord =>
    let _ ← finalizeFileRecord fileRecord event

/-- The repository, the runs of the email handler and the requests. -/
structure Service where
  repository : MemoryRepository
  handlers : List Handler := []
  requests : List AuditRequest := []

/-- What happens next. A worker step names the run of the handler it belongs to, and carries
what the environment decides: the time, the provider's answer. -/
inductive ServiceStep
  | deliver (event : HandlerEvent)
  | checkSuppression (i : Nat)
  | save (i : Nat) (now : Int)
  | send (i : Nat) (outcome : Except JsError String)
  | finalize (i : Nat) (acceptedAt failedAt : Int)
  | crash (i : Nat)
  | webhook (webhookId : String) (event : WebhookEvent)
  | readTail (audit : TenantAudit) (write : AuditWrite)
  | writeAudit (i : Nat) (draw : AuditDraw)

/-- Whether a step is one of a worker. -/
def ServiceStep.isWorker : ServiceStep → Bool
  | .deliver _ | .checkSuppression _ | .save _ _ | .send _ _ | .finalize _ _ _ | .crash _ => true
  | .webhook _ _ | .readTail _ _ | .writeAudit _ _ => false

/-- How a run of the handler ends: with what its last operation answered. -/
def Handler.ofResult : Except JsError Unit → Handler
  | .ok _ => .returned
  | .error error => .thrown error

/-- The start of the handler, up to the await of `getEmailDeliveryById`. Another event only
makes a log entry.
SOURCE: apps/worker/src/worker.js:36-40 -/
def startHandler (r : MemoryRepository) (event : HandlerEvent) : Handler :=
  if event.event.eventType ≠ "email.delivery.requested" then .returned
  else .loaded event (r.getEmailDeliveryById event.event.aggregateId)

/-- From the delivery read to the await of `getEmailSuppression`.
SOURCE: apps/worker/src/worker.js:41-52 -/
def afterLoad (r : MemoryRepository) : Handler → Option Handler
  | .loaded _ none => some (.thrown deliveryNotResolved)
  | .loaded event (some delivery) =>
    if some delivery.tenantId ≠ event.event.tenantId then some (.thrown deliveryNotResolved)
    else if delivery.status.isSettled then some .returned
    else
      match getEmailSuppression E.platform r delivery.tenantId delivery.recipientEmail with
      | .ok suppression => some (.checked event delivery suppression)
      | .error error => some (.thrown error)
  | _ => none

/-- From the suppression read to the next await: the delivery is finalized as suppressed, or
saved as sending.
SOURCE: apps/worker/src/worker.js:53-76 -/
def afterCheck (now : Int) (r : MemoryRepository) : Handler → Option (Handler × MemoryRepository)
  | .checked event delivery (some suppression) =>
    let result := Effect.exec (suppressDelivery E event delivery suppression now) r
    some (.ofResult result.1, result.2)
  | .checked event delivery none =>
    let result := Effect.exec (saveSending E event delivery now) r
    match result.1 with
    | .ok sending => some (.saved event sending, result.2)
    | .error error => some (.thrown error, result.2)
  | _ => none

/-- The provider's answer.
SOURCE: apps/worker/src/worker.js:78 -/
def afterSave (outcome : Except JsError String) : Handler → Option Handler
  | .saved event sending => some (.sent event sending outcome)
  | _ => none

/-- From the provider's answer to the end.
SOURCE: apps/worker/src/worker.js:77-115 -/
def afterSend (acceptedAt failedAt : Int) (r : MemoryRepository) :
    Handler → Option (Handler × MemoryRepository)
  | .sent event sending outcome =>
    let result := Effect.exec (finalizeSent E event sending outcome acceptedAt failedAt) r
    some (.ofResult result.1, result.2)
  | _ => none

/-- Let the run `i` of the handler go on. -/
def Service.onHandler (s : Service) (i : Nat)
    (f : Handler → Option (Handler × MemoryRepository)) : Option Service :=
  match s.handlers[i]? with
  | some handler => (f handler).map fun next =>
      { s with repository := next.2, handlers := s.handlers.set i next.1 }
  | none => none

/-- The request `i` builds and stores its event. -/
def Service.writeAudit (s : Service) (i : Nat) (draw : AuditDraw) : Option Service :=
  match s.requests[i]? with
  | some (.read audit write existingEvents) =>
    let result := Effect.exec (writeTenantAudit E audit write existingEvents draw) s.repository
    let request : AuditRequest :=
      match result.1 with
      | .ok _ => .written
      | .error error => .thrown error
    some { s with repository := result.2, requests := s.requests.set i request }
  | _ => none

/-- The writers of a repository. -/
def service : Machine Service ServiceStep where
  step s
    | .deliver event => some { s with handlers := s.handlers ++ [startHandler s.repository event] }
    | .checkSuppression i =>
      s.onHandler i fun handler =>
        (afterLoad E s.repository handler).map fun next => (next, s.repository)
    | .save i now => s.onHandler i (afterCheck E now s.repository)
    | .send i outcome =>
      s.onHandler i fun handler => (afterSave outcome handler).map fun next => (next, s.repository)
    | .finalize i acceptedAt failedAt =>
      s.onHandler i (afterSend E acceptedAt failedAt s.repository)
    | .crash i => s.onHandler i fun _ => some (.crashed, s.repository)
    | .webhook webhookId event =>
      some { s with
        repository := (Effect.exec (handleEmailWebhook E webhookId event) s.repository).2 }
    | .readTail audit write =>
      some { s with
        requests := s.requests ++
          [.read audit write (s.repository.listAuditEventsByTenant audit.tenantId)] }
    | .writeAudit i draw => s.writeAudit E i draw

end

end Xygo.Model
