import Xygo.Model.Api
import Xygo.Model.DeliveryQueue
import Xygo.Model.Service

/-!
# The writers of audit events on the memory repository

The operations that append to the audit events, each from its first call of the repository to its
last one: the evidence of a request (`appendTenantAuditEvent`), of a queued delivery, of a worker
and of a webhook, and of a file whose upload is completed or whose deletion is finalized. Every
call of the repository or of the outbox beside it may fail.
-/

set_option autoImplicit false

namespace Xygo.Model

open Xygo.Computation

/-- An operation on the memory repository and the outbox beside it, each of whose calls may fail. -/
abbrev MemoryM : Type → Type := Effect JsError (Faulty JsError MemoryStores)

/-- What `headObject` of a storage adapter answers.
SOURCE: packages/file-storage/src/index.js:293-304, 374-388 -/
structure StoredObject where
  tenantId : Option String
  contentType : Option String
  sizeBytes : ℕ
  checksumSha256 : Option String
  deriving DecidableEq, Repr

/-- A request on a file: who makes it, in which tenant, with which key its audit event is signed,
and what is drawn for the event and the job. -/
structure FileRequest where
  tenantId : String
  userId : Option String
  signingKey : Option String
  auditDraw : AuditDraw
  outboxDraw : OutboxDraw
  now : Int

/-- The audit event of a file.
SOURCE: apps/api/src/handlers.js:778-788, 948-958 -/
def FileRequest.audit (request : FileRequest) (action fileId before after : String) :
    TenantAudit where
  tenantId := request.tenantId
  actorId := request.userId
  action := action
  resourceType := "file_record"
  resourceId := fileId
  beforeStateRef := .string before
  afterStateRef := .string after

/-- `fileOutboxEvent`
SOURCE: apps/api/src/handlers.js:751-756 -/
def FileRequest.outboxEvent (request : FileRequest) (action fileId : String) :
    Except JsError OutboxEvent :=
  createOutboxEvent {
    eventType := action
    aggregateType := "file_record"
    aggregateId := fileId
    tenantId := some request.tenantId } request.outboxDraw

/-- The idempotency key of the job of a file.
SOURCE: apps/api/src/handlers.js:759, 790, 960 -/
def FileRequest.outboxKey (request : FileRequest) (action fileId : String) : String :=
  request.tenantId ++ ":" ++ action ++ ":" ++ fileId

/-- The record of a file whose upload is complete.
SOURCE: apps/api/src/handlers.js:772-777 -/
def completedRecord (fileRecord : FileRecord) (object : StoredObject) (completedAt : Int) :
    FileRecord :=
  { fileRecord with
    status := .ready
    checksumSha256 := object.checksumSha256
    updatedAt := completedAt }

/-- The record of a file that is deleted.
SOURCE: apps/api/src/handlers.js:934, 946-947 -/
def deletedRecord (fileRecord : FileRecord) (deletedAt : Int) : FileRecord :=
  { fileRecord with status := .deleted, deletedAt := some deletedAt, updatedAt := deletedAt }

/-- What the audit event of a completed upload says of it.
SOURCE: apps/api/src/handlers.js:786 -/
def completedRef (completed : FileRecord) : String :=
  match completed.checksumSha256.filter (· ≠ "") with
  | some checksum => "sha256:" ++ checksum
  | none => "ready"

/-- Why an object is not the one a file record was made for.
SOURCE: apps/api/src/handlers.js:766-770 -/
def objectRefusal {β : Type} (fileRecord : FileRecord) : Option StoredObject → Option (Response β)
  | none => some (badRequest "Uploaded object was not found.")
  | some object =>
    if object.tenantId ≠ some fileRecord.tenantId then
      some (forbidden "Stored object tenant metadata does not match.")
    else if object.contentType ≠ some fileRecord.mimeType then
      some (badRequest "Stored object MIME type does not match the upload intent.")
    else if object.sizeBytes ≠ fileRecord.sizeBytes then
      some (badRequest "Stored object size does not match the upload intent.")
    else none

section

variable (P : Platform)

/-- `buildTenantAuditEvent`, from the events of the repository.
SOURCE: apps/api/src/handlers.js:278-304 -/
def readTenantAuditEvent (audit : TenantAudit) (signingKey : Option String) (draw : AuditDraw) :
    MemoryM AuditEvent := do
  let existingEvents ← (memoryQueue true).listAuditEventsByTenant audit.tenantId
  buildTenantAuditEvent ⟨P, "", signingKey⟩ audit existingEvents draw

/-- `appendTenantAuditEvent`
SOURCE: apps/api/src/handlers.js:252-276 -/
def appendAuditOfTenant (audit : TenantAudit) (signingKey : Option String) (draw : AuditDraw) :
    MemoryM Unit := do
  let event ← readTenantAuditEvent P audit signingKey draw
  let _ ← (memoryQueue true).appendAuditEvent event

/-- A file record is finalized with its audit event, and its job is put into the outbox.
SOURCE: apps/api/src/handlers.js:778-794, 948-964 -/
def finalizeFile (request : FileRequest) (action : String) (fileRecord : FileRecord)
    (before after : String) : MemoryM Unit := do
  let event ← readTenantAuditEvent P (request.audit action fileRecord.id before after)
    request.signingKey request.auditDraw
  let outboxEvent ← request.outboxEvent action fileRecord.id
  let _ ← onRepository (finalizeFileRecord fileRecord event)
  enqueueMemory outboxEvent (request.outboxKey action fileRecord.id) request.now

/-- `completeFileUpload`, on what the storage adapter answers.
SOURCE: apps/api/src/handlers.js:765-796 -/
def completeFileUpload (request : FileRequest) (fileRecord : FileRecord)
    (object : Option StoredObject) : MemoryM (Response FileRecord) := do
  match objectRefusal fileRecord object, object with
  | some refusal, _ => return refusal
  | none, none => return badRequest "Uploaded object was not found."
  | none, some object =>
    let completedAt ← toISOString request.now
    let completed := completedRecord fileRecord object completedAt
    finalizeFile P request "api.file.upload_completed" completed fileRecord.status.text
      (completedRef completed)
    return .answered 200 completed

/-- The last part of `DELETE`, once the object is gone.
SOURCE: apps/api/src/handlers.js:945-966 -/
def finalizeDeletion (request : FileRequest) (fileRecord : FileRecord) :
    MemoryM (Response FileRecord) := do
  let deletedAt ← toISOString request.now
  let deleted := deletedRecord fileRecord deletedAt
  finalizeFile P request "api.file.deleted" deleted fileRecord.status.text "deleted"
  return .answered 200 deleted

/-- An operation that writes evidence. A factory builds its event by
`createEmailDeliveryAuditEvent`, as those of the worker and of the webhook do. -/
inductive AuditOperation
  | appendTenantAuditEvent (audit : TenantAudit) (signingKey : Option String) (draw : AuditDraw)
  | queueEmailDelivery (delivery : EmailDelivery) (actorId : String) (signingKey : Option String)
      (now : Int)
  | finalizeEmailDelivery (delivery : EmailDelivery) (options : EmailAuditOptions)
  | applyEmailWebhook (webhookId : String) (event : WebhookEvent) (options : EmailAuditOptions)
  | completeFileUpload (request : FileRequest) (fileRecord : FileRecord)
      (object : Option StoredObject)
  | finalizeDeletion (request : FileRequest) (fileRecord : FileRecord)

/-- The key an operation signs with. -/
def AuditOperation.signingKey : AuditOperation → Option String
  | .appendTenantAuditEvent _ signingKey _ => signingKey
  | .queueEmailDelivery _ _ signingKey _ => signingKey
  | .finalizeEmailDelivery _ options => options.signingKey
  | .applyEmailWebhook _ _ options => options.signingKey
  | .completeFileUpload request _ _ => request.signingKey
  | .finalizeDeletion request _ => request.signingKey

/-- The evidence options with a factory.
SOURCE: apps/worker/src/worker.js:57-64; apps/api/src/email-webhook.js:23-31 -/
def factoryEvidence (options : EmailAuditOptions) (delivery : EmailDelivery) : Evidence where
  auditEventFactory := some (createEmailDeliveryAuditEvent P delivery options)

/-- An operation, run to its end. -/
def AuditOperation.perform : AuditOperation → MemoryM Unit
  | .appendTenantAuditEvent audit signingKey draw => appendAuditOfTenant P audit signingKey draw
  | .queueEmailDelivery delivery actorId signingKey now => do
    let _ ← Model.queueEmailDelivery (memoryQueue true) P delivery actorId signingKey now
  | .finalizeEmailDelivery delivery options => do
    let _ ← onRepository (Model.finalizeEmailDelivery delivery (factoryEvidence P options delivery))
  | .applyEmailWebhook webhookId event options => do
    let _ ← onRepository (Model.applyEmailWebhook P webhookId event (factoryEvidence P options))
  | .completeFileUpload request fileRecord object => do
    let _ ← Model.completeFileUpload P request fileRecord object
  | .finalizeDeletion request fileRecord => do
    let _ ← Model.finalizeDeletion P request fileRecord

/-- An operation with what fails of its calls. -/
structure AuditCall where
  operation : AuditOperation
  faults : List (Option (Fault JsError)) := []

/-- The repository as an object that performs one operation after the other. -/
def auditWriters : Object MemoryStores AuditCall (Except JsError Unit) where
  call c s :=
    let run := Effect.exec (c.operation.perform P) ⟨s, c.faults⟩
    (run.1, run.2.store)

end

end Xygo.Model
