import Xygo.Computation.Effect
import Xygo.Computation.Machine
import Xygo.Computation.Table
import Xygo.Model.EmailDelivery
import Xygo.Model.Records

/-!
# The memory repository

`createMemoryRepository` of `apps/api/src/repositories/memory.js`: one map for each kind of
record, each record stored under its own id, and the list of audit events. Every operation
runs in one step; a throw in the middle of one leaves what it has written.
-/

set_option autoImplicit false

namespace Xygo.Model

open Xygo.Computation

/-- The key of a suppression.
SOURCE: apps/api/src/repositories/memory.js:55, 316 -/
def EmailSuppression.storeKey (suppression : EmailSuppression) : String :=
  suppression.tenantId ++ ":" ++ suppression.normalizedRecipient

/-- The record of a webhook that was applied.
SOURCE: apps/api/src/repositories/memory.js:319 -/
structure WebhookRecord where
  id : String
  tenantId : String
  event : WebhookEvent

/-- The stores `createMemoryRepository` closes over.
SOURCE: apps/api/src/repositories/memory.js:22-64 -/
structure MemoryRepository where
  projectStore : Table Project.id := .empty
  issueStore : Table CoordinationIssue.id := .empty
  rfiStore : Table Rfi.id := .empty
  permitStore : Table PermitPackage.id := .empty
  reviewSessionStore : Table ReviewSession.id := .empty
  aiReviewRunStore : Table AiReviewRun.id := .empty
  aiFindingStore : Table AiFinding.id := .empty
  platformBlueprintStore : Table PlatformBlueprint.id := .empty
  fieldReportStore : Table FieldReport.id := .empty
  fileRecordStore : Table FileRecord.id := .empty
  emailDeliveryStore : Table EmailDelivery.id := .empty
  emailSuppressionStore : Table EmailSuppression.storeKey := .empty
  emailWebhookEventStore : Table WebhookRecord.id := .empty
  auditEventStore : List AuditEvent := []

namespace MemoryRepository

/-- `listProjectsByTenant`
SOURCE: apps/api/src/repositories/memory.js:67-69 -/
def listProjectsByTenant (r : MemoryRepository) (tenantId : String) : List Project :=
  r.projectStore.values.filter fun project => project.tenantId = tenantId

/-- `listIssuesByTenant`
SOURCE: apps/api/src/repositories/memory.js:86-88 -/
def listIssuesByTenant (r : MemoryRepository) (tenantId : String) : List CoordinationIssue :=
  r.issueStore.values.filter fun issue => issue.tenantId = tenantId

/-- `listRfisByTenant`
SOURCE: apps/api/src/repositories/memory.js:105-107 -/
def listRfisByTenant (r : MemoryRepository) (tenantId : String) : List Rfi :=
  r.rfiStore.values.filter fun rfi => rfi.tenantId = tenantId

/-- `listPermitPackagesByTenant`
SOURCE: apps/api/src/repositories/memory.js:121-123 -/
def listPermitPackagesByTenant (r : MemoryRepository) (tenantId : String) : List PermitPackage :=
  r.permitStore.values.filter fun permitPackage => permitPackage.tenantId = tenantId

/-- `listReviewSessionsByTenant`
SOURCE: apps/api/src/repositories/memory.js:137-141 -/
def listReviewSessionsByTenant (r : MemoryRepository) (tenantId : String) : List ReviewSession :=
  r.reviewSessionStore.values.filter fun reviewSession => reviewSession.tenantId = tenantId

/-- `listAiReviewRunsByTenant`
SOURCE: apps/api/src/repositories/memory.js:155-157 -/
def listAiReviewRunsByTenant (r : MemoryRepository) (tenantId : String) : List AiReviewRun :=
  r.aiReviewRunStore.values.filter fun reviewRun => reviewRun.tenantId = tenantId

/-- Whether a finding is one of the tenant's: its review run is.
SOURCE: apps/api/src/repositories/memory.js:176-178 -/
def findingInTenant (r : MemoryRepository) (tenantId : String) (finding : AiFinding) : Bool :=
  (r.aiReviewRunStore.get finding.reviewRunId).any fun reviewRun => reviewRun.tenantId = tenantId

/-- `listAiFindingsByTenant`
SOURCE: apps/api/src/repositories/memory.js:174-179 -/
def listAiFindingsByTenant (r : MemoryRepository) (tenantId : String) : List AiFinding :=
  r.aiFindingStore.values.filter (r.findingInTenant tenantId)

/-- `listPlatformBlueprintsByTenant`
SOURCE: apps/api/src/repositories/memory.js:215-217 -/
def listPlatformBlueprintsByTenant (r : MemoryRepository) (tenantId : String) :
    List PlatformBlueprint :=
  r.platformBlueprintStore.values.filter fun blueprint => blueprint.tenantId = tenantId

/-- `getPlatformBlueprintById`
SOURCE: apps/api/src/repositories/memory.js:218-220 -/
def getPlatformBlueprintById (r : MemoryRepository) (blueprintId : String) :
    Option PlatformBlueprint :=
  r.platformBlueprintStore.get blueprintId

/-- `listFieldReportsByTenant`
SOURCE: apps/api/src/repositories/memory.js:231-233 -/
def listFieldReportsByTenant (r : MemoryRepository) (tenantId : String) : List FieldReport :=
  r.fieldReportStore.values.filter fun report => report.tenantId = tenantId

/-- `getFieldReportById`
SOURCE: apps/api/src/repositories/memory.js:234-236 -/
def getFieldReportById (r : MemoryRepository) (reportId : String) : Option FieldReport :=
  r.fieldReportStore.get reportId

/-- `listFileRecordsByTenant`
SOURCE: apps/api/src/repositories/memory.js:249-253 -/
def listFileRecordsByTenant (r : MemoryRepository) (tenantId : String) : List FileRecord :=
  r.fileRecordStore.values.filter fun fileRecord => fileRecord.tenantId = tenantId

/-- `getFileRecordById`
SOURCE: apps/api/src/repositories/memory.js:254-257 -/
def getFileRecordById (r : MemoryRepository) (fileId : String) : Option FileRecord :=
  r.fileRecordStore.get fileId

/-- `getEmailDeliveryById`
SOURCE: apps/api/src/repositories/memory.js:281-284 -/
def getEmailDeliveryById (r : MemoryRepository) (deliveryId : String) : Option EmailDelivery :=
  r.emailDeliveryStore.get deliveryId

/-- `listEmailDeliveriesByTenant`
SOURCE: apps/api/src/repositories/memory.js:285-287 -/
def listEmailDeliveriesByTenant (r : MemoryRepository) (tenantId : String) : List EmailDelivery :=
  r.emailDeliveryStore.values.filter fun delivery => delivery.tenantId = tenantId

/-- `listAuditEventsByTenant`
SOURCE: apps/api/src/repositories/memory.js:342-344 -/
def listAuditEventsByTenant (r : MemoryRepository) (tenantId : String) : List AuditEvent :=
  r.auditEventStore.filter fun event => event.tenantId = tenantId

/-- The hash of the tenant's last audit event.
SOURCE: apps/api/src/repositories/memory.js:302-303 -/
def lastEventHash (r : MemoryRepository) (tenantId : String) : Option String :=
  (r.listAuditEventsByTenant tenantId).getLast?.map AuditEvent.eventHash

/-- The delivery a provider message belongs to: the first one with its id.
SOURCE: apps/api/src/repositories/memory.js:309-311 -/
def deliveryOfMessage (r : MemoryRepository) (emailId : Option String) : Option EmailDelivery :=
  r.emailDeliveryStore.values.find? fun delivery => delivery.hasMessage emailId

end MemoryRepository

/-- An operation of the memory repository. -/
abbrev RepositoryM : Type → Type := Effect JsError MemoryRepository

/-- The error of a write to a delivery that is not stored. -/
def deliveryNotFound : JsError := newError "Email delivery not found."

/-- Append the evidence, unless an event with its id is there.
SOURCE: apps/api/src/repositories/memory.js:304 -/
def pushEvidence (evidence : Option AuditEvent) : RepositoryM Unit := do
  let r ← get
  match evidence with
  | none => return ()
  | some event =>
    if r.auditEventStore.any fun stored => stored.eventId = event.eventId then return ()
    set { r with auditEventStore := r.auditEventStore ++ [event] }

/-- The evidence options of an operation: an event, or a factory that gets the hash of the
event before it. -/
structure Evidence where
  auditEvent : Option AuditEvent := none
  auditEventFactory : Option (Option String → Except JsError AuditEvent) := none

/-- The evidence for a tenant: the factory's if there is one.
SOURCE: apps/api/src/repositories/memory.js:302-303 -/
def Evidence.resolve (evidence : Evidence) (previousHash : Option String) :
    Except JsError (Option AuditEvent) :=
  match evidence.auditEventFactory with
  | some factory => some <$> factory previousHash
  | none => .ok evidence.auditEvent

section

variable (P : Platform)

/-- `getEmailSuppression`
SOURCE: apps/api/src/repositories/memory.js:288-290 -/
def getEmailSuppression (r : MemoryRepository) (tenantId recipientEmail : String) :
    Except JsError (Option EmailSuppression) := do
  let recipient ← normalizeEmailRecipient P recipientEmail
  return r.emailSuppressionStore.get (tenantId ++ ":" ++ recipient)

/-- `saveEmailDelivery`
SOURCE: apps/api/src/repositories/memory.js:294-298 -/
def saveEmailDelivery (delivery : EmailDelivery) : RepositoryM EmailDelivery := do
  let r ← get
  if !r.emailDeliveryStore.has delivery.id then throw deliveryNotFound
  set { r with emailDeliveryStore := r.emailDeliveryStore.put delivery }
  return delivery

/-- `finalizeEmailDelivery`
SOURCE: apps/api/src/repositories/memory.js:299-306 -/
def finalizeEmailDelivery (delivery : EmailDelivery) (evidence : Evidence) :
    RepositoryM EmailDelivery := do
  let r ← get
  if !r.emailDeliveryStore.has delivery.id then throw deliveryNotFound
  set { r with emailDeliveryStore := r.emailDeliveryStore.put delivery }
  let event ← evidence.resolve (r.lastEventHash delivery.tenantId)
  pushEvidence event
  return delivery

/-- What `applyEmailWebhook` returns. -/
structure WebhookResult where
  duplicate : Bool
  delivery : Option EmailDelivery

/-- The suppression of a webhook, merged with the one stored under its key.
SOURCE: apps/api/src/repositories/memory.js:314-318 -/
def putSuppression (delivery : EmailDelivery) (event : WebhookEvent) (webhookId : String) :
    RepositoryM Unit := do
  let incoming ← createEmailSuppressionFromWebhook P delivery event webhookId
  match incoming with
  | none => return ()
  | some incoming =>
    let r ← get
    let merged ← mergeEmailSuppression (r.emailSuppressionStore.get incoming.storeKey) incoming
    set { r with emailSuppressionStore := r.emailSuppressionStore.put merged }

/-- `applyEmailWebhook`. A merged suppression has the key of the incoming one.
SOURCE: apps/api/src/repositories/memory.js:307-324 -/
def applyEmailWebhook (webhookId : String) (event : WebhookEvent)
    (evidence : EmailDelivery → Evidence) : RepositoryM WebhookResult := do
  let r ← get
  if r.emailWebhookEventStore.has webhookId then return ⟨true, none⟩
  match r.deliveryOfMessage event.emailId with
  | none => return ⟨false, none⟩
  | some delivery =>
    let updated ← applyEmailWebhookStatus P delivery event
    set { r with emailDeliveryStore := r.emailDeliveryStore.put updated }
    putSuppression P updated event webhookId
    modify fun r =>
      { r with
        emailWebhookEventStore :=
          r.emailWebhookEventStore.put ⟨webhookId, updated.tenantId, event⟩ }
    let auditEvent ← (evidence updated).resolve (r.lastEventHash updated.tenantId)
    pushEvidence auditEvent
    return ⟨false, some updated⟩

/-- A call of `applyEmailWebhook`, with the evidence options it brings. -/
structure WebhookCall where
  webhookId : String
  event : WebhookEvent
  evidence : EmailDelivery → Evidence

/-- The repository as an object that takes webhooks. -/
def webhooks : Object MemoryRepository WebhookCall (Except JsError WebhookResult) where
  call c r := Effect.exec (applyEmailWebhook P c.webhookId c.event c.evidence) r

/-- Whether a call matched a delivery: `matched` of the webhook's response.
SOURCE: apps/api/src/email-webhook.js:39 -/
def isMatched : Except JsError WebhookResult → Bool
  | .ok result => result.delivery.isSome
  | .error _ => false

end

/-- The error of a write to a file that is not stored. -/
def fileNotFound : JsError := newError "File record not found."

/-- `finalizeFileRecord`
SOURCE: apps/api/src/repositories/memory.js:336-341 -/
def finalizeFileRecord (fileRecord : FileRecord) (auditEvent : AuditEvent) :
    RepositoryM FileRecord := do
  let r ← get
  if !r.fileRecordStore.has fileRecord.id then throw fileNotFound
  set { r with
    fileRecordStore := r.fileRecordStore.put fileRecord
    auditEventStore := r.auditEventStore ++ [auditEvent] }
  return fileRecord

/-- `appendAuditEvent`
SOURCE: apps/api/src/repositories/memory.js:345-348 -/
def appendAuditEvent (event : AuditEvent) : RepositoryM AuditEvent := do
  modify fun r => { r with auditEventStore := r.auditEventStore ++ [event] }
  return event

end Xygo.Model
