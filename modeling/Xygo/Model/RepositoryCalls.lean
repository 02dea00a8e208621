import Xygo.Model.EmailQueue
import Xygo.Model.FileRoutes
import Xygo.Model.FindingRoutes
import Xygo.Model.Permits
import Xygo.Model.PlatformBlueprint

/-!
# The calls of a repository

The operations every repository of `apps/api/src/repositories` has, as calls with their answers,
and what the memory repository makes of each. The creations no route of this development uses are
here as well, with their constructors. The heartbeats of the worker and the health summaries are
left out.
-/

set_option autoImplicit false

namespace Xygo.Model

open Xygo.Computation

/-- The statuses of a request for information under their texts.
SOURCE: packages/coordination/src/index.js:17-23 -/
def rfiStatus? (status : String) : Option RfiStatus :=
  [RfiStatus.draft, .submitted, .answered, .closed, .returned].find? fun known =>
    known.text = status

/-- `createRfi`
SOURCE: packages/coordination/src/index.js:103-127 -/
def createRfi (input : Json) : Except JsError Rfi := do
  let id ← input.requiredString "id" "RFI id"
  let tenantId ← input.requiredString "tenantId" "RFI tenantId"
  let projectId ← input.requiredString "projectId" "RFI projectId"
  let title ← input.requiredString "title" "RFI title"
  let status ← input.requiredString "status" "RFI status"
  match rfiStatus? status with
  | none => throw (newError ("Unknown RFI status: " ++ status))
  | some status =>
    return {
      id := id
      tenantId := tenantId
      projectId := projectId
      title := title
      question := input.orElse "question" (.string "")
      requestedBy := input.orElse "requestedBy" .null
      assignedTo := input.orElse "assignedTo" .null
      status := status
      relatedSheetIds := input.orElse "relatedSheetIds" (.array [])
      relatedIssueIds := input.orElse "relatedIssueIds" (.array [])
      staged := true }

/-- `createReviewSession`
SOURCE: packages/projects/src/index.js:93-114 -/
def createReviewSession (input : Json) : Except JsError ReviewSession := do
  let id ← input.requiredString "id" "Review session id"
  let tenantId ← input.requiredString "tenantId" "Review session tenantId"
  let projectId ← input.requiredString "projectId" "Review session projectId"
  let createdBy ← input.requiredString "createdBy" "Review session createdBy"
  requiredArray (input.orElse "artifactRefs" (.array [])) "Review session artifactRefs"
  if !input.isTrue "staged" then
    throw (newError "Review sessions must be staged synthetic records.")
  return {
    id := id
    tenantId := tenantId
    projectId := projectId
    createdBy := createdBy
    artifactRefs := input.member? "artifactRefs"
    status := input.orElse "status" (.string "open")
    commentIds := input.orElse "commentIds" (.array [])
    staged := true }

/-- `createPermitPackage`, on the input of a request.
SOURCE: packages/permits/src/index.js:36-61 -/
def Permits.createPermitPackage (input : Json) : Except JsError PermitPackage := do
  let id ← input.requiredString "id" "Permit package id"
  let tenantId ← input.requiredString "tenantId" "Permit package tenantId"
  let projectId ← input.requiredString "projectId" "Permit package projectId"
  let jurisdictionProfile ←
    input.requiredString "jurisdictionProfile" "Permit package jurisdictionProfile"
  let status ← input.requiredString "status" "Permit package status"
  match permitStatus? status with
  | none => throw (unknownPermitStatus status)
  | some status =>
    return {
      id := id
      tenantId := tenantId
      projectId := projectId
      jurisdictionProfile := jurisdictionProfile
      status := status
      submissionPackageRefs := input.orElse "submissionPackageRefs" (.array [])
      requiredFormsChecklist := input.orElse "requiredFormsChecklist" (.array [])
      reviewComments := input.orElse "reviewComments" (.array [])
      responseMatrix := input.orElse "responseMatrix" (.array [])
      submissionCycles := input.orElse "submissionCycles" (.number "0")
      permitReadinessFindings := input.orElse "permitReadinessFindings" (.array [])
      staged := true }

namespace MemoryRepository

/-- `createRfi`
SOURCE: apps/api/src/repositories/memory.js:109-121 -/
def createRfi (input : Json) : RepositoryM Rfi := do
  let rfi ← Model.createRfi input.staged
  let r ← get
  if r.rfiStore.has rfi.id then throw (newError "RFI id already exists.")
  set { r with rfiStore := r.rfiStore.put rfi }
  return rfi

/-- `createPermitPackage`
SOURCE: apps/api/src/repositories/memory.js:125-137 -/
def createPermitPackage (input : Json) : RepositoryM PermitPackage := do
  let permitPackage ← Permits.createPermitPackage input.staged
  let r ← get
  if r.permitStore.has permitPackage.id then
    throw (newError "Permit package id already exists.")
  set { r with permitStore := r.permitStore.put permitPackage }
  return permitPackage

/-- `createReviewSession`
SOURCE: apps/api/src/repositories/memory.js:143-155 -/
def createReviewSession (input : Json) : RepositoryM ReviewSession := do
  let reviewSession ← Model.createReviewSession input.staged
  let r ← get
  if r.reviewSessionStore.has reviewSession.id then
    throw (newError "Review session id already exists.")
  set { r with reviewSessionStore := r.reviewSessionStore.put reviewSession }
  return reviewSession

/-- `createPlatformBlueprint`
SOURCE: apps/api/src/repositories/memory.js:220-229 -/
def createPlatformBlueprint (T : UnicodeTable) (input : Json) :
    RepositoryM PlatformBlueprint := do
  let blueprint ← generatePlatformBlueprint T input.staged
  let r ← get
  if r.platformBlueprintStore.has blueprint.id then
    throw (newError "Platform blueprint id already exists.")
  set { r with platformBlueprintStore := r.platformBlueprintStore.put blueprint }
  return blueprint

/-- `listIssuesByProject`
SOURCE: apps/api/src/repositories/memory.js:90-92 -/
def listIssuesByProject (r : MemoryRepository) (projectId : String) : List CoordinationIssue :=
  r.issueStore.values.filter fun issue => issue.projectId = projectId

/-- `listEmailSuppressionsByTenant`
SOURCE: apps/api/src/repositories/memory.js:291-293 -/
def listEmailSuppressionsByTenant (r : MemoryRepository) (tenantId : String) :
    List EmailSuppression :=
  r.emailSuppressionStore.values.filter fun item => item.tenantId = tenantId

end MemoryRepository

/-- A record a repository stores. -/
inductive StoredRecord
  | project (project : Project)
  | issue (issue : CoordinationIssue)
  | rfi (rfi : Rfi)
  | permitPackage (permitPackage : PermitPackage)
  | reviewSession (reviewSession : ReviewSession)
  | reviewRun (reviewRun : AiReviewRun)
  | finding (finding : AiFinding)
  | blueprint (blueprint : PlatformBlueprint)
  | report (report : FieldReport)
  | fileRecord (fileRecord : FileRecord)
  | delivery (delivery : EmailDelivery)
  | suppression (suppression : EmailSuppression)
  | auditEvent (event : AuditEvent)

/-- What a call answers. -/
inductive RepositoryAnswer
  | opened
  | record (record : StoredRecord)
  | found (record : Option StoredRecord)
  | listed (records : List StoredRecord)
  | createdDelivery (created : CreatedDelivery)
  | webhook (result : WebhookResult)

/-- The calls that read. -/
inductive RepositoryRead
  | listProjectsByTenant (tenantId : String)
  | getProjectById (projectId : Json)
  | listIssuesByTenant (tenantId : String)
  | listIssuesByProject (projectId : String)
  | listRfisByTenant (tenantId : String)
  | listPermitPackagesByTenant (tenantId : String)
  | listReviewSessionsByTenant (tenantId : String)
  | listAiReviewRunsByTenant (tenantId : String)
  | getAiReviewRunById (reviewRunId : Json)
  | listAiFindingsByTenant (tenantId : String)
  | getAiFindingById (findingId : String)
  | listPlatformBlueprintsByTenant (tenantId : String)
  | getPlatformBlueprintById (blueprintId : String)
  | listFieldReportsByTenant (tenantId : String)
  | getFieldReportById (reportId : String)
  | listFileRecordsByTenant (tenantId : String)
  | getFileRecordById (fileId : String)
  | getEmailDeliveryById (deliveryId : String)
  | listEmailDeliveriesByTenant (tenantId : String)
  | getEmailSuppression (tenantId recipientEmail : String)
  | listEmailSuppressionsByTenant (tenantId : String)
  | listAuditEventsByTenant (tenantId : String)

/-- The calls that may write. -/
inductive RepositoryWrite
  | createProject (input : Json)
  | createIssue (input : Json)
  | createRfi (input : Json)
  | createPermitPackage (input : Json)
  | createReviewSession (input : Json)
  | createAiReviewRun (input : Json)
  | createAiFinding (input : Json)
  | setAiFindingDisposition (findingId : String) (nextDisposition relatedIssueId : Json)
  | createPlatformBlueprint (input : Json)
  | createFieldReport (input : Json)
  | saveFieldReport (report : FieldReport)
  | createFileRecord (fileRecord : FileRecord)
  | saveFileRecord (fileRecord : FileRecord)
  | finalizeFileRecord (fileRecord : FileRecord) (auditEvent : AuditEvent)
  | createEmailDelivery (delivery : EmailDelivery)
  | saveEmailDelivery (delivery : EmailDelivery)
  | finalizeEmailDelivery (delivery : EmailDelivery) (evidence : Evidence)
  | applyEmailWebhook (call : WebhookCall)
  | appendAuditEvent (event : AuditEvent)

/-- A call of a repository. -/
inductive RepositoryCall
  | read (call : RepositoryRead)
  | write (call : RepositoryWrite)

section

variable (P : Platform) (T : UnicodeTable)

/-- A read of the memory repository. -/
def MemoryRepository.read (r : MemoryRepository) :
    RepositoryRead → Except JsError RepositoryAnswer
  | .listProjectsByTenant tenantId =>
    .ok (.listed ((r.listProjectsByTenant tenantId).map .project))
  | .getProjectById projectId => .ok (.found ((r.getProjectById projectId).map .project))
  | .listIssuesByTenant tenantId => .ok (.listed ((r.listIssuesByTenant tenantId).map .issue))
  | .listIssuesByProject projectId => .ok (.listed ((r.listIssuesByProject projectId).map .issue))
  | .listRfisByTenant tenantId => .ok (.listed ((r.listRfisByTenant tenantId).map .rfi))
  | .listPermitPackagesByTenant tenantId =>
    .ok (.listed ((r.listPermitPackagesByTenant tenantId).map .permitPackage))
  | .listReviewSessionsByTenant tenantId =>
    .ok (.listed ((r.listReviewSessionsByTenant tenantId).map .reviewSession))
  | .listAiReviewRunsByTenant tenantId =>
    .ok (.listed ((r.listAiReviewRunsByTenant tenantId).map .reviewRun))
  | .getAiReviewRunById reviewRunId =>
    .ok (.found ((r.getAiReviewRunById reviewRunId).map .reviewRun))
  | .listAiFindingsByTenant tenantId =>
    .ok (.listed ((r.listAiFindingsByTenant tenantId).map .finding))
  | .getAiFindingById findingId => .ok (.found ((r.getAiFindingById findingId).map .finding))
  | .listPlatformBlueprintsByTenant tenantId =>
    .ok (.listed ((r.listPlatformBlueprintsByTenant tenantId).map .blueprint))
  | .getPlatformBlueprintById blueprintId =>
    .ok (.found ((r.getPlatformBlueprintById blueprintId).map .blueprint))
  | .listFieldReportsByTenant tenantId =>
    .ok (.listed ((r.listFieldReportsByTenant tenantId).map .report))
  | .getFieldReportById reportId => .ok (.found ((r.getFieldReportById reportId).map .report))
  | .listFileRecordsByTenant tenantId =>
    .ok (.listed ((r.listFileRecordsByTenant tenantId).map .fileRecord))
  | .getFileRecordById fileId => .ok (.found ((r.getFileRecordById fileId).map .fileRecord))
  | .getEmailDeliveryById deliveryId =>
    .ok (.found ((r.getEmailDeliveryById deliveryId).map .delivery))
  | .listEmailDeliveriesByTenant tenantId =>
    .ok (.listed ((r.listEmailDeliveriesByTenant tenantId).map .delivery))
  | .getEmailSuppression tenantId recipientEmail =>
    (fun found => .found (found.map .suppression)) <$>
      getEmailSuppression P r tenantId recipientEmail
  | .listEmailSuppressionsByTenant tenantId =>
    .ok (.listed ((r.listEmailSuppressionsByTenant tenantId).map .suppression))
  | .listAuditEventsByTenant tenantId =>
    .ok (.listed ((r.listAuditEventsByTenant tenantId).map .auditEvent))

/-- A write of the memory repository. -/
def MemoryRepository.write : RepositoryWrite → RepositoryM RepositoryAnswer
  | .createProject input => (.record ∘ .project) <$> createProject input
  | .createIssue input => (.record ∘ .issue) <$> createIssue input
  | .createRfi input => (.record ∘ .rfi) <$> createRfi input
  | .createPermitPackage input => (.record ∘ .permitPackage) <$> createPermitPackage input
  | .createReviewSession input => (.record ∘ .reviewSession) <$> createReviewSession input
  | .createAiReviewRun input => (.record ∘ .reviewRun) <$> createAiReviewRun input
  | .createAiFinding input => (.record ∘ .finding) <$> createAiFinding input
  | .setAiFindingDisposition findingId nextDisposition relatedIssueId =>
    (.record ∘ .finding) <$> setAiFindingDisposition findingId nextDisposition relatedIssueId
  | .createPlatformBlueprint input =>
    (.record ∘ .blueprint) <$> createPlatformBlueprint T input
  | .createFieldReport input => (.record ∘ .report) <$> createFieldReport input
  | .saveFieldReport report => (.record ∘ .report) <$> saveFieldReport report
  | .createFileRecord fileRecord => (.record ∘ .fileRecord) <$> createFileRecord fileRecord
  | .saveFileRecord fileRecord => (.record ∘ .fileRecord) <$> saveFileRecord fileRecord
  | .finalizeFileRecord fileRecord auditEvent =>
    (.record ∘ .fileRecord) <$> finalizeFileRecord fileRecord auditEvent
  | .createEmailDelivery delivery => .createdDelivery <$> createEmailDelivery delivery
  | .saveEmailDelivery delivery => (.record ∘ .delivery) <$> saveEmailDelivery delivery
  | .finalizeEmailDelivery delivery evidence =>
    (.record ∘ .delivery) <$> finalizeEmailDelivery delivery evidence
  | .applyEmailWebhook call =>
    .webhook <$> applyEmailWebhook P call.webhookId call.event call.evidence
  | .appendAuditEvent event => (.record ∘ .auditEvent) <$> appendAuditEvent event

/-- The memory repository as an object that takes any call. -/
def MemoryRepository.object :
    Object MemoryRepository RepositoryCall (Except JsError RepositoryAnswer) where
  call
    | .read call, r => (r.read P call, r)
    | .write call, r => Effect.exec (MemoryRepository.write P T call) r

end

end Xygo.Model
