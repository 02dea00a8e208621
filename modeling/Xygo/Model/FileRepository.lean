import Xygo.Computation.SharedContent
import Xygo.Model.EmailBackends
import Xygo.Model.RepositoryCalls

/-!
# The file repository

`createFileRepository` of `apps/api/src/repositories/file.js`: one JSON file with the lists of all
records. An operation reads the whole file, and one that changes something writes the whole file
again, under a temporary name that is then renamed over it. So a reader sees the file as it was
written once, and an operation that throws, or a process that ends before the rename, leaves it
as it is. What is written and read back is the same state.
-/

set_option autoImplicit false

namespace Xygo.Model

open Xygo.Computation

/-- The state the file holds. A list that a file of an earlier release lacks is empty.
SOURCE: apps/api/src/repositories/seed.js:21-39 -/
structure RepositoryState extends FileEmailState where
  projects : List Project := []
  issues : List CoordinationIssue := []
  rfis : List Rfi := []
  permitPackages : List PermitPackage := []
  reviewSessions : List ReviewSession := []
  aiReviewRuns : List AiReviewRun := []
  aiFindings : List AiFinding := []
  platformBlueprints : List PlatformBlueprint := []
  fieldReports : List FieldReport := []
  fileRecords : List FileRecord := []

/-- The file as an operation finds it, none where there is none, and what it renames over it. -/
structure FileAccess where
  content : Option RepositoryState
  written : Option RepositoryState := none

/-- An operation of the file repository. -/
abbrev FileRepositoryM : Type → Type := Effect JsError FileAccess

namespace FileStore

/-- `listByTenant`
SOURCE: apps/api/src/repositories/file.js:57-59 -/
def listByTenant {β : Type} (tenantOf : β → String) (items : List β) (tenantId : String) :
    List β :=
  items.filter fun item => tenantOf item = tenantId

/-- `replaceById`
SOURCE: apps/api/src/repositories/file.js:61-63 -/
def replaceById {β : Type} (idOf : β → String) (items : List β) (nextItem : β) : List β :=
  items.map fun item => if idOf item = idOf nextItem then nextItem else item

/-- Whether an item has the id. -/
def hasId {β : Type} (idOf : β → String) (items : List β) (id : String) : Bool :=
  items.any fun item => idOf item = id

/-- The item with the id. -/
def findById {β : Type} (idOf : β → String) (items : List β) (id : String) : Option β :=
  items.find? fun item => idOf item = id

/-- The item whose id is a value of a request. -/
def findByValue {β : Type} (idOf : β → String) (items : List β) : Json → Option β
  | .string id => findById idOf items id
  | _ => none

section

variable (P : Platform) (T : UnicodeTable) (seed : RepositoryState)

/-- `readState`
SOURCE: apps/api/src/repositories/file.js:26-32 -/
def readState : FileRepositoryM RepositoryState := do
  let access ← get
  return access.content.getD seed

/-- `writeState`
SOURCE: apps/api/src/repositories/file.js:34-55 -/
def writeState (state : RepositoryState) : FileRepositoryM Unit :=
  modify fun access => { access with written := some state }

/-- `createFileRepository`
SOURCE: apps/api/src/repositories/file.js:65-72 -/
def createFileRepository : FileRepositoryM Unit := do
  let access ← get
  if access.content.isNone then writeState seed

/-- The shape of the creations: a constructor, and a list no two items of which have one id. -/
def createIn {β : Type} (idOf : β → String) (items : RepositoryState → List β)
    (store : RepositoryState → List β → RepositoryState) (message : String)
    (construct : Except JsError β) : FileRepositoryM β := do
  let state ← readState seed
  let item ← construct
  if hasId idOf (items state) (idOf item) then throw (newError message)
  writeState (store state (items state ++ [item]))
  return item

/-- `createProject`
SOURCE: apps/api/src/repositories/file.js:81-95 -/
def createProject (input : Json) : FileRepositoryM Project :=
  createIn seed Project.id RepositoryState.projects
    (fun state projects => { state with projects := projects })
    "Project id already exists." (Model.createProject input.staged)

/-- `createIssue`
SOURCE: apps/api/src/repositories/file.js:102-116 -/
def createIssue (input : Json) : FileRepositoryM CoordinationIssue :=
  createIn seed CoordinationIssue.id RepositoryState.issues
    (fun state issues => { state with issues := issues })
    "Coordination issue id already exists." (createCoordinationIssue input.staged)

/-- `createRfi`
SOURCE: apps/api/src/repositories/file.js:120-134 -/
def createRfi (input : Json) : FileRepositoryM Rfi :=
  createIn seed Rfi.id RepositoryState.rfis (fun state rfis => { state with rfis := rfis })
    "RFI id already exists." (Model.createRfi input.staged)

/-- `createPermitPackage`
SOURCE: apps/api/src/repositories/file.js:138-152 -/
def createPermitPackage (input : Json) : FileRepositoryM PermitPackage :=
  createIn seed PermitPackage.id RepositoryState.permitPackages
    (fun state permitPackages => { state with permitPackages := permitPackages })
    "Permit package id already exists." (Permits.createPermitPackage input.staged)

/-- `createReviewSession`
SOURCE: apps/api/src/repositories/file.js:156-170 -/
def createReviewSession (input : Json) : FileRepositoryM ReviewSession :=
  createIn seed ReviewSession.id RepositoryState.reviewSessions
    (fun state reviewSessions => { state with reviewSessions := reviewSessions })
    "Review session id already exists." (Model.createReviewSession input.staged)

/-- `createAiReviewRun`
SOURCE: apps/api/src/repositories/file.js:177-191 -/
def createAiReviewRun (input : Json) : FileRepositoryM AiReviewRun :=
  createIn seed AiReviewRun.id RepositoryState.aiReviewRuns
    (fun state aiReviewRuns => { state with aiReviewRuns := aiReviewRuns })
    "AI review run id already exists." (createReviewRun input.staged)

/-- `createAiFinding`
SOURCE: apps/api/src/repositories/file.js:202-216 -/
def createAiFinding (input : Json) : FileRepositoryM AiFinding :=
  createIn seed AiFinding.id RepositoryState.aiFindings
    (fun state aiFindings => { state with aiFindings := aiFindings })
    "AI finding id already exists." (createFinding input.staged)

/-- `setAiFindingDisposition`
SOURCE: apps/api/src/repositories/file.js:217-235 -/
def setAiFindingDisposition (findingId : String) (nextDisposition relatedIssueId : Json) :
    FileRepositoryM AiFinding := do
  let state ← readState seed
  match findById AiFinding.id state.aiFindings findingId with
  | none => throw (newError "AI finding not found.")
  | some finding =>
    let updatedFinding ← setHumanDisposition finding nextDisposition relatedIssueId
    writeState { state with
      aiFindings := replaceById AiFinding.id state.aiFindings updatedFinding }
    return updatedFinding

/-- `createPlatformBlueprint`
SOURCE: apps/api/src/repositories/file.js:242-256 -/
def createPlatformBlueprint (input : Json) : FileRepositoryM PlatformBlueprint :=
  createIn seed PlatformBlueprint.id RepositoryState.platformBlueprints
    (fun state platformBlueprints => { state with platformBlueprints := platformBlueprints })
    "Platform blueprint id already exists." (generatePlatformBlueprint T input.staged)

/-- `createFieldReport`
SOURCE: apps/api/src/repositories/file.js:263-275 -/
def createFieldReport (input : Json) : FileRepositoryM FieldReport :=
  createIn seed FieldReport.id RepositoryState.fieldReports
    (fun state fieldReports => { state with fieldReports := fieldReports })
    "Field report id already exists." (Model.createFieldReport input.staged)

/-- `saveFieldReport`
SOURCE: apps/api/src/repositories/file.js:276-286 -/
def saveFieldReport (report : FieldReport) : FileRepositoryM FieldReport := do
  let state ← readState seed
  writeState { state with
    fieldReports :=
      if hasId FieldReport.id state.fieldReports report.id then
        replaceById FieldReport.id state.fieldReports report
      else state.fieldReports ++ [report] }
  return report

/-- `createFileRecord`
SOURCE: apps/api/src/repositories/file.js:294-301 -/
def createFileRecord (fileRecord : FileRecord) : FileRepositoryM FileRecord :=
  createIn seed FileRecord.id RepositoryState.fileRecords
    (fun state fileRecords => { state with fileRecords := fileRecords })
    "File id already exists." (.ok fileRecord)

/-- `saveFileRecord`
SOURCE: apps/api/src/repositories/file.js:302-309 -/
def saveFileRecord (fileRecord : FileRecord) : FileRepositoryM FileRecord := do
  let state ← readState seed
  if !hasId FileRecord.id state.fileRecords fileRecord.id then throw fileNotFound
  writeState { state with fileRecords := replaceById FileRecord.id state.fileRecords fileRecord }
  return fileRecord

/-- `finalizeFileRecord`
SOURCE: apps/api/src/repositories/file.js:405-413 -/
def finalizeFileRecord (fileRecord : FileRecord) (auditEvent : AuditEvent) :
    FileRepositoryM FileRecord := do
  let state ← readState seed
  if !hasId FileRecord.id state.fileRecords fileRecord.id then throw fileNotFound
  writeState { state with
    fileRecords := replaceById FileRecord.id state.fileRecords fileRecord
    auditEvents := state.auditEvents ++ [auditEvent] }
  return fileRecord

/-- `createEmailDelivery`
SOURCE: apps/api/src/repositories/file.js:310-326 -/
def createEmailDelivery (delivery : EmailDelivery) : FileRepositoryM CreatedDelivery := do
  let state ← readState seed
  match state.emailDeliveries.find? fun item =>
      item.idempotencyKey = delivery.idempotencyKey with
  | some existing =>
    if emailDeliveryIntentMatches existing delivery then return ⟨false, existing⟩
    else throw deliveryConflict
  | none =>
    if hasId EmailDelivery.id state.emailDeliveries delivery.id then
      throw (newError "Email delivery id already exists.")
    writeState { state with emailDeliveries := state.emailDeliveries ++ [delivery] }
    return ⟨true, delivery⟩

/-- `getEmailSuppression`: the recipient is normalized for each item of the tenant.
SOURCE: apps/api/src/repositories/file.js:334-338 -/
def getEmailSuppression (state : RepositoryState) (tenantId recipientEmail : String) :
    Except JsError (Option EmailSuppression) :=
  state.emailSuppressions.findM? fun item =>
    if item.tenantId = tenantId then do
      let recipient ← normalizeEmailRecipient P recipientEmail
      return item.normalizedRecipient = recipient
    else return false

/-- `saveEmailDelivery`
SOURCE: apps/api/src/repositories/file.js:342-349 -/
def saveEmailDelivery (delivery : EmailDelivery) : FileRepositoryM EmailDelivery := do
  let state ← readState seed
  if !hasId EmailDelivery.id state.emailDeliveries delivery.id then throw deliveryNotFound
  writeState { state with
    emailDeliveries := replaceById EmailDelivery.id state.emailDeliveries delivery }
  return delivery

/-- An operation on the deliveries and their evidence: it writes the state where it answers so.
SOURCE: apps/api/src/repositories/file.js:350-387 -/
def onEmails {α : Type} (writes : α → Bool) (operation : FileM α) : FileRepositoryM α := do
  let state ← readState seed
  let result := Effect.exec operation state.toFileEmailState
  let answer ← result.1
  if writes answer then writeState { state with toFileEmailState := result.2 }
  return answer

/-- `finalizeEmailDelivery`
SOURCE: apps/api/src/repositories/file.js:350-360 -/
def finalizeEmailDelivery (delivery : EmailDelivery) (evidence : Evidence) :
    FileRepositoryM EmailDelivery :=
  onEmails seed (fun _ => true) (FileRepository.finalizeEmailDelivery delivery evidence)

/-- `applyEmailWebhook`: a webhook that was processed or that matches no delivery writes nothing.
SOURCE: apps/api/src/repositories/file.js:361-387 -/
def applyEmailWebhook (webhookId : String) (event : WebhookEvent)
    (evidence : EmailDelivery → Evidence) : FileRepositoryM WebhookResult :=
  onEmails seed (fun result => result.delivery.isSome)
    (FileRepository.applyEmailWebhook P webhookId event evidence)

/-- `appendAuditEvent`
SOURCE: apps/api/src/repositories/file.js:417-422 -/
def appendAuditEvent (event : AuditEvent) : FileRepositoryM AuditEvent := do
  let state ← readState seed
  writeState { state with auditEvents := state.auditEvents ++ [event] }
  return event

/-- `listAiFindingsByTenant`
SOURCE: apps/api/src/repositories/file.js:192-198 -/
def listAiFindingsByTenant (state : RepositoryState) (tenantId : String) : List AiFinding :=
  state.aiFindings.filter fun finding =>
    (findById AiReviewRun.id state.aiReviewRuns finding.reviewRunId).any fun reviewRun =>
      reviewRun.tenantId = tenantId

/-- A read of the state.
SOURCE: apps/api/src/repositories/file.js:75-80, 96-101, 117-119, 135-137, 153-155, 171-176,
192-201, 236-241, 257-262, 287-293, 327-341, 414-416 -/
def readOf (state : RepositoryState) : RepositoryRead → Except JsError RepositoryAnswer
  | .listProjectsByTenant tenantId =>
    .ok (.listed ((listByTenant Project.tenantId state.projects tenantId).map .project))
  | .getProjectById projectId =>
    .ok (.found ((findByValue Project.id state.projects projectId).map .project))
  | .listIssuesByTenant tenantId =>
    .ok (.listed ((listByTenant CoordinationIssue.tenantId state.issues tenantId).map .issue))
  | .listIssuesByProject projectId =>
    .ok (.listed ((state.issues.filter fun issue => issue.projectId = projectId).map .issue))
  | .listRfisByTenant tenantId =>
    .ok (.listed ((listByTenant Rfi.tenantId state.rfis tenantId).map .rfi))
  | .listPermitPackagesByTenant tenantId =>
    .ok (.listed
      ((listByTenant PermitPackage.tenantId state.permitPackages tenantId).map .permitPackage))
  | .listReviewSessionsByTenant tenantId =>
    .ok (.listed
      ((listByTenant ReviewSession.tenantId state.reviewSessions tenantId).map .reviewSession))
  | .listAiReviewRunsByTenant tenantId =>
    .ok (.listed
      ((listByTenant AiReviewRun.tenantId state.aiReviewRuns tenantId).map .reviewRun))
  | .getAiReviewRunById reviewRunId =>
    .ok (.found ((findByValue AiReviewRun.id state.aiReviewRuns reviewRunId).map .reviewRun))
  | .listAiFindingsByTenant tenantId =>
    .ok (.listed ((listAiFindingsByTenant state tenantId).map .finding))
  | .getAiFindingById findingId =>
    .ok (.found ((findById AiFinding.id state.aiFindings findingId).map .finding))
  | .listPlatformBlueprintsByTenant tenantId =>
    .ok (.listed ((listByTenant PlatformBlueprint.tenantId state.platformBlueprints
      tenantId).map .blueprint))
  | .getPlatformBlueprintById blueprintId =>
    .ok (.found ((findById PlatformBlueprint.id state.platformBlueprints
      blueprintId).map .blueprint))
  | .listFieldReportsByTenant tenantId =>
    .ok (.listed ((listByTenant FieldReport.tenantId state.fieldReports tenantId).map .report))
  | .getFieldReportById reportId =>
    .ok (.found ((findById FieldReport.id state.fieldReports reportId).map .report))
  | .listFileRecordsByTenant tenantId =>
    .ok (.listed
      ((listByTenant FileRecord.tenantId state.fileRecords tenantId).map .fileRecord))
  | .getFileRecordById fileId =>
    .ok (.found ((findById FileRecord.id state.fileRecords fileId).map .fileRecord))
  | .getEmailDeliveryById deliveryId =>
    .ok (.found ((findById EmailDelivery.id state.emailDeliveries deliveryId).map .delivery))
  | .listEmailDeliveriesByTenant tenantId =>
    .ok (.listed
      ((listByTenant EmailDelivery.tenantId state.emailDeliveries tenantId).map .delivery))
  | .getEmailSuppression tenantId recipientEmail =>
    (fun found => .found (found.map .suppression)) <$>
      getEmailSuppression P state tenantId recipientEmail
  | .listEmailSuppressionsByTenant tenantId =>
    .ok (.listed ((listByTenant EmailSuppression.tenantId state.emailSuppressions
      tenantId).map .suppression))
  | .listAuditEventsByTenant tenantId =>
    .ok (.listed
      ((state.auditEvents.filter fun event => event.tenantId = tenantId).map .auditEvent))

/-- A call that reads. -/
def read (call : RepositoryRead) : FileRepositoryM RepositoryAnswer := do
  let state ← readState seed
  readOf P state call

/-- A call that may write. -/
def write : RepositoryWrite → FileRepositoryM RepositoryAnswer
  | .createProject input => (.record ∘ .project) <$> createProject seed input
  | .createIssue input => (.record ∘ .issue) <$> createIssue seed input
  | .createRfi input => (.record ∘ .rfi) <$> createRfi seed input
  | .createPermitPackage input =>
    (.record ∘ .permitPackage) <$> createPermitPackage seed input
  | .createReviewSession input =>
    (.record ∘ .reviewSession) <$> createReviewSession seed input
  | .createAiReviewRun input => (.record ∘ .reviewRun) <$> createAiReviewRun seed input
  | .createAiFinding input => (.record ∘ .finding) <$> createAiFinding seed input
  | .setAiFindingDisposition findingId nextDisposition relatedIssueId =>
    (.record ∘ .finding) <$> setAiFindingDisposition seed findingId nextDisposition relatedIssueId
  | .createPlatformBlueprint input =>
    (.record ∘ .blueprint) <$> createPlatformBlueprint T seed input
  | .createFieldReport input => (.record ∘ .report) <$> createFieldReport seed input
  | .saveFieldReport report => (.record ∘ .report) <$> saveFieldReport seed report
  | .createFileRecord fileRecord => (.record ∘ .fileRecord) <$> createFileRecord seed fileRecord
  | .saveFileRecord fileRecord => (.record ∘ .fileRecord) <$> saveFileRecord seed fileRecord
  | .finalizeFileRecord fileRecord auditEvent =>
    (.record ∘ .fileRecord) <$> finalizeFileRecord seed fileRecord auditEvent
  | .createEmailDelivery delivery => .createdDelivery <$> createEmailDelivery seed delivery
  | .saveEmailDelivery delivery => (.record ∘ .delivery) <$> saveEmailDelivery seed delivery
  | .finalizeEmailDelivery delivery evidence =>
    (.record ∘ .delivery) <$> finalizeEmailDelivery seed delivery evidence
  | .applyEmailWebhook call =>
    .webhook <$> applyEmailWebhook P seed call.webhookId call.event call.evidence
  | .appendAuditEvent event => (.record ∘ .auditEvent) <$> appendAuditEvent seed event

end

end FileStore

/-- A call on the file: a process creates its repository, or calls it. -/
inductive FileCall
  | createFileRepository
  | repository (call : RepositoryCall)

/-- The operation of a call. -/
def FileCall.operation (P : Platform) (T : UnicodeTable) (seed : RepositoryState) :
    FileCall → FileRepositoryM RepositoryAnswer
  | .createFileRepository => (fun _ => .opened) <$> FileStore.createFileRepository seed
  | .repository (.read call) => FileStore.read P seed call
  | .repository (.write call) => FileStore.write P T seed call

/-- The calls that processes make on one file. -/
def FileStore.rewriter (P : Platform) (T : UnicodeTable) (seed : RepositoryState) :
    Rewriter (Option RepositoryState) FileCall (Except JsError RepositoryAnswer) where
  call call content :=
    let result := Effect.exec (call.operation P T seed) ⟨content, none⟩
    (result.1, result.2.written.map some)

end Xygo.Model
