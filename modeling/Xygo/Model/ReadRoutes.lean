import Xygo.Computation.Comparator
import Xygo.Model.Dashboards
import Xygo.Model.Pagination
import Xygo.Model.Paths
import Xygo.Model.RecordRoutes

/-!
# The routes that read

The GET routes of `apps/api/src/handlers.js`: the lists of a tenant, the records under an id, and
the views that are put together of several lists. They work on the memory repository, which keeps
no configuration of the client portal, and on the file storage, for the content of a file. The
synthetic records some views contain are those of `packages/test-fixtures`.

A request comes as `new URL` reads its path, under the principal it is made by, if there is one.
-/

set_option autoImplicit false

namespace Xygo.Model

open Xygo.Computation

/-! ### The synthetic records -/

/-- A drawing sheet.
SOURCE: packages/test-fixtures/src/synthetic-tenants.js:158-192 -/
structure DrawingSheet where
  id : String
  tenantId : String
  projectId : String
  fileId : String
  discipline : String
  sheetNumber : String
  sheetTitle : String
  sourceFormat : String := "pdf"
  staged : Bool := true
  deriving DecidableEq, Repr

/-- `syntheticDrawingSheets`
SOURCE: packages/test-fixtures/src/synthetic-tenants.js:158-192 -/
def syntheticDrawingSheets : List DrawingSheet :=
  [{ id := "sheet-residential-a101"
     tenantId := "tenant-residential-sim"
     projectId := "project-residential-a"
     fileId := "file-residential-sheetset-a"
     discipline := "architecture"
     sheetNumber := "A101"
     sheetTitle := "First Floor Plan" },
   { id := "sheet-commercial-a201"
     tenantId := "tenant-commercial-sim"
     projectId := "project-commercial-b"
     fileId := "file-commercial-sheetset-a"
     discipline := "architecture"
     sheetNumber := "A201"
     sheetTitle := "Level 2 Core & Shell Plan" },
   { id := "sheet-commercial-s301"
     tenantId := "tenant-commercial-sim"
     projectId := "project-commercial-b"
     fileId := "file-commercial-sheetset-a"
     discipline := "structural"
     sheetNumber := "S301"
     sheetTitle := "Level 2 Framing Plan" }]

/-- A file a view is made of.
SOURCE: packages/test-fixtures/src/synthetic-tenants.js:119-156 -/
structure SyntheticFile where
  id : String
  tenantId : String
  fileClass : String
  originalFilename : String
  detectedType : String
  deriving DecidableEq, Repr

/-- `syntheticFileRecords`
SOURCE: packages/test-fixtures/src/synthetic-tenants.js:119-156 -/
def syntheticFileRecords : List SyntheticFile :=
  [{ id := "file-residential-sheetset-a"
     tenantId := "tenant-residential-sim"
     fileClass := "drawing_source"
     originalFilename := "synthetic-residential-sheetset-a.pdf"
     detectedType := "pdf" },
   { id := "file-commercial-model-a"
     tenantId := "tenant-commercial-sim"
     fileClass := "model_source"
     originalFilename := "synthetic-commercial-model-a.ifc"
     detectedType := "ifc" },
   { id := "file-commercial-sheetset-a"
     tenantId := "tenant-commercial-sim"
     fileClass := "drawing_source"
     originalFilename := "synthetic-commercial-sheetset-a.pdf"
     detectedType := "pdf" }]

/-- A governance event, with its tenant.
SOURCE: packages/test-fixtures/src/synthetic-tenants.js:340-359 -/
def governanceEvent (tenantId : String) (requiresFinanceReview requiresLegalReview : Bool) :
    String × Members :=
  (tenantId, [("requiresFinanceReview", .bool requiresFinanceReview),
    ("requiresLegalReview", .bool requiresLegalReview)])

/-- `syntheticGovernanceEvents`
SOURCE: packages/test-fixtures/src/synthetic-tenants.js:340-359 -/
def syntheticGovernanceEvents : List (String × Members) :=
  [governanceEvent "tenant-commercial-sim" true false,
   governanceEvent "tenant-commercial-sim" false true]

/-- A package to be transferred.
SOURCE: packages/test-fixtures/src/synthetic-tenants.js:326-338 -/
structure TransferPackage where
  id : String
  tenantId : String
  destinationProvider : String
  approvalStatus : Option String := none
  deriving DecidableEq, Repr

/-- `syntheticTransferPackages`
SOURCE: packages/test-fixtures/src/synthetic-tenants.js:326-338 -/
def syntheticTransferPackages : List TransferPackage :=
  [{ id := "transfer-commercial-trimble-a"
     tenantId := "tenant-commercial-sim"
     destinationProvider := "trimble_connect" }]

/-- An update of a project for its client.
SOURCE: packages/test-fixtures/src/synthetic-tenants.js:489-511 -/
structure PortalUpdate where
  id : String
  tenantId : String
  projectId : String
  postedAt : String
  message : String
  deriving DecidableEq, Repr

/-- `syntheticPortalUpdates`
SOURCE: packages/test-fixtures/src/synthetic-tenants.js:489-511 -/
def syntheticPortalUpdates : List PortalUpdate :=
  [{ id := "update-commercial-1"
     tenantId := "tenant-commercial-sim"
     projectId := "project-commercial-b"
     postedAt := "2026-07-10T14:00:00.000Z"
     message := "Project kicked off. Staged workspace provisioned." },
   { id := "update-commercial-2"
     tenantId := "tenant-commercial-sim"
     projectId := "project-commercial-b"
     postedAt := "2026-07-16T16:00:00.000Z"
     message := "Level 2 core & shell progress captured; report pending client release." },
   { id := "update-residential-1"
     tenantId := "tenant-residential-sim"
     projectId := "project-residential-a"
     postedAt := "2026-07-12T09:00:00.000Z"
     message := "Residential design review scheduled." }]

namespace ReadRoutes

/-! ### The blueprint workspace -/

/-- A package of drawings. -/
structure WorkspacePackage where
  id : String
  tenantId : String
  projectId : Option String
  name : String
  fileClass : String
  sourceFormat : String
  status : String
  completeness : ℕ
  sheetCount : ℕ
  reviewRunIds : List String
  staged : Bool := true
  deriving DecidableEq, Repr

/-- What `createBlueprintWorkspacePayload` returns; a sheet comes with the id of its package. -/
structure BlueprintWorkspace where
  tenantId : String
  projects : List Project
  packages : List WorkspacePackage
  sheets : List (DrawingSheet × String)
  reviewSessions : List ReviewSession
  reviewRuns : List AiReviewRun
  findings : List AiFinding
  issues : List CoordinationIssue
  permits : List PermitPackage
  staged : Bool := true

/-- The lists the workspace is made of. -/
structure WorkspaceLists where
  projects : List Project
  reviewSessions : List ReviewSession
  aiReviewRuns : List AiReviewRun
  aiFindings : List AiFinding
  issues : List CoordinationIssue
  permits : List PermitPackage

/-- The values a loop over `value ?? []` goes through: a text gives its characters, and what is no
list throws. -/
def iterate : Option Json → Except JsError (List Json)
  | none | some .null => .ok []
  | some (.array items) => .ok items
  | some (.string text) => .ok (text.toList.map fun c => .string (String.singleton c))
  | _ => .error (newError "value is not iterable")

/-- The sheet a reference names. -/
def drawingOf : Json → Option String
  | .string ref =>
    if "drawing:".toList.isPrefixOf ref.toList then some (String.ofList (ref.toList.drop 8))
    else none
  | _ => none

/-- `tenantSheetIds`
SOURCE: apps/api/src/handlers.js:154-180 -/
def tenantSheetIds (tenantId : String) (lists : WorkspaceLists) :
    Except JsError (List String) := do
  let own := (syntheticDrawingSheets.filter fun sheet => sheet.tenantId = tenantId).map (·.id)
  let reviewed := (lists.aiReviewRuns.filter fun reviewRun =>
    reviewRun.artifactType = "drawing_sheet" && reviewRun.artifactId ≠ "").map (·.artifactId)
  let sessionRefs ← lists.reviewSessions.mapM fun reviewSession =>
    iterate reviewSession.artifactRefs
  let permitRefs ← lists.permits.mapM fun permitPackage =>
    iterate (some permitPackage.submissionPackageRefs)
  return own ++ reviewed ++ (sessionRefs.flatten ++ permitRefs.flatten).filterMap drawingOf

/-- The package of a file.
SOURCE: apps/api/src/handlers.js:194-212 -/
def workspacePackage (tenantId : String) (lists : WorkspaceLists) (sheets : List DrawingSheet)
    (file : SyntheticFile) : WorkspacePackage :=
  let packageSheets := sheets.filter fun sheet => sheet.fileId = file.id
  let linkedReviewRuns := lists.aiReviewRuns.filter fun reviewRun =>
    packageSheets.any fun sheet => sheet.id = reviewRun.artifactId
  let linkedFindings := lists.aiFindings.filter fun finding =>
    linkedReviewRuns.any fun reviewRun => reviewRun.id = finding.reviewRunId
  { id := file.id
    tenantId := tenantId
    projectId := (packageSheets.head?.map (·.projectId)).or (lists.projects.head?.map (·.id))
    name := file.originalFilename
    fileClass := file.fileClass
    sourceFormat := file.detectedType
    status :=
      if linkedFindings.any fun finding => finding.humanDisposition.isText "pending" then
        "awaiting_review"
      else "staged_ready"
    completeness := max 72 (96 - linkedFindings.length * 4)
    sheetCount := packageSheets.length
    reviewRunIds := linkedReviewRuns.map (·.id) }

/-- `createBlueprintWorkspacePayload`. The synthetic records have distinct ids, so that
`uniqueById` keeps them all.
SOURCE: apps/api/src/handlers.js:153-227 -/
def createBlueprintWorkspacePayload (tenantId : String) (lists : WorkspaceLists) :
    Except JsError BlueprintWorkspace := do
  let sheetIds ← tenantSheetIds tenantId lists
  let sheets := syntheticDrawingSheets.filter fun sheet =>
    sheet.id ∈ sheetIds && sheet.tenantId = tenantId
  let files := syntheticFileRecords.filter fun file =>
    (sheets.any fun sheet => sheet.fileId = file.id) && file.tenantId = tenantId
  return {
    tenantId := tenantId
    projects := lists.projects
    packages := files.map (workspacePackage tenantId lists sheets)
    sheets := sheets.map fun sheet => (sheet, sheet.fileId)
    reviewSessions := lists.reviewSessions
    reviewRuns := lists.aiReviewRuns
    findings := lists.aiFindings
    issues := lists.issues
    permits := lists.permits }

/-! ### The client portal -/

/-- A file, as the portal shows it. -/
structure PortalFile where
  id : String
  name : String
  fileClass : FileClass
  mimeType : String
  sizeBytes : Nat
  downloadPath : String
  deriving DecidableEq, Repr

/-- `paymentPlaceholder`: no amount and no currency.
SOURCE: packages/client-portal/src/index.js:8-16 -/
structure PaymentPlaceholder where
  status : String := "staged_no_billing"
  balanceDue : Option String := none
  currency : Option String := none
  note : String := "Payments are staged and simulated. No live billing is connected."
  staged : Bool := true
  deriving DecidableEq, Repr

/-- What `buildClientPortalView` returns: an update is its id, its time and its message. -/
structure ClientPortalView where
  tenantId : String
  projectId : String
  projectName : String
  projectStatus : Json
  reports : List ClientView
  files : List PortalFile
  updates : List (String × String × String)
  payment : PaymentPlaceholder := {}
  staged : Bool := true

/-- A file, for the portal of a project.
SOURCE: packages/client-portal/src/index.js:30-37 -/
def portalFile (project : Project) (file : FileRecord) : PortalFile where
  id := file.id
  name := file.originalFilename
  fileClass := file.fileClass
  mimeType := file.mimeType
  sizeBytes := file.sizeBytes
  downloadPath := "/v1/tenants/" ++ encodeURIComponent project.tenantId ++ "/files/" ++
    encodeURIComponent file.id ++ "/download"

/-- Whether a client may see a file.
SOURCE: apps/api/src/handlers.js:1390-1392 -/
def isPublished (file : FileRecord) : Bool := file.status = .ready && file.clientVisible

section

variable (localeCompare : Comparator String)

/-- `buildClientPortalView`
SOURCE: packages/client-portal/src/index.js:18-44 -/
def buildClientPortalView (project : Project) (approvedReports : List ClientView)
    (files : List FileRecord) (updates : List PortalUpdate) : ClientPortalView where
  tenantId := project.tenantId
  projectId := project.id
  projectName := project.name
  projectStatus := if project.status matches .null then .string "unknown" else project.status
  reports := approvedReports
  files := files.map (portalFile project)
  updates := (localeCompare.sortBy PortalUpdate.postedAt updates).map fun update =>
    (update.id, update.postedAt, update.message)

/-- The portal of a project.
SOURCE: apps/api/src/handlers.js:1378-1399 -/
def projectPortal (tenantId : String) (reports : List FieldReport) (fileRecords : List FileRecord)
    (project : Project) : ClientPortalView :=
  buildClientPortalView localeCompare project
    ((reports.filter fun report => report.projectId = project.id).filterMap toClientView)
    (fileRecords.filter fun file =>
      file.tenantId = tenantId && file.projectId = project.id && isPublished file)
    (syntheticPortalUpdates.filter fun update =>
      update.tenantId = tenantId && update.projectId = project.id)

end

/-! ### Requests and answers -/

/-- The collections of a tenant.
SOURCE: apps/api/src/handlers.js:309-584 -/
inductive Collection
  | projects
  | issues
  | rfis
  | permits
  | reviewSessions
  | aiReviewRuns
  | aiFindings
  | platformBlueprints
  | fieldReports
  deriving DecidableEq, Repr

/-- `collectionResourcesBySegment` -/
def Collection.ofSegment : String → Option Collection
  | "projects" => some .projects
  | "issues" => some .issues
  | "rfis" => some .rfis
  | "permits" => some .permits
  | "review-sessions" => some .reviewSessions
  | "ai-review-runs" => some .aiReviewRuns
  | "ai-findings" => some .aiFindings
  | "platform-blueprints" => some .platformBlueprints
  | "field-reports" => some .fieldReports
  | _ => none

/-- The resource type of a collection. -/
def Collection.resourceType : Collection → String
  | .projects => "project"
  | .issues => "coordination_issue"
  | .rfis => "rfi"
  | .permits => "permit_package"
  | .reviewSessions => "review_session"
  | .aiReviewRuns => "ai_review_run"
  | .aiFindings => "ai_finding"
  | .platformBlueprints => "platform_blueprint"
  | .fieldReports => "field_report"

/-- A page of a collection. -/
inductive CollectionPage
  | projects (page : Page Project)
  | issues (page : Page CoordinationIssue)
  | rfis (page : Page Rfi)
  | permits (page : Page PermitPackage)
  | reviewSessions (page : Page ReviewSession)
  | aiReviewRuns (page : Page AiReviewRun)
  | aiFindings (page : Page AiFinding)
  | platformBlueprints (page : Page PlatformBlueprint)
  | fieldReports (page : Page FieldReport)

/-- What `buildAuditVerificationReport` returns.
SOURCE: packages/audit/src/foundation.js:133-143 -/
structure AuditVerificationReport where
  valid : Bool
  reason : Option AuditReason
  eventId : Option String
  checkedEventCount : ℕ
  signed : Bool
  staged : Bool := true

/-- A transfer of the queue.
SOURCE: packages/dashboards/src/index.js:66-76 -/
structure StagedTransfer where
  id : String
  destinationProvider : String
  approvalStatus : String
  deriving DecidableEq, Repr

/-- What an answer gives back. -/
inductive ReadBody
  | health
  | files (items : List PublicFile)
  | record (body : RecordRoutes.RecordBody)
  | emailDeliveries (page : Page EmailDelivery)
  | collection (page : CollectionPage)
  | executive (view : ExecutivePortfolioView)
  | workspace (payload : BlueprintWorkspace)
  | auditEvents (page : Page AuditEvent)
  | auditReport (report : AuditVerificationReport)
  | transfers (stagedTransfers : List StagedTransfer)
  | portals (items : List ClientPortalView)

/-- A GET request, with what is drawn for it. -/
structure ReadRequest where
  pathname : String
  query : PageQuery := {}
  principal : Option Principal
  signingKey : Option String := none
  draws : ℕ → AuditDraw
  outboxDraw : OutboxDraw

/-- A route that reads the lists of a tenant. -/
inductive ListRoute
  | files
  | emailDeliveries
  | collection (collection : Collection)
  | executive
  | workspace
  | auditEvents
  | verifyAudit
  | transfers
  | clientPortal

/-- A route under a tenant. -/
inductive ReadRoute
  | list (route : ListRoute)
  | downloadFile (fileId : PathPart)
  | getContent (fileId : PathPart)
  | getBlueprint (blueprintId : PathPart)
  | getReport (reportId : PathPart)

/-- The route of a path of one part. -/
def ListRoute.ofSegment (segment : String) : Option ListRoute :=
  match Collection.ofSegment segment with
  | some items => some (.collection items)
  | none =>
    match segment with
    | "files" => some .files
    | "email-deliveries" => some .emailDeliveries
    | "blueprint-workspace" => some .workspace
    | "audit-events" => some .auditEvents
    | "transfers" => some .transfers
    | "client-portal" => some .clientPortal
    | _ => none

/-- The resource a list is authorized as.
SOURCE: apps/api/src/handlers.js:800, 977, 986, 1252-1257, 1281-1286, 1315, 1325, 1337, 1354 -/
def ListRoute.resource : ListRoute → String
  | .files => "file_record"
  | .emailDeliveries => "email_delivery"
  | .collection items => items.resourceType
  | .executive => "executive_dashboard"
  | .workspace => "project"
  | .auditEvents | .verifyAudit => "audit_event"
  | .transfers => "transfer"
  | .clientPortal => "client_portal"

/-- The route of the parts that follow the tenant.
SOURCE: apps/api/src/handlers.js:798-799, 894, 906, 975-983, 1020, 1034, 1251-1353 -/
def ReadRoute.ofParts : List PathPart → Option ReadRoute
  | [segment] => (ListRoute.ofSegment segment.text).map .list
  | [segment, part] =>
    match segment.text, part.text with
    | "platform-blueprints", _ => some (.getBlueprint part)
    | "field-reports", _ => some (.getReport part)
    | "dashboard", "executive" => some (.list .executive)
    | "audit-events", "verify" => some (.list .verifyAudit)
    | _, _ => none
  | [segment, part, last] =>
    match segment.text, last.text with
    | "files", "download" => some (.downloadFile part)
    | "files", "content" => some (.getContent part)
    | _, _ => none
  | _ => none

/-- `splitPath`
SOURCE: apps/api/src/handlers.js:110-112 -/
def splitPath (pathname : String) : List PathPart :=
  (namesOf pathname).filterMap fun name =>
    if h : name ≠ "" then some ⟨name, h⟩ else none

/-- The tenant and the rest of a path, where it is one under a tenant.
SOURCE: apps/api/src/handlers.js:701-707 -/
def tenantPath (pathname : String) : Option (PathPart × List PathPart) :=
  match splitPath pathname with
  | version :: tenants :: tenantId :: rest =>
    if version.text = "v1" ∧ tenants.text = "tenants" then some (tenantId, rest) else none
  | _ => none

/-- The request on a record. -/
def ReadRequest.onRecord (request : ReadRequest) (tenantId : PathPart) (principal : Principal)
    (recordId : PathPart) (route : RecordRoutes.RecordRoute) : RecordRoutes.RecordRequest where
  tenantId := tenantId
  recordId := recordId
  principal := principal
  route := route
  signingKey := request.signingKey
  auditDraw := request.draws 0
  outboxDraw := request.outboxDraw

/-- The answer without a principal.
SOURCE: apps/api/src/handlers.js:722-728 -/
def unauthorized {β : Type} : Response β :=
  .refused ⟨401, "unauthorized", "Authentication required."⟩

section

variable {Ω : Type}

/-- An operation of a route. -/
abbrev ReadM (Ω : Type) : Type → Type := Effect JsError (RecordRoutes.RecordStores Ω)

/-- A list of the language; one of 2^32 items cannot be made. -/
def toArray {α : Type} (items : List α) : Except JsError (JsArray α) :=
  if h : items.length < 2 ^ 32 then .ok ⟨items, h⟩ else .error (newError "Invalid array length")

/-- A page of a list, by the members `paginate` reads. -/
def pageOf {α : Type} (status humanDisposition : α → Option Json) (items : List α)
    (query : PageQuery) : Except JsError (Page α) := do
  return paginate status humanDisposition (← toArray items) query

/-- A page of the collection of a tenant.
SOURCE: apps/api/src/handlers.js:309-584, 1014-1016 -/
def collectionPage (r : MemoryRepository) (tenantId : String) (query : PageQuery) :
    Collection → Except JsError CollectionPage
  | .projects => .projects <$>
    pageOf (fun project => some project.status) (fun _ => none)
      (r.listProjectsByTenant tenantId) query
  | .issues => .issues <$>
    pageOf (fun issue => some (.string issue.status.text)) (fun _ => none)
      (r.listIssuesByTenant tenantId) query
  | .rfis => .rfis <$>
    pageOf (fun rfi => some (.string rfi.status.text)) (fun _ => none)
      (r.listRfisByTenant tenantId) query
  | .permits => .permits <$>
    pageOf (fun permitPackage => some (.string permitPackage.status.text)) (fun _ => none)
      (r.listPermitPackagesByTenant tenantId) query
  | .reviewSessions => .reviewSessions <$>
    pageOf (fun reviewSession => some reviewSession.status) (fun _ => none)
      (r.listReviewSessionsByTenant tenantId) query
  | .aiReviewRuns => .aiReviewRuns <$>
    pageOf (fun reviewRun => some reviewRun.status) (fun _ => none)
      (r.listAiReviewRunsByTenant tenantId) query
  | .aiFindings => .aiFindings <$>
    pageOf (fun _ => none) (fun finding => some finding.humanDisposition)
      (r.listAiFindingsByTenant tenantId) query
  | .platformBlueprints => .platformBlueprints <$>
    pageOf (fun _ => none) (fun _ => none) (r.listPlatformBlueprintsByTenant tenantId) query
  | .fieldReports => .fieldReports <$>
    pageOf (fun report => some (.string report.status.text)) (fun _ => none)
      (r.listFieldReportsByTenant tenantId) query

/-- The files a principal may see in the list of a tenant.
SOURCE: apps/api/src/handlers.js:802-805 -/
def visibleFiles (r : MemoryRepository) (tenantId : String) (principal : Principal) :
    List FileRecord :=
  let items := (r.listFileRecordsByTenant tenantId).filter fun item => item.status ≠ .deleted
  if principal.organizationRole = some "client_viewer" then items.filter isPublished else items

/-- The executive dashboard of a tenant: of a record, the members the view reads.
SOURCE: apps/api/src/handlers.js:1262-1278 -/
def executiveView (r : MemoryRepository) (tenantId : String) :
    Except JsError ExecutivePortfolioView :=
  buildExecutivePortfolioView
    { tenantId := tenantId
      projects := some ((r.listProjectsByTenant tenantId).map fun project =>
        [("status", project.status)])
      issues := some ((r.listIssuesByTenant tenantId).map fun issue =>
        [("severity", issue.severity)])
      financeEvents := some ((syntheticGovernanceEvents.filter fun event =>
        event.1 = tenantId).map Prod.snd)
      permitPackages := some ((r.listPermitPackagesByTenant tenantId).map fun permitPackage =>
        [("status", .string permitPackage.status.text)]) }

/-- The workspace of a tenant.
SOURCE: apps/api/src/handlers.js:1291-1311 -/
def workspaceOf (r : MemoryRepository) (tenantId : String) : Except JsError BlueprintWorkspace :=
  createBlueprintWorkspacePayload tenantId
    { projects := r.listProjectsByTenant tenantId
      reviewSessions := r.listReviewSessionsByTenant tenantId
      aiReviewRuns := r.listAiReviewRunsByTenant tenantId
      aiFindings := r.listAiFindingsByTenant tenantId
      issues := r.listIssuesByTenant tenantId
      permits := r.listPermitPackagesByTenant tenantId }

/-- The queue of a tenant.
SOURCE: apps/api/src/handlers.js:1341-1349, packages/dashboards/src/index.js:66-76 -/
def buildTransferQueue (tenantId : String) : List StagedTransfer :=
  (syntheticTransferPackages.filter fun transferPackage =>
    transferPackage.tenantId = tenantId).map fun transferPackage =>
      { id := transferPackage.id
        destinationProvider := transferPackage.destinationProvider
        approvalStatus := transferPackage.approvalStatus.getD "pending" }

section

variable (P : Platform)

/-- `buildAuditVerificationReport`
SOURCE: packages/audit/src/foundation.js:133-143 -/
def buildAuditVerificationReport (events : List AuditEvent) (signingKey : Option String)
    (draws : ℕ → AuditDraw) : Except JsError AuditVerificationReport := do
  let verdict ← verifyAuditChain P signingKey draws events
  let checkedEventCount := events.length
  let signed := (usableKey signingKey).isSome
  return match verdict with
    | .valid => ⟨true, none, none, checkedEventCount, signed, true⟩
    | .invalid reason eventId => ⟨false, some reason, eventId, checkedEventCount, signed, true⟩

variable (localeCompare : Comparator String)

/-- What a route that needs no record under an id reads of the repository.
SOURCE: apps/api/src/handlers.js:799-807, 975-981, 1014-1016, 1251-1406 -/
def readList (request : ReadRequest) (tenantId : String) (principal : Principal)
    (r : MemoryRepository) : ListRoute → Except JsError ReadBody
  | .files => .files <$> (visibleFiles r tenantId principal).mapM publicFileMetadata
  | .emailDeliveries => .emailDeliveries <$>
    pageOf (fun delivery => some (.string delivery.status.text)) (fun _ => none)
      (r.listEmailDeliveriesByTenant tenantId) request.query
  | .collection items => .collection <$> collectionPage r tenantId request.query items
  | .executive => .executive <$> executiveView r tenantId
  | .workspace => .workspace <$> workspaceOf r tenantId
  | .auditEvents => .auditEvents <$>
    pageOf (fun _ => none) (fun _ => none) (r.listAuditEventsByTenant tenantId) request.query
  | .verifyAudit => .auditReport <$>
    buildAuditVerificationReport P (r.listAuditEventsByTenant tenantId) request.signingKey
      request.draws
  | .transfers => .ok (.transfers (buildTransferQueue tenantId))
  | .clientPortal => .ok (.portals ((r.listProjectsByTenant tenantId).map
      (projectPortal localeCompare tenantId (r.listFieldReportsByTenant tenantId)
        (r.listFileRecordsByTenant tenantId))))

variable (storage : StorageAdapter Ω)

/-- A route on the record under an id. -/
def readRecord (request : ReadRequest) (tenantId : PathPart) (principal : Principal)
    (recordId : PathPart) (route : RecordRoutes.RecordRoute) : ReadM Ω (Response ReadBody) := do
  let response ← RecordRoutes.route P storage (request.onRecord tenantId principal recordId route)
  return response.map .record

/-- A route on the lists of a tenant. -/
def readLists (request : ReadRequest) (tenantId : PathPart) (principal : Principal)
    (route : ListRoute) : ReadM Ω (Response ReadBody) := do
  match authorize principal tenantId.text route.resource "read" with
  | some denied => return .refused denied
  | none =>
    let s ← get
    let body ← readList P localeCompare request tenantId.text principal s.repository route
    return .answered 200 body

/-- A route under a tenant. -/
def readRoute (request : ReadRequest) (tenantId : PathPart) (principal : Principal) :
    ReadRoute → ReadM Ω (Response ReadBody)
  | .list route => readLists P localeCompare request tenantId principal route
  | .downloadFile fileId => readRecord P storage request tenantId principal fileId .downloadFile
  | .getContent fileId => readRecord P storage request tenantId principal fileId .getContent
  | .getBlueprint blueprintId =>
    readRecord P storage request tenantId principal blueprintId .getBlueprint
  | .getReport reportId => readRecord P storage request tenantId principal reportId .getReport

/-- `routeApiRequest` on a GET request.
SOURCE: apps/api/src/handlers.js:666-728, 1408 -/
def route (request : ReadRequest) : ReadM Ω (Response ReadBody) :=
  if request.pathname = "/health" then return .answered 200 .health
  else
    match tenantPath request.pathname with
    | none => return notFound "Not found."
    | some (tenantId, rest) =>
      match request.principal with
      | none => return unauthorized
      | some principal =>
        match ReadRoute.ofParts rest with
        | none => return notFound "Not found."
        | some readable => readRoute P localeCompare storage request tenantId principal readable

/-- What a GET request is answered, and the stores it leaves. -/
def answer (request : ReadRequest) (s : RecordRoutes.RecordStores Ω) :
    Except JsError (Response ReadBody) × RecordRoutes.RecordStores Ω :=
  Effect.exec (handleApiRequest (route P localeCompare storage request)) s

end

end

end ReadRoutes

end Xygo.Model
