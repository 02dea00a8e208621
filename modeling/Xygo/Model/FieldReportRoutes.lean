import Xygo.Model.Api
import Xygo.Model.DeliveryQueue
import Xygo.Model.FieldReporting
import Xygo.Model.FindingDisposition
import Xygo.Model.Service

/-!
# The routes of field reports

The routes that create a field report, generate its draft and review it, on the memory repository
with the outbox store and the idempotency store beside it. Each of them stores the report, appends
an audit event and enqueues an outbox job. The memory repository lists no users, so an approval
queues no email there.
-/

set_option autoImplicit false

namespace Xygo.Model

open Xygo.Computation

/-- A part of a path: `splitPath` drops the empty ones.
SOURCE: apps/api/src/handlers.js:110-112 -/
structure PathPart where
  text : String
  nonempty : text ≠ ""

/-- An entry of the idempotency store.
SOURCE: apps/api/src/reliability/idempotency.js:6 -/
structure CachedResponse where
  response : Response FieldReport
  expiresAt : Int

/-- What the routes work on. -/
structure ReportStores where
  repository : MemoryRepository := {}
  outbox : OutboxStore := .empty
  idempotency : OrderedMap String CachedResponse := .empty

/-- An operation of a route. -/
abbrev ReportM : Type → Type := Effect JsError ReportStores

/-- What a request asks for: the body as `JSON.parse` reads it, or `none` where that throws. -/
inductive ReportAction
  | create (path : String) (clientKey : Option String) (body : Option Json)
  | draft (reportId : PathPart)
  | review (reportId : PathPart) (body : Option Json)

/-- A request, with what is drawn for it and what the clock says at the idempotency store and at
the outbox. -/
structure ReportRequest where
  tenantId : PathPart
  principal : Principal
  action : ReportAction
  signingKey : Option String := none
  auditDraw : AuditDraw
  outboxDraw : OutboxDraw
  lookedUpAt : Int := 0
  enqueuedAt : Int := 0
  cachedAt : Int := 0

namespace MemoryRepository

/-- `getProjectById`, of a value of a request.
SOURCE: apps/api/src/repositories/memory.js:71-73 -/
def getProjectById (r : MemoryRepository) : Json → Option Project
  | .string projectId => r.projectStore.get projectId
  | _ => none

/-- `createFieldReport`
SOURCE: apps/api/src/repositories/memory.js:236-243 -/
def createFieldReport (input : Json) : RepositoryM FieldReport := do
  let report ← Model.createFieldReport input.staged
  let r ← get
  if r.fieldReportStore.has report.id then throw (newError "Field report id already exists.")
  set { r with fieldReportStore := r.fieldReportStore.put report }
  return report

/-- `saveFieldReport`
SOURCE: apps/api/src/repositories/memory.js:244-247 -/
def saveFieldReport (report : FieldReport) : RepositoryM FieldReport := do
  modify fun r => { r with fieldReportStore := r.fieldReportStore.put report }
  return report

end MemoryRepository

namespace FieldReports

/-- `createIdempotencyStore().get`
SOURCE: apps/api/src/reliability/idempotency.js:8-18 -/
def idempotencyGet (key : String) (now : Int) : ReportM (Option (Response FieldReport)) := do
  let s ← get
  match s.idempotency.get key with
  | none => return none
  | some entry =>
    if now ≥ entry.expiresAt then
      set { s with idempotency := s.idempotency.erase key }
      return none
    return some entry.response

/-- The time a response is kept.
SOURCE: apps/api/src/reliability/idempotency.js:5 -/
def ttlMs : Int := 24 * 60 * 60 * 1000

/-- `createIdempotencyStore().set`
SOURCE: apps/api/src/reliability/idempotency.js:20-22 -/
def idempotencySet (key : String) (response : Response FieldReport) (now : Int) : ReportM Unit :=
  modify fun s => { s with idempotency := s.idempotency.set key ⟨response, now + ttlMs⟩ }

/-- `idempotencyKeyFor`
SOURCE: apps/api/src/reliability/idempotency.js:29-31 -/
def idempotencyKeyFor (tenantId path clientKey : String) : String :=
  tenantId ++ ":" ++ path ++ ":" ++ clientKey

/-- The client key of a request that has a usable one.
SOURCE: apps/api/src/handlers.js:34-37 -/
def usableClientKey (clientKey : Option String) : Option String := clientKey.filter (· ≠ "")

/-- `withIdempotency`
SOURCE: apps/api/src/handlers.js:32-47 -/
def withIdempotency (request : ReportRequest) (path : String) (clientKey : Option String)
    (compute : ReportM (Response FieldReport)) : ReportM (Response FieldReport) := do
  match usableClientKey clientKey with
  | none => compute
  | some clientKey =>
    let key := idempotencyKeyFor request.tenantId.text path clientKey
    let cached ← idempotencyGet key request.lookedUpAt
    match cached with
    | some response => return response
    | none =>
      let result ← compute
      if result.succeeded then idempotencySet key result request.cachedAt
      return result

/-- The key of a transition's job: the parts that are not empty.
SOURCE: apps/api/src/handlers.js:631, 735 -/
def outboxKey (tenantId action reportId : String) (scope : Option String) : String :=
  ":".intercalate
    (([some tenantId, some action, some reportId, scope].filterMap id).filter (· ≠ ""))

/-- The audit event of a transition.
SOURCE: apps/api/src/handlers.js:615-624, 1063-1073, 1113-1123 -/
def transitionAudit (request : ReportRequest) (action : String) (before : Json)
    (report : FieldReport) : TenantAudit where
  tenantId := request.tenantId.text
  actorId := request.principal.userId
  action := action
  resourceType := "field_report"
  resourceId := report.id
  beforeStateRef := before
  afterStateRef := .string report.status.text

/-- The outbox event of a transition.
SOURCE: apps/api/src/handlers.js:625-630, 729-734 -/
def transitionEvent (request : ReportRequest) (action : String) (report : FieldReport) :
    Except JsError OutboxEvent :=
  createOutboxEvent {
    eventType := action
    aggregateType := "field_report"
    aggregateId := report.id
    tenantId := some request.tenantId.text } request.outboxDraw

/-- Why a body does not name what a report needs.
SOURCE: apps/api/src/handlers.js:550-553 -/
def validate (parsed : Json) : Option String :=
  if !parsed.hasTruthy "id" || !parsed.hasTruthy "projectId" || !parsed.hasTruthy "siteName" ||
      !parsed.hasTruthy "reportType" || !parsed.hasTruthy "author" then
    some "Field report id, projectId, siteName, reportType, and author are required."
  else none

/-- Why a tenant may not create the report.
SOURCE: apps/api/src/handlers.js:554-562 -/
def guard (r : MemoryRepository) (tenantId : String) (parsed : Json) : Option String :=
  if parsed.hasTruthy "tenantId" && !(parsed.orElse "tenantId" .null).isText tenantId then
    some "Cross-tenant field report creation denied."
  else if (r.getProjectById (parsed.orElse "projectId" .null)).any
      fun project => project.tenantId = tenantId then none
  else some "Field report creation requires an in-tenant project."

/-- The input of the constructor.
SOURCE: apps/api/src/handlers.js:563-572 -/
def build (tenantId : String) (parsed : Json) : Json :=
  .object [
    ("id", parsed.orElse "id" .null),
    ("tenantId", .string tenantId),
    ("projectId", parsed.orElse "projectId" .null),
    ("siteName", parsed.orElse "siteName" .null),
    ("reportType", parsed.orElse "reportType" .null),
    ("author", parsed.orElse "author" .null),
    ("capturedAt", parsed.orElse "capturedAt" .null),
    ("observations", parsed.orElse "observations" (.array []))]

/-- A change of a stored report: the action its evidence names, the report after it, and the scope
of its outbox key. A request may be refused before anything is changed. -/
structure Change where
  action : String
  reportId : PathPart
  apply : FieldReport → Except (Response FieldReport) (Except JsError FieldReport)
  scope : FieldReport → Option String

/-- The change of a draft.
SOURCE: apps/api/src/handlers.js:1061-1074 -/
def draftChange (reportId : PathPart) : Change where
  action := "api.field_report.draft_generated"
  reportId := reportId
  apply report := .ok (generateReportDraft report)
  scope _ := none

/-- What a review makes of a report.
SOURCE: apps/api/src/handlers.js:1095-1112 -/
def reviewed (principal : Principal) (body : Option Json) (report : FieldReport) :
    Except (Response FieldReport) (Except JsError FieldReport) :=
  match body with
  | none => .error malformedBody
  | some parsed =>
    match ensureObjectBody parsed with
    | some message => .error (badRequest message)
    | none =>
      if !parsed.hasTruthy "nextStatus" then .error (badRequest "nextStatus is required.")
      else .ok (setReviewStatus report (parsed.orElse "nextStatus" .null)
        (parsed.orElse "reviewedBy" (.ofOption principal.userId))
        (parsed.orElse "reviewNote" .null))

/-- The change of a review.
SOURCE: apps/api/src/handlers.js:1095-1124 -/
def reviewChange (principal : Principal) (reportId : PathPart) (body : Option Json) : Change where
  action := "api.field_report.reviewed"
  reportId := reportId
  apply := reviewed principal body
  scope report := some report.status.text

/-- The report a request may change, or why there is none.
SOURCE: apps/api/src/handlers.js:1049-1057, 1085-1093 -/
def findReport (request : ReportRequest) (reportId : PathPart) (r : MemoryRepository) :
    Except (Response FieldReport) FieldReport :=
  match authorize request.principal request.tenantId.text "field_report" "update" with
  | some denied => .error (.refused denied)
  | none =>
    match (r.getFieldReportById reportId.text).filter fun report =>
        report.tenantId = request.tenantId.text with
    | none => .error (notFound "Field report not found.")
    | some report => .ok report

/-- An operation of the repository. -/
def onRepository {α : Type} (operation : RepositoryM α) : ReportM α :=
  Effect.focus ReportStores.repository (fun s r => { s with repository := r }) operation

/-- An operation of the outbox store. -/
def onOutbox {α : Type} (operation : OutboxM α) : ReportM α :=
  Effect.focus ReportStores.outbox (fun s o => { s with outbox := o }) operation

section

variable (P : Platform)

/-- The audit event of a transition, after the events its writer has read.
SOURCE: apps/api/src/handlers.js:252-304 -/
def appendEvidence (request : ReportRequest) (audit : TenantAudit)
    (existingEvents : List AuditEvent) : RepositoryM Unit := do
  let event ← buildTenantAuditEvent ⟨P, "", request.signingKey⟩ audit existingEvents
    request.auditDraw
  let _ ← appendAuditEvent event

/-- The job of a transition.
SOURCE: apps/api/src/handlers.js:625-636, 728-739 -/
def enqueueTransition (request : ReportRequest) (action : String) (scope : Option String)
    (report : FieldReport) : OutboxM Unit := do
  let event ← transitionEvent request action report
  let _ ← enqueue event (some (outboxKey request.tenantId.text action report.id scope))
    request.enqueuedAt

/-- The evidence of a transition and its job.
SOURCE: apps/api/src/handlers.js:615-636, 1063-1074, 1113-1124 -/
def announce (request : ReportRequest) (action : String) (before : Json) (scope : Option String)
    (report : FieldReport) : ReportM Unit := do
  let s ← get
  onRepository (appendEvidence P request (transitionAudit request action before report)
    (s.repository.listAuditEventsByTenant request.tenantId.text))
  onOutbox (enqueueTransition request action scope report)

/-- The `try` block of `handleCollectionCreate`.
SOURCE: apps/api/src/handlers.js:611-644 -/
def persistCreated (request : ReportRequest) (parsed : Json) : ReportM (Response FieldReport) := do
  let created ← onRepository
    (MemoryRepository.createFieldReport (build request.tenantId.text parsed))
  announce P request "api.field_report.created" .null none created
  return .answered 201 created

/-- `handleCollectionCreate`, for field reports.
SOURCE: apps/api/src/handlers.js:593-648 -/
def handleCollectionCreate (request : ReportRequest) (body : Option Json) :
    ReportM (Response FieldReport) := do
  match body with
  | none => return malformedBody
  | some parsed =>
    match ensureObjectBody parsed with
    | some message => return badRequest message
    | none =>
      match validate parsed with
      | some message => return badRequest message
      | none =>
        let s ← get
        match guard s.repository request.tenantId.text parsed with
        | some message => return forbidden message
        | none =>
          tryCatch (persistCreated P request parsed) fun error => return badRequest error.message

/-- The route that creates a report.
SOURCE: apps/api/src/handlers.js:986-1014 -/
def createRoute (request : ReportRequest) (path : String) (clientKey : Option String)
    (body : Option Json) : ReportM (Response FieldReport) :=
  match authorize request.principal request.tenantId.text "field_report" "create" with
  | some denied => return .refused denied
  | none => withIdempotency request path clientKey (handleCollectionCreate P request body)

/-- The `persist` of a change, and its answer.
SOURCE: apps/api/src/handlers.js:1060-1078, 1105-1124, 1175-1177 -/
def persistChange (request : ReportRequest) (change : Change) (report : FieldReport)
    (changed : Except JsError FieldReport) : ReportM (Response FieldReport) := do
  let changed ← changed
  let saved ← onRepository (MemoryRepository.saveFieldReport changed)
  announce P request change.action (.string report.status.text) (change.scope saved) saved
  return .answered 200 saved

/-- The route of a change.
SOURCE: apps/api/src/handlers.js:1048-1181 -/
def changeRoute (request : ReportRequest) (change : Change) : ReportM (Response FieldReport) := do
  let s ← get
  match findReport request change.reportId s.repository with
  | .error refusal => return refusal
  | .ok report =>
    match change.apply report with
    | .error refusal => return refusal
    | .ok changed =>
      tryCatch (persistChange P request change report changed)
        fun error => return badRequest error.message

/-- The change a request asks for, unless it creates a report. -/
def changeOf (request : ReportRequest) : Option Change :=
  match request.action with
  | .create _ _ _ => none
  | .draft reportId => some (draftChange reportId)
  | .review reportId body => some (reviewChange request.principal reportId body)

/-- The route of a request. -/
def route (request : ReportRequest) : ReportM (Response FieldReport) :=
  match request.action with
  | .create path clientKey body => createRoute P request path clientKey body
  | .draft reportId => changeRoute P request (draftChange reportId)
  | .review reportId body => changeRoute P request (reviewChange request.principal reportId body)

/-- The API as it answers one request after the other. -/
def api : Object ReportStores ReportRequest (Except JsError (Response FieldReport)) where
  call request s := Effect.exec (handleApiRequest (route P request)) s

end

end FieldReports

end Xygo.Model
