import Xygo.Model.FieldReportRoutes

/-!
# The routes of AI findings

The routes that create a project, an issue, an AI review run and an AI finding, and the disposition
of a finding, on the memory repository with the outbox store and the idempotency store beside it.
The four creations are one handler with the row of the resource table each of them names.
-/

set_option autoImplicit false

namespace Xygo.Model

open Xygo.Computation

/-- Whether a text has another as a part: `text.includes(part)`. -/
def includes (text part : String) : Bool :=
  text.toList.tails.any fun rest => part.toList.isPrefixOf rest

/-- The issue statuses under their texts.
SOURCE: packages/coordination/src/index.js:4-15 -/
def issueStatus? (status : String) : Option IssueStatus :=
  [IssueStatus.open, .triaged, .assigned, .inProgress, .underReview, .resolved, .closed, .returned,
    .deferred, .rejectedFalsePositive].find? fun known => known.text = status

/-- `FINDING_CATEGORY_SET`
SOURCE: packages/ai-review/src/index.js:13-31 -/
def findingCategorySet : List String :=
  ["missing_dimensions", "missing_annotations", "missing_title_block_information",
    "inconsistent_scale_declarations", "unresolved_references", "missing_sheets",
    "incomplete_schedules", "duplicate_sheet_numbers", "revision_inconsistencies",
    "overlapping_geometry", "discipline_conflict", "clearance_concern",
    "missing_model_properties", "ids_requirement_failure", "potential_code_concern",
    "permit_package_completeness_concern", "insufficient_information"]

/-- `createProject`
SOURCE: packages/shared-contracts/src/foundation.js:146-160 -/
def createProject (input : Json) : Except JsError Project := do
  let id ← input.requiredString "id" "Project id"
  let tenantId ← input.requiredString "tenantId" "Project tenantId"
  let name ← input.requiredString "name" "Project name"
  if !input.isTrue "staged" then
    throw (newError "Synthetic staged entities must set staged=true.")
  return {
    id := id
    tenantId := tenantId
    name := name
    projectType := input.orElse "projectType" (.string "commercial")
    status := input.orElse "status" (.string "draft")
    staged := true }

/-- `requiredArray`
SOURCE: packages/coordination/src/index.js:38-42 -/
def requiredArray (value : Json) (label : String) : Except JsError Unit :=
  match value with
  | .array _ => .ok ()
  | _ => .error (newError (label ++ " must be an array."))

/-- `createCoordinationIssue`
SOURCE: packages/coordination/src/index.js:44-79 -/
def createCoordinationIssue (input : Json) : Except JsError CoordinationIssue := do
  let id ← input.requiredString "id" "Coordination issue id"
  let tenantId ← input.requiredString "tenantId" "Coordination issue tenantId"
  let projectId ← input.requiredString "projectId" "Coordination issue projectId"
  let title ← input.requiredString "title" "Coordination issue title"
  let description ← input.requiredString "description" "Coordination issue description"
  let status ← input.requiredString "status" "Coordination issue status"
  requiredArray (input.orElse "disciplines" (.array [])) "Coordination issue disciplines"
  match issueStatus? status with
  | none => throw (newError ("Unknown coordination issue status: " ++ status))
  | some status =>
    return {
      id := id
      tenantId := tenantId
      projectId := projectId
      title := title
      description := description
      status := status
      type := input.orElse "type" (.string "coordination_conflict")
      source := input.orElse "source" (.string "manual")
      disciplines := input.member? "disciplines"
      assignedLeadUserId := input.orElse "assignedLeadUserId" .null
      priority := input.orElse "priority" (.string "medium")
      severity := input.orElse "severity" (.string "medium")
      confidence := input.orElse "confidence" (.string "confirmed")
      relatedSheetIds := input.orElse "relatedSheetIds" (.array [])
      relatedModelIds := input.orElse "relatedModelIds" (.array [])
      relatedElementIds := input.orElse "relatedElementIds" (.array [])
      evidence := input.orElse "evidence" (.array [])
      proposedResolution := input.orElse "proposedResolution" .null
      staged := true }

/-- `createReviewRun`
SOURCE: packages/ai-review/src/index.js:53-72 -/
def createReviewRun (input : Json) : Except JsError AiReviewRun := do
  let id ← input.requiredString "id" "Review run id"
  let tenantId ← input.requiredString "tenantId" "Review run tenantId"
  let projectId ← input.requiredString "projectId" "Review run projectId"
  let artifactType ← input.requiredString "artifactType" "Review run artifactType"
  let artifactId ← input.requiredString "artifactId" "Review run artifactId"
  return {
    id := id
    tenantId := tenantId
    projectId := projectId
    artifactType := artifactType
    artifactId := artifactId
    status := input.orElse "status" (.string "queued")
    ruleVersion := input.orElse "ruleVersion" (.string "rules-v1")
    modelVersion := input.orElse "modelVersion" (.string "model-sim-v1")
    jurisdictionProfile := input.orElse "jurisdictionProfile" .null
    staged := true }

/-- `createFinding`
SOURCE: packages/ai-review/src/index.js:136-173 -/
def createFinding (input : Json) : Except JsError AiFinding := do
  let id ← input.requiredString "id" "Finding id"
  let reviewRunId ← input.requiredString "reviewRunId" "Finding reviewRunId"
  let category ← input.requiredString "category" "Finding category"
  let title ← input.requiredString "title" "Finding title"
  let description ← input.requiredString "description" "Finding description"
  let severity ← input.requiredString "severity" "Finding severity"
  if category ∉ findingCategorySet then
    throw (newError ("Unknown finding category: " ++ category))
  if !includes description "Potential issue" &&
      !includes description "Requires qualified review" then
    throw (newError "AI findings must use staged cautionary language.")
  return {
    id := id
    reviewRunId := reviewRunId
    ruleOrModelVersion := input.orElse "ruleOrModelVersion" (.string "hybrid-v1")
    category := category
    title := title
    description := description
    severity := severity
    confidence := input.orElse "confidence" (.string "medium")
    evidenceType := input.orElse "evidenceType" (.string "hybrid")
    evidenceReferences := input.orElse "evidenceReferences" (.array [])
    referencedStandard := input.orElse "referencedStandard" .null
    jurisdictionProfile := input.orElse "jurisdictionProfile" .null
    assumptions := input.orElse "assumptions" (.array [])
    missingInformation := input.orElse "missingInformation" (.array [])
    suggestedNextAction :=
      input.orElse "suggestedNextAction" (.string "Requires qualified review")
    assignedDiscipline := input.orElse "assignedDiscipline" .null
    humanDisposition := input.orElse "humanDisposition" (.string "pending")
    staged := true }

namespace MemoryRepository

/-- `createProject`
SOURCE: apps/api/src/repositories/memory.js:74-85 -/
def createProject (input : Json) : RepositoryM Project := do
  let project ← Model.createProject input.staged
  let r ← get
  if r.projectStore.has project.id then throw (newError "Project id already exists.")
  set { r with projectStore := r.projectStore.put project }
  return project

/-- `createIssue`
SOURCE: apps/api/src/repositories/memory.js:92-104 -/
def createIssue (input : Json) : RepositoryM CoordinationIssue := do
  let issue ← createCoordinationIssue input.staged
  let r ← get
  if r.issueStore.has issue.id then throw (newError "Coordination issue id already exists.")
  set { r with issueStore := r.issueStore.put issue }
  return issue

/-- `getAiReviewRunById`, of a value of a request.
SOURCE: apps/api/src/repositories/memory.js:158-160 -/
def getAiReviewRunById (r : MemoryRepository) : Json → Option AiReviewRun
  | .string reviewRunId => r.aiReviewRunStore.get reviewRunId
  | _ => none

/-- `createAiReviewRun`
SOURCE: apps/api/src/repositories/memory.js:161-173 -/
def createAiReviewRun (input : Json) : RepositoryM AiReviewRun := do
  let reviewRun ← createReviewRun input.staged
  let r ← get
  if r.aiReviewRunStore.has reviewRun.id then throw (newError "AI review run id already exists.")
  set { r with aiReviewRunStore := r.aiReviewRunStore.put reviewRun }
  return reviewRun

/-- `getAiFindingById`
SOURCE: apps/api/src/repositories/memory.js:180-182 -/
def getAiFindingById (r : MemoryRepository) (findingId : String) : Option AiFinding :=
  r.aiFindingStore.get findingId

/-- `createAiFinding`
SOURCE: apps/api/src/repositories/memory.js:183-195 -/
def createAiFinding (input : Json) : RepositoryM AiFinding := do
  let finding ← createFinding input.staged
  let r ← get
  if r.aiFindingStore.has finding.id then throw (newError "AI finding id already exists.")
  set { r with aiFindingStore := r.aiFindingStore.put finding }
  return finding

/-- `setAiFindingDisposition`
SOURCE: apps/api/src/repositories/memory.js:196-214 -/
def setAiFindingDisposition (findingId : String) (nextDisposition relatedIssueId : Json) :
    RepositoryM AiFinding := do
  let r ← get
  match r.aiFindingStore.get findingId with
  | none => throw (newError "AI finding not found.")
  | some finding =>
    let updatedFinding ← setHumanDisposition finding nextDisposition relatedIssueId
    set { r with aiFindingStore := r.aiFindingStore.put updatedFinding }
    return updatedFinding

end MemoryRepository

/-- A resource of the table: what a body must name, why it may not be created, the input of the
constructor, the operation of the repository, and what its evidence says.
SOURCE: apps/api/src/handlers.js:306-580 -/
structure CollectionResource (α : Type) where
  validate : Json → Option String
  guard : MemoryRepository → String → Json → Option String
  build : Json → String → Json
  create : Json → RepositoryM α
  action : String
  resourceType : String
  afterStateRef : α → Json
  id : α → String

namespace Findings

/-- A `validate` of the table: a body names each of the members.
SOURCE: apps/api/src/handlers.js:310, 333-336, 447-450, 480-483 -/
def missing (members : List String) (message : String) (parsed : Json) : Option String :=
  if members.all parsed.hasTruthy then none else some message

/-- A `guard` of the table: the project a body names is one of the tenant's.
SOURCE: apps/api/src/handlers.js:337-340, 451-456 -/
def inTenantProject (message : String) (r : MemoryRepository) (tenantId : String) (parsed : Json) :
    Option String :=
  if (r.getProjectById (parsed.orElse "projectId" .null)).any
      fun project => project.tenantId = tenantId then none
  else some message

/-- The row of projects.
SOURCE: apps/api/src/handlers.js:307-327 -/
def projects : CollectionResource Project where
  validate := missing ["id", "name"] "Project id and name are required."
  guard _ tenantId parsed :=
    if parsed.hasTruthy "tenantId" && !(parsed.orElse "tenantId" .null).isText tenantId then
      some "Cross-tenant project creation denied."
    else none
  build parsed tenantId := .object [
    ("id", parsed.orElse "id" .null),
    ("tenantId", .string tenantId),
    ("name", parsed.orElse "name" .null),
    ("projectType", parsed.orElse "projectType" (.string "commercial")),
    ("status", parsed.orElse "status" (.string "draft"))]
  create := MemoryRepository.createProject
  action := "api.project.created"
  resourceType := "project"
  afterStateRef := Project.status
  id := Project.id

/-- The row of issues.
SOURCE: apps/api/src/handlers.js:328-358 -/
def issues : CollectionResource CoordinationIssue where
  validate := missing ["id", "projectId", "title", "description"]
    "Issue id, projectId, title, and description are required."
  guard := inTenantProject "Issue creation requires an in-tenant project."
  build parsed tenantId := .object [
    ("id", parsed.orElse "id" .null),
    ("tenantId", .string tenantId),
    ("projectId", parsed.orElse "projectId" .null),
    ("title", parsed.orElse "title" .null),
    ("description", parsed.orElse "description" .null),
    ("status", parsed.orElse "status" (.string "open")),
    ("disciplines", parsed.orElse "disciplines" (.array [.string "architecture"])),
    ("severity", parsed.orElse "severity" (.string "medium")),
    ("priority", parsed.orElse "priority" (.string "medium"))]
  create := MemoryRepository.createIssue
  action := "api.issue.created"
  resourceType := "coordination_issue"
  afterStateRef issue := .string issue.status.text
  id := CoordinationIssue.id

/-- The row of AI review runs.
SOURCE: apps/api/src/handlers.js:444-475 -/
def aiReviewRuns : CollectionResource AiReviewRun where
  validate := missing ["id", "projectId", "artifactType", "artifactId"]
    "AI review run id, projectId, artifactType, and artifactId are required."
  guard := inTenantProject "AI review run creation requires an in-tenant project."
  build parsed tenantId := .object [
    ("id", parsed.orElse "id" .null),
    ("tenantId", .string tenantId),
    ("projectId", parsed.orElse "projectId" .null),
    ("artifactType", parsed.orElse "artifactType" .null),
    ("artifactId", parsed.orElse "artifactId" .null),
    ("status", parsed.orElse "status" (.string "queued")),
    ("ruleVersion", parsed.orElse "ruleVersion" (.string "rules-v1")),
    ("modelVersion", parsed.orElse "modelVersion" (.string "model-sim-v1")),
    ("jurisdictionProfile", parsed.orElse "jurisdictionProfile" .null)]
  create := MemoryRepository.createAiReviewRun
  action := "api.ai_review_run.created"
  resourceType := "ai_review_run"
  afterStateRef := AiReviewRun.status
  id := AiReviewRun.id

/-- The row of AI findings.
SOURCE: apps/api/src/handlers.js:477-514 -/
def aiFindings : CollectionResource AiFinding where
  validate := missing ["id", "reviewRunId", "category", "title", "description"]
    "AI finding id, reviewRunId, category, title, and description are required."
  guard r tenantId parsed :=
    if (r.getAiReviewRunById (parsed.orElse "reviewRunId" .null)).any
        fun reviewRun => reviewRun.tenantId = tenantId then none
    else some "AI finding creation requires an in-tenant review run."
  build parsed _ := .object [
    ("id", parsed.orElse "id" .null),
    ("reviewRunId", parsed.orElse "reviewRunId" .null),
    ("category", parsed.orElse "category" .null),
    ("title", parsed.orElse "title" .null),
    ("description", parsed.orElse "description" .null),
    ("severity", parsed.orElse "severity" (.string "medium")),
    ("confidence", parsed.orElse "confidence" (.string "medium")),
    ("evidenceType", parsed.orElse "evidenceType" (.string "hybrid")),
    ("evidenceReferences", parsed.orElse "evidenceReferences" (.array [])),
    ("referencedStandard", parsed.orElse "referencedStandard" .null),
    ("jurisdictionProfile", parsed.orElse "jurisdictionProfile" .null),
    ("assumptions", parsed.orElse "assumptions" (.array [])),
    ("missingInformation", parsed.orElse "missingInformation" (.array [])),
    ("suggestedNextAction",
      parsed.orElse "suggestedNextAction" (.string "Requires qualified review")),
    ("assignedDiscipline", parsed.orElse "assignedDiscipline" .null),
    ("humanDisposition", parsed.orElse "humanDisposition" (.string "pending"))]
  create := MemoryRepository.createAiFinding
  action := "api.ai_finding.created"
  resourceType := "ai_finding"
  afterStateRef := AiFinding.humanDisposition
  id := AiFinding.id

/-- The record an answer gives back. -/
inductive Item
  | project (project : Project)
  | issue (issue : CoordinationIssue)
  | reviewRun (reviewRun : AiReviewRun)
  | finding (finding : AiFinding)

/-- An entry of the idempotency store.
SOURCE: apps/api/src/reliability/idempotency.js:6 -/
structure IdempotencyEntry where
  response : Response Item
  expiresAt : Int

/-- What the routes work on. -/
structure FindingStores where
  repository : MemoryRepository := {}
  outbox : OutboxStore := .empty
  idempotency : OrderedMap String IdempotencyEntry := .empty

/-- An operation of a route. -/
abbrev FindingM : Type → Type := Effect JsError FindingStores

/-- A collection a request creates in. -/
inductive Collection
  | projects
  | issues
  | aiReviewRuns
  | aiFindings
  deriving DecidableEq, Repr

/-- What a request asks for: the body as `JSON.parse` reads it, or `none` where that throws. -/
inductive FindingAction
  | create (collection : Collection) (path : String) (clientKey : Option String)
      (body : Option Json)
  | dispose (findingId : PathPart) (body : Option Json)

/-- A request, with what is drawn for it and what the clock says at the idempotency store and at
the outbox. -/
structure FindingRequest where
  tenantId : PathPart
  principal : Principal
  action : FindingAction
  signingKey : Option String := none
  auditDraw : AuditDraw
  outboxDraw : OutboxDraw
  lookedUpAt : Int := 0
  enqueuedAt : Int := 0
  cachedAt : Int := 0

/-- `createIdempotencyStore().get`
SOURCE: apps/api/src/reliability/idempotency.js:8-18 -/
def idempotencyGet (key : String) (now : Int) : FindingM (Option (Response Item)) := do
  let s ← get
  match s.idempotency.get key with
  | none => return none
  | some entry =>
    if now ≥ entry.expiresAt then
      set { s with idempotency := s.idempotency.erase key }
      return none
    return some entry.response

/-- `createIdempotencyStore().set`
SOURCE: apps/api/src/reliability/idempotency.js:20-22 -/
def idempotencySet (key : String) (response : Response Item) (now : Int) : FindingM Unit :=
  modify fun s =>
    { s with idempotency := s.idempotency.set key ⟨response, now + FieldReports.ttlMs⟩ }

/-- `withIdempotency`
SOURCE: apps/api/src/handlers.js:32-47 -/
def withIdempotency (request : FindingRequest) (path : String) (clientKey : Option String)
    (compute : FindingM (Response Item)) : FindingM (Response Item) := do
  match FieldReports.usableClientKey clientKey with
  | none => compute
  | some clientKey =>
    let key := FieldReports.idempotencyKeyFor request.tenantId.text path clientKey
    let cached ← idempotencyGet key request.lookedUpAt
    match cached with
    | some response => return response
    | none =>
      let result ← compute
      if result.succeeded then idempotencySet key result request.cachedAt
      return result

/-- An operation of the repository. -/
def onRepository {α : Type} (operation : RepositoryM α) : FindingM α :=
  Effect.focus FindingStores.repository (fun s r => { s with repository := r }) operation

/-- An operation of the outbox store. -/
def onOutbox {α : Type} (operation : OutboxM α) : FindingM α :=
  Effect.focus FindingStores.outbox (fun s o => { s with outbox := o }) operation

/-- A request to the disposition route. -/
def dispositionOf (request : FindingRequest) (findingId : PathPart) (body : Option Json) :
    DispositionRequest where
  tenantId := request.tenantId.text
  findingId := findingId.text
  principal := request.principal
  body := body

section

variable (P : Platform)

/-- `appendTenantAuditEvent`, after the events its writer has read.
SOURCE: apps/api/src/handlers.js:252-304 -/
def appendEvidence (request : FindingRequest) (audit : TenantAudit) : RepositoryM Unit := do
  let r ← get
  let event ← buildTenantAuditEvent ⟨P, "", request.signingKey⟩ audit
    (r.listAuditEventsByTenant audit.tenantId) request.auditDraw
  let _ ← appendAuditEvent event

/-- The job of a created record.
SOURCE: apps/api/src/handlers.js:625-636 -/
def enqueueCreated {α : Type} (resource : CollectionResource α) (request : FindingRequest)
    (created : α) : OutboxM Unit := do
  let event ← createOutboxEvent {
    eventType := resource.action
    aggregateType := resource.resourceType
    aggregateId := resource.id created
    tenantId := some request.tenantId.text } request.outboxDraw
  let _ ← enqueue event
    (some (request.tenantId.text ++ ":" ++ resource.action ++ ":" ++ resource.id created))
    request.enqueuedAt

/-- The `try` block of `handleCollectionCreate`.
SOURCE: apps/api/src/handlers.js:611-644 -/
def persistCreated {α : Type} (resource : CollectionResource α) (item : α → Item)
    (request : FindingRequest) (parsed : Json) : FindingM (Response Item) := do
  let created ← onRepository (resource.create (resource.build parsed request.tenantId.text))
  onRepository (appendEvidence P request
    { tenantId := request.tenantId.text
      actorId := request.principal.userId
      action := resource.action
      resourceType := resource.resourceType
      resourceId := resource.id created
      afterStateRef := resource.afterStateRef created })
  onOutbox (enqueueCreated resource request created)
  return .answered 201 (item created)

/-- `handleCollectionCreate`
SOURCE: apps/api/src/handlers.js:593-648 -/
def handleCollectionCreate {α : Type} (resource : CollectionResource α) (item : α → Item)
    (request : FindingRequest) (body : Option Json) : FindingM (Response Item) := do
  match body with
  | none => return malformedBody
  | some parsed =>
    match ensureObjectBody parsed with
    | some message => return badRequest message
    | none =>
      match resource.validate parsed with
      | some message => return badRequest message
      | none =>
        let s ← get
        match resource.guard s.repository request.tenantId.text parsed with
        | some message => return forbidden message
        | none =>
          tryCatch (persistCreated P resource item request parsed)
            fun error => return badRequest error.message

/-- The route of a collection.
SOURCE: apps/api/src/handlers.js:986-1014 -/
def collectionRoute {α : Type} (resource : CollectionResource α) (item : α → Item)
    (request : FindingRequest) (path : String) (clientKey : Option String) (body : Option Json) :
    FindingM (Response Item) :=
  match authorize request.principal request.tenantId.text resource.resourceType "create" with
  | some denied => return .refused denied
  | none =>
    withIdempotency request path clientKey (handleCollectionCreate P resource item request body)

/-- Why a request names an issue it may not relate the finding to.
SOURCE: apps/api/src/handlers.js:1213-1219 -/
def relatedIssueRefusal (r : MemoryRepository) (tenantId : String) (parsed : Json) :
    Option Refusal :=
  if !parsed.hasTruthy "relatedIssueId" then none
  else if (r.listIssuesByTenant tenantId).any
      fun issue => (relatedIssueIdOf parsed).isText issue.id then none
  else some ⟨403, "forbidden", "Related issue must exist in-tenant."⟩

/-- The `try` block of the disposition route.
SOURCE: apps/api/src/handlers.js:1222-1245 -/
def persistDisposition (request : FindingRequest) (findingId : PathPart) (finding : AiFinding)
    (parsed : Json) : FindingM (Response Item) := do
  let updated ← onRepository (MemoryRepository.setAiFindingDisposition findingId.text
    (parsed.orElse "nextDisposition" .null) (relatedIssueIdOf parsed))
  onRepository (appendEvidence P request
    (dispositionAudit (dispositionOf request findingId (some parsed)) finding updated))
  return .answered 200 (.finding updated)

/-- What a disposition may be made on, or why there is none.
SOURCE: apps/api/src/handlers.js:1184-1205 -/
def findFinding (request : FindingRequest) (findingId : PathPart) (r : MemoryRepository) :
    Except (Response Item) AiFinding :=
  match authorize request.principal request.tenantId.text "ai_finding" "update" with
  | some denied => .error (.refused denied)
  | none =>
    match r.getAiFindingById findingId.text with
    | none => .error (notFound "AI finding not found.")
    | some finding =>
      if r.findingInTenant request.tenantId.text finding then .ok finding
      else .error (forbidden "AI finding disposition requires in-tenant access.")

/-- The disposition route.
SOURCE: apps/api/src/handlers.js:1183-1249 -/
def dispositionRoute (request : FindingRequest) (findingId : PathPart) (body : Option Json) :
    FindingM (Response Item) := do
  let s ← get
  match findFinding request findingId s.repository with
  | .error refusal => return refusal
  | .ok finding =>
    match body with
    | none => return malformedBody
    | some parsed =>
      match ensureObjectBody parsed with
      | some message => return badRequest message
      | none =>
        if !parsed.hasTruthy "nextDisposition" then return badRequest "nextDisposition is required."
        else
          match relatedIssueRefusal s.repository request.tenantId.text parsed with
          | some refusal => return .refused refusal
          | none =>
            tryCatch (persistDisposition P request findingId finding parsed)
              fun error => return badRequest error.message

/-- The route of a request. -/
def route (request : FindingRequest) : FindingM (Response Item) :=
  match request.action with
  | .create .projects path clientKey body =>
    collectionRoute P projects .project request path clientKey body
  | .create .issues path clientKey body =>
    collectionRoute P issues .issue request path clientKey body
  | .create .aiReviewRuns path clientKey body =>
    collectionRoute P aiReviewRuns .reviewRun request path clientKey body
  | .create .aiFindings path clientKey body =>
    collectionRoute P aiFindings .finding request path clientKey body
  | .dispose findingId body => dispositionRoute P request findingId body

/-- The API as it answers one request after the other. -/
def api : Object FindingStores FindingRequest (Except JsError (Response Item)) where
  call request s := Effect.exec (handleApiRequest (route P request)) s

end

end Findings

end Xygo.Model
