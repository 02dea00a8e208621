import Xygo.Model.PostgresRecords
import Xygo.Model.Service

/-!
# The disposition of a finding

The route `POST /v1/tenants/:tenant/ai-findings/:finding/disposition` on the Postgres repository. It
makes its two writes, the finding and the audit event, one after the other.
-/

set_option autoImplicit false

namespace Xygo.Model

open Xygo.Computation

/-- A request to the route: its path, its principal, and its body as `JSON.parse` reads it, or
`none` where that throws. -/
structure DispositionRequest where
  tenantId : String
  findingId : String
  principal : Principal
  body : Option Json

/-- The related issue a request names, or `null`.
SOURCE: apps/api/src/handlers.js:1226 -/
def relatedIssueIdOf (parsed : Json) : Json := parsed.orElse "relatedIssueId" .null

/-- The audit event of a disposition.
SOURCE: apps/api/src/handlers.js:1229-1239 -/
def dispositionAudit (request : DispositionRequest) (finding updated : AiFinding) : TenantAudit where
  tenantId := request.tenantId
  actorId := request.principal.userId
  action := "api.ai_finding.disposition_updated"
  resourceType := "ai_finding"
  resourceId := updated.id
  beforeStateRef := finding.humanDisposition
  afterStateRef := updated.humanDisposition

section

variable (pg : Postgres) (E : Environment)

/-- `appendTenantAuditEvent`
SOURCE: apps/api/src/handlers.js:252-276 -/
def appendTenantAuditEvent (audit : TenantAudit) (draw : AuditDraw) : PostgresM Unit := do
  let existingEvents ← Postgres.listAuditEventsByTenant pg audit.tenantId
  let event ← buildTenantAuditEvent E audit existingEvents draw
  let _ ← Postgres.appendAuditEvent pg event

/-- The `try` block of the route: the two writes.
SOURCE: apps/api/src/handlers.js:1222-1245 -/
def writeDisposition (request : DispositionRequest) (finding : AiFinding)
    (nextDisposition relatedIssueId : Json) (draw : AuditDraw) :
    PostgresM (Response AiFinding) := do
  let updated ← Postgres.setAiFindingDisposition pg request.findingId nextDisposition relatedIssueId
  appendTenantAuditEvent pg E (dispositionAudit request finding updated) draw
  return .answered 200 updated

/-- Why a request names an issue it may not relate the finding to.
SOURCE: apps/api/src/handlers.js:1213-1219 -/
def relatedIssueRefusal (tenantId : String) (parsed : Json) : PostgresM (Option Refusal) := do
  if !parsed.hasTruthy "relatedIssueId" then return none
  let tenantIssues ← Postgres.listIssuesByTenant pg tenantId
  if tenantIssues.any fun issue => (relatedIssueIdOf parsed).isText issue.id then return none
  return some ⟨403, "forbidden", "Related issue must exist in-tenant."⟩

/-- The route.
SOURCE: apps/api/src/handlers.js:1183-1249 -/
def dispositionRoute (request : DispositionRequest) (draw : AuditDraw) :
    PostgresM (Response AiFinding) := do
  if let some denied := authorize request.principal request.tenantId "ai_finding" "update" then
    return .refused denied
  let finding ← Postgres.getAiFindingById pg request.findingId
  match finding with
  | none => return notFound "AI finding not found."
  | some finding =>
    let reviewRun ← Postgres.getAiReviewRunById pg finding.reviewRunId
    if !reviewRun.any fun run => run.tenantId = request.tenantId then
      return forbidden "AI finding disposition requires in-tenant access."
    match request.body with
    | none => return malformedBody
    | some parsed =>
      if let some message := ensureObjectBody parsed then return badRequest message
      if !parsed.hasTruthy "nextDisposition" then return badRequest "nextDisposition is required."
      let refusal ← relatedIssueRefusal pg request.tenantId parsed
      if let some refusal := refusal then return .refused refusal
      tryCatch
        (writeDisposition pg E request finding (parsed.orElse "nextDisposition" .null)
          (relatedIssueIdOf parsed) draw)
        fun error => return badRequest error.message

end

/-- `handleApiRequest`: an error no route has caught is answered.
SOURCE: apps/api/src/handlers.js:650-663 -/
def handleApiRequest {σ β : Type} (route : Effect JsError σ (Response β)) :
    Effect JsError σ (Response β) :=
  tryCatch route fun _ => return internalError

end Xygo.Model
