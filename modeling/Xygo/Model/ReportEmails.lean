import Xygo.Model.EmailQueue
import Xygo.Model.FieldReportRoutes
import Xygo.Model.PostgresSchema
import Xygo.Model.RecordRoutes
import Xygo.Model.RuntimeConfig

/-!
# The emails of an approved report

The review route on a repository that also lists the users of a tenant and their roles. An approval
queues one email for every client of the tenant, after the evidence of the review and before its
answer. The other routes of field reports are as they were.
-/

set_option autoImplicit false

namespace Xygo.Model

open Xygo.Computation

/-- The users of a tenant and their roles, as a review reads them. The id of a user is the primary
key of its table.
SOURCE: apps/api/src/repositories/postgres.js:409-414;
infrastructure/migrations/postgres/0002_paid_client_provisioning.sql:6-15 -/
structure Directory where
  users : List User := []
  assignments : List RoleAssignment := []
  distinct : (users.map User.id).Nodup := by decide

/-- What is drawn for one email, and what the clock says where it is made and where its job is. -/
structure EmailDraw where
  audit : AuditDraw
  createdAt : Int := 0
  enqueuedAt : Int := 0

/-- A request, with the directory a review finds and the draws for each user. -/
structure MailRequest extends ReportRequest where
  directory : Directory := {}
  emailDraw : User → EmailDraw

namespace FieldReports

/-- `rolesByUser.get(userId)`: the last assignment of a user counts.
SOURCE: apps/api/src/handlers.js:1135 -/
def roleOf (directory : Directory) (userId : String) : Option String :=
  (directory.assignments.reverse.find? fun assignment => assignment.userId = userId).map
    RoleAssignment.role

/-- The recipients of a report.
SOURCE: apps/api/src/handlers.js:1136-1138 -/
def recipients (directory : Directory) : List User :=
  directory.users.filter fun user =>
    user.status = "active" &&
      (roleOf directory user.id).any fun role => role ∈ ["client_owner", "client_viewer"]

section

variable (P : Platform) (parseUrl : String → Option ParsedUrl) (webAppUrl : String)

/-- The input of a recipient's email.
SOURCE: apps/api/src/handlers.js:1140-1153 -/
def reportEmailInput (request : MailRequest) (reviewed : FieldReport) (user : User) :
    EmailDeliveryInput where
  tenantId := request.tenantId.text
  recipientUserId := some user.id
  recipientEmail := user.email
  kind := .reportReady
  resourceType := some "field_report"
  resourceId := some reviewed.id
  idempotencyKey := some
    (request.tenantId.text ++ ":email:report_ready:" ++ reviewed.id ++ ":" ++ user.id)
  templateData := {
    recipientName := some (user.displayName.getD user.email)
    reportTitle := some
      ((reviewed.draft.map ReportDraft.title).getD (reviewed.siteName ++ " field report"))
    actionUrl := some (dropFinalSlash webAppUrl ++ "/client-portal.html?projectId=" ++
      encodeURIComponent reviewed.projectId) }

/-- A recipient's email.
SOURCE: apps/api/src/handlers.js:1140-1154 -/
def reportEmail (request : MailRequest) (reviewed : FieldReport) (user : User) :
    Except JsError EmailDelivery :=
  Email.createEmailDelivery parseUrl P (reportEmailInput webAppUrl request reviewed user)
    (reviewed.id ++ "-" ++ user.id ++ "-report-ready") (request.emailDraw user).createdAt

/-- The audit event of a queued email.
SOURCE: apps/api/src/handlers.js:1157-1166 -/
def emailQueuedAudit (request : MailRequest) (delivery : EmailDelivery) : TenantAudit where
  tenantId := request.tenantId.text
  actorId := request.principal.userId
  action := "email.delivery.queued"
  resourceType := "email_delivery"
  resourceId := delivery.id
  afterStateRef := .string delivery.status.text

/-- One round of the loop over the recipients.
SOURCE: apps/api/src/handlers.js:1140-1172 -/
def queueReportEmail (request : MailRequest) (reviewed : FieldReport) (user : User) :
    ReportM PUnit := do
  let delivery ← reportEmail P parseUrl webAppUrl request reviewed user
  let createdDelivery ← onRepository (createEmailDelivery delivery)
  if !createdDelivery.created then return
  let s ← get
  onRepository (appendEvidence P
    { request.toReportRequest with auditDraw := (request.emailDraw user).audit }
    (emailQueuedAudit request delivery)
    (s.repository.listAuditEventsByTenant request.tenantId.text))
  let event ← createEmailDeliveryOutboxEvent P delivery
  let _ ← onOutbox
    (enqueue event (some delivery.idempotencyKey) (request.emailDraw user).enqueuedAt)

/-- The `persist` of a review, and its answer.
SOURCE: apps/api/src/handlers.js:1104-1177 -/
def persistReview (request : MailRequest) (change : Change) (report : FieldReport)
    (changed : Except JsError FieldReport) : ReportM (Response FieldReport) := do
  let changed ← changed
  let reviewed ← onRepository (MemoryRepository.saveFieldReport changed)
  announce P request.toReportRequest change.action (.string report.status.text)
    (change.scope reviewed) reviewed
  if reviewed.status = .approved then
    (recipients request.directory).forM (queueReportEmail P parseUrl webAppUrl request reviewed)
  return .answered 200 reviewed

/-- The route of a review.
SOURCE: apps/api/src/handlers.js:1084-1181 -/
def reviewRoute (request : MailRequest) (reportId : PathPart) (body : Option Json) :
    ReportM (Response FieldReport) := do
  let change := reviewChange request.principal reportId body
  let s ← get
  match findReport request.toReportRequest reportId s.repository with
  | .error refusal => return refusal
  | .ok report =>
    match change.apply report with
    | .error refusal => return refusal
    | .ok changed =>
      tryCatch (persistReview P parseUrl webAppUrl request change report changed)
        fun error => return badRequest error.message

/-- The route of a request. -/
def mailRoute (request : MailRequest) : ReportM (Response FieldReport) :=
  match request.action with
  | .review reportId body => reviewRoute P parseUrl webAppUrl request reportId body
  | _ => route P request.toReportRequest

/-- The API on a repository that lists users, as it answers one request after the other. -/
def mailApi : Object ReportStores MailRequest (Except JsError (Response FieldReport)) where
  call request s := Effect.exec (handleApiRequest (mailRoute P parseUrl webAppUrl request)) s

end

end FieldReports

end Xygo.Model
