import Xygo.Computation.Relational
import Xygo.Model.EmailQueue

/-!
# The tables of the Postgres repository

`infrastructure/migrations/postgres`: the tables, their columns and their constraints, as the
migrations 0001, 0002, 0004, 0005 and 0006 leave them. A `payload` column holds a document, the
record it was made of. A `created_at` that no statement names, and the `seq` of the audit events,
are left out: a table holds its rows in the order they were inserted.
-/

set_option autoImplicit false

namespace Xygo.Model

open Xygo.Computation
open Xygo.Computation.Relational

/-- A user of a tenant.
SOURCE: packages/activation/src/provision-tenant.js:81-87 -/
structure User where
  id : String
  tenantId : String
  email : String
  displayName : Option String := none
  status : String := "active"

/-- The role of a user.
SOURCE: packages/activation/src/provision-tenant.js:88-94 -/
structure RoleAssignment where
  id : String
  tenantId : String
  userId : String
  role : String

/-- What a `payload` column holds. -/
inductive Document
  | user (value : User)
  | roleAssignment (value : RoleAssignment)
  | project (value : Project)
  | issue (value : CoordinationIssue)
  | rfi (value : Rfi)
  | permitPackage (value : PermitPackage)
  | reviewSession (value : ReviewSession)
  | aiReviewRun (value : AiReviewRun)
  | aiFinding (value : AiFinding)
  | platformBlueprint (value : PlatformBlueprint)
  | fieldReport (value : FieldReport)
  | fileRecord (value : FileRecord)
  | emailDelivery (value : EmailDelivery)
  | auditEvent (value : AuditEvent)
  | outboxEvent (value : OutboxEvent)

namespace Document

def user? : Document → Option User
  | user value => some value
  | _ => none

def roleAssignment? : Document → Option RoleAssignment
  | roleAssignment value => some value
  | _ => none

def project? : Document → Option Project
  | project value => some value
  | _ => none

def issue? : Document → Option CoordinationIssue
  | issue value => some value
  | _ => none

def rfi? : Document → Option Rfi
  | rfi value => some value
  | _ => none

def permitPackage? : Document → Option PermitPackage
  | permitPackage value => some value
  | _ => none

def reviewSession? : Document → Option ReviewSession
  | reviewSession value => some value
  | _ => none

def aiReviewRun? : Document → Option AiReviewRun
  | aiReviewRun value => some value
  | _ => none

def aiFinding? : Document → Option AiFinding
  | aiFinding value => some value
  | _ => none

def platformBlueprint? : Document → Option PlatformBlueprint
  | platformBlueprint value => some value
  | _ => none

def fieldReport? : Document → Option FieldReport
  | fieldReport value => some value
  | _ => none

def fileRecord? : Document → Option FileRecord
  | fileRecord value => some value
  | _ => none

def emailDelivery? : Document → Option EmailDelivery
  | emailDelivery value => some value
  | _ => none

def auditEvent? : Document → Option AuditEvent
  | auditEvent value => some value
  | _ => none

def outboxEvent? : Document → Option OutboxEvent
  | outboxEvent value => some value
  | _ => none

end Document

/-- The tables. -/
inductive PgTable
  | tenants
  | users
  | roleAssignments
  | projects
  | issues
  | rfis
  | permitPackages
  | reviewSessions
  | aiReviewRuns
  | aiFindings
  | auditEvents
  | platformBlueprints
  | fieldReports
  | fileRecords
  | outboxJobs
  | emailDeliveries
  deriving DecidableEq, Repr

/-- The columns of all tables. -/
inductive Column
  | id
  | tenantId
  | name
  | status
  | staged
  | provisioningKey
  | payload
  | createdAt
  | email
  | displayName
  | userId
  | role
  | projectType
  | projectId
  | title
  | description
  | severity
  | priority
  | question
  | jurisdictionProfile
  | createdBy
  | ruleVersion
  | modelVersion
  | reviewRunId
  | category
  | humanDisposition
  | relatedIssueId
  | eventId
  | action
  | resourceType
  | resourceId
  | previousHash
  | eventHash
  | signature
  | industry
  | fieldReportId
  | fileClass
  | originalFilename
  | mimeType
  | sizeBytes
  | storageKey
  | checksumSha256
  | clientVisible
  | retentionUntil
  | deletedAt
  | updatedAt
  | eventType
  | eventVersion
  | aggregateType
  | aggregateId
  | idempotencyKey
  | attempts
  | nextAttemptAt
  | lockedAt
  | lockedBy
  | lastError
  | replayCount
  | lastReplayedAt
  | lastReplayReason
  | completedAt
  | recipientUserId
  | recipientEmail
  | kind
  | provider
  | providerMessageId
  | providerStatusAt
  | acceptedAt
  | deliveredAt
  deriving DecidableEq, Repr

/-- A row of a table. -/
abbrev PgRow : Type := Row Column Document

/-- The rows of all tables. -/
abbrev PgDatabase : Type := Database PgTable Column Document

namespace PgTable

open Column in
/-- The columns of a table. -/
def columns : PgTable → List Column
  | tenants => [id, name, status, staged, provisioningKey, payload]
  | users => [id, tenantId, email, displayName, status, payload]
  | roleAssignments => [id, tenantId, userId, role, payload]
  | projects => [id, tenantId, name, projectType, status, payload]
  | issues => [id, tenantId, projectId, title, description, status, severity, priority, payload]
  | rfis => [id, tenantId, projectId, title, question, status, payload]
  | permitPackages => [id, tenantId, projectId, jurisdictionProfile, status, payload]
  | reviewSessions => [id, tenantId, projectId, createdBy, status, payload]
  | aiReviewRuns => [id, tenantId, projectId, status, ruleVersion, modelVersion, payload]
  | aiFindings =>
    [id, tenantId, reviewRunId, category, severity, humanDisposition, relatedIssueId, payload]
  | auditEvents =>
    [eventId, tenantId, action, resourceType, resourceId, previousHash, eventHash, signature,
      payload]
  | platformBlueprints => [id, tenantId, industry, payload]
  | fieldReports => [id, tenantId, projectId, status, payload]
  | fileRecords =>
    [id, tenantId, projectId, fieldReportId, fileClass, originalFilename, mimeType, sizeBytes,
      storageKey, status, checksumSha256, clientVisible, retentionUntil, deletedAt, payload,
      createdAt, updatedAt]
  | outboxJobs =>
    [id, tenantId, eventType, eventVersion, aggregateType, aggregateId, idempotencyKey, status,
      attempts, nextAttemptAt, lockedAt, lockedBy, lastError, replayCount, lastReplayedAt,
      lastReplayReason, payload, createdAt, updatedAt, completedAt]
  | emailDeliveries =>
    [id, tenantId, recipientUserId, recipientEmail, kind, resourceType, resourceId,
      idempotencyKey, status, attempts, provider, providerMessageId, providerStatusAt, lastError,
      payload, createdAt, updatedAt, acceptedAt, deliveredAt]

open Column in
/-- The columns that are `NOT NULL`. -/
def required : PgTable → List Column
  | tenants => [id, name, status, staged]
  | users => [id, tenantId, email, displayName, status, payload]
  | roleAssignments => [id, tenantId, userId, role, payload]
  | projects => [id, tenantId, name, projectType, status, payload]
  | issues => [id, tenantId, projectId, title, description, status, severity, priority, payload]
  | rfis => [id, tenantId, projectId, title, question, status, payload]
  | permitPackages => [id, tenantId, projectId, jurisdictionProfile, status, payload]
  | reviewSessions => [id, tenantId, projectId, createdBy, status, payload]
  | aiReviewRuns => [id, tenantId, projectId, status, payload]
  | aiFindings => [id, tenantId, reviewRunId, category, severity, humanDisposition, payload]
  | auditEvents => [eventId, tenantId, action, resourceType, resourceId, eventHash, payload]
  | platformBlueprints => [id, tenantId, payload]
  | fieldReports => [id, tenantId, status, payload]
  | fileRecords =>
    [id, tenantId, projectId, fileClass, originalFilename, mimeType, sizeBytes, storageKey,
      status, clientVisible, retentionUntil, payload, createdAt, updatedAt]
  | outboxJobs =>
    [id, eventType, eventVersion, aggregateType, aggregateId, idempotencyKey, status, attempts,
      nextAttemptAt, replayCount, payload, createdAt, updatedAt]
  | emailDeliveries =>
    [id, tenantId, recipientEmail, kind, idempotencyKey, status, attempts, payload, createdAt,
      updatedAt]

/-- The primary key and the unique constraints. -/
def unique : PgTable → List (List Column)
  | users => [[.id], [.tenantId, .email], [.id, .tenantId]]
  | roleAssignments => [[.id], [.tenantId, .userId]]
  | auditEvents => [[.eventId]]
  | fileRecords => [[.id], [.storageKey]]
  | outboxJobs => [[.id], [.idempotencyKey]]
  | emailDeliveries => [[.id], [.idempotencyKey], [.providerMessageId]]
  | _ => [[.id]]

/-- `tenant_id … REFERENCES tenants(id)` -/
def ofTenant : Reference PgTable Column := ⟨[.tenantId], tenants, [.id]⟩

/-- `project_id … REFERENCES projects(id)` -/
def ofProject : Reference PgTable Column := ⟨[.projectId], projects, [.id]⟩

/-- The foreign keys. -/
def references : PgTable → List (Reference PgTable Column)
  | tenants => []
  | roleAssignments => [ofTenant, ⟨[.userId], users, [.id]⟩]
  | issues | rfis | permitPackages | reviewSessions | aiReviewRuns => [ofTenant, ofProject]
  | aiFindings =>
    [ofTenant, ⟨[.reviewRunId], aiReviewRuns, [.id]⟩, ⟨[.relatedIssueId], issues, [.id]⟩]
  | fileRecords => [ofTenant, ofProject, ⟨[.fieldReportId], fieldReports, [.id]⟩]
  | emailDeliveries => [ofTenant, ⟨[.recipientUserId, .tenantId], users, [.id, .tenantId]⟩]
  | _ => [ofTenant]

/-- Whether a column holds one of some texts. -/
def oneOf (texts : List String) : Cell Document → Bool
  | .text value => value ∈ texts
  | _ => false

/-- Whether a column holds an integer from a bound on. -/
def atLeast (bound : Int) : Cell Document → Bool
  | .integer value => bound ≤ value
  | _ => false

/-- The `CHECK` constraints. -/
def check : PgTable → PgRow → Bool
  | roleAssignments, row =>
    oneOf ["xygo_admin", "client_owner", "client_staff", "client_viewer"] (row .role)
  | fileRecords, row =>
    oneOf ["document", "evidence", "report_attachment", "report_photo"] (row .fileClass) &&
      atLeast 1 (row .sizeBytes) &&
      oneOf ["pending_upload", "ready", "deleting", "deleted"] (row .status)
  | outboxJobs, row =>
    atLeast 1 (row .eventVersion) &&
      oneOf ["pending", "processing", "failed", "processed", "dead"] (row .status) &&
      atLeast 0 (row .attempts) && atLeast 0 (row .replayCount) &&
      (oneOf ["processing"] (row .status) == (!(row .lockedAt).isNull && !(row .lockedBy).isNull))
  | emailDeliveries, row =>
    oneOf ["activation", "report_ready", "portal_update"] (row .kind) &&
      oneOf ["queued", "sending", "accepted", "delivered", "delayed", "failed", "bounced",
        "complained", "suppressed"] (row .status) &&
      atLeast 0 (row .attempts)
  | _, _ => true

/-- The value of a column an `INSERT` does not name. -/
def default : PgTable → Column → Cell Document
  | outboxJobs, .replayCount => .integer 0
  | _, _ => .null

end PgTable

/-- The schema. -/
def pgSchema : Schema PgTable Column Document where
  columns := PgTable.columns
  required := PgTable.required
  default := PgTable.default
  unique := PgTable.unique
  references := PgTable.references
  check := PgTable.check

/-- What the model leaves open of the database and of its driver: the text the driver sends for a
value that is no text, the values that can be sent, the rows there is room for, the error of a
rejected statement, and the order of texts under the collation of the database. -/
structure Postgres where
  driverText : Json → String
  binds : Cell Document → Bool
  fits : PgTable → PgRow → Bool
  reject : Rejection → JsError
  collation : String → String → Bool

/-- The server with its schema. -/
def Postgres.server (pg : Postgres) : Server JsError PgTable Column Document where
  schema := pgSchema
  binds := pg.binds
  fits := pg.fits
  reject := pg.reject

/-- The parameter the driver makes of a value. -/
def Postgres.cell (pg : Postgres) : Json → Cell Document
  | .null => .null
  | .string value => .text value
  | value => .text (pg.driverText value)

/-- The document in the `payload` of a row. -/
def payload (row : PgRow) : Option Document :=
  match row .payload with
  | .document value => some value
  | _ => none

/-- The text in a column of a row, unless it is `NULL`. -/
def textOf (row : PgRow) (column : Column) : Option String :=
  match row column with
  | .text value => some value
  | _ => none

/-- The number in a column of a row. -/
def integerOf (row : PgRow) (column : Column) : Option Int :=
  match row column with
  | .integer value => some value
  | _ => none

/-- `payloads` and `one` of the source, on the rows that hold a kind of document.
SOURCE: apps/api/src/repositories/postgres.js:244-245 -/
def payloads {α : Type} (kind : Document → Option α) (rows : List PgRow) : List α :=
  rows.filterMap fun row => (payload row).bind kind

end Xygo.Model
