import Xygo.Computation.Faults
import Xygo.Model.PostgresSchema

/-!
# The Postgres repository: evidence, jobs and emails

The operations of `apps/api/src/repositories/postgres.js` on the audit chain, the outbox and the
email deliveries. Each statement is a call on the database, and any of them may fail; outside of
`runTransaction` a statement commits by itself.
-/

set_option autoImplicit false

namespace Xygo.Model

open Xygo.Computation
open Xygo.Computation.Relational

/-- The database, with what happens to the statements to come. -/
abbrev PgStore : Type := Faulty JsError PgDatabase

/-- An operation of the Postgres repository. -/
abbrev PostgresM : Type → Type := Effect JsError PgStore

section

variable (pg : Postgres)

/-- `query`, on an `INSERT`.
SOURCE: apps/api/src/repositories/postgres.js:120-125 -/
def queryInsert (statement : Insert PgTable Column Document) (params : List (Cell Document)) :
    PostgresM (Option PgRow) :=
  Faulty.call (pg.server.insert statement params)

/-- `query`, on a `SELECT`. -/
def querySelect (table : PgTable) (conditions : List (Column × Cell Document)) :
    PostgresM (List PgRow) :=
  Faulty.call (pg.server.select table conditions)

/-- `query`, on an `UPDATE`. -/
def queryUpdate (table : PgTable) (assignments conditions : List (Column × Cell Document)) :
    PostgresM Nat :=
  Faulty.call (pg.server.update table assignments conditions)

/-- `runTransaction`
SOURCE: apps/api/src/repositories/postgres.js:66-83, 288-291 -/
def runTransaction {α : Type} (operation : PostgresM α) : PostgresM α := Faulty.atomic operation

/-- The statement of `appendAuditEvent`.
SOURCE: apps/api/src/repositories/postgres.js:1048 -/
def insertAudit : Insert PgTable Column Document where
  table := .auditEvents
  columns := [.eventId, .tenantId, .action, .resourceType, .resourceId, .previousHash, .eventHash,
    .signature, .payload]
  values := Value.parameters 1 9

/-- The parameters of an audit event.
SOURCE: apps/api/src/repositories/postgres.js:1049 -/
def auditParams (event : AuditEvent) : List (Cell Document) :=
  [.ofOption event.eventId, .text event.tenantId, .text event.action, .text event.resourceType,
    .text event.resourceId, .ofOption event.previousHash, .text event.eventHash,
    .ofOption event.signature, .document (.auditEvent event)]

namespace Postgres

/-- `listAuditEventsByTenant`
SOURCE: apps/api/src/repositories/postgres.js:1043-1045 -/
def listAuditEventsByTenant (tenantId : String) : PostgresM (List AuditEvent) := do
  let rows ← querySelect pg .auditEvents [(.tenantId, .text tenantId)]
  return payloads Document.auditEvent? rows

/-- `appendAuditEvent`
SOURCE: apps/api/src/repositories/postgres.js:1046-1052 -/
def appendAuditEvent (event : AuditEvent) : PostgresM AuditEvent := do
  let _ ← queryInsert pg insertAudit (auditParams event)
  return event

end Postgres

/-- The statement of `enqueueOutboxEvent`.
SOURCE: apps/api/src/repositories/postgres.js:130-133 -/
def insertJob : Insert PgTable Column Document where
  table := .outboxJobs
  columns := [.id, .tenantId, .eventType, .eventVersion, .aggregateType, .aggregateId,
    .idempotencyKey, .status, .attempts, .nextAttemptAt, .payload, .createdAt, .updatedAt]
  values := Value.parameters 1 7 ++ [.literal (.text "pending"), .literal (.integer 0),
    .parameter 8, .parameter 9, .parameter 8, .parameter 8]
  onConflict := .skip [.idempotencyKey]

/-- The parameters of a job.
SOURCE: apps/api/src/repositories/postgres.js:135-145 -/
def jobParams (event : OutboxEvent) (idempotencyKey : String) (createdAt : Int) :
    List (Cell Document) :=
  [.text event.id, .ofOption event.tenantId, .text event.eventType,
    .integer (event.eventVersion.getD 1), .text event.aggregateType, .text event.aggregateId,
    .text idempotencyKey, .integer createdAt, .document (.outboxEvent event)]

/-- Whether a stored job is for another logical event.
SOURCE: apps/api/src/repositories/postgres.js:156-160 -/
def jobDiffers (row : PgRow) (event : OutboxEvent) : Bool :=
  textOf row .tenantId ≠ event.tenantId || textOf row .eventType ≠ some event.eventType ||
    integerOf row .eventVersion ≠ some (event.eventVersion.getD 1) ||
    textOf row .aggregateType ≠ some event.aggregateType ||
    textOf row .aggregateId ≠ some event.aggregateId

namespace Postgres

/-- `enqueueOutboxEvent`
SOURCE: apps/api/src/repositories/postgres.js:127-166 -/
def enqueueOutboxEvent (event : OutboxEvent) (idempotencyKey : String) (now : Int) :
    PostgresM (Option OutboxEvent) := do
  let createdAt ← toISOString now
  let inserted ← queryInsert pg insertJob (jobParams event idempotencyKey createdAt)
  match inserted with
  | some _ => return some event
  | none =>
    let existing ← querySelect pg .outboxJobs [(.idempotencyKey, .text idempotencyKey)]
    match existing with
    | [] => return none
    | row :: _ =>
      if jobDiffers row event then throw idempotencyConflict
      return (payload row).bind Document.outboxEvent?

end Postgres

/-- The statement of `createEmailDelivery`.
SOURCE: apps/api/src/repositories/postgres.js:766-770 -/
def insertDelivery : Insert PgTable Column Document where
  table := .emailDeliveries
  columns := [.id, .tenantId, .recipientUserId, .recipientEmail, .kind, .resourceType, .resourceId,
    .idempotencyKey, .status, .attempts, .provider, .providerMessageId, .providerStatusAt,
    .lastError, .payload, .createdAt, .updatedAt, .acceptedAt, .deliveredAt]
  values := Value.parameters 1 19
  onConflict := .skip [.idempotencyKey]

/-- A time that may be `null`. -/
def timeCell : Option Int → Cell Document
  | some time => .integer time
  | none => .null

/-- The parameters of a delivery.
SOURCE: apps/api/src/repositories/postgres.js:771-774 -/
def deliveryParams (delivery : EmailDelivery) : List (Cell Document) :=
  [.text delivery.id, .text delivery.tenantId, .ofOption delivery.recipientUserId,
    .text delivery.recipientEmail, .text delivery.kind.text, .ofOption delivery.resourceType,
    .ofOption delivery.resourceId, .text delivery.idempotencyKey, .text delivery.status.text,
    .integer delivery.attempts, .ofOption delivery.provider, .ofOption delivery.providerMessageId,
    timeCell delivery.providerStatusAt, .ofOption delivery.lastError,
    .document (.emailDelivery delivery), .integer delivery.createdAt, .integer delivery.updatedAt,
    timeCell delivery.acceptedAt, timeCell delivery.deliveredAt]

namespace Postgres

/-- `createEmailDelivery`
SOURCE: apps/api/src/repositories/postgres.js:764-785 -/
def createEmailDelivery (delivery : EmailDelivery) : PostgresM CreatedDelivery := do
  let inserted ← queryInsert pg insertDelivery (deliveryParams delivery)
  match inserted with
  | some _ => return ⟨true, delivery⟩
  | none =>
    let existing ← querySelect pg .emailDeliveries
      [(.idempotencyKey, .text delivery.idempotencyKey)]
    match (payloads Document.emailDelivery? existing).head? with
    | none => throw deliveryConflict
    | some record =>
      if emailDeliveryIntentMatches record delivery then return ⟨false, record⟩
      throw deliveryConflict

end Postgres

end

end Xygo.Model
