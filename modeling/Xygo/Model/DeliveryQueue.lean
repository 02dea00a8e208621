import Xygo.Model.Postgres

/-!
# Queueing a delivery on any repository

`queueEmailDelivery` of `packages/email-delivery/src/index.js` stores a delivery, its audit event
and its outbox job. On a repository with a transactional outbox the three are one transaction; on
another one they are three separate writes, the last of them to an outbox store of its own. Each
write may fail.
-/

set_option autoImplicit false

namespace Xygo.Model

open Xygo.Computation

/-- What the writers of evidence call of a repository and of the outbox beside it. An outbox is
given, or missing. -/
structure EvidenceRepository (σ : Type) where
  supportsTransactionalOutbox : Bool
  listAuditEventsByTenant : String → Effect JsError (Faulty JsError σ) (List AuditEvent)
  appendAuditEvent : AuditEvent → Effect JsError (Faulty JsError σ) AuditEvent
  enqueueOutboxEvent : OutboxEvent → String → Int → Effect JsError (Faulty JsError σ) Unit
  outbox : Option (OutboxEvent → String → Int → Effect JsError (Faulty JsError σ) Unit)

/-- What `queueEmailDelivery` calls of a repository. -/
structure QueueRepository (σ : Type) extends EvidenceRepository σ where
  createEmailDelivery : EmailDelivery → Effect JsError (Faulty JsError σ) CreatedDelivery

/-- The error of a repository without transactions that is given no outbox.
SOURCE: packages/email-delivery/src/index.js:270 -/
def outboxRequired : JsError :=
  newError "An outbox store is required for a non-transactional repository."

section

variable {σ : Type} (R : QueueRepository σ) (P : Platform)

/-- The audit event of a queued delivery.
SOURCE: packages/email-delivery/src/index.js:257-264 -/
def queuedAuditEvent (delivery : EmailDelivery) (actorId : String) (signingKey : Option String)
    (events : List AuditEvent) : Except JsError AuditEvent :=
  createEmailDeliveryAuditEvent P delivery
    { action := "email.delivery.queued"
      actorId := actorId
      signingKey := signingKey
      timestamp := isoText delivery.createdAt
      suffix := "queued" }
    (events.getLast?.map AuditEvent.eventHash)

/-- The job of a queued delivery, on the repository or on the outbox beside it.
SOURCE: packages/email-delivery/src/index.js:266-272 -/
def enqueueQueued (delivery : EmailDelivery) (outboxEvent : OutboxEvent) (now : Int) :
    Effect JsError (Faulty JsError σ) Unit :=
  if R.supportsTransactionalOutbox then
    R.enqueueOutboxEvent outboxEvent delivery.idempotencyKey now
  else
    match R.outbox with
    | none => throw outboxRequired
    | some enqueue => enqueue outboxEvent delivery.idempotencyKey now

/-- The `persist` of `queueEmailDelivery`.
SOURCE: packages/email-delivery/src/index.js:253-273 -/
def persistQueued (delivery : EmailDelivery) (actorId : String) (signingKey : Option String)
    (now : Int) : Effect JsError (Faulty JsError σ) CreatedDelivery := do
  let result ← R.createEmailDelivery delivery
  if !result.created then return result
  let events ← R.listAuditEventsByTenant delivery.tenantId
  let auditEvent ← queuedAuditEvent P delivery actorId signingKey events
  let _ ← R.appendAuditEvent auditEvent
  let outboxEvent ← createEmailDeliveryOutboxEvent P delivery
  enqueueQueued R delivery outboxEvent now
  return result

/-- `queueEmailDelivery`
SOURCE: packages/email-delivery/src/index.js:244-277 -/
def queueEmailDelivery (delivery : EmailDelivery) (actorId : String) (signingKey : Option String)
    (now : Int) : Effect JsError (Faulty JsError σ) CreatedDelivery := do
  let _ ← assertEmailDelivery P delivery
  if R.supportsTransactionalOutbox then
    Faulty.atomic (persistQueued R P delivery actorId signingKey now)
  else persistQueued R P delivery actorId signingKey now

/-- A call of `queueEmailDelivery`: its options, the time, and what fails of its steps. -/
structure QueueCall where
  actorId : String
  signingKey : Option String
  now : Int
  faults : List (Option (Fault JsError)) := []

/-- The repository as an object that takes the calls for one delivery. -/
def queueCalls (delivery : EmailDelivery) : Object σ QueueCall (Except JsError CreatedDelivery) where
  call c s :=
    let run := Effect.exec (queueEmailDelivery R P delivery c.actorId c.signingKey c.now)
      ⟨s, c.faults⟩
    (run.1, run.2.store)

end

/-- The Postgres repository: the outbox is a table of its database. -/
def postgresQueue (pg : Postgres) : QueueRepository PgDatabase where
  supportsTransactionalOutbox := true
  listAuditEventsByTenant := Postgres.listAuditEventsByTenant pg
  appendAuditEvent := Postgres.appendAuditEvent pg
  enqueueOutboxEvent event idempotencyKey now := do
    let _ ← Postgres.enqueueOutboxEvent pg event idempotencyKey now
  outbox := none
  createEmailDelivery := Postgres.createEmailDelivery pg

/-- The memory repository and the memory outbox store beside it. -/
structure MemoryStores where
  repository : MemoryRepository := {}
  outbox : OutboxStore := .empty

/-- An operation of the memory repository, as one call. -/
def onRepository {α : Type} (operation : RepositoryM α) :
    Effect JsError (Faulty JsError MemoryStores) α :=
  Faulty.call (Effect.focus MemoryStores.repository
    (fun s r => { s with repository := r }) operation)

/-- An operation of the memory outbox store, as one call. -/
def onOutbox {α : Type} (operation : OutboxM α) :
    Effect JsError (Faulty JsError MemoryStores) α :=
  Faulty.call (Effect.focus MemoryStores.outbox (fun s o => { s with outbox := o }) operation)

/-- `enqueue` of the memory outbox store, as its callers use it. -/
def enqueueMemory (event : OutboxEvent) (idempotencyKey : String) (now : Int) :
    Effect JsError (Faulty JsError MemoryStores) Unit := do
  let _ ← onOutbox (enqueue event (some idempotencyKey) now)

/-- The memory repository, with an outbox store or without one. It has no `enqueueOutboxEvent`, and
nothing calls it there. -/
def memoryQueue (hasOutbox : Bool) : QueueRepository MemoryStores where
  supportsTransactionalOutbox := false
  listAuditEventsByTenant tenantId := onRepository do
    let r ← get
    return r.listAuditEventsByTenant tenantId
  appendAuditEvent event := onRepository (appendAuditEvent event)
  enqueueOutboxEvent _ _ _ := throw outboxRequired
  outbox := if hasOutbox then some enqueueMemory else none
  createEmailDelivery delivery := onRepository (createEmailDelivery delivery)

end Xygo.Model
