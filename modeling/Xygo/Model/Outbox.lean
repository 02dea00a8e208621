import Xygo.Computation.Effect
import Xygo.Computation.Machine
import Xygo.Computation.OrderedMap
import Xygo.Model.Js

/-!
# The memory outbox store

`createOutboxStore` of `apps/api/src/reliability/outbox.js`: durable jobs that are
enqueued once for an idempotency key, claimed by workers, completed or failed by the
worker that holds the claim, and replayed by an operator once they are dead. Every
operation is a block over the two maps of the store, in the order of the source's
statements, so that what a throw leaves behind is visible.
-/

set_option autoImplicit false

namespace Xygo.Model

open Xygo.Computation

/-- `JOB_STATUSES`
SOURCE: apps/api/src/reliability/outbox.js:10 -/
inductive JobStatus
  | pending
  | processing
  | failed
  | processed
  | dead
  deriving DecidableEq, Repr

/-- What `createOutboxEvent` returns: the event a job carries.
SOURCE: packages/audit/src/foundation.js:114-131 -/
structure OutboxEvent where
  id : String
  eventType : String
  eventVersion : Option Int := some 1
  aggregateType : String
  aggregateId : String
  tenantId : Option String := none
  payload : Json := .object []
  staged : Bool := true
  status : String := "pending"
  occurredAt : Int := 0

/-- A job record.
SOURCE: apps/api/src/reliability/outbox.js:93-110 -/
structure OutboxJob where
  id : String
  tenantId : Option String
  event : OutboxEvent
  idempotencyKey : String
  status : JobStatus
  attempts : Nat
  nextAttemptAt : Int
  lockedAt : Option Int
  lockedBy : Option String
  lastError : Option String
  replayCount : Nat
  lastReplayedAt : Option Int
  lastReplayReason : Option String
  createdAt : Int
  updatedAt : Int
  completedAt : Option Int

/-- `nowDate`
SOURCE: apps/api/src/reliability/outbox.js:38-42 -/
def nowDate (now : Int) : Except JsError Int :=
  if isValidTime now then .ok now else .error (newError "Outbox time is invalid.")

/-- `nowIso`
SOURCE: apps/api/src/reliability/outbox.js:44-46 -/
def nowIso (now : Int) : Except JsError Int := do
  toISOString (← nowDate now)

/-- `requiredString`
SOURCE: apps/api/src/reliability/outbox.js:52-55 -/
def requiredString (value label : String) : Except JsError String :=
  if trim value = "" then .error (newError (label ++ " is required.")) else .ok (trim value)

/-- `boundedError`
SOURCE: apps/api/src/reliability/outbox.js:57-59 -/
def boundedError (error : JsError) : String := slicePrefix error.message 4000

/-- `normalizedReplayReason`
SOURCE: apps/api/src/reliability/outbox.js:61-67 -/
def normalizedReplayReason (value : String) : Except JsError String := do
  let reason ← requiredString value "Replay reason"
  if utf16Length reason > 500 ∨ reason.toList.any isControl then
    throw (newError "Replay reason must be at most 500 printable characters.")
  return reason

/-- `defaultIdempotencyKey`
SOURCE: apps/api/src/reliability/outbox.js:69-71 -/
def defaultIdempotencyKey (event : OutboxEvent) : String :=
  String.intercalate ":"
    [event.eventType, toString (event.eventVersion.getD 1), event.aggregateType, event.aggregateId]

/-- `sameLogicalEvent`
SOURCE: apps/api/src/reliability/outbox.js:73-79 -/
def sameLogicalEvent (existing : OutboxJob) (candidate : OutboxEvent) : Bool :=
  existing.tenantId = candidate.tenantId &&
  existing.event.eventType = candidate.eventType &&
  existing.event.eventVersion.getD 1 = candidate.eventVersion.getD 1 &&
  existing.event.aggregateType = candidate.aggregateType &&
  existing.event.aggregateId = candidate.aggregateId

/-- `idempotencyConflict`
SOURCE: apps/api/src/reliability/outbox.js:81-85 -/
def idempotencyConflict : JsError :=
  { message := "Outbox idempotency key is already bound to a different logical event."
    code := some "outbox_idempotency_conflict" }

/-- The error of an `enqueue` whose event id belongs to a job with another key.
SOURCE: apps/api/src/reliability/outbox.js:177, 334 -/
def idTaken : JsError :=
  newError "Outbox event id already exists with a different idempotency key."

/-- `newJob`
SOURCE: apps/api/src/reliability/outbox.js:87-111 -/
def newJob (event : OutboxEvent) (idempotencyKey : Option String) (now : Int) :
    Except JsError OutboxJob := do
  let id ← requiredString event.id "Outbox event id"
  let _ ← requiredString event.eventType "Outbox event type"
  let _ ← requiredString event.aggregateType "Outbox aggregate type"
  let _ ← requiredString event.aggregateId "Outbox aggregate id"
  let timestamp ← nowIso now
  let key ← requiredString (idempotencyKey.getD (defaultIdempotencyKey event))
    "Outbox idempotency key"
  return {
    id := id
    tenantId := event.tenantId
    event := event
    idempotencyKey := key
    status := .pending
    attempts := 0
    nextAttemptAt := timestamp
    lockedAt := none
    lockedBy := none
    lastError := none
    replayCount := 0
    lastReplayedAt := none
    lastReplayReason := none
    createdAt := timestamp
    updatedAt := timestamp
    completedAt := none }

/-- `backoffMs`
SOURCE: apps/api/src/reliability/outbox.js:117-119 -/
def backoffMs (attempts : Nat) (baseBackoffMs maxBackoffMs : Int) : Int :=
  min maxBackoffMs (baseBackoffMs * 2 ^ (attempts - 1))

/-- The two maps `createOutboxStore` closes over.
SOURCE: apps/api/src/reliability/outbox.js:163-166 -/
structure OutboxStore where
  items : OrderedMap String OutboxJob
  idempotencyKeys : OrderedMap String String

namespace OutboxStore

/-- A store as `createOutboxStore` returns it. -/
def empty : OutboxStore := ⟨.empty, .empty⟩

/-- `store.get`
SOURCE: apps/api/src/reliability/outbox.js:238-240 -/
def get (s : OutboxStore) (id : String) : Option OutboxJob := s.items.get id

/-- Write a record back under its id. -/
def put (s : OutboxStore) (id : String) (record : OutboxJob) : OutboxStore :=
  { s with items := s.items.set id record }

end OutboxStore

/-- An operation of the memory store. -/
abbrev OutboxM : Type → Type := Effect JsError OutboxStore

/-- The error of `complete` and `fail` on a claim the worker does not hold. -/
def notClaimed : JsError := newError "Outbox job is not claimed by this worker."

/-- `store.enqueue`. An id is never empty, so the test that `existingId` is truthy is the
test that the key is bound.
SOURCE: apps/api/src/reliability/outbox.js:169-181 -/
def enqueue (event : OutboxEvent) (idempotencyKey : Option String) (now : Int) :
    OutboxM OutboxJob := do
  let candidate ← newJob event idempotencyKey now
  let s ← get
  match s.idempotencyKeys.get candidate.idempotencyKey with
  | some existingId =>
    match s.items.get existingId with
    | some existing =>
      if sameLogicalEvent existing event then return existing else throw idempotencyConflict
    | none => throw idempotencyConflict
  | none =>
    if s.items.has candidate.id then throw idTaken
    set { s with items := s.items.set candidate.id candidate }
    modify fun s =>
      { s with idempotencyKeys := s.idempotencyKeys.set candidate.idempotencyKey candidate.id }
    return candidate

/-- The filter of `store.ready` on one record: due, or held by a claim that went stale.
SOURCE: apps/api/src/reliability/outbox.js:185-188 -/
def isReady (current staleBefore : Int) (record : OutboxJob) : Bool :=
  ((record.status = .pending || record.status = .failed) && record.nextAttemptAt ≤ current) ||
  (record.status = .processing &&
    match record.lockedAt with
    | some lockedAt => decide (lockedAt ≤ staleBefore)
    | none => false)

/-- `store.ready`
SOURCE: apps/api/src/reliability/outbox.js:182-189 -/
def ready (s : OutboxStore) (now staleAfterMs : Int) : List OutboxJob :=
  s.items.values.filter (isReady now (now - staleAfterMs))

/-- The record after a claim.
SOURCE: apps/api/src/reliability/outbox.js:193-199 -/
def claimed (workerId : String) (claimedAt : Int) (record : OutboxJob) : OutboxJob :=
  { record with
    status := .processing
    attempts := record.attempts + 1
    lockedAt := some claimedAt
    lockedBy := some workerId
    updatedAt := claimedAt }

/-- `store.claim`. The selected records are changed where they stand in the map.
SOURCE: apps/api/src/reliability/outbox.js:190-202 -/
def claim (workerId : String) (now limit staleAfterMs : Int) : OutboxM (List OutboxJob) := do
  let claimedAt ← nowIso now
  let s ← get
  let selected := sliceTo (ready s now staleAfterMs) limit
  set { s with items := s.items.mapValues fun (record : OutboxJob) =>
          if record.id ∈ selected.map OutboxJob.id then claimed workerId claimedAt record
          else record }
  return selected.map (claimed workerId claimedAt)

/-- The record `complete` and `fail` work on: the one the worker holds a claim of.
SOURCE: apps/api/src/reliability/outbox.js:204-207 -/
def heldBy (s : OutboxStore) (id workerId : String) : Except JsError OutboxJob :=
  match s.items.get id with
  | some record =>
    if record.status ≠ .processing ∨ record.lockedBy ≠ some workerId then .error notClaimed
    else .ok record
  | none => .error notClaimed

/-- The record after a completion.
SOURCE: apps/api/src/reliability/outbox.js:209-216 -/
def completed (completedAt : Int) (record : OutboxJob) : OutboxJob :=
  { record with
    status := .processed
    lockedAt := none
    lockedBy := none
    lastError := none
    updatedAt := completedAt
    completedAt := some completedAt }

/-- `store.complete`
SOURCE: apps/api/src/reliability/outbox.js:203-218 -/
def complete (id workerId : String) (now : Int) : OutboxM OutboxJob := do
  let s ← get
  let record ← heldBy s id workerId
  let completedAt ← nowIso now
  set (s.put id (completed completedAt record))
  return completed completedAt record

/-- The options of `fail`. -/
structure FailOptions where
  maxAttempts : Int := 5
  baseBackoffMs : Int := 1000
  maxBackoffMs : Int := 900000
  deriving DecidableEq, Repr

/-- Whether a failure is the last one the job is allowed.
SOURCE: apps/api/src/reliability/outbox.js:225 -/
def exhausted (record : OutboxJob) (options : FailOptions) : Bool :=
  options.maxAttempts ≤ record.attempts

/-- When a failed job is next due: now if it is dead, else after the backoff.
SOURCE: apps/api/src/reliability/outbox.js:228-230 -/
def retryAt (record : OutboxJob) (failedAt : Int) (options : FailOptions) : Except JsError Int :=
  if exhausted record options then toISOString failedAt
  else toISOString
    (failedAt + backoffMs record.attempts options.baseBackoffMs options.maxBackoffMs)

/-- The record after a failure.
SOURCE: apps/api/src/reliability/outbox.js:226-235 -/
def failed (error : JsError) (failedAt nextAttemptAt : Int) (options : FailOptions)
    (record : OutboxJob) : OutboxJob :=
  { record with
    status := if exhausted record options then .dead else .failed
    nextAttemptAt := nextAttemptAt
    lockedAt := none
    lockedBy := none
    lastError := some (boundedError error)
    updatedAt := failedAt }

/-- `store.fail`. The new fields are computed before any of them is assigned.
SOURCE: apps/api/src/reliability/outbox.js:219-237 -/
def fail (id workerId : String) (error : JsError) (now : Int) (options : FailOptions) :
    OutboxM OutboxJob := do
  let s ← get
  let record ← heldBy s id workerId
  let failedAt ← nowDate now
  let nextAttemptAt ← retryAt record failedAt options
  set (s.put id (failed error failedAt nextAttemptAt options record))
  return failed error failedAt nextAttemptAt options record

/-- The record after a replay.
SOURCE: apps/api/src/reliability/outbox.js:259-271 -/
def replayed (replayReason : String) (replayedAt : Int) (record : OutboxJob) : OutboxJob :=
  { record with
    status := .pending
    attempts := 0
    nextAttemptAt := replayedAt
    lockedAt := none
    lockedBy := none
    lastError := none
    replayCount := record.replayCount + 1
    lastReplayedAt := some replayedAt
    lastReplayReason := some replayReason
    updatedAt := replayedAt
    completedAt := none }

/-- The error of a replay of a job that is not dead. -/
def notDead : JsError := newError "Only dead outbox jobs can be replayed."

/-- `store.replay`: `none` when the tenant has no such job.
SOURCE: apps/api/src/reliability/outbox.js:253-273 -/
def replay (id : String) (tenantId : Option String) (reason : String) (now : Int) :
    OutboxM (Option OutboxJob) := do
  let replayReason ← normalizedReplayReason reason
  let s ← get
  match s.items.get id with
  | none => return none
  | some record =>
    if record.tenantId ≠ tenantId then return none
    if record.status ≠ .dead then throw notDead
    let replayedAt ← nowIso now
    set (s.put id (replayed replayReason replayedAt record))
    return some (replayed replayReason replayedAt record)

/-- A call of one of the five operations that change jobs. -/
inductive OutboxCall
  | enqueue (event : OutboxEvent) (idempotencyKey : Option String) (now : Int)
  | claim (workerId : String) (now limit staleAfterMs : Int)
  | complete (id workerId : String) (now : Int)
  | fail (id workerId : String) (error : JsError) (now : Int) (options : FailOptions)
  | replay (id : String) (tenantId : Option String) (reason : String) (now : Int)

/-- What a call returns: a job, the claimed jobs, or the replayed job if there was one. Only
a SQL store could return `null` for a job, should the row it wrote be gone. -/
inductive OutboxResult
  | job (record : OutboxJob)
  | null
  | jobs (records : List OutboxJob)
  | replayed (record : Option OutboxJob)

/-- The operation a call names. -/
def OutboxCall.operation : OutboxCall → OutboxM OutboxResult
  | .enqueue event idempotencyKey now => .job <$> Model.enqueue event idempotencyKey now
  | .claim workerId now limit staleAfterMs => .jobs <$> Model.claim workerId now limit staleAfterMs
  | .complete id workerId now => .job <$> Model.complete id workerId now
  | .fail id workerId error now options => .job <$> Model.fail id workerId error now options
  | .replay id tenantId reason now => .replayed <$> Model.replay id tenantId reason now

/-- The memory store as an object: calls in, answers or thrown errors out. -/
def memoryOutbox : Object OutboxStore OutboxCall (Except JsError OutboxResult) where
  call c s := Effect.exec c.operation s

end Xygo.Model
