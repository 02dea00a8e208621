import Xygo.Model.IsoTime
import Xygo.Model.Outbox

/-!
# The SQLite outbox store

`createSqliteOutboxStore` of `apps/api/src/reliability/outbox.js`. The table is the map
from the primary key to the row, in the order of insertion; a statement of the source is a
function of the table. Times are compared as texts, and a comparison with NULL holds of no
row. The operations here run their statements without another connection in between; the
statements are shared with the model of two connections.
-/

set_option autoImplicit false

namespace Xygo.Model

open Xygo.Computation

/-- A row of `outbox_jobs`, with the columns that `sqliteRow` reads.
SOURCE: apps/api/src/reliability/outbox.js:12-33 -/
structure OutboxRow where
  id : String
  tenantId : Option String
  idempotencyKey : String
  status : JobStatus
  attempts : Nat := 0
  nextAttemptAt : Int
  lockedAt : Option Int := none
  lockedBy : Option String := none
  lastError : Option String := none
  replayCount : Nat := 0
  lastReplayedAt : Option Int := none
  lastReplayReason : Option String := none
  payload : OutboxEvent
  createdAt : Int
  updatedAt : Int
  completedAt : Option Int := none

/-- `sqliteRow`
SOURCE: apps/api/src/reliability/outbox.js:284-304 -/
def sqliteRow (row : OutboxRow) : OutboxJob where
  id := row.id
  tenantId := row.tenantId
  event := row.payload
  idempotencyKey := row.idempotencyKey
  status := row.status
  attempts := row.attempts
  nextAttemptAt := row.nextAttemptAt
  lockedAt := row.lockedAt
  lockedBy := row.lockedBy
  lastError := row.lastError
  replayCount := row.replayCount
  lastReplayedAt := row.lastReplayedAt
  lastReplayReason := row.lastReplayReason
  createdAt := row.createdAt
  updatedAt := row.updatedAt
  completedAt := row.completedAt

/-- The table `outbox_jobs`. -/
abbrev OutboxTable := OrderedMap String OutboxRow

/-! ## Statements -/

/-- `SELECT * FROM outbox_jobs WHERE id = ?`
SOURCE: apps/api/src/reliability/outbox.js:312 -/
def selectById (table : OutboxTable) (id : String) : Option OutboxRow := table.get id

/-- `SELECT * FROM outbox_jobs WHERE idempotency_key = ?`
SOURCE: apps/api/src/reliability/outbox.js:313 -/
def selectByKey (table : OutboxTable) (key : String) : Option OutboxRow :=
  table.values.find? fun row => row.idempotencyKey = key

/-- The row `INSERT` makes of a job; the columns it does not name take their defaults.
SOURCE: apps/api/src/reliability/outbox.js:321-328 -/
def insertedRow (job : OutboxJob) (event : OutboxEvent) : OutboxRow where
  id := job.id
  tenantId := job.tenantId
  idempotencyKey := job.idempotencyKey
  status := job.status
  attempts := job.attempts
  nextAttemptAt := job.nextAttemptAt
  payload := event
  createdAt := job.createdAt
  updatedAt := job.updatedAt

/-- `INSERT OR IGNORE`: no row enters if the primary key or the unique key is taken.
SOURCE: apps/api/src/reliability/outbox.js:321-328 -/
def insertOrIgnore (job : OutboxJob) (event : OutboxEvent) (table : OutboxTable) : OutboxTable :=
  if table.has job.id || (selectByKey table job.idempotencyKey).isSome then table
  else table.set job.id (insertedRow job event)

/-- An `UPDATE ... WHERE id = ? AND ...`, with the number of rows it changes. -/
def updateById (id : String) (condition : OutboxRow → Bool) (change : OutboxRow → OutboxRow)
    (table : OutboxTable) : OutboxTable × Nat :=
  match table.get id with
  | some row => if condition row then (table.set id (change row), 1) else (table, 0)
  | none => (table, 0)

/-- `status = 'processing' AND locked_by = ?` -/
def claimedBy (workerId : String) (row : OutboxRow) : Bool :=
  row.status = .processing && row.lockedBy = some workerId

/-- The condition of the claim's `SELECT`.
SOURCE: apps/api/src/reliability/outbox.js:342-344 -/
def isReadyRow (claimedAt staleBefore : Int) (row : OutboxRow) : Bool :=
  ((row.status = .pending || row.status = .failed) && textLe row.nextAttemptAt claimedAt) ||
  (row.status = .processing &&
    match row.lockedAt with
    | some lockedAt => textLe lockedAt staleBefore
    | none => false)

/-- `ORDER BY next_attempt_at, created_at, id`
SOURCE: apps/api/src/reliability/outbox.js:345 -/
def rowLe (a b : OutboxRow) : Bool :=
  isoText a.nextAttemptAt < isoText b.nextAttemptAt ||
  (isoText a.nextAttemptAt = isoText b.nextAttemptAt &&
    (isoText a.createdAt < isoText b.createdAt ||
    (isoText a.createdAt = isoText b.createdAt && a.id ≤ b.id)))

/-- `LIMIT ?`: a negative limit is none. -/
def sqlLimit {α : Type} (limit : Int) (rows : List α) : List α :=
  if limit < 0 then rows else rows.take limit.toNat

/-- The claim's `SELECT id`.
SOURCE: apps/api/src/reliability/outbox.js:341-346 -/
def selectReady (table : OutboxTable) (claimedAt staleBefore limit : Int) : List String :=
  (sqlLimit limit ((table.values.filter (isReadyRow claimedAt staleBefore)).insertionSort
    fun a b => rowLe a b = true)).map OutboxRow.id

/-- What the claim's `UPDATE` sets.
SOURCE: apps/api/src/reliability/outbox.js:348 -/
def setClaimed (workerId : String) (claimedAt : Int) (row : OutboxRow) : OutboxRow :=
  { row with
    status := .processing
    attempts := row.attempts + 1
    lockedAt := some claimedAt
    lockedBy := some workerId
    updatedAt := claimedAt }

/-- The claim's `UPDATE` of one row.
SOURCE: apps/api/src/reliability/outbox.js:347-350 -/
def updateClaim (workerId : String) (claimedAt : Int) (table : OutboxTable) (id : String) :
    OutboxTable :=
  (updateById id (fun _ => true) (setClaimed workerId claimedAt) table).1

/-- What the `UPDATE` of `complete` sets.
SOURCE: apps/api/src/reliability/outbox.js:361-362 -/
def setCompleted (completedAt : Int) (row : OutboxRow) : OutboxRow :=
  { row with
    status := .processed
    lockedAt := none
    lockedBy := none
    lastError := none
    updatedAt := completedAt
    completedAt := some completedAt }

/-- The `UPDATE` of `complete`.
SOURCE: apps/api/src/reliability/outbox.js:360-363 -/
def updateComplete (id workerId : String) (completedAt : Int) (table : OutboxTable) :
    OutboxTable × Nat :=
  updateById id (claimedBy workerId) (setCompleted completedAt) table

/-- What the `UPDATE` of `fail` sets; status and next attempt are computed from the row that
was read before.
SOURCE: apps/api/src/reliability/outbox.js:376, 378 -/
def setFailed (dead : Bool) (nextAttemptAt : Int) (error : JsError) (failedAt : Int)
    (row : OutboxRow) : OutboxRow :=
  { row with
    status := if dead then .dead else .failed
    nextAttemptAt := nextAttemptAt
    lockedAt := none
    lockedBy := none
    lastError := some (boundedError error)
    updatedAt := failedAt }

/-- The `UPDATE` of `fail`.
SOURCE: apps/api/src/reliability/outbox.js:375-378 -/
def updateFail (id workerId : String) (dead : Bool) (nextAttemptAt : Int) (error : JsError)
    (failedAt : Int) (table : OutboxTable) : OutboxTable × Nat :=
  updateById id (claimedBy workerId) (setFailed dead nextAttemptAt error failedAt) table

/-- `tenant_id = ? AND status = 'dead'`; NULL is equal to nothing.
SOURCE: apps/api/src/reliability/outbox.js:397 -/
def deadOf (tenantId : Option String) (row : OutboxRow) : Bool :=
  row.tenantId.isSome && row.tenantId = tenantId && row.status = .dead

/-- What the `UPDATE` of `replay` sets.
SOURCE: apps/api/src/reliability/outbox.js:395-396 -/
def setReplayed (replayReason : String) (replayedAt : Int) (row : OutboxRow) : OutboxRow :=
  { row with
    status := .pending
    attempts := 0
    nextAttemptAt := replayedAt
    lockedAt := none
    lockedBy := none
    lastError := none
    replayCount := row.replayCount + 1
    lastReplayedAt := some replayedAt
    lastReplayReason := some replayReason
    updatedAt := replayedAt
    completedAt := none }

/-- The `UPDATE` of `replay`.
SOURCE: apps/api/src/reliability/outbox.js:394-398 -/
def updateReplay (id : String) (tenantId : Option String) (replayReason : String)
    (replayedAt : Int) (table : OutboxTable) : OutboxTable × Nat :=
  updateById id (deadOf tenantId) (setReplayed replayReason replayedAt) table

/-! ## Operations -/

/-- An operation of the SQLite store. -/
abbrev SqliteM : Type → Type := Effect JsError OutboxTable

/-- `sqliteRow(selectById.get(id))`: the row as it is after an update.
SOURCE: apps/api/src/reliability/outbox.js:352, 365, 379, 399 -/
def rereadJob (table : OutboxTable) (id : String) : Option OutboxJob :=
  (selectById table id).map sqliteRow

/-- What `enqueue` answers once its `INSERT` has run.
SOURCE: apps/api/src/reliability/outbox.js:329-335 -/
def enqueueAnswer (table : OutboxTable) (job : OutboxJob) (event : OutboxEvent) :
    Except JsError OutboxJob :=
  match selectByKey table job.idempotencyKey with
  | some existing =>
    if sameLogicalEvent (sqliteRow existing) event then .ok (sqliteRow existing)
    else .error idempotencyConflict
  | none =>
    if (selectById table job.id).isSome then .error idTaken
    else .error (newError "SQLite outbox enqueue did not persist a job.")

/-- `enqueue`
SOURCE: apps/api/src/reliability/outbox.js:318-336 -/
def sqliteEnqueue (event : OutboxEvent) (idempotencyKey : Option String) (now : Int) :
    SqliteM OutboxJob := do
  let job ← newJob event idempotencyKey now
  modify (insertOrIgnore job event)
  let table ← get
  enqueueAnswer table job event

/-- `claim`
SOURCE: apps/api/src/reliability/outbox.js:337-357 -/
def sqliteClaim (workerId : String) (now limit staleAfterMs : Int) : SqliteM (List OutboxJob) := do
  let claimedAt ← nowIso now
  let staleBefore ← nowIso (now - staleAfterMs)
  let ids := selectReady (← get) claimedAt staleBefore limit
  modify fun table => ids.foldl (updateClaim workerId claimedAt) table
  let table ← get
  return ids.filterMap (rereadJob table)

/-- The row `fail` goes on with: the one it reads is claimed by the worker.
SOURCE: apps/api/src/reliability/outbox.js:368-371 -/
def heldRow (table : OutboxTable) (id workerId : String) : Except JsError OutboxJob :=
  match selectById table id with
  | some row => if claimedBy workerId row then .ok (sqliteRow row) else .error notClaimed
  | none => .error notClaimed

/-- `complete`
SOURCE: apps/api/src/reliability/outbox.js:358-366 -/
def sqliteComplete (id workerId : String) (now : Int) : SqliteM (Option OutboxJob) := do
  let completedAt ← nowIso now
  let result := updateComplete id workerId completedAt (← get)
  set result.1
  if result.2 ≠ 1 then throw notClaimed
  return rereadJob result.1 id

/-- `fail`: the number of rows that the update changed is not looked at.
SOURCE: apps/api/src/reliability/outbox.js:367-380 -/
def sqliteFail (id workerId : String) (error : JsError) (now : Int) (options : FailOptions) :
    SqliteM (Option OutboxJob) := do
  let record ← heldRow (← get) id workerId
  let failedAt ← nowDate now
  let nextAttemptAt ← retryAt record failedAt options
  let result :=
    updateFail id workerId (exhausted record options) nextAttemptAt error failedAt (← get)
  set result.1
  return rereadJob result.1 id

/-- `replay`
SOURCE: apps/api/src/reliability/outbox.js:391-400 -/
def sqliteReplay (id : String) (tenantId : Option String) (reason : String) (now : Int) :
    SqliteM (Option OutboxJob) := do
  let replayReason ← normalizedReplayReason reason
  let replayedAt ← nowIso now
  let result := updateReplay id tenantId replayReason replayedAt (← get)
  set result.1
  return if result.2 = 1 then rereadJob result.1 id else none

/-- A job or `null` as an answer. -/
def jobOrNull : Option OutboxJob → OutboxResult
  | some job => .job job
  | none => .null

/-- The operation a call names, on the SQLite store. -/
def OutboxCall.sqliteOperation : OutboxCall → SqliteM OutboxResult
  | .enqueue event idempotencyKey now => .job <$> sqliteEnqueue event idempotencyKey now
  | .claim workerId now limit staleAfterMs =>
    .jobs <$> sqliteClaim workerId now limit staleAfterMs
  | .complete id workerId now => jobOrNull <$> sqliteComplete id workerId now
  | .fail id workerId error now options =>
    jobOrNull <$> sqliteFail id workerId error now options
  | .replay id tenantId reason now => .replayed <$> sqliteReplay id tenantId reason now

/-- The SQLite store as an object, used by one connection.
SOURCE: apps/api/src/reliability/outbox.js:306-419 -/
def sqliteOutbox : Object OutboxTable OutboxCall (Except JsError OutboxResult) where
  call c table := Effect.exec c.sqliteOperation table

end Xygo.Model
