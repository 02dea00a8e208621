import Xygo.Computation.Connections
import Xygo.Model.SqliteOutbox

/-!
# Connections to one SQLite outbox

The operations of `createSqliteOutboxStore` statement by statement, each statement with the
local values the source holds when it runs, so that the statements of several processes on
one file interleave. `claim` runs in a transaction that `BEGIN IMMEDIATE` opens; every other
statement commits by itself.
-/

set_option autoImplicit false

namespace Xygo.Model

open Xygo.Computation

/-- A call on the connection of a worker, which passes its own id to the store. -/
inductive WorkerCall
  | enqueue (event : OutboxEvent) (idempotencyKey : Option String) (now : Int)
  | claim (now limit staleAfterMs : Int)
  | complete (id : String) (now : Int)
  | fail (id : String) (error : JsError) (now : Int) (options : FailOptions)
  | replay (id : String) (tenantId : Option String) (reason : String) (now : Int)

/-- The statement a call runs next. -/
inductive SqliteStatement
  | insert (job : OutboxJob) (event : OutboxEvent)
  | selectKey (job : OutboxJob) (event : OutboxEvent)
  | selectNewId (job : OutboxJob)
  | begin (claimedAt staleBefore limit : Int)
  | selectReady (claimedAt staleBefore limit : Int)
  | updateClaim (claimedAt : Int) (ids todo : List String)
  | commit (ids : List String)
  | selectClaimed (ids : List String) (jobs : List OutboxJob)
  | updateComplete (id : String) (completedAt : Int)
  | selectCompleted (id : String)
  | selectFail (id : String) (error : JsError) (now : Int) (options : FailOptions)
  | updateFail (id : String) (dead : Bool) (nextAttemptAt : Int) (error : JsError) (failedAt : Int)
  | selectFailed (id : String) (changes : Nat)
  | updateReplay (id : String) (tenantId : Option String) (replayReason : String) (replayedAt : Int)
  | selectReplayed (id : String)

/-- What a call answers, and for a `fail` that returned the job it was about and how many
rows its update had changed. -/
structure SqliteAnswer where
  result : Except JsError OutboxResult
  failed : Option (String × Nat) := none

/-- A call that throws. -/
def SqliteAnswer.throw (e : JsError) : SqliteAnswer := { result := .error e }

/-- A call that returns. -/
def SqliteAnswer.return (r : OutboxResult) : SqliteAnswer := { result := .ok r }

/-- The error of a statement that the database refuses, such as a lock that stays taken
longer than `busy_timeout`.
SOURCE: apps/api/src/reliability/outbox.js:309 -/
def statementError : JsError := newError "database is locked"

/-- What a fallible computation leads to: a next statement, or a throw out of the call. -/
def proceed (next : Except JsError SqliteStatement) : SqliteStatement ⊕ SqliteAnswer :=
  match next with
  | .ok statement => .inl statement
  | .error e => .inr (.throw e)

/-- What a call does before its first statement.
SOURCE: apps/api/src/reliability/outbox.js:318-400 -/
def firstStatement : WorkerCall → Except JsError SqliteStatement
  | .enqueue event idempotencyKey now => do
    return .insert (← newJob event idempotencyKey now) event
  | .claim now limit staleAfterMs => do
    let claimedAt ← nowIso now
    let staleBefore ← nowIso (now - staleAfterMs)
    return .begin claimedAt staleBefore limit
  | .complete id now => do
    return .updateComplete id (← nowIso now)
  | .fail id error now options => return .selectFail id error now options
  | .replay id tenantId reason now => do
    let replayReason ← normalizedReplayReason reason
    return .updateReplay id tenantId replayReason (← nowIso now)

/-- What `fail` does between the row it reads and its update.
SOURCE: apps/api/src/reliability/outbox.js:368-378 -/
def decideFail (workerId : String) (table : OutboxTable) (id : String) (error : JsError) (now : Int)
    (options : FailOptions) : Except JsError SqliteStatement := do
  let record ← heldRow table id workerId
  let failedAt ← nowDate now
  let nextAttemptAt ← retryAt record failedAt options
  return .updateFail id (exhausted record options) nextAttemptAt error failedAt

/-- What a claim does after an update of a row: the next row, or the commit.
SOURCE: apps/api/src/reliability/outbox.js:350-351 -/
def claimRest (claimedAt : Int) (ids : List String) : List String → SqliteStatement
  | [] => .commit ids
  | todo => .updateClaim claimedAt ids todo

/-- What a claim does once it has read some of its jobs back: the next one, or the answer.
SOURCE: apps/api/src/reliability/outbox.js:352 -/
def rereadRest (jobs : List OutboxJob) : List String → SqliteStatement ⊕ SqliteAnswer
  | [] => .inr (.return (.jobs jobs))
  | ids => .inl (.selectClaimed ids jobs)

/-- One statement, and what the call does up to its next one.
SOURCE: apps/api/src/reliability/outbox.js:318-400 -/
def runStatement (workerId : String) (table : OutboxTable) :
    SqliteStatement → OutboxTable × (SqliteStatement ⊕ SqliteAnswer)
  | .insert job event => (insertOrIgnore job event table, .inl (.selectKey job event))
  | .selectKey job event =>
    match selectByKey table job.idempotencyKey with
    | some existing =>
      if sameLogicalEvent (sqliteRow existing) event then
        (table, .inr (.return (.job (sqliteRow existing))))
      else (table, .inr (.throw idempotencyConflict))
    | none => (table, .inl (.selectNewId job))
  | .selectNewId job =>
    if (selectById table job.id).isSome then (table, .inr (.throw idTaken))
    else (table, .inr (.throw (newError "SQLite outbox enqueue did not persist a job.")))
  | .begin claimedAt staleBefore limit => (table, .inl (.selectReady claimedAt staleBefore limit))
  | .selectReady claimedAt staleBefore limit =>
    let ids := Model.selectReady table claimedAt staleBefore limit
    (table, .inl (claimRest claimedAt ids ids))
  | .updateClaim claimedAt ids todo =>
    match todo with
    | [] => (table, .inl (.commit ids))
    | id :: todo =>
      (Model.updateClaim workerId claimedAt table id, .inl (claimRest claimedAt ids todo))
  | .commit ids => (table, rereadRest [] ids)
  | .selectClaimed ids jobs =>
    match ids with
    | [] => (table, .inr (.return (.jobs jobs)))
    | id :: ids => (table, rereadRest (jobs ++ (rereadJob table id).toList) ids)
  | .updateComplete id completedAt =>
    let result := Model.updateComplete id workerId completedAt table
    (result.1, if result.2 ≠ 1 then .inr (.throw notClaimed) else .inl (.selectCompleted id))
  | .selectCompleted id => (table, .inr (.return (jobOrNull (rereadJob table id))))
  | .selectFail id error now options =>
    (table, proceed (decideFail workerId table id error now options))
  | .updateFail id dead nextAttemptAt error failedAt =>
    let result := Model.updateFail id workerId dead nextAttemptAt error failedAt table
    (result.1, .inl (.selectFailed id result.2))
  | .selectFailed id changes =>
    (table, .inr { result := .ok (jobOrNull (rereadJob table id)), failed := some (id, changes) })
  | .updateReplay id tenantId replayReason replayedAt =>
    let result := Model.updateReplay id tenantId replayReason replayedAt table
    (result.1, if result.2 = 1 then .inl (.selectReplayed id)
      else .inr (.return (.replayed none)))
  | .selectReplayed id => (table, .inr (.return (.replayed (rereadJob table id))))

/-- How a statement uses transactions.
SOURCE: apps/api/src/reliability/outbox.js:340-351 -/
def statementAccess : SqliteStatement → Access
  | .insert .. | .updateComplete .. | .updateFail .. | .updateReplay .. => .write
  | .begin .. => .begin
  | .updateClaim .. => .draft
  | .commit .. => .commit
  | .selectKey .. | .selectNewId .. | .selectReady .. | .selectClaimed .. | .selectCompleted ..
  | .selectFail .. | .selectFailed .. | .selectReplayed .. => .read

/-- A process with its connection to the file and its worker id. -/
def sqliteClient (workerId : String) :
    Client OutboxTable SqliteStatement WorkerCall SqliteAnswer where
  start c := proceed (firstStatement c)
  access := statementAccess
  run statement table := runStatement workerId table statement
  thrown _ := .throw statementError

/-- Processes with one SQLite outbox file.
SOURCE: apps/api/src/reliability/outbox.js:306-419 -/
def sqliteConnections {ι : Type} [DecidableEq ι] (workerId : ι → String) :=
  connections fun i => sqliteClient (workerId i)

end Xygo.Model
