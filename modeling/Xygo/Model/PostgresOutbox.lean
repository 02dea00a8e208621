import Xygo.Computation.RowLocks
import Xygo.Model.SqliteOutbox

/-!
# The Postgres outbox under concurrent sessions

`createPostgresOutboxStore` of `apps/api/src/reliability/outbox.js`, statement by statement,
for any number of calls that run at once: each has a session of its own from the pool. A
statement sees what is committed and is atomic. `claim` locks the rows it selects and skips
the rows that other sessions have locked; the other updates wait for a lock. A statement may
be refused, a connection may be lost, before the statement takes effect or after.

The table is the one of the SQLite store, with its columns and updates; times are instants
here, and not texts.
-/

set_option autoImplicit false

namespace Xygo.Model

open Xygo.Computation

/-- `postgresRow`: the columns of `sqliteRow`, which the driver has turned into values.
SOURCE: apps/api/src/reliability/outbox.js:420-440 -/
def postgresRow (row : OutboxRow) : OutboxJob := sqliteRow row

/-- What `enqueue` inserts for a job: one timestamp for the three times.
SOURCE: apps/api/src/reliability/outbox.js:471-478 -/
def postgresInsertedRow (job : OutboxJob) (event : OutboxEvent) : OutboxRow where
  id := job.id
  tenantId := job.tenantId
  idempotencyKey := job.idempotencyKey
  status := .pending
  attempts := 0
  nextAttemptAt := job.createdAt
  payload := event
  createdAt := job.createdAt
  updatedAt := job.createdAt

/-- The table with the locks of the open claims. -/
abbrev PostgresRows (ι : Type) := LockedRows ι String OutboxRow

/-- The statement a call is to run next, with the values the source holds then. -/
inductive PostgresStatement
  | insert (job : OutboxJob) (event : OutboxEvent)
  | selectKey (job : OutboxJob) (event : OutboxEvent)
  | begin (workerId : String) (claimedAt staleBefore limit : Int)
  | claim (workerId : String) (claimedAt staleBefore limit : Int)
  | commit (claimed : List OutboxRow)
  | updateComplete (id workerId : String) (completedAt : Int)
  | selectFail (id workerId : String) (error : JsError) (now : Int) (options : FailOptions)
  | updateFail (id workerId : String) (record : OutboxJob) (nextAttemptAt : Int) (error : JsError)
      (failedAt : Int) (options : FailOptions)
  | updateReplay (id : String) (tenantId : Option String) (replayReason : String) (replayedAt : Int)

/-- The error of a statement that the server refuses or that does not reach it. -/
def postgresError : JsError := newError "Connection terminated unexpectedly"

/-- The error of a `fail` whose update finds no claim of the worker any more.
SOURCE: apps/api/src/reliability/outbox.js:537 -/
def claimChanged : JsError := newError "Outbox job claim changed before failure recording."

/-- What a call does before its first statement.
SOURCE: apps/api/src/reliability/outbox.js:469-470, 485-489, 512-513, 522-526, 550-552 -/
def OutboxCall.firstPostgres : OutboxCall → Except JsError PostgresStatement
  | .enqueue event idempotencyKey now => do
    return .insert (← newJob event idempotencyKey now) event
  | .claim workerId now limit staleAfterMs => do
    let claimedAt ← nowDate now
    return .begin workerId claimedAt (claimedAt - staleAfterMs) limit
  | .complete id workerId now => do
    return .updateComplete id workerId (← nowDate now)
  | .fail id workerId error now options => return .selectFail id workerId error now options
  | .replay id tenantId reason now => do
    let replayReason ← normalizedReplayReason reason
    return .updateReplay id tenantId replayReason (← nowDate now)

/-- A row that the claim may select: ready, and locked by no other session.
SOURCE: apps/api/src/reliability/outbox.js:493-497 -/
def selectable {ι : Type} (s : PostgresRows ι) (claimedAt staleBefore : Int) (id : String) : Bool :=
  !s.locks.has id &&
  match s.rows.get id with
  | some row => isReady claimedAt staleBefore (postgresRow row)
  | none => false

/-- Whether the claim may select these rows. Which of the selectable rows a `SKIP LOCKED`
finds, and in which order `RETURNING` lists them, is left to the server. A negative limit and
a time that is no date are refused.
SOURCE: apps/api/src/reliability/outbox.js:493-497 -/
def isSelection {ι : Type} (s : PostgresRows ι) (claimedAt staleBefore limit : Int)
    (ids : List String) : Bool :=
  isValidTime staleBefore && decide (ids.Nodup ∧ (ids.length : Int) ≤ limit) &&
  ids.all (selectable s claimedAt staleBefore)

/-- The new versions of the selected rows.
SOURCE: apps/api/src/reliability/outbox.js:498-499 -/
def claimedRows (rows : OutboxTable) (workerId : String) (claimedAt : Int) (ids : List String) :
    List OutboxRow :=
  (ids.filterMap rows.get).map (setClaimed workerId claimedAt)

/-- An `UPDATE ... WHERE id = $n AND ... RETURNING *`, with the row it returns. It waits
while another session holds the row. -/
def updateRow {ι : Type} [DecidableEq ι] (s : PostgresRows ι) (i : ι) (id : String)
    (condition : OutboxRow → Bool) (change : OutboxRow → OutboxRow) :
    Option (PostgresRows ι × Option OutboxRow) :=
  match s.rows.get id with
  | some row =>
    if condition row then (s.write i id (change row)).map fun t => (t, some (change row))
    else some (s, none)
  | none => some (s, none)

/-- What `fail` does between the row it reads and its update. The next time has to be one
that the driver can send.
SOURCE: apps/api/src/reliability/outbox.js:523-531 -/
def decidePostgresFail (rows : OutboxTable) (id workerId : String) (error : JsError) (now : Int)
    (options : FailOptions) : Except JsError PostgresStatement := do
  let record ← heldRow rows id workerId
  let failedAt ← nowDate now
  let nextAttemptAt ← retryAt record failedAt options
  return .updateFail id workerId record nextAttemptAt error failedAt options

/-- What a call does after a statement: its next one, or its answer. -/
abbrev PostgresNext := PostgresStatement ⊕ Except JsError OutboxResult

/-- A fallible computation on the way to a statement. -/
def nextStatement : Except JsError PostgresStatement → PostgresNext
  | .ok statement => .inl statement
  | .error e => .inr (.error e)

/-- The answer of an update: what becomes of its row, or the error when there is none. -/
def returning (answer : OutboxJob → OutboxResult) (e : JsError) : Option OutboxRow → PostgresNext
  | some row => .inr (.ok (answer (postgresRow row)))
  | none => .inr (.error e)

/-- One statement of a session, and what the call does up to its next one; `none` while the
statement waits for a lock, or when `ids` is nothing the claim may select.
SOURCE: apps/api/src/reliability/outbox.js:469-560 -/
def runPostgres {ι : Type} [DecidableEq ι] (s : PostgresRows ι) (i : ι) (ids : List String) :
    PostgresStatement → Option (PostgresRows ι × PostgresNext)
  | .insert job event =>
    -- the conflict target is looked at first; a taken primary key is an error
    if (selectByKey s.rows job.idempotencyKey).isSome then some (s, .inl (.selectKey job event))
    else if s.rows.has job.id then some (s, .inr (.error postgresError))
    else
      let row := postgresInsertedRow job event
      some ({ s with rows := s.rows.set job.id row }, .inr (.ok (.job (postgresRow row))))
  | .selectKey job event =>
    match selectByKey s.rows job.idempotencyKey with
    | some existing =>
      if sameLogicalEvent (postgresRow existing) event then
        some (s, .inr (.ok (.job (postgresRow existing))))
      else some (s, .inr (.error idempotencyConflict))
    | none => some (s, .inr (.error idempotencyConflict))
  | .begin workerId claimedAt staleBefore limit =>
    some (s, .inl (.claim workerId claimedAt staleBefore limit))
  | .claim workerId claimedAt staleBefore limit =>
    if isSelection s claimedAt staleBefore limit ids then
      let claimed := claimedRows s.rows workerId claimedAt ids
      some (s.lock i (claimed.map fun row => (row.id, row)), .inl (.commit claimed))
    else none
  | .commit claimed => some (s.commit i, .inr (.ok (.jobs (claimed.map postgresRow))))
  | .updateComplete id workerId completedAt =>
    (updateRow s i id (claimedBy workerId) (setCompleted completedAt)).map fun result =>
      (result.1, returning .job notClaimed result.2)
  | .selectFail id workerId error now options =>
    some (s, nextStatement (decidePostgresFail s.rows id workerId error now options))
  | .updateFail id workerId record nextAttemptAt error failedAt options =>
    (updateRow s i id (claimedBy workerId)
      (setFailed (exhausted record options) nextAttemptAt error failedAt)).map fun result =>
        (result.1, returning .job claimChanged result.2)
  | .updateReplay id tenantId replayReason replayedAt =>
    (updateRow s i id (deadOf tenantId) (setReplayed replayReason replayedAt)).map fun result =>
      (result.1, .inr (.ok (.replayed (result.2.map postgresRow))))

/-- The table, the call each session answers with the statement it is to run next, and the
answers given so far. -/
structure PostgresSessions (ι : Type) where
  store : PostgresRows ι
  running : ι → Option (OutboxCall × PostgresStatement)
  answers : List (OutboxCall × Except JsError OutboxResult)

/-- A session gets a call; it runs its next statement; that statement fails and takes no
effect; or it takes effect and the connection is lost before its answer arrives. -/
inductive SessionStep (ι : Type)
  | call (i : ι) (c : OutboxCall)
  | exec (i : ι) (ids : List String)
  | throws (i : ι)
  | lost (i : ι) (ids : List String)

namespace PostgresSessions

variable {ι : Type} [DecidableEq ι]

omit [DecidableEq ι] in
/-- An empty table and idle sessions. -/
def initial : PostgresSessions ι := ⟨.empty, fun _ => none, []⟩

/-- A call goes on to its next statement, or is answered. -/
def resume (s : PostgresSessions ι) (i : ι) (c : OutboxCall) (store : PostgresRows ι) :
    PostgresNext → PostgresSessions ι
  | .inl statement =>
    { s with
      store := store
      running := fun j => if j = i then some (c, statement) else s.running j }
  | .inr result =>
    { store := store
      running := fun j => if j = i then none else s.running j
      answers := s.answers ++ [(c, result)] }

/-- A call ends with an error, and the transaction of its session is rolled back.
SOURCE: apps/api/src/reliability/outbox.js:505-507 -/
def abort (s : PostgresSessions ι) (i : ι) (c : OutboxCall) (store : PostgresRows ι) :
    PostgresSessions ι :=
  s.resume i c (store.rollback i) (.inr (.error postgresError))

end PostgresSessions

/-- Sessions of one Postgres outbox, of one process or several.
SOURCE: apps/api/src/reliability/outbox.js:442-560 -/
def postgresSessions {ι : Type} [DecidableEq ι] : Machine (PostgresSessions ι) (SessionStep ι) where
  step s
    | .call i c =>
      match s.running i with
      | none => some (s.resume i c s.store (nextStatement c.firstPostgres))
      | some _ => none
    | .exec i ids =>
      match s.running i with
      | none => none
      | some (c, statement) =>
        (runPostgres s.store i ids statement).map fun result => s.resume i c result.1 result.2
    | .throws i =>
      match s.running i with
      | none => none
      | some (c, _) => some (s.abort i c s.store)
    | .lost i ids =>
      match s.running i with
      | none => none
      | some (c, statement) =>
        (runPostgres s.store i ids statement).map fun result => s.abort i c result.1

end Xygo.Model
