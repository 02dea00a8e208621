import Xygo.Computation.Machine
import Xygo.Model.Js

/-!
# The migration runners

`apps/api/src/repositories/postgres-migrations.js`: any number of runs of `applyPostgresMigrations`,
each on a session of its own, as their queries interleave at the database. A query is answered, or
it is refused with an error, or its session is lost. A session advisory lock has one holder, and a
transaction writes what it wrote when it commits, the DDL of a script included.
-/

set_option autoImplicit false

namespace Xygo.Model

open Xygo.Computation

/-- The versions of `POSTGRES_MIGRATIONS`, in order.
SOURCE: apps/api/src/repositories/postgres-migrations.js:5-38 -/
def postgresMigrations : List String := [
  "0001_init", "0002_paid_client_provisioning", "0003_oidc_authorization",
  "0004_tenant_file_storage", "0005_durable_outbox", "0006_email_monitoring",
  "0007_email_suppressions", "0008_web_auth_sessions"]

/-- Whether a script creates `schema_migrations`.
SOURCE: infrastructure/migrations/postgres/0001_init.sql:5-8 -/
def createsSchemaMigrations (version : String) : Bool := version = "0001_init"

/-- What `migrationStatus` returns. -/
structure MigrationStatus where
  current : Bool
  expected : List String
  applied : List String
  pending : List String
  unexpected : List String

/-- `readAppliedVersions`: the rows of `schema_migrations`, if the relation is there.
SOURCE: apps/api/src/repositories/postgres-migrations.js:49-54 -/
def readAppliedVersions (versions : Option (List String)) : List String :=
  (versions.getD []).insertionSort (· ≤ ·)

/-- `migrationStatus`
SOURCE: apps/api/src/repositories/postgres-migrations.js:56-69 -/
def migrationStatus (applied : List String) : MigrationStatus :=
  let pending := postgresMigrations.filter (· ∉ applied)
  let unexpected := applied.filter (· ∉ postgresMigrations)
  { current := pending.isEmpty && unexpected.isEmpty
    expected := postgresMigrations
    applied := applied
    pending := pending
    unexpected := unexpected }

/-- `schemaNotCurrent`
SOURCE: apps/api/src/repositories/postgres-migrations.js:71-81 -/
def schemaNotCurrent (status : MigrationStatus) : JsError :=
  let detail := fun label (versions : List String) =>
    if versions.isEmpty then [] else [label ++ ": " ++ ", ".intercalate versions]
  { message := "Postgres schema is not current (" ++
      "; ".intercalate (detail "pending" status.pending ++ detail "unexpected" status.unexpected) ++
      "). Run npm run migrate:postgres before app boot."
    code := some "postgres_schema_not_current" }

/-- `assertPostgresMigrationsCurrent`
SOURCE: apps/api/src/repositories/postgres-migrations.js:87-91 -/
def assertPostgresMigrationsCurrent (versions : Option (List String)) :
    Except JsError MigrationStatus :=
  let status := migrationStatus (readAppliedVersions versions)
  if status.current then .ok status else .error (schemaNotCurrent status)

/-- The error of a migration that failed.
SOURCE: apps/api/src/repositories/postgres-migrations.js:127 -/
def migrationFailed (version : String) (error : JsError) : JsError :=
  newError ("Postgres migration " ++ version ++ " failed: " ++ error.message)

/-- What an open transaction has done: the scripts it has executed, and the rows it has inserted
into `schema_migrations`. -/
structure MigrationTransaction where
  scripts : List String := []
  rows : List String := []

/-- Where a run is: before its lock, before it looks for `schema_migrations` and before it reads the
versions, in the loop, before the script, the row and the commit of a migration, before the rollback,
before it reads the versions again, before the unlock, or at its end.
SOURCE: apps/api/src/repositories/postgres-migrations.js:107-145 -/
inductive MigrationPhase
  | connected
  | locked
  | scanning
  | looping (applied rest : List String)
  | begun (applied : List String) (version : String) (rest : List String)
  | executed (applied : List String) (version : String) (rest : List String)
  | inserted (applied : List String) (version : String) (rest : List String)
  | failing (error : JsError)
  | closing
  | unlocking (result : Except JsError (List String))
  | returned (applied : List String)
  | failed (error : JsError)

/-- Whether a run is over. -/
def MigrationPhase.isOver : MigrationPhase → Bool
  | returned _ | failed _ => true
  | _ => false

/-- The end of a run. -/
def MigrationPhase.ofResult : Except JsError (List String) → MigrationPhase
  | .ok applied => returned applied
  | .error error => failed error

/-- A run and its session. Beside them stands what the run has read under its lock, and what it has
committed since. -/
structure MigrationSession where
  phase : MigrationPhase := .connected
  transaction : Option MigrationTransaction := none
  initial : Option (List String) := none
  committed : List String := []

/-- The database and the runs: the scripts that were committed, the rows of `schema_migrations`, and
the session that holds the lock. -/
structure MigrationState where
  executed : List String
  versions : Option (List String)
  lock : Option ℕ := none
  sessions : List MigrationSession := []

/-- A database to which some versions were applied, before any run. -/
def MigrationState.initial (versions : Option (List String)) : MigrationState where
  executed := versions.getD []
  versions := versions

namespace MigrationState

/-- Let a session go on. -/
def put (s : MigrationState) (i : ℕ) (session : MigrationSession) : MigrationState :=
  { s with sessions := s.sessions.set i session }

/-- Whether the lock can be taken. A run that could not unlock has left its session to the pool, and
the next run on it has the lock already. -/
def lockAvailable (s : MigrationState) : Bool :=
  match s.lock with
  | none => true
  | some j => s.sessions[j]?.any fun session => session.phase.isOver && session.transaction.isNone

/-- Whether a transaction may insert a row: the relation is there, and has no such row.
SOURCE: infrastructure/migrations/postgres/0001_init.sql:5-8 -/
def mayInsert (s : MigrationState) (transaction : MigrationTransaction) (version : String) : Bool :=
  (s.versions.isSome || transaction.scripts.any createsSchemaMigrations) &&
    !(version ∈ s.versions.getD [])

end MigrationState

/-- The first migration of the rest of the list that is not applied, and what follows it.
SOURCE: apps/api/src/repositories/postgres-migrations.js:116-117 -/
def nextMigration (applied rest : List String) : Option (String × List String) :=
  match rest.dropWhile (· ∈ applied) with
  | [] => none
  | version :: rest => some (version, rest)

/-- The phase after the versions are read for the first time.
SOURCE: apps/api/src/repositories/postgres-migrations.js:112-116 -/
def MigrationPhase.afterScan (applied : List String) : MigrationPhase :=
  let status := migrationStatus applied
  if status.unexpected.isEmpty then looping status.applied postgresMigrations
  else unlocking (.error (schemaNotCurrent status))

/-- The phase after the versions are read for the second time.
SOURCE: apps/api/src/repositories/postgres-migrations.js:131-133 -/
def MigrationPhase.afterClose (applied : List String) : MigrationPhase :=
  let status := migrationStatus applied
  if status.current then unlocking (.ok status.applied)
  else unlocking (.error (schemaNotCurrent status))

/-- The query of a session is answered.
SOURCE: apps/api/src/repositories/postgres-migrations.js:109-140 -/
def queryAnswered (s : MigrationState) (i : ℕ) (session : MigrationSession) :
    Option MigrationState :=
  match session.phase with
  | .connected =>
    if s.lockAvailable then
      some { s.put i { session with phase := .locked } with lock := some i }
    else none
  | .locked =>
    if s.versions.isSome then some (s.put i { session with phase := .scanning })
    else some (s.put i { session with phase := .afterScan [], initial := some [] })
  | .scanning =>
    some (s.put i { session with
      phase := .afterScan (readAppliedVersions s.versions)
      initial := some (s.versions.getD []) })
  | .looping applied rest =>
    match nextMigration applied rest with
    | some (version, rest) =>
      some (s.put i { session with
        phase := .begun applied version rest
        transaction := some {} })
    | none =>
      if s.versions.isSome then some (s.put i { session with phase := .closing })
      else some (s.put i { session with phase := .afterClose [] })
  | .begun applied version rest =>
    some (s.put i { session with
      phase := .executed applied version rest
      transaction := session.transaction.map fun transaction =>
        { transaction with scripts := transaction.scripts ++ [version] } })
  | .executed applied version rest => do
    let transaction ← session.transaction
    if s.mayInsert transaction version then
      some (s.put i { session with
        phase := .inserted applied version rest
        transaction := some { transaction with rows := transaction.rows ++ [version] } })
    else none
  | .inserted applied version rest => do
    let transaction ← session.transaction
    some { s.put i { session with
        phase := .looping (applied ++ [version]) rest
        transaction := none
        committed := session.committed ++ transaction.rows } with
      executed := s.executed ++ transaction.scripts
      versions := some (s.versions.getD [] ++ transaction.rows) }
  | .failing error =>
    some (s.put i { session with phase := .unlocking (.error error), transaction := none })
  | .closing => some (s.put i { session with phase := .afterClose (readAppliedVersions s.versions) })
  | .unlocking result =>
    if session.transaction.isSome then none
    else some { s.put i { session with phase := .ofResult result } with lock := none }
  | .returned _ | .failed _ => none

/-- The query of a session is refused. A commit that is refused has rolled back; a session whose
rollback is refused is left in its transaction, and one whose unlock is refused keeps the lock.
SOURCE: apps/api/src/repositories/postgres-migrations.js:109-144 -/
def queryRefused (error : JsError) (session : MigrationSession) : Option MigrationSession :=
  match session.phase with
  | .connected => some { session with phase := .failed error }
  | .locked | .scanning | .looping _ _ | .closing => some { session with phase := .unlocking (.error error) }
  | .begun _ version _ | .executed _ version _ =>
    some { session with phase := .failing (migrationFailed version error) }
  | .inserted _ version _ =>
    some { session with phase := .failing (migrationFailed version error), transaction := none }
  | .failing _ => some { session with phase := .unlocking (.error error) }
  | .unlocking (.ok _) => some { session with phase := .failed error }
  | .unlocking (.error migrationError) => some { session with phase := .failed migrationError }
  | .returned _ | .failed _ => none

/-- The error of a query on a session that is lost. -/
def connectionLost : JsError := newError "Connection terminated unexpectedly"

/-- A session that is lost: its transaction is rolled back. -/
def sessionLost (session : MigrationSession) : MigrationSession :=
  { session with
    phase := if session.phase.isOver then session.phase else .failed connectionLost
    transaction := none }

/-- What happens next. -/
inductive MigrationStep
  | connect
  | answer (i : ℕ)
  | refuse (i : ℕ) (error : JsError)
  | disconnect (i : ℕ)

/-- The runs at one database. -/
def migrationRunners : Machine MigrationState MigrationStep where
  step s
    | .connect => some { s with sessions := s.sessions ++ [{}] }
    | .answer i => do
      let session ← s.sessions[i]?
      queryAnswered s i session
    | .refuse i error => do
      let session ← s.sessions[i]?
      let refused ← queryRefused error session
      return s.put i refused
    | .disconnect i => do
      let session ← s.sessions[i]?
      return { s.put i (sessionLost session) with
        lock := if s.lock = some i then none else s.lock }

end Xygo.Model
