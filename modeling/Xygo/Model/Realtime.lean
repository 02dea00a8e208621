import Xygo.Model.PostgresRecords
import Xygo.Model.Repository

/-!
# The event stream of a tenant

`buildTenantEventSnapshot` of `apps/api/src/realtime.js` counts what the list operations of the
repository give it. The memory, file and SQLite repositories give an array; the operations of the
Postgres repository are `async`, and give a promise of one.
-/

set_option autoImplicit false

namespace Xygo.Model

open Xygo.Computation

/-- What a list operation gives its caller: an array, or a promise with how it settles. -/
inductive Returned (α : Type)
  | array (items : List α)
  | promise (outcome : Except JsError (List α))

namespace Returned

variable {α : Type}

/-- `.length`: a promise has no such property. -/
def length : Returned α → Option Nat
  | array items => some items.length
  | promise _ => none

/-- The records a list operation yields. -/
def records : Returned α → Except JsError (List α)
  | array items => .ok items
  | promise outcome => outcome

end Returned

/-- The list operations of a repository a snapshot is made of. -/
structure TenantLists where
  listProjectsByTenant : String → Except JsError (Returned Project)
  listIssuesByTenant : String → Except JsError (Returned CoordinationIssue)
  listRfisByTenant : String → Except JsError (Returned Rfi)
  listPermitPackagesByTenant : String → Except JsError (Returned PermitPackage)
  listReviewSessionsByTenant : String → Except JsError (Returned ReviewSession)
  listAiReviewRunsByTenant : String → Except JsError (Returned AiReviewRun)
  listAiFindingsByTenant : String → Except JsError (Returned AiFinding)

/-- What `buildTenantEventSnapshot` returns; a count that is `undefined` is `none`. -/
structure EventSnapshot where
  tenantId : String
  projects : Option Nat
  issues : Option Nat
  rfis : Option Nat
  permitPackages : Option Nat
  reviewSessions : Option Nat
  aiReviewRuns : Option Nat
  aiFindings : Option Nat
  staged : Bool := true
  deriving DecidableEq, Repr

/-- `buildTenantEventSnapshot`
SOURCE: apps/api/src/realtime.js:7-19 -/
def buildTenantEventSnapshot (tenantId : String) (repository : TenantLists) :
    Except JsError EventSnapshot := do
  let projects ← repository.listProjectsByTenant tenantId
  let issues ← repository.listIssuesByTenant tenantId
  let rfis ← repository.listRfisByTenant tenantId
  let permitPackages ← repository.listPermitPackagesByTenant tenantId
  let reviewSessions ← repository.listReviewSessionsByTenant tenantId
  let aiReviewRuns ← repository.listAiReviewRunsByTenant tenantId
  let aiFindings ← repository.listAiFindingsByTenant tenantId
  return {
    tenantId := tenantId
    projects := projects.length
    issues := issues.length
    rfis := rfis.length
    permitPackages := permitPackages.length
    reviewSessions := reviewSessions.length
    aiReviewRuns := aiReviewRuns.length
    aiFindings := aiFindings.length }

/-- The lists of the memory repository.
SOURCE: apps/api/src/repositories/memory.js:67-179 -/
def MemoryRepository.lists (r : MemoryRepository) : TenantLists where
  listProjectsByTenant tenantId := .ok (.array (r.listProjectsByTenant tenantId))
  listIssuesByTenant tenantId := .ok (.array (r.listIssuesByTenant tenantId))
  listRfisByTenant tenantId := .ok (.array (r.listRfisByTenant tenantId))
  listPermitPackagesByTenant tenantId := .ok (.array (r.listPermitPackagesByTenant tenantId))
  listReviewSessionsByTenant tenantId := .ok (.array (r.listReviewSessionsByTenant tenantId))
  listAiReviewRunsByTenant tenantId := .ok (.array (r.listAiReviewRunsByTenant tenantId))
  listAiFindingsByTenant tenantId := .ok (.array (r.listAiFindingsByTenant tenantId))

/-- The state the file repository keeps in its file, as far as the lists read it. -/
structure FileState where
  projects : List Project := []
  issues : List CoordinationIssue := []
  rfis : List Rfi := []
  permitPackages : List PermitPackage := []
  reviewSessions : List ReviewSession := []
  aiReviewRuns : List AiReviewRun := []
  aiFindings : List AiFinding := []

/-- `listByTenant` of the file repository on what it reads of its file; `readState` throws where
the file cannot be read or holds no JSON.
SOURCE: apps/api/src/repositories/file.js:26-32, 57-59 -/
def fileList {α : Type} (read : Except JsError FileState) (items : FileState → List α)
    (tenantOf : FileState → α → Option String) (tenantId : String) :
    Except JsError (Returned α) := do
  let state ← read
  return .array ((items state).filter fun item => tenantOf state item = some tenantId)

/-- The tenant of a finding: that of its review run.
SOURCE: apps/api/src/repositories/file.js:190-196 -/
def FileState.findingTenant (state : FileState) (finding : AiFinding) : Option String :=
  (state.aiReviewRuns.find? fun item => item.id = finding.reviewRunId).map AiReviewRun.tenantId

/-- The lists of the file repository.
SOURCE: apps/api/src/repositories/file.js:73-197 -/
def fileLists (read : Except JsError FileState) : TenantLists where
  listProjectsByTenant := fileList read FileState.projects fun _ item => item.tenantId
  listIssuesByTenant := fileList read FileState.issues fun _ item => item.tenantId
  listRfisByTenant := fileList read FileState.rfis fun _ item => item.tenantId
  listPermitPackagesByTenant := fileList read FileState.permitPackages fun _ item => item.tenantId
  listReviewSessionsByTenant := fileList read FileState.reviewSessions fun _ item => item.tenantId
  listAiReviewRunsByTenant := fileList read FileState.aiReviewRuns fun _ item => item.tenantId
  listAiFindingsByTenant := fileList read FileState.aiFindings FileState.findingTenant

/-- A row of the SQLite repository: its tenant, and what `JSON.parse` gives of its payload. -/
structure SqliteRow (α : Type) where
  tenantId : String
  payload : Except JsError α

/-- The rows of a table, or what the statement that reads them throws. -/
abbrev SqliteTable (α : Type) : Type := Except JsError (List (SqliteRow α))

/-- `parseRows(database.prepare("SELECT payload FROM … WHERE tenant_id = ?").all(tenantId))`
SOURCE: apps/api/src/repositories/sqlite.js:32-34, 137-139 -/
def sqliteList {α : Type} (table : SqliteTable α) (tenantId : String) :
    Except JsError (Returned α) := do
  let rows ← table
  let items ← (rows.filter fun row => row.tenantId = tenantId).mapM SqliteRow.payload
  return .array items

/-- The tables of the SQLite repository the lists read.
SOURCE: infrastructure/migrations/0001_staged_api.sql -/
structure SqliteTables where
  projects : SqliteTable Project
  issues : SqliteTable CoordinationIssue
  rfis : SqliteTable Rfi
  permitPackages : SqliteTable PermitPackage
  reviewSessions : SqliteTable ReviewSession
  aiReviewRuns : SqliteTable AiReviewRun
  aiFindings : SqliteTable AiFinding

/-- The lists of the SQLite repository.
SOURCE: apps/api/src/repositories/sqlite.js:137-286 -/
def SqliteTables.lists (tables : SqliteTables) : TenantLists where
  listProjectsByTenant := sqliteList tables.projects
  listIssuesByTenant := sqliteList tables.issues
  listRfisByTenant := sqliteList tables.rfis
  listPermitPackagesByTenant := sqliteList tables.permitPackages
  listReviewSessionsByTenant := sqliteList tables.reviewSessions
  listAiReviewRunsByTenant := sqliteList tables.aiReviewRuns
  listAiFindingsByTenant := sqliteList tables.aiFindings

/-- An `async` operation of the Postgres repository: the caller gets a promise, whatever happens. -/
def promised {α : Type} (s : PgStore) (operation : PostgresM (List α)) :
    Except JsError (Returned α) :=
  .ok (.promise (Effect.exec operation s).1)

/-- The lists of the Postgres repository.
SOURCE: apps/api/src/repositories/postgres.js:599-694 -/
def Postgres.lists (pg : Postgres) (s : PgStore) : TenantLists where
  listProjectsByTenant tenantId := promised s (Postgres.listProjectsByTenant pg tenantId)
  listIssuesByTenant tenantId := promised s (Postgres.listIssuesByTenant pg tenantId)
  listRfisByTenant tenantId := promised s (Postgres.listRfisByTenant pg tenantId)
  listPermitPackagesByTenant tenantId :=
    promised s (Postgres.listPermitPackagesByTenant pg tenantId)
  listReviewSessionsByTenant tenantId :=
    promised s (Postgres.listReviewSessionsByTenant pg tenantId)
  listAiReviewRunsByTenant tenantId := promised s (Postgres.listAiReviewRunsByTenant pg tenantId)
  listAiFindingsByTenant tenantId := promised s (Postgres.listAiFindingsByTenant pg tenantId)

/-- The kinds of repository. -/
inductive RepositoryMode
  | memory
  | file
  | sqlite
  | postgres
  deriving DecidableEq, Repr

/-- The repository mode an environment asks for.
SOURCE: apps/api/src/repositories/index.js:12-49 -/
def repositoryMode (XYGO_API_REPOSITORY_MODE : Option String) : Except JsError RepositoryMode :=
  match XYGO_API_REPOSITORY_MODE.getD "sqlite" with
  | "memory" => .ok .memory
  | "file" => .ok .file
  | "sqlite" => .ok .sqlite
  | "postgres" => .ok .postgres
  | mode => .error (newError ("Unknown repository mode: " ++ mode))

/-- A repository `createRepositoryFromEnv` returns, in a state.
SOURCE: apps/api/src/repositories/index.js:12-49 -/
inductive Backend
  | memory (r : MemoryRepository)
  | file (read : Except JsError FileState)
  | sqlite (tables : SqliteTables)
  | postgres (pg : Postgres) (s : PgStore)

namespace Backend

/-- The mode a repository is of. -/
def mode : Backend → RepositoryMode
  | memory _ => .memory
  | file _ => .file
  | sqlite _ => .sqlite
  | postgres _ _ => .postgres

/-- The list operations of a repository. -/
def lists : Backend → TenantLists
  | memory r => r.lists
  | file read => fileLists read
  | sqlite tables => tables.lists
  | postgres pg s => Postgres.lists pg s

end Backend

end Xygo.Model
