import Xygo.Analysis.QueuedDeliveries
import Xygo.Model.Realtime

/-!
# The counts of a snapshot

A snapshot counts records exactly when the repository gives arrays: the `length` of a promise is
`undefined`, whatever it resolves to.
-/

set_option autoImplicit false

namespace Xygo.Analysis

open Xygo.Computation Xygo.Model

/-- A count is the number of records a list operation yields. -/
def CountsRecords {α : Type} (count : Option Nat) (operation : Except JsError (Returned α)) :
    Prop :=
  ∃ returned items, operation = .ok returned ∧ returned.records = .ok items ∧
    count = some items.length

/-- Every count of a snapshot is the number of records of its list operation. -/
structure SnapshotCounts (lists : TenantLists) (tenantId : String) (snapshot : EventSnapshot) :
    Prop where
  projects : CountsRecords snapshot.projects (lists.listProjectsByTenant tenantId)
  issues : CountsRecords snapshot.issues (lists.listIssuesByTenant tenantId)
  rfis : CountsRecords snapshot.rfis (lists.listRfisByTenant tenantId)
  permitPackages :
    CountsRecords snapshot.permitPackages (lists.listPermitPackagesByTenant tenantId)
  reviewSessions :
    CountsRecords snapshot.reviewSessions (lists.listReviewSessionsByTenant tenantId)
  aiReviewRuns : CountsRecords snapshot.aiReviewRuns (lists.listAiReviewRunsByTenant tenantId)
  aiFindings : CountsRecords snapshot.aiFindings (lists.listAiFindingsByTenant tenantId)

/-- A list operation that gives an array when it returns. -/
def GivesArray {α : Type} (operation : Except JsError (Returned α)) : Prop :=
  ∀ returned, operation = .ok returned → ∃ items, returned = .array items

/-- A repository whose list operations give arrays. -/
structure Synchronous (lists : TenantLists) (tenantId : String) : Prop where
  projects : GivesArray (lists.listProjectsByTenant tenantId)
  issues : GivesArray (lists.listIssuesByTenant tenantId)
  rfis : GivesArray (lists.listRfisByTenant tenantId)
  permitPackages : GivesArray (lists.listPermitPackagesByTenant tenantId)
  reviewSessions : GivesArray (lists.listReviewSessionsByTenant tenantId)
  aiReviewRuns : GivesArray (lists.listAiReviewRunsByTenant tenantId)
  aiFindings : GivesArray (lists.listAiFindingsByTenant tenantId)

/-- INTERNAL: the length of an array is the number of its records. -/
theorem countsRecords_of_array {α : Type} {operation : Except JsError (Returned α)}
    {returned : Returned α} (harray : GivesArray operation) (h : operation = .ok returned) :
    CountsRecords returned.length operation := by
  obtain ⟨items, rfl⟩ := harray returned h
  exact ⟨_, items, h, rfl, rfl⟩

/-- INTERNAL: a snapshot of a synchronous repository counts its records.
SOURCE: apps/api/src/realtime.js:7-19 -/
theorem snapshotCounts_of_synchronous {lists : TenantLists} {tenantId : String}
    {snapshot : EventSnapshot} (hlists : Synchronous lists tenantId)
    (h : buildTenantEventSnapshot tenantId lists = .ok snapshot) :
    SnapshotCounts lists tenantId snapshot := by
  unfold buildTenantEventSnapshot at h
  simp only [bind_eq_ok] at h
  obtain ⟨projects, hprojects, issues, hissues, rfis, hrfis, permitPackages, hpermitPackages,
    reviewSessions, hreviewSessions, aiReviewRuns, haiReviewRuns, aiFindings, haiFindings, h⟩ := h
  obtain rfl := Except.ok.inj h
  constructor
  · exact countsRecords_of_array hlists.projects hprojects
  · exact countsRecords_of_array hlists.issues hissues
  · exact countsRecords_of_array hlists.rfis hrfis
  · exact countsRecords_of_array hlists.permitPackages hpermitPackages
  · exact countsRecords_of_array hlists.reviewSessions hreviewSessions
  · exact countsRecords_of_array hlists.aiReviewRuns haiReviewRuns
  · exact countsRecords_of_array hlists.aiFindings haiFindings

theorem givesArray_ok {α : Type} (items : List α) : GivesArray (.ok (.array items)) := by
  intro returned h
  exact ⟨items, (Except.ok.inj h).symm⟩

theorem givesArray_fileList {α : Type} (read : Except JsError FileState)
    (items : FileState → List α) (tenantOf : FileState → α → Option String) (tenantId : String) :
    GivesArray (fileList read items tenantOf tenantId) := by
  intro returned h
  obtain ⟨state, -, hreturned⟩ := bind_eq_ok.mp h
  exact ⟨_, (Except.ok.inj hreturned).symm⟩

theorem givesArray_sqliteList {α : Type} (table : SqliteTable α) (tenantId : String) :
    GivesArray (sqliteList table tenantId) := by
  intro returned h
  obtain ⟨rows, -, h⟩ := bind_eq_ok.mp h
  obtain ⟨items, -, hreturned⟩ := bind_eq_ok.mp h
  exact ⟨items, (Except.ok.inj hreturned).symm⟩

/-- INTERNAL: the memory, file and SQLite repositories are synchronous. -/
theorem synchronous_lists {backend : Backend} (h : backend.mode ≠ .postgres) (tenantId : String) :
    Synchronous backend.lists tenantId := by
  cases backend with
  | memory r => constructor <;> exact givesArray_ok _
  | file read => constructor <;> exact givesArray_fileList _ _ _ _
  | sqlite tables => constructor <;> exact givesArray_sqliteList _ _
  | postgres pg s => exact absurd rfl h

/-- INTERNAL: a snapshot of the Postgres repository has no count.
SOURCE: apps/api/src/realtime.js:10-16; apps/api/src/repositories/postgres.js:599-601 -/
theorem postgres_snapshot (pg : Postgres) (s : PgStore) (tenantId : String) :
    buildTenantEventSnapshot tenantId (Postgres.lists pg s) =
      .ok ⟨tenantId, none, none, none, none, none, none, none, true⟩ := rfl

/-- **The counts of a snapshot are right for every tenant and state of a repository exactly when
the repository is not the Postgres one.**
SOURCE: apps/api/src/realtime.js:7-19; apps/api/src/repositories/index.js:12-49 -/
theorem snapshot_counts (backend : Backend) (tenantId : String) :
    (∀ snapshot, buildTenantEventSnapshot tenantId backend.lists = .ok snapshot →
        SnapshotCounts backend.lists tenantId snapshot) ↔ backend.mode ≠ .postgres := by
  constructor
  · intro hcounts
    cases backend with
    | postgres pg s =>
      obtain ⟨returned, items, -, -, hcount⟩ := (hcounts _ (postgres_snapshot pg s tenantId)).projects
      cases hcount
    | memory r => exact fun h => nomatch h
    | file read => exact fun h => nomatch h
    | sqlite tables => exact fun h => nomatch h
  · intro hmode snapshot h
    exact snapshotCounts_of_synchronous (synchronous_lists hmode tenantId) h

/-- **On Postgres a tenant without records has no counts either**: each is `undefined`, not zero.
SOURCE: apps/api/src/realtime.js:7-19 -/
theorem postgres_uncounted :
    ¬ ∀ (backend : Backend) (tenantId : String) (snapshot : EventSnapshot),
      buildTenantEventSnapshot tenantId backend.lists = .ok snapshot →
        SnapshotCounts backend.lists tenantId snapshot := by
  intro hall
  have hcounts := hall (.postgres roomyPostgres ⟨tenantDatabase, []⟩) "tenant-a" _ rfl
  obtain ⟨returned, items, -, -, hcount⟩ := hcounts.projects
  cases hcount

end Xygo.Analysis
