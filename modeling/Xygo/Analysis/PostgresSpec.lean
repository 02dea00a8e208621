import Xygo.Model.DeliveryQueue
import Xygo.Model.PostgresRecords

/-!
# What the statements of the Postgres repository leave

One lemma for each operation on the audit chain, the outbox and the deliveries: when it returns,
what it was asked to store is stored, and whatever lasts as rows are added has lasted. Nothing is
said of an operation that throws; the transaction around it undoes it.
-/

set_option autoImplicit false

namespace Xygo.Analysis

open Xygo.Computation Xygo.Computation.Relational Xygo.Model

/-- An audit event is in the chain of its tenant. -/
def AuditStored (event : AuditEvent) (db : PgDatabase) : Prop :=
  ∃ row ∈ db .auditEvents, payload row = some (.auditEvent event) ∧
    row .tenantId = .text event.tenantId

/-- A job for a logical event is in the outbox, under a key. -/
def JobStored (event : OutboxEvent) (key : String) (db : PgDatabase) : Prop :=
  ∃ row ∈ db .outboxJobs, row .idempotencyKey = .text key ∧ jobDiffers row event = false

/-- The records of a tenant in a table. -/
def tenantRecords {α : Type} (kind : Document → Option α) (table : PgTable) (tenantId : String)
    (db : PgDatabase) : List α :=
  payloads kind ((db table).filter (selects [(.tenantId, .text tenantId)]))

/-- The record under an id in a table. -/
def recordById {α : Type} (kind : Document → Option α) (table : PgTable) (id : String)
    (db : PgDatabase) : Option α :=
  (payloads kind ((db table).filter (selects [(.id, .text id)]))).head?

/-- The audit chain of a tenant. -/
def chainIn (tenantId : String) (db : PgDatabase) : List AuditEvent :=
  tenantRecords Document.auditEvent? .auditEvents tenantId db

theorem lasting_auditStored (event : AuditEvent) : Lasting (AuditStored event) :=
  lasting_mem _ _

theorem lasting_jobStored (event : OutboxEvent) (key : String) : Lasting (JobStored event key) :=
  lasting_mem _ _

theorem row_audit_payload (event : AuditEvent) :
    payload (insertAudit.row pgSchema (auditParams event)) = some (.auditEvent event) := rfl

theorem row_audit_tenantId (event : AuditEvent) :
    insertAudit.row pgSchema (auditParams event) .tenantId = .text event.tenantId := rfl

section

variable (event : OutboxEvent) (key : String) (now : Int)

theorem row_job_key :
    insertJob.row pgSchema (jobParams event key now) .idempotencyKey = .text key := rfl

theorem row_job_tenantId :
    insertJob.row pgSchema (jobParams event key now) .tenantId = .ofOption event.tenantId := rfl

/-- INTERNAL: the row of a job is for its own event.
SOURCE: apps/api/src/repositories/postgres.js:156-160 -/
theorem row_job_differs :
    jobDiffers (insertJob.row pgSchema (jobParams event key now)) event = false := by
  have htenant : textOf (insertJob.row pgSchema (jobParams event key now)) .tenantId =
      event.tenantId := by
    unfold textOf
    rw [row_job_tenantId]
    cases event.tenantId <;> rfl
  have htype : textOf (insertJob.row pgSchema (jobParams event key now)) .eventType =
      some event.eventType := rfl
  have hversion : integerOf (insertJob.row pgSchema (jobParams event key now)) .eventVersion =
      some (event.eventVersion.getD 1) := rfl
  have haggregate : textOf (insertJob.row pgSchema (jobParams event key now)) .aggregateType =
      some event.aggregateType := rfl
  have hid : textOf (insertJob.row pgSchema (jobParams event key now)) .aggregateId =
      some event.aggregateId := rfl
  simp [jobDiffers, htenant, htype, hversion, haggregate, hid]

end

section

variable (pg : Postgres) (s : PgStore)

/-- INTERNAL: what a `SELECT` of the repository answers, whatever fails. -/
theorem exec_querySelect (table : PgTable) (conditions : List (Column × Cell Document)) :
    Effect.exec (querySelect pg table conditions) s =
      (Faulty.seen s.next
        (if (conditions.all fun pair => pg.binds pair.2) then
          .ok ((s.store table).filter (selects conditions))
        else .error (pg.reject .parameterValue)), { s with faults := s.faults.tail }) :=
  Faulty.exec_call_read (Server.exec_select_eq pg.server s.store table conditions)

/-- INTERNAL: what a list of the repository answers, whatever fails. -/
theorem exec_listByTenant {α : Type} (table : PgTable) (kind : Document → Option α)
    (tenantId : String) :
    Effect.exec (Postgres.listByTenant pg table kind tenantId) s =
      (Faulty.seen s.next
        (if pg.binds (.text tenantId) then .ok (tenantRecords kind table tenantId s.store)
        else .error (pg.reject .parameterValue)), { s with faults := s.faults.tail }) := by
  unfold Postgres.listByTenant
  rw [Effect.exec_bind, exec_querySelect]
  simp only [List.all_cons, List.all_nil, Bool.and_true]
  cases s.next with
  | none => cases pg.binds (.text tenantId) <;> rfl
  | some fault => cases fault <;> cases pg.binds (.text tenantId) <;> rfl

/-- INTERNAL: what a get of the repository answers, whatever fails. -/
theorem exec_getById {α : Type} (table : PgTable) (kind : Document → Option α) (id : String) :
    Effect.exec (Postgres.getById pg table kind id) s =
      (Faulty.seen s.next
        (if pg.binds (.text id) then .ok (recordById kind table id s.store)
        else .error (pg.reject .parameterValue)), { s with faults := s.faults.tail }) := by
  unfold Postgres.getById
  rw [Effect.exec_bind, exec_querySelect]
  simp only [List.all_cons, List.all_nil, Bool.and_true]
  cases s.next with
  | none => cases pg.binds (.text id) <;> rfl
  | some fault => cases fault <;> cases pg.binds (.text id) <;> rfl

/-- INTERNAL: what reading the chain answers, whatever fails.
SOURCE: apps/api/src/repositories/postgres.js:1043-1045 -/
theorem exec_listAuditEventsByTenant (tenantId : String) :
    Effect.exec (Postgres.listAuditEventsByTenant pg tenantId) s =
      (Faulty.seen s.next
        (if pg.binds (.text tenantId) then .ok (chainIn tenantId s.store)
        else .error (pg.reject .parameterValue)), { s with faults := s.faults.tail }) :=
  exec_listByTenant pg s .auditEvents Document.auditEvent? tenantId

end

section

variable {pg : Postgres} {I : PgDatabase → Prop}

/-- INTERNAL: a `SELECT` of the repository gives the rows it selects. -/
theorem triple_querySelect (table : PgTable) (conditions : List (Column × Cell Document)) :
    Effect.Triple (fun s : PgStore => I s.store) (querySelect pg table conditions)
      (fun rows s => I s.store ∧ rows = (s.store table).filter (selects conditions))
      fun _ _ => True := by
  have hselect : Effect.Triple I (pg.server.select table conditions)
      (fun rows db => I db ∧ rows = (db table).filter (selects conditions)) fun _ _ => True := by
    apply Server.triple_select
    · exact fun _ _ _ => trivial
    · exact fun _ hdb => ⟨hdb, rfl⟩
  exact Faulty.triple_call_ok hselect

/-- INTERNAL: an `INSERT` that rejects conflicts stores its row. -/
theorem triple_queryInsert {statement : Insert PgTable Column Document}
    (hI : StableAt statement.table I) (hconflict : statement.onConflict = .reject)
    (params : List (Cell Document)) :
    Effect.Triple (fun s : PgStore => I s.store) (queryInsert pg statement params)
      (fun _ s => I s.store ∧ statement.row pgSchema params ∈ s.store statement.table)
      fun _ _ => True := by
  have hinsert : Effect.Triple I (pg.server.insert statement params)
      (fun _ db => I db ∧ statement.row pgSchema params ∈ db statement.table)
      fun _ _ => True := by
    apply Server.triple_insert hconflict
    · exact fun _ _ _ => trivial
    · exact fun db hdb => ⟨hI _ _ hdb, mem_append_self db _ _⟩
  exact Faulty.triple_call_ok hinsert

/-- INTERNAL: an `INSERT` that skips conflicts stores its row, or meets one that agrees with it. -/
theorem triple_queryInsert_skip {statement : Insert PgTable Column Document}
    (hI : StableAt statement.table I) {target : List Column}
    (hconflict : statement.onConflict = .skip target) (params : List (Cell Document)) :
    Effect.Triple (fun s : PgStore => I s.store) (queryInsert pg statement params)
      (fun inserted s => I s.store ∧
        match inserted with
        | some _ => statement.row pgSchema params ∈ s.store statement.table
        | none => ∃ stored ∈ s.store statement.table,
            agree target (statement.row pgSchema params) stored = true)
      fun _ _ => True := by
  have hinsert : Effect.Triple I (pg.server.insert statement params)
      (fun inserted db => I db ∧
        match inserted with
        | some _ => statement.row pgSchema params ∈ db statement.table
        | none => ∃ stored ∈ db statement.table,
            agree target (statement.row pgSchema params) stored = true)
      fun _ _ => True := by
    apply Server.triple_insert_skip hconflict
    · exact fun _ _ _ => trivial
    · exact fun db hdb stored hstored hagree => ⟨hdb, stored, hstored, hagree⟩
    · exact fun db hdb _ => ⟨hI _ _ hdb, mem_append_self db _ _⟩
  exact Faulty.triple_call_ok hinsert

/-- INTERNAL: reading the chain keeps everything.
SOURCE: apps/api/src/repositories/postgres.js:1043-1045 -/
theorem triple_listAuditEventsByTenant (tenantId : String) :
    Effect.Triple (fun s : PgStore => I s.store) (Postgres.listAuditEventsByTenant pg tenantId)
      (fun _ s => I s.store) fun _ _ => True := by
  unfold Postgres.listAuditEventsByTenant
  apply Effect.Triple.bind (triple_querySelect (I := I) _ _)
  intro rows
  exact Effect.Triple.pure fun s hs => hs.1

/-- INTERNAL: an appended event is in the chain.
SOURCE: apps/api/src/repositories/postgres.js:1046-1052 -/
theorem triple_appendAuditEvent (hI : StableAt .auditEvents I) (event : AuditEvent) :
    Effect.Triple (fun s : PgStore => I s.store) (Postgres.appendAuditEvent pg event)
      (fun _ s => I s.store ∧ AuditStored event s.store) fun _ _ => True := by
  unfold Postgres.appendAuditEvent
  apply Effect.Triple.bind (triple_queryInsert hI rfl _)
  intro inserted
  apply Effect.Triple.pure
  intro s hs
  exact ⟨hs.1, _, hs.2, row_audit_payload event, row_audit_tenantId event⟩

/-- INTERNAL: the job of an event is in the outbox under its key.
SOURCE: apps/api/src/repositories/postgres.js:127-166 -/
theorem triple_enqueueOutboxEvent (hI : StableAt .outboxJobs I) (event : OutboxEvent)
    (key : String) (now : Int) :
    Effect.Triple (fun s : PgStore => I s.store) (Postgres.enqueueOutboxEvent pg event key now)
      (fun _ s => I s.store ∧ JobStored event key s.store) fun _ _ => True := by
  unfold Postgres.enqueueOutboxEvent
  apply Effect.Triple.bind_lift
  · exact fun _ _ _ _ => trivial
  intro createdAt _
  apply Effect.Triple.bind (triple_queryInsert_skip hI rfl _)
  intro inserted
  cases inserted with
  | some row =>
    apply Effect.Triple.pure
    intro s hs
    exact ⟨hs.1, _, hs.2, row_job_key event key createdAt, row_job_differs event key createdAt⟩
  | none =>
    apply Effect.Triple.bind (triple_querySelect (I := fun db => I db ∧
      ∃ stored ∈ db .outboxJobs, agree [.idempotencyKey]
        (insertJob.row pgSchema (jobParams event key createdAt)) stored = true) _ _)
    intro rows
    cases rows with
    | nil =>
      apply Effect.Triple.pure
      rintro s ⟨⟨-, stored, hstored, hagree⟩, hrows⟩
      have hselected : stored ∈ (s.store .outboxJobs).filter
          (selects [(.idempotencyKey, .text key)]) := by
        apply List.mem_filter.mpr
        refine ⟨hstored, ?_⟩
        simpa [agree, selects, row_job_key, Cell.same_comm] using hagree
      rw [← hrows] at hselected
      cases hselected
    | cons row rows =>
      apply Effect.Triple.ite
      · intro _
        exact Effect.Triple.throw fun _ _ => trivial
      · intro hsame
        apply Effect.Triple.pure
        rintro s ⟨⟨hs, -⟩, hrows⟩
        have hrow : row ∈ (s.store .outboxJobs).filter
            (selects [(.idempotencyKey, .text key)]) := by
          rw [← hrows]
          exact List.mem_cons_self
        obtain ⟨hmem, hselected⟩ := List.mem_filter.mp hrow
        refine ⟨hs, row, hmem, ?_, by simpa using hsame⟩
        exact Cell.same_text_iff.mp (by simpa [selects] using hselected)

end

end Xygo.Analysis
