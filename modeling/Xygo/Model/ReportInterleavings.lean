import Xygo.Model.FieldReportRoutes

/-!
# Drafts and reviews that overlap

The routes of `Xygo.Model.FieldReportRoutes` that change a report, as any number of them interleave
at their awaits. A request reads the report, and goes on with what it read. On a repository without
transactions it then saves the report, reads the tenant's audit events, appends its own and enqueues
its job, each in one step. On Postgres these are one transaction: the row that `saveFieldReport`
writes stays locked until the commit. The emails of an approval are evidence of other resources.
-/

set_option autoImplicit false

namespace Xygo.Model

open Xygo.Computation

namespace FieldReports

/-- A request that has read the report it changes.
SOURCE: apps/api/src/handlers.js:1048-1057, 1084-1093 -/
structure OpenChange where
  request : ReportRequest
  change : Change
  report : FieldReport

/-- A request that has saved its report, with the audit events it has read since.
SOURCE: apps/api/src/handlers.js:1062-1073, 1107-1123 -/
structure SavedChange extends OpenChange where
  saved : FieldReport
  existingEvents : Option (List AuditEvent) := none

/-- The stores and the requests in flight, those that have saved in the order they did. -/
structure ReportTraffic where
  stores : ReportStores
  opened : List OpenChange := []
  saved : List SavedChange := []
  appended : List SavedChange := []

/-- What happens next; a step of a request names it by its place. -/
inductive ReportStep
  | open (request : ReportRequest)
  | save (i : ℕ)
  | list (i : ℕ)
  | append (i : ℕ)
  | enqueue (i : ℕ)
  | persist (i : ℕ)
  | other (event : AuditEvent)

/-- What an open request makes of its report, if it does not end here. -/
def OpenChange.next? (o : OpenChange) : Option FieldReport :=
  match o.change.apply o.report with
  | .ok (.ok next) => some next
  | _ => none

/-- What the evidence of a saved change says. -/
def SavedChange.audit (p : SavedChange) : TenantAudit :=
  transitionAudit p.request p.change.action (.string p.report.status.text) p.saved

section

variable (P : Platform)

/-- A request reads its report.
SOURCE: apps/api/src/handlers.js:1049-1057, 1085-1093 -/
def openReport (request : ReportRequest) (t : ReportTraffic) : Option ReportTraffic := do
  let change ← changeOf request
  let report ← (findReport request change.reportId t.stores.repository).toOption
  return { t with opened := t.opened ++ [⟨request, change, report⟩] }

/-- From the report to the await of `saveFieldReport`. A request that is refused ends.
SOURCE: apps/api/src/handlers.js:1059-1062, 1095-1112 -/
def saveReport (i : ℕ) (t : ReportTraffic) : Option ReportTraffic := do
  let o ← t.opened[i]?
  match o.next? with
  | none => return { t with opened := t.opened.eraseIdx i }
  | some next => return { t with
      stores := (Effect.exec (onRepository (MemoryRepository.saveFieldReport next)) t.stores).2
      opened := t.opened.eraseIdx i
      saved := t.saved ++ [{ o with saved := next }] }

/-- From there to the await of `listAuditEventsByTenant`.
SOURCE: apps/api/src/handlers.js:289 -/
def listEvents (i : ℕ) (t : ReportTraffic) : Option ReportTraffic := do
  let p ← t.saved[i]?
  return { t with
    saved := t.saved.set i { p with
      existingEvents :=
        some (t.stores.repository.listAuditEventsByTenant p.request.tenantId.text) } }

/-- From there to the await of `appendAuditEvent`.
SOURCE: apps/api/src/handlers.js:290-303, 275 -/
def appendEvent (i : ℕ) (t : ReportTraffic) : Option ReportTraffic := do
  let p ← t.saved[i]?
  let existingEvents ← p.existingEvents
  return { t with
    stores :=
      (Effect.exec (onRepository (appendEvidence P p.request p.audit existingEvents)) t.stores).2
    saved := t.saved.eraseIdx i
    appended := t.appended ++ [p] }

/-- From there to the answer.
SOURCE: apps/api/src/handlers.js:1074-1078, 1124, 1175-1177 -/
def enqueueJob (i : ℕ) (t : ReportTraffic) : Option ReportTraffic := do
  let p ← t.appended[i]?
  return { t with
    stores := (Effect.exec (onOutbox
      (enqueueTransition p.request p.change.action (p.change.scope p.saved) p.saved)) t.stores).2
    appended := t.appended.eraseIdx i }

/-- The transaction of a request: one that throws is rolled back.
SOURCE: apps/api/src/handlers.js:1076, 1175; apps/api/src/repositories/postgres.js:288-291 -/
def persistReport (i : ℕ) (t : ReportTraffic) : Option ReportTraffic := do
  let o ← t.opened[i]?
  match o.next? with
  | none => return { t with opened := t.opened.eraseIdx i }
  | some next =>
    let run := Effect.exec (persistChange P o.request o.change o.report (.ok next)) t.stores
    match run.1 with
    | .ok _ => return { t with stores := run.2, opened := t.opened.eraseIdx i }
    | .error _ => return { t with opened := t.opened.eraseIdx i }

/-- Evidence of another resource.
SOURCE: apps/api/src/handlers.js:252-276 -/
def otherEvent (event : AuditEvent) (t : ReportTraffic) : Option ReportTraffic :=
  if event.resourceType = "field_report" then none
  else some { t with
    stores := (Effect.exec (onRepository (appendAuditEvent event)) t.stores).2 }

/-- The requests on a repository, with transactions or without. -/
def reportTraffic (transactional : Bool) : Machine ReportTraffic ReportStep where
  step t
    | .open request => openReport request t
    | .save i => if transactional then none else saveReport i t
    | .list i => listEvents i t
    | .append i => appendEvent P i t
    | .enqueue i => enqueueJob i t
    | .persist i => if transactional then persistReport P i t else none
    | .other event => otherEvent event t

end

end FieldReports

end Xygo.Model
