import Xygo.Model.RecordRoutes

/-!
# What a request learns of the records of other tenants

A route that looks a record up by its id answers a record of another tenant as it answers an id
under which nothing is stored, so that a principal cannot tell the two apart. The disposition of a
finding is the one that does not: it says that the finding is there, and that it is not the
tenant's.
-/

set_option autoImplicit false

namespace Xygo.Analysis

open Xygo.Computation Xygo.Computation.Effect Xygo.Model Xygo.Model.RecordRoutes

/-- What a route looks up. -/
inductive RecordKind
  | blueprint
  | report
  | file
  | finding
  deriving DecidableEq, Repr

/-- The kind of record a route looks up. -/
def recordKind : RecordRoute → RecordKind
  | .getBlueprint => .blueprint
  | .getReport | .draftReport | .reviewReport _ => .report
  | .completeFile | .putContent _ _ | .downloadFile | .getContent | .deleteFile => .file
  | .disposeFinding _ => .finding

/-- Whether a record is stored under an id. -/
def isStored (r : MemoryRepository) (kind : RecordKind) (id : String) : Bool :=
  match kind with
  | .blueprint => (r.getPlatformBlueprintById id).isSome
  | .report => (r.getFieldReportById id).isSome
  | .file => (r.getFileRecordById id).isSome
  | .finding => (r.getAiFindingById id).isSome

/-- The tenant of the record under an id: a finding belongs to the tenant of its review run. -/
def tenantOfRecord (r : MemoryRepository) (kind : RecordKind) (id : String) : Option String :=
  match kind with
  | .blueprint => (r.getPlatformBlueprintById id).map PlatformBlueprint.tenantId
  | .report => (r.getFieldReportById id).map FieldReport.tenantId
  | .file => (r.getFileRecordById id).map FileRecord.tenantId
  | .finding => (r.getAiFindingById id).bind fun finding =>
    (r.aiReviewRunStore.get finding.reviewRunId).map AiReviewRun.tenantId

/-- The request with another id in its path. -/
def requestAt (request : RecordRequest) (recordId : PathPart) : RecordRequest :=
  { request with recordId := recordId }

/-- A principal that may not act is told so, and any other that there is no such record. -/
def refusalOf (request : RecordRequest) (resource action message : String) : Response RecordBody :=
  match authorize request.principal request.tenantId.text resource action with
  | some denied => .refused denied
  | none => notFound message

/-- What a request is answered where no record of the tenant is under its id. The routes that read
a file say so to any principal. -/
def absentAnswer (request : RecordRequest) : Response RecordBody :=
  match request.route with
  | .getBlueprint => refusalOf request "platform_blueprint" "read" "Platform blueprint not found."
  | .getReport => refusalOf request "field_report" "read" "Field report not found."
  | .draftReport | .reviewReport _ =>
    refusalOf request "field_report" "update" "Field report not found."
  | .completeFile | .putContent _ _ => refusalOf request "file_record" "update" "File not found."
  | .downloadFile | .getContent => notFound "File not found."
  | .deleteFile => refusalOf request "file_record" "delete" "File not found."
  | .disposeFinding _ => refusalOf request "ai_finding" "update" "AI finding not found."

section

variable {Ω : Type} {P : Platform} {storage : StorageAdapter Ω} {request : RecordRequest}

/-- INTERNAL: a record of another tenant is not found. -/
theorem inTenant_absent {α : Type} {tenantOf : α → String} {tenantId message : String}
    {stored : Option α} (h : stored.map tenantOf ≠ some tenantId) :
    inTenant tenantOf tenantId stored message = .error (notFound message) := by
  unfold inTenant
  cases stored with
  | none => rfl
  | some record =>
    have hother : tenantOf record ≠ tenantId := fun heq => h (congrArg some heq)
    rw [Option.filter_some, if_neg (by simpa using hother)]

/-- INTERNAL: what a lookup behind a permission answers where there is no record. -/
theorem authorized_absent {α : Type} {tenantOf : α → String} {stored : Option α}
    {resource action message : String} (h : stored.map tenantOf ≠ some request.tenantId.text) :
    (do
        authorized request resource action
        inTenant tenantOf request.tenantId.text stored message : Except (Response RecordBody) α) =
      .error (refusalOf request resource action message) := by
  rw [inTenant_absent h]
  unfold authorized refusalOf
  cases authorize request.principal request.tenantId.text resource action <;> rfl

/-- INTERNAL: a route that finds no record answers with the refusal, and changes nothing. -/
theorem exec_withRecord_error {α : Type} {find : MemoryRepository → Except (Response RecordBody) α}
    {use : α → RecordM Ω (Response RecordBody)} {s : RecordStores Ω} {refusal : Response RecordBody}
    (h : find s.repository = .error refusal) :
    exec (withRecord find use) s = (.ok refusal, s) := by
  unfold withRecord
  rw [exec_bind, exec_get]
  dsimp only
  rw [h]
  rfl

/-- INTERNAL: a file of another tenant cannot be read.
SOURCE: apps/api/src/handlers.js:742 -/
theorem findReady_absent {r : MemoryRepository}
    (h : (r.getFileRecordById request.recordId.text).map FileRecord.tenantId ≠
      some request.tenantId.text) :
    findReady request r = .error (notFound "File not found.") := by
  unfold findReady canReadFile
  rw [inTenant_absent h]
  rfl

/-- INTERNAL: a report of another tenant is not changed.
SOURCE: apps/api/src/handlers.js:1049-1057, 1085-1093 -/
theorem exec_changeReport_absent {change : FieldReports.Change} {s : RecordStores Ω}
    (hid : change.reportId = request.recordId)
    (h : (s.repository.getFieldReportById request.recordId.text).map FieldReport.tenantId ≠
      some request.tenantId.text) :
    exec (changeReport P request change) s =
      (.ok (refusalOf request "field_report" "update" "Field report not found."), s) := by
  have hfind : FieldReports.findReport request.onReport change.reportId s.repository =
      .error (match authorize request.principal request.tenantId.text "field_report" "update" with
        | some denied => .refused denied
        | none => notFound "Field report not found.") := by
    unfold FieldReports.findReport RecordRequest.onReport
    dsimp only
    rw [hid]
    cases authorize request.principal request.tenantId.text "field_report" "update" with
    | some denied => rfl
    | none =>
      dsimp only
      cases hstored : s.repository.getFieldReportById request.recordId.text with
      | none => rfl
      | some report =>
        rw [hstored] at h
        have hother : report.tenantId ≠ request.tenantId.text := fun heq => h (congrArg some heq)
        rw [Option.filter_some, if_neg (by simpa using hother)]
  unfold changeReport onReports FieldReports.changeRoute
  rw [exec_bind, exec_focus, exec_bind, exec_get]
  dsimp only
  rw [hfind]
  unfold refusalOf
  cases authorize request.principal request.tenantId.text "field_report" "update" <;> rfl

variable (request) in
/-- INTERNAL: a finding that is not stored is not found.
SOURCE: apps/api/src/handlers.js:1184-1200 -/
theorem exec_disposition_missing {body : Option Json} {s : RecordStores Ω}
    (hroute : request.route = .disposeFinding body)
    (h : s.repository.getAiFindingById request.recordId.text = none) :
    exec (route P storage request) s = (.ok (absentAnswer request), s) := by
  unfold RecordRoutes.route absentAnswer
  rw [hroute]
  unfold refusalOf onFindings Findings.dispositionRoute
  dsimp only
  rw [exec_bind, exec_focus, exec_bind, exec_get]
  unfold Findings.findFinding RecordRequest.onFinding
  dsimp only
  rw [h]
  cases authorize request.principal request.tenantId.text "ai_finding" "update" <;> rfl

variable (request) in
/-- INTERNAL: a finding of another tenant is said to be there.
SOURCE: apps/api/src/handlers.js:1202-1205 -/
theorem exec_disposition_foreign {body : Option Json} {s : RecordStores Ω} {finding : AiFinding}
    (hroute : request.route = .disposeFinding body)
    (hstored : s.repository.getAiFindingById request.recordId.text = some finding)
    (hother : s.repository.findingInTenant request.tenantId.text finding = false)
    (hauthorized : authorize request.principal request.tenantId.text "ai_finding" "update" = none) :
    exec (route P storage request) s =
      (.ok (forbidden "AI finding disposition requires in-tenant access."), s) := by
  have hfind : Findings.findFinding (request.onFinding body) request.recordId s.repository =
      .error (forbidden "AI finding disposition requires in-tenant access.") := by
    unfold Findings.findFinding RecordRequest.onFinding
    dsimp only
    rw [hauthorized, hstored]
    dsimp only
    rw [hother]
    rfl
  unfold RecordRoutes.route
  rw [hroute]
  unfold onFindings Findings.dispositionRoute
  dsimp only
  rw [exec_bind, exec_focus, exec_bind, exec_get]
  dsimp only
  rw [hfind]
  rfl

variable (request) in
/-- INTERNAL: a principal that may not update findings is told so, whatever is stored.
SOURCE: apps/api/src/handlers.js:1184-1192 -/
theorem exec_disposition_denied {body : Option Json} {s : RecordStores Ω} {denied : Refusal}
    (hroute : request.route = .disposeFinding body)
    (hdenied : authorize request.principal request.tenantId.text "ai_finding" "update" =
      some denied) :
    exec (route P storage request) s = (.ok (.refused denied), s) := by
  have hfind : Findings.findFinding (request.onFinding body) request.recordId s.repository =
      .error (.refused denied) := by
    unfold Findings.findFinding RecordRequest.onFinding
    dsimp only
    rw [hdenied]
  unfold RecordRoutes.route
  rw [hroute]
  unfold onFindings Findings.dispositionRoute
  dsimp only
  rw [exec_bind, exec_focus, exec_bind, exec_get]
  dsimp only
  rw [hfind]
  rfl

variable (request) in
/-- INTERNAL: a route other than the disposition answers with the refusal where no record of the
tenant is under the id, whether one of another tenant is or none.
SOURCE: apps/api/src/handlers.js:852-974, 1020-1093 -/
theorem exec_route_absent {s : RecordStores Ω} (hkind : recordKind request.route ≠ .finding)
    (h : tenantOfRecord s.repository (recordKind request.route) request.recordId.text ≠
      some request.tenantId.text) :
    exec (route P storage request) s = (.ok (absentAnswer request), s) := by
  unfold RecordRoutes.route absentAnswer
  cases hroute : request.route with
  | getBlueprint =>
    rw [hroute] at h
    exact exec_withRecord_error (authorized_absent h)
  | getReport =>
    rw [hroute] at h
    exact exec_withRecord_error (authorized_absent h)
  | draftReport =>
    rw [hroute] at h
    exact exec_changeReport_absent rfl h
  | reviewReport body =>
    rw [hroute] at h
    exact exec_changeReport_absent rfl h
  | completeFile =>
    rw [hroute] at h
    exact exec_withRecord_error (authorized_absent h)
  | putContent contentType body =>
    rw [hroute] at h
    exact exec_withRecord_error (authorized_absent h)
  | downloadFile =>
    rw [hroute] at h
    exact exec_withRecord_error (findReady_absent h)
  | getContent =>
    rw [hroute] at h
    exact exec_withRecord_error (findReady_absent h)
  | deleteFile =>
    rw [hroute] at h
    exact exec_withRecord_error (authorized_absent h)
  | disposeFinding body =>
    rw [hroute] at hkind
    exact absurd rfl hkind

/-- INTERNAL: what a request answers is what its route answers. -/
theorem call_of_exec {s t : RecordStores Ω} {response : Response RecordBody}
    (h : exec (route P storage request) s = (.ok response, t)) :
    (RecordRoutes.api P storage).call request s = (.ok response, t) := by
  unfold RecordRoutes.api handleApiRequest
  dsimp only
  rw [exec_tryCatch, h]

/-- INTERNAL: a record that is not stored has no tenant. -/
theorem tenantOfRecord_of_not_stored {r : MemoryRepository} {kind : RecordKind} {id : String}
    (h : isStored r kind id = false) : tenantOfRecord r kind id = none := by
  unfold isStored at h
  unfold tenantOfRecord
  cases kind <;> simp_all

end

/-- **A record of another tenant is answered as one that does not exist.** For an id under which
another tenant's record is stored and one under which none is, every by-id route gives one answer,
except the disposition of a finding to a principal that may update findings.
SOURCE: apps/api/src/handlers.js:852-974, 1020-1249 -/
theorem foreign_answered_as_missing_iff {Ω : Type} (P : Platform) (storage : StorageAdapter Ω)
    (s : RecordStores Ω) (request : RecordRequest) {foreign missing : PathPart} {tenant : String}
    (hforeign : tenantOfRecord s.repository (recordKind request.route) foreign.text = some tenant)
    (hother : tenant ≠ request.tenantId.text)
    (hmissing : isStored s.repository (recordKind request.route) missing.text = false) :
    ((RecordRoutes.api P storage).call (requestAt request foreign) s).1 =
        ((RecordRoutes.api P storage).call (requestAt request missing) s).1 ↔
      ¬ (recordKind request.route = .finding ∧
        authorize request.principal request.tenantId.text "ai_finding" "update" = none) := by
  have hforeignTenant : tenantOfRecord s.repository (recordKind request.route) foreign.text ≠
      some request.tenantId.text := by
    rw [hforeign]
    exact fun heq => hother (Option.some.inj heq)
  have hmissingTenant : tenantOfRecord s.repository (recordKind request.route) missing.text ≠
      some request.tenantId.text := by
    rw [tenantOfRecord_of_not_stored hmissing]
    exact nofun
  by_cases hkind : recordKind request.route = .finding
  · obtain ⟨body, hroute⟩ : ∃ body, request.route = .disposeFinding body := by
      cases hroute : request.route <;> rw [hroute] at hkind <;> first | exact ⟨_, rfl⟩ | cases hkind
    rw [hkind] at hforeign hmissing
    obtain ⟨finding, hstored, hrun⟩ := Option.bind_eq_some_iff.mp hforeign
    have hgone : s.repository.getAiFindingById missing.text = none := by
      simpa [isStored] using hmissing
    have hinTenant : s.repository.findingInTenant request.tenantId.text finding = false := by
      obtain ⟨run, hget, rfl⟩ := Option.map_eq_some_iff.mp hrun
      unfold MemoryRepository.findingInTenant
      rw [hget]
      simpa using hother
    cases hauthorized : authorize request.principal request.tenantId.text "ai_finding" "update" with
    | none =>
      rw [call_of_exec (exec_disposition_missing (requestAt request missing) hroute hgone),
        call_of_exec (exec_disposition_foreign (requestAt request foreign) hroute hstored
          hinTenant hauthorized)]
      refine iff_of_false (fun hsame => ?_) (fun hnot => hnot ⟨hkind, rfl⟩)
      simp only [absentAnswer, requestAt, hroute, refusalOf, hauthorized, forbidden, notFound] at hsame
      cases hsame
    | some denied =>
      refine iff_of_true ?_ fun hboth => nomatch hboth.2
      rw [call_of_exec (exec_disposition_denied (requestAt request missing) hroute
          hauthorized),
        call_of_exec (exec_disposition_denied (requestAt request foreign) hroute
          hauthorized)]
  · refine iff_of_true ?_ fun hboth => hkind hboth.1
    rw [call_of_exec (exec_route_absent (requestAt request foreign) hkind hforeignTenant),
      call_of_exec (exec_route_absent (requestAt request missing) hkind hmissingTenant)]
    rfl

/-- A local storage without objects. -/
def emptyStorage : StorageAdapter Unit where
  driver := "local"
  headObject _ := return none
  putObject _ _ _ := return ()
  createDownloadTarget _ :=
    return { mode := "authenticated_proxy", url := none, expiresIn := none }
  getObject _ := return none
  deleteObject _ := return ()

/-- The review run of another tenant. -/
def foreignRun : AiReviewRun where
  id := "run-1"
  tenantId := "tenant-b"
  projectId := "project-1"
  artifactType := "drawing_sheet"
  artifactId := "sheet-1"

/-- A finding of that run. -/
def foreignFinding : AiFinding where
  id := "finding-1"
  reviewRunId := "run-1"
  category := "clearance_concern"
  title := "Clearance"
  description := "Potential issue: clearance is low."
  severity := "medium"

/-- A field report of the other tenant. -/
def foreignReport : FieldReport where
  id := "report-1"
  tenantId := "tenant-b"
  projectId := "project-1"
  siteName := "Site"
  reportType := "daily_log"
  author := "Author"

/-- Stores with records of one tenant only. -/
def othersRecords : RecordStores Unit where
  repository := {
    aiReviewRunStore := Table.empty.put foreignRun
    aiFindingStore := Table.empty.put foreignFinding
    fieldReportStore := Table.empty.put foreignReport }
  storage := ()

theorem asked_tenant_ne_empty : "tenant-a" ≠ "" := by simp

theorem asked_record_ne_empty : "record-1" ≠ "" := by simp

/-- A request of an administrator of the first tenant. -/
def asAdmin (route : RecordRoute) : RecordRequest where
  tenantId := ⟨"tenant-a", asked_tenant_ne_empty⟩
  recordId := ⟨"record-1", asked_record_ne_empty⟩
  principal := { tenantId := some "tenant-a", organizationRole := some "company_admin" }
  route := route
  auditDraw := ⟨"event-1", "correlation-1", "request-1", "2026-01-01T00:00:00.000Z"⟩
  outboxDraw := ⟨"outbox-1", 0⟩

theorem foreign_answered_as_missing_reports :
    ((RecordRoutes.api ⟨fun _ => "", fun _ _ => "", id⟩ emptyStorage).call
        (requestAt (asAdmin .getReport) ⟨"report-1", by decide⟩) othersRecords).1 =
      ((RecordRoutes.api ⟨fun _ => "", fun _ _ => "", id⟩ emptyStorage).call
        (requestAt (asAdmin .getReport) ⟨"report-2", by decide⟩) othersRecords).1 :=
  (@foreign_answered_as_missing_iff Unit _ emptyStorage othersRecords (asAdmin .getReport)
    ⟨"report-1", by decide⟩ ⟨"report-2", by decide⟩ "tenant-b" (by decide) (by decide)
    (by decide)).mpr fun hboth => nomatch hboth.1

/-- The disposition of another tenant's finding is forbidden, that of an unknown one not found. -/
theorem foreign_finding_told :
    authorize (asAdmin (.disposeFinding none)).principal "tenant-a" "ai_finding" "update" = none ∧
      tenantOfRecord othersRecords.repository .finding "finding-1" = some "tenant-b" ∧
      isStored othersRecords.repository .finding "finding-2" = false ∧
      ((RecordRoutes.api ⟨fun _ => "", fun _ _ => "", id⟩ emptyStorage).call
          (requestAt (asAdmin (.disposeFinding none)) ⟨"finding-1", by decide⟩) othersRecords).1 =
        .ok (forbidden "AI finding disposition requires in-tenant access.") ∧
      ((RecordRoutes.api ⟨fun _ => "", fun _ _ => "", id⟩ emptyStorage).call
          (requestAt (asAdmin (.disposeFinding none)) ⟨"finding-2", by decide⟩) othersRecords).1 =
        .ok (notFound "AI finding not found.") :=
  ⟨by decide, by decide, by decide, rfl, rfl⟩

end Xygo.Analysis
