import Xygo.Analysis.ReportGate
import Xygo.Model.FieldReportRoutes

/-!
# Which transitions of a field report are announced

A transition that is answered with success has stored the report, has appended its audit event and
has enqueued its job. The key of the job is made of the tenant, the action, the report and, for a
review, the status; the store answers a key it knows with the job it has. So a transition is
announced by a job of its own exactly where its key is new (`reports_announced`), and a second draft
is not (`second_draft_unannounced`).
-/

set_option autoImplicit false

namespace Xygo.Analysis

open Xygo.Computation Xygo.Model Xygo.Model.FieldReports

variable {P : Platform} {request : ReportRequest} {s t : ReportStores}

/-- The action of the evidence of a request.
SOURCE: apps/api/src/handlers.js:575, 1067, 1117 -/
def transitionAction (request : ReportRequest) : String :=
  match request.action with
  | .create _ _ _ => "api.field_report.created"
  | .draft _ => "api.field_report.draft_generated"
  | .review _ _ => "api.field_report.reviewed"

/-- The key under which a request announces its transition, if its body names one. -/
def announcementKey (request : ReportRequest) : Option String :=
  match request.action with
  | .create _ _ body => body.bind fun parsed =>
    match parsed.orElse "id" .null with
    | .string id => some (outboxKey request.tenantId.text (transitionAction request) id none)
    | _ => none
  | .draft reportId =>
    some (outboxKey request.tenantId.text (transitionAction request) reportId.text none)
  | .review reportId body => body.bind fun parsed =>
    (reviewStatus? (parsed.orElse "nextStatus" .null)).map fun status =>
      outboxKey request.tenantId.text (transitionAction request) reportId.text (some status.text)

/-- The response a create is answered with from the idempotency store. -/
def cachedAnswer (s : ReportStores) (request : ReportRequest) : Option (Response FieldReport) :=
  match request.action with
  | .create path clientKey _ => (usableClientKey clientKey).bind fun clientKey =>
    ((s.idempotency.get (idempotencyKeyFor request.tenantId.text path clientKey)).filter
      fun entry => request.lookedUpAt < entry.expiresAt).map CachedResponse.response
  | _ => none

/-- A request that is no replay, and whose key no job of the outbox is bound to. -/
def Fresh (s : ReportStores) (request : ReportRequest) : Prop :=
  cachedAnswer s request = none ∧
    ∀ key, announcementKey request = some key → s.outbox.idempotencyKeys.get (trim key) = none

/-- An audit event of the transition. -/
structure IsEvidence (request : ReportRequest) (report : FieldReport) (event : AuditEvent) :
    Prop where
  tenantId : event.tenantId = request.tenantId.text
  action : event.action = transitionAction request
  resourceType : event.resourceType = "field_report"
  resourceId : event.resourceId = report.id
  afterStateRef : event.afterStateRef = .string report.status.text

/-- A job of the transition. -/
structure IsJob (request : ReportRequest) (report : FieldReport) (job : OutboxJob) : Prop where
  tenantId : job.tenantId = some request.tenantId.text
  eventType : job.event.eventType = transitionAction request
  aggregateType : job.event.aggregateType = "field_report"
  aggregateId : job.event.aggregateId = report.id

/-- One audit event of the transition is appended. -/
def Audited (request : ReportRequest) (report : FieldReport) (s t : ReportStores) : Prop :=
  ∃ event, IsEvidence request report event ∧
    t.repository.auditEventStore = s.repository.auditEventStore ++ [event]

/-- One job of the transition is added. -/
def Enqueued (request : ReportRequest) (report : FieldReport) (s t : ReportStores) : Prop :=
  ∃ job, IsJob request report job ∧
    t.outbox.items.entries = s.outbox.items.entries ++ [(job.id, job)]

/-- If the request is answered with success, one audit event of the report is appended and one job
of the transition is added. -/
def Announced (P : Platform) (s : ReportStores) (request : ReportRequest) : Prop :=
  ∀ response, ((api P).call request s).1 = .ok response → response.succeeded = true →
    ∃ status report, response = .answered status report ∧
      Audited request report s ((api P).call request s).2 ∧
      Enqueued request report s ((api P).call request s).2

/-! ## What one request does -/

/-- INTERNAL: the statements of a block that returned. -/
theorem exec_bind_ok {ε σ α β : Type} {m : Effect ε σ α} {f : α → Effect ε σ β} {s u : σ} {b : β}
    (h : Effect.exec (m >>= f) s = (.ok b, u)) :
    ∃ a t, Effect.exec m s = (.ok a, t) ∧ Effect.exec (f a) t = (.ok b, u) := by
  rw [Effect.exec_bind] at h
  rcases hm : Effect.exec m s with ⟨e | a, t⟩ <;> rw [hm] at h
  · cases h
  · exact ⟨a, t, rfl, h⟩

/-- INTERNAL: an operation over a part of the stores that returned. -/
theorem exec_focus_ok {ε σ τ α : Type} {view : σ → τ} {put : σ → τ → σ} {m : Effect ε τ α} {s t : σ}
    {a : α} (h : Effect.exec (Effect.focus view put m) s = (.ok a, t)) :
    Effect.exec m (view s) = (.ok a, (Effect.exec m (view s)).2) ∧
      t = put s (Effect.exec m (view s)).2 := by
  rw [Effect.exec_focus, Prod.mk.injEq] at h
  exact ⟨Prod.ext h.1 rfl, h.2.symm⟩

/-- INTERNAL: a block whose errors are answered by refusals has returned where it is answered with
success. -/
theorem exec_tryCatch_succeeded {β σ : Type} {m : Effect JsError σ (Response β)}
    {refuse : JsError → Response β} (hrefuse : ∀ e, (refuse e).succeeded = false) {s t : σ}
    {response : Response β}
    (h : Effect.exec (tryCatch m fun e => pure (refuse e)) s = (.ok response, t))
    (hresponse : response.succeeded = true) : Effect.exec m s = (.ok response, t) := by
  rw [Effect.exec_tryCatch] at h
  rcases hm : Effect.exec m s with ⟨e | a, u⟩ <;> rw [hm] at h
  · simp only [Effect.exec_pure, Prod.mk.injEq, Except.ok.injEq] at h
    rw [← h.1, hrefuse] at hresponse
    cases hresponse
  · exact h

variable (P request) in
/-- INTERNAL: the evidence of a transition is appended.
SOURCE: packages/audit/src/foundation.js:30-73 -/
theorem exec_appendEvidence {report : FieldReport} (hid : report.id ≠ "") (before : Json)
    (existingEvents : List AuditEvent) (r : MemoryRepository) :
    ∃ event, IsEvidence request report event ∧ event.beforeStateRef = before ∧
      Effect.exec (appendEvidence P request
          (transitionAudit request (transitionAction request) before report) existingEvents) r =
        (.ok (), { r with auditEventStore := r.auditEventStore ++ [event] }) := by
  have haction : transitionAction request ≠ "" := by
    unfold transitionAction
    split <;> decide
  have htenant := request.tenantId.nonempty
  simp only [appendEvidence, buildTenantAuditEvent, createAuditEvent, transitionAudit, appendAuditEvent,
    htenant, haction, hid, Effect.exec_bind, Effect.exec_lift]
  exact ⟨_, ⟨rfl, rfl, rfl, rfl, rfl⟩, rfl, rfl⟩

/-- INTERNAL: a job that is enqueued carries its event under the trimmed key.
SOURCE: apps/api/src/reliability/outbox.js:87-111 -/
theorem newJob_ok {event : OutboxEvent} {key : String} {now : Int} {job : OutboxJob}
    (h : newJob event (some key) now = .ok job) :
    job.event = event ∧ job.tenantId = event.tenantId ∧ job.idempotencyKey = trim key := by
  unfold newJob at h
  obtain ⟨id, -, h⟩ := bind_eq_ok.mp h
  iterate 3 obtain ⟨-, -, h⟩ := bind_eq_ok.mp h
  obtain ⟨timestamp, -, h⟩ := bind_eq_ok.mp h
  obtain ⟨idempotencyKey, hkey, h⟩ := bind_eq_ok.mp h
  obtain rfl := Except.ok.inj h
  refine ⟨rfl, rfl, ?_⟩
  unfold Model.requiredString at hkey
  split at hkey
  · cases hkey
  · exact (Except.ok.inj hkey).symm

/-- INTERNAL: an `enqueue` that returned has added a job under a free key, or has found the key
bound.
SOURCE: apps/api/src/reliability/outbox.js:169-181 -/
theorem exec_enqueue_ok {event : OutboxEvent} {key : String} {now : Int} {o o' : OutboxStore}
    {answer : OutboxJob} (h : Effect.exec (enqueue event (some key) now) o = (.ok answer, o')) :
    (o.idempotencyKeys.get (trim key) = none ∧ ∃ job, newJob event (some key) now = .ok job ∧
      o'.items.entries = o.items.entries ++ [(job.id, job)]) ∨
    (o.idempotencyKeys.get (trim key) ≠ none ∧ o' = o) := by
  unfold enqueue at h
  obtain ⟨job, u, hjob, h⟩ := exec_bind_ok h
  obtain ⟨hnew, rfl⟩ : newJob event (some key) now = .ok job ∧ o = u := Prod.mk.inj hjob
  obtain ⟨-, -, hkey⟩ := newJob_ok hnew
  simp only [hkey, Effect.exec_bind, Effect.exec_get] at h
  cases hbound : o.idempotencyKeys.get (trim key) with
  | some existingId =>
    right
    rw [hbound] at h
    refine ⟨by simp, ?_⟩
    cases hitem : o.items.get existingId with
    | none =>
      simp only [hitem, Effect.exec_throw] at h
      cases h
    | some existing =>
      simp only [hitem, Effect.exec_ite] at h
      split at h
      · exact (Prod.mk.inj h).2.symm
      · cases h
  | none =>
    left
    rw [hbound] at h
    refine ⟨rfl, job, hnew, ?_⟩
    cases hhas : o.items.has job.id with
    | true =>
      simp only [hhas, if_true, Effect.exec_bind, Effect.exec_throw] at h
      cases h
    | false =>
      simp [hhas] at h
      rw [← h.2, OrderedMap.entries_set_of_not_has hhas]

/-- INTERNAL: what the job of a transition does to the outbox.
SOURCE: apps/api/src/handlers.js:625-636, 728-739 -/
theorem exec_enqueueTransition {report : FieldReport} {scope : Option String} {o o' : OutboxStore}
    (h : Effect.exec (enqueueTransition request (transitionAction request) scope report) o =
      (.ok (), o')) :
    (o.idempotencyKeys.get (trim (outboxKey request.tenantId.text (transitionAction request)
        report.id scope)) = none ∧
      ∃ job, IsJob request report job ∧
        o'.items.entries = o.items.entries ++ [(job.id, job)]) ∨
    (o.idempotencyKeys.get (trim (outboxKey request.tenantId.text (transitionAction request)
        report.id scope)) ≠ none ∧ o' = o) := by
  unfold enqueueTransition at h
  obtain ⟨event, u, hevent, h⟩ := exec_bind_ok h
  obtain ⟨hcreated, rfl⟩ : transitionEvent request (transitionAction request) report = .ok event ∧
    o = u := Prod.mk.inj hevent
  obtain ⟨answer, v, henqueue, h⟩ := exec_bind_ok h
  obtain ⟨-, rfl⟩ := Prod.mk.inj h
  obtain ⟨hfree, job, hjob, hitems⟩ | hbound := exec_enqueue_ok henqueue
  · refine Or.inl ⟨hfree, job, ?_, hitems⟩
    obtain ⟨hjobEvent, hjobTenant, -⟩ := newJob_ok hjob
    unfold transitionEvent createOutboxEvent at hcreated
    split at hcreated
    · cases hcreated
    · obtain rfl := Except.ok.inj hcreated
      exact ⟨hjobTenant, by rw [hjobEvent], by rw [hjobEvent], by rw [hjobEvent]⟩
  · exact Or.inr hbound

/-- The evidence of a transition and what became of its job. -/
structure Transition (request : ReportRequest) (report : FieldReport) (scope : Option String)
    (s t : ReportStores) : Prop where
  audited : Audited request report s t
  enqueued : (s.outbox.idempotencyKeys.get (trim (outboxKey request.tenantId.text
        (transitionAction request) report.id scope)) = none ∧ Enqueued request report s t) ∨
    (s.outbox.idempotencyKeys.get (trim (outboxKey request.tenantId.text
        (transitionAction request) report.id scope)) ≠ none ∧ t.outbox = s.outbox)

/-- INTERNAL: what `announce` does.
SOURCE: apps/api/src/handlers.js:615-636, 1063-1074, 1113-1124 -/
theorem transition_announce {report : FieldReport} (hid : report.id ≠ "") {before : Json}
    {scope : Option String}
    (h : Effect.exec (announce P request (transitionAction request) before scope report) s =
      (.ok (), t)) : Transition request report scope s t := by
  unfold announce at h
  rw [Effect.exec_bind, Effect.exec_get] at h
  obtain ⟨⟨⟩, u, haudit, h⟩ := exec_bind_ok h
  obtain ⟨event, hevent, -, hexec⟩ := exec_appendEvidence P request hid before
    (s.repository.listAuditEventsByTenant request.tenantId.text) s.repository
  have hu := (exec_focus_ok haudit).2
  rw [hexec] at hu
  obtain ⟨hjob, rfl⟩ := exec_focus_ok h
  subst hu
  refine ⟨⟨event, hevent, rfl⟩, ?_⟩
  obtain ⟨hfree, job, hisJob, hitems⟩ | ⟨hbound, hsame⟩ := exec_enqueueTransition hjob
  · exact Or.inl ⟨hfree, job, hisJob, hitems⟩
  · exact Or.inr ⟨hbound, hsame⟩

/-- INTERNAL: a transition only depends on the audit events and on the outbox it starts from. -/
theorem Transition.of_eq {u : ReportStores} {report : FieldReport} {scope : Option String}
    (h : Transition request report scope u t)
    (hevents : u.repository.auditEventStore = s.repository.auditEventStore)
    (houtbox : u.outbox = s.outbox) : Transition request report scope s t := by
  obtain ⟨⟨event, hevent, hevents'⟩, henqueued⟩ := h
  refine ⟨⟨event, hevent, by rw [hevents', hevents]⟩, ?_⟩
  unfold Enqueued at *
  rwa [houtbox] at henqueued

/-- INTERNAL: what `createFieldReport` makes of a body.
SOURCE: packages/field-reporting/src/index.js:45-81 -/
theorem createFieldReport_id {tenantId : String} {parsed : Json} {report : FieldReport}
    (h : Model.createFieldReport (build tenantId parsed).staged = .ok report) :
    parsed.orElse "id" .null = .string report.id ∧ report.id ≠ "" := by
  unfold Model.createFieldReport at h
  obtain ⟨id, hid, h⟩ := bind_eq_ok.mp h
  obtain ⟨hmember, htrim⟩ := Json.requiredString_eq_ok hid
  have hkey : (build tenantId parsed).staged.member? "id" = some (parsed.orElse "id" .null) := by
    simp [build, Json.staged, Json.member?]
  have hne : id ≠ "" := by
    rintro rfl
    exact htrim rfl
  rw [hkey] at hmember
  simp only [bind_eq_ok] at h
  obtain ⟨tenantId, -, projectId, -, siteName, -, reportType, -, author, -, h⟩ := h
  split at h
  · cases h
  split at h
  · cases h
  obtain ⟨observations, -, h⟩ := bind_eq_ok.mp h
  obtain rfl := Except.ok.inj h
  exact ⟨Option.some.inj hmember, hne⟩

/-- INTERNAL: a report that was created.
SOURCE: apps/api/src/handlers.js:611-644 -/
theorem persistCreated_ok {path : String} {clientKey : Option String} {parsed : Json}
    (haction : request.action = .create path clientKey (some parsed))
    {response : Response FieldReport}
    (h : Effect.exec (persistCreated P request parsed) s = (.ok response, t)) :
    ∃ report, response = .answered 201 report ∧
      announcementKey request = some (outboxKey request.tenantId.text (transitionAction request)
        report.id none) ∧ Transition request report none s t := by
  unfold persistCreated at h
  obtain ⟨report, u, hcreate, h⟩ := exec_bind_ok h
  obtain ⟨⟨⟩, v, hannounce, h⟩ := exec_bind_ok h
  obtain ⟨hresponse, rfl⟩ := Prod.mk.inj h
  obtain ⟨hcreated, rfl⟩ := exec_focus_ok hcreate
  generalize (Effect.exec (MemoryRepository.createFieldReport
    (build request.tenantId.text parsed)) s.repository).2 = r at hcreated hannounce
  unfold MemoryRepository.createFieldReport at hcreated
  obtain ⟨built, w, hlift, hcreated⟩ := exec_bind_ok hcreated
  obtain ⟨hbuilt, rfl⟩ : Model.createFieldReport (build request.tenantId.text parsed).staged =
    .ok built ∧ s.repository = w := Prod.mk.inj hlift
  rw [Effect.exec_bind, Effect.exec_get] at hcreated
  cases hhas : s.repository.fieldReportStore.has built.id with
  | true =>
    simp [hhas] at hcreated
  | false =>
    simp [hhas] at hcreated
    obtain ⟨rfl, rfl⟩ := hcreated
    obtain ⟨hid, hne⟩ := createFieldReport_id hbuilt
    have htransition : transitionAction request = "api.field_report.created" := by
      simp [transitionAction, haction]
    rw [← htransition] at hannounce
    refine ⟨built, (Except.ok.inj hresponse).symm, ?_,
      (transition_announce hne hannounce).of_eq rfl rfl⟩
    simp [announcementKey, haction, hid]

/-- INTERNAL: a report that was changed.
SOURCE: apps/api/src/handlers.js:1060-1078, 1105-1124 -/
theorem persistChange_ok {change : Change} {report : FieldReport}
    {changed : Except JsError FieldReport} (haction : change.action = transitionAction request)
    (hid : ∀ next, changed = .ok next → next.id ≠ "") {response : Response FieldReport}
    (h : Effect.exec (persistChange P request change report changed) s = (.ok response, t)) :
    ∃ next, response = .answered 200 next ∧ changed = .ok next ∧
      Transition request next (change.scope next) s t := by
  unfold persistChange at h
  obtain ⟨next, u, hlift, h⟩ := exec_bind_ok h
  obtain ⟨hnext, rfl⟩ : changed = .ok next ∧ s = u := Prod.mk.inj hlift
  obtain ⟨saved, v, hsave, h⟩ := exec_bind_ok h
  obtain ⟨⟨⟩, w, hannounce, h⟩ := exec_bind_ok h
  obtain ⟨hresponse, rfl⟩ := Prod.mk.inj h
  obtain ⟨hsaved, rfl⟩ := exec_focus_ok hsave
  obtain rfl : next = saved := Except.ok.inj (Prod.mk.inj hsaved).1
  rw [haction] at hannounce
  exact ⟨next, (Except.ok.inj hresponse).symm, hnext,
    (transition_announce (hid next hnext) hannounce).of_eq rfl rfl⟩

/-- INTERNAL: a request that is not allowed is answered without success.
SOURCE: apps/api/src/handlers.js:231-250 -/
theorem authorize_denied {principal : Principal} {tenantId resource action : String}
    {denied : Refusal} (h : authorize principal tenantId resource action = some denied) :
    (Response.refused denied : Response FieldReport).succeeded = false := by
  unfold authorize at h
  split at h
  · obtain rfl := Option.some.inj h
    rfl
  · split at h
    · obtain rfl := Option.some.inj h
      rfl
    · dsimp only at h
      split at h
      · obtain rfl := Option.some.inj h
        rfl
      · cases h

/-- INTERNAL: a request that changes a report and is answered with success.
SOURCE: apps/api/src/handlers.js:1048-1181 -/
theorem changeRoute_ok {change : Change} (haction : change.action = transitionAction request)
    (happly : ∀ report next, change.apply report = .ok (.ok next) → next.id = report.id ∧
      announcementKey request = some (outboxKey request.tenantId.text (transitionAction request)
        change.reportId.text (change.scope next)))
    {response : Response FieldReport} (hresponse : response.succeeded = true)
    (hrefused : ∀ report refusal, change.apply report = .error refusal → refusal.succeeded = false)
    (h : Effect.exec (changeRoute P request change) s = (.ok response, t)) :
    ∃ report scope, response = .answered 200 report ∧
      announcementKey request = some (outboxKey request.tenantId.text (transitionAction request)
        report.id scope) ∧ Transition request report scope s t := by
  unfold changeRoute at h
  rw [Effect.exec_bind, Effect.exec_get] at h
  dsimp only at h
  cases hfind : findReport request change.reportId s.repository with
  | error refusal =>
    rw [hfind] at h
    obtain ⟨hrefusal, rfl⟩ := Prod.mk.inj h
    obtain rfl := Except.ok.inj hrefusal
    unfold findReport at hfind
    split at hfind
    · rename_i denied hdenied
      obtain rfl := Except.error.inj hfind
      rw [authorize_denied hdenied] at hresponse
      cases hresponse
    · split at hfind
      · obtain rfl := Except.error.inj hfind
        cases hresponse
      · cases hfind
  | ok report =>
    rw [hfind] at h
    dsimp only at h
    have hid : report.id = change.reportId.text := by
      unfold findReport at hfind
      split at hfind
      · cases hfind
      · split at hfind
        · cases hfind
        · rename_i found hfound
          obtain rfl := Except.ok.inj hfind
          exact Table.key_of_get (Option.filter_eq_some_iff.mp hfound).1
    cases hchange : change.apply report with
    | error refusal =>
      rw [hchange] at h
      obtain ⟨hrefusal, rfl⟩ := Prod.mk.inj h
      obtain rfl := Except.ok.inj hrefusal
      rw [hrefused report _ hchange] at hresponse
      cases hresponse
    | ok changed =>
      rw [hchange] at h
      have hrun := exec_tryCatch_succeeded (fun _ => rfl) h hresponse
      have hne : ∀ next, changed = .ok next → next.id ≠ "" := by
        rintro next rfl
        rw [(happly report next hchange).1, hid]
        exact change.reportId.nonempty
      obtain ⟨next, hanswer, rfl, htransition⟩ := persistChange_ok haction hne hrun
      obtain ⟨hsame, hkey⟩ := happly report next hchange
      rw [← hid, ← hsame] at hkey
      exact ⟨next, _, hanswer, hkey, htransition⟩

/-- INTERNAL: a draft that is answered with success.
SOURCE: apps/api/src/handlers.js:1048-1082 -/
theorem draftRoute_ok {reportId : PathPart} (haction : request.action = .draft reportId)
    {response : Response FieldReport} (hresponse : response.succeeded = true)
    (h : Effect.exec (changeRoute P request (draftChange reportId)) s = (.ok response, t)) :
    ∃ report scope, response = .answered 200 report ∧
      announcementKey request = some (outboxKey request.tenantId.text (transitionAction request)
        report.id scope) ∧ Transition request report scope s t := by
  apply changeRoute_ok _ _ hresponse _ h
  · simp [transitionAction, haction, draftChange]
  · intro report next hnext
    obtain rfl := generateReportDraft_ok (Except.ok.inj hnext)
    exact ⟨rfl, by simp [announcementKey, haction, draftChange]⟩
  · intro report refusal hrefusal
    cases hrefusal

/-- INTERNAL: what a review makes of a report.
SOURCE: apps/api/src/handlers.js:1095-1112 -/
theorem reviewed_ok {principal : Principal} {body : Option Json} {report next : FieldReport}
    (h : FieldReports.reviewed principal body report = .ok (.ok next)) :
    next.id = report.id ∧ ∃ parsed, body = some parsed ∧
      reviewStatus? (parsed.orElse "nextStatus" .null) = some next.status := by
  unfold FieldReports.reviewed at h
  split at h
  · cases h
  · rename_i parsed
    split at h
    · cases h
    · split at h
      · cases h
      · obtain ⟨-, status, hstatus, rfl⟩ := setReviewStatus_ok (Except.ok.inj h)
        exact ⟨rfl, parsed, rfl, hstatus⟩

/-- INTERNAL: a review that is answered with success.
SOURCE: apps/api/src/handlers.js:1084-1181 -/
theorem reviewRoute_ok {reportId : PathPart} {body : Option Json}
    (haction : request.action = .review reportId body)
    {response : Response FieldReport} (hresponse : response.succeeded = true)
    (h : Effect.exec (changeRoute P request (reviewChange request.principal reportId body)) s =
      (.ok response, t)) :
    ∃ report scope, response = .answered 200 report ∧
      announcementKey request = some (outboxKey request.tenantId.text (transitionAction request)
        report.id scope) ∧ Transition request report scope s t := by
  apply changeRoute_ok _ _ hresponse _ h
  · simp [transitionAction, haction, reviewChange]
  · intro report next hnext
    obtain ⟨hid, parsed, rfl, hstatus⟩ := reviewed_ok hnext
    exact ⟨hid, by simp [announcementKey, haction, reviewChange, hstatus]⟩
  · intro report refusal hrefusal
    simp only [reviewChange, FieldReports.reviewed] at hrefusal
    split at hrefusal
    · obtain rfl := Except.error.inj hrefusal
      rfl
    · split at hrefusal
      · obtain rfl := Except.error.inj hrefusal
        rfl
      · split at hrefusal
        · obtain rfl := Except.error.inj hrefusal
          rfl
        · cases hrefusal

/-- INTERNAL: the lookup of a response, which may drop one that is too old.
SOURCE: apps/api/src/reliability/idempotency.js:8-18 -/
theorem exec_idempotencyGet (key : String) (now : Int) (s : ReportStores) :
    ∃ u : ReportStores, u.repository = s.repository ∧ u.outbox = s.outbox ∧
      Effect.exec (idempotencyGet key now) s =
        (.ok (((s.idempotency.get key).filter fun entry => now < entry.expiresAt).map
          CachedResponse.response), u) := by
  unfold idempotencyGet
  rw [Effect.exec_bind, Effect.exec_get]
  dsimp only
  cases hentry : s.idempotency.get key with
  | none => exact ⟨s, rfl, rfl, rfl⟩
  | some entry =>
    by_cases hold : now ≥ entry.expiresAt
    · have hnot : ¬ now < entry.expiresAt := by omega
      exact ⟨{ s with idempotency := s.idempotency.erase key }, rfl, rfl, by simp [hold, hnot]⟩
    · have hlive : now < entry.expiresAt := by omega
      exact ⟨s, rfl, rfl, by simp [hold, hlive]⟩

/-- INTERNAL: a body that is answered with success is one a report is created of.
SOURCE: apps/api/src/handlers.js:593-648 -/
theorem handleCollectionCreate_ok {path : String} {clientKey : Option String} {body : Option Json}
    (haction : request.action = .create path clientKey body)
    {response : Response FieldReport} (hresponse : response.succeeded = true)
    (h : Effect.exec (handleCollectionCreate P request body) s = (.ok response, t)) :
    ∃ report, response = .answered 201 report ∧
      announcementKey request = some (outboxKey request.tenantId.text (transitionAction request)
        report.id none) ∧ Transition request report none s t := by
  unfold handleCollectionCreate at h
  split at h
  · obtain rfl := Except.ok.inj (Prod.mk.inj h).1
    cases hresponse
  · split at h
    · obtain rfl := Except.ok.inj (Prod.mk.inj h).1
      cases hresponse
    · split at h
      · obtain rfl := Except.ok.inj (Prod.mk.inj h).1
        cases hresponse
      · rw [Effect.exec_bind, Effect.exec_get] at h
        dsimp only at h
        split at h
        · obtain rfl := Except.ok.inj (Prod.mk.inj h).1
          cases hresponse
        · exact persistCreated_ok haction
            (exec_tryCatch_succeeded (fun _ => rfl) h hresponse)

/-- INTERNAL: a create that is answered with success is a replay, or it has created a report.
SOURCE: apps/api/src/handlers.js:32-47, 986-1014 -/
theorem createRoute_ok {path : String} {clientKey : Option String} {body : Option Json}
    (haction : request.action = .create path clientKey body)
    {response : Response FieldReport} (hresponse : response.succeeded = true)
    (h : Effect.exec (createRoute P request path clientKey body) s = (.ok response, t)) :
    (cachedAnswer s request = some response ∧ t.repository = s.repository) ∨
    (cachedAnswer s request = none ∧ ∃ report, response = .answered 201 report ∧
      announcementKey request = some (outboxKey request.tenantId.text (transitionAction request)
        report.id none) ∧ Transition request report none s t) := by
  unfold createRoute at h
  split at h
  · rename_i denied hdenied
    obtain rfl := Except.ok.inj (Prod.mk.inj h).1
    rw [authorize_denied hdenied] at hresponse
    cases hresponse
  · unfold withIdempotency at h
    split at h
    · rename_i hkey
      exact Or.inr ⟨by simp [cachedAnswer, haction, hkey],
        handleCollectionCreate_ok haction hresponse h⟩
    · rename_i usable hkey
      dsimp only at h
      obtain ⟨cached, u, hget, h⟩ := exec_bind_ok h
      obtain ⟨v, hrepository, houtbox, hexec⟩ := exec_idempotencyGet
        (idempotencyKeyFor request.tenantId.text path usable) request.lookedUpAt s
      obtain ⟨hcached, rfl⟩ := Prod.mk.inj (hexec.symm.trans hget)
      have hanswer : cachedAnswer s request = cached := by
        simpa [cachedAnswer, haction, hkey] using Except.ok.inj hcached
      cases cached with
      | some replay =>
        obtain ⟨hreplay, rfl⟩ := Prod.mk.inj h
        obtain rfl := Except.ok.inj hreplay
        exact Or.inl ⟨hanswer, hrepository⟩
      | none =>
        right
        refine ⟨hanswer, ?_⟩
        obtain ⟨result, w, hcompute, h⟩ := exec_bind_ok h
        have hresult : result = response ∧ t.repository = w.repository ∧ t.outbox = w.outbox := by
          cases hsucceeded : result.succeeded <;>
            simp [hsucceeded, idempotencySet] at h <;> obtain ⟨rfl, rfl⟩ := h <;>
            exact ⟨rfl, rfl, rfl⟩
        obtain ⟨rfl, hsame, hjobs⟩ := hresult
        obtain ⟨report, hreport, hannounced, htransition⟩ :=
          handleCollectionCreate_ok haction hresponse hcompute
        refine ⟨report, hreport, hannounced, ?_⟩
        have hmoved := htransition.of_eq (s := s) (congrArg _ hrepository) houtbox
        obtain ⟨haudited, henqueued⟩ := hmoved
        refine ⟨?_, ?_⟩
        · unfold Audited at *
          rwa [hsame]
        · unfold Enqueued at *
          rwa [hjobs]

/-- INTERNAL: **what a success has done.** A request that is answered with success is the replay of
a create, or it has made a transition under its own key.
SOURCE: apps/api/src/handlers.js:976-1014, 1048-1181 -/
theorem call_succeeded {response : Response FieldReport} (hresponse : response.succeeded = true)
    (h : (api P).call request s = (.ok response, t)) :
    (cachedAnswer s request = some response ∧ t.repository = s.repository) ∨
    (cachedAnswer s request = none ∧ ∃ status report scope, response = .answered status report ∧
      announcementKey request = some (outboxKey request.tenantId.text (transitionAction request)
        report.id scope) ∧ Transition request report scope s t) := by
  have hroute := exec_tryCatch_succeeded (fun _ => rfl) h hresponse
  unfold route at hroute
  cases haction : request.action with
  | create path clientKey body =>
    rw [haction] at hroute
    obtain hreplay | ⟨hnone, report, hcreated⟩ := createRoute_ok haction hresponse hroute
    · exact Or.inl hreplay
    · exact Or.inr ⟨hnone, 201, report, none, hcreated⟩
  | draft reportId =>
    rw [haction] at hroute
    obtain ⟨report, scope, hdrafted⟩ := draftRoute_ok haction hresponse hroute
    exact Or.inr ⟨by simp [cachedAnswer, haction], 200, report, scope, hdrafted⟩
  | review reportId body =>
    rw [haction] at hroute
    obtain ⟨report, scope, hreviewed⟩ := reviewRoute_ok haction hresponse hroute
    exact Or.inr ⟨by simp [cachedAnswer, haction], 200, report, scope, hreviewed⟩

/-- INTERNAL: a success is announced exactly where the request is fresh.
SOURCE: apps/api/src/handlers.js:728-739; apps/api/src/reliability/outbox.js:169-181 -/
theorem announced_iff_fresh {response : Response FieldReport}
    (h : ((api P).call request s).1 = .ok response) (hresponse : response.succeeded = true) :
    Announced P s request ↔ Fresh s request := by
  have hcall : (api P).call request s = (.ok response, ((api P).call request s).2) :=
    Prod.ext h rfl
  obtain ⟨hcached, hsame⟩ | ⟨hnone, status, report, scope, rfl, hkey, haudited, henqueued⟩ :=
    call_succeeded hresponse hcall
  · constructor
    · intro hannounced
      obtain ⟨-, report, -, ⟨event, -, hevents⟩, -⟩ := hannounced response h hresponse
      rw [hsame] at hevents
      have hlength := congrArg List.length hevents
      simp at hlength
    · intro hfresh
      rw [hfresh.1] at hcached
      cases hcached
  · constructor
    · intro hannounced
      refine ⟨hnone, fun key hannouncement => ?_⟩
      obtain rfl := Option.some.inj (hkey.symm.trans hannouncement)
      obtain ⟨hfree, -⟩ | ⟨-, hsame⟩ := henqueued
      · exact hfree
      · obtain ⟨-, other, -, -, job, -, hitems⟩ := hannounced _ h hresponse
        rw [hsame] at hitems
        have hlength := congrArg List.length hitems
        simp at hlength
    · intro hfresh answer hanswer _
      obtain rfl := Except.ok.inj (h.symm.trans hanswer)
      obtain ⟨-, hadded⟩ | ⟨hbound, -⟩ := henqueued
      · exact ⟨status, report, rfl, haudited, hadded⟩
      · exact absurd (hfresh.2 _ hkey) hbound

/-- **Which transitions are announced.** In a run whose requests are all fresh, every request that
is answered with success appends one audit event of its report and adds one job of its transition.
A success of a request that is not fresh does not.
SOURCE: apps/api/src/handlers.js:728-739, 1059-1124; apps/api/src/reliability/outbox.js:169-181 -/
theorem reports_announced (P : Platform) (s : ReportStores) :
    (∀ requests, (api P).Meets Fresh s requests → (api P).Meets (Announced P) s requests) ∧
      ∀ request response, ((api P).call request s).1 = .ok response → response.succeeded = true →
        (Announced P s request ↔ Fresh s request) := by
  constructor
  · intro requests hfresh
    apply (api P).meets_mono _ hfresh
    intro t request hrequest response h hresponse
    exact (announced_iff_fresh h hresponse).mpr hrequest response h hresponse
  · intro request response h hresponse
    exact announced_iff_fresh h hresponse

/-- A platform whose digests are empty. -/
def digestless : Platform := ⟨fun _ => "", fun _ _ => "", id⟩

/-- A request of the owner of a tenant, with the `n`-th ids. -/
def ownerRequest (n : String) (action : ReportAction) : ReportRequest where
  tenantId := ⟨"t1", by simp⟩
  principal := { userId := some "u1", tenantId := some "t1", organizationRole := some "company_admin" }
  action := action
  auditDraw := ⟨"event-" ++ n, "correlation-" ++ n, "request-" ++ n, "2026-01-01T00:00:00.000Z"⟩
  outboxDraw := ⟨"job-" ++ n, 0⟩

/-- A tenant with one project. -/
def oneProject : ReportStores where
  repository := {
    projectStore := Table.empty.put { id := "p1", tenantId := "t1", name := "Tower" } }

/-- The body a report is created of. -/
def reportBody : Json := .object [
  ("id", .string "fr1"), ("projectId", .string "p1"), ("siteName", .string "Tower"),
  ("reportType", .string "safety"), ("author", .string "Ana")]

/-- A report is created, drafted and approved. -/
def approvedOnce : List ReportRequest := [
  ownerRequest "1" (.create "/v1/tenants/t1/field-reports" none (some reportBody)),
  ownerRequest "2" (.draft ⟨"fr1", by simp⟩),
  ownerRequest "3" (.review ⟨"fr1", by simp⟩
    (some (.object [("nextStatus", .string "approved")])))]

/-- The second draft of the report. -/
def secondDraft : ReportRequest := ownerRequest "4" (.draft ⟨"fr1", by simp⟩)

/-- Whether a request is fresh. -/
def isFresh (s : ReportStores) (request : ReportRequest) : Bool :=
  (cachedAnswer s request).isNone &&
    (announcementKey request).all fun key => !s.outbox.idempotencyKeys.has (trim key)

theorem isFresh_iff : isFresh s request = true ↔ Fresh s request := by
  simp only [isFresh, Fresh, Bool.and_eq_true, Option.isNone_iff_eq_none, Option.all_eq_true,
    Bool.not_eq_true', OrderedMap.get_eq_none]

/-- The requests of a run are all fresh. -/
def freshRun (P : Platform) : ReportStores → List ReportRequest → Bool
  | _, [] => true
  | s, request :: requests => isFresh s request && freshRun P ((api P).call request s).2 requests

theorem meets_of_freshRun {requests : List ReportRequest} (h : freshRun P s requests = true) :
    (api P).Meets Fresh s requests := by
  induction requests generalizing s with
  | nil => trivial
  | cons request requests ih =>
    simp only [freshRun, Bool.and_eq_true] at h
    exact ⟨isFresh_iff.mp h.1, ih h.2⟩

/-- INTERNAL: the second draft is answered with success, under a key that is taken. -/
theorem secondDraft_answered :
    ∃ response, ((api digestless).call secondDraft
        ((api digestless).run oneProject approvedOnce).2).1 = .ok response ∧
      response.succeeded = true ∧
      ¬ Fresh ((api digestless).run oneProject approvedOnce).2 secondDraft := by
  have hkey : isFresh ((api digestless).run oneProject approvedOnce).2 secondDraft = false := by
    decide +kernel
  have hanswer : (((api digestless).call secondDraft
      ((api digestless).run oneProject approvedOnce).2).1.toOption.map Response.succeeded) =
      some true := by
    decide +kernel
  obtain ⟨response, hresponse, hsucceeded⟩ := Option.map_eq_some_iff.mp hanswer
  refine ⟨response, ?_, hsucceeded, by simp [← isFresh_iff, hkey]⟩
  cases hcall : ((api digestless).call secondDraft
      ((api digestless).run oneProject approvedOnce).2).1 with
  | error e =>
    rw [hcall] at hresponse
    cases hresponse
  | ok answer =>
    rw [hcall] at hresponse
    exact congrArg _ (Option.some.inj hresponse)

/-- A report that is created, drafted and approved once: each of the three is announced, and the
second draft of it is not. -/
theorem reports_announced_approvedOnce :
    (api digestless).Meets (Announced digestless) oneProject approvedOnce ∧
      ¬ Announced digestless ((api digestless).run oneProject approvedOnce).2 secondDraft := by
  obtain ⟨response, hresponse, hsucceeded, hknown⟩ := secondDraft_answered
  refine ⟨(reports_announced digestless oneProject).1 approvedOnce
    (meets_of_freshRun (by decide +kernel)), fun hannounced => hknown ?_⟩
  exact ((reports_announced digestless _).2 secondDraft response hresponse hsucceeded).mp hannounced

/-- The second draft of a report is answered with success, and no job is added for it.
SOURCE: apps/api/src/handlers.js:1074 -/
theorem second_draft_unannounced :
    ¬ ∀ requests, (api digestless).Meets (Announced digestless) oneProject requests := by
  intro hall
  obtain ⟨response, hresponse, hsucceeded, hknown⟩ := secondDraft_answered
  have hrun := hall (approvedOnce ++ [secondDraft])
  have hlast : Announced digestless ((api digestless).run oneProject approvedOnce).2 secondDraft :=
    hrun.2.2.2.1
  exact hknown ((announced_iff_fresh hresponse hsucceeded).mp hlast)

end Xygo.Analysis
