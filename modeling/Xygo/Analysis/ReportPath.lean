import Xygo.Analysis.ReportAnnouncements
import Xygo.Computation.Linked
import Xygo.Model.ReportInterleavings

/-!
# The audit events of a report as a path of its status

Every draft and every review records the status it started from and the one it led to. The saved
changes in the order of their saves lead from status to status as long as each starts from the
status that is stored; and they are recorded in that order as long as they are appended in it
(`report_path`). Nothing in the routes sees to either, and two reviews that overlap break the path
(`overlapping_reviews`).
-/

set_option autoImplicit false

namespace Xygo.Analysis

open Xygo.Computation Xygo.Model Xygo.Model.FieldReports

/-- A change of a report's status, as an audit event has it. -/
structure StatusChange where
  before : Json
  after : Json

/-- The change of a report an event is about. -/
def statusChange? (reportId : String) (event : AuditEvent) : Option StatusChange :=
  if event.resourceType = "field_report" ∧ event.resourceId = reportId then
    some ⟨event.beforeStateRef, event.afterStateRef⟩
  else none

/-- The changes of a report in the chain of a tenant. -/
def recorded (r : MemoryRepository) (tenantId reportId : String) : List StatusChange :=
  (r.listAuditEventsByTenant tenantId).filterMap (statusChange? reportId)

/-- The change of a report a request has saved. -/
def savedChange? (tenantId reportId : String) (p : SavedChange) : Option StatusChange :=
  if p.request.tenantId.text = tenantId ∧ p.saved.id = reportId then
    some ⟨.string p.report.status.text, .string p.saved.status.text⟩
  else none

/-- The changes of a report that are saved and not yet recorded. -/
def underway (t : ReportTraffic) (tenantId reportId : String) : List StatusChange :=
  t.saved.filterMap (savedChange? tenantId reportId)

/-- Each change starts from what the one before it led to. -/
def IsPath (changes : List StatusChange) : Prop :=
  Linked (fun after (change : StatusChange) => ∀ ref ∈ after, change.before = ref)
    StatusChange.after none changes

/-- What the last change led to. -/
def lastStatus (changes : List StatusChange) : Option Json :=
  lastMark StatusChange.after none changes

/-- The events of a report form a path; and where no request is between its save and its event, the
path ends with the status that is stored. -/
structure ReportPath (t : ReportTraffic) (tenantId reportId : String) : Prop where
  path : IsPath (recorded t.stores.repository tenantId reportId)
  current : underway t tenantId reportId = [] → ∀ report,
    t.stores.repository.getFieldReportById reportId = some report → report.tenantId = tenantId →
    ∀ ref ∈ lastStatus (recorded t.stores.repository tenantId reportId),
      ref = .string report.status.text

/-- A change is saved only from the status that is stored, and the changes of a report are recorded
in the order they were saved in. -/
def SavesInTurn (t : ReportTraffic) : ReportStep → Prop
  | .save i | .persist i => ∀ o next stored, t.opened[i]? = some o → o.next? = some next →
    t.stores.repository.getFieldReportById o.report.id = some stored →
    stored.status = o.report.status
  | .append i => ∀ p, t.saved[i]? = some p → ∀ q ∈ t.saved.take i, q.saved.id ≠ p.saved.id
  | _ => True

variable {P : Platform} {transactional : Bool} {t u : ReportTraffic}

/-! ## The requests in flight -/

/-- What a request read is the report it asks for, in its own tenant. -/
structure OpenSound (r : MemoryRepository) (o : OpenChange) : Prop where
  change : changeOf o.request = some o.change
  id : o.report.id ≠ ""
  tenantId : o.report.tenantId = o.request.tenantId.text
  stored : ∃ stored, r.getFieldReportById o.report.id = some stored ∧
    stored.tenantId = o.request.tenantId.text

/-- What a request saved is its report, changed. -/
structure SavedSound (p : SavedChange) : Prop where
  change : changeOf p.request = some p.change
  id : p.saved.id ≠ ""

/-- INTERNAL: the change of a request has the action of its evidence. -/
theorem changeOf_action {request : ReportRequest} {change : Change}
    (h : changeOf request = some change) : change.action = transitionAction request := by
  unfold changeOf at h
  unfold transitionAction
  split at h <;> rename_i haction
  · cases h
  · obtain rfl := Option.some.inj h
    simp [haction, draftChange]
  · obtain rfl := Option.some.inj h
    simp [haction, reviewChange]

/-- INTERNAL: a change keeps the report's id and its tenant.
SOURCE: packages/field-reporting/src/index.js:119, 133-140 -/
theorem next_same {o : OpenChange} (hchange : changeOf o.request = some o.change)
    {next : FieldReport} (h : o.next? = some next) :
    next.id = o.report.id ∧ next.tenantId = o.report.tenantId := by
  have happly : o.change.apply o.report = .ok (.ok next) := by
    unfold OpenChange.next? at h
    split at h
    · rename_i other hother
      rw [hother, Option.some.inj h]
    · cases h
  unfold changeOf at hchange
  split at hchange
  · cases hchange
  · rw [← Option.some.inj hchange] at happly
    obtain rfl := generateReportDraft_ok (Except.ok.inj happly)
    exact ⟨rfl, rfl⟩
  · rw [← Option.some.inj hchange] at happly
    simp only [reviewChange, FieldReports.reviewed] at happly
    split at happly
    · cases happly
    · split at happly
      · cases happly
      · split at happly
        · cases happly
        · obtain ⟨-, status, -, rfl⟩ := setReviewStatus_ok (Except.ok.inj happly)
          exact ⟨rfl, rfl⟩

/-! ## Recorded changes -/

/-- INTERNAL: an event of another resource records no change of a report. -/
theorem recorded_other {r : MemoryRepository} {event : AuditEvent}
    (h : event.resourceType ≠ "field_report") (tenantId reportId : String) :
    recorded { r with auditEventStore := r.auditEventStore ++ [event] } tenantId reportId =
      recorded r tenantId reportId := by
  have hnone : statusChange? reportId event = none := by simp [statusChange?, h]
  unfold recorded MemoryRepository.listAuditEventsByTenant
  by_cases htenant : event.tenantId = tenantId <;> simp [htenant, hnone]

/-- INTERNAL: the event of a saved change records it, at the end. -/
theorem recorded_append {r r' : MemoryRepository} {p : SavedChange} {event : AuditEvent}
    (hevent : IsEvidence p.request p.saved event)
    (hbefore : event.beforeStateRef = .string p.report.status.text)
    (hr : r'.auditEventStore = r.auditEventStore ++ [event]) (tenantId reportId : String) :
    recorded r' tenantId reportId =
      recorded r tenantId reportId ++ (savedChange? tenantId reportId p).toList := by
  unfold recorded MemoryRepository.listAuditEventsByTenant savedChange? statusChange?
  rw [hr]
  by_cases htenant : p.request.tenantId.text = tenantId
  · by_cases hid : p.saved.id = reportId
    · simp [htenant, hid, hevent.tenantId, hevent.resourceType, hevent.resourceId, hbefore,
        hevent.afterStateRef]
    · simp [htenant, hid, hevent.tenantId, hevent.resourceType, hevent.resourceId]
  · simp [htenant, hevent.tenantId]

/-- What the requests have made of the reports: the recorded changes of a report and then those
underway are a path to the status that is stored. -/
structure TrafficInv (transactional : Bool) (t : ReportTraffic) : Prop where
  opened : ∀ o ∈ t.opened, OpenSound t.stores.repository o
  saved : ∀ p ∈ t.saved, SavedSound p
  alone : transactional = true → t.saved = []
  path : ∀ tenantId reportId, IsPath
    (recorded t.stores.repository tenantId reportId ++ underway t tenantId reportId)
  current : ∀ tenantId reportId report,
    t.stores.repository.getFieldReportById reportId = some report → report.tenantId = tenantId →
    ∀ ref ∈ lastStatus (recorded t.stores.repository tenantId reportId ++
        underway t tenantId reportId), ref = .string report.status.text

/-- INTERNAL: the invariant says what was to be shown. -/
theorem TrafficInv.reportPath (h : TrafficInv transactional t) (tenantId reportId : String) :
    ReportPath t tenantId reportId := by
  refine ⟨((linked_append _ _ _ _ _).mp (h.path tenantId reportId)).1, ?_⟩
  intro hnone report hreport htenant
  have hcurrent := h.current tenantId reportId report hreport htenant
  rwa [hnone, List.append_nil] at hcurrent

/-- INTERNAL: the invariant speaks of the repository, of the open requests and of the changes that
are underway. -/
theorem TrafficInv.congr (h : TrafficInv transactional t)
    (hrepository : u.stores.repository = t.stores.repository)
    (hopened : ∀ o ∈ u.opened, OpenSound t.stores.repository o)
    (hsaved : ∀ p ∈ u.saved, SavedSound p) (halone : transactional = true → u.saved = [])
    (hunderway : ∀ tenantId reportId, underway u tenantId reportId = underway t tenantId reportId) :
    TrafficInv transactional u := by
  refine ⟨?_, hsaved, halone, ?_, ?_⟩
  · rwa [hrepository]
  · intro tenantId reportId
    rw [hrepository, hunderway]
    exact h.path tenantId reportId
  · intro tenantId reportId report
    rw [hrepository, hunderway]
    exact h.current tenantId reportId report

/-- INTERNAL: a change that starts from the stored status and is put at the end of the path. -/
theorem TrafficInv.put (h : TrafficInv transactional t) {o : OpenChange} (ho : o ∈ t.opened)
    {next : FieldReport} (hnext : o.next? = some next)
    (hturn : ∀ stored, t.stores.repository.getFieldReportById o.report.id = some stored →
      stored.status = o.report.status)
    (hreports : u.stores.repository.fieldReportStore =
      t.stores.repository.fieldReportStore.put next)
    (hopened : u.opened ⊆ t.opened) (hsaved : ∀ p ∈ u.saved, SavedSound p)
    (halone : transactional = true → u.saved = [])
    (hchanges : ∀ tenantId reportId,
      recorded u.stores.repository tenantId reportId ++ underway u tenantId reportId =
        (recorded t.stores.repository tenantId reportId ++ underway t tenantId reportId) ++
          (savedChange? tenantId reportId { o with saved := next }).toList) :
    TrafficInv transactional u := by
  have hsound := h.opened o ho
  obtain ⟨hid, htenant⟩ := next_same hsound.change hnext
  have hget : ∀ reportId, u.stores.repository.getFieldReportById reportId =
      if reportId = next.id then some next
      else t.stores.repository.getFieldReportById reportId := by
    intro reportId
    unfold MemoryRepository.getFieldReportById
    rw [hreports, Table.get_put]
  refine ⟨?_, hsaved, halone, ?_, ?_⟩
  · intro other hother
    have hold := h.opened other (hopened hother)
    refine ⟨hold.change, hold.id, hold.tenantId, ?_⟩
    obtain ⟨stored, hstored, hstoredTenant⟩ := hold.stored
    rw [hget]
    by_cases hsame : other.report.id = next.id
    · refine ⟨next, by simp [hsame], ?_⟩
      obtain ⟨mine, hmine, hmineTenant⟩ := hsound.stored
      rw [hsame, hid, hmine] at hstored
      rw [htenant, hsound.tenantId, ← hmineTenant, Option.some.inj hstored, hstoredTenant]
    · exact ⟨stored, by simp [hsame, hstored], hstoredTenant⟩
  · intro tenantId reportId
    rw [hchanges]
    have hold := h.path tenantId reportId
    unfold savedChange?
    split
    · rename_i hmatch
      obtain ⟨rfl, rfl⟩ := hmatch
      refine (linked_concat _ _ _ _ _).mpr ⟨hold, fun ref href => ?_⟩
      obtain ⟨stored, hstored, hstoredTenant⟩ := hsound.stored
      rw [h.current _ _ stored (by rw [hid]; exact hstored) hstoredTenant ref href,
        hturn stored hstored]
    · simpa using hold
  · intro tenantId reportId report hreport hreportTenant
    rw [hchanges]
    rw [hget] at hreport
    unfold savedChange?
    by_cases hsame : reportId = next.id
    · subst hsame
      obtain rfl : next = report := by simpa using hreport
      rw [if_pos ⟨by rw [← hreportTenant, htenant, hsound.tenantId], rfl⟩]
      intro ref href
      unfold lastStatus at href
      rw [Option.toList_some, lastMark_concat] at href
      exact (Option.some.inj href).symm
    · rw [if_neg (fun hmatch => hsame hmatch.2.symm)]
      rw [if_neg hsame] at hreport
      simpa using h.current tenantId reportId report hreport hreportTenant

/-! ## What each step preserves -/

/-- INTERNAL: a request that reads its report.
SOURCE: apps/api/src/handlers.js:1049-1057, 1085-1093 -/
theorem trafficInv_open (h : TrafficInv transactional t) {request : ReportRequest}
    (hstep : openReport request t = some u) : TrafficInv transactional u := by
  unfold openReport at hstep
  obtain ⟨change, hchange, hstep⟩ := Option.bind_eq_some_iff.mp hstep
  obtain ⟨report, hreport, hstep⟩ := Option.bind_eq_some_iff.mp hstep
  obtain rfl := Option.some.inj hstep
  have hfind : findReport request change.reportId t.stores.repository = .ok report := by
    cases hfound : findReport request change.reportId t.stores.repository with
    | error refusal =>
      rw [hfound] at hreport
      cases hreport
    | ok found =>
      rw [hfound] at hreport
      exact congrArg _ (Option.some.inj hreport)
  refine h.congr rfl ?_ h.saved h.alone fun _ _ => rfl
  intro o ho
  obtain hold | hnew := List.mem_append.mp ho
  · exact h.opened o hold
  · obtain rfl := List.mem_singleton.mp hnew
    unfold findReport at hfind
    split at hfind
    · cases hfind
    · split at hfind
      · cases hfind
      · rename_i found hfound
        obtain rfl := Except.ok.inj hfind
        obtain ⟨hget, htenant⟩ := Option.filter_eq_some_iff.mp hfound
        have hid : found.id = change.reportId.text := Table.key_of_get hget
        refine ⟨hchange, ?_, of_decide_eq_true htenant, found, ?_, of_decide_eq_true htenant⟩
        · rw [hid]
          exact change.reportId.nonempty
        · rw [hid]
          exact hget

/-- INTERNAL: a request that saves its report.
SOURCE: apps/api/src/handlers.js:1059-1062, 1104-1112 -/
theorem trafficInv_save (h : TrafficInv false t) {i : ℕ} (hturn : SavesInTurn t (.save i))
    (hstep : saveReport i t = some u) : TrafficInv false u := by
  unfold saveReport at hstep
  obtain ⟨o, ho, hstep⟩ := Option.bind_eq_some_iff.mp hstep
  have hmem : o ∈ t.opened := List.mem_of_getElem? ho
  split at hstep
  · obtain rfl := Option.some.inj hstep
    exact h.congr rfl (fun o' ho' => h.opened o' (List.mem_of_mem_eraseIdx ho')) h.saved h.alone
      fun _ _ => rfl
  · rename_i next hnext
    obtain rfl := Option.some.inj hstep
    have hsound := h.opened o hmem
    refine h.put hmem hnext (fun stored => hturn o next stored ho hnext) rfl
      (fun o' => List.mem_of_mem_eraseIdx) ?_ (fun htransactional => by cases htransactional) ?_
    · intro p hp
      obtain hold | hnew := List.mem_append.mp hp
      · exact h.saved p hold
      · obtain rfl := List.mem_singleton.mp hnew
        exact ⟨hsound.change, by rw [(next_same hsound.change hnext).1]; exact hsound.id⟩
    · intro tenantId reportId
      have hsame : recorded (Effect.exec (FieldReports.onRepository
          (MemoryRepository.saveFieldReport next)) t.stores).2.repository tenantId reportId =
          recorded t.stores.repository tenantId reportId := rfl
      rw [hsame, List.append_assoc]
      unfold underway
      rw [List.filterMap_append, List.filterMap_cons, List.filterMap_nil]
      cases savedChange? tenantId reportId { o with saved := next } <;> rfl

/-- INTERNAL: replacing an item by one that a function takes alike. -/
theorem filterMap_set {α β : Type} {f : α → Option β} {l : List α} {i : ℕ} {a b : α}
    (ha : l[i]? = some a) (hf : f b = f a) : (l.set i b).filterMap f = l.filterMap f := by
  induction l generalizing i with
  | nil => rfl
  | cons c l ih =>
    cases i with
    | zero =>
      obtain rfl : c = a := by simpa using ha
      simp only [List.set_cons_zero, List.filterMap_cons, hf]
    | succ i =>
      have htail : l[i]? = some a := by simpa using ha
      simp only [List.set_cons_succ, List.filterMap_cons, ih htail]

/-- INTERNAL: a request that reads the tenant's events.
SOURCE: apps/api/src/handlers.js:289 -/
theorem trafficInv_list (h : TrafficInv transactional t) {i : ℕ} (hstep : listEvents i t = some u) :
    TrafficInv transactional u := by
  unfold listEvents at hstep
  obtain ⟨p, hp, hstep⟩ := Option.bind_eq_some_iff.mp hstep
  obtain rfl := Option.some.inj hstep
  have hmem : p ∈ t.saved := List.mem_of_getElem? hp
  refine h.congr rfl h.opened ?_ ?_ ?_
  · intro q hq
    obtain hold | rfl := List.mem_or_eq_of_mem_set hq
    · exact h.saved q hold
    · exact ⟨(h.saved p hmem).change, (h.saved p hmem).id⟩
  · intro htransactional
    rw [h.alone htransactional] at hmem
    cases hmem
  · intro tenantId reportId
    exact filterMap_set hp rfl

/-- INTERNAL: a request that appends its event, the first of its report that is underway.
SOURCE: apps/api/src/handlers.js:290-303, 275 -/
theorem trafficInv_append (h : TrafficInv transactional t) {i : ℕ} (hturn : SavesInTurn t (.append i))
    (hstep : appendEvent P i t = some u) : TrafficInv transactional u := by
  unfold appendEvent at hstep
  obtain ⟨p, hp, hstep⟩ := Option.bind_eq_some_iff.mp hstep
  obtain ⟨existingEvents, -, hstep⟩ := Option.bind_eq_some_iff.mp hstep
  have hmem : p ∈ t.saved := List.mem_of_getElem? hp
  have hsound := h.saved p hmem
  obtain ⟨event, hevent, hbefore, hexec⟩ := exec_appendEvidence P p.request
    hsound.id (.string p.report.status.text) existingEvents t.stores.repository
  have haudit : p.audit = transitionAudit p.request (transitionAction p.request)
      (.string p.report.status.text) p.saved := by
    unfold SavedChange.audit
    rw [changeOf_action hsound.change]
  have hstores : (Effect.exec (FieldReports.onRepository
      (appendEvidence P p.request p.audit existingEvents)) t.stores).2 =
      { t.stores with repository := { t.stores.repository with
          auditEventStore := t.stores.repository.auditEventStore ++ [event] } } := by
    rw [haudit]
    unfold FieldReports.onRepository
    rw [Effect.exec_focus, hexec]
  obtain rfl := Option.some.inj hstep
  -- What is underway before `p` is about other reports, so its event is the next of its report.
  have hchanges : ∀ tenantId reportId,
      recorded { t.stores.repository with
          auditEventStore := t.stores.repository.auditEventStore ++ [event] } tenantId reportId ++
        (t.saved.eraseIdx i).filterMap (savedChange? tenantId reportId) =
      recorded t.stores.repository tenantId reportId ++ underway t tenantId reportId := by
    intro tenantId reportId
    have hsplit : t.saved = t.saved.take i ++ p :: t.saved.drop (i + 1) := by
      obtain ⟨hi, rfl⟩ := List.getElem?_eq_some_iff.mp hp
      rw [List.cons_getElem_drop_succ, List.take_append_drop]
    have hbeforeP : savedChange? tenantId reportId p ≠ none →
        (t.saved.take i).filterMap (savedChange? tenantId reportId) = [] := by
      intro hchange
      apply List.filterMap_eq_nil_iff.mpr
      intro q hq
      unfold savedChange? at hchange ⊢
      rw [if_neg]
      rintro ⟨-, hid⟩
      apply hturn p hp q hq
      split at hchange
      · rename_i hmatch
        rw [hid, hmatch.2]
      · exact absurd rfl hchange
    rw [recorded_append hevent hbefore rfl, List.append_assoc, List.eraseIdx_eq_take_drop_succ]
    conv_rhs => rw [underway, hsplit]
    rw [List.filterMap_append, List.filterMap_append, List.filterMap_cons]
    cases hchange : savedChange? tenantId reportId p with
    | none => simp
    | some change => simp [hbeforeP (by simp [hchange])]
  refine ⟨?_, ?_, ?_, ?_, ?_⟩
  · intro o ho
    rw [hstores]
    obtain ⟨hchange, hid, htenant, hstored⟩ := h.opened o ho
    exact ⟨hchange, hid, htenant, hstored⟩
  · intro q hq
    exact h.saved q (List.mem_of_mem_eraseIdx hq)
  · intro htransactional
    rw [h.alone htransactional] at hmem
    cases hmem
  · intro tenantId reportId
    rw [hstores]
    exact (hchanges tenantId reportId).symm ▸ h.path tenantId reportId
  · intro tenantId reportId report hreport htenant
    rw [hstores] at hreport ⊢
    exact (hchanges tenantId reportId).symm ▸ h.current tenantId reportId report hreport htenant

/-- INTERNAL: what a transaction that is committed has written.
SOURCE: apps/api/src/handlers.js:1061-1077, 1106-1124 -/
theorem persistChange_repository {request : ReportRequest} {change : Change}
    (hchange : changeOf request = some change) {report next : FieldReport} (hid : next.id ≠ "")
    {s s' : ReportStores} {response : Response FieldReport}
    (h : Effect.exec (persistChange P request change report (.ok next)) s = (.ok response, s')) :
    ∃ event, IsEvidence request next event ∧
      event.beforeStateRef = .string report.status.text ∧
      s'.repository = { s.repository with
        fieldReportStore := s.repository.fieldReportStore.put next
        auditEventStore := s.repository.auditEventStore ++ [event] } := by
  unfold persistChange at h
  obtain ⟨changed, v, hlift, h⟩ := exec_bind_ok h
  obtain ⟨hchanged, rfl⟩ := Prod.mk.inj hlift
  obtain rfl := Except.ok.inj hchanged
  obtain ⟨saved, w, hsave, h⟩ := exec_bind_ok h
  obtain ⟨⟨⟩, x, hannounce, h⟩ := exec_bind_ok h
  obtain ⟨-, rfl⟩ := Prod.mk.inj h
  obtain ⟨hsaved, rfl⟩ := exec_focus_ok hsave
  obtain rfl : next = saved := Except.ok.inj (Prod.mk.inj hsaved).1
  rw [changeOf_action hchange] at hannounce
  unfold announce at hannounce
  rw [Effect.exec_bind, Effect.exec_get] at hannounce
  obtain ⟨⟨⟩, y, haudit, hannounce⟩ := exec_bind_ok hannounce
  obtain ⟨-, rfl⟩ := exec_focus_ok hannounce
  obtain ⟨-, rfl⟩ := exec_focus_ok haudit
  dsimp only
  obtain ⟨event, hevent, hbefore, hexec⟩ := exec_appendEvidence P request hid
    (.string report.status.text) _ _
  exact ⟨event, hevent, hbefore, congrArg Prod.snd hexec⟩

/-- INTERNAL: a request whose transaction is committed or rolled back.
SOURCE: apps/api/src/handlers.js:1061-1077, 1106-1176 -/
theorem trafficInv_persist (h : TrafficInv true t) {i : ℕ} (hturn : SavesInTurn t (.persist i))
    (hstep : persistReport P i t = some u) : TrafficInv true u := by
  unfold persistReport at hstep
  obtain ⟨o, ho, hstep⟩ := Option.bind_eq_some_iff.mp hstep
  have hmem : o ∈ t.opened := List.mem_of_getElem? ho
  have hended : TrafficInv true { t with opened := t.opened.eraseIdx i } :=
    h.congr rfl (fun o' ho' => h.opened o' (List.mem_of_mem_eraseIdx ho')) h.saved h.alone
      fun _ _ => rfl
  split at hstep
  · obtain rfl := Option.some.inj hstep
    exact hended
  · rename_i next hnext
    dsimp only at hstep
    split at hstep
    · rename_i response hresponse
      obtain rfl := Option.some.inj hstep
      have hsound := h.opened o hmem
      have hid : next.id ≠ "" := by
        rw [(next_same hsound.change hnext).1]
        exact hsound.id
      obtain ⟨event, hevent, hbefore, hrepository⟩ :=
        persistChange_repository hsound.change hid (Prod.ext hresponse rfl)
      refine h.put hmem hnext (fun stored => hturn o next stored ho hnext)
        (by rw [hrepository]) (fun o' => List.mem_of_mem_eraseIdx) h.saved h.alone ?_
      intro tenantId reportId
      have hnone : underway t tenantId reportId = [] := by
        unfold underway
        rw [h.alone rfl]
        rfl
      have hnone' : underway { t with
          stores := (Effect.exec (persistChange P o.request o.change o.report (.ok next))
            t.stores).2
          opened := t.opened.eraseIdx i } tenantId reportId = [] := hnone
      rw [hnone, hnone', List.append_nil, List.append_nil]
      exact recorded_append (p := { o with saved := next }) hevent hbefore (by rw [hrepository])
        tenantId reportId
    · obtain rfl := Option.some.inj hstep
      exact hended

/-- INTERNAL: evidence of another resource.
SOURCE: apps/api/src/handlers.js:252-276 -/
theorem trafficInv_other (h : TrafficInv transactional t) {event : AuditEvent}
    (hstep : otherEvent event t = some u) : TrafficInv transactional u := by
  unfold otherEvent at hstep
  split at hstep
  · cases hstep
  · rename_i hresource
    obtain rfl := Option.some.inj hstep
    have hsame := recorded_other (r := t.stores.repository) hresource
    refine ⟨?_, h.saved, h.alone, ?_, ?_⟩
    · intro o ho
      obtain ⟨hchange, hid, htenant, hstored⟩ := h.opened o ho
      exact ⟨hchange, hid, htenant, hstored⟩
    · intro tenantId reportId
      exact (hsame tenantId reportId).symm ▸ h.path tenantId reportId
    · intro tenantId reportId report hreport htenant
      exact (hsame tenantId reportId).symm ▸ h.current tenantId reportId report hreport htenant

/-- INTERNAL: **what one step preserves.** -/
theorem trafficInv_step (h : TrafficInv transactional t) {step : ReportStep} (hturn : SavesInTurn t step)
    (hstep : (reportTraffic P transactional).step t step = some u) :
    TrafficInv transactional u := by
  cases step with
  | «open» request => exact trafficInv_open h hstep
  | save i =>
    cases transactional with
    | false => exact trafficInv_save h hturn hstep
    | true => cases hstep
  | list i => exact trafficInv_list h hstep
  | append i => exact trafficInv_append h hturn hstep
  | enqueue i =>
    obtain ⟨p, -, hu⟩ := Option.bind_eq_some_iff.mp hstep
    obtain rfl := Option.some.inj hu
    exact h.congr rfl h.opened h.saved h.alone fun _ _ => rfl
  | persist i =>
    cases transactional with
    | false => cases hstep
    | true => exact trafficInv_persist h hturn hstep
  | other event => exact trafficInv_other h hstep

/-- **The path of a report.** In a run that starts where the events of every report are a path to
its status, and whose steps are all in turn, the events of every report are such a path in every
state.
SOURCE: apps/api/src/handlers.js:1048-1181; apps/api/src/repositories/memory.js:244-247 -/
theorem report_path (P : Platform) (transactional : Bool) (start : ReportStores)
    (hstart : ∀ tenantId reportId, ReportPath { stores := start } tenantId reportId)
    {steps : List ReportStep} {t : ReportTraffic}
    (hturn : (reportTraffic P transactional).Meets SavesInTurn { stores := start } steps)
    (hrun : (reportTraffic P transactional).run { stores := start } steps = some t)
    (tenantId reportId : String) : ReportPath t tenantId reportId := by
  have hinit : TrafficInv transactional { stores := start } := by
    refine ⟨?_, ?_, fun _ => rfl, ?_, ?_⟩
    · intro o ho
      cases ho
    · intro p hp
      cases hp
    · intro tenantId reportId
      have hpath := (hstart tenantId reportId).path
      simpa [underway] using hpath
    · intro tenantId reportId report hreport htenant
      have hcurrent := (hstart tenantId reportId).current rfl report hreport htenant
      simpa [underway] using hcurrent
  have hinv : TrafficInv transactional t :=
    (reportTraffic P transactional).invariant_of_meets
      (fun s l v hs hg hv => trafficInv_step hs hg hv) hinit hturn hrun
  exact hinv.reportPath tenantId reportId

/-- The test of `SavesInTurn`. -/
def savesInTurn (t : ReportTraffic) : ReportStep → Bool
  | .save i | .persist i => t.opened[i]?.all fun o =>
    (t.stores.repository.getFieldReportById o.report.id).all fun stored =>
      stored.status = o.report.status
  | .append i => t.saved[i]?.all fun p => (t.saved.take i).all fun q => q.saved.id ≠ p.saved.id
  | _ => true

theorem savesInTurn_of_test (t : ReportTraffic) (step : ReportStep) (h : savesInTurn t step = true) :
    SavesInTurn t step := by
  cases step with
  | save i | persist i =>
    intro o next stored ho _ hstored
    simpa [savesInTurn, ho, hstored] using h
  | append i =>
    intro p hp q hq
    have hall : (t.saved.take i).all (fun q => q.saved.id ≠ p.saved.id) = true := by
      simpa only [savesInTurn, hp, Option.all_some] using h
    exact of_decide_eq_true (List.all_eq_true.mp hall q hq)
  | _ => trivial

/-- The text of a state reference. -/
def refText : Json → Option String
  | .string text => some text
  | _ => none

/-- The texts of the changes of a report. -/
def changeTexts (t : ReportTraffic) (tenantId reportId : String) :
    List (Option String × Option String) :=
  (recorded t.stores.repository tenantId reportId).map fun change =>
    (refText change.before, refText change.after)

/-- INTERNAL: the texts of a path lead from one to the next. -/
theorem linked_texts {previous : Option Json} {changes : List StatusChange}
    (h : Linked (fun after (change : StatusChange) => ∀ ref ∈ after, change.before = ref)
      StatusChange.after previous changes) :
    Linked (fun after (texts : Option String × Option String) => ∀ text ∈ after, texts.1 = text)
      Prod.snd (previous.map refText)
      (changes.map fun change => (refText change.before, refText change.after)) := by
  induction changes generalizing previous with
  | nil => trivial
  | cons change changes ih =>
    refine ⟨?_, ih h.2⟩
    intro text htext
    obtain ⟨ref, href, rfl⟩ := Option.map_eq_some_iff.mp htext
    exact congrArg refText (h.1 ref href)

/-- A report whose draft is generated, before anything is recorded of it. -/
def draftedReport : ReportStores where
  repository := {
    fieldReportStore := Table.empty.put {
      id := "fr1", tenantId := "t1", projectId := "p1", siteName := "Tower", reportType := "safety"
      author := "Ana", status := .draftGenerated
      draft := some { title := "Tower", sections := [], summary := "" } } }

theorem drafted_id_ne_empty : "fr1" ≠ "" := by simp

/-- A review of the report. -/
def reviewOf (n nextStatus : String) : ReportRequest :=
  ownerRequest n (.review ⟨"fr1", drafted_id_ne_empty⟩ (some (.object [("nextStatus", .string nextStatus)])))

/-- An approval, and a draft that reads the report once it is approved. -/
def turnByTurn : List ReportStep := [
  .open (reviewOf "1" "approved"), .save 0, .open secondDraft, .save 0, .list 1, .list 0,
  .append 0, .append 0, .enqueue 1, .enqueue 0]

/-- Two reviews that both read the report before either of them decides. -/
def twoReviews : List ReportStep := [
  .open (reviewOf "1" "approved"), .open (reviewOf "2" "changes_requested"),
  .save 0, .list 0, .append 0, .enqueue 0, .save 0, .list 0, .append 0, .enqueue 0]

/-- An approval and a draft that follow each other leave a path. -/
theorem report_path_turnByTurn :
    ∃ t, (reportTraffic digestless false).run { stores := draftedReport } turnByTurn = some t ∧
      ReportPath t "t1" "fr1" ∧
      changeTexts t "t1" "fr1" =
        [(some "draft_generated", some "approved"), (some "approved", some "draft_generated")] := by
  have htexts : ((reportTraffic digestless false).run { stores := draftedReport } turnByTurn).map
      (changeTexts · "t1" "fr1") =
      some [(some "draft_generated", some "approved"),
        (some "approved", some "draft_generated")] := by
    decide +kernel
  obtain ⟨t, hrun, hchanges⟩ := Option.map_eq_some_iff.mp htexts
  refine ⟨t, hrun, ?_, hchanges⟩
  refine report_path digestless false draftedReport (fun tenantId reportId => ?_)
    ((reportTraffic digestless false).meets_of_check savesInTurn_of_test _ turnByTurn
      (by decide +kernel)) hrun "t1" "fr1"
  refine ⟨trivial, fun _ report _ _ ref href => ?_⟩
  cases href

/-- Two reviews decide on the draft they both read: the first decision is overwritten, and the event
of the second one does not start from it.
SOURCE: apps/api/src/handlers.js:1090-1124 -/
theorem overlapping_reviews :
    ¬ ∀ steps t, (reportTraffic digestless false).run { stores := draftedReport } steps = some t →
      ReportPath t "t1" "fr1" := by
  intro hall
  have htexts : ((reportTraffic digestless false).run { stores := draftedReport } twoReviews).map
      (changeTexts · "t1" "fr1") =
      some [(some "draft_generated", some "approved"),
        (some "draft_generated", some "changes_requested")] := by
    decide +kernel
  obtain ⟨t, hrun, hchanges⟩ := Option.map_eq_some_iff.mp htexts
  have hlinked := linked_texts (hall twoReviews t hrun).path
  change Linked _ _ _ (changeTexts t "t1" "fr1") at hlinked
  rw [hchanges] at hlinked
  exact absurd (hlinked.2.1 (some "approved") rfl) (by decide)

end Xygo.Analysis
