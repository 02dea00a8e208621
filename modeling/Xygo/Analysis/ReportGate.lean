import Xygo.Computation.Effect
import Xygo.Computation.Machine
import Xygo.Model.FieldReporting

/-!
# The gate of a field report

A report is visible to clients exactly when it is approved. A review sets both, the status and the
visibility; a draft sets the status only. So the gate holds in the life of a report as long as no
draft is generated of an approved one, and it breaks with the first that is.
-/

set_option autoImplicit false

namespace Xygo.Analysis

open Xygo.Computation Xygo.Model

/-- What is done to a report. -/
inductive ReportOperation
  | draft
  | review (nextStatus reviewedBy reviewNote : Json)

/-- The report after an operation. -/
def ReportOperation.apply (report : FieldReport) : ReportOperation → Except JsError FieldReport
  | draft => generateReportDraft report
  | review nextStatus reviewedBy reviewNote =>
    setReviewStatus report nextStatus reviewedBy reviewNote

/-- The life of a report: an operation that throws leaves the report as it is. -/
def reportLife : Machine FieldReport ReportOperation where
  step report operation :=
    match operation.apply report with
    | .ok next => some next
    | .error _ => some report

/-- The gate: only an approved report is visible, and an approved one is, and it has a draft. -/
structure Gated (report : FieldReport) : Prop where
  visible : report.clientVisible = true ↔ report.status = .approved
  drafted : report.status = .approved → report.draft.isSome = true

/-- The gate holds after each operation of a run. -/
def GatedThroughout (start : FieldReport) (operations : List ReportOperation) : Prop :=
  ∀ before after report, operations = before ++ after →
    reportLife.run start before = some report → Gated report

/-- The operation does not generate a draft of an approved report. -/
def NoRedraft (report : FieldReport) : ReportOperation → Prop
  | .draft => report.status ≠ .approved
  | .review _ _ _ => True

/-- INTERNAL: a new report is gated.
SOURCE: packages/field-reporting/src/index.js:64-80 -/
theorem gated_create {input : Json} {report : FieldReport}
    (h : createFieldReport input = .ok report) : Gated report ∧ report.staged = true := by
  unfold createFieldReport at h
  simp only [bind_eq_ok] at h
  obtain ⟨id, -, tenantId, -, projectId, -, siteName, -, reportType, -, author, -, h⟩ := h
  split at h
  · cases h
  split at h
  · cases h
  obtain ⟨observations, -, h⟩ := bind_eq_ok.mp h
  obtain rfl := Except.ok.inj h
  refine ⟨⟨?_, ?_⟩, rfl⟩
  · simp
  · intro h
    cases h

/-- INTERNAL: what a draft leaves.
SOURCE: packages/field-reporting/src/index.js:119 -/
theorem generateReportDraft_ok {report next : FieldReport}
    (h : generateReportDraft report = .ok next) :
    next = { report with draft := some (reportDraft report), status := .draftGenerated } := by
  unfold generateReportDraft at h
  split at h
  · cases h
  · exact (Except.ok.inj h).symm

/-- INTERNAL: what a review leaves.
SOURCE: packages/field-reporting/src/index.js:129-140 -/
theorem setReviewStatus_ok {report next : FieldReport} {nextStatus reviewedBy reviewNote : Json}
    (h : setReviewStatus report nextStatus reviewedBy reviewNote = .ok next) :
    report.draft.isSome = true ∧ ∃ status, reviewStatus? nextStatus = some status ∧
      next = { report with
        status := status, reviewedBy := reviewedBy, reviewNote := reviewNote
        clientVisible := status = .approved } := by
  unfold setReviewStatus at h
  dsimp only at h
  split at h
  · cases h
  split at h
  · obtain ⟨shown, -, h⟩ := bind_eq_ok.mp h
    cases h
  · rename_i status hstatus
    split at h
    · cases h
    · rename_i hdraft
      refine ⟨by simpa [Option.isSome_iff_ne_none] using hdraft, status, hstatus, ?_⟩
      exact (Except.ok.inj h).symm

/-- INTERNAL: an operation keeps a report staged, and it gates the report it is applied to unless
it drafts an approved one.
SOURCE: packages/field-reporting/src/index.js:85-141 -/
theorem gated_apply {report next : FieldReport} {operation : ReportOperation}
    (hreport : Gated report) (h : operation.apply report = .ok next) :
    next.staged = report.staged ∧ (Gated next ↔ NoRedraft report operation) := by
  cases operation with
  | draft =>
    obtain rfl := generateReportDraft_ok h
    refine ⟨rfl, fun hnext happroved => ?_, fun hnot => ⟨⟨fun hvisible => ?_, ?_⟩, ?_⟩⟩
    · have hstatus : FieldReportStatus.draftGenerated = .approved :=
        hnext.visible.mp (hreport.visible.mpr happroved)
      cases hstatus
    · exact absurd (hreport.visible.mp hvisible) hnot
    · intro h
      cases h
    · intro h
      cases h
  | review nextStatus reviewedBy reviewNote =>
    obtain ⟨hdraft, status, -, rfl⟩ := setReviewStatus_ok h
    exact ⟨rfl, fun _ => trivial, fun _ => ⟨decide_eq_true_iff, fun _ => hdraft⟩⟩

/-- INTERNAL: every operation is a step of a report's life, and gates it unless it drafts an
approved one. -/
theorem gated_step {report : FieldReport} (hreport : Gated report)
    (hstaged : report.staged = true) (operation : ReportOperation) :
    ∃ next, reportLife.step report operation = some next ∧ next.staged = true ∧
      (Gated next ↔ NoRedraft report operation) := by
  cases happly : operation.apply report with
  | ok next =>
    obtain ⟨hsame, hnext⟩ := gated_apply hreport happly
    exact ⟨next, by simp [reportLife, happly], hsame.trans hstaged, hnext⟩
  | error e =>
    refine ⟨report, by simp [reportLife, happly], hstaged, ?_⟩
    cases operation with
    | draft =>
      simp only [ReportOperation.apply, generateReportDraft, hstaged] at happly
      cases happly
    | review nextStatus reviewedBy reviewNote => exact ⟨fun _ => trivial, fun _ => hreport⟩

/-- INTERNAL: a run of a gated report. -/
theorem gatedThroughout_iff {report : FieldReport} (hreport : Gated report)
    (hstaged : report.staged = true) (operations : List ReportOperation) :
    GatedThroughout report operations ↔ reportLife.Meets NoRedraft report operations := by
  induction operations generalizing report with
  | nil =>
    refine ⟨fun _ => trivial, fun _ before after last hsplit hrun => ?_⟩
    obtain ⟨rfl, rfl⟩ := List.append_eq_nil_iff.mp hsplit.symm
    obtain rfl : report = last := by simpa using hrun
    exact hreport
  | cons operation operations ih =>
    obtain ⟨next, hstep, hnextStaged, hnext⟩ := gated_step hreport hstaged operation
    rw [Machine.meets_cons]
    constructor
    · intro hthroughout
      have hgated : Gated next :=
        hthroughout [operation] operations next rfl (by simp [hstep])
      refine ⟨hnext.mp hgated, fun t ht => ?_⟩
      obtain rfl : next = t := Option.some.inj (hstep.symm.trans ht)
      apply (ih hgated hnextStaged).mp
      intro before after last hsplit hrun
      exact hthroughout (operation :: before) after last (by simp [hsplit]) (by simp [hstep, hrun])
    · rintro ⟨hnot, hrest⟩ before after last hsplit hrun
      have hgated : Gated next := hnext.mpr hnot
      cases before with
      | nil =>
        obtain rfl : report = last := by simpa using hrun
        exact hreport
      | cons first before =>
        obtain ⟨rfl, htail⟩ := List.cons.inj hsplit
        rw [Machine.run_cons, hstep] at hrun
        exact (ih hgated hnextStaged).mpr (hrest next hstep) before after last htail hrun

/-- **The gate holds through the life of a report exactly when no draft is generated of an approved
one.**
SOURCE: packages/field-reporting/src/index.js:45-141 -/
theorem report_gated {input : Json} {report : FieldReport}
    (hcreate : createFieldReport input = .ok report) (operations : List ReportOperation) :
    GatedThroughout report operations ↔ reportLife.Meets NoRedraft report operations := by
  obtain ⟨hreport, hstaged⟩ := gated_create hcreate
  exact gatedThroughout_iff hreport hstaged operations

/-- The input of a daily log. -/
def dailyLogInput : Json := .object [
  ("id", .string "report-1"), ("tenantId", .string "tenant-a"),
  ("projectId", .string "project-1"), ("siteName", .string "North Yard"),
  ("reportType", .string "daily_log"), ("author", .string "Field User"),
  ("staged", .bool true)]

/-- The report of that input. -/
def dailyLog : FieldReport where
  id := "report-1"
  tenantId := "tenant-a"
  projectId := "project-1"
  siteName := "North Yard"
  reportType := "daily_log"
  author := "Field User"

/-- A draft, its approval, and a draft again. -/
def redraftedLife : List ReportOperation :=
  [.draft, .review (.string "approved") .null .null, .draft]

/-- The life of `dailyLog` up to its approval. -/
theorem report_gated_dailyLog :
    createFieldReport dailyLogInput = .ok dailyLog ∧
      (GatedThroughout dailyLog (redraftedLife.take 2) ↔
        reportLife.Meets NoRedraft dailyLog (redraftedLife.take 2)) :=
  ⟨by rfl, report_gated (by rfl : createFieldReport dailyLogInput = .ok dailyLog) _⟩

/-- **A draft of an approved report leaves it visible**: the status is that of a draft, and clients
still see the report.
SOURCE: packages/field-reporting/src/index.js:119 -/
theorem redrafted_visible :
    createFieldReport dailyLogInput = .ok dailyLog ∧ ¬ GatedThroughout dailyLog redraftedLife := by
  refine ⟨by rfl, fun hthroughout => ?_⟩
  have hrun : reportLife.run dailyLog redraftedLife = some { dailyLog with
      draft := some (reportDraft dailyLog), status := .draftGenerated, clientVisible := true } := by
    rfl
  have hgated := hthroughout redraftedLife [] _ (List.append_nil _).symm hrun
  cases hgated.visible.mp rfl

end Xygo.Analysis
