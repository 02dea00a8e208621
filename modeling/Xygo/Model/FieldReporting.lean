import Xygo.Model.Input
import Xygo.Model.Records

/-!
# Field reports

`packages/field-reporting/src/index.js`: the constructor of a report, the draft that is generated of
it, its review, and what a client sees of it.
-/

set_option autoImplicit false

namespace Xygo.Model

/-- `REPORT_TYPE_SET`
SOURCE: packages/field-reporting/src/index.js:12 -/
def reportTypeSet : List String := ["daily_log", "inspection", "safety", "progress"]

/-- `String(observation.key ?? "")` -/
def textMember (observation : Json) (key : String) : Except JsError String :=
  (observation.orElse key (.string "")).toText

/-- `normalizeObservation`
SOURCE: packages/field-reporting/src/index.js:26-43 -/
def normalizeObservation (observation : Json) (index : Nat) : Except JsError Observation :=
  let kind := observation.orElse "kind" .null
  if kind.isText "note" then do
    let text ← textMember observation "text"
    return .note text
  else if kind.isText "photo" then do
    let caption ← textMember observation "caption"
    return .photo caption (observation.orElse "placeholderRef" .null)
  else if kind.isText "checklist" then do
    let label ← textMember observation "label"
    return .checklist label (observation.isTrue "checked")
  else if kind.isText "voice" then do
    let transcriptPlaceholder ← textMember observation "transcriptPlaceholder"
    return .voice transcriptPlaceholder
  else .error (newError ("Observation " ++ toString index ++ " has an unknown kind."))

/-- The observations of an input, each with its index.
SOURCE: packages/field-reporting/src/index.js:60-62 -/
def normalizeObservations (input : Json) : Except JsError (List Observation) :=
  match input.member? "observations" with
  | some (.array items) =>
    items.zipIdx.mapM fun entry => normalizeObservation entry.1 entry.2
  | _ => .ok []

/-- `createFieldReport`
SOURCE: packages/field-reporting/src/index.js:45-81 -/
def createFieldReport (input : Json) : Except JsError FieldReport := do
  let id ← input.requiredString "id" "Field report id"
  let tenantId ← input.requiredString "tenantId" "Field report tenantId"
  let projectId ← input.requiredString "projectId" "Field report projectId"
  let siteName ← input.requiredString "siteName" "Site name"
  let reportType ← input.requiredString "reportType" "Report type"
  let author ← input.requiredString "author" "Author"
  if reportType ∉ reportTypeSet then throw (newError ("Unknown report type: " ++ reportType))
  if !input.isTrue "staged" then throw (newError "Field report must be staged.")
  let observations ← normalizeObservations input
  return {
    id := id
    tenantId := tenantId
    projectId := projectId
    siteName := siteName
    reportType := reportType
    author := author
    capturedAt := input.orElse "capturedAt" .null
    observations := observations
    status := .captured
    draft := none
    reviewedBy := .null
    reviewNote := .null
    clientVisible := false
    staged := true }

namespace Observation

/-- The texts that are not empty.
SOURCE: packages/field-reporting/src/index.js:90 -/
def noteText? : Observation → Option String
  | note text => if text = "" then none else some text
  | _ => none

/-- A line of the checklist.
SOURCE: packages/field-reporting/src/index.js:91-93 -/
def checklistLine? : Observation → Option String
  | checklist label checked => some (label ++ ": " ++ if checked then "complete" else "incomplete")
  | _ => none

/-- The captions that are not empty.
SOURCE: packages/field-reporting/src/index.js:94 -/
def photoCaption? : Observation → Option String
  | photo caption _ => if caption = "" then none else some caption
  | _ => none

/-- The transcripts that are not empty.
SOURCE: packages/field-reporting/src/index.js:95 -/
def voiceText? : Observation → Option String
  | voice transcriptPlaceholder =>
    if transcriptPlaceholder = "" then none else some transcriptPlaceholder
  | _ => none

/-- Whether an item of the checklist is open.
SOURCE: packages/field-reporting/src/index.js:96 -/
def isOpen : Observation → Bool
  | checklist _ checked => !checked
  | _ => false

end Observation

/-- The body of the summary.
SOURCE: packages/field-reporting/src/index.js:100-104 -/
def summaryBody (report : FieldReport) : String :=
  report.reportType ++ " report for " ++ report.siteName ++ " by " ++ report.author ++ ". " ++
    toString report.observations.length ++ " observation(s); " ++
    toString (report.observations.filter Observation.isOpen).length ++
    " open checklist item(s). " ++ "SIMULATED draft — requires human review before release."

/-- The draft of a report.
SOURCE: packages/field-reporting/src/index.js:90-117 -/
def reportDraft (report : FieldReport) : ReportDraft where
  title := report.reportType ++ " — " ++ report.siteName
  sections := [
    { heading := "Summary", body := some (summaryBody report) },
    { heading := "Notes", items := some (report.observations.filterMap Observation.noteText?) },
    { heading := "Checklist"
      items := some (report.observations.filterMap Observation.checklistLine?) },
    { heading := "Photos"
      items := some (report.observations.filterMap Observation.photoCaption?) },
    { heading := "Voice Notes"
      items := some (report.observations.filterMap Observation.voiceText?) }]
  summary := summaryBody report

/-- The error of an operation on a report that is not staged.
SOURCE: packages/field-reporting/src/index.js:87, 124 -/
def stagedReportRequired : JsError := newError "A staged field report is required."

/-- `generateReportDraft`
SOURCE: packages/field-reporting/src/index.js:85-120 -/
def generateReportDraft (report : FieldReport) : Except JsError FieldReport :=
  if !report.staged then .error stagedReportRequired
  else .ok { report with draft := some (reportDraft report), status := .draftGenerated }

/-- `REVIEWABLE_NEXT`
SOURCE: packages/field-reporting/src/index.js:24 -/
def reviewableNext : List FieldReportStatus := [.inReview, .approved, .changesRequested]

/-- The status a review asks for.
SOURCE: packages/field-reporting/src/index.js:126 -/
def reviewStatus? (nextStatus : Json) : Option FieldReportStatus :=
  reviewableNext.find? fun status => nextStatus.isText status.text

/-- `setReviewStatus`
SOURCE: packages/field-reporting/src/index.js:122-141 -/
def setReviewStatus (report : FieldReport) (nextStatus reviewedBy reviewNote : Json) :
    Except JsError FieldReport := do
  if !report.staged then throw stagedReportRequired
  match reviewStatus? nextStatus with
  | none =>
    let shown ← nextStatus.toText
    throw (newError ("Unknown review status: " ++ shown))
  | some status =>
    if report.draft.isNone then
      throw (newError "A report draft must be generated before review.")
    return { report with
      status := status
      reviewedBy := reviewedBy
      reviewNote := reviewNote
      clientVisible := status = .approved }

/-- What a client sees of a report. -/
structure ClientView where
  id : String
  siteName : String
  reportType : String
  title : String
  sections : List ReportSection
  status : String := "approved"
  staged : Bool := true
  deriving DecidableEq, Repr

/-- `toClientView`
SOURCE: packages/field-reporting/src/index.js:144-157 -/
def toClientView (report : FieldReport) : Option ClientView :=
  if !report.clientVisible || report.status ≠ .approved then none
  else some {
    id := report.id
    siteName := report.siteName
    reportType := report.reportType
    title := (report.draft.map ReportDraft.title).getD report.siteName
    sections := (report.draft.map ReportDraft.sections).getD [] }

end Xygo.Model
