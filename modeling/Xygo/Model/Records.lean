import Xygo.Model.Js

/-!
# The records of a tenant

The records the repositories store, with the fields their constructors give them. A field
the constructor takes from the request as it is holds a JSON value, or none where it stores an
absent member; one it checks has the type it is checked against.
-/

set_option autoImplicit false

namespace Xygo.Model

/-- What `createProject` returns.
SOURCE: packages/shared-contracts/src/foundation.js:146-160 -/
structure Project where
  id : String
  tenantId : String
  name : String
  projectType : Json := .string "commercial"
  status : Json := .string "draft"
  staged : Bool := true

/-- `ISSUE_STATUS_SET`
SOURCE: packages/coordination/src/index.js:4-15 -/
inductive IssueStatus
  | «open»
  | triaged
  | assigned
  | inProgress
  | underReview
  | resolved
  | closed
  | returned
  | deferred
  | rejectedFalsePositive
  deriving DecidableEq, Repr

/-- The text of an issue's status. -/
def IssueStatus.text : IssueStatus → String
  | .open => "open"
  | .triaged => "triaged"
  | .assigned => "assigned"
  | .inProgress => "in_progress"
  | .underReview => "under_review"
  | .resolved => "resolved"
  | .closed => "closed"
  | .returned => "returned"
  | .deferred => "deferred"
  | .rejectedFalsePositive => "rejected_false_positive"

/-- What `createCoordinationIssue` returns.
SOURCE: packages/coordination/src/index.js:44-79 -/
structure CoordinationIssue where
  id : String
  tenantId : String
  projectId : String
  title : String
  description : String
  status : IssueStatus
  type : Json := .string "coordination_conflict"
  source : Json := .string "manual"
  disciplines : Option Json := none
  assignedLeadUserId : Json := .null
  priority : Json := .string "medium"
  severity : Json := .string "medium"
  confidence : Json := .string "confirmed"
  relatedSheetIds : Json := .array []
  relatedModelIds : Json := .array []
  relatedElementIds : Json := .array []
  evidence : Json := .array []
  proposedResolution : Json := .null
  staged : Bool := true

/-- `RFI_STATUS_SET`
SOURCE: packages/coordination/src/index.js:17-23 -/
inductive RfiStatus
  | draft
  | submitted
  | answered
  | closed
  | returned
  deriving DecidableEq, Repr

/-- The text of a request's status. -/
def RfiStatus.text : RfiStatus → String
  | .draft => "draft"
  | .submitted => "submitted"
  | .answered => "answered"
  | .closed => "closed"
  | .returned => "returned"

/-- What `createRfi` returns.
SOURCE: packages/coordination/src/index.js:103-127 -/
structure Rfi where
  id : String
  tenantId : String
  projectId : String
  title : String
  question : Json := .string ""
  requestedBy : Json := .null
  assignedTo : Json := .null
  status : RfiStatus
  relatedSheetIds : Json := .array []
  relatedIssueIds : Json := .array []
  staged : Bool := true

/-- `PERMIT_STATE_SET`
SOURCE: packages/permits/src/index.js:4-15 -/
inductive PermitStatus
  | packagePreparation
  | internalCompletenessReview
  | readyForSubmission
  | simulatedSubmitted
  | reviewerCommentsReceived
  | revisionRequired
  | revisionInProgress
  | simulatedResubmitted
  | simulatedApproved
  | closed
  deriving DecidableEq, Repr

/-- The text of a permit package's status. -/
def PermitStatus.text : PermitStatus → String
  | .packagePreparation => "package_preparation"
  | .internalCompletenessReview => "internal_completeness_review"
  | .readyForSubmission => "ready_for_submission"
  | .simulatedSubmitted => "simulated_submitted"
  | .reviewerCommentsReceived => "reviewer_comments_received"
  | .revisionRequired => "revision_required"
  | .revisionInProgress => "revision_in_progress"
  | .simulatedResubmitted => "simulated_resubmitted"
  | .simulatedApproved => "simulated_approved"
  | .closed => "closed"

/-- What `createPermitPackage` returns.
SOURCE: packages/permits/src/index.js:36-61 -/
structure PermitPackage where
  id : String
  tenantId : String
  projectId : String
  jurisdictionProfile : String
  status : PermitStatus
  submissionPackageRefs : Json := .array []
  requiredFormsChecklist : Json := .array []
  reviewComments : Json := .array []
  responseMatrix : Json := .array []
  submissionCycles : Json := .number "0"
  permitReadinessFindings : Json := .array []
  staged : Bool := true

/-- What `createReviewSession` returns.
SOURCE: packages/projects/src/index.js:93-114 -/
structure ReviewSession where
  id : String
  tenantId : String
  projectId : String
  createdBy : String
  artifactRefs : Option Json := none
  status : Json := .string "open"
  commentIds : Json := .array []
  staged : Bool := true

/-- What `createReviewRun` returns.
SOURCE: packages/ai-review/src/index.js:53-72 -/
structure AiReviewRun where
  id : String
  tenantId : String
  projectId : String
  artifactType : String
  artifactId : String
  status : Json := .string "queued"
  ruleVersion : Json := .string "rules-v1"
  modelVersion : Json := .string "model-sim-v1"
  jurisdictionProfile : Json := .null
  staged : Bool := true

/-- What `createFinding` returns, with the issue a disposition relates it to.
SOURCE: packages/ai-review/src/index.js:136-173, 189-203 -/
structure AiFinding where
  id : String
  reviewRunId : String
  ruleOrModelVersion : Json := .string "hybrid-v1"
  category : String
  title : String
  description : String
  severity : String
  confidence : Json := .string "medium"
  evidenceType : Json := .string "hybrid"
  evidenceReferences : Json := .array []
  referencedStandard : Json := .null
  jurisdictionProfile : Json := .null
  assumptions : Json := .array []
  missingInformation : Json := .array []
  suggestedNextAction : Json := .string "Requires qualified review"
  assignedDiscipline : Json := .null
  humanDisposition : Json := .string "pending"
  relatedIssueId : Option Json := none
  staged : Bool := true

/-- `INDUSTRY_SET`
SOURCE: packages/platform-blueprint/src/index.js:19-26 -/
inductive Industry
  | construction
  | fieldServices
  | inspections
  | engineering
  | homeServices
  | other
  deriving DecidableEq, Repr

/-- What `createBlueprintIntake` returns.
SOURCE: packages/platform-blueprint/src/index.js:86-103 -/
structure BlueprintIntake where
  id : String
  tenantId : String
  businessName : String
  industry : Industry
  serviceLine : Json := .null
  roles : List Json := []
  workflows : List Json := []
  painPoints : List Json := []
  portalRequirements : List Json := []
  dashboardRequirements : List Json := []
  aiAgentRequirements : List Json := []
  documentReportingNeeds : List Json := []
  integrationNeeds : List Json := []
  selectedModules : List Json := []
  staged : Bool := true

/-- A module of the library, with why it was recommended.
SOURCE: packages/platform-blueprint/src/index.js:30-42, 124-129 -/
structure RecommendedModule where
  key : String
  name : String
  category : String
  replaces : String
  rationale : String
  deriving DecidableEq, Repr

/-- A step of the build order.
SOURCE: packages/platform-blueprint/src/index.js:175-182 -/
structure BuildStep where
  order : Nat
  module : String
  action : String
  replaces : String
  deriving DecidableEq, Repr

/-- What `generatePlatformBlueprint` returns.
SOURCE: packages/platform-blueprint/src/index.js:189-224 -/
structure PlatformBlueprint where
  id : String
  blueprintId : String
  tenantId : String
  businessName : String
  industry : Industry
  intake : BlueprintIntake
  recommendedModules : List RecommendedModule
  portalModules : List String
  includesReportingDashboard : Bool
  aiAgents : List String
  includesDocumentAnalysis : Bool
  nextBuildSteps : List BuildStep
  summary : String
  staged : Bool := true

/-- What `normalizeObservation` returns.
SOURCE: packages/field-reporting/src/index.js:26-43 -/
inductive Observation
  | note (text : String)
  | photo (caption : String) (placeholderRef : Json)
  | checklist (label : String) (checked : Bool)
  | voice (transcriptPlaceholder : String)

/-- A section of a draft: the summary has a body, the others have items.
SOURCE: packages/field-reporting/src/index.js:97-109 -/
structure ReportSection where
  heading : String
  body : Option String := none
  items : Option (List String) := none
  deriving DecidableEq, Repr

/-- The draft of a field report.
SOURCE: packages/field-reporting/src/index.js:111-117 -/
structure ReportDraft where
  title : String
  sections : List ReportSection
  aiGenerated : Bool := true
  simulated : Bool := true
  summary : String
  deriving DecidableEq, Repr

/-- `FIELD_REPORT_STATUS_SET`
SOURCE: packages/field-reporting/src/index.js:16-22 -/
inductive FieldReportStatus
  | captured
  | draftGenerated
  | inReview
  | approved
  | changesRequested
  deriving DecidableEq, Repr

/-- The text of a report's status. -/
def FieldReportStatus.text : FieldReportStatus → String
  | .captured => "captured"
  | .draftGenerated => "draft_generated"
  | .inReview => "in_review"
  | .approved => "approved"
  | .changesRequested => "changes_requested"

/-- What `createFieldReport` returns.
SOURCE: packages/field-reporting/src/index.js:45-81 -/
structure FieldReport where
  id : String
  tenantId : String
  projectId : String
  siteName : String
  reportType : String
  author : String
  capturedAt : Json := .null
  observations : List Observation := []
  status : FieldReportStatus := .captured
  draft : Option ReportDraft := none
  reviewedBy : Json := .null
  reviewNote : Json := .null
  clientVisible : Bool := false
  staged : Bool := true

/-- `FILE_CLASS_SET`
SOURCE: packages/file-storage/src/index.js:22-27 -/
inductive FileClass
  | document
  | evidence
  | reportAttachment
  | reportPhoto
  deriving DecidableEq, Repr

/-- `FILE_STATUS_SET`
SOURCE: packages/file-storage/src/index.js:29 -/
inductive FileStatus
  | pendingUpload
  | ready
  | deleting
  | deleted
  deriving DecidableEq, Repr

/-- The text of a file's status. -/
def FileStatus.text : FileStatus → String
  | .pendingUpload => "pending_upload"
  | .ready => "ready"
  | .deleting => "deleting"
  | .deleted => "deleted"

/-- What `createPendingFileRecord` returns.
SOURCE: packages/file-storage/src/index.js:192-218 -/
structure FileRecord where
  id : String
  tenantId : String
  projectId : String
  fieldReportId : Option String := none
  fileClass : FileClass
  originalFilename : String
  mimeType : String
  sizeBytes : Nat
  storageKey : String
  status : FileStatus := .pendingUpload
  checksumSha256 : Option String := none
  clientVisible : Bool := false
  createdBy : String
  createdAt : Int
  updatedAt : Int
  retentionUntil : Int
  deletedAt : Option Int := none
  deriving DecidableEq, Repr

end Xygo.Model
