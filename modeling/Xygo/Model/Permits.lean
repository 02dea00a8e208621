import Xygo.Computation.Doubles
import Xygo.Computation.Machine
import Xygo.Model.EmailQueue
import Xygo.Model.Records

/-!
# The lifecycle of a permit package

`packages/permits/src/index.js`: the constructor of a package and the transitions between its
states, with the access checks of `packages/auth/src/synthetic-auth.js` they begin with. The lists
of a package and its counter have the types of their defaults here.
-/

set_option autoImplicit false

namespace Xygo.Model

open Xygo.Computation

/-- `createSyntheticSession`: what the checks read of a session.
SOURCE: packages/auth/src/synthetic-auth.js:16-25 -/
structure SyntheticSession where
  tenantId : String
  userId : String
  allowedProjectIds : List String := []
  staged : Bool := true

/-- `assertSessionTenantAccess`
SOURCE: packages/auth/src/synthetic-auth.js:27-35 -/
def assertSessionTenantAccess (session : Option SyntheticSession) (tenantId : String) :
    Except JsError SyntheticSession :=
  match session with
  | none => .error (newError "A staged synthetic session is required.")
  | some session =>
    if !session.staged then .error (newError "A staged synthetic session is required.")
    else if session.tenantId ≠ tenantId then .error (newError "Tenant access denied.")
    else .ok session

/-- `assertProjectAccess`
SOURCE: packages/auth/src/synthetic-auth.js:37-41 -/
def assertProjectAccess (session : SyntheticSession) (projectId : String) : Except JsError Unit :=
  if projectId ∈ session.allowedProjectIds then .ok ()
  else .error (newError "Project access denied.")

/-- `PERMIT_STATE_SET`
SOURCE: packages/permits/src/index.js:4-15 -/
def permitStateSet : List PermitStatus := [
  .packagePreparation, .internalCompletenessReview, .readyForSubmission, .simulatedSubmitted,
  .reviewerCommentsReceived, .revisionRequired, .revisionInProgress, .simulatedResubmitted,
  .simulatedApproved, .closed]

/-- The state a text names. -/
def permitStatus? (text : String) : Option PermitStatus :=
  permitStateSet.find? fun status => status.text = text

/-- The error of a text that names no state.
SOURCE: packages/permits/src/index.js:44, 68 -/
def unknownPermitStatus (text : String) : JsError := newError ("Unknown permit status: " ++ text)

/-- `ALLOWED_PERMIT_TRANSITIONS`
SOURCE: packages/permits/src/index.js:17-28 -/
def allowedPermitTransitions : PermitStatus → List PermitStatus
  | .packagePreparation => [.internalCompletenessReview]
  | .internalCompletenessReview => [.readyForSubmission, .revisionRequired]
  | .readyForSubmission => [.simulatedSubmitted]
  | .simulatedSubmitted => [.reviewerCommentsReceived, .simulatedApproved]
  | .reviewerCommentsReceived => [.revisionRequired, .simulatedApproved]
  | .revisionRequired => [.revisionInProgress]
  | .revisionInProgress => [.simulatedResubmitted]
  | .simulatedResubmitted => [.reviewerCommentsReceived, .simulatedApproved]
  | .simulatedApproved => [.closed]
  | .closed => []

/-- A permit package in its lifecycle. -/
structure StagedPermit where
  id : String
  tenantId : String
  projectId : String
  jurisdictionProfile : String
  status : PermitStatus
  submissionPackageRefs : List Json
  requiredFormsChecklist : List Json
  reviewComments : List Json
  responseMatrix : List Json
  submissionCycles : Double
  permitReadinessFindings : List Json
  staged : Bool := true

/-- The input of `createPermitPackage`. -/
structure PermitInput where
  id : String
  tenantId : String
  projectId : String
  jurisdictionProfile : String
  status : String
  submissionPackageRefs : Option (List Json) := none
  requiredFormsChecklist : Option (List Json) := none
  reviewComments : Option (List Json) := none
  responseMatrix : Option (List Json) := none
  submissionCycles : Option Double := none
  permitReadinessFindings : Option (List Json) := none

/-- `requiredString`
SOURCE: packages/permits/src/index.js:30-34 -/
def Permits.requiredString (value label : String) : Except JsError Unit :=
  if trim value = "" then .error (newError (label ++ " is required.")) else .ok ()

/-- `createPermitPackage`
SOURCE: packages/permits/src/index.js:36-61 -/
def createPermitPackage (input : PermitInput) : Except JsError StagedPermit := do
  Permits.requiredString input.id "Permit package id"
  Permits.requiredString input.tenantId "Permit package tenantId"
  Permits.requiredString input.projectId "Permit package projectId"
  Permits.requiredString input.jurisdictionProfile "Permit package jurisdictionProfile"
  Permits.requiredString input.status "Permit package status"
  match permitStatus? input.status with
  | none => throw (unknownPermitStatus input.status)
  | some status => return {
      id := input.id
      tenantId := input.tenantId
      projectId := input.projectId
      jurisdictionProfile := input.jurisdictionProfile
      status := status
      submissionPackageRefs := input.submissionPackageRefs.getD []
      requiredFormsChecklist := input.requiredFormsChecklist.getD []
      reviewComments := input.reviewComments.getD []
      responseMatrix := input.responseMatrix.getD []
      submissionCycles := input.submissionCycles.getD (.finite 0)
      permitReadinessFindings := input.permitReadinessFindings.getD [] }

/-- `list.includes(false)` -/
def includesFalse (list : List Json) : Bool :=
  list.any fun
    | .bool value => !value
    | _ => false

/-- The transition a package is asked to make, with what is drawn for its audit event and its
outbox event. -/
structure PermitTransition where
  session : Option SyntheticSession
  nextStatus : String
  reviewComments : List Json := []
  auditDraw : AuditDraw
  outboxDraw : OutboxDraw

/-- `Permit lifecycle transition rejected: …` -/
def transitionRejected (reason : String) : JsError :=
  newError ("Permit lifecycle transition rejected: " ++ reason)

/-- The guards on single edges of the lifecycle.
SOURCE: packages/permits/src/index.js:75-85 -/
def permitGuard (permitPackage : StagedPermit) (next : PermitStatus) (reviewComments : List Json) :
    Except JsError Unit :=
  if next = .readyForSubmission ∧ includesFalse permitPackage.requiredFormsChecklist then
    .error (transitionRejected "required forms incomplete.")
  else if next = .simulatedSubmitted ∧ permitPackage.submissionPackageRefs.length = 0 then
    .error (transitionRejected "submission package missing.")
  else if next = .reviewerCommentsReceived ∧ reviewComments.length = 0 then
    .error (transitionRejected "review comments are required.")
  else .ok ()

/-- Whether a state counts as a submission.
SOURCE: packages/permits/src/index.js:92 -/
def PermitStatus.isSubmission (status : PermitStatus) : Bool :=
  status = .simulatedSubmitted || status = .simulatedResubmitted

/-- The package after a transition.
SOURCE: packages/permits/src/index.js:87-95 -/
def movedPermit (permitPackage : StagedPermit) (next : PermitStatus) (reviewComments : List Json) :
    StagedPermit :=
  { permitPackage with
    status := next
    reviewComments :=
      if reviewComments.length > 0 then reviewComments else permitPackage.reviewComments
    submissionCycles :=
      if next.isSubmission then permitPackage.submissionCycles.add (.finite 1)
      else permitPackage.submissionCycles }

/-- What `transitionPermitPackage` returns. -/
structure PermitMoved where
  permitPackage : StagedPermit
  auditEvent : AuditEvent
  outboxEvent : OutboxEvent

section

variable (P : Platform)

/-- The state a package is asked to move to, if the lifecycle lets it.
SOURCE: packages/permits/src/index.js:64-85 -/
def permitTarget (request : PermitTransition) (permitPackage : StagedPermit) :
    Except JsError (SyntheticSession × PermitStatus) := do
  let session ← assertSessionTenantAccess request.session permitPackage.tenantId
  assertProjectAccess session permitPackage.projectId
  match permitStatus? request.nextStatus with
  | none => throw (unknownPermitStatus request.nextStatus)
  | some next =>
    if next ∉ allowedPermitTransitions permitPackage.status then
      throw (transitionRejected (permitPackage.status.text ++ " -> " ++ request.nextStatus))
    permitGuard permitPackage next request.reviewComments
    return (session, next)

/-- `transitionPermitPackage`
SOURCE: packages/permits/src/index.js:63-119 -/
def transitionPermitPackage (request : PermitTransition) (permitPackage : StagedPermit) :
    Except JsError PermitMoved := do
  let target ← permitTarget request permitPackage
  let auditEvent ← createAuditEvent P {
    tenantId := permitPackage.tenantId
    actorType := some "user"
    actorId := some target.1.userId
    action := "permit.lifecycle.transitioned"
    resourceType := "permit_package"
    resourceId := permitPackage.id
    beforeStateRef := .string permitPackage.status.text
    afterStateRef := .string target.2.text } request.auditDraw
  let outboxEvent ← createOutboxEvent {
    eventType := "permit.lifecycle.transitioned"
    aggregateType := "permit_package"
    aggregateId := permitPackage.id
    tenantId := some permitPackage.tenantId
    payload := some (.object [("nextStatus", .string target.2.text)]) } request.outboxDraw
  return {
    permitPackage := movedPermit permitPackage target.2 request.reviewComments
    auditEvent := auditEvent
    outboxEvent := outboxEvent }

/-- A package that is asked for one transition after the other; a call that throws leaves the
package as it was. -/
def permits : Object StagedPermit PermitTransition (Except JsError PermitMoved) where
  call request permitPackage :=
    match transitionPermitPackage P request permitPackage with
    | .ok moved => (.ok moved, moved.permitPackage)
    | .error error => (.error error, permitPackage)

end

end Xygo.Model
