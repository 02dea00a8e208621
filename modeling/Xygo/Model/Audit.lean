import Xygo.Model.IsoTime
import Xygo.Model.Json

/-!
# The audit chain

`packages/audit/src/foundation.js`: an audit event carries the hash of its own content and
of the hash of the event before it, and `verifyAuditChain` recomputes both along a
tenant's events. The hash functions belong to the platform.
-/

set_option autoImplicit false

namespace Xygo.Model

/-- A stored audit event. A field the source fills with a default is `none` where a stored
event lacks it; the four required ones are empty there.
SOURCE: packages/audit/src/foundation.js:35-70 -/
structure AuditEvent where
  eventId : Option String
  tenantId : String
  actorType : Option String
  actorId : Option String
  action : String
  resourceType : String
  resourceId : String
  beforeStateRef : Json
  afterStateRef : Json
  correlationId : Option String
  requestId : Option String
  schemaVersion : Json
  staged : Json
  timestamp : Option String
  previousHash : Option String
  eventHash : String
  signature : Option String

/-- The input of `createAuditEvent`. -/
structure AuditInput where
  eventId : Option String := none
  tenantId : String
  actorType : Option String := none
  actorId : Option String := none
  action : String
  resourceType : String
  resourceId : String
  beforeStateRef : Json := .null
  afterStateRef : Json := .null
  correlationId : Option String := none
  requestId : Option String := none
  timestamp : Option String := none
  previousHash : Option String := none
  signingKey : Option String := none

/-- What `createAuditEvent` draws where the input has no value: three random UUIDs and the
text of the current time. -/
structure AuditDraw where
  eventId : String
  correlationId : String
  requestId : String
  timestamp : String
  deriving DecidableEq, Repr

/-- The error of an audit event without one of its four required fields.
SOURCE: packages/audit/src/foundation.js:31-33 -/
def incompleteAuditEvent : JsError :=
  newError "Audit events require tenantId, action, resourceType, and resourceId."

/-- A value of a field that may be `null`. -/
def Json.ofOption : Option String → Json
  | some value => .string value
  | none => .null

/-- The content an audit event is hashed over.
SOURCE: packages/audit/src/foundation.js:35-55 -/
def auditContent (input : AuditInput) (draw : AuditDraw) : Json :=
  .object [
    ("eventId", .string (input.eventId.getD draw.eventId)),
    ("tenantId", .string input.tenantId),
    ("actorType", .string (input.actorType.getD "system")),
    ("actorId", .string (input.actorId.getD "unknown")),
    ("action", .string input.action),
    ("resourceType", .string input.resourceType),
    ("resourceId", .string input.resourceId),
    ("beforeStateRef", input.beforeStateRef),
    ("afterStateRef", input.afterStateRef),
    ("correlationId", .string (input.correlationId.getD draw.correlationId)),
    ("requestId", .string (input.requestId.getD draw.requestId)),
    ("schemaVersion", .number "1"),
    ("staged", .bool true),
    ("timestamp", .string (input.timestamp.getD draw.timestamp)),
    ("previousHash", .ofOption input.previousHash)]

/-- A signing key that is truthy. -/
def usableKey (signingKey : Option String) : Option String := signingKey.filter (· ≠ "")

section

variable (P : Platform)

/-- The hash of an audit event.
SOURCE: packages/audit/src/foundation.js:52-55 -/
def auditHash (input : AuditInput) (draw : AuditDraw) : String :=
  P.sha256 (stableSerialize (auditContent input draw))

/-- `createAuditEvent`
SOURCE: packages/audit/src/foundation.js:30-73 -/
def createAuditEvent (input : AuditInput) (draw : AuditDraw) : Except JsError AuditEvent :=
  if input.tenantId = "" ∨ input.action = "" ∨ input.resourceType = "" ∨ input.resourceId = "" then
    .error incompleteAuditEvent
  else
    .ok {
      eventId := some (input.eventId.getD draw.eventId)
      tenantId := input.tenantId
      actorType := some (input.actorType.getD "system")
      actorId := some (input.actorId.getD "unknown")
      action := input.action
      resourceType := input.resourceType
      resourceId := input.resourceId
      beforeStateRef := input.beforeStateRef
      afterStateRef := input.afterStateRef
      correlationId := some (input.correlationId.getD draw.correlationId)
      requestId := some (input.requestId.getD draw.requestId)
      schemaVersion := .number "1"
      staged := .bool true
      timestamp := some (input.timestamp.getD draw.timestamp)
      previousHash := input.previousHash
      eventHash := auditHash P input draw
      signature := (usableKey input.signingKey).map fun key =>
        P.hmacSha256 key (auditHash P input draw) }

/-- The input from which `verifyAuditChain` recomputes an event: its own fields, after the
hash of the event before it.
SOURCE: packages/audit/src/foundation.js:79-87 -/
def AuditEvent.recalculation (event : AuditEvent) (previousHash signingKey : Option String) :
    AuditInput where
  eventId := event.eventId
  tenantId := event.tenantId
  actorType := event.actorType
  actorId := event.actorId
  action := event.action
  resourceType := event.resourceType
  resourceId := event.resourceId
  beforeStateRef := event.beforeStateRef
  afterStateRef := event.afterStateRef
  correlationId := event.correlationId
  requestId := event.requestId
  timestamp := event.timestamp
  previousHash := previousHash
  signingKey := signingKey

/-- Why a chain is not valid. -/
inductive AuditReason
  | hashMismatch
  | signatureMissing
  | signatureMismatch
  deriving DecidableEq, Repr

/-- The answer of `verifyAuditChain`: valid, or the first event that is not as it should
be. -/
inductive AuditVerdict
  | valid
  | invalid (reason : AuditReason) (eventId : Option String)
  deriving DecidableEq, Repr

/-- The checks of `verifyAuditChain` on one event and what was recomputed from it.
SOURCE: packages/audit/src/foundation.js:89-104 -/
def auditMismatch (signingKey : Option String) (event recalculated : AuditEvent) :
    Option AuditReason :=
  if recalculated.eventHash ≠ event.eventHash then some .hashMismatch
  else
    match usableKey signingKey with
    | none => none
    | some _ =>
      match usableKey event.signature with
      | none => some .signatureMissing
      | some _ => if recalculated.signature ≠ event.signature then some .signatureMismatch else none

/-- `verifyAuditChain` from a previous hash on; `draws` is what each recomputation would
draw.
SOURCE: packages/audit/src/foundation.js:75-112 -/
def verifyFrom (signingKey : Option String) :
    (draws : Nat → AuditDraw) → Option String → List AuditEvent → Except JsError AuditVerdict
  | _, _, [] => .ok .valid
  | draws, previousHash, event :: events => do
    let recalculated ← createAuditEvent P (event.recalculation previousHash signingKey) (draws 0)
    match auditMismatch signingKey event recalculated with
    | some reason => return .invalid reason event.eventId
    | none => verifyFrom signingKey (fun n => draws (n + 1)) (some event.eventHash) events

/-- `verifyAuditChain`
SOURCE: packages/audit/src/foundation.js:75-112 -/
def verifyAuditChain (signingKey : Option String) (draws : Nat → AuditDraw)
    (events : List AuditEvent) : Except JsError AuditVerdict :=
  verifyFrom P signingKey draws none events

end

end Xygo.Model
