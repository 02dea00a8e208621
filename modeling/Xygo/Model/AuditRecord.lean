import Xygo.Model.Audit
import Xygo.Model.Input

/-!
# Audit events as stored objects

`packages/audit/src/foundation.js` on objects with any JSON values under the fields of an audit
event, as a verifier finds them in storage: `createAuditEvent` and `verifyAuditChain` with what
they make of a field that is absent, `null` or of another type. `Model/Audit.lean` has the events
whose fields have the types the writers give them; `verify_record` relates the two.
-/

set_option autoImplicit false

namespace Xygo.Model

/-- The fields of an audit event.
SOURCE: packages/audit/src/foundation.js:35-69 -/
inductive AuditField
  | eventId
  | tenantId
  | actorType
  | actorId
  | action
  | resourceType
  | resourceId
  | beforeStateRef
  | afterStateRef
  | correlationId
  | requestId
  | schemaVersion
  | staged
  | timestamp
  | previousHash
  | eventHash
  | signature
  deriving DecidableEq, Repr

/-- The name of a field. -/
def AuditField.name : AuditField → String
  | .eventId => "eventId"
  | .tenantId => "tenantId"
  | .actorType => "actorType"
  | .actorId => "actorId"
  | .action => "action"
  | .resourceType => "resourceType"
  | .resourceId => "resourceId"
  | .beforeStateRef => "beforeStateRef"
  | .afterStateRef => "afterStateRef"
  | .correlationId => "correlationId"
  | .requestId => "requestId"
  | .schemaVersion => "schemaVersion"
  | .staged => "staged"
  | .timestamp => "timestamp"
  | .previousHash => "previousHash"
  | .eventHash => "eventHash"
  | .signature => "signature"

/-- An object with these fields; one that is absent (or `undefined`) is `none`. -/
abbrev AuditRecord := AuditField → Option Json

/-- The input of a writer as an object. -/
def AuditInput.record (input : AuditInput) : AuditRecord
  | .eventId => input.eventId.map .string
  | .tenantId => some (.string input.tenantId)
  | .actorType => input.actorType.map .string
  | .actorId => input.actorId.map .string
  | .action => some (.string input.action)
  | .resourceType => some (.string input.resourceType)
  | .resourceId => some (.string input.resourceId)
  | .beforeStateRef => some input.beforeStateRef
  | .afterStateRef => some input.afterStateRef
  | .correlationId => input.correlationId.map .string
  | .requestId => input.requestId.map .string
  | .timestamp => input.timestamp.map .string
  | .previousHash => some (.ofOption input.previousHash)
  | .schemaVersion | .staged | .eventHash | .signature => none

/-- A stored event as an object. -/
def AuditEvent.record (event : AuditEvent) : AuditRecord
  | .eventId => event.eventId.map .string
  | .tenantId => some (.string event.tenantId)
  | .actorType => event.actorType.map .string
  | .actorId => event.actorId.map .string
  | .action => some (.string event.action)
  | .resourceType => some (.string event.resourceType)
  | .resourceId => some (.string event.resourceId)
  | .beforeStateRef => some event.beforeStateRef
  | .afterStateRef => some event.afterStateRef
  | .correlationId => event.correlationId.map .string
  | .requestId => event.requestId.map .string
  | .schemaVersion => some event.schemaVersion
  | .staged => some event.staged
  | .timestamp => event.timestamp.map .string
  | .previousHash => some (.ofOption event.previousHash)
  | .eventHash => some (.string event.eventHash)
  | .signature => event.signature.map .string

/-- `value ?? fallback` -/
def nullish (value : Option Json) (fallback : Json) : Json :=
  match value with
  | none | some .null => fallback
  | some own => own

/-- `a === b` on fields of two objects: no object is the same as another one. -/
def strictEqual : Option Json → Option Json → Bool
  | none, none => true
  | some .null, some .null => true
  | some (.bool a), some (.bool b) => a = b
  | some (.number a), some (.number b) => a = b
  | some (.string a), some (.string b) => a = b
  | _, _ => false

/-- The fields `createAuditEvent` demands.
SOURCE: packages/audit/src/foundation.js:31-33 -/
def requiredFields : List AuditField := [.tenantId, .action, .resourceType, .resourceId]

/-- The fields an event is hashed over, in the order of `{ ...baseEvent, previousHash }`.
SOURCE: packages/audit/src/foundation.js:35-55 -/
def hashedFields : List AuditField := [
  .eventId, .tenantId, .actorType, .actorId, .action, .resourceType, .resourceId, .beforeStateRef,
  .afterStateRef, .correlationId, .requestId, .schemaVersion, .staged, .timestamp, .previousHash]

/-- The value of a field of the new event.
SOURCE: packages/audit/src/foundation.js:35-52 -/
def eventValue (input : AuditRecord) (draw : AuditDraw) : AuditField → Json
  | .eventId => nullish (input .eventId) (.string draw.eventId)
  | .tenantId => (input .tenantId).getD .null
  | .actorType => nullish (input .actorType) (.string "system")
  | .actorId => nullish (input .actorId) (.string "unknown")
  | .action => (input .action).getD .null
  | .resourceType => (input .resourceType).getD .null
  | .resourceId => (input .resourceId).getD .null
  | .beforeStateRef => nullish (input .beforeStateRef) .null
  | .afterStateRef => nullish (input .afterStateRef) .null
  | .correlationId => nullish (input .correlationId) (.string draw.correlationId)
  | .requestId => nullish (input .requestId) (.string draw.requestId)
  | .schemaVersion => .number "1"
  | .staged => .bool true
  | .timestamp => nullish (input .timestamp) (.string draw.timestamp)
  | .previousHash => nullish (input .previousHash) .null
  | .eventHash | .signature => .null

/-- The content the new event is hashed over. -/
def recordContent (input : AuditRecord) (draw : AuditDraw) : Json :=
  .object (hashedFields.map fun field => (field.name, eventValue input draw field))

/-- The answer of `verifyAuditChain`. -/
inductive RecordVerdict
  | valid
  | invalid (reason : AuditReason) (eventId : Option Json)

/-- The answer on events of the writers. -/
def AuditVerdict.record : AuditVerdict → RecordVerdict
  | .valid => .valid
  | .invalid reason eventId => .invalid reason (eventId.map .string)

section

variable (P : Platform)

/-- The hash of the new event.
SOURCE: packages/audit/src/foundation.js:52-55 -/
def recordHash (input : AuditRecord) (draw : AuditDraw) : String :=
  P.sha256 (stableSerialize (recordContent input draw))

/-- `createAuditEvent`
SOURCE: packages/audit/src/foundation.js:30-73 -/
def createAuditRecord (input : AuditRecord) (signingKey : Option String) (draw : AuditDraw) :
    Except JsError AuditRecord :=
  if requiredFields.all fun field => (input field).any Json.truthy then
    .ok fun
      | .eventHash => some (.string (recordHash P input draw))
      | .signature => (usableKey signingKey).map fun key =>
        .string (P.hmacSha256 key (recordHash P input draw))
      | field => some (eventValue input draw field)
  else .error incompleteAuditEvent

/-- The checks of `verifyAuditChain` on one event and what was recomputed from it.
SOURCE: packages/audit/src/foundation.js:89-104 -/
def recordMismatch (signingKey : Option String) (event recalculated : AuditRecord) :
    Option AuditReason :=
  if !strictEqual (recalculated .eventHash) (event .eventHash) then some .hashMismatch
  else if (usableKey signingKey).isNone then none
  else if !(event .signature).any Json.truthy then some .signatureMissing
  else if !strictEqual (recalculated .signature) (event .signature) then some .signatureMismatch
  else none

/-- `verifyAuditChain` from a previous hash on; `draws` is what each recomputation would draw.
SOURCE: packages/audit/src/foundation.js:75-112 -/
def verifyRecords (signingKey : Option String) :
    (draws : ℕ → AuditDraw) → Option Json → List AuditRecord → Except JsError RecordVerdict
  | _, _, [] => .ok .valid
  | draws, previousHash, event :: events => do
    let recalculated ← createAuditRecord P (Function.update event .previousHash previousHash)
      signingKey (draws 0)
    match recordMismatch signingKey event recalculated with
    | some reason => return .invalid reason (event .eventId)
    | none => verifyRecords signingKey (fun n => draws (n + 1)) (event .eventHash) events

/-- `verifyAuditChain`
SOURCE: packages/audit/src/foundation.js:75-112 -/
def verifyAuditRecords (signingKey : Option String) (draws : ℕ → AuditDraw)
    (events : List AuditRecord) : Except JsError RecordVerdict :=
  verifyRecords P signingKey draws (some .null) events

end

end Xygo.Model
