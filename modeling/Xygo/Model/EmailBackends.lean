import Xygo.Computation.Transactions
import Xygo.Model.Repository

/-!
# Finalizing deliveries in a file and in SQLite

`finalizeEmailDelivery` and `applyEmailWebhook` of `apps/api/src/repositories/file.js` and
`sqlite.js`, beside those of the memory repository. The file repository reads its file, changes
what it read, and writes the file once at the end. The SQLite repository works in a transaction
that it rolls back where something throws.
-/

set_option autoImplicit false

namespace Xygo.Model

open Xygo.Computation

/-- A call of one of the two operations, with its evidence options. -/
inductive FinalizationCall
  | finalize (delivery : EmailDelivery) (evidence : Evidence)
  | webhook (webhookId : String) (event : WebhookEvent) (evidence : EmailDelivery → Evidence)

/-- What a call returns. -/
inductive FinalizationResult
  | finalized (delivery : EmailDelivery)
  | webhook (result : WebhookResult)

section

variable (P : Platform)

/-- The operations of the memory repository. -/
def memoryFinalizations :
    Object MemoryRepository FinalizationCall (Except JsError FinalizationResult) where
  call
    | .finalize delivery evidence =>
      Effect.exec (.finalized <$> finalizeEmailDelivery delivery evidence)
    | .webhook webhookId event evidence =>
      Effect.exec (.webhook <$> applyEmailWebhook P webhookId event evidence)

end

/-! ### The file repository -/

/-- What the file holds of deliveries and their evidence, as `readState` returns it. -/
structure FileEmailState where
  emailDeliveries : List EmailDelivery := []
  emailSuppressions : List EmailSuppression := []
  emailWebhookEvents : List WebhookRecord := []
  auditEvents : List AuditEvent := []

namespace FileEmailState

/-- `replaceById` on the deliveries.
SOURCE: apps/api/src/repositories/file.js:61-63 -/
def replaceDelivery (state : FileEmailState) (delivery : EmailDelivery) : FileEmailState :=
  { state with emailDeliveries := state.emailDeliveries.map fun item =>
      if item.id = delivery.id then delivery else item }

/-- The hash of the tenant's last audit event.
SOURCE: apps/api/src/repositories/file.js:355, 381 -/
def previousHash (state : FileEmailState) (tenantId : String) : Option String :=
  (state.auditEvents.filter fun event => event.tenantId = tenantId).getLast?.map AuditEvent.eventHash

/-- The state with the evidence, unless an event with its id is there.
SOURCE: apps/api/src/repositories/file.js:357, 383 -/
def pushEvidence (state : FileEmailState) (evidence : Option AuditEvent) : FileEmailState :=
  match evidence with
  | none => state
  | some event =>
    if state.auditEvents.any fun stored => stored.eventId = event.eventId then state
    else { state with auditEvents := state.auditEvents ++ [event] }

/-- The state with a suppression, if there is one, merged with that of its tenant and recipient.
SOURCE: apps/api/src/repositories/file.js:371-380 -/
def mergeSuppression (state : FileEmailState) (incoming : Option EmailSuppression) :
    Except JsError FileEmailState := do
  match incoming with
  | none => return state
  | some incoming =>
    let existing := state.emailSuppressions.find? fun item =>
      item.tenantId = incoming.tenantId && item.normalizedRecipient = incoming.normalizedRecipient
    let merged ← mergeEmailSuppression existing incoming
    match existing with
    | some existing =>
      return { state with emailSuppressions := state.emailSuppressions.map fun item =>
          if item.id = existing.id then merged else item }
    | none => return { state with emailSuppressions := state.emailSuppressions ++ [merged] }

/-- The state with a processed webhook.
SOURCE: apps/api/src/repositories/file.js:381 -/
def recordWebhook (state : FileEmailState) (record : WebhookRecord) : FileEmailState :=
  { state with emailWebhookEvents := state.emailWebhookEvents ++ [record] }

end FileEmailState

/-- An operation over the file. -/
abbrev FileM : Type → Type := Effect JsError FileEmailState

namespace FileRepository

section

variable (P : Platform)

/-- `finalizeEmailDelivery`
SOURCE: apps/api/src/repositories/file.js:350-360 -/
def finalizeEmailDelivery (delivery : EmailDelivery) (evidence : Evidence) :
    FileM EmailDelivery := do
  let state ← get
  if !state.emailDeliveries.any fun item => item.id = delivery.id then throw deliveryNotFound
  let replaced := state.replaceDelivery delivery
  let event ← evidence.resolve (replaced.previousHash delivery.tenantId)
  set (replaced.pushEvidence event)
  return delivery

/-- `applyEmailWebhook`
SOURCE: apps/api/src/repositories/file.js:361-387 -/
def applyEmailWebhook (webhookId : String) (event : WebhookEvent)
    (evidence : EmailDelivery → Evidence) : FileM WebhookResult := do
  let state ← get
  if state.emailWebhookEvents.any fun item => item.id = webhookId then return ⟨true, none⟩
  match state.emailDeliveries.find? fun item => item.hasMessage event.emailId with
  | none => return ⟨false, none⟩
  | some delivery =>
    let updated ← applyEmailWebhookStatus P delivery event
    let replaced := state.replaceDelivery updated
    let incoming ← createEmailSuppressionFromWebhook P updated event webhookId
    let merged ← replaced.mergeSuppression incoming
    let recorded := merged.recordWebhook ⟨webhookId, updated.tenantId, event⟩
    let auditEvent ← (evidence updated).resolve (recorded.previousHash updated.tenantId)
    set (recorded.pushEvidence auditEvent)
    return ⟨false, some updated⟩

/-- The operations of the file repository. -/
def finalizations :
    Object FileEmailState FinalizationCall (Except JsError FinalizationResult) where
  call
    | .finalize delivery evidence =>
      Effect.exec (.finalized <$> finalizeEmailDelivery delivery evidence)
    | .webhook webhookId event evidence =>
      Effect.exec (.webhook <$> applyEmailWebhook P webhookId event evidence)

end

end FileRepository

/-! ### The SQLite repository -/

/-- A row of `email_deliveries`: the columns a statement here reads beside the record. -/
structure DeliveryRow where
  id : String
  tenantId : String
  providerMessageId : Option String
  payload : EmailDelivery

/-- A row of `email_suppressions`. -/
structure SuppressionRow where
  id : String
  tenantId : String
  normalizedRecipient : String
  payload : EmailSuppression

/-- The tables of deliveries and their evidence, in the order of their row ids.
SOURCE: infrastructure/migrations/0001_staged_api.sql:49-53, 101-151 -/
structure EmailTables where
  emailDeliveries : List DeliveryRow := []
  emailSuppressions : List SuppressionRow := []
  emailWebhookEvents : List WebhookRecord := []
  auditEvents : List AuditEvent := []

/-- Statements on the tables. -/
abbrev EmailTablesM : Type → Type := Effect JsError EmailTables

/-- An operation over the connection of the SQLite repository. -/
abbrev SqliteEmailM : Type → Type := Effect JsError (Transactional EmailTables)

/-- The error of a statement that would break a unique column. -/
def uniqueConstraint (column : String) : JsError :=
  newError ("UNIQUE constraint failed: " ++ column)

/-- The error of `BEGIN` inside a transaction. -/
def nestedTransaction : JsError := newError "cannot start a transaction within a transaction"

namespace SqliteRepository

section

variable (P : Platform)

/-- The statement of `saveEmailDelivery`.
SOURCE: apps/api/src/repositories/sqlite.js:454-464 -/
def saveEmailDelivery (delivery : EmailDelivery) : EmailTablesM Unit := do
  let t ← get
  if !t.emailDeliveries.any fun row => row.id = delivery.id && row.tenantId = delivery.tenantId then
    throw deliveryNotFound
  if t.emailDeliveries.any fun row => row.id ≠ delivery.id && row.providerMessageId.isSome &&
      row.providerMessageId = delivery.providerMessageId then
    throw (uniqueConstraint "email_deliveries.provider_message_id")
  set { t with emailDeliveries := t.emailDeliveries.map fun (row : DeliveryRow) =>
      if row.id = delivery.id ∧ row.tenantId = delivery.tenantId then
        { row with providerMessageId := delivery.providerMessageId, payload := delivery }
      else row }

/-- The last audit event of a tenant.
SOURCE: apps/api/src/repositories/sqlite.js:469, 508 -/
def previousHash (t : EmailTables) (tenantId : String) : Option String :=
  (t.auditEvents.filter fun event => event.tenantId = tenantId).getLast?.map AuditEvent.eventHash

/-- `INSERT OR IGNORE INTO audit_events`
SOURCE: apps/api/src/repositories/sqlite.js:471-472, 510-511 -/
def insertEvidence (evidence : Option AuditEvent) : EmailTablesM Unit := do
  let t ← get
  match evidence with
  | none => return ()
  | some event =>
    if t.auditEvents.any fun stored => stored.eventId.isSome && stored.eventId = event.eventId then
      return ()
    set { t with auditEvents := t.auditEvents ++ [event] }

/-- The statements of `finalizeEmailDelivery` between `BEGIN IMMEDIATE` and `COMMIT`.
SOURCE: apps/api/src/repositories/sqlite.js:468-472 -/
def finalizeStatements (delivery : EmailDelivery) (evidence : Evidence) : EmailTablesM Unit := do
  saveEmailDelivery delivery
  let t ← get
  let event ← evidence.resolve (previousHash t delivery.tenantId)
  insertEvidence event

/-- `finalizeEmailDelivery`
SOURCE: apps/api/src/repositories/sqlite.js:465-478 -/
def finalizeEmailDelivery (delivery : EmailDelivery) (evidence : Evidence) :
    SqliteEmailM EmailDelivery :=
  Transactional.transaction nestedTransaction do
    Transactional.statements (finalizeStatements delivery evidence)
    Transactional.commit
    return delivery

/-- `getEmailSuppression`
SOURCE: apps/api/src/repositories/sqlite.js:444-448 -/
def getEmailSuppression (t : EmailTables) (tenantId recipientEmail : String) :
    Except JsError (Option EmailSuppression) := do
  let recipient ← normalizeEmailRecipient P recipientEmail
  return (t.emailSuppressions.find? fun row =>
    row.tenantId = tenantId && row.normalizedRecipient = recipient).map SuppressionRow.payload

/-- `INSERT INTO email_suppressions … ON CONFLICT (tenant_id, normalized_recipient) DO UPDATE`
SOURCE: apps/api/src/repositories/sqlite.js:496-502 -/
def upsertSuppression (suppression : EmailSuppression) : EmailTablesM Unit := do
  let t ← get
  if t.emailSuppressions.any fun row => row.tenantId = suppression.tenantId &&
      row.normalizedRecipient = suppression.normalizedRecipient then
    set { t with emailSuppressions := t.emailSuppressions.map fun (row : SuppressionRow) =>
        if row.tenantId = suppression.tenantId ∧
            row.normalizedRecipient = suppression.normalizedRecipient then
          { row with payload := suppression }
        else row }
  else
    if t.emailSuppressions.any fun row => row.id = suppression.id then
      throw (uniqueConstraint "email_suppressions.id")
    let row : SuppressionRow :=
      ⟨suppression.id, suppression.tenantId, suppression.normalizedRecipient, suppression⟩
    set { t with emailSuppressions := t.emailSuppressions ++ [row] }

/-- The statements of `applyEmailWebhook` on a delivery, up to `COMMIT`.
SOURCE: apps/api/src/repositories/sqlite.js:490-511 -/
def webhookStatements (webhookId : String) (event : WebhookEvent)
    (evidence : EmailDelivery → Evidence) (delivery : EmailDelivery) :
    EmailTablesM EmailDelivery := do
  let updated ← applyEmailWebhookStatus P delivery event
  saveEmailDelivery updated
  let incoming ← createEmailSuppressionFromWebhook P updated event webhookId
  match incoming with
  | none => pure ()
  | some incoming =>
    let t ← get
    let existing ← getEmailSuppression P t incoming.tenantId incoming.normalizedRecipient
    let suppression ← mergeEmailSuppression existing incoming
    upsertSuppression suppression
  modify fun t => { t with
    emailWebhookEvents := t.emailWebhookEvents ++ [⟨webhookId, updated.tenantId, event⟩] }
  let t ← get
  let auditEvent ← (evidence updated).resolve (previousHash t updated.tenantId)
  insertEvidence auditEvent
  return updated

/-- Whether the webhook was processed, and the delivery of its message.
SOURCE: apps/api/src/repositories/sqlite.js:483, 487 -/
def selectWebhook (webhookId : String) (event : WebhookEvent) :
    EmailTablesM (Bool × Option EmailDelivery) := do
  let t ← get
  return (t.emailWebhookEvents.any fun row => row.id = webhookId,
    (t.emailDeliveries.find? fun row =>
      event.emailId.isSome && row.providerMessageId = event.emailId).map DeliveryRow.payload)

/-- `applyEmailWebhook`
SOURCE: apps/api/src/repositories/sqlite.js:479-520 -/
def applyEmailWebhook (webhookId : String) (event : WebhookEvent)
    (evidence : EmailDelivery → Evidence) : SqliteEmailM WebhookResult :=
  Transactional.transaction nestedTransaction do
    let selected ← Transactional.statements (selectWebhook webhookId event)
    if selected.1 then
      Transactional.commit
      return ⟨true, none⟩
    match selected.2 with
    | none =>
      Transactional.rollback
      return ⟨false, none⟩
    | some delivery =>
      let updated ← Transactional.statements (webhookStatements P webhookId event evidence delivery)
      Transactional.commit
      return ⟨false, some updated⟩

/-- The operations of the SQLite repository. -/
def finalizations :
    Object (Transactional EmailTables) FinalizationCall (Except JsError FinalizationResult) where
  call
    | .finalize delivery evidence =>
      Effect.exec (.finalized <$> finalizeEmailDelivery delivery evidence)
    | .webhook webhookId event evidence =>
      Effect.exec (.webhook <$> applyEmailWebhook P webhookId event evidence)

end

end SqliteRepository

end Xygo.Model
