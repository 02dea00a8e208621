import Xygo.Analysis.EmailSpec
import Xygo.Analysis.FindingDispositions
import Xygo.Analysis.SuppressionMerge
import Xygo.Model.FileRepository

/-!
# The operations of the file repository beside those of the memory repository

The lists of the file are the records of the maps, in the same order. One lemma for each operation:
it answers the same on both; where it returns, the file holds what the memory repository holds then,
and where it throws, the file is left as it is, which the memory repository does not promise.

The memory repository finds a suppression under the tenant and the recipient joined with a colon,
and the file repository replaces the one with the same id, a hash of the two. The suppressions agree
as long as no tenant of a delivery has a colon in its id and the hash has no collisions.
-/

set_option autoImplicit false

namespace Xygo.Analysis

open Xygo.Computation Xygo.Model

/-! ### The state of the file -/

/-- What the file says of the deliveries and their evidence. -/
def emailsOf (r : MemoryRepository) : FileEmailState where
  emailDeliveries := r.emailDeliveryStore.values
  emailSuppressions := r.emailSuppressionStore.values
  emailWebhookEvents := r.emailWebhookEventStore.values
  auditEvents := r.auditEventStore

/-- The state of the file that holds what a memory repository holds. -/
def stateOf (r : MemoryRepository) : RepositoryState where
  toFileEmailState := emailsOf r
  projects := r.projectStore.values
  issues := r.issueStore.values
  rfis := r.rfiStore.values
  permitPackages := r.permitStore.values
  reviewSessions := r.reviewSessionStore.values
  aiReviewRuns := r.aiReviewRunStore.values
  aiFindings := r.aiFindingStore.values
  platformBlueprints := r.platformBlueprintStore.values
  fieldReports := r.fieldReportStore.values
  fileRecords := r.fileRecordStore.values

variable {α : Type} {seed : RepositoryState} {r : MemoryRepository}
  {content : Option RepositoryState}

/-- An operation of the file repository does what one of the memory repository does on `r`: the
same answer, and the state that goes with it; where it throws, nothing is written. -/
def Matches (seed : RepositoryState) (r : MemoryRepository) (operation : FileRepositoryM α)
    (reference : RepositoryM α) : Prop :=
  ∀ content : Option RepositoryState, content.getD seed = stateOf r →
    match Effect.exec reference r with
    | (.ok answer, t) => ∃ written, Effect.exec operation ⟨content, none⟩ =
        (.ok answer, ⟨content, written⟩) ∧ written.getD (content.getD seed) = stateOf t
    | (.error error, _) =>
      Effect.exec operation ⟨content, none⟩ = (.error error, ⟨content, none⟩)

/-- INTERNAL: an answer may be given another form. -/
theorem Matches.map {β : Type} {operation : FileRepositoryM α} {reference : RepositoryM α}
    (h : Matches seed r operation reference) (f : α → β) :
    Matches seed r (f <$> operation) (f <$> reference) := by
  intro content hcontent
  have hboth := h content hcontent
  rw [Effect.exec_map, Effect.exec_map]
  rcases hexec : Effect.exec reference r with ⟨error | answer, t⟩
  · rw [hexec] at hboth
    rw [hboth]
  · rw [hexec] at hboth
    obtain ⟨written, hoperation, hstate⟩ := hboth
    rw [hoperation]
    exact ⟨written, rfl, hstate⟩

/-- INTERNAL: operations that both throw. -/
theorem Matches.throws {operation : FileRepositoryM α} {reference : RepositoryM α}
    (error : JsError) (t : MemoryRepository)
    (hreference : Effect.exec reference r = (.error error, t))
    (hoperation : ∀ content : Option RepositoryState, content.getD seed = stateOf r →
      Effect.exec operation ⟨content, none⟩ = (.error error, ⟨content, none⟩)) :
    Matches seed r operation reference := by
  intro content hcontent
  rw [hreference]
  exact hoperation content hcontent

/-- INTERNAL: operations that both return, and the one writes what the other leaves. -/
theorem Matches.writes {operation : FileRepositoryM α} {reference : RepositoryM α} (answer : α)
    (t : MemoryRepository) (hreference : Effect.exec reference r = (.ok answer, t))
    (hoperation : ∀ content : Option RepositoryState, content.getD seed = stateOf r →
      Effect.exec operation ⟨content, none⟩ = (.ok answer, ⟨content, some (stateOf t)⟩)) :
    Matches seed r operation reference := by
  intro content hcontent
  rw [hreference]
  exact ⟨some (stateOf t), hoperation content hcontent, rfl⟩

/-- INTERNAL: operations that both return, where there is nothing to write. -/
theorem Matches.returns {operation : FileRepositoryM α} {reference : RepositoryM α} (answer : α)
    (hreference : Effect.exec reference r = (.ok answer, r))
    (hoperation : ∀ content : Option RepositoryState, content.getD seed = stateOf r →
      Effect.exec operation ⟨content, none⟩ = (.ok answer, ⟨content, none⟩)) :
    Matches seed r operation reference := by
  intro content hcontent
  rw [hreference]
  exact ⟨none, hoperation content hcontent, hcontent⟩

@[simp] theorem exec_readState :
    Effect.exec (FileStore.readState seed) ⟨content, none⟩ =
      (.ok (content.getD seed), ⟨content, none⟩) := rfl

@[simp] theorem exec_writeState (state : RepositoryState) (access : FileAccess) :
    Effect.exec (FileStore.writeState state) access =
      (.ok (), { access with written := some state }) := rfl

/-! ### The lists and the maps -/

section

variable {β : Type} {key : β → String}

/-- A map has a key iff an item of the list has it. -/
theorem hasId_values (t : Table key) (id : String) :
    FileStore.hasId key t.values id = t.has id := by
  unfold FileStore.hasId Table.has Table.get
  rw [Bool.eq_iff_iff, List.any_eq_true, List.find?_isSome]

/-- A record is replaced in the list as it is in the map. -/
theorem values_put_replaced {t : Table key} {v : β} (h : t.has (key v) = true) :
    (t.put v).values = FileStore.replaceById key t.values v :=
  Table.values_put_of_has h

/-- A record with the key of one that is found. -/
theorem has_of_get {t : Table key} {id : String} {v w : β} (h : t.get id = some v)
    (hkey : key w = key v) : t.has (key w) = true := by
  rw [hkey, Table.key_of_get h, Table.has, h]
  rfl

/-- The shape of the creations of the memory repository. -/
def createInTable (table : MemoryRepository → Table key)
    (store : MemoryRepository → Table key → MemoryRepository) (message : String)
    (construct : Except JsError β) : RepositoryM β := do
  let item ← construct
  let r ← get
  if (table r).has (key item) then throw (newError message)
  set (store r ((table r).put item))
  return item

/-- INTERNAL: **the creations.**
SOURCE: apps/api/src/repositories/file.js:81-95 -/
theorem matches_create (table : MemoryRepository → Table key)
    (store : MemoryRepository → Table key → MemoryRepository)
    {items : RepositoryState → List β} {storeItems : RepositoryState → List β → RepositoryState}
    (message : String) (construct : Except JsError β)
    (hitems : items (stateOf r) = (table r).values)
    (hstore : ∀ t : Table key, stateOf (store r t) = storeItems (stateOf r) t.values) :
    Matches seed r (FileStore.createIn seed key items storeItems message construct)
      (createInTable table store message construct) := by
  intro content hcontent
  cases construct with
  | error error => simp [createInTable, FileStore.createIn]
  | ok item =>
    cases hpresent : (table r).has (key item) with
    | true =>
      simp [createInTable, FileStore.createIn, hcontent, hitems, hasId_values, hpresent]
    | false =>
      simp [createInTable, FileStore.createIn, hcontent, hitems, hasId_values, hpresent, hstore,
        Table.values_put_of_not_has hpresent]

end

/-! ### The records -/

/-- INTERNAL: the creations of both repositories, one for one.
SOURCE: apps/api/src/repositories/file.js:81-301 -/
theorem matches_createProject (input : Json) :
    Matches seed r (FileStore.createProject seed input) (MemoryRepository.createProject input) :=
  matches_create MemoryRepository.projectStore
    (fun r t => { r with projectStore := t }) _ _ rfl fun _ => rfl

theorem matches_createIssue (input : Json) :
    Matches seed r (FileStore.createIssue seed input) (MemoryRepository.createIssue input) :=
  matches_create MemoryRepository.issueStore
    (fun r t => { r with issueStore := t }) _ _ rfl fun _ => rfl

theorem matches_createRfi (input : Json) :
    Matches seed r (FileStore.createRfi seed input) (MemoryRepository.createRfi input) :=
  matches_create MemoryRepository.rfiStore
    (fun r t => { r with rfiStore := t }) _ _ rfl fun _ => rfl

theorem matches_createPermitPackage (input : Json) :
    Matches seed r (FileStore.createPermitPackage seed input)
      (MemoryRepository.createPermitPackage input) :=
  matches_create MemoryRepository.permitStore
    (fun r t => { r with permitStore := t }) _ _ rfl fun _ => rfl

theorem matches_createReviewSession (input : Json) :
    Matches seed r (FileStore.createReviewSession seed input)
      (MemoryRepository.createReviewSession input) :=
  matches_create MemoryRepository.reviewSessionStore
    (fun r t => { r with reviewSessionStore := t }) _ _ rfl fun _ => rfl

theorem matches_createAiReviewRun (input : Json) :
    Matches seed r (FileStore.createAiReviewRun seed input)
      (MemoryRepository.createAiReviewRun input) :=
  matches_create MemoryRepository.aiReviewRunStore
    (fun r t => { r with aiReviewRunStore := t }) _ _ rfl fun _ => rfl

theorem matches_createAiFinding (input : Json) :
    Matches seed r (FileStore.createAiFinding seed input)
      (MemoryRepository.createAiFinding input) :=
  matches_create MemoryRepository.aiFindingStore
    (fun r t => { r with aiFindingStore := t }) _ _ rfl fun _ => rfl

theorem matches_createPlatformBlueprint (T : UnicodeTable) (input : Json) :
    Matches seed r (FileStore.createPlatformBlueprint T seed input)
      (MemoryRepository.createPlatformBlueprint T input) :=
  matches_create MemoryRepository.platformBlueprintStore
    (fun r t => { r with platformBlueprintStore := t }) _ _ rfl fun _ => rfl

theorem matches_createFieldReport (input : Json) :
    Matches seed r (FileStore.createFieldReport seed input)
      (MemoryRepository.createFieldReport input) :=
  matches_create MemoryRepository.fieldReportStore
    (fun r t => { r with fieldReportStore := t }) _ _ rfl fun _ => rfl

theorem matches_createFileRecord (fileRecord : FileRecord) :
    Matches seed r (FileStore.createFileRecord seed fileRecord)
      (MemoryRepository.createFileRecord fileRecord) :=
  matches_create MemoryRepository.fileRecordStore
    (fun r t => { r with fileRecordStore := t }) _ _ rfl fun _ => rfl

/-- INTERNAL: a disposition.
SOURCE: apps/api/src/repositories/file.js:217-235 -/
theorem matches_setAiFindingDisposition (findingId : String)
    (nextDisposition relatedIssueId : Json) :
    Matches seed r
      (FileStore.setAiFindingDisposition seed findingId nextDisposition relatedIssueId)
      (MemoryRepository.setAiFindingDisposition findingId nextDisposition relatedIssueId) := by
  have hfind : FileStore.findById AiFinding.id (stateOf r).aiFindings findingId =
      r.aiFindingStore.get findingId := rfl
  cases hfound : r.aiFindingStore.get findingId with
  | none =>
    rw [hfound] at hfind
    apply Matches.throws (newError "AI finding not found.") r
    · simp [MemoryRepository.setAiFindingDisposition, hfound]
    · intro content hcontent
      simp [FileStore.setAiFindingDisposition, hcontent, hfind]
  | some finding =>
    rw [hfound] at hfind
    cases hset : setHumanDisposition finding nextDisposition relatedIssueId with
    | error error =>
      apply Matches.throws error r
      · simp [MemoryRepository.setAiFindingDisposition, hfound, hset]
      · intro content hcontent
        simp [FileStore.setAiFindingDisposition, hcontent, hfind, hset]
    | ok updated =>
      have hid : updated.id = finding.id := by rw [(setHumanDisposition_eq_ok hset).2.2]
      have hput := values_put_replaced (has_of_get hfound hid)
      have hstate : stateOf { r with aiFindingStore := r.aiFindingStore.put updated } =
          { stateOf r with
            aiFindings := FileStore.replaceById AiFinding.id (stateOf r).aiFindings updated } := by
        simp [stateOf, emailsOf, hput]
      apply Matches.writes updated { r with aiFindingStore := r.aiFindingStore.put updated }
      · simp [MemoryRepository.setAiFindingDisposition, hfound, hset]
      · intro content hcontent
        simp [FileStore.setAiFindingDisposition, hcontent, hfind, hset, hstate]

/-- INTERNAL: a report is stored, new or not.
SOURCE: apps/api/src/repositories/file.js:276-286 -/
theorem matches_saveFieldReport (report : FieldReport) :
    Matches seed r (FileStore.saveFieldReport seed report)
      (MemoryRepository.saveFieldReport report) := by
  have hlist : (r.fieldReportStore.put report).values =
      if FileStore.hasId FieldReport.id (stateOf r).fieldReports report.id then
        FileStore.replaceById FieldReport.id (stateOf r).fieldReports report
      else (stateOf r).fieldReports ++ [report] := by
    rw [show (stateOf r).fieldReports = r.fieldReportStore.values from rfl, hasId_values]
    cases hhas : r.fieldReportStore.has report.id with
    | true => exact values_put_replaced hhas
    | false => exact Table.values_put_of_not_has hhas
  apply Matches.writes report { r with fieldReportStore := r.fieldReportStore.put report }
  · simp [MemoryRepository.saveFieldReport]
  · intro content hcontent
    simp only [FileStore.saveFieldReport, Effect.exec_bind, exec_readState, hcontent,
      exec_writeState, Effect.exec_pure, ← hlist]
    simp [stateOf, emailsOf]

/-- INTERNAL: a stored file is replaced.
SOURCE: apps/api/src/repositories/file.js:302-309 -/
theorem matches_saveFileRecord (fileRecord : FileRecord) :
    Matches seed r (FileStore.saveFileRecord seed fileRecord)
      (MemoryRepository.saveFileRecord fileRecord) := by
  have hid : FileStore.hasId FileRecord.id (stateOf r).fileRecords fileRecord.id =
      r.fileRecordStore.has fileRecord.id := hasId_values _ _
  cases hhas : r.fileRecordStore.has fileRecord.id with
  | false =>
    apply Matches.throws fileNotFound r
    · simp [MemoryRepository.saveFileRecord, hhas]
    · intro content hcontent
      simp [FileStore.saveFileRecord, hcontent, hid, hhas]
  | true =>
    have hput := values_put_replaced hhas
    have hstate : stateOf { r with fileRecordStore := r.fileRecordStore.put fileRecord } =
        { stateOf r with
          fileRecords :=
            FileStore.replaceById FileRecord.id (stateOf r).fileRecords fileRecord } := by
      simp [stateOf, emailsOf, hput]
    apply Matches.writes fileRecord { r with fileRecordStore := r.fileRecordStore.put fileRecord }
    · simp [MemoryRepository.saveFileRecord, hhas]
    · intro content hcontent
      simp [FileStore.saveFileRecord, hcontent, hid, hhas, hstate]

/-- INTERNAL: a stored file is replaced, with its evidence.
SOURCE: apps/api/src/repositories/file.js:405-413 -/
theorem matches_finalizeFileRecord (fileRecord : FileRecord) (auditEvent : AuditEvent) :
    Matches seed r (FileStore.finalizeFileRecord seed fileRecord auditEvent)
      (finalizeFileRecord fileRecord auditEvent) := by
  have hid : FileStore.hasId FileRecord.id (stateOf r).fileRecords fileRecord.id =
      r.fileRecordStore.has fileRecord.id := hasId_values _ _
  cases hhas : r.fileRecordStore.has fileRecord.id with
  | false =>
    apply Matches.throws fileNotFound r
    · simp [finalizeFileRecord, hhas]
    · intro content hcontent
      simp [FileStore.finalizeFileRecord, hcontent, hid, hhas]
  | true =>
    have hput := values_put_replaced hhas
    have hstate : stateOf { r with
          fileRecordStore := r.fileRecordStore.put fileRecord
          auditEventStore := r.auditEventStore ++ [auditEvent] } =
        { stateOf r with
          fileRecords := FileStore.replaceById FileRecord.id (stateOf r).fileRecords fileRecord
          auditEvents := (stateOf r).auditEvents ++ [auditEvent] } := by
      simp [stateOf, emailsOf, hput]
    apply Matches.writes fileRecord { r with
      fileRecordStore := r.fileRecordStore.put fileRecord
      auditEventStore := r.auditEventStore ++ [auditEvent] }
    · simp [finalizeFileRecord, hhas]
    · intro content hcontent
      simp [FileStore.finalizeFileRecord, hcontent, hid, hhas, hstate]

/-- INTERNAL: an audit event is appended.
SOURCE: apps/api/src/repositories/file.js:417-422 -/
theorem matches_appendAuditEvent (event : AuditEvent) :
    Matches seed r (FileStore.appendAuditEvent seed event) (appendAuditEvent event) := by
  apply Matches.writes event { r with auditEventStore := r.auditEventStore ++ [event] }
  · simp [appendAuditEvent]
  · intro content hcontent
    simp [FileStore.appendAuditEvent, hcontent, stateOf, emailsOf]

/-- INTERNAL: a stored delivery is replaced.
SOURCE: apps/api/src/repositories/file.js:342-349 -/
theorem matches_saveEmailDelivery (delivery : EmailDelivery) :
    Matches seed r (FileStore.saveEmailDelivery seed delivery) (saveEmailDelivery delivery) := by
  have hid : FileStore.hasId EmailDelivery.id (stateOf r).emailDeliveries delivery.id =
      r.emailDeliveryStore.has delivery.id := hasId_values _ _
  cases hhas : r.emailDeliveryStore.has delivery.id with
  | false =>
    apply Matches.throws deliveryNotFound r
    · simp [saveEmailDelivery, hhas]
    · intro content hcontent
      simp [FileStore.saveEmailDelivery, hcontent, hid, hhas]
  | true =>
    have hput := values_put_replaced hhas
    have hstate : stateOf { r with emailDeliveryStore := r.emailDeliveryStore.put delivery } =
        { stateOf r with
          emailDeliveries :=
            FileStore.replaceById EmailDelivery.id (stateOf r).emailDeliveries delivery } := by
      simp [stateOf, emailsOf, hput]
    apply Matches.writes delivery { r with
      emailDeliveryStore := r.emailDeliveryStore.put delivery }
    · simp [saveEmailDelivery, hhas]
    · intro content hcontent
      simp [FileStore.saveEmailDelivery, hcontent, hid, hhas, hstate]

/-- INTERNAL: a delivery under a key that is free, or bound to it.
SOURCE: apps/api/src/repositories/file.js:310-326 -/
theorem matches_createEmailDelivery (delivery : EmailDelivery) :
    Matches seed r (FileStore.createEmailDelivery seed delivery)
      (createEmailDelivery delivery) := by
  have hid : FileStore.hasId EmailDelivery.id (stateOf r).emailDeliveries delivery.id =
      r.emailDeliveryStore.has delivery.id := hasId_values _ _
  cases hfound : r.emailDeliveryStore.values.find? fun item =>
      item.idempotencyKey = delivery.idempotencyKey with
  | some existing =>
    have hfind : ((stateOf r).emailDeliveries.find? fun item =>
      item.idempotencyKey = delivery.idempotencyKey) = some existing := hfound
    cases hmatches : emailDeliveryIntentMatches existing delivery with
    | true =>
      apply Matches.returns ⟨false, existing⟩
      · simp [createEmailDelivery, hfound, hmatches]
      · intro content hcontent
        simp [FileStore.createEmailDelivery, hcontent, hfind, hmatches]
    | false =>
      apply Matches.throws deliveryConflict r
      · simp [createEmailDelivery, hfound, hmatches]
      · intro content hcontent
        simp [FileStore.createEmailDelivery, hcontent, hfind, hmatches]
  | none =>
    have hfind : ((stateOf r).emailDeliveries.find? fun item =>
      item.idempotencyKey = delivery.idempotencyKey) = none := hfound
    cases hhas : r.emailDeliveryStore.has delivery.id with
    | true =>
      apply Matches.throws (newError "Email delivery id already exists.") r
      · simp [createEmailDelivery, hfound, hhas]
      · intro content hcontent
        simp [FileStore.createEmailDelivery, hcontent, hfind, hid, hhas]
    | false =>
      have hput := Table.values_put_of_not_has hhas
      have hstate : stateOf { r with emailDeliveryStore := r.emailDeliveryStore.put delivery } =
          { stateOf r with emailDeliveries := (stateOf r).emailDeliveries ++ [delivery] } := by
        simp [stateOf, emailsOf, hput]
      apply Matches.writes ⟨true, delivery⟩ { r with
        emailDeliveryStore := r.emailDeliveryStore.put delivery }
      · simp [createEmailDelivery, hfound, hhas]
      · intro content hcontent
        simp [FileStore.createEmailDelivery, hcontent, hfind, hid, hhas, hstate]

/-! ### The evidence of deliveries -/

/-- A repository with the records of another, apart from the deliveries and their evidence. -/
def SameRecords (r t : MemoryRepository) : Prop :=
  stateOf t = { stateOf r with toFileEmailState := emailsOf t }

theorem SameRecords.trans {r s t : MemoryRepository} (h : SameRecords r s)
    (hnext : SameRecords s t) : SameRecords r t := by
  unfold SameRecords at h hnext ⊢
  rw [hnext, h]

/-- What the evidence leaves. -/
def evidenced (event : Option AuditEvent) (r : MemoryRepository) : MemoryRepository :=
  (Effect.exec (pushEvidence event) r).2

theorem exec_pushEvidence_eq (event : Option AuditEvent) (r : MemoryRepository) :
    Effect.exec (pushEvidence event) r = (.ok (), evidenced event r) := by
  obtain ⟨events, hexec, -⟩ := exec_pushEvidence event r
  rw [evidenced, hexec]

/-- INTERNAL: the evidence is the same in the file.
SOURCE: apps/api/src/repositories/file.js:357, 383 -/
theorem emailsOf_evidenced (event : Option AuditEvent) (r : MemoryRepository) :
    emailsOf (evidenced event r) = (emailsOf r).pushEvidence event := by
  cases event with
  | none => rfl
  | some event =>
    simp only [evidenced, pushEvidence, FileEmailState.pushEvidence, Effect.exec_bind,
      Effect.exec_get]
    rw [show (emailsOf r).auditEvents = r.auditEventStore from rfl]
    cases r.auditEventStore.any fun stored => stored.eventId = event.eventId with
    | true => rfl
    | false => rfl

theorem sameRecords_evidenced (event : Option AuditEvent) (r : MemoryRepository) :
    SameRecords r (evidenced event r) := by
  obtain ⟨events, hexec, -⟩ := exec_pushEvidence event r
  rw [evidenced, hexec]
  rfl

/-- INTERNAL: an operation on the deliveries and their evidence that returns: it leaves the rest of
the state, and where it writes nothing, all of it. -/
theorem Matches.onEmails {operation : FileM α} {reference : RepositoryM α} {writes : α → Bool}
    (answer : α) (t : MemoryRepository)
    (hreference : Effect.exec reference r = (.ok answer, t))
    (hoperation : Effect.exec operation (emailsOf r) = (.ok answer, emailsOf t))
    (hframe : SameRecords r t)
    (hwrites : writes answer = false → t = r) :
    Matches seed r (FileStore.onEmails seed writes operation) reference := by
  have hemails : (stateOf r).toFileEmailState = emailsOf r := rfl
  cases hanswer : writes answer with
  | true =>
    apply Matches.writes answer t hreference
    intro content hcontent
    rw [hframe]
    simp [FileStore.onEmails, hcontent, hemails, hoperation, hanswer]
  | false =>
    obtain rfl := hwrites hanswer
    apply Matches.returns answer hreference
    intro content hcontent
    simp [FileStore.onEmails, hcontent, hemails, hoperation, hanswer]

/-- INTERNAL: such an operation that throws. -/
theorem Matches.onEmailsThrows {operation : FileM α} {reference : RepositoryM α}
    {writes : α → Bool} (error : JsError) (t : MemoryRepository)
    (hreference : Effect.exec reference r = (.error error, t))
    (hoperation : (Effect.exec operation (emailsOf r)).1 = .error error) :
    Matches seed r (FileStore.onEmails seed writes operation) reference := by
  have hemails : (stateOf r).toFileEmailState = emailsOf r := rfl
  apply Matches.throws error t hreference
  intro content hcontent
  simp [FileStore.onEmails, hcontent, hemails, hoperation]

/-- INTERNAL: what the file repository makes of a finalization.
SOURCE: apps/api/src/repositories/file.js:350-360 -/
theorem exec_fileFinalize (delivery : EmailDelivery) (evidence : Evidence) (s : FileEmailState) :
    Effect.exec (FileRepository.finalizeEmailDelivery delivery evidence) s =
      if s.emailDeliveries.any fun item => item.id = delivery.id then
        match evidence.resolve ((s.replaceDelivery delivery).previousHash delivery.tenantId) with
        | .error error => (.error error, s)
        | .ok event => (.ok delivery, (s.replaceDelivery delivery).pushEvidence event)
      else (.error deliveryNotFound, s) := by
  simp only [FileRepository.finalizeEmailDelivery, Effect.exec_bind, Effect.exec_get]
  cases s.emailDeliveries.any fun item => item.id = delivery.id with
  | false => rfl
  | true =>
    cases evidence.resolve ((s.replaceDelivery delivery).previousHash delivery.tenantId) with
    | error error => simp
    | ok event => simp

/-- INTERNAL: a delivery is replaced, with its evidence.
SOURCE: apps/api/src/repositories/file.js:350-360 -/
theorem matches_finalizeEmailDelivery (delivery : EmailDelivery) (evidence : Evidence) :
    Matches seed r (FileStore.finalizeEmailDelivery seed delivery evidence)
      (finalizeEmailDelivery delivery evidence) := by
  have hid : ((emailsOf r).emailDeliveries.any fun item => item.id = delivery.id) =
      r.emailDeliveryStore.has delivery.id := hasId_values _ _
  have hoperation := exec_fileFinalize delivery evidence (emailsOf r)
  rw [hid] at hoperation
  cases hhas : r.emailDeliveryStore.has delivery.id with
  | false =>
    rw [hhas] at hoperation
    apply Matches.onEmailsThrows deliveryNotFound r
    · simp [finalizeEmailDelivery, hhas]
    · rw [hoperation]
      rfl
  | true =>
    have hput := values_put_replaced hhas
    have hreplaced : (emailsOf r).replaceDelivery delivery =
        emailsOf { r with emailDeliveryStore := r.emailDeliveryStore.put delivery } := by
      simp [FileEmailState.replaceDelivery, emailsOf, hput, FileStore.replaceById]
    have hhash : ((emailsOf r).replaceDelivery delivery).previousHash delivery.tenantId =
        r.lastEventHash delivery.tenantId := rfl
    rw [hhas, hhash] at hoperation
    cases hresolve : evidence.resolve (r.lastEventHash delivery.tenantId) with
    | error error =>
      rw [hresolve] at hoperation
      apply Matches.onEmailsThrows error
        { r with emailDeliveryStore := r.emailDeliveryStore.put delivery }
      · simp [finalizeEmailDelivery, hhas, hresolve]
      · rw [hoperation]
        rfl
    | ok event =>
      rw [hresolve, hreplaced, if_pos rfl] at hoperation
      apply Matches.onEmails delivery
        (evidenced event { r with emailDeliveryStore := r.emailDeliveryStore.put delivery })
      · simp [finalizeEmailDelivery, hhas, hresolve, exec_pushEvidence_eq]
      · rw [hoperation, emailsOf_evidenced]
      · exact SameRecords.trans (r := r) rfl (sameRecords_evidenced event _)
      · simp

/-! ### The suppressions -/

/-- Two texts that are joined with a character neither of the first parts has. -/
theorem joined_inj {c : Char} (sep : String) {a b x y : String} (hsep : sep.toList = [c])
    (ha : c ∉ a.toList) (hb : c ∉ b.toList) :
    a ++ sep ++ x = b ++ sep ++ y ↔ a = b ∧ x = y := by
  have lists : ∀ l k m n : List Char, c ∉ l → c ∉ k → l ++ c :: m = k ++ c :: n →
      l = k ∧ m = n := by
    intro l
    induction l with
    | nil =>
      intro k m n _ hk h
      cases k with
      | nil => exact ⟨rfl, (List.cons.inj h).2⟩
      | cons d k => exact absurd (List.cons.inj h).1 (by rintro rfl; simp at hk)
    | cons d l ih =>
      intro k m n hl hk h
      cases k with
      | nil => exact absurd (List.cons.inj h).1 (by rintro rfl; simp at hl)
      | cons e k =>
        obtain ⟨rfl, hrest⟩ := List.cons.inj h
        obtain ⟨rfl, hmn⟩ := ih k m n (fun hc => hl (List.mem_cons_of_mem _ hc))
          (fun hc => hk (List.mem_cons_of_mem _ hc)) hrest
        exact ⟨rfl, hmn⟩
  constructor
  · intro h
    have htoList := congrArg String.toList h
    simp only [String.toList_append, hsep, List.append_assoc, List.singleton_append] at htoList
    obtain ⟨hfirst, hrest⟩ := lists _ _ _ _ ha hb htoList
    exact ⟨String.toList_inj.mp hfirst, String.toList_inj.mp hrest⟩
  · rintro ⟨rfl, rfl⟩
    rfl

/-- The character no text of a delivery has, and that stands between the two texts of an id. -/
def nul : Char := Char.ofNat 0

/-- A suppression under the id its tenant and its recipient give it, of a tenant without a colon. -/
structure SuppressionKeyed (P : Platform) (suppression : EmailSuppression) : Prop where
  id : suppression.id = "email-suppression-" ++
    P.sha256 (suppression.tenantId ++ "\u0000" ++ suppression.normalizedRecipient)
  colon : ':' ∉ suppression.tenantId.toList
  nul : nul ∉ suppression.tenantId.toList

namespace SuppressionKeyed

variable {P : Platform} {s t : EmailSuppression}

/-- INTERNAL: the key of the memory repository tells the tenant and the recipient. -/
theorem storeKey_eq_iff (hs : SuppressionKeyed P s) (ht : SuppressionKeyed P t) :
    s.storeKey = t.storeKey ↔
      s.tenantId = t.tenantId ∧ s.normalizedRecipient = t.normalizedRecipient :=
  joined_inj ":" rfl hs.colon ht.colon

/-- INTERNAL: so does the id, where the hash has no collisions. -/
theorem id_eq_iff (hhash : Function.Injective P.sha256) (hs : SuppressionKeyed P s)
    (ht : SuppressionKeyed P t) :
    s.id = t.id ↔ s.tenantId = t.tenantId ∧ s.normalizedRecipient = t.normalizedRecipient := by
  rw [hs.id, ht.id, ← joined_inj "\u0000" rfl hs.nul ht.nul]
  constructor
  · intro h
    exact hhash (String.append_right_inj _ |>.mp h)
  · intro h
    rw [h]

end SuppressionKeyed

/-- INTERNAL: a visible character of a text is not trimmed away. -/
theorem mem_trim {value : String} {c : Char} (hmem : c ∈ value.toList)
    (hspace : isWhitespace c = false) : c ∈ (trim value).toList := by
  have drop (l : List Char) (h : c ∈ l) : c ∈ l.dropWhile isWhitespace := by
    rw [← List.takeWhile_append_dropWhile (p := isWhitespace) (l := l)] at h
    obtain htake | hdrop := List.mem_append.mp h
    · exact absurd (List.mem_takeWhile_imp htake) (by simp [hspace])
    · exact hdrop
  unfold trim
  rw [String.toList_ofList, List.mem_reverse]
  exact drop _ (List.mem_reverse.mpr (drop _ hmem))

/-- INTERNAL: the suppression a webhook makes is stored under the id its texts give it.
SOURCE: packages/email-delivery/src/index.js:71-101 -/
theorem suppressionKeyed_of_webhook {P : Platform} {delivery : EmailDelivery}
    {event : WebhookEvent} {webhookId : String} {incoming : EmailSuppression}
    (hcreate : createEmailSuppressionFromWebhook P delivery event webhookId = .ok (some incoming))
    (hcolon : ':' ∉ delivery.tenantId.toList) : SuppressionKeyed P incoming := by
  have hmade : FromWebhook P incoming.tenantId incoming.normalizedRecipient incoming :=
    ⟨⟨delivery, event, webhookId, hcreate⟩, rfl, rfl⟩
  obtain ⟨checked, hassert, hrest⟩ := bind_eq_ok.mp hcreate
  obtain ⟨hvalid, -⟩ := (assertEmailDelivery_eq_ok P).mp hassert
  have htenant : incoming.tenantId = delivery.tenantId := by
    cases hreason : suppressionReason event.type with
    | none =>
      rw [hreason] at hrest
      cases hrest
    | some reason =>
      obtain ⟨-, same, hsame, hof⟩ := createSuppression_eq_some hreason hcreate
      obtain rfl := Option.some.inj hsame
      exact hof.tenantId
  refine ⟨hmade.fields.1, ?_, ?_⟩
  · rw [htenant]
    exact hcolon
  · rw [htenant]
    intro hnul
    have hany := hvalid.tenantId.printable
    rw [List.any_eq_false] at hany
    exact hany nul (mem_trim hnul (by decide)) (by decide)

/-- INTERNAL: what is merged into a suppression, or merged with none, keeps the id of both.
SOURCE: packages/email-delivery/src/index.js:103-110 -/
theorem suppressionKeyed_of_merge {P : Platform} {existing : Option EmailSuppression}
    {incoming merged : EmailSuppression} (hincoming : SuppressionKeyed P incoming)
    (hexisting : ∀ s, existing = some s → SuppressionKeyed P s)
    (h : mergeEmailSuppression existing incoming = .ok merged) :
    SuppressionKeyed P merged ∧ merged.tenantId = incoming.tenantId ∧
      merged.normalizedRecipient = incoming.normalizedRecipient := by
  cases existing with
  | none =>
    obtain rfl := Except.ok.inj h
    exact ⟨hincoming, rfl, rfl⟩
  | some s =>
    have hs := hexisting s rfl
    unfold mergeEmailSuppression at h
    simp only at h
    split at h
    · cases h
    · rename_i hsame
      rw [not_or, not_not, not_not] at hsame
      obtain ⟨htenant, hrecipient⟩ := hsame
      split at h
      · obtain rfl := Except.ok.inj h
        exact ⟨hs, htenant, hrecipient⟩
      · obtain rfl := Except.ok.inj h
        refine ⟨⟨?_, hincoming.colon, hincoming.nul⟩, rfl, rfl⟩
        rw [hs.id, htenant, hrecipient]

/-- What both repositories keep of the suppressions and of the tenants of deliveries. -/
structure EmailsKeyed (P : Platform) (r : MemoryRepository) : Prop where
  suppressions : ∀ s ∈ r.emailSuppressionStore.values, SuppressionKeyed P s
  deliveries : ∀ d ∈ r.emailDeliveryStore.values, ':' ∉ d.tenantId.toList

section

variable {P : Platform}

/-- INTERNAL: both repositories find the same suppression.
SOURCE: apps/api/src/repositories/file.js:373-375 -/
theorem find_suppression (hkeyed : EmailsKeyed P r) {incoming : EmailSuppression}
    (hincoming : SuppressionKeyed P incoming) :
    ((emailsOf r).emailSuppressions.find? fun item => item.tenantId = incoming.tenantId &&
      item.normalizedRecipient = incoming.normalizedRecipient) =
      r.emailSuppressionStore.get incoming.storeKey := by
  unfold Table.get
  apply List.find?_congr
  intro item hitem
  have hiff := (hkeyed.suppressions item hitem).storeKey_eq_iff hincoming
  rw [Bool.eq_iff_iff]
  simp only [Bool.and_eq_true, decide_eq_true_eq]
  exact hiff.symm

/-- INTERNAL: and both put the merged one in its place.
SOURCE: apps/api/src/repositories/file.js:376-379 -/
theorem values_put_suppression (hhash : Function.Injective P.sha256) (hkeyed : EmailsKeyed P r)
    {existing merged : EmailSuppression}
    (hexisting : r.emailSuppressionStore.get merged.storeKey = some existing) :
    (r.emailSuppressionStore.put merged).values =
      (emailsOf r).emailSuppressions.map fun item =>
        if item.id = existing.id then merged else item := by
  have hmem : existing ∈ r.emailSuppressionStore.values := (Table.get_eq_some.mp hexisting).1
  have hsame : existing.storeKey = merged.storeKey := Table.key_of_get hexisting
  have hhas : r.emailSuppressionStore.has merged.storeKey = true := by
    rw [Table.has, hexisting]
    rfl
  rw [Table.values_put_of_has hhas]
  apply List.map_congr_left
  intro item hitem
  have hitemKeyed := hkeyed.suppressions item hitem
  have hexistingKeyed := hkeyed.suppressions existing hmem
  have hiff : item.storeKey = merged.storeKey ↔ item.id = existing.id := by
    rw [← hsame, hitemKeyed.storeKey_eq_iff hexistingKeyed,
      hitemKeyed.id_eq_iff hhash hexistingKeyed]
  simp only [hiff]

/-- The repository after a suppression is stored, if there is one. -/
def suppressed (merged : Option EmailSuppression) (r : MemoryRepository) : MemoryRepository :=
  match merged with
  | none => r
  | some merged => { r with emailSuppressionStore := r.emailSuppressionStore.put merged }

theorem suppressed_audit (merged : Option EmailSuppression) (r : MemoryRepository) :
    (suppressed merged r).auditEventStore = r.auditEventStore := by
  cases merged <;> rfl

theorem suppressed_webhooks (merged : Option EmailSuppression) (r : MemoryRepository) :
    (suppressed merged r).emailWebhookEventStore = r.emailWebhookEventStore := by
  cases merged <;> rfl

theorem sameRecords_suppressed (merged : Option EmailSuppression) (r : MemoryRepository) :
    SameRecords r (suppressed merged r) := by
  cases merged <;> rfl

/-- INTERNAL: **both repositories merge a suppression the same**, or both throw.
SOURCE: apps/api/src/repositories/file.js:371-380 -/
theorem putSuppression_cases (hhash : Function.Injective P.sha256) (hkeyed : EmailsKeyed P r)
    {delivery : EmailDelivery} (hcolon : ':' ∉ delivery.tenantId.toList) (event : WebhookEvent)
    (webhookId : String) :
    (∃ merged, (∀ s, merged = some s → SuppressionKeyed P s) ∧
      Effect.exec (putSuppression P delivery event webhookId) r = (.ok (), suppressed merged r) ∧
      ∃ incoming, createEmailSuppressionFromWebhook P delivery event webhookId = .ok incoming ∧
        (emailsOf r).mergeSuppression incoming = .ok (emailsOf (suppressed merged r))) ∨
    ∃ error, Effect.exec (putSuppression P delivery event webhookId) r = (.error error, r) ∧
      (createEmailSuppressionFromWebhook P delivery event webhookId = .error error ∨
        ∃ incoming, createEmailSuppressionFromWebhook P delivery event webhookId = .ok incoming ∧
          (emailsOf r).mergeSuppression incoming = .error error) := by
  cases hcreate : createEmailSuppressionFromWebhook P delivery event webhookId with
  | error error =>
    exact .inr ⟨error, by simp [putSuppression, hcreate], .inl rfl⟩
  | ok incoming =>
    cases incoming with
    | none =>
      exact .inl ⟨none, by simp, by simp [putSuppression, hcreate, suppressed], none, rfl, rfl⟩
    | some incoming =>
      have hincoming := suppressionKeyed_of_webhook hcreate hcolon
      have hfind := find_suppression hkeyed hincoming
      cases hmerge : mergeEmailSuppression (r.emailSuppressionStore.get incoming.storeKey)
          incoming with
      | error error =>
        refine .inr ⟨error, by simp [putSuppression, hcreate, hmerge], .inr ⟨_, rfl, ?_⟩⟩
        simp only [FileEmailState.mergeSuppression, hfind, hmerge]
        rfl
      | ok merged =>
        have hstored : ∀ s, r.emailSuppressionStore.get incoming.storeKey = some s →
            SuppressionKeyed P s := fun s hs =>
          hkeyed.suppressions s (Table.get_eq_some.mp hs).1
        obtain ⟨hmerged, htenant, hrecipient⟩ :=
          suppressionKeyed_of_merge hincoming hstored hmerge
        have hkey : merged.storeKey = incoming.storeKey :=
          (hmerged.storeKey_eq_iff hincoming).mpr ⟨htenant, hrecipient⟩
        refine .inl ⟨some merged, ?_, by simp [putSuppression, hcreate, hmerge, suppressed],
          _, rfl, ?_⟩
        · rintro s ⟨⟩
          exact hmerged
        · simp only [FileEmailState.mergeSuppression, hfind, hmerge]
          cases hget : r.emailSuppressionStore.get incoming.storeKey with
          | none =>
            have hhas : r.emailSuppressionStore.has merged.storeKey = false := by
              rw [hkey, Table.has, hget]
              rfl
            simp [suppressed, emailsOf, Table.values_put_of_not_has hhas, bind, Except.bind]
            rfl
          | some existing =>
            rw [← hkey] at hget
            have hvalues := values_put_suppression hhash hkeyed hget
            simp [suppressed, emailsOf, hvalues, bind, Except.bind]
            rfl

/-- INTERNAL: a provider event keeps the tenant.
SOURCE: packages/email-delivery/src/index.js:365-385 -/
theorem tenantId_of_applyStatus {delivery updated : EmailDelivery} {event : WebhookEvent}
    (h : applyEmailWebhookStatus P delivery event = .ok updated) :
    updated.tenantId = delivery.tenantId := by
  obtain rfl | ⟨status, occurredAt, -, -, -, rfl⟩ := applyStatus_eq_ok h
  · rfl
  · rfl

/-- INTERNAL: a delivery of a tenant without a colon may be stored.
SOURCE: apps/api/src/repositories/memory.js:296, 301, 313 -/
theorem EmailsKeyed.put (hkeyed : EmailsKeyed P r) {delivery : EmailDelivery}
    (hcolon : ':' ∉ delivery.tenantId.toList) :
    EmailsKeyed P { r with emailDeliveryStore := r.emailDeliveryStore.put delivery } := by
  refine ⟨hkeyed.suppressions, fun d hd => ?_⟩
  obtain rfl | ⟨hmem, -⟩ := Table.mem_values_put.mp hd
  · exact hcolon
  · exact hkeyed.deliveries d hmem

/-- The repository after a webhook is recorded. -/
def webhookRecorded (record : WebhookRecord) (r : MemoryRepository) : MemoryRepository :=
  { r with emailWebhookEventStore := r.emailWebhookEventStore.put record }

/-- INTERNAL: a new webhook is recorded the same in the file.
SOURCE: apps/api/src/repositories/file.js:381 -/
theorem emailsOf_webhookRecorded (record : WebhookRecord)
    (hfresh : r.emailWebhookEventStore.has record.id = false) :
    emailsOf (webhookRecorded record r) = (emailsOf r).recordWebhook record := by
  have happend := Table.values_put_of_not_has hfresh
  simp [FileEmailState.recordWebhook, emailsOf, webhookRecorded, happend]

/-- INTERNAL: what the memory repository makes of a webhook that is new and updates a delivery.
SOURCE: apps/api/src/repositories/memory.js:312-324 -/
theorem exec_memoryWebhook {webhookId : String} {event : WebhookEvent}
    (evidence : EmailDelivery → Evidence) {delivery updated : EmailDelivery}
    (hdup : r.emailWebhookEventStore.has webhookId = false)
    (hfound : r.deliveryOfMessage event.emailId = some delivery)
    (happly : applyEmailWebhookStatus P delivery event = .ok updated) :
    Effect.exec (applyEmailWebhook P webhookId event evidence) r =
      match Effect.exec (putSuppression P updated event webhookId)
        { r with emailDeliveryStore := r.emailDeliveryStore.put updated } with
      | (.error error, t) => (.error error, t)
      | (.ok _, t) =>
        match (evidence updated).resolve (r.lastEventHash updated.tenantId) with
        | .error error =>
          (.error error, webhookRecorded ⟨webhookId, updated.tenantId, event⟩ t)
        | .ok auditEvent =>
          (.ok ⟨false, some updated⟩,
            evidenced auditEvent (webhookRecorded ⟨webhookId, updated.tenantId, event⟩ t)) := by
  obtain ⟨result, suppressions, hput⟩ := exec_putSuppression P updated event webhookId
    { r with emailDeliveryStore := r.emailDeliveryStore.put updated }
  rw [hput]
  cases result with
  | error error => simp [applyEmailWebhook, hdup, hfound, happly, hput]
  | ok _ =>
    cases hresolve : (evidence updated).resolve (r.lastEventHash updated.tenantId) with
    | error error =>
      simp [applyEmailWebhook, hdup, hfound, happly, hput, hresolve, webhookRecorded]
    | ok auditEvent =>
      simp [applyEmailWebhook, hdup, hfound, happly, hput, hresolve, webhookRecorded,
        exec_pushEvidence_eq]

/-- INTERNAL: what the file repository makes of it.
SOURCE: apps/api/src/repositories/file.js:370-387 -/
theorem exec_fileWebhook {webhookId : String} {event : WebhookEvent}
    (evidence : EmailDelivery → Evidence) {s : FileEmailState} {delivery updated : EmailDelivery}
    (hnew : (s.emailWebhookEvents.any fun item => item.id = webhookId) = false)
    (hfind : (s.emailDeliveries.find? fun item => item.hasMessage event.emailId) = some delivery)
    (happly : applyEmailWebhookStatus P delivery event = .ok updated) :
    Effect.exec (FileRepository.applyEmailWebhook P webhookId event evidence) s =
      Effect.exec (do
        let incoming ← createEmailSuppressionFromWebhook P updated event webhookId
        let merged ← (s.replaceDelivery updated).mergeSuppression incoming
        let recorded := merged.recordWebhook ⟨webhookId, updated.tenantId, event⟩
        let auditEvent ← (evidence updated).resolve (recorded.previousHash updated.tenantId)
        set (recorded.pushEvidence auditEvent)
        return ⟨false, some updated⟩ : FileM WebhookResult) s := by
  simp only [FileRepository.applyEmailWebhook, Effect.exec_bind, Effect.exec_get, hnew,
    Bool.false_eq_true, if_false, hfind, happly, Effect.exec_lift]

/-- INTERNAL: **a webhook that is new and updates a delivery.**
SOURCE: apps/api/src/repositories/file.js:369-387 -/
theorem matches_webhookUpdate (hhash : Function.Injective P.sha256) (hkeyed : EmailsKeyed P r)
    {webhookId : String} {event : WebhookEvent} {evidence : EmailDelivery → Evidence}
    {delivery updated : EmailDelivery} (hdup : r.emailWebhookEventStore.has webhookId = false)
    (hfound : r.deliveryOfMessage event.emailId = some delivery)
    (happly : applyEmailWebhookStatus P delivery event = .ok updated) :
    Matches seed r (FileStore.applyEmailWebhook P seed webhookId event evidence)
      (applyEmailWebhook P webhookId event evidence) := by
  have hmemory := exec_memoryWebhook evidence hdup hfound happly
  have hany : ((emailsOf r).emailWebhookEvents.any fun item => item.id = webhookId) =
      r.emailWebhookEventStore.has webhookId := hasId_values _ _
  have hfile := exec_fileWebhook evidence (s := emailsOf r) (hany.trans hdup)
    hfound happly
  have hdelivery := get_of_deliveryOfMessage hfound
  have hput := values_put_replaced (has_of_get hdelivery (id_of_applyStatus happly))
  have hcolon : ':' ∉ updated.tenantId.toList := by
    rw [tenantId_of_applyStatus happly]
    exact hkeyed.deliveries delivery (Table.get_eq_some.mp hdelivery).1
  have hreplaced : (emailsOf r).replaceDelivery updated =
      emailsOf { r with emailDeliveryStore := r.emailDeliveryStore.put updated } := by
    simp [FileEmailState.replaceDelivery, emailsOf, hput, FileStore.replaceById]
  rw [hreplaced] at hfile
  obtain ⟨merged, -, hsuppress, incoming, hcreate, hmerge⟩ | ⟨error, hsuppress, hthrows⟩ :=
    putSuppression_cases hhash (hkeyed.put hcolon) hcolon event webhookId
  · have haudit := suppressed_audit merged
      { r with emailDeliveryStore := r.emailDeliveryStore.put updated }
    have hwebhooks := suppressed_webhooks merged
      { r with emailDeliveryStore := r.emailDeliveryStore.put updated }
    have hsame := sameRecords_suppressed merged
      { r with emailDeliveryStore := r.emailDeliveryStore.put updated }
    rw [hsuppress] at hmemory
    generalize suppressed merged
      { r with emailDeliveryStore := r.emailDeliveryStore.put updated } = t at *
    have hfresh : t.emailWebhookEventStore.has webhookId = false := by
      rw [hwebhooks]
      exact hdup
    have hrecorded := emailsOf_webhookRecorded (r := t)
      ⟨webhookId, updated.tenantId, event⟩ hfresh
    have hprevious : (emailsOf (webhookRecorded ⟨webhookId, updated.tenantId, event⟩
        t)).previousHash updated.tenantId = r.lastEventHash updated.tenantId := by
      show (t.auditEventStore.filter _).getLast?.map _ = _
      rw [haudit]
      rfl
    simp only [hcreate, Effect.exec_bind, Effect.exec_lift, hmerge, ← hrecorded, hprevious]
      at hfile
    cases hresolve : (evidence updated).resolve (r.lastEventHash updated.tenantId) with
    | error error =>
      rw [hresolve] at hmemory hfile
      exact Matches.onEmailsThrows error _ hmemory (congrArg Prod.fst hfile)
    | ok auditEvent =>
      rw [hresolve] at hmemory hfile
      have hstored : SameRecords r
        { r with emailDeliveryStore := r.emailDeliveryStore.put updated } := rfl
      have hwebhook : SameRecords t
        (webhookRecorded ⟨webhookId, updated.tenantId, event⟩ t) := rfl
      apply Matches.onEmails ⟨false, some updated⟩ _ hmemory
      · rw [hfile, emailsOf_evidenced]
        rfl
      · exact ((hstored.trans hsame).trans hwebhook).trans (sameRecords_evidenced _ _)
      · simp
  · rw [hsuppress] at hmemory
    apply Matches.onEmailsThrows error _ hmemory
    rw [hfile]
    obtain hcreate | ⟨incoming, hcreate, hmerge⟩ := hthrows
    · simp [hcreate]
    · simp [hcreate, hmerge]

/-- INTERNAL: **a webhook.**
SOURCE: apps/api/src/repositories/file.js:361-387 -/
theorem matches_applyEmailWebhook (hhash : Function.Injective P.sha256) (hkeyed : EmailsKeyed P r)
    (webhookId : String) (event : WebhookEvent) (evidence : EmailDelivery → Evidence) :
    Matches seed r (FileStore.applyEmailWebhook P seed webhookId event evidence)
      (applyEmailWebhook P webhookId event evidence) := by
  have hany : ((emailsOf r).emailWebhookEvents.any fun item => item.id = webhookId) =
      r.emailWebhookEventStore.has webhookId := hasId_values _ _
  have hfind : ((emailsOf r).emailDeliveries.find? fun item => item.hasMessage event.emailId) =
      r.deliveryOfMessage event.emailId := rfl
  cases hdup : r.emailWebhookEventStore.has webhookId with
  | true =>
    rw [hdup] at hany
    apply Matches.onEmails ⟨true, none⟩ r
    · simp [applyEmailWebhook, hdup]
    · simp only [FileRepository.applyEmailWebhook, Effect.exec_bind, Effect.exec_get, hany]
      rfl
    · rfl
    · simp
  | false =>
    rw [hdup] at hany
    cases hfound : r.deliveryOfMessage event.emailId with
    | none =>
      rw [hfound] at hfind
      apply Matches.onEmails ⟨false, none⟩ r
      · simp [applyEmailWebhook, hdup, hfound]
      · simp only [FileRepository.applyEmailWebhook, Effect.exec_bind, Effect.exec_get, hany, hfind]
        rfl
      · rfl
      · simp
    | some delivery =>
      rw [hfound] at hfind
      cases happly : applyEmailWebhookStatus P delivery event with
      | error error =>
        apply Matches.onEmailsThrows error r
        · simp [applyEmailWebhook, hdup, hfound, happly]
        · simp only [FileRepository.applyEmailWebhook, Effect.exec_bind, Effect.exec_get, hany,
            hfind, happly]
          rfl
      | ok updated => exact matches_webhookUpdate hhash hkeyed hdup hfound happly

end

end Xygo.Analysis
