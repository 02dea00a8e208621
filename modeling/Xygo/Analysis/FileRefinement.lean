import Xygo.Analysis.FileSteps
import Xygo.Analysis.RecommendedModules

/-!
# The file repository is the memory repository that forgets failed calls

Whatever calls are made, the file holds what a memory repository would hold in which a call that
throws changes nothing, and every call answers the same. When several processes work on one file
without waiting for each other, what one writes between the read and the write of another is lost:
but the file always holds what some of the answered calls leave, made one after the other, with the
answers they got. So the ids of its records stay unique, and no reader ever sees a half-made change.
No call is lost where each writes on what it has read.
-/

set_option autoImplicit false

namespace Xygo.Analysis

open Xygo.Computation Xygo.Model

section

variable (P : Platform)

/-- A read whose recipient can be normalized, of a tenant without a colon. -/
def ReadFits : RepositoryRead → Prop
  | .getEmailSuppression tenantId recipientEmail =>
    ':' ∉ tenantId.toList ∧ ∃ recipient, normalizeEmailRecipient P recipientEmail = .ok recipient
  | _ => True

/-- A write of a delivery of a tenant without a colon, or of something else. -/
def WriteFits : RepositoryWrite → Prop
  | .createEmailDelivery delivery => ':' ∉ delivery.tenantId.toList
  | .saveEmailDelivery delivery => ':' ∉ delivery.tenantId.toList
  | .finalizeEmailDelivery delivery _ => ':' ∉ delivery.tenantId.toList
  | _ => True

/-- A call the two repositories are compared on. -/
def CallFits : FileCall → Prop
  | .createFileRepository => True
  | .repository (.read call) => ReadFits P call
  | .repository (.write call) => WriteFits call

end

variable {P : Platform} {T : UnicodeTable} {r : MemoryRepository}

/-! ### Reads -/

/-- INTERNAL: a suppression is found under its tenant and recipient.
SOURCE: apps/api/src/repositories/file.js:334-338 -/
theorem getEmailSuppression_eq (hkeyed : EmailsKeyed P r)
    {tenantId recipientEmail recipient : String}
    (hcolon : ':' ∉ tenantId.toList)
    (hrecipient : normalizeEmailRecipient P recipientEmail = .ok recipient) :
    FileStore.getEmailSuppression P (stateOf r) tenantId recipientEmail =
      getEmailSuppression P r tenantId recipientEmail := by
  have htest : (fun item : EmailSuppression => (if item.tenantId = tenantId then do
      let recipient ← normalizeEmailRecipient P recipientEmail
      return item.normalizedRecipient = recipient
      else return false : Except JsError Bool)) = fun item =>
      pure (decide (item.tenantId = tenantId ∧ item.normalizedRecipient = recipient)) := by
    funext item
    rw [hrecipient]
    by_cases htenant : item.tenantId = tenantId
    · simp [htenant, bind, Except.bind]
    · simp [htenant]
  unfold FileStore.getEmailSuppression getEmailSuppression
  rw [htest, List.findM?_pure, hrecipient]
  refine congrArg Except.ok (List.find?_congr fun item hitem => ?_)
  have hitemKeyed := hkeyed.suppressions item hitem
  rw [decide_eq_decide]
  exact (joined_inj ":" rfl hitemKeyed.colon hcolon).symm

/-- INTERNAL: **every read answers the same.**
SOURCE: apps/api/src/repositories/file.js:75-416 -/
theorem readOf_stateOf (hkeyed : EmailsKeyed P r) (call : RepositoryRead)
    (hfits : ReadFits P call) : FileStore.readOf P (stateOf r) call = r.read P call := by
  cases call with
  | getEmailSuppression tenantId recipientEmail =>
    obtain ⟨hcolon, recipient, hrecipient⟩ := hfits
    simp only [FileStore.readOf, MemoryRepository.read,
      getEmailSuppression_eq hkeyed hcolon hrecipient]
  | getProjectById projectId => cases projectId <;> rfl
  | getAiReviewRunById reviewRunId => cases reviewRunId <;> rfl
  | _ => rfl

/-! ### Writes -/

/-- INTERNAL: **every write matches.**
SOURCE: apps/api/src/repositories/file.js:81-422 -/
theorem matches_write {seed : RepositoryState} (hhash : Function.Injective P.sha256)
    (hkeyed : EmailsKeyed P r) (call : RepositoryWrite) :
    Matches seed r (FileStore.write P T seed call) (MemoryRepository.write P T call) := by
  cases call with
  | createProject input => exact (matches_createProject input).map _
  | createIssue input => exact (matches_createIssue input).map _
  | createRfi input => exact (matches_createRfi input).map _
  | createPermitPackage input => exact (matches_createPermitPackage input).map _
  | createReviewSession input => exact (matches_createReviewSession input).map _
  | createAiReviewRun input => exact (matches_createAiReviewRun input).map _
  | createAiFinding input => exact (matches_createAiFinding input).map _
  | setAiFindingDisposition findingId nextDisposition relatedIssueId =>
    exact (matches_setAiFindingDisposition findingId nextDisposition relatedIssueId).map _
  | createPlatformBlueprint input => exact (matches_createPlatformBlueprint T input).map _
  | createFieldReport input => exact (matches_createFieldReport input).map _
  | saveFieldReport report => exact (matches_saveFieldReport report).map _
  | createFileRecord fileRecord => exact (matches_createFileRecord fileRecord).map _
  | saveFileRecord fileRecord => exact (matches_saveFileRecord fileRecord).map _
  | finalizeFileRecord fileRecord auditEvent =>
    exact (matches_finalizeFileRecord fileRecord auditEvent).map _
  | createEmailDelivery delivery => exact (matches_createEmailDelivery delivery).map _
  | saveEmailDelivery delivery => exact (matches_saveEmailDelivery delivery).map _
  | finalizeEmailDelivery delivery evidence =>
    exact (matches_finalizeEmailDelivery delivery evidence).map _
  | applyEmailWebhook call =>
    exact (matches_applyEmailWebhook hhash hkeyed call.webhookId call.event call.evidence).map _
  | appendAuditEvent event => exact (matches_appendAuditEvent event).map _

/-- INTERNAL: the keys depend on the deliveries and the suppressions. -/
theorem EmailsKeyed.congr {t : MemoryRepository} (h : EmailsKeyed P r)
    (hdeliveries : t.emailDeliveryStore = r.emailDeliveryStore)
    (hsuppressions : t.emailSuppressionStore = r.emailSuppressionStore) : EmailsKeyed P t := by
  obtain ⟨hs, hd⟩ := h
  rw [← hsuppressions] at hs
  rw [← hdeliveries] at hd
  exact ⟨hs, hd⟩

/-- INTERNAL: a creation in another list keeps the keys. -/
theorem keyed_create {β : Type} {key : β → String} (h : EmailsKeyed P r)
    (table : MemoryRepository → Table key) (store : MemoryRepository → Table key → MemoryRepository)
    (message : String) (construct : Except JsError β)
    (hdeliveries : ∀ t, (store r t).emailDeliveryStore = r.emailDeliveryStore)
    (hsuppressions : ∀ t, (store r t).emailSuppressionStore = r.emailSuppressionStore) :
    EmailsKeyed P (Effect.exec (createInTable table store message construct) r).2 := by
  cases construct with
  | error error => exact h
  | ok item =>
    cases hhas : (table r).has (key item) with
    | true => simpa [createInTable, hhas] using h
    | false => simpa [createInTable, hhas] using h.congr (hdeliveries _) (hsuppressions _)

/-- INTERNAL: a disposition keeps the keys. -/
theorem keyed_setAiFindingDisposition (h : EmailsKeyed P r) (findingId : String)
    (nextDisposition relatedIssueId : Json) :
    EmailsKeyed P (Effect.exec (MemoryRepository.setAiFindingDisposition findingId nextDisposition
      relatedIssueId) r).2 := by
  cases hfound : r.aiFindingStore.get findingId with
  | none => simpa [MemoryRepository.setAiFindingDisposition, hfound] using h
  | some finding =>
    cases hset : setHumanDisposition finding nextDisposition relatedIssueId with
    | error error => simpa [MemoryRepository.setAiFindingDisposition, hfound, hset] using h
    | ok updated =>
      have hnext : EmailsKeyed P { r with aiFindingStore := r.aiFindingStore.put updated } :=
        h.congr rfl rfl
      simpa [MemoryRepository.setAiFindingDisposition, hfound, hset] using hnext

/-- INTERNAL: a stored file keeps the keys, with its evidence or without. -/
theorem keyed_saveFileRecord (h : EmailsKeyed P r) (fileRecord : FileRecord) :
    EmailsKeyed P (Effect.exec (MemoryRepository.saveFileRecord fileRecord) r).2 := by
  cases hhas : r.fileRecordStore.has fileRecord.id with
  | false => simpa [MemoryRepository.saveFileRecord, hhas] using h
  | true =>
    have hnext : EmailsKeyed P { r with fileRecordStore := r.fileRecordStore.put fileRecord } :=
      h.congr rfl rfl
    simpa [MemoryRepository.saveFileRecord, hhas] using hnext

theorem keyed_finalizeFileRecord (h : EmailsKeyed P r) (fileRecord : FileRecord)
    (auditEvent : AuditEvent) :
    EmailsKeyed P (Effect.exec (finalizeFileRecord fileRecord auditEvent) r).2 := by
  cases hhas : r.fileRecordStore.has fileRecord.id with
  | false => simpa [finalizeFileRecord, hhas] using h
  | true =>
    have hnext : EmailsKeyed P { r with
        fileRecordStore := r.fileRecordStore.put fileRecord
        auditEventStore := r.auditEventStore ++ [auditEvent] } := h.congr rfl rfl
    simpa [finalizeFileRecord, hhas] using hnext

/-- INTERNAL: a new delivery keeps the keys. -/
theorem keyed_createEmailDelivery (h : EmailsKeyed P r) {delivery : EmailDelivery}
    (hcolon : ':' ∉ delivery.tenantId.toList) :
    EmailsKeyed P (Effect.exec (createEmailDelivery delivery) r).2 := by
  cases hfound : r.emailDeliveryStore.values.find? fun item =>
      item.idempotencyKey = delivery.idempotencyKey with
  | some existing =>
    cases hmatches : emailDeliveryIntentMatches existing delivery with
    | true => simpa [createEmailDelivery, hfound, hmatches] using h
    | false => simpa [createEmailDelivery, hfound, hmatches] using h
  | none =>
    cases hhas : r.emailDeliveryStore.has delivery.id with
    | true => simpa [createEmailDelivery, hfound, hhas] using h
    | false => simpa [createEmailDelivery, hfound, hhas] using h.put hcolon

/-- INTERNAL: a finalized delivery keeps the keys. -/
theorem keyed_finalizeEmailDelivery (h : EmailsKeyed P r) {delivery : EmailDelivery}
    (hcolon : ':' ∉ delivery.tenantId.toList) (evidence : Evidence) :
    EmailsKeyed P (Effect.exec (finalizeEmailDelivery delivery evidence) r).2 := by
  obtain hexec | ⟨result, events, hexec, -⟩ := exec_finalizeEmailDelivery delivery evidence r
  · rw [hexec]
    exact h
  · rw [hexec]
    exact (h.put hcolon).congr rfl rfl

/-- INTERNAL: a suppression under its own keys keeps them. -/
theorem EmailsKeyed.suppressed (h : EmailsKeyed P r) {merged : Option EmailSuppression}
    (hmerged : ∀ s, merged = some s → SuppressionKeyed P s) :
    EmailsKeyed P (suppressed merged r) := by
  cases merged with
  | none => exact h
  | some merged =>
    refine ⟨fun s hs => ?_, h.deliveries⟩
    obtain rfl | ⟨hmem, -⟩ := Table.mem_values_put.mp hs
    · exact hmerged s rfl
    · exact h.suppressions s hmem

/-- INTERNAL: a webhook keeps the keys. -/
theorem keyed_applyEmailWebhook (hhash : Function.Injective P.sha256) (h : EmailsKeyed P r)
    (webhookId : String) (event : WebhookEvent) (evidence : EmailDelivery → Evidence) :
    EmailsKeyed P (Effect.exec (applyEmailWebhook P webhookId event evidence) r).2 := by
  cases hdup : r.emailWebhookEventStore.has webhookId with
  | true => simpa [applyEmailWebhook, hdup] using h
  | false =>
    cases hfound : r.deliveryOfMessage event.emailId with
    | none => simpa [applyEmailWebhook, hdup, hfound] using h
    | some delivery =>
      cases happly : applyEmailWebhookStatus P delivery event with
      | error error => simpa [applyEmailWebhook, hdup, hfound, happly] using h
      | ok updated =>
        rw [exec_memoryWebhook evidence hdup hfound happly]
        have hdelivery := get_of_deliveryOfMessage hfound
        have hcolon : ':' ∉ updated.tenantId.toList := by
          rw [tenantId_of_applyStatus happly]
          exact h.deliveries delivery (Table.get_eq_some.mp hdelivery).1
        obtain ⟨merged, hmerged, hsuppress, -⟩ | ⟨error, hsuppress, -⟩ :=
          putSuppression_cases hhash (h.put hcolon) hcolon event webhookId
        · rw [hsuppress]
          have hkeyed := (h.put hcolon).suppressed hmerged
          cases (evidence updated).resolve (r.lastEventHash updated.tenantId) with
          | error error => exact hkeyed.congr rfl rfl
          | ok auditEvent =>
            obtain ⟨events, hpush, -⟩ := exec_pushEvidence auditEvent
              (webhookRecorded ⟨webhookId, updated.tenantId, event⟩
                (suppressed merged
                  { r with emailDeliveryStore := r.emailDeliveryStore.put updated }))
            simp only [evidenced, hpush]
            exact hkeyed.congr rfl rfl
        · rw [hsuppress]
          exact h.put hcolon

/-- INTERNAL: **every write keeps the keys.**
SOURCE: apps/api/src/repositories/memory.js:74-348 -/
theorem keyed_write (hhash : Function.Injective P.sha256) (h : EmailsKeyed P r)
    (call : RepositoryWrite) (hfits : WriteFits call) :
    EmailsKeyed P (Effect.exec (MemoryRepository.write P T call) r).2 := by
  cases call with
  | createProject input =>
    rw [MemoryRepository.write, Effect.store_map]
    exact keyed_create h MemoryRepository.projectStore (fun r t => { r with projectStore := t }) _ _
      (fun _ => rfl) fun _ => rfl
  | createIssue input =>
    rw [MemoryRepository.write, Effect.store_map]
    exact keyed_create h MemoryRepository.issueStore (fun r t => { r with issueStore := t }) _ _
      (fun _ => rfl) fun _ => rfl
  | createRfi input =>
    rw [MemoryRepository.write, Effect.store_map]
    exact keyed_create h MemoryRepository.rfiStore (fun r t => { r with rfiStore := t }) _ _
      (fun _ => rfl) fun _ => rfl
  | createPermitPackage input =>
    rw [MemoryRepository.write, Effect.store_map]
    exact keyed_create h MemoryRepository.permitStore (fun r t => { r with permitStore := t }) _ _
      (fun _ => rfl) fun _ => rfl
  | createReviewSession input =>
    rw [MemoryRepository.write, Effect.store_map]
    exact keyed_create h MemoryRepository.reviewSessionStore
      (fun r t => { r with reviewSessionStore := t }) _ _ (fun _ => rfl) fun _ => rfl
  | createAiReviewRun input =>
    rw [MemoryRepository.write, Effect.store_map]
    exact keyed_create h MemoryRepository.aiReviewRunStore
      (fun r t => { r with aiReviewRunStore := t }) _ _ (fun _ => rfl) fun _ => rfl
  | createAiFinding input =>
    rw [MemoryRepository.write, Effect.store_map]
    exact keyed_create h MemoryRepository.aiFindingStore
      (fun r t => { r with aiFindingStore := t }) _ _ (fun _ => rfl) fun _ => rfl
  | setAiFindingDisposition findingId nextDisposition relatedIssueId =>
    rw [MemoryRepository.write, Effect.store_map]
    exact keyed_setAiFindingDisposition h findingId nextDisposition relatedIssueId
  | createPlatformBlueprint input =>
    rw [MemoryRepository.write, Effect.store_map]
    exact keyed_create h MemoryRepository.platformBlueprintStore
      (fun r t => { r with platformBlueprintStore := t }) _ _ (fun _ => rfl) fun _ => rfl
  | createFieldReport input =>
    rw [MemoryRepository.write, Effect.store_map]
    exact keyed_create h MemoryRepository.fieldReportStore
      (fun r t => { r with fieldReportStore := t }) _ _ (fun _ => rfl) fun _ => rfl
  | saveFieldReport report =>
    rw [MemoryRepository.write, Effect.store_map]
    exact h.congr rfl rfl
  | createFileRecord fileRecord =>
    rw [MemoryRepository.write, Effect.store_map]
    exact keyed_create h MemoryRepository.fileRecordStore
      (fun r t => { r with fileRecordStore := t }) "File id already exists." (.ok fileRecord)
      (fun _ => rfl) fun _ => rfl
  | saveFileRecord fileRecord =>
    rw [MemoryRepository.write, Effect.store_map]
    exact keyed_saveFileRecord h fileRecord
  | finalizeFileRecord fileRecord auditEvent =>
    rw [MemoryRepository.write, Effect.store_map]
    exact keyed_finalizeFileRecord h fileRecord auditEvent
  | createEmailDelivery delivery =>
    rw [MemoryRepository.write, Effect.store_map]
    exact keyed_createEmailDelivery h hfits
  | saveEmailDelivery delivery =>
    rw [MemoryRepository.write, Effect.store_map, exec_saveEmailDelivery]
    split
    · exact h.put hfits
    · exact h
  | finalizeEmailDelivery delivery evidence =>
    rw [MemoryRepository.write, Effect.store_map]
    exact keyed_finalizeEmailDelivery h hfits evidence
  | applyEmailWebhook call =>
    rw [MemoryRepository.write, Effect.store_map]
    exact keyed_applyEmailWebhook hhash h call.webhookId call.event call.evidence
  | appendAuditEvent event =>
    rw [MemoryRepository.write, Effect.store_map]
    exact h.congr rfl rfl

/-! ### Runs -/

section

variable (P : Platform) (T : UnicodeTable)

/-- The memory repository, if a call that throws changed nothing. -/
def forgetful : Object MemoryRepository FileCall (Except JsError RepositoryAnswer) where
  call
    | .createFileRepository, r => (.ok .opened, r)
    | .repository call, r =>
      match (MemoryRepository.object P T).call call r with
      | (.ok answer, t) => (.ok answer, t)
      | (.error error, _) => (.error error, r)

end

/-- What the file and a memory repository have in common. -/
structure SameContent (P : Platform) (seed : RepositoryState) (content : Option RepositoryState)
    (r : MemoryRepository) : Prop where
  state : content.getD seed = stateOf r
  keyed : EmailsKeyed P r

/-- INTERNAL: **one call**, made by a process that is alone.
SOURCE: apps/api/src/repositories/file.js:65-422 -/
theorem sameContent_call {seed : RepositoryState} {content : Option RepositoryState}
    (hhash : Function.Injective P.sha256) (h : SameContent P seed content r) (call : FileCall)
    (hfits : CallFits P call) :
    ((FileStore.rewriter P T seed).serial.call call content).1 =
        ((forgetful P T).call call r).1 ∧
      SameContent P seed ((FileStore.rewriter P T seed).serial.call call content).2
        ((forgetful P T).call call r).2 := by
  obtain ⟨hstate, hkeyed⟩ := h
  cases call with
  | createFileRepository =>
    cases content with
    | none => exact ⟨rfl, hstate, hkeyed⟩
    | some state => exact ⟨rfl, hstate, hkeyed⟩
  | repository call =>
    cases call with
    | read call =>
      have hfile : Effect.exec (FileStore.read P seed call) ⟨content, none⟩ =
          (r.read P call, ⟨content, none⟩) := by
        rw [← readOf_stateOf hkeyed call hfits, ← hstate]
        rfl
      have hmemory : (forgetful P T).call (.repository (.read call)) r = (r.read P call, r) := by
        simp only [forgetful, MemoryRepository.object]
        cases r.read P call <;> rfl
      simp only [Rewriter.serial, FileStore.rewriter, FileCall.operation, hfile, hmemory]
      exact ⟨trivial, hstate, hkeyed⟩
    | write call =>
      have hmatch := matches_write (T := T) hhash hkeyed call content hstate
      have hkept := keyed_write (T := T) hhash hkeyed call hfits
      simp only [Rewriter.serial, FileStore.rewriter, FileCall.operation, forgetful,
        MemoryRepository.object]
      rcases hexec : Effect.exec (MemoryRepository.write P T call) r with ⟨error | answer, t⟩
      · rw [hexec] at hmatch
        rw [hmatch]
        exact ⟨rfl, hstate, hkeyed⟩
      · rw [hexec] at hmatch hkept
        obtain ⟨written, hfile, hnext⟩ := hmatch
        rw [hfile]
        refine ⟨rfl, ?_, hkept⟩
        cases written with
        | none => exact hnext
        | some state => exact hnext

/-- INTERNAL: calls made one after the other.
SOURCE: apps/api/src/repositories/file.js:65-422 -/
theorem sameContent_run {seed : RepositoryState} {content : Option RepositoryState}
    (hhash : Function.Injective P.sha256) (h : SameContent P seed content r)
    {calls : List FileCall} (hfits : ∀ c ∈ calls, CallFits P c) :
    ((FileStore.rewriter P T seed).serial.run content calls).1 = ((forgetful P T).run r calls).1 ∧
      SameContent P seed ((FileStore.rewriter P T seed).serial.run content calls).2
        ((forgetful P T).run r calls).2 := by
  induction calls generalizing content r with
  | nil => exact ⟨rfl, h⟩
  | cons call calls ih =>
    obtain ⟨hanswer, hnext⟩ := sameContent_call (T := T) hhash h call (hfits _ List.mem_cons_self)
    obtain ⟨hlog, hend⟩ := ih hnext fun c hc => hfits c (List.mem_cons_of_mem _ hc)
    simp only [Object.run_cons, hanswer, hlog]
    exact ⟨trivial, hend⟩

variable {seed : RepositoryState} {content : Option RepositoryState} {calls : List FileCall}

/-- Calls that are made one after the other, by one process or by several: **every call answers as
on a memory repository on which a call that throws changes nothing**, and the file holds what that
repository holds. -/
theorem file_refines_memory (hhash : Function.Injective P.sha256)
    (hstate : content.getD seed = stateOf r) (hkeyed : EmailsKeyed P r)
    (hfits : ∀ c ∈ calls, CallFits P c) :
    ((FileStore.rewriter P T seed).serial.run content calls).1 = ((forgetful P T).run r calls).1 ∧
      ((FileStore.rewriter P T seed).serial.run content calls).2.getD seed =
        stateOf ((forgetful P T).run r calls).2 := by
  obtain ⟨hlog, hend⟩ := sameContent_run (T := T) hhash ⟨hstate, hkeyed⟩ hfits
  exact ⟨hlog, hend.state⟩

/-- The keys of an empty repository. -/
theorem emailsKeyed_empty : EmailsKeyed P {} := by
  constructor <;> simp

/-- A platform whose hash is its text. -/
def hashlessPlatform : Platform where
  sha256 text := text
  hmacSha256 _ text := text
  toLowerCase text := text

/-- A report of a site. -/
def siteReport : FieldReport where
  id := "report-1"
  tenantId := "tenant-1"
  projectId := "project-1"
  siteName := "North"
  reportType := "daily"
  author := "user-1"

theorem file_refines_memory_stored :
    ((FileStore.rewriter hashlessPlatform asciiTable (stateOf {})).serial.run none
        [.createFileRepository, .repository (.write (.saveFieldReport siteReport)),
          .repository (.read (.getFieldReportById "report-1"))]).1 =
        ((forgetful hashlessPlatform asciiTable).run {}
          [.createFileRepository, .repository (.write (.saveFieldReport siteReport)),
            .repository (.read (.getFieldReportById "report-1"))]).1 ∧
      ((FileStore.rewriter hashlessPlatform asciiTable (stateOf {})).serial.run none
        [.createFileRepository, .repository (.write (.saveFieldReport siteReport)),
          .repository (.read (.getFieldReportById "report-1"))]).2.getD (stateOf {}) =
        stateOf ((forgetful hashlessPlatform asciiTable).run {}
          [.createFileRepository, .repository (.write (.saveFieldReport siteReport)),
            .repository (.read (.getFieldReportById "report-1"))]).2 :=
  file_refines_memory (fun _ _ h => h) rfl emailsKeyed_empty
    (by simp [CallFits, WriteFits, ReadFits])

/-! ### Processes that share the file -/

variable {ι : Type} [DecidableEq ι] {turns : List (Rewriter.Turn ι FileCall)}
  {t : Rewriter.Shared ι (Option RepositoryState) FileCall (Except JsError RepositoryAnswer)}

/-- Whatever the processes that share a file do, **the file holds what the memory repository holds
after some of the answered calls**, made one after the other in the order they were answered in,
each with the answer it got. -/
theorem file_serializes (hhash : Function.Injective P.sha256)
    (hstate : content.getD seed = stateOf r) (hkeyed : EmailsKeyed P r)
    (hfits : ∀ i c, .reads i c ∈ turns → CallFits P c)
    (hrun : (FileStore.rewriter P T seed).parties.run (.initial content) turns = some t) :
    ∃ ran, ran.Sublist t.log ∧ ((forgetful P T).run r (ran.map Prod.fst)).1 = ran ∧
      t.content.getD seed = stateOf ((forgetful P T).run r (ran.map Prod.fst)).2 := by
  obtain ⟨ran, hsub, hserial⟩ := Rewriter.serializes_of_run hrun
  have hcalls := Rewriter.callsOf_run hfits hrun
  have hran : ∀ c ∈ ran.map Prod.fst, CallFits P c := by
    intro c hc
    obtain ⟨e, he, rfl⟩ := List.mem_map.mp hc
    exact hcalls e (hsub.subset he)
  obtain ⟨hlog, hend⟩ := sameContent_run (T := T) hhash ⟨hstate, hkeyed⟩ hran
  rw [hserial] at hlog hend
  exact ⟨ran, hsub, hlog.symm, hend.state⟩

/-- Two processes that create the repository at once, and a report that one of them stores before
the other writes the seed. -/
def createdTwice : List (Rewriter.Turn (Fin 2) FileCall) :=
  [.reads 0 .createFileRepository, .reads 1 .createFileRepository, .writes 1,
    .reads 1 (.repository (.write (.saveFieldReport siteReport))), .writes 1, .writes 0]

theorem fits_createdTwice (i : Fin 2) (c : FileCall) (h : .reads i c ∈ createdTwice) :
    CallFits hashlessPlatform c := by
  simp only [createdTwice, List.mem_cons, Rewriter.Turn.reads.injEq, reduceCtorEq,
    List.not_mem_nil, or_false, false_or] at h
  obtain ⟨-, rfl⟩ | ⟨-, rfl⟩ | ⟨-, rfl⟩ := h <;> trivial

theorem file_serializes_createdTwice :
    ∃ t, (FileStore.rewriter hashlessPlatform asciiTable (stateOf {})).parties.run
        (.initial none) createdTwice = some t ∧
      ∃ ran, ran.Sublist t.log ∧
        ((forgetful hashlessPlatform asciiTable).run {} (ran.map Prod.fst)).1 = ran ∧
        t.content.getD (stateOf {}) =
          stateOf ((forgetful hashlessPlatform asciiTable).run {} (ran.map Prod.fst)).2 :=
  ⟨_, rfl, file_serializes (fun _ _ h => h)
    (show (none : Option RepositoryState).getD (stateOf {}) = stateOf {} from rfl)
    emailsKeyed_empty fits_createdTwice rfl⟩

/-- The report is answered, and lost. -/
example : ((FileStore.rewriter hashlessPlatform asciiTable (stateOf {})).parties.run
    (.initial none) createdTwice).map (fun t => (t.log.length, t.content.map fun state =>
      state.fieldReports.length)) = some (3, some 0) := rfl

/-- Where every process writes on what it has read, **no answered call is lost**: the file holds
what the memory repository holds after all of them. -/
theorem file_keeps_calls (hhash : Function.Injective P.sha256)
    (hstate : content.getD seed = stateOf r) (hkeyed : EmailsKeyed P r)
    (hfits : ∀ i c, .reads i c ∈ turns → CallFits P c)
    (hcurrent : (FileStore.rewriter P T seed).parties.Meets Rewriter.Current
      (.initial content) turns)
    (hrun : (FileStore.rewriter P T seed).parties.run (.initial content) turns = some t) :
    ((forgetful P T).run r (t.log.map Prod.fst)).1 = t.log ∧
      t.content.getD seed = stateOf ((forgetful P T).run r (t.log.map Prod.fst)).2 := by
  have hserial := Rewriter.serial_of_current hcurrent hrun
  have hcalls := Rewriter.callsOf_run hfits hrun
  have hran : ∀ c ∈ t.log.map Prod.fst, CallFits P c := by
    intro c hc
    obtain ⟨e, he, rfl⟩ := List.mem_map.mp hc
    exact hcalls e he
  obtain ⟨hlog, hend⟩ := sameContent_run (T := T) hhash ⟨hstate, hkeyed⟩ hran
  rw [hserial] at hlog hend
  exact ⟨hlog.symm, hend.state⟩

/-- Two processes that create the repository one after the other, and a report. -/
def createdInTurn : List (Rewriter.Turn (Fin 2) FileCall) :=
  [.reads 0 .createFileRepository, .writes 0, .reads 1 .createFileRepository,
    .reads 1 (.repository (.write (.saveFieldReport siteReport))), .writes 1]

theorem fits_createdInTurn (i : Fin 2) (c : FileCall) (h : .reads i c ∈ createdInTurn) :
    CallFits hashlessPlatform c := by
  simp only [createdInTurn, List.mem_cons, Rewriter.Turn.reads.injEq, reduceCtorEq,
    List.not_mem_nil, or_false, false_or] at h
  obtain ⟨-, rfl⟩ | ⟨-, rfl⟩ | ⟨-, rfl⟩ := h <;> trivial

theorem current_createdInTurn :
    (FileStore.rewriter hashlessPlatform asciiTable (stateOf {})).parties.Meets Rewriter.Current
      (.initial none) createdInTurn := by
  refine ⟨by rintro _ ⟨⟩, ?_⟩
  rintro _ ⟨⟩
  refine ⟨by rintro _ ⟨⟩ _ ⟨⟩; rfl, ?_⟩
  rintro _ ⟨⟩
  refine ⟨by rintro _ ⟨⟩, ?_⟩
  rintro _ ⟨⟩
  refine ⟨by rintro _ ⟨⟩, ?_⟩
  rintro _ ⟨⟩
  refine ⟨by rintro _ ⟨⟩ _ ⟨⟩; rfl, ?_⟩
  rintro _ ⟨⟩
  trivial

theorem file_keeps_calls_inTurn :
    ∃ t, (FileStore.rewriter hashlessPlatform asciiTable (stateOf {})).parties.run
        (.initial none) createdInTurn = some t ∧
      ((forgetful hashlessPlatform asciiTable).run {} (t.log.map Prod.fst)).1 = t.log ∧
        t.content.getD (stateOf {}) =
          stateOf ((forgetful hashlessPlatform asciiTable).run {} (t.log.map Prod.fst)).2 :=
  ⟨_, rfl, file_keeps_calls (fun _ _ h => h)
    (show (none : Option RepositoryState).getD (stateOf {}) = stateOf {} from rfl)
    emailsKeyed_empty fits_createdInTurn current_createdInTurn rfl⟩

end Xygo.Analysis
