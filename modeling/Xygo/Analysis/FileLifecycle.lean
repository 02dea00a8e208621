import Xygo.Analysis.FileEvidence
import Xygo.Analysis.ForeignRecords

/-!
# The life of a file

Requests that come one after the other, with any calls of the repository, of the outbox and of the
storage failing, leave each file with the evidence its status tells of (`files_evidenced`). A file
only moves forward, keeps what it was created with, and a ready one has what the storage answered
for it; a request that is answered with success has made its change, and has its job in the outbox
once (`file_answers`). So a client may repeat a request until it succeeds.

Each route has one specification (`RouteSpec`), from which a run follows by the history rule.
-/

set_option autoImplicit false

namespace Xygo.Analysis

open Xygo.Computation Xygo.Computation.Effect Xygo.Model Xygo.Model.FileRoutes

/-! ### Routes -/

section

variable {Ω : Type}

theorem triple_onMemory {α : Type} {op : MemoryM α} {A : Faulty JsError MemoryStores → Prop}
    {Q : α → Faulty JsError MemoryStores → Prop} {X : JsError → Faulty JsError MemoryStores → Prop}
    (h : Triple A op Q X) :
    Triple (fun s : FaultyStores Ω => A s.memory) (onMemory op) (fun a s => Q a s.memory)
      fun e s => X e s.memory :=
  Triple.focus h fun _ _ => rfl

/-- The storage is another store; what it answers, it has answered. -/
theorem triple_onStorage {α : Type} (op : Effect JsError Ω α)
    (A : Faulty JsError MemoryStores → Prop) :
    Triple (fun s : FaultyStores Ω => A s.memory) (onStorage op)
      (fun a s => (∃ ω ω', exec op ω = (.ok a, ω')) ∧ A s.memory) fun _ s => A s.memory := by
  refine Triple.of_exec fun s hs => ?_
  unfold onStorage
  rw [exec_focus]
  rcases hrun : exec op s.storage with ⟨_ | a, ω⟩
  · exact hs
  · exact ⟨⟨s.storage, ω, hrun⟩, hs⟩

/-- A file under an id has a status, and its job is in the outbox once. -/
def FileIs (m : MemoryStores) (request : FileCall) (fileId : String) (status : FileStatus)
    (action : String) : Prop :=
  ∃ file, m.repository.getFileRecordById fileId = some file ∧ file.status = status ∧
    HasJob m.outbox (request.onFile.outboxKey action fileId) action fileId

/-- A response that tells the truth of a file, where it tells of success. -/
def FileTold (request : FileCall) (fileId : String) (status : FileStatus) (action : String) :
    Response FileBody → MemoryStores → Prop
  | .answered code _, m => code = 200 ∧ FileIs m request fileId status action
  | .refused _, _ => True

section

variable {storage : UploadStorage Ω} {r₀ : MemoryRepository}

theorem fileStored_since {file : FileRecord} :
    ∀ r, FileStored storage r₀ file r → FilesSince storage r₀ r := fun _ h => h.1

theorem unwritten_since : ∀ r, FilesUnwritten storage r₀ r → FilesSince storage r₀ r :=
  fun _ h => h.1

/-- The answer to a client does not touch the stores. -/
theorem triple_answerFile (request : FileCall) {file : FileRecord} {status : FileStatus}
    {action : String} (hstatus : file.status = status) :
    Triple (fun s : FaultyStores Ω => WithFiles (FileStored storage r₀ file) s.memory ∧
        HasJob s.memory.store.outbox (request.onFile.outboxKey action file.id) action file.id)
      (answerFile file)
      (fun response s => WithFiles (FilesSince storage r₀) s.memory ∧
        FileTold request file.id status action response s.memory.store)
      fun _ s => WithFiles (FilesSince storage r₀) s.memory := by
  unfold answerFile
  refine Triple.bind_lift (fun _ _ _ hs => hs.1.imp fileStored_since) fun item _ => ?_
  refine Triple.pure fun s hs => ⟨hs.1.imp fileStored_since, rfl, file, hs.1.1.2, hstatus, hs.2⟩

/-- What is stored once a file is finalized in a status. -/
def Finalized (storage : UploadStorage Ω) (r₀ : MemoryRepository) (request : FileCall)
    (first : FileRecord) (status : FileStatus) (action : String) :
    Response FileRecord → Faulty JsError MemoryStores → Prop
  | .answered _ later, s => later.id = first.id ∧ later.status = status ∧
      WithFiles (FileStored storage r₀ later) s ∧
        HasJob s.store.outbox (request.onFile.outboxKey action first.id) action first.id
  | .refused _, s => WithFiles (FilesSince storage r₀) s

/-- A finalized file is answered to the client. -/
theorem triple_answerFinalized {request : FileCall} {first : FileRecord} {status : FileStatus}
    {action : String} {op : MemoryM (Response FileRecord)}
    {A : Faulty JsError MemoryStores → Prop}
    (h : Triple A op (Finalized storage r₀ request first status action)
      fun _ => WithFiles (FilesSince storage r₀)) :
    Triple (fun s : FaultyStores Ω => A s.memory)
      (do
        let response ← onMemory op
        match response with
        | .refused refusal => return .refused refusal
        | .answered _ later => answerFile later)
      (fun response s => WithFiles (FilesSince storage r₀) s.memory ∧
        FileTold request first.id status action response s.memory.store)
      fun _ s => WithFiles (FilesSince storage r₀) s.memory := by
  refine Triple.bind (triple_onMemory h) fun response => ?_
  cases response with
  | refused refusal => exact Triple.pure fun s hs => ⟨hs, trivial⟩
  | answered code later =>
    refine Triple.of_exec fun s hs => ?_
    obtain ⟨hid, hstatus, hfiles, hjob⟩ := hs
    rw [← hid] at hjob ⊢
    exact (triple_answerFile request hstatus).holds s ⟨hfiles, hjob⟩

variable (P : Platform) {request : FileCall} {first : FileRecord}
  (hevidenced : FilesEvidenced storage r₀) (hfirst : r₀.getFileRecordById first.id = some first)
  (htenant : first.tenantId = request.tenantId.text)

include hevidenced hfirst htenant

theorem triple_completeStored (hpending : first.status = .pendingUpload)
    (object : Option StoredObject)
    (hhead : ∃ ω ω', exec (storage.headObject first) ω = (.ok object, ω')) :
    Triple (WithFiles (FilesUnwritten storage r₀))
      (Model.completeFileUpload P request.onFile first object)
      (Finalized storage r₀ request first .ready "api.file.upload_completed")
      fun _ => WithFiles (FilesSince storage r₀) := by
  unfold Model.completeFileUpload
  cases object with
  | none => exact Triple.pure fun s hs => hs.imp unwritten_since
  | some object =>
    obtain ⟨ω, ω', hhead⟩ := hhead
    by_cases hobject : object.tenantId = some first.tenantId ∧
        object.contentType = some first.mimeType ∧ object.sizeBytes = first.sizeBytes
    · obtain ⟨hobjectTenant, htype, hsize⟩ := hobject
      have hnone : (objectRefusal first (some object) : Option (Response FileRecord)) = none := by
        simp [objectRefusal, hobjectTenant, htype, hsize]
      rw [hnone]
      refine Triple.bind_lift (fun _ _ _ hs => hs.imp unwritten_since) fun completedAt _ => ?_
      have hverified : FileVerified storage (completedRecord first object completedAt) :=
        ⟨first, ω, ω', object, hhead, rfl, hobjectTenant, htype, hsize, rfl⟩
      refine Triple.bind (triple_finalizeFile P request.onFile "api.file.upload_completed"
        (completedRecord first object completedAt) _ _
        (B := FileStored storage r₀ (completedRecord first object completedAt))
        (fun r r' event hr hevent hstore happend => ?_) unwritten_since fileStored_since) fun _ =>
          Triple.pure fun s hs => ⟨rfl, rfl, hs.1, hs.2⟩
      have hown : EvidenceFor first.tenantId "api.file.upload_completed" first.id event := by
        rw [htenant]
        exact hevent
      exact filesSince_completed hr (hevidenced.stored _ _ hfirst) hfirst hpending hverified hown
        hstore happend
    · have hrefused : ∃ refusal, (objectRefusal first (some object) :
          Option (Response FileRecord)) = some (.refused refusal) := by
        unfold objectRefusal
        dsimp only
        split
        · exact ⟨_, rfl⟩
        · split
          · exact ⟨_, rfl⟩
          · split
            · exact ⟨_, rfl⟩
            · simp_all
      obtain ⟨refusal, hrefusal⟩ := hrefused
      rw [hrefusal]
      exact Triple.pure fun s hs => hs.imp unwritten_since

theorem triple_completeFileUpload (hpending : first.status = .pendingUpload) :
    Triple (fun s => WithFiles (FilesUnwritten storage r₀) s.memory)
      (FileRoutes.completeFileUpload P storage request first)
      (fun response s => WithFiles (FilesSince storage r₀) s.memory ∧
        FileTold request first.id .ready "api.file.upload_completed" response s.memory.store)
      fun _ s => WithFiles (FilesSince storage r₀) s.memory := by
  unfold FileRoutes.completeFileUpload
  refine Triple.bind ((triple_onStorage _ _).weaken (fun _ hs => hs) (fun _ _ hs => hs)
    fun _ _ hs => hs.imp unwritten_since) fun object => Triple.assume fun hhead => ?_
  exact triple_answerFinalized
    (triple_completeStored P hevidenced hfirst htenant hpending object hhead)

theorem triple_deleteStored (hlive : first.status ≠ .deleted) :
    Triple (WithFiles (FilesUnwritten storage r₀)) (Model.finalizeDeletion P request.onFile first)
      (Finalized storage r₀ request first .deleted "api.file.deleted")
      fun _ => WithFiles (FilesSince storage r₀) := by
  unfold Model.finalizeDeletion
  refine Triple.bind_lift (fun _ _ _ hs => hs.imp unwritten_since) fun deletedAt _ => ?_
  refine Triple.bind (triple_finalizeFile P request.onFile "api.file.deleted"
    (deletedRecord first deletedAt) _ _ (B := FileStored storage r₀ (deletedRecord first deletedAt))
    (fun r r' event hr hevent hstore happend => ?_) unwritten_since fileStored_since) fun _ =>
      Triple.pure fun s hs => ⟨rfl, rfl, hs.1, hs.2⟩
  have hown : EvidenceFor first.tenantId "api.file.deleted" first.id event := by
    rw [htenant]
    exact hevent
  exact filesSince_deleted hr (hevidenced.stored _ _ hfirst) hfirst hlive hown hstore happend

omit hevidenced hfirst htenant in
/-- A retry leaves the file as it is, and enqueues its job. -/
theorem triple_enqueueAgain {status : FileStatus} (hstatus : first.status = status)
    (action message : String) :
    Triple (fun s : FaultyStores Ω => WithFiles (FileStored storage r₀ first) s.memory)
      (enqueueAgain request first action message)
      (fun response s => WithFiles (FilesSince storage r₀) s.memory ∧
        FileTold request first.id status action response s.memory.store)
      fun _ s => WithFiles (FilesSince storage r₀) s.memory := by
  have henqueue : Triple (WithFiles (FileStored storage r₀ first))
      (enqueueFileOutbox request action first.id)
      (fun _ s => WithFiles (FileStored storage r₀ first) s ∧
        HasJob s.store.outbox (request.onFile.outboxKey action first.id) action first.id)
      fun _ => WithFiles (FileStored storage r₀ first) := by
    unfold enqueueFileOutbox
    refine Triple.bind_lift (fun _ _ _ hs => hs) fun event hevent => ?_
    obtain ⟨htype, haggregate⟩ := outboxEvent_built hevent
    have hjob := triple_enqueueMemory event (request.onFile.outboxKey action first.id)
      request.onFile.now (FileStored storage r₀ first)
    rw [htype, haggregate] at hjob
    exact hjob
  unfold enqueueAgain
  refine Triple.bind (R := fun failed (s : FaultyStores Ω) =>
    WithFiles (FileStored storage r₀ first) s.memory ∧ (failed = false →
      HasJob s.memory.store.outbox (request.onFile.outboxKey action first.id) action first.id))
    (Triple.tryCatch (Triple.bind (triple_onMemory henqueue) fun _ =>
      Triple.pure fun s hs => ⟨hs.1, fun _ => hs.2⟩) fun _ =>
        Triple.pure fun s hs => ⟨hs, fun h => nomatch h⟩) fun failed => ?_
  cases failed with
  | true => exact Triple.pure fun s hs => ⟨hs.1.imp fileStored_since, trivial⟩
  | false =>
    exact (triple_answerFile _ hstatus).weaken (fun s hs => ⟨hs.1, hs.2 rfl⟩) (fun _ _ hs => hs)
      fun _ _ hs => hs

/-- A route has begun: nothing is written yet, and the file is stored as it was read. -/
def Begun (storage : UploadStorage Ω) (r₀ : MemoryRepository) (first : FileRecord)
    (r : MemoryRepository) : Prop := FilesUnwritten storage r₀ r ∧ FileStored storage r₀ first r

theorem triple_completeFile :
    Triple (fun s => WithFiles (Begun storage r₀ first) s.memory)
      (completeFile P storage request first)
      (fun response s => WithFiles (FilesSince storage r₀) s.memory ∧
        FileTold request first.id .ready "api.file.upload_completed" response s.memory.store)
      fun _ s => WithFiles (FilesSince storage r₀) s.memory := by
  unfold completeFile
  cases hstatus : first.status with
  | ready =>
    exact (triple_enqueueAgain hstatus _ _).weaken (fun s hs => hs.imp fun _ hr => hr.2)
      (fun _ _ hs => hs) fun _ _ hs => hs
  | pendingUpload =>
    refine Triple.tryCatch ((triple_completeFileUpload P hevidenced hfirst htenant hstatus).weaken
      (fun s hs => hs.imp fun _ hr => hr.1) (fun _ _ hs => hs) fun _ _ hs => hs) fun _ => ?_
    exact Triple.pure fun s hs => ⟨hs, trivial⟩
  | deleting => exact Triple.pure fun s hs => ⟨hs.imp fun _ hr => hr.1.1, trivial⟩
  | deleted => exact Triple.pure fun s hs => ⟨hs.imp fun _ hr => hr.1.1, trivial⟩

theorem triple_putContent (contentType : Option String) (body : Option (List UInt8)) :
    Triple (fun s => WithFiles (Begun storage r₀ first) s.memory)
      (putContent P storage request contentType body first)
      (fun response s => WithFiles (FilesSince storage r₀) s.memory ∧
        FileTold request first.id .ready "api.file.upload_completed" response s.memory.store)
      fun _ s => WithFiles (FilesSince storage r₀) s.memory := by
  have hrefused : ∀ refusal, Triple (fun s : FaultyStores Ω =>
      WithFiles (Begun storage r₀ first) s.memory) (pure (.refused refusal))
      (fun response s => WithFiles (FilesSince storage r₀) s.memory ∧
        FileTold request first.id .ready "api.file.upload_completed" response s.memory.store)
      fun (_ : JsError) s => WithFiles (FilesSince storage r₀) s.memory := fun refusal =>
    Triple.pure fun s hs => ⟨hs.imp fun _ hr => hr.1.1, trivial⟩
  unfold putContent
  refine Triple.ite (fun _ => hrefused _) fun hpending => ?_
  refine Triple.ite (fun _ => hrefused _) fun _ => ?_
  cases body with
  | none => exact hrefused _
  | some body =>
    refine Triple.ite (fun _ => hrefused _) fun _ => Triple.ite (fun _ => hrefused _) fun _ => ?_
    refine Triple.tryCatch (Y := fun _ s => WithFiles (FilesSince storage r₀) s.memory) ?_
      fun _ => Triple.pure fun s hs => ⟨hs, trivial⟩
    unfold persistContent
    refine Triple.bind ((triple_onStorage _ (WithFiles (Begun storage r₀ first))).weaken
      (fun _ hs => hs) (fun _ _ hs => hs) fun _ _ hs => hs.imp fun _ hr => hr.1.1) fun _ => ?_
    exact (triple_completeFileUpload P hevidenced hfirst htenant (not_not.mp hpending)).weaken
      (fun s hs => hs.2.imp fun _ hr => hr.1) (fun _ _ hs => hs) fun _ _ hs => hs

omit hevidenced htenant in
/-- A mark of a file is one write. -/
theorem triple_saveFile {file : FileRecord} (hid : file.id = first.id)
    (hadvanced : FileAdvanced first file) (hfile : FileEvidenced r₀ file)
    (hready : file.status = .ready → FileVerified storage file) :
    Triple (fun s : FaultyStores Ω => WithFiles (FilesUnwritten storage r₀) s.memory)
      (saveFile file)
      (fun _ s => WithFiles (FilesUnwritten storage r₀) s.memory)
      fun _ s => WithFiles (FilesUnwritten storage r₀) s.memory := by
  have hsave : Triple (FilesUnwritten storage r₀) (MemoryRepository.saveFileRecord file)
      (fun _ => FilesUnwritten storage r₀) fun _ => FilesUnwritten storage r₀ := by
    refine Triple.of_exec fun r hr => ?_
    unfold MemoryRepository.saveFileRecord
    cases hhas : r.fileRecordStore.has file.id with
    | false =>
      simp only [exec_bind, exec_get, hhas]
      exact hr
    | true =>
      simp only [exec_bind, exec_get, hhas]
      rw [← hid] at hfirst
      exact unwritten_saved hr hfirst hadvanced hfile hready rfl rfl
  refine Triple.bind (triple_onMemory (triple_repository hsave (fun _ hr => hr) fun _ _ hr => hr))
    fun _ => Triple.pure fun s hs => hs

omit htenant in
/-- The object of a file is deleted, or the file is as it was; its evidence is that of before. -/
theorem triple_deleteObject (hstatus : first.status ≠ .deleted) :
    Triple (fun s => WithFiles (FilesUnwritten storage r₀) s.memory)
      (deleteObject storage request first)
      (fun _ s => WithFiles (FilesUnwritten storage r₀) s.memory)
      fun _ s => WithFiles (FilesUnwritten storage r₀) s.memory := by
  have hstart := hevidenced.stored _ _ hfirst
  have hdeleting : Triple (fun s : FaultyStores Ω => WithFiles (FilesUnwritten storage r₀) s.memory)
      (saveFile { first with status := .deleting, updatedAt := request.deletingAt })
      (fun _ s => WithFiles (FilesUnwritten storage r₀) s.memory)
      fun _ s => WithFiles (FilesUnwritten storage r₀) s.memory := by
    refine triple_saveFile hfirst rfl ⟨rfl, ?_, fun _ => rfl⟩
      (evidenced_deleting hstart hstatus request.deletingAt) fun hready => nomatch hready
    cases hfile : first.status with
    | deleted => exact absurd hfile hstatus
    | _ => simp [stageOf]
  have hprevious := triple_saveFile (Ω := Ω) hfirst rfl (FileAdvanced.refl first) hstart
    (hevidenced.ready _ _ hfirst)
  unfold deleteObject
  refine Triple.tryCatch (Y := fun _ s => WithFiles (FilesUnwritten storage r₀) s.memory) ?_
    fun _ => ?_
  · have hobject : Triple (fun s : FaultyStores Ω => WithFiles (FilesUnwritten storage r₀) s.memory)
        (do
          onStorage (storage.deleteObject
            { first with status := .deleting, updatedAt := request.deletingAt })
          return true)
        (fun _ s => WithFiles (FilesUnwritten storage r₀) s.memory)
        fun _ s => WithFiles (FilesUnwritten storage r₀) s.memory :=
      Triple.bind (triple_onStorage _ _) fun _ => Triple.pure fun _ hs => hs.2
    exact Triple.ite (fun _ => Triple.bind hdeleting fun _ => hobject) fun _ => hobject
  · have hdone : Triple (fun s : FaultyStores Ω => WithFiles (FilesUnwritten storage r₀) s.memory)
        (return false) (fun _ s => WithFiles (FilesUnwritten storage r₀) s.memory)
        fun (_ : JsError) s => WithFiles (FilesUnwritten storage r₀) s.memory :=
      Triple.pure fun _ hs => hs
    refine Triple.ite (fun _ => Triple.bind ?_ fun _ => hdone) fun _ => hdone
    exact Triple.tryCatch hprevious fun _ => Triple.pure fun _ hs => hs

theorem triple_deleteFile :
    Triple (fun s => WithFiles (Begun storage r₀ first) s.memory)
      (deleteFile P storage request first)
      (fun response s => WithFiles (FilesSince storage r₀) s.memory ∧
        FileTold request first.id .deleted "api.file.deleted" response s.memory.store)
      fun _ s => WithFiles (FilesSince storage r₀) s.memory := by
  unfold deleteFile
  refine Triple.ite (fun hdeleted => ?_) fun hlive => ?_
  · exact (triple_enqueueAgain hdeleted _ _).weaken (fun s hs => hs.imp fun _ hr => hr.2)
      (fun _ _ hs => hs) fun _ _ hs => hs
  · refine Triple.bind ((triple_deleteObject hevidenced hfirst hlive).weaken
      (fun s hs => hs.imp fun _ hr => hr.1) (fun _ _ hs => hs)
      fun _ _ hs => hs.imp unwritten_since) fun objectDeleted => ?_
    refine Triple.ite (fun _ => ?_) fun _ =>
      Triple.pure fun s hs => ⟨hs.imp unwritten_since, trivial⟩
    refine Triple.tryCatch (Y := fun _ s => WithFiles (FilesSince storage r₀) s.memory) ?_
      fun _ => Triple.pure fun s hs => ⟨hs, trivial⟩
    exact triple_answerFinalized
      (triple_deleteStored P hevidenced hfirst htenant hlive)

end

/-! ### Requests -/

/-- What a request that is answered with success has made of its file. -/
def Fulfilled (request : FileCall) (m : MemoryStores) : Prop :=
  match request.action with
  | .createIntent _ => ∃ file, m.repository.getFileRecordById request.newFileId = some file ∧
      file.status = .pendingUpload
  | .complete fileId | .putContent fileId _ _ =>
    FileIs m request fileId.text .ready "api.file.upload_completed"
  | .delete fileId => FileIs m request fileId.text .deleted "api.file.deleted"

/-- The status of success of a request. -/
def successOf : FileAction → ℕ
  | .createIntent _ => 201
  | _ => 200

/-- A response that tells the truth, where it tells of success. -/
def Truthful (request : FileCall) : Response FileBody → MemoryStores → Prop
  | .answered code _, m => code = successOf request.action ∧ Fulfilled request m
  | .refused _, _ => True

section

variable {storage : UploadStorage Ω} {r₀ : MemoryRepository}

/-- The specification of a route: it keeps the evidence, and its answer is true. -/
def RouteSpec (storage : UploadStorage Ω) (r₀ : MemoryRepository) (request : FileCall)
    (use : FileM Ω (Response FileBody)) : Prop :=
  Triple (fun s => WithFiles (· = r₀) s.memory) use
    (fun response s => WithFiles (FilesSince storage r₀) s.memory ∧
      Truthful request response s.memory.store)
    fun _ s => WithFiles (FilesSince storage r₀) s.memory

variable (hevidenced : FilesEvidenced storage r₀)

include hevidenced

theorem filesSince_refl : ∀ r, r = r₀ → FilesSince storage r₀ r := by
  rintro r rfl
  exact ⟨hevidenced, FilesAdvance.refl r⟩

theorem routeSpec_refused (request : FileCall) (refusal : Refusal) :
    RouteSpec storage r₀ request (return .refused refusal) :=
  Triple.pure fun _ hs => ⟨hs.imp (filesSince_refl hevidenced), trivial⟩

/-- A read of the repository, on the way to what depends on it. -/
theorem routeSpec_read {α : Type} {request : FileCall} (read : MemoryRepository → α)
    {use : α → FileM Ω (Response FileBody)} (h : RouteSpec storage r₀ request (use (read r₀))) :
    RouteSpec storage r₀ request (readMemory read >>= use) := by
  refine Triple.bind ((triple_onMemory (triple_read read (· = r₀))).weaken (fun _ hs => hs)
    (fun _ _ hs => hs) fun _ _ hs => hs.imp (filesSince_refl hevidenced)) fun a => ?_
  refine Triple.of_exec fun s hs => ?_
  obtain ⟨⟨hsame, hread⟩, hkeyed⟩ := hs
  rw [hsame] at hread
  subst hread
  exact h.holds s ⟨hsame, hkeyed⟩

/-- A route on a stored file. -/
theorem routeSpec_onStoredFile {request : FileCall} {fileId : PathPart} {access : String}
    {use : FileRecord → FileM Ω (Response FileBody)} {status : FileStatus} {action : String}
    (hsuccess : successOf request.action = 200)
    (hfulfilled : ∀ m, FileIs m request fileId.text status action → Fulfilled request m)
    (huse : ∀ first, r₀.getFileRecordById first.id = some first →
      first.tenantId = request.tenantId.text →
        Triple (fun s => WithFiles (Begun storage r₀ first) s.memory) (use first)
          (fun response s => WithFiles (FilesSince storage r₀) s.memory ∧
            FileTold request first.id status action response s.memory.store)
          fun _ s => WithFiles (FilesSince storage r₀) s.memory) :
    RouteSpec storage r₀ request (onStoredFile request fileId access use) := by
  unfold onStoredFile
  refine routeSpec_read hevidenced _ ?_
  cases authorize request.principal request.tenantId.text "file_record" access with
  | some denied => exact routeSpec_refused hevidenced request denied
  | none =>
    dsimp only
    cases hfile : (r₀.getFileRecordById fileId.text).filter fun fileRecord =>
        fileRecord.tenantId = request.tenantId.text with
    | none => exact routeSpec_refused hevidenced request _
    | some first =>
      obtain ⟨hget, htenant⟩ := Option.filter_eq_some_iff.mp hfile
      have hid : first.id = fileId.text := Table.key_of_get hget
      rw [← hid] at hget hfulfilled
      refine (huse first hget (of_decide_eq_true htenant)).weaken (fun s hs => hs.imp ?_) ?_
        fun _ _ hs => hs
      · rintro r rfl
        have hsince := filesSince_refl hevidenced r rfl
        exact ⟨⟨hsince, rfl⟩, hsince, hget⟩
      · rintro (⟨code, body⟩ | refusal) s ⟨hsince, htold⟩
        · exact ⟨hsince, htold.1.trans hsuccess.symm, hfulfilled _ htold.2⟩
        · exact ⟨hsince, trivial⟩

/-- A new file waits for its upload, and has no evidence. -/
theorem triple_createFileRecord {file : FileRecord} (hstatus : file.status = .pendingUpload) :
    Triple (· = r₀) (MemoryRepository.createFileRecord file)
      (fun _ r => FilesSince storage r₀ r ∧ r.getFileRecordById file.id = some file)
      fun _ => (· = r₀) := by
  refine Triple.of_exec fun r hr => ?_
  subst hr
  unfold MemoryRepository.createFileRecord
  cases hhas : r.fileRecordStore.has file.id with
  | true =>
    simp only [exec_bind, exec_get, hhas]
    rfl
  | false =>
    have hnone : r.getFileRecordById file.id = none := by
      unfold MemoryRepository.getFileRecordById
      cases hget : r.fileRecordStore.get file.id with
      | none => rfl
      | some stored => simp [Table.has, hget] at hhas
    simp only [exec_bind, exec_get, hhas]
    refine ⟨⟨hevidenced.write rfl (fun _ _ _ _ => evidenceOf_congr rfl _ _ _) ?_ ?_,
      (FilesAdvance.refl r).write rfl fun first hfirst => ?_⟩, ?_⟩
    · unfold FileEvidenced
      rw [hstatus]
      exact hevidenced.absent _ hnone file.tenantId
    · intro hready
      rw [hstatus] at hready
      cases hready
    · rw [hnone] at hfirst
      cases hfirst
    · simp [MemoryRepository.getFileRecordById]

omit hevidenced in
theorem pending_of_create {P : Platform} {input : Json}
    {configuration : FileStorage.Configuration} {now : Int} {id : String} {file : FileRecord}
    (h : FileStorage.createPendingFileRecord P input configuration now id = .ok file) :
    file.id = id ∧ file.status = .pendingUpload := by
  unfold FileStorage.createPendingFileRecord at h
  obtain ⟨tenantId, -, h⟩ := bind_eq_ok.mp h
  obtain ⟨projectId, -, h⟩ := bind_eq_ok.mp h
  obtain ⟨createdBy, -, h⟩ := bind_eq_ok.mp h
  obtain ⟨normalized, -, h⟩ := bind_eq_ok.mp h
  dsimp only at h
  split at h
  · cases h
  · obtain rfl := Except.ok.inj h
    exact ⟨rfl, rfl⟩

/-- The `try` block of an upload intent. -/
theorem triple_storeIntent (P : Platform) {request : FileCall} {body : Option Json}
    (haction : request.action = .createIntent body) (parsed : Json) :
    RouteSpec storage r₀ request (storeIntent P storage request parsed) := by
  have hrefl := filesSince_refl hevidenced
  unfold RouteSpec storeIntent
  refine Triple.bind_lift (fun _ _ _ hs => hs.imp hrefl) fun file hcreated => ?_
  obtain ⟨hid, hstatus⟩ := pending_of_create hcreated
  refine Triple.bind ((triple_onStorage _ (WithFiles (· = r₀))).weaken (fun _ hs => hs)
    (fun _ _ hs => hs.2) fun _ _ hs => hs.imp hrefl) fun upload => ?_
  refine Triple.bind (triple_onMemory (triple_repository
    (triple_createFileRecord hevidenced hstatus) hrefl fun _ _ hr => hr.1)) fun _ => ?_
  refine Triple.bind_lift (fun _ _ _ hs => hs.imp fun _ hr => hr.1) fun item _ => ?_
  refine Triple.pure fun s hs => ⟨hs.imp fun _ hr => hr.1, ?_⟩
  rw [hid] at hs
  unfold Truthful Fulfilled
  rw [haction]
  exact ⟨rfl, file, hs.1.2, hstatus⟩

theorem routeSpec_checkedIntent (P : Platform) {request : FileCall} {body : Option Json}
    (haction : request.action = .createIntent body) (parsed : Json) (project : Project)
    (fieldReport : Option FieldReport) :
    RouteSpec storage r₀ request (checkedIntent P storage request parsed project fieldReport) := by
  unfold checkedIntent
  cases hrefusal : intentRefusal request parsed project fieldReport with
  | some refusal =>
    unfold intentRefusal at hrefusal
    split_ifs at hrefusal <;> cases hrefusal <;> exact routeSpec_refused hevidenced request _
  | none =>
    exact Triple.tryCatch (triple_storeIntent hevidenced P haction parsed) fun _ =>
      Triple.pure fun _ hs => ⟨hs, trivial⟩

theorem routeSpec_createIntent (P : Platform) {request : FileCall} {body : Option Json}
    (haction : request.action = .createIntent body) :
    RouteSpec storage r₀ request (createIntent P storage request body) := by
  have hrefused := fun refusal => routeSpec_refused (Ω := Ω) hevidenced request refusal
  unfold createIntent
  cases authorize request.principal request.tenantId.text "file_record" "create" with
  | some denied => exact hrefused denied
  | none =>
    cases body with
    | none => exact hrefused _
    | some parsed =>
      dsimp only
      cases ensureObjectBody parsed with
      | some message => exact hrefused _
      | none =>
        refine routeSpec_read hevidenced _ ?_
        cases (r₀.getProjectById (parsed.orElse "projectId" .null)).filter fun project =>
            project.tenantId = request.tenantId.text with
        | none => exact hrefused _
        | some project =>
          have hstore := routeSpec_checkedIntent hevidenced P haction parsed project
          dsimp only
          unfold namedReport
          split
          · exact routeSpec_read hevidenced _ (hstore _)
          · exact hstore none

theorem routeSpec_route (P : Platform) (request : FileCall) :
    RouteSpec storage r₀ request (route P storage request) := by
  unfold FileRoutes.route
  cases haction : request.action with
  | createIntent body => exact routeSpec_createIntent hevidenced P haction
  | complete fileId =>
    refine routeSpec_onStoredFile hevidenced (by rw [haction]; rfl)
      (fun m hfile => by unfold Fulfilled; rw [haction]; exact hfile)
      fun first hfirst htenant => triple_completeFile P hevidenced hfirst htenant
  | putContent fileId contentType body =>
    refine routeSpec_onStoredFile hevidenced (by rw [haction]; rfl)
      (fun m hfile => by unfold Fulfilled; rw [haction]; exact hfile)
      fun first hfirst htenant => triple_putContent P hevidenced hfirst htenant contentType body
  | delete fileId =>
    refine routeSpec_onStoredFile hevidenced (by rw [haction]; rfl)
      (fun m hfile => by unfold Fulfilled; rw [haction]; exact hfile)
      fun first hfirst htenant => triple_deleteFile P hevidenced hfirst htenant

/-- **One request keeps the evidence of every file, and its answer is true.** -/
theorem call_keeps (P : Platform) (request : FileCall) {s : FileStores Ω}
    (hstart : s.memory.repository = r₀) (hkeyed : KeyedOutbox s.memory.outbox) :
    FilesSince storage r₀ ((FileRoutes.api P storage).call request s).2.memory.repository ∧
      KeyedOutbox ((FileRoutes.api P storage).call request s).2.memory.outbox ∧
      ∀ response, ((FileRoutes.api P storage).call request s).1 = .ok response →
        Truthful request response ((FileRoutes.api P storage).call request s).2.memory := by
  have hspec : RouteSpec storage r₀ request (handleApiRequest (route P storage request)) :=
    Triple.tryCatch (routeSpec_route hevidenced P request) fun _ =>
      Triple.pure fun _ hs => ⟨hs, trivial⟩
  have hrun := hspec.holds ⟨⟨s.memory, request.faults⟩, s.storage⟩ ⟨hstart, hkeyed⟩
  unfold FileRoutes.api
  dsimp only
  rcases hexec : exec (handleApiRequest (route P storage request))
    ⟨⟨s.memory, request.faults⟩, s.storage⟩ with ⟨error | response, t⟩ <;> rw [hexec] at hrun
  · exact ⟨hrun.1, hrun.2, fun _ h => nomatch h⟩
  · refine ⟨hrun.1.1, hrun.1.2, fun other h => ?_⟩
    obtain rfl := Except.ok.inj h
    exact hrun.2

end

/-! ### Runs -/

section

variable (P : Platform) (storage : UploadStorage Ω)

/-- **After any requests one after the other, whatever fails in them, each file has the evidence of
its status, has moved forward only, and is as it was created.** -/
theorem files_evidenced {s : FileStores Ω} (hevidenced : FilesEvidenced storage s.memory.repository)
    (hkeyed : KeyedOutbox s.memory.outbox) (requests : List FileCall) :
    FilesEvidenced storage ((FileRoutes.api P storage).run s requests).2.memory.repository ∧
      FilesAdvance s.memory.repository
        ((FileRoutes.api P storage).run s requests).2.memory.repository ∧
      KeyedOutbox ((FileRoutes.api P storage).run s requests).2.memory.outbox := by
  refine (FileRoutes.api P storage).history
    (I := fun _ t => FilesEvidenced storage t.memory.repository ∧
      FilesAdvance s.memory.repository t.memory.repository ∧ KeyedOutbox t.memory.outbox)
    ⟨hevidenced, FilesAdvance.refl _, hkeyed⟩ (fun _ t request ht => ?_) requests
  obtain ⟨hfiles, hadvances, hkeyed⟩ := ht
  obtain ⟨hsince, hkeyed', -⟩ := call_keeps hfiles P request rfl hkeyed
  exact ⟨hsince.1, hadvances.trans hsince.2, hkeyed'⟩

/-- **A request that is answered with success has made its change: the file has the status it asked
for, with the evidence of it, and one job in the outbox under the key of the file.** -/
theorem file_answers {s : FileStores Ω} (hevidenced : FilesEvidenced storage s.memory.repository)
    (hkeyed : KeyedOutbox s.memory.outbox) (requests : List FileCall) (request : FileCall)
    {code : ℕ} {body : FileBody}
    (h : ((FileRoutes.api P storage).call request
      ((FileRoutes.api P storage).run s requests).2).1 = .ok (.answered code body)) :
    code = successOf request.action ∧
      Fulfilled request ((FileRoutes.api P storage).run s (requests ++ [request])).2.memory := by
  obtain ⟨hfiles, -, hlawful⟩ := files_evidenced P storage hevidenced hkeyed requests
  rw [Object.run_append]
  exact (call_keeps hfiles P request rfl hlawful).2.2 _ h

end

end

/-! ### A file is completed and deleted -/

/-- A repository without files and audit events has nothing to tell. -/
theorem filesEvidenced_empty {Ω : Type} {storage : UploadStorage Ω} {r : MemoryRepository}
    (hfiles : r.fileRecordStore = .empty) (hevents : r.auditEventStore = []) :
    FilesEvidenced storage r := by
  have hnone : ∀ id, r.getFileRecordById id = none := by
    intro id
    unfold MemoryRepository.getFileRecordById
    rw [hfiles]
    rfl
  refine ⟨fun id file hget => ?_, fun id file hget => ?_, fun id _ tenantId => ?_⟩
  · rw [hnone id] at hget
    cases hget
  · rw [hnone id] at hget
    cases hget
  · unfold evidenceOf MemoryRepository.listAuditEventsByTenant
    rw [hevents]
    exact ⟨rfl, rfl⟩

/-- A file that waits for its upload. -/
def waitingFile : FileRecord where
  id := "record-1"
  tenantId := "tenant-a"
  projectId := "project-1"
  fileClass := .document
  originalFilename := "plan.pdf"
  mimeType := "application/pdf"
  sizeBytes := 3
  storageKey := "tenants/tenant-a/files/record-1"
  createdBy := "user-1"
  createdAt := 0
  updatedAt := 0
  retentionUntil := 0

/-- A storage that has the objects it is asked for, and deletes no object at once. -/
def slowStorage : UploadStorage Bool where
  driver := "s3"
  headObject file := return some ⟨some file.tenantId, some file.mimeType, file.sizeBytes, none⟩
  putObject _ _ _ := throw (newError "Direct API uploads are disabled.")
  createDownloadTarget _ := return ⟨"presigned_url", "GET", none, some 300, []⟩
  getObject _ := return none
  deleteObject _ := do
    let ready ← get
    set true
    if !ready then throw (newError "Not deleted yet.")
  configuration := ⟨100, 30, []⟩
  createUploadTarget _ := return ⟨"presigned_url", "PUT", none, some 300, []⟩

/-- A request of an administrator on the file. -/
def onWaitingFile (action : FileAction) (eventId jobId : String) : FileCall where
  tenantId := ⟨"tenant-a", asked_tenant_ne_empty⟩
  principal := { tenantId := some "tenant-a", organizationRole := some "company_admin" }
  action := action
  auditDraw := ⟨eventId, "correlation-1", "request-1", "2026-01-01T00:00:00.000Z"⟩
  outboxDraw := ⟨jobId, 0⟩
  newFileId := "record-2"

/-- The upload is completed, with an outbox that fails at first; the deletion succeeds at the second
attempt. -/
def completeThenDelete : List FileCall :=
  [{ onWaitingFile (.complete ⟨"record-1", asked_record_ne_empty⟩) "event-1" "job-1" with
      faults := [none, none, none, some (.before (newError "Outbox is down."))] },
    onWaitingFile (.complete ⟨"record-1", asked_record_ne_empty⟩) "event-2" "job-2",
    onWaitingFile (.delete ⟨"record-1", asked_record_ne_empty⟩) "event-3" "job-3"]

/-- The stores before. -/
def waitingStores : FileStores Bool where
  memory := { repository := { fileRecordStore := Table.empty.put waitingFile } }
  storage := false

theorem waitingStores_evidenced :
    FilesEvidenced slowStorage waitingStores.memory.repository :=
  (filesEvidenced_empty (r := {}) rfl rfl).write rfl (fun _ _ _ _ => rfl) ⟨rfl, rfl⟩
    fun hready => nomatch hready

theorem waitingStores_keyed : KeyedOutbox waitingStores.memory.outbox :=
  ⟨[], outboxInvariant_empty⟩

/-- After the completion, its retry and a deletion that fails, the file is ready again. -/
theorem files_evidenced_retried :
    FilesEvidenced slowStorage ((FileRoutes.api ⟨fun _ => "", fun _ _ => "", id⟩ slowStorage).run
        waitingStores completeThenDelete).2.memory.repository ∧
      FilesAdvance waitingStores.memory.repository
        ((FileRoutes.api ⟨fun _ => "", fun _ _ => "", id⟩ slowStorage).run
          waitingStores completeThenDelete).2.memory.repository ∧
      KeyedOutbox ((FileRoutes.api ⟨fun _ => "", fun _ _ => "", id⟩ slowStorage).run
        waitingStores completeThenDelete).2.memory.outbox :=
  files_evidenced _ _ waitingStores_evidenced waitingStores_keyed _

/-- The next deletion succeeds. -/
def deleteAgain : FileCall :=
  onWaitingFile (.delete ⟨"record-1", asked_record_ne_empty⟩) "event-4" "job-4"

theorem file_answers_deleted :
    (∃ body, ((FileRoutes.api ⟨fun _ => "", fun _ _ => "", id⟩ slowStorage).call deleteAgain
        ((FileRoutes.api ⟨fun _ => "", fun _ _ => "", id⟩ slowStorage).run waitingStores
          completeThenDelete).2).1 = .ok (.answered 200 body)) ∧
      200 = successOf deleteAgain.action ∧
        Fulfilled deleteAgain ((FileRoutes.api ⟨fun _ => "", fun _ _ => "", id⟩ slowStorage).run
          waitingStores (completeThenDelete ++ [deleteAgain])).2.memory := by
  have hdeleted : ∃ body, ((FileRoutes.api ⟨fun _ => "", fun _ _ => "", id⟩ slowStorage).call
      deleteAgain ((FileRoutes.api ⟨fun _ => "", fun _ _ => "", id⟩ slowStorage).run waitingStores
        completeThenDelete).2).1 = .ok (.answered 200 body) := ⟨_, rfl⟩
  obtain ⟨body, hanswer⟩ := hdeleted
  exact ⟨⟨body, hanswer⟩,
    file_answers _ _ waitingStores_evidenced waitingStores_keyed completeThenDelete _ hanswer⟩

example : ((FileRoutes.api ⟨fun _ => "", fun _ _ => "", id⟩ slowStorage).run
    waitingStores completeThenDelete).2.memory.repository.fileRecordStore.values.map
      FileRecord.status = [.ready] := by
  rfl

end Xygo.Analysis
