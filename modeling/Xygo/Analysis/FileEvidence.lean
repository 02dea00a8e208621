import Xygo.Analysis.AuditChain
import Xygo.Analysis.OutboxInvariant
import Xygo.Model.FileRoutes

/-!
# The evidence of a file

The audit events of a file tell its status: none while it waits for its upload, one completion once
it is ready, one deletion once it is deleted (`FilesEvidenced`). Each write of the repository that
the routes make keeps this, and moves its file forward only (`FilesAdvance`). What a request does
while it runs is said against the repository it began with, since a deletion that fails takes its
mark back.
-/

set_option autoImplicit false

namespace Xygo.Analysis

open Xygo.Computation Xygo.Computation.Effect Xygo.Model Xygo.Model.FileRoutes

/-! ### The evidence of a file -/

/-- The number of audit events of an action on a file, in the chain of a tenant. -/
def evidenceOf (r : MemoryRepository) (tenantId action fileId : String) : ℕ :=
  (r.listAuditEventsByTenant tenantId).countP fun event =>
    event.action = action && event.resourceType = "file_record" && event.resourceId = fileId

/-- The completions of a file. -/
def completionsOf (r : MemoryRepository) (file : FileRecord) : ℕ :=
  evidenceOf r file.tenantId "api.file.upload_completed" file.id

/-- The deletions of a file. -/
def deletionsOf (r : MemoryRepository) (file : FileRecord) : ℕ :=
  evidenceOf r file.tenantId "api.file.deleted" file.id

/-- The evidence of a file is that of its status. -/
def FileEvidenced (r : MemoryRepository) (file : FileRecord) : Prop :=
  match file.status with
  | .pendingUpload => completionsOf r file = 0 ∧ deletionsOf r file = 0
  | .ready => completionsOf r file = 1 ∧ deletionsOf r file = 0
  | .deleting => completionsOf r file ≤ 1 ∧ deletionsOf r file = 0
  | .deleted => completionsOf r file ≤ 1 ∧ deletionsOf r file = 1

section

variable {Ω : Type} (storage : UploadStorage Ω)

/-- The storage has answered for a file with an object of its tenant, type, size and checksum. -/
def FileVerified (file : FileRecord) : Prop :=
  ∃ asked ω ω' object, exec (storage.headObject asked) ω = (.ok (some object), ω') ∧
    asked.storageKey = file.storageKey ∧ object.tenantId = some file.tenantId ∧
      object.contentType = some file.mimeType ∧ object.sizeBytes = file.sizeBytes ∧
        object.checksumSha256 = file.checksumSha256

/-- Each stored file has the evidence of its status, a ready one is verified, and there is no
evidence of a file that is not stored. -/
structure FilesEvidenced (r : MemoryRepository) : Prop where
  stored : ∀ id file, r.getFileRecordById id = some file → FileEvidenced r file
  ready : ∀ id file, r.getFileRecordById id = some file → file.status = .ready →
    FileVerified storage file
  absent : ∀ id, r.getFileRecordById id = none → ∀ tenantId,
    evidenceOf r tenantId "api.file.upload_completed" id = 0 ∧
      evidenceOf r tenantId "api.file.deleted" id = 0

end

/-- The evidence of an appended event is counted once. -/
theorem evidenceOf_append {r r' : MemoryRepository} {event : AuditEvent}
    (h : r'.auditEventStore = r.auditEventStore ++ [event]) (tenantId action fileId : String) :
    evidenceOf r' tenantId action fileId = evidenceOf r tenantId action fileId +
      if event.tenantId = tenantId ∧ event.action = action ∧ event.resourceType = "file_record" ∧
        event.resourceId = fileId then 1 else 0 := by
  unfold evidenceOf MemoryRepository.listAuditEventsByTenant
  rw [h, List.filter_append, List.countP_append]
  congr 1
  by_cases htenant : event.tenantId = tenantId
  · simp [htenant, and_assoc]
  · simp [htenant]

/-- The evidence is that of the events. -/
theorem evidenceOf_congr {r r' : MemoryRepository} (h : r'.auditEventStore = r.auditEventStore)
    (tenantId action fileId : String) :
    evidenceOf r' tenantId action fileId = evidenceOf r tenantId action fileId := by
  unfold evidenceOf MemoryRepository.listAuditEventsByTenant
  rw [h]

theorem evidenced_congr {r r' : MemoryRepository} (h : r'.auditEventStore = r.auditEventStore)
    {file : FileRecord} : FileEvidenced r' file ↔ FileEvidenced r file := by
  unfold FileEvidenced completionsOf deletionsOf
  rw [evidenceOf_congr h, evidenceOf_congr h]

section

variable {Ω : Type} {storage : UploadStorage Ω}

/-- A write of one file keeps the others. -/
theorem FilesEvidenced.write {r r' : MemoryRepository} (h : FilesEvidenced storage r)
    {file : FileRecord} (hstore : r'.fileRecordStore = r.fileRecordStore.put file)
    (hothers : ∀ tenantId action fileId, fileId ≠ file.id →
      evidenceOf r' tenantId action fileId = evidenceOf r tenantId action fileId)
    (hfile : FileEvidenced r' file) (hready : file.status = .ready → FileVerified storage file) :
    FilesEvidenced storage r' where
  stored id other hget := by
    unfold MemoryRepository.getFileRecordById at hget
    rw [hstore, Table.get_put] at hget
    split at hget
    · obtain rfl := Option.some.inj hget
      exact hfile
    · rename_i hid
      have hother := h.stored id other hget
      have hkey : other.id = id := Table.key_of_get hget
      unfold FileEvidenced completionsOf deletionsOf at hother ⊢
      rw [hkey, hothers _ _ _ hid, hothers _ _ _ hid]
      rwa [hkey] at hother
  ready id other hget := by
    unfold MemoryRepository.getFileRecordById at hget
    rw [hstore, Table.get_put] at hget
    split at hget
    · obtain rfl := Option.some.inj hget
      exact hready
    · exact h.ready id other hget
  absent id hget tenantId := by
    unfold MemoryRepository.getFileRecordById at hget
    rw [hstore, Table.get_put] at hget
    split at hget
    · cases hget
    · rename_i hid
      rw [hothers _ _ _ hid, hothers _ _ _ hid]
      exact h.absent id hget tenantId

end

/-! ### Files move forward -/

/-- The place of a status in the life of a file. -/
def stageOf : FileStatus → ℕ
  | .pendingUpload => 0
  | .ready => 1
  | .deleting => 2
  | .deleted => 3

theorem stageOf_le (status : FileStatus) : stageOf status ≤ 3 := by cases status <;> decide

/-- What a file was created with, besides its status and what a completion or a deletion notes. -/
def createdWith (file : FileRecord) : FileRecord :=
  { file with
    status := .pendingUpload
    checksumSha256 := none
    updatedAt := file.createdAt
    deletedAt := none }

/-- A file after some requests. -/
structure FileAdvanced (file later : FileRecord) : Prop where
  created : createdWith later = createdWith file
  stage : stageOf file.status ≤ stageOf later.status
  checksum : file.status ≠ .pendingUpload → later.checksumSha256 = file.checksumSha256

theorem FileAdvanced.refl (file : FileRecord) : FileAdvanced file file :=
  ⟨rfl, le_rfl, fun _ => rfl⟩

theorem FileAdvanced.trans {file later latest : FileRecord} (h : FileAdvanced file later)
    (h' : FileAdvanced later latest) : FileAdvanced file latest where
  created := h'.created.trans h.created
  stage := h.stage.trans h'.stage
  checksum hstatus := by
    have hlater : later.status ≠ .pendingUpload := by
      intro hpending
      have hstage := h.stage
      rw [hpending] at hstage
      apply hstatus
      cases hfile : file.status with
      | pendingUpload => rfl
      | _ => rw [hfile] at hstage; simp [stageOf] at hstage
    rw [h'.checksum hlater, h.checksum hstatus]

/-- The files of a repository, after some requests. -/
def FilesAdvance (r r' : MemoryRepository) : Prop :=
  ∀ id file, r.getFileRecordById id = some file →
    ∃ later, r'.getFileRecordById id = some later ∧ FileAdvanced file later

theorem FilesAdvance.refl (r : MemoryRepository) : FilesAdvance r r :=
  fun _ file h => ⟨file, h, FileAdvanced.refl file⟩

theorem FilesAdvance.trans {r r' r'' : MemoryRepository} (h : FilesAdvance r r')
    (h' : FilesAdvance r' r'') : FilesAdvance r r'' := by
  intro id file hget
  obtain ⟨later, hlater, hadvanced⟩ := h id file hget
  obtain ⟨latest, hlatest, hadvanced'⟩ := h' id later hlater
  exact ⟨latest, hlatest, hadvanced.trans hadvanced'⟩

/-- A write of one file that moves forward. -/
theorem FilesAdvance.write {r₀ r r' : MemoryRepository} (h : FilesAdvance r₀ r) {file : FileRecord}
    (hstore : r'.fileRecordStore = r.fileRecordStore.put file)
    (hfile : ∀ first, r₀.getFileRecordById file.id = some first → FileAdvanced first file) :
    FilesAdvance r₀ r' := by
  intro id first hfirst
  unfold MemoryRepository.getFileRecordById
  rw [hstore, Table.get_put]
  split
  · rename_i hid
    subst hid
    exact ⟨file, rfl, hfile first hfirst⟩
  · exact h id first hfirst

/-! ### The calls a route makes -/

/-- The outbox store has come out of its own operations. -/
def KeyedOutbox (outbox : OutboxStore) : Prop := ∃ log, OutboxInvariant log outbox

/-- A job for an action on a file is in the outbox under a key, and no other job is. -/
def HasJob (outbox : OutboxStore) (key action fileId : String) : Prop :=
  ∃ id job, outbox.items.get id = some job ∧ job.idempotencyKey = trim key ∧
    job.event.eventType = action ∧ job.event.aggregateId = fileId ∧
      ∀ id' job', outbox.items.get id' = some job' → job'.idempotencyKey = trim key → id' = id

/-- What holds of the repository, beside a lawful outbox. -/
def WithFiles (A : MemoryRepository → Prop) (s : Faulty JsError MemoryStores) : Prop :=
  A s.store.repository ∧ KeyedOutbox s.store.outbox

theorem WithFiles.imp {A B : MemoryRepository → Prop} (h : ∀ r, A r → B r)
    {s : Faulty JsError MemoryStores} (hs : WithFiles A s) : WithFiles B s :=
  ⟨h _ hs.1, hs.2⟩

/-- A call of the repository, from what its operation does. -/
theorem triple_repository {α : Type} {op : RepositoryM α} {A B : MemoryRepository → Prop}
    {Q : α → MemoryRepository → Prop} (h : Triple A op Q fun _ => A) (hbefore : ∀ r, A r → B r)
    (hafter : ∀ a r, Q a r → B r) :
    Triple (WithFiles A) (Model.onRepository op) (fun a => WithFiles (Q a))
      fun _ => WithFiles B := by
  have hfocus : Triple
      (fun m : MemoryStores => A m.repository ∧ KeyedOutbox m.outbox)
      (focus MemoryStores.repository (fun s r => { s with repository := r }) op)
      (fun a m => Q a m.repository ∧ KeyedOutbox m.outbox)
      fun _ m => A m.repository ∧ KeyedOutbox m.outbox := by
    refine Triple.of_exec fun m hm => ?_
    rw [exec_focus]
    have hop := h.holds m.repository hm.1
    rcases hrun : exec op m.repository with ⟨_ | a, r⟩
    · rw [hrun] at hop
      exact ⟨hop, hm.2⟩
    · rw [hrun] at hop
      exact ⟨hop, hm.2⟩
  refine (Faulty.triple_call hfocus).weaken (fun _ hs => hs) (fun _ _ hs => hs) ?_
  rintro _ s (hs | ⟨a, hs⟩ | ⟨_, hs⟩)
  · exact ⟨hbefore _ hs.1, hs.2⟩
  · exact ⟨hafter a _ hs.1, hs.2⟩
  · exact ⟨hbefore _ hs.1, hs.2⟩

/-- A call that reads. -/
theorem triple_read {α : Type} (read : MemoryRepository → α) (A : MemoryRepository → Prop) :
    Triple (WithFiles A)
      (Model.onRepository do
        let r ← get
        return read r)
      (fun a => WithFiles fun r => A r ∧ a = read r) fun _ => WithFiles A := by
  refine triple_repository (Triple.bind (R := fun a r => A r ∧ a = r)
    (Triple.get fun _ hr => ⟨hr, rfl⟩) fun a => Triple.pure ?_) (fun _ hr => hr) fun _ _ hr => hr.1
  rintro r ⟨hr, rfl⟩
  exact ⟨hr, rfl⟩

/-- A lawful outbox has one job for a key it has accepted. -/
theorem hasJob_of_enqueue {outbox outbox' : OutboxStore} {event : OutboxEvent} {key : String}
    {now : Int} {job : OutboxJob} (hkeyed : KeyedOutbox outbox)
    (h : exec (enqueue event (some key) now) outbox = (.ok job, outbox')) :
    KeyedOutbox outbox' ∧ HasJob outbox' key event.eventType event.aggregateId := by
  obtain ⟨log, hlog⟩ := hkeyed
  have hcall : memoryOutbox.call (.enqueue event (some key) now) outbox =
      (.ok (.job job), outbox') := by
    simp only [memoryOutbox, OutboxCall.operation, exec_map, h]
  have hout := outcome_enqueue outbox event (some key) now
  rw [hcall] at hout
  have hstep := hlog.step hout
  have hkey : ∀ {built}, newJob event (some key) now = .ok built →
      built.idempotencyKey = trim key ∧ built.event = event := by
    intro built hbuilt
    unfold newJob at hbuilt
    obtain ⟨_, -, hbuilt⟩ := bind_eq_ok.mp hbuilt
    obtain ⟨_, -, hbuilt⟩ := bind_eq_ok.mp hbuilt
    obtain ⟨_, -, hbuilt⟩ := bind_eq_ok.mp hbuilt
    obtain ⟨_, -, hbuilt⟩ := bind_eq_ok.mp hbuilt
    obtain ⟨_, -, hbuilt⟩ := bind_eq_ok.mp hbuilt
    obtain ⟨own, hown, hbuilt⟩ := bind_eq_ok.mp hbuilt
    obtain rfl := Except.ok.inj hbuilt
    unfold Model.requiredString at hown
    split at hown
    · cases hown
    · exact ⟨(Except.ok.inj hown).symm, rfl⟩
  have hunique : ∀ id, outbox'.idempotencyKeys.get (trim key) = some id →
      ∀ id' job', outbox'.items.get id' = some job' → job'.idempotencyKey = trim key →
        id' = id := by
    intro id hid id' job' hget hjob
    have hbound := (hstep.bound (trim key) id').mpr ⟨job', hget, hjob⟩
    exact Option.some.inj (hbound.symm.trans hid)
  refine ⟨⟨_, hstep⟩, ?_⟩
  cases hout with
  | enqueued built freeKey freeId =>
    obtain ⟨hjobKey, hevent⟩ := hkey built
    refine ⟨job.id, job, by simp, hjobKey, by rw [hevent], by rw [hevent], hunique job.id ?_⟩
    rw [← hjobKey]
    simp
  | @duplicate _ _ _ candidate existingId _ built boundKey found same =>
    obtain ⟨hjobKey, hevent⟩ := hkey built
    rw [hjobKey] at boundKey
    have hown := (hstep.bound (trim key) existingId).mp boundKey
    obtain ⟨own, hownGet, hownKey⟩ := hown
    obtain rfl : job = own := Option.some.inj (found.symm.trans hownGet)
    unfold sameLogicalEvent at same
    simp only [Bool.and_eq_true, decide_eq_true_eq] at same
    exact ⟨existingId, job, found, hownKey, same.1.1.1.2, same.2, hunique existingId boundKey⟩

/-- An enqueued job is in the outbox once. -/
theorem triple_enqueueMemory (event : OutboxEvent) (key : String) (now : Int)
    (A : MemoryRepository → Prop) :
    Triple (WithFiles A) (enqueueMemory event key now)
      (fun _ s => WithFiles A s ∧ HasJob s.store.outbox key event.eventType event.aggregateId)
      fun _ => WithFiles A := by
  have hfocus : Triple
      (fun m : MemoryStores => A m.repository ∧ KeyedOutbox m.outbox)
      (focus MemoryStores.outbox (fun s o => { s with outbox := o })
        (enqueue event (some key) now))
      (fun _ m => (A m.repository ∧ KeyedOutbox m.outbox) ∧
        HasJob m.outbox key event.eventType event.aggregateId)
      fun _ m => A m.repository ∧ KeyedOutbox m.outbox := by
    refine Triple.of_exec fun m hm => ?_
    rw [exec_focus]
    rcases hrun : exec (enqueue event (some key) now) m.outbox with ⟨error | job, outbox'⟩
    · refine ⟨hm.1, ?_⟩
      obtain ⟨log, hlog⟩ := hm.2
      have hcall : memoryOutbox.call (.enqueue event (some key) now) m.outbox =
          (.error error, outbox') := by
        simp only [memoryOutbox, OutboxCall.operation, exec_map, hrun]
      have hout := outcome_enqueue m.outbox event (some key) now
      rw [hcall] at hout
      exact ⟨_, hlog.step hout⟩
    · obtain ⟨hkeyed, hjob⟩ := hasJob_of_enqueue hm.2 hrun
      exact ⟨⟨hm.1, hkeyed⟩, hjob⟩
  refine Triple.bind ((Faulty.triple_call hfocus).weaken (fun _ hs => hs) (fun _ _ hs => hs) ?_)
    fun _ => Triple.pure fun _ hs => hs
  rintro _ s (hs | ⟨-, hs⟩ | ⟨-, hs⟩)
  · exact hs
  · exact hs.1
  · exact hs

/-- An event is the evidence of an action on a file. -/
structure EvidenceFor (tenantId action fileId : String) (event : AuditEvent) : Prop where
  tenant : event.tenantId = tenantId
  action : event.action = action
  resource : event.resourceType = "file_record"
  file : event.resourceId = fileId

theorem evidenceFor_built {P : Platform} {request : FileRequest}
    {action fileId before after : String} {events : List AuditEvent} {draw : AuditDraw}
    {event : AuditEvent}
    (h : buildTenantAuditEvent ⟨P, "", request.signingKey⟩
      (request.audit action fileId before after) events draw = .ok event) :
    EvidenceFor request.tenantId action fileId event := by
  unfold buildTenantAuditEvent createAuditEvent at h
  split at h
  · cases h
  · obtain rfl := Except.ok.inj h
    exact ⟨rfl, rfl, rfl, rfl⟩

theorem outboxEvent_built {request : FileRequest} {action fileId : String} {event : OutboxEvent}
    (h : request.outboxEvent action fileId = .ok event) :
    event.eventType = action ∧ event.aggregateId = fileId := by
  unfold FileRequest.outboxEvent createOutboxEvent at h
  split at h
  · cases h
  · obtain rfl := Except.ok.inj h
    exact ⟨rfl, rfl⟩

/-- A file is finalized with its evidence, and its job is in the outbox. -/
theorem triple_finalizeFile (P : Platform) (request : FileRequest) (action : String)
    (file : FileRecord) (before after : String) {A B C : MemoryRepository → Prop}
    (hwrite : ∀ r r' event, A r → EvidenceFor request.tenantId action file.id event →
      r'.fileRecordStore = r.fileRecordStore.put file →
        r'.auditEventStore = r.auditEventStore ++ [event] → B r')
    (hbefore : ∀ r, A r → C r) (hafter : ∀ r, B r → C r) :
    Triple (WithFiles A) (finalizeFile P request action file before after)
      (fun _ s => WithFiles B s ∧
        HasJob s.store.outbox (request.outboxKey action file.id) action file.id)
      fun _ => WithFiles C := by
  unfold finalizeFile readTenantAuditEvent
  simp only [bind_assoc]
  refine Triple.bind ((triple_read _ A).weaken (fun _ hs => hs) (fun _ _ hs => hs)
    fun _ _ hs => hs.imp hbefore) fun events => ?_
  refine Triple.bind_lift (fun _ _ _ hs => hs.imp fun r hr => hbefore r hr.1) fun event hevent => ?_
  refine Triple.bind_lift (fun _ _ _ hs => hs.imp fun r hr => hbefore r hr.1)
    fun outboxEvent houtbox => ?_
  have hfinalize : Triple (fun r => A r ∧ events = r.listAuditEventsByTenant
      (request.audit action file.id before after).tenantId)
      (finalizeFileRecord file event) (fun _ => B) fun _ r => A r ∧ events =
        r.listAuditEventsByTenant (request.audit action file.id before after).tenantId := by
    refine Triple.of_exec fun r hr => ?_
    unfold finalizeFileRecord
    cases hhas : r.fileRecordStore.has file.id with
    | false =>
      simp only [exec_bind, exec_get, hhas]
      exact hr
    | true =>
      simp only [exec_bind, exec_get, hhas]
      exact hwrite r _ event hr.1 (evidenceFor_built hevent) rfl rfl
  refine Triple.bind (triple_repository hfinalize (fun r hr => hbefore r hr.1)
    fun _ r hr => hafter r hr) fun _ => ?_
  obtain ⟨htype, haggregate⟩ := outboxEvent_built houtbox
  have henqueue := triple_enqueueMemory outboxEvent (request.outboxKey action file.id) request.now B
  rw [htype, haggregate] at henqueue
  exact henqueue.weaken (fun _ hs => hs) (fun _ _ hs => hs) fun _ _ hs => hs.imp hafter

section

variable {Ω : Type} (storage : UploadStorage Ω) (r₀ : MemoryRepository)

/-- A repository that keeps the evidence, some way into a request that began with `r₀`. -/
def FilesSince (r : MemoryRepository) : Prop := FilesEvidenced storage r ∧ FilesAdvance r₀ r

/-- The same, where the request has written no evidence yet. -/
def FilesUnwritten (r : MemoryRepository) : Prop :=
  FilesSince storage r₀ r ∧ r.auditEventStore = r₀.auditEventStore

/-- The same, where a file is stored. -/
def FileStored (file : FileRecord) (r : MemoryRepository) : Prop :=
  FilesSince storage r₀ r ∧ r.getFileRecordById file.id = some file

end

section

variable {Ω : Type} {storage : UploadStorage Ω} {r₀ : MemoryRepository}

/-- The evidence after one more event of a file. -/
theorem evidence_finalized {r r' : MemoryRepository} {event : AuditEvent}
    {action : String} (file : FileRecord) (hevents : r.auditEventStore = r₀.auditEventStore)
    (hevent : EvidenceFor file.tenantId action file.id event)
    (happend : r'.auditEventStore = r.auditEventStore ++ [event]) (own : String) :
    evidenceOf r' file.tenantId own file.id =
      evidenceOf r₀ file.tenantId own file.id + if action = own then 1 else 0 := by
  rw [evidenceOf_append happend, evidenceOf_congr hevents]
  simp [hevent.tenant, hevent.action, hevent.resource, hevent.file]

/-- A file is finalized: its record is replaced, and its evidence is appended. -/
theorem filesSince_finalized {r r' : MemoryRepository} {event : AuditEvent} {action : String}
    {first file : FileRecord} (h : FilesUnwritten storage r₀ r)
    (hfirst : r₀.getFileRecordById file.id = some first) (hadvanced : FileAdvanced first file)
    (hevent : EvidenceFor file.tenantId action file.id event)
    (hstore : r'.fileRecordStore = r.fileRecordStore.put file)
    (happend : r'.auditEventStore = r.auditEventStore ++ [event]) (hfile : FileEvidenced r' file)
    (hready : file.status = .ready → FileVerified storage file) :
    FileStored storage r₀ file r' := by
  obtain ⟨⟨hevidenced, hadvances⟩, -⟩ := h
  refine ⟨⟨hevidenced.write hstore (fun tenantId own fileId hother => ?_) hfile hready,
    hadvances.write hstore fun other hother => ?_⟩, ?_⟩
  · rw [evidenceOf_append happend, if_neg, Nat.add_zero]
    rintro ⟨-, -, -, hid⟩
    exact hother (hid.symm.trans hevent.file)
  · obtain rfl : first = other := Option.some.inj (hfirst.symm.trans hother)
    exact hadvanced
  · unfold MemoryRepository.getFileRecordById
    rw [hstore, Table.get_put, if_pos rfl]

/-- The record of a completed upload has the evidence of a ready file. -/
theorem filesSince_completed {r r' : MemoryRepository} {event : AuditEvent} {first : FileRecord}
    {object : StoredObject} {completedAt : Int} (h : FilesUnwritten storage r₀ r)
    (hstart : FileEvidenced r₀ first) (hfirst : r₀.getFileRecordById first.id = some first)
    (hpending : first.status = .pendingUpload)
    (hverified : FileVerified storage (completedRecord first object completedAt))
    (hevent : EvidenceFor first.tenantId "api.file.upload_completed" first.id event)
    (hstore : r'.fileRecordStore =
      r.fileRecordStore.put (completedRecord first object completedAt))
    (happend : r'.auditEventStore = r.auditEventStore ++ [event]) :
    FileStored storage r₀ (completedRecord first object completedAt) r' := by
  have hcount := evidence_finalized (completedRecord first object completedAt) h.2 hevent
    happend
  unfold FileEvidenced at hstart
  rw [hpending] at hstart
  refine filesSince_finalized h hfirst ⟨rfl, ?_, fun hstatus => absurd hpending hstatus⟩ hevent
    hstore happend ?_ fun _ => hverified
  · rw [hpending]
    exact Nat.zero_le _
  · refine ⟨(hcount _).trans ?_, (hcount _).trans ?_⟩
    · rw [if_pos rfl]
      exact congrArg (· + 1) hstart.1
    · rw [if_neg (by decide), Nat.add_zero]
      exact hstart.2

/-- The record of a deleted file has the evidence of one. -/
theorem filesSince_deleted {r r' : MemoryRepository} {event : AuditEvent} {first : FileRecord}
    {deletedAt : Int} (h : FilesUnwritten storage r₀ r) (hstart : FileEvidenced r₀ first)
    (hfirst : r₀.getFileRecordById first.id = some first) (hstatus : first.status ≠ .deleted)
    (hevent : EvidenceFor first.tenantId "api.file.deleted" first.id event)
    (hstore : r'.fileRecordStore = r.fileRecordStore.put (deletedRecord first deletedAt))
    (happend : r'.auditEventStore = r.auditEventStore ++ [event]) :
    FileStored storage r₀ (deletedRecord first deletedAt) r' := by
  have hcount := evidence_finalized (deletedRecord first deletedAt) h.2 hevent happend
  have hlive : completionsOf r₀ first ≤ 1 ∧ deletionsOf r₀ first = 0 := by
    unfold FileEvidenced at hstart
    cases hfirstStatus : first.status <;> rw [hfirstStatus] at hstart <;> simp_all
  refine filesSince_finalized h hfirst ⟨rfl, ?_, fun _ => rfl⟩ hevent hstore happend ?_
    fun hready => ?_
  · exact stageOf_le first.status
  · refine ⟨le_of_eq_of_le ((hcount _).trans ?_) hlive.1, (hcount _).trans ?_⟩
    · rw [if_neg (by decide), Nat.add_zero]
      rfl
    · rw [if_pos rfl]
      exact congrArg (· + 1) hlive.2
  · cases hready

/-- A file is marked: its record is replaced, and nothing else is written. -/
theorem unwritten_saved {r r' : MemoryRepository} {first file : FileRecord}
    (h : FilesUnwritten storage r₀ r) (hfirst : r₀.getFileRecordById file.id = some first)
    (hadvanced : FileAdvanced first file) (hfile : FileEvidenced r₀ file)
    (hready : file.status = .ready → FileVerified storage file)
    (hstore : r'.fileRecordStore = r.fileRecordStore.put file)
    (hevents : r'.auditEventStore = r.auditEventStore) : FilesUnwritten storage r₀ r' := by
  obtain ⟨⟨hevidenced, hadvances⟩, hsame⟩ := h
  refine ⟨⟨hevidenced.write hstore (fun tenantId own fileId _ => evidenceOf_congr hevents _ _ _)
    ((evidenced_congr (hevents.trans hsame)).mpr hfile) hready,
    hadvances.write hstore fun other hother => ?_⟩, hevents.trans hsame⟩
  obtain rfl : first = other := Option.some.inj (hfirst.symm.trans hother)
  exact hadvanced

/-- A live file keeps its evidence where it is marked as being deleted. -/
theorem evidenced_deleting {first : FileRecord} (h : FileEvidenced r₀ first)
    (hstatus : first.status ≠ .deleted) (deletingAt : Int) :
    FileEvidenced r₀ { first with status := .deleting, updatedAt := deletingAt } := by
  unfold FileEvidenced at h
  have hlive : completionsOf r₀ first ≤ 1 ∧ deletionsOf r₀ first = 0 := by
    cases hfirst : first.status <;> rw [hfirst] at h <;> simp_all
  exact hlive

end

end Xygo.Analysis
