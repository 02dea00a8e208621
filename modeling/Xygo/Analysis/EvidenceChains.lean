import Xygo.Model.AuditWriters
import Xygo.Analysis.AuditChain
import Xygo.Analysis.QueuedDeliveries
import Xygo.Analysis.TamperEvidence

/-!
# The chain of every tenant, one operation after the other

Each writer of evidence links its event to the last one of its tenant, and no other operation runs
in between, so the events of every tenant verify after any list of operations, whatever fails of
their calls (`chains_verify`): without a key, and with the key all of them signed with. The copies
that storage makes by `JSON.parse(JSON.stringify(event))` verify as well.
-/

set_option autoImplicit false

namespace Xygo.Analysis

open Xygo.Computation Xygo.Model Xygo.Computation.Effect

/-! ### Events and their copies -/

/-- The fields of a stored event. -/
def allFields : List AuditField :=
  hashedFields ++ [.eventHash, .signature]

/-- The members of a stored event; a field that is absent makes none. -/
def recordMembers (r : AuditRecord) : List (String × Json) :=
  allFields.filterMap fun field => (r field).map fun value => (field.name, value)

/-- What `JSON.parse` reads from the text of an event.
SOURCE: apps/api/src/repositories/memory.js:18-20 -/
def JsonCopy (r copy : AuditRecord) : Prop :=
  WrittenRecord copy ∧
    stringify (.object (recordMembers copy)) = stringify (.object (recordMembers r))

/-- INTERNAL: the member of a field is its value. -/
theorem mem_recordMembers {r : AuditRecord} {field : AuditField} {value : Json} :
    (field.name, value) ∈ recordMembers r ↔ r field = some value := by
  have hall : ∀ own : AuditField, own ∈ allFields := by
    intro own
    cases own <;> decide
  have hnames : ∀ a b : AuditField, a.name = b.name → a = b := by
    intro a b
    cases a <;> cases b <;> first | exact fun _ => rfl | exact fun h => absurd h (by decide)
  unfold recordMembers
  rw [List.mem_filterMap]
  constructor
  · rintro ⟨own, -, hown⟩
    obtain ⟨other, hother, hpair⟩ := Option.map_eq_some_iff.mp hown
    obtain ⟨hname, rfl⟩ := Prod.mk.inj hpair
    obtain rfl := hnames own field hname
    exact hother
  · intro hvalue
    exact ⟨field, hall field, by rw [hvalue]; rfl⟩

/-- INTERNAL: an event that is written has written members. -/
theorem written_recordMembers {r : AuditRecord} (h : WrittenRecord r) :
    written (.object (recordMembers r)) = true := by
  refine (membersWritten_iff _).mpr fun member hmember => ?_
  obtain ⟨field, -, hfield⟩ := List.mem_filterMap.mp hmember
  obtain ⟨value, hvalue, rfl⟩ := Option.map_eq_some_iff.mp hfield
  exact h field value hvalue

/-- INTERNAL: **the copy of an event is the event.** -/
theorem copy_eq {r copy : AuditRecord} (hr : WrittenRecord r) (hcopy : JsonCopy r copy) :
    copy = r := by
  obtain ⟨hwritten, htext⟩ := hcopy
  have hchars := String.ofList_injective htext
  obtain ⟨hobject, -⟩ := text_injective _ _ [] [] (written_recordMembers hwritten)
    (written_recordMembers hr) (fun c hc => by cases hc) (fun c hc => by cases hc) (by rw [hchars])
  have hmembers := Json.object.inj hobject
  funext field
  apply Option.ext
  intro value
  rw [← mem_recordMembers, ← mem_recordMembers, hmembers]

/-- INTERNAL: an event of a writer is written where its state references are.
SOURCE: packages/audit/src/foundation.js:35-70 -/
theorem written_of_create {P : Platform} {input : AuditInput} {draw : AuditDraw}
    {event : AuditEvent} (h : createAuditEvent P input draw = .ok event)
    (hbefore : written input.beforeStateRef = true) (hafter : written input.afterStateRef = true) :
    WrittenRecord event.record := by
  unfold createAuditEvent at h
  split at h
  · cases h
  · obtain rfl := Except.ok.inj h
    have hofOption : ∀ value, written (.ofOption value) = true := by
      intro value
      cases value <;> rfl
    intro field value hvalue
    cases field with
    | beforeStateRef =>
      obtain rfl := Option.some.inj hvalue
      exact hbefore
    | afterStateRef =>
      obtain rfl := Option.some.inj hvalue
      exact hafter
    | previousHash =>
      obtain rfl := Option.some.inj hvalue
      exact hofOption _
    | signature =>
      obtain ⟨text, -, rfl⟩ := Option.map_eq_some_iff.mp hvalue
      rfl
    | _ => cases hvalue; rfl

/-! ### What the operations keep -/

section

variable (P : Platform) (key : Option String)

/-- The chain of every tenant verifies with a key, and its events are JSON values. -/
def ChainsVerify (r : MemoryRepository) : Prop :=
  (∀ tenantId, ChainValid ⟨P, "", key⟩ r tenantId) ∧
    ∀ event ∈ r.auditEventStore, WrittenRecord event.record

/-- An event that may be appended to the chain of its tenant. -/
def Appendable (r : MemoryRepository) (event : AuditEvent) : Prop :=
  Follows P key (r.lastEventHash event.tenantId) event ∧ WrittenRecord event.record

/-- What an operation of the repository does to the audit events. -/
def AppendsOwn (r t : MemoryRepository) : Prop :=
  t.auditEventStore = r.auditEventStore ∨
    ∃ event, t.auditEventStore = r.auditEventStore ++ [event] ∧ Appendable P key r event

/-- The key verifies what is signed with another one: it is that key, or there is none. -/
def VerifiesSigned (signingKey : Option String) : Prop := usableKey key = none ∨ signingKey = key

end

section

variable {P : Platform} {key : Option String}

/-- INTERNAL: one appended event keeps the chains of all tenants. -/
theorem chains_of_appends {r t : MemoryRepository} (h : ChainsVerify P key r)
    (happends : AppendsOwn P key r t) : ChainsVerify P key t := by
  obtain ⟨hvalid, hwritten⟩ := h
  refine ⟨fun tenantId => chainValid_of_appends (hvalid tenantId) ?_, ?_⟩
  · obtain hsame | ⟨event, hstore, hfollows, -⟩ := happends
    · exact Or.inl hsame
    · refine Or.inr ⟨event, hstore, ?_⟩
      rintro rfl
      exact hfollows
  · obtain hsame | ⟨event, hstore, -, hevent⟩ := happends
    · rw [hsame]
      exact hwritten
    · rw [hstore]
      intro own hown
      obtain hown | hown := List.mem_append.mp hown
      · exact hwritten own hown
      · obtain rfl := List.mem_singleton.mp hown
        exact hevent

-- A digest in hexadecimal is not the empty text.
variable (hsignature : ∀ own text, P.hmacSha256 own text ≠ "")

include hsignature

/-- INTERNAL: what a writer builds on a hash follows it, for the verifier's key.
SOURCE: packages/audit/src/foundation.js:30-112 -/
theorem follows_of_writer {input : AuditInput} {draw : AuditDraw} {event : AuditEvent}
    (hkey : VerifiesSigned key input.signingKey) (h : createAuditEvent P input draw = .ok event) :
    Follows P key input.previousHash event := by
  obtain hnone | hsame := hkey
  · -- Without a key only the hash is checked.
    intro draw'
    have hagain := create_recalculation rfl h draw'
    have hhash := eventHash_of_create hagain
    have hfields : ¬ (event.tenantId = "" ∨ event.action = "" ∨ event.resourceType = "" ∨
        event.resourceId = "") := by
      rw [not_or, not_or, not_or]
      exact complete_of_create hagain
    refine ⟨_, if_neg hfields, ?_⟩
    simp only [auditMismatch, hnone]
    exact if_neg (not_not.mpr hhash.symm)
  · exact follows_of_create (fun own text _ => hsignature own text) hsame h

/-- INTERNAL: the evidence of a delivery may be appended.
SOURCE: packages/email-delivery/src/index.js:218-242 -/
theorem appendable_of_delivery {r : MemoryRepository} {delivery : EmailDelivery}
    {options : EmailAuditOptions} {event : AuditEvent}
    (hkey : VerifiesSigned key options.signingKey)
    (h : createEmailDeliveryAuditEvent P delivery options (r.lastEventHash delivery.tenantId) =
      .ok event) : event.tenantId = delivery.tenantId ∧ Appendable P key r event := by
  obtain ⟨_, -, hcreate⟩ := bind_eq_ok.mp h
  have htenant : event.tenantId = delivery.tenantId := tenantId_of_create hcreate
  refine ⟨htenant, ?_, written_of_create hcreate rfl rfl⟩
  rw [htenant]
  exact follows_of_writer hsignature hkey hcreate

/-- INTERNAL: the evidence of a request may be appended to the chain it was read from.
SOURCE: apps/api/src/handlers.js:278-304 -/
theorem appendable_of_request {r : MemoryRepository} {audit : TenantAudit}
    {signingKey : Option String} {draw : AuditDraw} {event : AuditEvent}
    (hkey : VerifiesSigned key signingKey) (hbefore : written audit.beforeStateRef = true)
    (hafter : written audit.afterStateRef = true)
    (h : buildTenantAuditEvent ⟨P, "", signingKey⟩ audit
      (r.listAuditEventsByTenant audit.tenantId) draw = .ok event) :
    Appendable P key r event := by
  refine ⟨?_, written_of_create h hbefore hafter⟩
  rw [tenantId_of_create h]
  exact follows_of_writer hsignature hkey h

/-- INTERNAL: finalizing a delivery with a factory appends evidence.
SOURCE: apps/api/src/repositories/memory.js:299-306 -/
theorem appends_finalizeDelivery (delivery : EmailDelivery) {options : EmailAuditOptions}
    (hkey : VerifiesSigned key options.signingKey) (r : MemoryRepository) :
    AppendsOwn P key r
      (exec (finalizeEmailDelivery delivery (factoryEvidence P options delivery)) r).2 := by
  obtain hexec | ⟨result, events, hexec, hevents⟩ :=
    exec_finalizeEmailDelivery delivery (factoryEvidence P options delivery) r
  · exact Or.inl (by rw [hexec])
  · rw [hexec]
    obtain rfl | ⟨event, hresolve, rfl⟩ := hevents
    · exact Or.inl (by simp)
    · obtain ⟨built, hbuilt, hsome⟩ := map_eq_ok.mp hresolve
      obtain rfl := Option.some.inj hsome
      exact Or.inr ⟨built, rfl, (appendable_of_delivery hsignature hkey hbuilt).2⟩

/-- INTERNAL: a webhook with a factory appends evidence.
SOURCE: apps/api/src/repositories/memory.js:307-324 -/
theorem appends_webhook (webhookId : String) (event : WebhookEvent) {options : EmailAuditOptions}
    (hkey : VerifiesSigned key options.signingKey) (r : MemoryRepository) :
    AppendsOwn P key r
      (exec (applyEmailWebhook P webhookId event (factoryEvidence P options)) r).2 := by
  obtain ⟨hsame, -⟩ | ⟨delivery, updated, -, -, -, heffect⟩ :=
    exec_applyEmailWebhook P webhookId event (factoryEvidence P options) r
  · exact Or.inl (by rw [hsame])
  · obtain hsame | ⟨built, hresolve, hstore⟩ := heffect.audit
    · exact Or.inl hsame
    · obtain ⟨own, hbuilt, hsome⟩ := map_eq_ok.mp hresolve
      obtain rfl := Option.some.inj hsome
      exact Or.inr ⟨own, hstore, (appendable_of_delivery hsignature hkey hbuilt).2⟩

end

/-! ### Whole operations -/

section

variable (P : Platform) (key : Option String)

/-- The chains of the repository verify, whatever fails next. -/
def Kept (s : Faulty JsError MemoryStores) : Prop := ChainsVerify P key s.store.repository

end

section

variable {P : Platform} {key : Option String}

/-- INTERNAL: a call of the repository that appends at most evidence keeps the chains. -/
theorem triple_onRepository {α : Type} {m : RepositoryM α} {A : MemoryRepository → Prop}
    (h : ∀ r, A r → AppendsOwn P key r (exec m r).2) :
    Triple (fun s => Kept P key s ∧ A s.store.repository) (onRepository m)
      (fun _ => Kept P key) fun _ => Kept P key := by
  have hcall : Triple
      (fun stores : MemoryStores => ChainsVerify P key stores.repository ∧ A stores.repository)
      (focus MemoryStores.repository (fun s r => { s with repository := r }) m)
      (fun _ stores => ChainsVerify P key stores.repository)
      fun _ stores => ChainsVerify P key stores.repository := by
    refine Triple.of_exec ?_
    intro stores hstores
    have hkept := chains_of_appends hstores.1 (h stores.repository hstores.2)
    rw [exec_focus]
    rcases (exec m stores.repository).1 with _ | _ <;> exact hkept
  refine (Faulty.triple_call hcall).weaken (fun _ hs => hs) (fun _ _ hs => hs) ?_
  rintro _ _ (⟨hs, -⟩ | ⟨-, hs⟩ | ⟨-, hs⟩) <;> exact hs

/-- INTERNAL: a call of the repository that writes no audit event keeps the chains. -/
theorem keeps_onRepository {α : Type} {m : RepositoryM α}
    (h : ∀ r, (exec m r).2.auditEventStore = r.auditEventStore) :
    Keeps (Kept P key) (onRepository m) :=
  (triple_onRepository fun r (_ : True) => Or.inl (h r)).weaken (fun _ hs => ⟨hs, trivial⟩)
    (fun _ _ hs => hs) fun _ _ hs => hs

/-- INTERNAL: the outbox is another store. -/
theorem keeps_enqueueMemory (event : OutboxEvent) (idempotencyKey : String) (now : Int) :
    Keeps (Kept P key) (enqueueMemory event idempotencyKey now) := by
  have hcall : Keeps (fun stores : MemoryStores => ChainsVerify P key stores.repository)
      (focus MemoryStores.outbox (fun s o => { s with outbox := o })
        (enqueue event (some idempotencyKey) now)) := by
    refine Triple.of_exec ?_
    intro stores hstores
    rw [exec_focus]
    rcases (exec (enqueue event (some idempotencyKey) now) stores.outbox).1 with _ | _ <;>
      exact hstores
  unfold enqueueMemory onOutbox
  exact Triple.bind (Faulty.keeps_call hcall) fun _ => Triple.pure fun _ hs => hs

/-- INTERNAL: what a request reads is the chain of its tenant.
SOURCE: apps/api/src/repositories/memory.js:342-344 -/
theorem triple_listEvents (tenantId : String) :
    Triple (Kept P key) ((memoryQueue true).listAuditEventsByTenant tenantId)
      (fun events s => Kept P key s ∧
        events = s.store.repository.listAuditEventsByTenant tenantId) fun _ => Kept P key := by
  have hcall : Triple (fun stores : MemoryStores => ChainsVerify P key stores.repository)
      (focus MemoryStores.repository (fun s r => { s with repository := r })
        (do
          let r ← get
          return r.listAuditEventsByTenant tenantId : RepositoryM (List AuditEvent)))
      (fun events stores => ChainsVerify P key stores.repository ∧
        events = stores.repository.listAuditEventsByTenant tenantId)
      fun _ stores => ChainsVerify P key stores.repository :=
    Triple.of_exec fun stores hstores => ⟨hstores, rfl⟩
  refine (Faulty.triple_call hcall).weaken (fun _ hs => hs) (fun _ _ hs => hs) ?_
  rintro _ _ (hs | ⟨-, hs, -⟩ | ⟨-, hs⟩) <;> exact hs

/-- INTERNAL: an event that may be appended is appended.
SOURCE: apps/api/src/repositories/memory.js:345-348 -/
theorem triple_append (event : AuditEvent) :
    Triple (fun s => Kept P key s ∧ Appendable P key s.store.repository event)
      ((memoryQueue true).appendAuditEvent event) (fun _ => Kept P key) fun _ => Kept P key :=
  triple_onRepository fun _ hevent => Or.inr ⟨event, rfl, hevent⟩

/-- INTERNAL: an operation whose answer nobody reads. -/
theorem keeps_discard {α : Type} {m : MemoryM α} (h : Keeps (Kept P key) m) :
    Keeps (Kept P key) (do let _ ← m : MemoryM Unit) :=
  Triple.bind h fun _ => Triple.pure fun _ hs => hs

-- A digest in hexadecimal is not the empty text.
variable (hsignature : ∀ own text, P.hmacSha256 own text ≠ "")

include hsignature

/-- INTERNAL: a request builds an event that may be appended.
SOURCE: apps/api/src/handlers.js:278-304 -/
theorem triple_readEvent {audit : TenantAudit} {signingKey : Option String} (draw : AuditDraw)
    (hkey : VerifiesSigned key signingKey) (hbefore : written audit.beforeStateRef = true)
    (hafter : written audit.afterStateRef = true) :
    Triple (Kept P key) (readTenantAuditEvent P audit signingKey draw)
      (fun event s => Kept P key s ∧ Appendable P key s.store.repository event)
      fun _ => Kept P key := by
  unfold readTenantAuditEvent
  apply Triple.bind (triple_listEvents audit.tenantId)
  intro events
  apply Triple.lift
  · rintro event s hbuild ⟨hs, rfl⟩
    exact ⟨hs, appendable_of_request hsignature hkey hbefore hafter hbuild⟩
  · exact fun _ s _ hs => hs.1

/-- INTERNAL: the evidence of a request.
SOURCE: apps/api/src/handlers.js:252-276 -/
theorem keeps_appendAudit {audit : TenantAudit} {signingKey : Option String} (draw : AuditDraw)
    (hkey : VerifiesSigned key signingKey) (hbefore : written audit.beforeStateRef = true)
    (hafter : written audit.afterStateRef = true) :
    Keeps (Kept P key) (appendAuditOfTenant P audit signingKey draw) := by
  unfold appendAuditOfTenant
  apply Triple.bind (triple_readEvent hsignature draw hkey hbefore hafter)
  intro event
  exact Triple.bind (triple_append event) fun _ => Triple.pure fun _ hs => hs

/-- INTERNAL: a queued delivery.
SOURCE: packages/email-delivery/src/index.js:244-277 -/
theorem keeps_queueDelivery (delivery : EmailDelivery) (actorId : String)
    {signingKey : Option String} (now : Int) (hkey : VerifiesSigned key signingKey) :
    Keeps (Kept P key)
      (queueEmailDelivery (memoryQueue true) P delivery actorId signingKey now) := by
  have hpersist : Keeps (Kept P key)
      (persistQueued (memoryQueue true) P delivery actorId signingKey now) := by
    unfold persistQueued
    have hcreate : ∀ r, (exec (createEmailDelivery delivery) r).2.auditEventStore =
        r.auditEventStore := by
      intro r
      rw [exec_createEmailDelivery]
      split
      · split <;> rfl
      · split <;> rfl
    apply Triple.bind (keeps_onRepository hcreate)
    intro result
    apply Triple.ite
    · exact fun _ => Triple.pure fun _ hs => hs
    · intro _
      apply Triple.bind (triple_listEvents delivery.tenantId)
      intro events
      have hbuild : Triple
          (fun s => Kept P key s ∧
            events = s.store.repository.listAuditEventsByTenant delivery.tenantId)
          (liftM (queuedAuditEvent P delivery actorId signingKey events) : MemoryM AuditEvent)
          (fun event s => Kept P key s ∧ Appendable P key s.store.repository event)
          fun _ => Kept P key := by
        apply Triple.lift
        · rintro event s hevent ⟨hs, rfl⟩
          exact ⟨hs, (appendable_of_delivery hsignature hkey hevent).2⟩
        · exact fun _ s _ hs => hs.1
      apply Triple.bind hbuild
      intro event
      apply Triple.bind (triple_append event)
      intro _
      apply Triple.bind_lift (fun _ _ _ hs => hs)
      intro outboxEvent _
      apply Triple.bind (keeps_enqueueMemory outboxEvent delivery.idempotencyKey now)
      intro _
      exact Triple.pure fun _ hs => hs
  unfold queueEmailDelivery
  exact Triple.bind_lift (fun _ _ _ hs => hs) fun _ _ => hpersist

/-- INTERNAL: a file is finalized with its evidence.
SOURCE: apps/api/src/handlers.js:778-794, 948-964 -/
theorem keeps_finalizeFile {request : FileRequest} (action : String) (fileRecord : FileRecord)
    (before after : String) (hkey : VerifiesSigned key request.signingKey) :
    Keeps (Kept P key) (finalizeFile P request action fileRecord before after) := by
  unfold finalizeFile
  apply Triple.bind (triple_readEvent hsignature request.auditDraw hkey rfl rfl)
  intro event
  apply Triple.bind_lift (fun _ _ _ hs => hs.1)
  intro outboxEvent _
  have hfinalize : ∀ r, Appendable P key r event →
      AppendsOwn P key r (exec (finalizeFileRecord fileRecord event) r).2 := by
    intro r hevent
    cases hhas : r.fileRecordStore.has fileRecord.id with
    | false => exact Or.inl (by simp [finalizeFileRecord, hhas])
    | true => exact Or.inr ⟨event, by simp [finalizeFileRecord, hhas], hevent⟩
  apply Triple.bind (triple_onRepository hfinalize)
  intro _
  exact keeps_enqueueMemory outboxEvent _ request.now

/-- The state references of an operation are JSON values. -/
def WrittenOperation : AuditOperation → Prop
  | .appendTenantAuditEvent audit _ _ =>
    written audit.beforeStateRef = true ∧ written audit.afterStateRef = true
  | _ => True

/-- INTERNAL: **every operation keeps the chains**, whatever fails of its calls. -/
theorem keeps_perform {operation : AuditOperation}
    (hkey : VerifiesSigned key operation.signingKey) (hwritten : WrittenOperation operation) :
    Keeps (Kept P key) (operation.perform P) := by
  cases operation with
  | appendTenantAuditEvent audit signingKey draw =>
    exact keeps_appendAudit hsignature draw hkey hwritten.1 hwritten.2
  | queueEmailDelivery delivery actorId signingKey now =>
    exact keeps_discard (keeps_queueDelivery hsignature delivery actorId now hkey)
  | finalizeEmailDelivery delivery options =>
    apply keeps_discard
    exact (triple_onRepository fun r (_ : True) =>
      appends_finalizeDelivery hsignature delivery hkey r).weaken (fun _ hs => ⟨hs, trivial⟩)
      (fun _ _ hs => hs) fun _ _ hs => hs
  | applyEmailWebhook webhookId event options =>
    apply keeps_discard
    exact (triple_onRepository fun r (_ : True) =>
      appends_webhook hsignature webhookId event hkey r).weaken (fun _ hs => ⟨hs, trivial⟩)
      (fun _ _ hs => hs) fun _ _ hs => hs
  | completeFileUpload request fileRecord object =>
    apply keeps_discard
    unfold completeFileUpload
    split
    · exact Triple.pure fun _ hs => hs
    · exact Triple.pure fun _ hs => hs
    · apply Triple.bind_lift (fun _ _ _ hs => hs)
      intro completedAt _
      exact Triple.bind (keeps_finalizeFile hsignature _ _ _ _ hkey) fun _ =>
        Triple.pure fun _ hs => hs
  | finalizeDeletion request fileRecord =>
    apply keeps_discard
    unfold finalizeDeletion
    apply Triple.bind_lift (fun _ _ _ hs => hs)
    intro deletedAt _
    exact Triple.bind (keeps_finalizeFile hsignature _ _ _ _ hkey) fun _ =>
      Triple.pure fun _ hs => hs

/-- **The chain of every tenant verifies after any list of operations**, from a repository without
audit events: without a key, and with the key all of them signed with, the events that are stored
and their copies.
SOURCE: apps/api/src/repositories/memory.js:299-348; packages/audit/src/foundation.js:75-112 -/
theorem chains_verify {stores : MemoryStores} (hempty : stores.repository.auditEventStore = [])
    {calls : List AuditCall} (hwritten : ∀ call ∈ calls, WrittenOperation call.operation)
    (hkeys : ∀ call ∈ calls, VerifiesSigned key call.operation.signingKey) (tenantId : String) :
    (∀ draws, verifyAuditChain P key draws
        (((auditWriters P).run stores calls).2.repository.listAuditEventsByTenant tenantId) =
      .ok .valid) ∧
    ∀ copies, List.Forall₂ JsonCopy
        ((((auditWriters P).run stores calls).2.repository.listAuditEventsByTenant tenantId).map
          AuditEvent.record) copies →
      ∀ draws, verifyAuditRecords P key draws copies = .ok .valid := by
  have hkept : ChainsVerify P key ((auditWriters P).run stores calls).2.repository := by
    have hstart : ChainsVerify P key stores.repository := by
      refine ⟨fun own draws => ?_, fun event hevent => ?_⟩
      · unfold MemoryRepository.listAuditEventsByTenant
        rw [hempty]
        rfl
      · rw [hempty] at hevent
        cases hevent
    clear hempty
    induction calls generalizing stores with
    | nil => exact hstart
    | cons call calls ih =>
      rw [Object.run_cons]
      apply ih (fun c hc => hwritten c (List.mem_cons_of_mem _ hc))
        (fun c hc => hkeys c (List.mem_cons_of_mem _ hc))
      exact (keeps_perform hsignature (hkeys call List.mem_cons_self)
        (hwritten call List.mem_cons_self)).store hstart
  obtain ⟨hvalid, hrecords⟩ := hkept
  refine ⟨hvalid tenantId, ?_⟩
  intro copies hcopies draws
  generalize ((auditWriters P).run stores calls).2.repository = r at *
  have hsame : copies = (r.listAuditEventsByTenant tenantId).map AuditEvent.record := by
    have hall : ∀ record ∈ (r.listAuditEventsByTenant tenantId).map AuditEvent.record,
        WrittenRecord record := by
      intro record hrecord
      obtain ⟨event, hevent, rfl⟩ := List.mem_map.mp hrecord
      exact hrecords event (List.mem_filter.mp hevent).1
    revert hcopies hall
    generalize (r.listAuditEventsByTenant tenantId).map AuditEvent.record = records
    intro hcopies hall
    induction hcopies with
    | nil => rfl
    | cons hcopy _ ih =>
      rw [copy_eq (hall _ List.mem_cons_self) hcopy,
        ih fun record hrecord => hall record (List.mem_cons_of_mem _ hrecord)]
  rw [hsame]
  have hverify : verifyAuditRecords P key draws _ = _ :=
    verify_record draws none (r.listAuditEventsByTenant tenantId)
  have htyped : verifyFrom P key draws none (r.listAuditEventsByTenant tenantId) = .ok .valid :=
    hvalid tenantId draws
  rw [htyped] at hverify
  exact hverify

end

/-- The evidence of a created project and of a created issue, in turn. -/
def projectThenIssue : List AuditCall := [
  { operation := .appendTenantAuditEvent projectCreated auditKey projectDraw },
  { operation := .appendTenantAuditEvent issueCreated auditKey issueDraw }]

/-- Two signed events in turn: both are stored, and verify with their key. -/
theorem chains_verify_inTurn :
    (((auditWriters signingEnvironment.platform).run {} projectThenIssue).2.repository
      |>.listAuditEventsByTenant "tenant-a").length = 2 ∧
    ∀ draws, verifyAuditChain signingEnvironment.platform auditKey draws
      (((auditWriters signingEnvironment.platform).run {} projectThenIssue).2.repository
        |>.listAuditEventsByTenant "tenant-a") = .ok .valid := by
  have hsignature : ∀ own text, signingEnvironment.platform.hmacSha256 own text ≠ "" := by
    intro own text
    show chainSignature text ≠ ""
    unfold chainSignature
    split_ifs <;> decide
  have hwritten : ∀ call ∈ projectThenIssue, WrittenOperation call.operation := by
    intro call hcall
    simp only [projectThenIssue, List.mem_cons, List.not_mem_nil, or_false] at hcall
    obtain rfl | rfl := hcall <;> exact ⟨rfl, rfl⟩
  have hkeys : ∀ call ∈ projectThenIssue,
      VerifiesSigned auditKey call.operation.signingKey := by
    intro call hcall
    simp only [projectThenIssue, List.mem_cons, List.not_mem_nil, or_false] at hcall
    obtain rfl | rfl := hcall <;> exact Or.inr rfl
  exact ⟨by decide +kernel, (chains_verify hsignature rfl hwritten hkeys "tenant-a").1⟩

end Xygo.Analysis
