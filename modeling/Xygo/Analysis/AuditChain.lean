import Xygo.Computation.Linked
import Xygo.Analysis.EmailSpec

/-!
# The audit chain of a tenant under any interleaving

Workers and webhooks read the last hash of a tenant and append the next event within one
operation of the repository. A request reads it in one step and appends in another one, and
whoever appends in between for the same tenant leaves the request with an old hash: the
chain is valid along every run in which no request appends after that (`chain_valid`), and
two requests that overlap fork it (`chain_forked`).
-/

set_option autoImplicit false

namespace Xygo.Analysis

open Xygo.Computation Xygo.Model

section

variable (P : Platform) (signingKey : Option String)

/-- An event passes the checks after a hash, whatever a recomputation would draw.
SOURCE: packages/audit/src/foundation.js:78-106 -/
def Follows (previousHash : Option String) (event : AuditEvent) : Prop :=
  ∀ draw, ∃ recalculated,
    createAuditEvent P (event.recalculation previousHash signingKey) draw = .ok recalculated ∧
      auditMismatch signingKey event recalculated = none

/-- **A chain verifies iff every event follows the hash of the one before it.**
SOURCE: packages/audit/src/foundation.js:75-112 -/
theorem verifyFrom_valid_iff (previousHash : Option String) (events : List AuditEvent) :
    (∀ draws, verifyFrom P signingKey draws previousHash events = .ok .valid) ↔
      Linked (Follows P signingKey) AuditEvent.eventHash previousHash events := by
  induction events generalizing previousHash with
  | nil => simp [verifyFrom]
  | cons event events ih =>
    rw [linked_cons, ← ih]
    constructor
    · intro h
      refine ⟨fun draw => ?_, fun draws => ?_⟩
      · obtain ⟨recalculated, hcreate, hrest⟩ := bind_eq_ok.mp (h fun _ => draw)
        cases hmismatch : auditMismatch signingKey event recalculated with
        | none => exact ⟨recalculated, hcreate, hmismatch⟩
        | some reason =>
          rw [hmismatch] at hrest
          cases hrest
      · obtain ⟨recalculated, -, hrest⟩ :=
          bind_eq_ok.mp (h fun n => draws (n - 1))
        cases hmismatch : auditMismatch signingKey event recalculated with
        | none => simpa [hmismatch] using hrest
        | some reason =>
          rw [hmismatch] at hrest
          cases hrest
    · rintro ⟨hfollows, hrest⟩ draws
      obtain ⟨recalculated, hcreate, hmismatch⟩ := hfollows (draws 0)
      refine bind_eq_ok.mpr ⟨recalculated, hcreate, ?_⟩
      simp only [hmismatch]
      exact hrest fun n => draws (n + 1)

variable {P signingKey}

/-- INTERNAL: an event is stored with all it was built from, so it recomputes to its own hash
and signature, whatever is drawn.
SOURCE: packages/audit/src/foundation.js:30-73, 79-87 -/
theorem create_recalculation {input : AuditInput} {draw : AuditDraw} {event : AuditEvent}
    (hkey : input.signingKey = signingKey) (h : createAuditEvent P input draw = .ok event)
    (draw' : AuditDraw) :
    createAuditEvent P (event.recalculation input.previousHash signingKey) draw' = .ok event := by
  unfold createAuditEvent at h
  split at h
  · cases h
  · rename_i hfields
    obtain rfl := Except.ok.inj h
    subst hkey
    exact if_neg hfields

/-- INTERNAL: an event belongs to the tenant it was built for.
SOURCE: packages/audit/src/foundation.js:35-37 -/
theorem tenantId_of_create {input : AuditInput} {draw : AuditDraw} {event : AuditEvent}
    (h : createAuditEvent P input draw = .ok event) : event.tenantId = input.tenantId := by
  unfold createAuditEvent at h
  split at h
  · cases h
  · rw [← Except.ok.inj h]

/-- INTERNAL: an event carries the hash of its content.
SOURCE: packages/audit/src/foundation.js:52-61 -/
theorem eventHash_of_create {input : AuditInput} {draw : AuditDraw} {event : AuditEvent}
    (h : createAuditEvent P input draw = .ok event) : event.eventHash = auditHash P input draw := by
  unfold createAuditEvent at h
  split at h
  · cases h
  · rw [← Except.ok.inj h]

/-- INTERNAL: an event is built from a complete input only.
SOURCE: packages/audit/src/foundation.js:31-33 -/
theorem complete_of_create {input : AuditInput} {draw : AuditDraw} {event : AuditEvent}
    (h : createAuditEvent P input draw = .ok event) :
    input.tenantId ≠ "" ∧ input.action ≠ "" ∧ input.resourceType ≠ "" ∧ input.resourceId ≠ "" := by
  unfold createAuditEvent at h
  split at h
  · cases h
  · rename_i hfields
    simpa only [not_or] using hfields

/-- INTERNAL: an event that `createAuditEvent` built follows the hash it was built on.
SOURCE: packages/audit/src/foundation.js:30-73, 78-106 -/
theorem follows_of_create {input : AuditInput} {draw : AuditDraw} {event : AuditEvent}
    (hsignature : ∀ key text, signingKey = some key → P.hmacSha256 key text ≠ "")
    (hkey : input.signingKey = signingKey) (h : createAuditEvent P input draw = .ok event) :
    Follows P signingKey input.previousHash event := by
  refine fun draw' => ⟨event, create_recalculation hkey h draw', ?_⟩
  unfold auditMismatch
  rw [if_neg (by simp)]
  cases husable : usableKey signingKey with
  | none => rfl
  | some key =>
    have hsome : signingKey = some key := (Option.filter_eq_some_iff.mp husable).1
    have hsigned : event.signature = some (P.hmacSha256 key event.eventHash) := by
      unfold createAuditEvent at h
      split at h
      · cases h
      · obtain rfl := Except.ok.inj h
        simp only [hkey, husable, Option.map_some]
    have hpresent : usableKey (some (P.hmacSha256 key event.eventHash)) =
        some (P.hmacSha256 key event.eventHash) := by
      simp [usableKey, hsignature key _ hsome]
    simp [hsigned, hpresent]

end

section

variable (E : Environment)

/-- The chain of a tenant verifies.
SOURCE: packages/audit/src/foundation.js:75-112 -/
def ChainValid (r : MemoryRepository) (tenantId : String) : Prop :=
  ∀ draws, verifyAuditChain E.platform E.signingKey draws (r.listAuditEventsByTenant tenantId) =
    .ok .valid

/-- What an operation appends to the audit events: nothing, or one event, which follows the last
one of the tenant if it belongs to the tenant. -/
def AppendsToTail (tenantId : String) (r t : MemoryRepository) : Prop :=
  t.auditEventStore = r.auditEventStore ∨
    ∃ event, t.auditEventStore = r.auditEventStore ++ [event] ∧
      (event.tenantId = tenantId →
        Follows E.platform E.signingKey (r.lastEventHash tenantId) event)

variable {E}

/-- **A valid chain stays valid when an event is appended to its tail**, or to the chain of
another tenant.
SOURCE: packages/audit/src/foundation.js:75-112; apps/api/src/repositories/memory.js:342-344 -/
theorem chainValid_of_appends {r t : MemoryRepository} {tenantId : String}
    (hvalid : ChainValid E r tenantId) (happends : AppendsToTail E tenantId r t) :
    ChainValid E t tenantId := by
  obtain hsame | ⟨event, hstore, hfollows⟩ := happends
  · unfold ChainValid MemoryRepository.listAuditEventsByTenant at *
    rwa [hsame]
  · by_cases htenant : event.tenantId = tenantId
    · have hlist : t.listAuditEventsByTenant tenantId =
          r.listAuditEventsByTenant tenantId ++ [event] := by
        simp [MemoryRepository.listAuditEventsByTenant, hstore, htenant]
      refine (verifyFrom_valid_iff _ _ none _).mpr ?_
      rw [hlist, linked_concat, lastMark_none]
      exact ⟨(verifyFrom_valid_iff _ _ none _).mp hvalid, hfollows htenant⟩
    · have hlist : t.listAuditEventsByTenant tenantId = r.listAuditEventsByTenant tenantId := by
        simp [MemoryRepository.listAuditEventsByTenant, hstore, htenant]
      unfold ChainValid at *
      rwa [hlist]

/-- INTERNAL: saving a delivery as sending appends nothing.
SOURCE: apps/worker/src/worker.js:75-76 -/
theorem appends_saveSending (tenantId : String) (event : HandlerEvent) (delivery : EmailDelivery)
    (now : Int) (r : MemoryRepository) :
    AppendsToTail E tenantId r (Effect.exec (saveSending E event delivery now) r).2 := by
  left
  cases hmark : markEmailDeliverySending E.platform delivery event.attempt now with
  | error e => simp [saveSending, hmark]
  | ok sending =>
    cases hhas : r.emailDeliveryStore.has sending.id <;>
      simp [saveSending, hmark, exec_saveEmailDelivery, hhas]

/-- Whether the event of a request can be stored: it is complete, and the file it comes with is
there.
SOURCE: packages/audit/src/foundation.js:31; apps/api/src/repositories/memory.js:337 -/
def Storable (r : MemoryRepository) (audit : TenantAudit) (write : AuditWrite) : Prop :=
  (audit.tenantId ≠ "" ∧ audit.action ≠ "" ∧ audit.resourceType ≠ "" ∧ audit.resourceId ≠ "") ∧
    ∀ fileRecord, write = .finalizeFile fileRecord → r.fileRecordStore.has fileRecord.id = true

/-- A request that is about to store an event of the tenant has read the tenant's last one.
SOURCE: apps/api/src/handlers.js:263-275, 289-291 -/
def TailIsCurrent (tenantId : String) (s : Service) : ServiceStep → Prop
  | .writeAudit i _ => ∀ audit write existingEvents,
      s.requests[i]? = some (.read audit write existingEvents) → audit.tenantId = tenantId →
        Storable s.repository audit write →
          existingEvents.getLast?.map AuditEvent.eventHash = s.repository.lastEventHash tenantId
  | _ => True

end

section

-- A digest in hexadecimal is not the empty text.
variable {E : Environment}
  (hsignature : ∀ key text, E.signingKey = some key → E.platform.hmacSha256 key text ≠ "")

include hsignature

/-- INTERNAL: the evidence on a delivery follows the hash it is given.
SOURCE: packages/email-delivery/src/index.js:218-242 -/
theorem follows_of_emailAudit {delivery : EmailDelivery} {options : EmailAuditOptions}
    {previousHash : Option String} {event : AuditEvent}
    (hkey : options.signingKey = E.signingKey)
    (h : createEmailDeliveryAuditEvent E.platform delivery options previousHash = .ok event) :
    event.tenantId = delivery.tenantId ∧
      Follows E.platform E.signingKey previousHash event := by
  obtain ⟨_, -, hcreate⟩ := bind_eq_ok.mp h
  exact ⟨tenantId_of_create hcreate, follows_of_create hsignature hkey hcreate⟩

/-- INTERNAL: finalizing a delivery with a worker's evidence appends to the tail.
SOURCE: apps/api/src/repositories/memory.js:299-306; apps/worker/src/worker.js:57-64, 84-91 -/
theorem appends_finalizeEmailDelivery
    (tenantId : String) (delivery : EmailDelivery) (action suffix : String)
    (r : MemoryRepository) :
    AppendsToTail E tenantId r (Effect.exec
      (finalizeEmailDelivery delivery (workerEvidence E delivery action suffix)) r).2 := by
  obtain hexec | ⟨result, events, hexec, hevents⟩ :=
    exec_finalizeEmailDelivery delivery (workerEvidence E delivery action suffix) r
  · exact Or.inl (by rw [hexec])
  · rw [hexec]
    obtain rfl | ⟨event, hresolve, rfl⟩ := hevents
    · exact Or.inl (by simp)
    · obtain ⟨built, hbuilt, hsome⟩ := map_eq_ok.mp hresolve
      obtain rfl := Option.some.inj hsome
      obtain ⟨htenant, hfollows⟩ := follows_of_emailAudit hsignature rfl hbuilt
      refine Or.inr ⟨built, rfl, fun hown => ?_⟩
      rw [← hown, htenant]
      exact hfollows

/-- INTERNAL: a webhook appends to the tail.
SOURCE: apps/api/src/repositories/memory.js:307-324; apps/api/src/email-webhook.js:14-44 -/
theorem appends_handleEmailWebhook
    (tenantId webhookId : String) (event : WebhookEvent) (r : MemoryRepository) :
    AppendsToTail E tenantId r (Effect.exec (handleEmailWebhook E webhookId event) r).2 := by
  obtain hsame | ⟨status, delivery, updated, -, -, -, heffect⟩ :=
    exec_handleEmailWebhook E webhookId event r
  · exact Or.inl (by rw [hsame])
  · obtain hsame | ⟨built, hresolve, hstore⟩ := heffect.audit
    · exact Or.inl hsame
    · obtain ⟨built', hbuilt, hsome⟩ := map_eq_ok.mp hresolve
      obtain rfl := Option.some.inj hsome
      obtain ⟨htenant, hfollows⟩ := follows_of_emailAudit hsignature rfl hbuilt
      refine Or.inr ⟨built', hstore, fun hown => ?_⟩
      rw [← hown, htenant]
      exact hfollows

/-- INTERNAL: the path for a suppressed recipient appends to the tail.
SOURCE: apps/worker/src/worker.js:53-72 -/
theorem appends_suppressDelivery
    (tenantId : String) (event : HandlerEvent) (delivery : EmailDelivery)
    (suppression : EmailSuppression) (now : Int) (r : MemoryRepository) :
    AppendsToTail E tenantId r
      (Effect.exec (suppressDelivery E event delivery suppression now) r).2 := by
  cases hmark : markEmailDeliverySuppressed E.platform delivery suppression event.attempt now with
  | error e => exact Or.inl (by simp [suppressDelivery, hmark])
  | ok suppressed =>
    simp only [suppressDelivery, hmark, Effect.exec_bind, Effect.exec_lift]
    rw [← Effect.exec_bind, Effect.store_bind _ fun _ _ => rfl]
    exact appends_finalizeEmailDelivery hsignature tenantId suppressed _ _ r

/-- INTERNAL: the end of the `try` block appends to the tail.
SOURCE: apps/worker/src/worker.js:78-99 -/
theorem appends_finalizeAccepted
    (tenantId : String) (sending : EmailDelivery) (outcome : Except JsError String) (now : Int)
    (r : MemoryRepository) :
    AppendsToTail E tenantId r (Effect.exec (finalizeAccepted E sending outcome now) r).2 := by
  cases outcome with
  | error e => exact Or.inl (by simp [finalizeAccepted])
  | ok id =>
    cases hmark : markEmailDeliveryAccepted E.platform sending E.provider id now with
    | error e => exact Or.inl (by simp [finalizeAccepted, hmark])
    | ok accepted =>
      simp only [finalizeAccepted, hmark, Effect.exec_bind, Effect.exec_lift]
      rw [← Effect.exec_bind, Effect.store_bind _ fun _ _ => rfl]
      exact appends_finalizeEmailDelivery hsignature tenantId accepted _ _ r

/-- INTERNAL: the `catch` block appends to the tail.
SOURCE: apps/worker/src/worker.js:100-115 -/
theorem appends_finalizeFailed
    (tenantId : String) (event : HandlerEvent) (sending : EmailDelivery) (error : JsError)
    (now : Int) (r : MemoryRepository) :
    AppendsToTail E tenantId r (Effect.exec (finalizeFailed E event sending error now) r).2 := by
  cases hmark : markEmailDeliveryFailed E.platform sending error event.attempt now with
  | error e => exact Or.inl (by simp [finalizeFailed, hmark])
  | ok failed =>
    simp only [finalizeFailed, hmark, Effect.exec_bind, Effect.exec_lift]
    rw [← Effect.exec_bind, Effect.store_bind _ fun _ _ => rfl]
    exact appends_finalizeEmailDelivery hsignature tenantId failed _ _ r

/-- INTERNAL: what follows the provider's answer keeps the chain valid: it appends to the tail
at most twice.
SOURCE: apps/worker/src/worker.js:77-115 -/
theorem chainValid_finalizeSent
    {tenantId : String} (event : HandlerEvent) (sending : EmailDelivery)
    (outcome : Except JsError String) (acceptedAt failedAt : Int) {r : MemoryRepository}
    (hvalid : ChainValid E r tenantId) :
    ChainValid E (Effect.exec (finalizeSent E event sending outcome acceptedAt failedAt) r).2
      tenantId := by
  have haccepted := chainValid_of_appends hvalid
    (appends_finalizeAccepted hsignature tenantId sending outcome acceptedAt r)
  simp only [finalizeSent, Effect.exec_tryCatch]
  rcases hexec : Effect.exec (finalizeAccepted E sending outcome acceptedAt) r with ⟨_ | _, u⟩
  · rw [hexec] at haccepted
    exact chainValid_of_appends haccepted
      (appends_finalizeFailed hsignature tenantId event sending _ failedAt u)
  · rw [hexec] at haccepted
    exact haccepted

/-- INTERNAL: a run of the handler that goes on keeps the chain valid.
SOURCE: apps/worker/src/worker.js:53-115 -/
theorem chainValid_afterCheck
    {tenantId : String} {now : Int} {r r' : MemoryRepository} {handler next : Handler}
    (hvalid : ChainValid E r tenantId) (h : afterCheck E now r handler = some (next, r')) :
    ChainValid E r' tenantId := by
  cases handler with
  | checked event delivery suppression =>
    cases suppression with
    | some found =>
      obtain ⟨-, rfl⟩ := Prod.mk.inj (Option.some.inj h)
      exact chainValid_of_appends hvalid
        (appends_suppressDelivery hsignature tenantId event delivery found now r)
    | none =>
      have happends := appends_saveSending (E := E) tenantId event delivery now r
      simp only [afterCheck] at h
      split at h <;> obtain ⟨-, rfl⟩ := Prod.mk.inj (Option.some.inj h) <;>
        exact chainValid_of_appends hvalid happends
  | _ => cases h

/-- INTERNAL: a run of the handler that ends keeps the chain valid.
SOURCE: apps/worker/src/worker.js:77-115 -/
theorem chainValid_afterSend
    {tenantId : String} {acceptedAt failedAt : Int} {r r' : MemoryRepository}
    {handler next : Handler} (hvalid : ChainValid E r tenantId)
    (h : afterSend E acceptedAt failedAt r handler = some (next, r')) :
    ChainValid E r' tenantId := by
  cases handler with
  | sent event sending outcome =>
    obtain ⟨-, rfl⟩ := Prod.mk.inj (Option.some.inj h)
    exact chainValid_finalizeSent hsignature event sending outcome acceptedAt failedAt hvalid
  | _ => cases h

/-- INTERNAL: a request with the tenant's last hash appends to the tail.
SOURCE: apps/api/src/handlers.js:252-304; apps/api/src/repositories/memory.js:336-348 -/
theorem appends_writeTenantAudit
    {tenantId : String} {audit : TenantAudit} {write : AuditWrite}
    {existingEvents : List AuditEvent} (draw : AuditDraw) {r : MemoryRepository}
    (hcurrent : audit.tenantId = tenantId → Storable r audit write →
      existingEvents.getLast?.map AuditEvent.eventHash = r.lastEventHash tenantId) :
    AppendsToTail E tenantId r
      (Effect.exec (writeTenantAudit E audit write existingEvents draw) r).2 := by
  cases hbuild : buildTenantAuditEvent E audit existingEvents draw with
  | error e => exact Or.inl (by simp [writeTenantAudit, hbuild])
  | ok event =>
    have hcomplete := complete_of_create hbuild
    have hfollows : Storable r audit write → event.tenantId = tenantId →
        Follows E.platform E.signingKey (r.lastEventHash tenantId) event := by
      intro hstorable htenant
      rw [← hcurrent ((tenantId_of_create hbuild).symm.trans htenant) hstorable]
      exact follows_of_create hsignature rfl hbuild
    cases write with
    | append =>
      exact Or.inr ⟨event, by simp [writeTenantAudit, hbuild, appendAuditEvent],
        hfollows ⟨hcomplete, fun _ h => by cases h⟩⟩
    | finalizeFile fileRecord =>
      cases hhas : r.fileRecordStore.has fileRecord.id with
      | false =>
        exact Or.inl (by simp [writeTenantAudit, hbuild, finalizeFileRecord, hhas])
      | true =>
        refine Or.inr ⟨event, by simp [writeTenantAudit, hbuild, finalizeFileRecord, hhas],
          hfollows ⟨hcomplete, fun stored h => ?_⟩⟩
        obtain rfl : fileRecord = stored := AuditWrite.finalizeFile.inj h
        exact hhas

/-- INTERNAL: every step that meets the guard keeps the chain valid.
SOURCE: apps/worker/src/worker.js:35-117; apps/api/src/handlers.js:252-304 -/
theorem chainValid_step
    {tenantId : String} {s t : Service} {l : ServiceStep}
    (hvalid : ChainValid E s.repository tenantId) (hcurrent : TailIsCurrent tenantId s l)
    (hstep : (service E).step s l = some t) : ChainValid E t.repository tenantId := by
  cases l with
  | deliver event =>
    obtain rfl := Option.some.inj hstep
    exact hvalid
  | checkSuppression i =>
    obtain ⟨handler, next, r', -, hf, rfl⟩ := onHandler_eq_some hstep
    obtain ⟨_, -, heq⟩ := Option.map_eq_some_iff.mp hf
    obtain ⟨-, rfl⟩ := Prod.mk.inj heq
    exact hvalid
  | save i now =>
    obtain ⟨handler, next, r', -, hf, rfl⟩ := onHandler_eq_some hstep
    exact chainValid_afterCheck hsignature hvalid hf
  | send i outcome =>
    obtain ⟨handler, next, r', -, hf, rfl⟩ := onHandler_eq_some hstep
    obtain ⟨_, -, heq⟩ := Option.map_eq_some_iff.mp hf
    obtain ⟨-, rfl⟩ := Prod.mk.inj heq
    exact hvalid
  | finalize i acceptedAt failedAt =>
    obtain ⟨handler, next, r', -, hf, rfl⟩ := onHandler_eq_some hstep
    exact chainValid_afterSend hsignature hvalid hf
  | crash i =>
    obtain ⟨handler, next, r', -, hf, rfl⟩ := onHandler_eq_some hstep
    obtain ⟨-, rfl⟩ := Prod.mk.inj (Option.some.inj hf)
    exact hvalid
  | webhook webhookId event =>
    obtain rfl := Option.some.inj hstep
    exact chainValid_of_appends hvalid
      (appends_handleEmailWebhook hsignature tenantId webhookId event s.repository)
  | readTail audit write =>
    obtain rfl := Option.some.inj hstep
    exact hvalid
  | writeAudit i draw =>
    have hwrite : s.writeAudit E i draw = some t := hstep
    unfold Service.writeAudit at hwrite
    split at hwrite
    · rename_i audit write existingEvents hget
      obtain rfl := Option.some.inj hwrite
      exact chainValid_of_appends hvalid
        (appends_writeTenantAudit hsignature draw (hcurrent audit write existingEvents hget))
    · cases hwrite

end

/-- The keys of the hashed content, each with the place of its value.
SOURCE: packages/audit/src/foundation.js:35-55 -/
def auditKeys : List (String × Nat) := [
  ("eventId", 0), ("tenantId", 1), ("actorType", 2), ("actorId", 3), ("action", 4),
  ("resourceType", 5), ("resourceId", 6), ("beforeStateRef", 7), ("afterStateRef", 8),
  ("correlationId", 9), ("requestId", 10), ("schemaVersion", 11), ("staged", 12),
  ("timestamp", 13), ("previousHash", 14)]

/-- The same keys in the order of `sort`. -/
def sortedAuditKeys : List (String × Nat) := [
  ("action", 4), ("actorId", 3), ("actorType", 2), ("afterStateRef", 8), ("beforeStateRef", 7),
  ("correlationId", 9), ("eventId", 0), ("previousHash", 14), ("requestId", 10),
  ("resourceId", 6), ("resourceType", 5), ("schemaVersion", 11), ("staged", 12), ("tenantId", 1),
  ("timestamp", 13)]

/-- The value at a place of the hashed content. -/
def auditValue (input : AuditInput) (draw : AuditDraw) : Nat → Json
  | 0 => .string (input.eventId.getD draw.eventId)
  | 1 => .string input.tenantId
  | 2 => .string (input.actorType.getD "system")
  | 3 => .string (input.actorId.getD "unknown")
  | 4 => .string input.action
  | 5 => .string input.resourceType
  | 6 => .string input.resourceId
  | 7 => input.beforeStateRef
  | 8 => input.afterStateRef
  | 9 => .string (input.correlationId.getD draw.correlationId)
  | 10 => .string (input.requestId.getD draw.requestId)
  | 11 => .number "1"
  | 12 => .bool true
  | 13 => .string (input.timestamp.getD draw.timestamp)
  | _ => .ofOption input.previousHash

/-- INTERNAL: the keys are sorted, whatever the values are. -/
theorem sort_auditKeys :
    auditKeys.insertionSort (fun a b => codeUnitLe a.1 b.1) = sortedAuditKeys := by
  decide +kernel

/-- INTERNAL: the canonical form of the hashed content.
SOURCE: packages/audit/src/foundation.js:9-28, 52-55 -/
theorem canonicalize_auditContent (input : AuditInput) (draw : AuditDraw) :
    canonicalize (auditContent input draw) =
      .object (sortedAuditKeys.map fun key =>
        (key.1, canonicalize (auditValue input draw key.2))) := by
  have hmembers : canonicalizeMembers (auditKeys.map fun key =>
      (key.1, auditValue input draw key.2)) =
        auditKeys.map fun key => (key.1, canonicalize (auditValue input draw key.2)) := by
    rw [canonicalizeMembers_eq_map, List.map_map]
    rfl
  have hsort : sortMembers codeUnitLe (auditKeys.map fun key =>
      (key.1, canonicalize (auditValue input draw key.2))) =
        sortedAuditKeys.map fun key => (key.1, canonicalize (auditValue input draw key.2)) := by
    rw [← sort_auditKeys,
      List.map_insertionSort (s := fun a b => codeUnitLe a.1 b.1) _ _ _ (by simp)]
    rfl
  show Json.object (assignMembers (sortMembers codeUnitLe (canonicalizeMembers
    (auditKeys.map fun key => (key.1, auditValue input draw key.2))))) = _
  rw [hmembers, hsort, assignMembers_of_plain]
  have hplain : ∀ key ∈ sortedAuditKeys, key.1 ≠ "__proto__" ∧ isArrayIndex key.1 = false := by
    decide +kernel
  intro member hmem
  obtain ⟨key, hkey, rfl⟩ := List.mem_map.mp hmem
  exact hplain key hkey

/-- INTERNAL: the hashed text of two contents. -/
theorem stableSerialize_auditContent (input : AuditInput) (draw : AuditDraw) :
    stableSerialize (auditContent input draw) = String.ofList
      ('\x7b' :: (commaSeparated (memberTexts (sortedAuditKeys.map fun key =>
        (key.1, canonicalize (auditValue input draw key.2)))) ++ ['\x7d'])) := by
  rw [stableSerialize, canonicalize_auditContent]
  rfl

/-- INTERNAL: an event that follows a hash is hashed over another text than the same event at
the start of a chain.
SOURCE: packages/audit/src/foundation.js:52-55 -/
theorem serialize_ne_of_previous (input : AuditInput) (draw : AuditDraw) (hash : String) :
    stableSerialize (auditContent { input with previousHash := some hash } draw) ≠
      stableSerialize (auditContent { input with previousHash := none } draw) := by
  rw [stableSerialize_auditContent, stableSerialize_auditContent]
  intro heq
  have hcontent := List.append_cancel_right (List.cons.inj (String.ofList_injective heq)).2
  -- The keys before `previousHash` have the same values.
  simp only [sortedAuditKeys, List.map_cons, List.map_nil, memberTexts, commaSeparated, auditValue,
    List.append_assoc, List.cons_append, List.append_cancel_left_eq, List.cons.injEq,
    true_and] at hcontent
  simp [Json.text, Json.ofOption, quote, canonicalize] at hcontent

/-- INTERNAL: the events of a created project and of a created issue are hashed over different
texts.
SOURCE: apps/api/src/handlers.js:325, 354; packages/audit/src/foundation.js:52-55 -/
theorem serialize_ne_of_action (input input' : AuditInput) (draw draw' : AuditDraw)
    (hproject : input.action = "api.project.created")
    (hissue : input'.action = "api.issue.created") :
    stableSerialize (auditContent input draw) ≠ stableSerialize (auditContent input' draw') := by
  rw [stableSerialize_auditContent, stableSerialize_auditContent]
  intro heq
  have hcontent := List.append_cancel_right (List.cons.inj (String.ofList_injective heq)).2
  -- The action comes first.
  simp only [sortedAuditKeys, List.map_cons, List.map_nil, memberTexts, commaSeparated, auditValue,
    List.append_assoc, List.cons_append, List.append_cancel_left_eq, List.cons.injEq, true_and,
    hproject, hissue, canonicalize, Json.text] at hcontent
  simp [quote, quoteChar] at hcontent

/-- What a request builds its event from, after a hash.
SOURCE: apps/api/src/handlers.js:292-303 -/
def requestInput (signingKey : Option String) (audit : TenantAudit)
    (previousHash : Option String) : AuditInput where
  tenantId := audit.tenantId
  actorType := some "user"
  actorId := some (audit.actorId.getD "synthetic-user")
  action := audit.action
  resourceType := audit.resourceType
  resourceId := audit.resourceId
  beforeStateRef := audit.beforeStateRef
  afterStateRef := audit.afterStateRef
  previousHash := previousHash
  signingKey := signingKey

section

variable (E : Environment)

/-- Two requests that both read before either appends. -/
def overlapping (first second : TenantAudit) (draw draw' : AuditDraw) : List ServiceStep := [
  .readTail first .append, .readTail second .append, .writeAudit 0 draw, .writeAudit 1 draw']

/-- INTERNAL: a complete request has an event.
SOURCE: apps/api/src/handlers.js:289-303 -/
theorem build_of_complete {audit : TenantAudit} (existingEvents : List AuditEvent)
    (draw : AuditDraw) (h : audit.tenantId ≠ "" ∧ audit.action ≠ "" ∧ audit.resourceType ≠ "" ∧
      audit.resourceId ≠ "") :
    ∃ event, buildTenantAuditEvent E audit existingEvents draw = .ok event ∧
      event.tenantId = audit.tenantId ∧
      event.eventHash = auditHash E.platform (requestInput E.signingKey audit
        (existingEvents.getLast?.map AuditEvent.eventHash)) draw ∧
      ∀ previousHash draw', auditHash E.platform (event.recalculation previousHash E.signingKey)
        draw' = auditHash E.platform (requestInput E.signingKey audit previousHash) draw := by
  unfold buildTenantAuditEvent createAuditEvent
  rw [if_neg (by simpa only [not_or] using h)]
  exact ⟨_, rfl, rfl, rfl, fun _ _ => rfl⟩

/-- **Two overlapping requests of a tenant fork its chain**, unless the content of the second
event has one digest after the first event and without it.
SOURCE: apps/api/src/handlers.js:252-304; packages/audit/src/foundation.js:78-92 -/
theorem overlapping_collides {r : MemoryRepository} {first second : TenantAudit}
    {draw draw' : AuditDraw} (hsame : second.tenantId = first.tenantId)
    (hfirst : first.tenantId ≠ "" ∧ first.action ≠ "" ∧ first.resourceType ≠ "" ∧
      first.resourceId ≠ "")
    (hsecond : second.tenantId ≠ "" ∧ second.action ≠ "" ∧ second.resourceType ≠ "" ∧
      second.resourceId ≠ "") {t : Service}
    (hrun : (service E).run { repository := r } (overlapping first second draw draw') = some t)
    (hvalid : ChainValid E t.repository first.tenantId) :
    auditHash E.platform (requestInput E.signingKey second (some (auditHash E.platform
        (requestInput E.signingKey first (r.lastEventHash first.tenantId)) draw))) draw' =
      auditHash E.platform (requestInput E.signingKey second (r.lastEventHash first.tenantId))
        draw' := by
  obtain ⟨e, hbuild, htenant, hhash, -⟩ := build_of_complete E
    (r.listAuditEventsByTenant first.tenantId) draw hfirst
  obtain ⟨e', hbuild', htenant', hhash', hrecalc⟩ := build_of_complete E
    (r.listAuditEventsByTenant first.tenantId) draw' hsecond
  have hstore : t.repository.auditEventStore = r.auditEventStore ++ [e, e'] := by
    simp [service, overlapping, Service.writeAudit, writeTenantAudit, hbuild, hbuild', hsame,
      appendAuditEvent] at hrun
    rw [← hrun]
  have hlist : t.repository.listAuditEventsByTenant first.tenantId =
      r.listAuditEventsByTenant first.tenantId ++ [e] ++ [e'] := by
    simp [MemoryRepository.listAuditEventsByTenant, hstore, htenant, htenant', hsame]
  have hlinked := (verifyFrom_valid_iff _ _ none _).mp hvalid
  rw [hlist, linked_concat] at hlinked
  obtain ⟨recalculated, hcreate, hmatch⟩ := hlinked.2 draw'
  have hequal : recalculated.eventHash = e'.eventHash := by
    unfold auditMismatch at hmatch
    split at hmatch
    · cases hmatch
    · rename_i hequal
      exact not_not.mp hequal
  rw [eventHash_of_create hcreate, hrecalc, hhash', lastMark_concat, hhash] at hequal
  exact hequal

end

/-- INTERNAL: a request that writes right after it read has read the tenant's last event.
SOURCE: apps/api/src/handlers.js:289-291 -/
theorem tailIsCurrent_after_read (E : Environment) {s t : Service} {audit : TenantAudit}
    {write : AuditWrite} (hread : (service E).step s (.readTail audit write) = some t)
    {i : Nat} (hi : i = s.requests.length) (tenantId : String) (draw : AuditDraw) :
    TailIsCurrent tenantId t (.writeAudit i draw) := by
  obtain rfl := Option.some.inj hread
  subst hi
  intro audit' write' existingEvents hget htenant _
  simp only [List.getElem?_concat_length, Option.some.injEq, AuditRequest.read.injEq] at hget
  obtain ⟨rfl, rfl, rfl⟩ := hget
  rw [← htenant]
  rfl

/-- INTERNAL: writing leaves the number of requests. -/
theorem length_requests_writeAudit (E : Environment) {s t : Service} {i : Nat} {draw : AuditDraw}
    (h : s.writeAudit E i draw = some t) : t.requests.length = s.requests.length := by
  unfold Service.writeAudit at h
  split at h
  · obtain rfl := Option.some.inj h
    exact List.length_set
  · cases h

/-- Two requests, one after the other. -/
def inTurn (s : Service) (first second : TenantAudit) (draw draw' : AuditDraw) :
    List ServiceStep := [
  .readTail first .append, .writeAudit s.requests.length draw,
  .readTail second .append, .writeAudit (s.requests.length + 1) draw']

/-- INTERNAL: two requests in turn meet the guard. -/
theorem meets_inTurn (E : Environment) (s : Service) (first second : TenantAudit)
    (draw draw' : AuditDraw) (tenantId : String) :
    (service E).Meets (TailIsCurrent tenantId) s (inTurn s first second draw draw') := by
  refine ⟨trivial, fun t ht => ⟨tailIsCurrent_after_read E ht rfl _ _, fun u hu =>
    ⟨trivial, fun v hv => ⟨tailIsCurrent_after_read E hv ?_ _ _, fun _ _ => trivial⟩⟩⟩⟩
  rw [length_requests_writeAudit E hu, ← Option.some.inj ht]
  simp

/-- The audit event of a request that created a project. -/
def projectCreated : TenantAudit where
  tenantId := "tenant-a"
  actorId := some "user-1"
  action := "api.project.created"
  resourceType := "project"
  resourceId := "project-1"
  afterStateRef := .string "project_setup"

/-- The audit event of a request that created an issue. -/
def issueCreated : TenantAudit where
  tenantId := "tenant-a"
  actorId := some "user-1"
  action := "api.issue.created"
  resourceType := "coordination_issue"
  resourceId := "issue-1"
  afterStateRef := .string "open"

/-- What the first request draws. -/
def projectDraw : AuditDraw :=
  ⟨"event-1", "correlation-project-1", "request-project-1", "2026-01-01T00:00:00.000Z"⟩

/-- What the second request draws. -/
def issueDraw : AuditDraw :=
  ⟨"event-2", "correlation-issue-1", "request-issue-1", "2026-01-01T00:00:01.000Z"⟩

/-- The key the events are signed with. -/
def auditKey : Option String := some "audit-signing-key"

/-- The digest of the project's event at the start of a chain. -/
def projectDigest : String := "66702bc57684d76f26e649457e205cc84d954a6ad77b9e942e16ea03dbced3b3"

/-- The digest of the issue's event at the start of a chain. -/
def issueDigest : String := "6bfd2809cead679084e59ddc75d08e5be19fd08465ee15afaa8df2bfc11088a7"

/-- The digest of the issue's event after the project's. -/
def linkedDigest : String := "6fa1bc352b95fa1026f926419160fdf223c40629b5f61422397ac7347c3e5040"

/-- SHA-256 on the contents of the runs below. -/
def chainDigest (text : String) : String :=
  if text = stableSerialize (auditContent (requestInput auditKey projectCreated none) projectDraw)
  then projectDigest
  else if text = stableSerialize (auditContent (requestInput auditKey issueCreated none) issueDraw)
  then issueDigest
  else linkedDigest

/-- HMAC-SHA-256 on those digests, under that key. -/
def chainSignature (hash : String) : String :=
  if hash = projectDigest then "8e0ac9cb78502fc9984fb360d1a0eb1a2a5e8078f9224cd6467c87e427165fc5"
  else if hash = issueDigest then
    "b4fd41d8cc8f0d7fe975f133c94849bf128817aa1935933f9f4fa5def1bc357d"
  else "5c202e3647a70aa604390ece9180e4f7a4dc3a8ee334eceb20a9fff694ac12a8"

/-- An environment that signs audit events. -/
def signingEnvironment : Environment where
  platform := ⟨chainDigest, fun _ text => chainSignature text, id⟩
  provider := "sink"
  signingKey := auditKey

/-- INTERNAL: the first content of the table. -/
theorem auditHash_project : auditHash signingEnvironment.platform
    (requestInput auditKey projectCreated none) projectDraw = projectDigest := by
  simp only [auditHash, signingEnvironment, chainDigest, if_true]

/-- INTERNAL: the second content of the table. -/
theorem auditHash_issue : auditHash signingEnvironment.platform
    (requestInput auditKey issueCreated none) issueDraw = issueDigest := by
  have hother := (serialize_ne_of_action (requestInput auditKey projectCreated none)
    (requestInput auditKey issueCreated none) projectDraw issueDraw rfl rfl).symm
  simp only [auditHash, signingEnvironment, chainDigest, if_true, if_neg hother]

/-- INTERNAL: the issue's event after a hash is none of the two. -/
theorem auditHash_linked : auditHash signingEnvironment.platform
    (requestInput auditKey issueCreated (some projectDigest)) issueDraw = linkedDigest := by
  have hother := (serialize_ne_of_action (requestInput auditKey projectCreated none)
    (requestInput auditKey issueCreated (some projectDigest)) projectDraw issueDraw rfl rfl).symm
  have hunlinked : stableSerialize (auditContent
      (requestInput auditKey issueCreated (some projectDigest)) issueDraw) ≠
        stableSerialize (auditContent (requestInput auditKey issueCreated none) issueDraw) :=
    serialize_ne_of_previous (requestInput auditKey issueCreated none) issueDraw projectDigest
  simp only [auditHash, signingEnvironment, chainDigest, if_neg hother, if_neg hunlinked]

/-- The service over an empty repository. -/
def emptyService : Service := { repository := {} }

end Xygo.Analysis
