import Xygo.Analysis.EmailIntent
import Xygo.Analysis.PostgresSpec
import Xygo.Analysis.TerminalStatus

/-!
# Queueing and queueing again

A call of `queueEmailDelivery` makes three writes: the delivery, its audit event, its job. A call
for a delivery that is stored returns at once. On Postgres the three writes commit together, and a
delivery that is stored has its evidence and its job, whatever failed before. On a repository
without transactions that holds of the runs in which no call fails once it has stored the delivery.
-/

set_option autoImplicit false

namespace Xygo.Analysis

open Xygo.Computation Xygo.Computation.Relational Xygo.Model
open EmailDelivery (intent)

/-- What is read of a state: the jobs, and the audit chain of a tenant. -/
structure QueueView (σ : Type) where
  hasJob : σ → EmailDelivery → Prop
  chain : σ → String → List AuditEvent

/-- The job of a delivery is in the outbox under its key, and its queued event in the chain of its
tenant. -/
def QueueView.Evidenced {σ : Type} (V : QueueView σ) (s : σ) (delivery : EmailDelivery) : Prop :=
  V.hasJob s delivery ∧ ∃ event ∈ V.chain s delivery.tenantId,
    event.eventId = some (delivery.id ++ "-queued-audit") ∧
      event.action = "email.delivery.queued" ∧ event.resourceId = delivery.id

/-- The view of the memory stores. -/
def memoryView : QueueView MemoryStores where
  hasJob s delivery := ∃ job ∈ s.outbox.items.values,
    job.idempotencyKey = delivery.idempotencyKey ∧ job.event.aggregateId = delivery.id
  chain s tenantId := s.repository.listAuditEventsByTenant tenantId

/-- The view of the database. -/
def postgresView : QueueView PgDatabase where
  hasJob db delivery := ∃ row ∈ db .outboxJobs,
    row .idempotencyKey = .text delivery.idempotencyKey ∧ row .aggregateId = .text delivery.id
  chain db tenantId := payloads Document.auditEvent?
    ((db .auditEvents).filter (selects [(.tenantId, .text tenantId)]))

/-- What a run of calls for one delivery must give: once a call has returned, the job and the
queued event are there; and a call on which nothing fails returns after the run if it would have
returned before it. -/
structure Repairable {σ : Type} (R : QueueRepository σ) (V : QueueView σ) (P : Platform)
    (delivery : EmailDelivery) (start : σ) (calls : List QueueCall) : Prop where
  returned : (∃ entry ∈ ((queueCalls R P delivery).run start calls).1, entry.2.isOk = true) →
    V.Evidenced ((queueCalls R P delivery).run start calls).2 delivery
  repaired : ∀ c : QueueCall, c.faults = [] →
    ((queueCalls R P delivery).call c start).1.isOk = true →
    ((queueCalls R P delivery).call c ((queueCalls R P delivery).run start calls).2).1.isOk = true

/-- The event of a queued delivery's job.
SOURCE: packages/email-delivery/src/index.js:206-216 -/
def requestedEvent (delivery : EmailDelivery) : OutboxEvent where
  id := delivery.id ++ "-outbox"
  eventType := "email.delivery.requested"
  eventVersion := some 1
  aggregateType := "email_delivery"
  aggregateId := delivery.id
  tenantId := some delivery.tenantId
  payload := .object [("deliveryId", .string delivery.id), ("kind", .string delivery.kind.text)]
  occurredAt := delivery.createdAt

section

variable {P : Platform} {delivery : EmailDelivery}

/-- INTERNAL: a valid delivery has its event.
SOURCE: packages/email-delivery/src/index.js:206-216 -/
theorem outboxEvent_of_valid (hvalid : ValidDelivery P delivery) :
    createEmailDeliveryOutboxEvent P delivery = .ok (requestedEvent delivery) := by
  unfold createEmailDeliveryOutboxEvent
  rw [(assertEmailDelivery_eq_ok P).mpr ⟨hvalid, rfl⟩]
  simp only [bind, Except.bind, createOutboxEvent]
  rw [if_neg (by simp [hvalid.id.ne_empty])]
  rfl

/-- INTERNAL: a valid delivery has its queued audit event.
SOURCE: packages/email-delivery/src/index.js:257-264 -/
theorem queuedAudit_of_valid (hvalid : ValidDelivery P delivery) (actorId : String)
    (signingKey : Option String) (events : List AuditEvent) :
    ∃ event, queuedAuditEvent P delivery actorId signingKey events = .ok event ∧
      event.eventId = some (delivery.id ++ "-queued-audit") ∧
      event.action = "email.delivery.queued" ∧ event.resourceId = delivery.id ∧
      event.tenantId = delivery.tenantId := by
  unfold queuedAuditEvent createEmailDeliveryAuditEvent
  rw [(assertEmailDelivery_eq_ok P).mpr ⟨hvalid, rfl⟩]
  simp only [bind, Except.bind, createAuditEvent]
  rw [if_neg (by simp [hvalid.tenantId.ne_empty, hvalid.id.ne_empty])]
  refine ⟨_, rfl, ?_, rfl, rfl, rfl⟩
  simp [String.append_assoc]

/-- INTERNAL: an event of the delivery's job has the delivery's id. -/
theorem aggregateId_of_same {row : PgRow}
    (h : jobDiffers row (requestedEvent delivery) = false) :
    row .aggregateId = .text delivery.id := by
  have haggregate : textOf row .aggregateId = some delivery.id := by
    unfold jobDiffers at h
    simp only [Bool.or_eq_false_iff] at h
    exact not_not.mp (of_decide_eq_false h.2)
  unfold textOf at haggregate
  cases hcell : row .aggregateId with
  | text value =>
    rw [hcell] at haggregate
    exact congrArg Cell.text (Option.some.inj haggregate)
  | _ =>
    rw [hcell] at haggregate
    cases haggregate

/-- INTERNAL: a call for a delivery that is not valid throws, and changes nothing.
SOURCE: packages/email-delivery/src/index.js:251 -/
theorem call_invalid {σ : Type} (R : QueueRepository σ) (hinvalid : ¬ ValidDelivery P delivery)
    (c : QueueCall) (s : σ) :
    ∃ e, (queueCalls R P delivery).call c s = (.error e, s) := by
  cases hassert : assertEmailDelivery P delivery with
  | ok checked => exact absurd ((assertEmailDelivery_eq_ok P).mp hassert).1 hinvalid
  | error e =>
    refine ⟨e, ?_⟩
    simp only [queueCalls, queueEmailDelivery, Effect.exec_bind, Effect.exec_lift, hassert]

/-- INTERNAL: a call for a valid delivery goes on to its writes.
SOURCE: packages/email-delivery/src/index.js:251-275 -/
theorem exec_queue_valid {σ : Type} (R : QueueRepository σ) (hvalid : ValidDelivery P delivery)
    (actorId : String) (signingKey : Option String) (now : Int) (s : Faulty JsError σ) :
    Effect.exec (queueEmailDelivery R P delivery actorId signingKey now) s =
      Effect.exec (if R.supportsTransactionalOutbox then
          Faulty.atomic (persistQueued R P delivery actorId signingKey now)
        else persistQueued R P delivery actorId signingKey now) s := by
  unfold queueEmailDelivery
  rw [Effect.exec_bind, Effect.exec_lift, (assertEmailDelivery_eq_ok P).mpr ⟨hvalid, rfl⟩]

/-- INTERNAL: only a valid delivery is queued. -/
theorem valid_of_call {σ : Type} {R : QueueRepository σ} {c : QueueCall} {s : σ}
    (h : ((queueCalls R P delivery).call c s).1.isOk = true) : ValidDelivery P delivery := by
  by_contra hinvalid
  obtain ⟨e, hcall⟩ := call_invalid R hinvalid c s
  rw [hcall] at h
  cases h

end

/-! ## The Postgres repository -/

/-- The deliveries under the key are the given one. -/
def RecordedIn (delivery : EmailDelivery) (rows : List PgRow) : Prop :=
  (∃ row ∈ rows, row .idempotencyKey = .text delivery.idempotencyKey) ∧
    ∀ row ∈ rows, row .idempotencyKey = .text delivery.idempotencyKey →
      payload row = some (.emailDelivery delivery)

/-- No delivery is stored under the key. -/
def FreshIn (delivery : EmailDelivery) (rows : List PgRow) : Prop :=
  ∀ row ∈ rows, row .idempotencyKey ≠ .text delivery.idempotencyKey

/-- The delivery is stored, with its job and its queued event. -/
def PostgresDone (delivery : EmailDelivery) (db : PgDatabase) : Prop :=
  RecordedIn delivery (db .emailDeliveries) ∧ postgresView.Evidenced db delivery

theorem row_delivery_key (delivery : EmailDelivery) :
    insertDelivery.row pgSchema (deliveryParams delivery) .idempotencyKey =
      .text delivery.idempotencyKey := rfl

theorem row_delivery_payload (delivery : EmailDelivery) :
    payload (insertDelivery.row pgSchema (deliveryParams delivery)) =
      some (.emailDelivery delivery) := rfl

/-- INTERNAL: the row of a delivery agrees with the rows under its key.
SOURCE: apps/api/src/repositories/postgres.js:770 -/
theorem agree_delivery_iff {delivery : EmailDelivery} {row : PgRow} :
    agree [.idempotencyKey] (insertDelivery.row pgSchema (deliveryParams delivery)) row = true ↔
      row .idempotencyKey = .text delivery.idempotencyKey := by
  simp only [agree, List.all_cons, List.all_nil, Bool.and_true, row_delivery_key]
  rw [Cell.same_comm]
  exact Cell.same_text_iff

/-- INTERNAL: the rows selected by a key.
SOURCE: apps/api/src/repositories/postgres.js:777 -/
theorem selects_key_iff {key : String} {row : PgRow} :
    selects [(.idempotencyKey, .text key)] row = true ↔ row .idempotencyKey = .text key := by
  simp only [selects, List.all_cons, List.all_nil, Bool.and_true]
  exact Cell.same_text_iff

section

variable {pg : Postgres} {P : Platform} {delivery : EmailDelivery}

variable (pg) in
/-- INTERNAL: a delivery that is not stored is stored.
SOURCE: apps/api/src/repositories/postgres.js:764-776 -/
theorem triple_createEmailDelivery_fresh :
    Effect.Triple (fun s : PgStore => FreshIn delivery (s.store .emailDeliveries))
      (Postgres.createEmailDelivery pg delivery)
      (fun result s => result.created = true ∧ RecordedIn delivery (s.store .emailDeliveries))
      fun _ _ => True := by
  unfold Postgres.createEmailDelivery
  have hinsert : Effect.Triple (fun db => FreshIn delivery (db .emailDeliveries))
      (pg.server.insert insertDelivery (deliveryParams delivery))
      (fun inserted db => inserted.isSome = true ∧ RecordedIn delivery (db .emailDeliveries))
      fun _ _ => True := by
    apply Server.triple_insert_skip rfl
    · exact fun _ _ _ => trivial
    · intro db hfresh stored hstored hagree
      exact absurd (agree_delivery_iff.mp hagree) (hfresh stored hstored)
    · intro db hfresh _
      refine ⟨rfl, ⟨_, mem_append_self db _ _, row_delivery_key delivery⟩, ?_⟩
      intro row hrow hkey
      obtain hrow | rfl := mem_update_append.mp hrow
      · exact absurd hkey (hfresh row hrow)
      · exact row_delivery_payload delivery
  apply Effect.Triple.bind (Faulty.triple_call_ok hinsert)
  intro inserted
  cases inserted with
  | some row => exact Effect.Triple.pure fun s hs => ⟨rfl, hs.2⟩
  | none => exact Effect.Triple.of_exec fun s hs => nomatch hs.1

variable (pg) in
/-- INTERNAL: a delivery that is stored is found.
SOURCE: apps/api/src/repositories/postgres.js:777-784 -/
theorem triple_createEmailDelivery_recorded {I : PgDatabase → Prop}
    (hI : ∀ db, I db → RecordedIn delivery (db .emailDeliveries)) :
    Effect.Triple (fun s : PgStore => I s.store) (Postgres.createEmailDelivery pg delivery)
      (fun result s => result.created = false ∧ I s.store) fun _ _ => True := by
  unfold Postgres.createEmailDelivery
  have hinsert : Effect.Triple I (pg.server.insert insertDelivery (deliveryParams delivery))
      (fun inserted db => inserted.isSome = false ∧ I db) fun _ _ => True := by
    apply Server.triple_insert_skip rfl
    · exact fun _ _ _ => trivial
    · exact fun db hdb _ _ _ => ⟨rfl, hdb⟩
    · intro db hdb hnone
      obtain ⟨row, hrow, hkey⟩ := (hI db hdb).1
      cases (agree_delivery_iff.mpr hkey).symm.trans (hnone row hrow)
  apply Effect.Triple.bind (Faulty.triple_call_ok hinsert)
  intro inserted
  cases inserted with
  | some row => exact Effect.Triple.of_exec fun s hs => nomatch hs.1
  | none =>
    apply Effect.Triple.bind
      ((triple_querySelect (I := I) _ _).weaken (fun s hs => hs.2) (fun _ _ h => h)
        fun _ _ h => h)
    intro rows
    cases (payloads Document.emailDelivery? rows).head? with
    | none => exact Effect.Triple.throw fun _ _ => trivial
    | some record =>
      apply Effect.Triple.ite
      · intro _
        exact Effect.Triple.pure fun s hs => ⟨rfl, hs.1⟩
      · intro _
        exact Effect.Triple.throw fun _ _ => trivial

/-- INTERNAL: stored evidence, as the view reads it. -/
theorem evidenced_of_stored {db : PgDatabase} {event : AuditEvent}
    (hjob : JobStored (requestedEvent delivery) delivery.idempotencyKey db)
    (haudit : AuditStored event db)
    (hevent : event.eventId = some (delivery.id ++ "-queued-audit") ∧
      event.action = "email.delivery.queued" ∧ event.resourceId = delivery.id ∧
      event.tenantId = delivery.tenantId) : postgresView.Evidenced db delivery := by
  obtain ⟨hid, haction, hresource, htenant⟩ := hevent
  constructor
  · obtain ⟨row, hrow, hkey, hsame⟩ := hjob
    exact ⟨row, hrow, hkey, aggregateId_of_same hsame⟩
  · obtain ⟨row, hrow, hpayload, hrowTenant⟩ := haudit
    refine ⟨event, ?_, hid, haction, hresource⟩
    apply List.mem_filterMap.mpr
    refine ⟨row, List.mem_filter.mpr ⟨hrow, ?_⟩, by rw [hpayload]; rfl⟩
    simp [selects, hrowTenant, htenant]

variable (pg) in
/-- INTERNAL: the transaction of a delivery that is not stored stores the three.
SOURCE: packages/email-delivery/src/index.js:253-273 -/
theorem triple_persistQueued_fresh (hvalid : ValidDelivery P delivery) (actorId : String)
    (signingKey : Option String) (now : Int) :
    Effect.Triple (fun s : PgStore => FreshIn delivery (s.store .emailDeliveries))
      (persistQueued (postgresQueue pg) P delivery actorId signingKey now)
      (fun _ s => PostgresDone delivery s.store) fun _ _ => True := by
  unfold persistQueued
  apply Effect.Triple.bind (triple_createEmailDelivery_fresh pg)
  intro result
  apply Effect.Triple.assume
  intro hcreated
  simp only [hcreated, Bool.not_true, Bool.false_eq_true, if_false, pure_bind]
  apply Effect.Triple.bind
    (triple_listAuditEventsByTenant (I := fun db => RecordedIn delivery (db .emailDeliveries)) _)
  intro events
  obtain ⟨auditEvent, haudit, hevent⟩ := queuedAudit_of_valid hvalid actorId signingKey events
  apply Effect.Triple.bind_lift
  · exact fun _ _ _ _ => trivial
  intro built hbuilt
  obtain rfl : auditEvent = built := Except.ok.inj (haudit.symm.trans hbuilt)
  apply Effect.Triple.bind
    (triple_appendAuditEvent (stableAt_of_ne (by decide) (RecordedIn delivery)) _)
  intro _
  apply Effect.Triple.bind_lift
  · exact fun _ _ _ _ => trivial
  intro outboxEvent houtbox
  obtain rfl : requestedEvent delivery = outboxEvent :=
    Except.ok.inj ((outboxEvent_of_valid hvalid).symm.trans houtbox)
  have hstable : StableAt .outboxJobs fun db =>
      RecordedIn delivery (db .emailDeliveries) ∧ AuditStored auditEvent db :=
    (stableAt_of_ne (by decide) (RecordedIn delivery)).and
      ((lasting_auditStored auditEvent).stableAt _)
  have henqueue : Effect.Triple
      (fun s : PgStore => RecordedIn delivery (s.store .emailDeliveries) ∧
        AuditStored auditEvent s.store)
      (enqueueQueued (postgresQueue pg) delivery (requestedEvent delivery) now)
      (fun _ s => PostgresDone delivery s.store) fun _ _ => True := by
    show Effect.Triple _ ((postgresQueue pg).enqueueOutboxEvent _ _ _) _ _
    apply Effect.Triple.bind (triple_enqueueOutboxEvent hstable _ _ _)
    intro _
    apply Effect.Triple.pure
    rintro s ⟨⟨hrecorded, hstored⟩, hjob⟩
    exact ⟨hrecorded, evidenced_of_stored hjob hstored hevent⟩
  apply Effect.Triple.bind henqueue
  intro _
  exact Effect.Triple.pure fun _ hs => hs

variable (pg) in
/-- INTERNAL: the transaction of a delivery that is stored changes nothing.
SOURCE: packages/email-delivery/src/index.js:254-255 -/
theorem triple_persistQueued_done (actorId : String) (signingKey : Option String) (now : Int) :
    Effect.Triple (fun s : PgStore => PostgresDone delivery s.store)
      (persistQueued (postgresQueue pg) P delivery actorId signingKey now)
      (fun _ s => PostgresDone delivery s.store) fun _ _ => True := by
  unfold persistQueued
  apply Effect.Triple.bind
    (triple_createEmailDelivery_recorded pg (I := PostgresDone delivery) fun _ h => h.1)
  intro result
  apply Effect.Triple.assume
  intro hcreated
  simp only [hcreated, Bool.not_false, if_true]
  exact Effect.Triple.pure fun _ hs => hs

/-- INTERNAL: the delivery found under its key.
SOURCE: apps/api/src/repositories/postgres.js:777-778 -/
theorem head_payloads_of_recorded {rows : List PgRow} (hrecorded : RecordedIn delivery rows) :
    (payloads Document.emailDelivery? (rows.filter
      (selects [(.idempotencyKey, .text delivery.idempotencyKey)]))).head? = some delivery := by
  obtain ⟨⟨row, hrow, hkey⟩, hall⟩ := hrecorded
  have hmem : row ∈ rows.filter (selects [(.idempotencyKey, .text delivery.idempotencyKey)]) :=
    List.mem_filter.mpr ⟨hrow, selects_key_iff.mpr hkey⟩
  cases hselected : rows.filter
      (selects [(.idempotencyKey, .text delivery.idempotencyKey)]) with
  | nil =>
    rw [hselected] at hmem
    cases hmem
  | cons first rest =>
    have hfirst : first ∈ rows.filter
        (selects [(.idempotencyKey, .text delivery.idempotencyKey)]) := by
      rw [hselected]
      exact List.mem_cons_self
    obtain ⟨hstored, hselects⟩ := List.mem_filter.mp hfirst
    have hpayload := hall first hstored (selects_key_iff.mp hselects)
    simp [payloads, hpayload, Document.emailDelivery?]

/-- INTERNAL: on a database that can take the delivery, a call where nothing fails finds a stored
delivery.
SOURCE: apps/api/src/repositories/postgres.js:764-785 -/
theorem exec_persist_recorded {db : PgDatabase}
    (hformed : pg.server.malformed insertDelivery (deliveryParams delivery) = none)
    (hrecorded : RecordedIn delivery (db .emailDeliveries)) (actorId : String)
    (signingKey : Option String) (now : Int) :
    Effect.exec (persistQueued (postgresQueue pg) P delivery actorId signingKey now) ⟨db, []⟩ =
      (.ok ⟨false, delivery⟩, ⟨db, []⟩) := by
  have hinsert : Effect.exec (pg.server.insert insertDelivery (deliveryParams delivery)) db =
      (.ok none, db) := by
    apply Server.exec_insert_skipped _ db rfl hformed
    obtain ⟨row, hrow, hkey⟩ := hrecorded.1
    exact List.any_eq_true.mpr ⟨row, hrow, agree_delivery_iff.mpr hkey⟩
  have hbinds : pg.binds (.text delivery.idempotencyKey) = true :=
    (pg.server.malformed_eq_none.mp hformed).2.2.1 _ (by simp [deliveryParams])
  have hselect : Effect.exec (pg.server.select .emailDeliveries
      [(.idempotencyKey, .text delivery.idempotencyKey)]) db =
      (.ok ((db .emailDeliveries).filter
        (selects [(.idempotencyKey, .text delivery.idempotencyKey)])), db) := by
    apply Server.exec_select
    simpa [Postgres.server] using hbinds
  have hhead : (payloads Document.emailDelivery? ((db .emailDeliveries).filter
      (selects [(.idempotencyKey, .text delivery.idempotencyKey)]))).head? = some delivery :=
    head_payloads_of_recorded hrecorded
  have hcreate : Effect.exec (Postgres.createEmailDelivery pg delivery) ⟨db, []⟩ =
      (.ok ⟨false, delivery⟩, ⟨db, []⟩) := by
    simp only [Postgres.createEmailDelivery, queryInsert, querySelect, Effect.exec_bind,
      Faulty.exec_call_nil, hinsert, hselect, hhead, intentMatches_iff.mpr rfl, if_true]
    rfl
  have hcreate' : Effect.exec ((postgresQueue pg).createEmailDelivery delivery) ⟨db, []⟩ =
      (.ok ⟨false, delivery⟩, ⟨db, []⟩) := hcreate
  simp only [persistQueued, Effect.exec_bind, hcreate', Bool.not_false, if_true]
  rfl

/-- INTERNAL: a call for a valid delivery is one transaction.
SOURCE: packages/email-delivery/src/index.js:274 -/
theorem call_postgres (hvalid : ValidDelivery P delivery) (c : QueueCall) (db : PgDatabase) :
    (queueCalls (postgresQueue pg) P delivery).call c db =
      ((Effect.exec (Faulty.atomic (persistQueued (postgresQueue pg) P delivery c.actorId
          c.signingKey c.now)) ⟨db, c.faults⟩).1,
        (Effect.exec (Faulty.atomic (persistQueued (postgresQueue pg) P delivery c.actorId
          c.signingKey c.now)) ⟨db, c.faults⟩).2.store) := by
  simp only [queueCalls, exec_queue_valid _ hvalid]
  rfl

/-- INTERNAL: every call from a database without the delivery changes nothing and throws, or
leaves the delivery with its evidence.
SOURCE: packages/email-delivery/src/index.js:244-277 -/
theorem postgres_once {start : PgDatabase} (hfresh : FreshIn delivery (start .emailDeliveries))
    (c : QueueCall) :
    ((queueCalls (postgresQueue pg) P delivery).call c start).2 = start ∧
        ¬ ((queueCalls (postgresQueue pg) P delivery).call c start).1.isOk = true ∨
      PostgresDone delivery ((queueCalls (postgresQueue pg) P delivery).call c start).2 := by
  by_cases hvalid : ValidDelivery P delivery
  · have hatomic := (Faulty.triple_atomic (P := fun db => FreshIn delivery (db .emailDeliveries))
      (Q := fun _ db => PostgresDone delivery db)
      (triple_persistQueued_fresh pg hvalid c.actorId c.signingKey c.now) start).holds
      ⟨start, c.faults⟩ ⟨hfresh, rfl⟩
    rw [call_postgres hvalid]
    rcases hrun : Effect.exec (Faulty.atomic (persistQueued (postgresQueue pg) P delivery c.actorId
      c.signingKey c.now)) ⟨start, c.faults⟩ with ⟨e | result, t⟩
    · rw [hrun] at hatomic
      exact Or.inl ⟨hatomic, Bool.false_ne_true⟩
    · rw [hrun] at hatomic
      exact Or.inr hatomic
  · obtain ⟨e, hcall⟩ := call_invalid (postgresQueue pg) hvalid c start
    rw [hcall]
    exact Or.inl ⟨rfl, Bool.false_ne_true⟩

/-- INTERNAL: a delivery with its evidence stays, whatever fails.
SOURCE: packages/email-delivery/src/index.js:244-277 -/
theorem postgres_stays (s : PgDatabase) (c : QueueCall) (hdone : PostgresDone delivery s) :
    PostgresDone delivery ((queueCalls (postgresQueue pg) P delivery).call c s).2 := by
  by_cases hvalid : ValidDelivery P delivery
  · have hatomic := (Faulty.triple_atomic (P := PostgresDone delivery)
      (Q := fun _ db => PostgresDone delivery db)
      (triple_persistQueued_done pg (P := P) c.actorId c.signingKey c.now) s).holds
      ⟨s, c.faults⟩ ⟨hdone, rfl⟩
    rw [call_postgres hvalid]
    rcases hrun : Effect.exec (Faulty.atomic (persistQueued (postgresQueue pg) P delivery c.actorId
      c.signingKey c.now)) ⟨s, c.faults⟩ with ⟨e | result, t⟩
    · rw [hrun] at hatomic
      obtain rfl : t.store = s := hatomic
      exact hdone
    · rw [hrun] at hatomic
      exact hatomic
  · obtain ⟨e, hcall⟩ := call_invalid (postgresQueue pg) hvalid c s
    rw [hcall]
    exact hdone

/-- INTERNAL: a call that could return before the delivery was stored returns after it.
SOURCE: packages/email-delivery/src/index.js:244-277 -/
theorem postgres_returns {start db : PgDatabase} {c : QueueCall} (hclear : c.faults = [])
    (hstart : ((queueCalls (postgresQueue pg) P delivery).call c start).1.isOk = true)
    (hdone : PostgresDone delivery db) :
    ((queueCalls (postgresQueue pg) P delivery).call c db).1.isOk = true := by
  have hvalid := valid_of_call hstart
  rw [call_postgres hvalid, hclear] at hstart ⊢
  have hformed : pg.server.malformed insertDelivery (deliveryParams delivery) = none := by
    cases hmalformed : pg.server.malformed insertDelivery (deliveryParams delivery) with
    | none => rfl
    | some rejection =>
      have hcreate : Effect.exec ((postgresQueue pg).createEmailDelivery delivery) ⟨start, []⟩ =
          (.error (pg.reject rejection), ⟨start, []⟩) := by
        show Effect.exec (Postgres.createEmailDelivery pg delivery) ⟨start, []⟩ = _
        simp only [Postgres.createEmailDelivery, queryInsert, Effect.exec_bind,
          Faulty.exec_call_nil, Server.exec_insert_malformed _ start hmalformed]
        rfl
      have hpersist : Effect.exec (persistQueued (postgresQueue pg) P delivery c.actorId
          c.signingKey c.now) ⟨start, []⟩ = (.error (pg.reject rejection), ⟨start, []⟩) := by
        simp only [persistQueued, Effect.exec_bind, hcreate]
      rw [Faulty.exec_atomic_error hpersist] at hstart
      cases hstart
  rw [Faulty.exec_atomic_ok (exec_persist_recorded hformed hdone.1 c.actorId c.signingKey c.now)]
  rfl

/-- INTERNAL: **on Postgres every run is repairable.**
SOURCE: packages/email-delivery/src/index.js:244-277 -/
theorem postgres_repairable {start : PgDatabase}
    (hfresh : FreshIn delivery (start .emailDeliveries)) (calls : List QueueCall) :
    Repairable (postgresQueue pg) postgresView P delivery start calls := by
  have hsettled := (queueCalls (postgresQueue pg) P delivery).settles
    (R := fun answer => answer.isOk = true) (G := fun _ _ => True)
    (fun c _ => postgres_once hfresh c) postgres_stays (Object.meets_true _ start calls)
  constructor
  · rintro ⟨entry, hentry, hok⟩
    obtain ⟨-, hfailed⟩ | hdone := hsettled
    · exact absurd hok (hfailed entry hentry)
    · exact hdone.2
  · intro c hclear hstart
    obtain ⟨hend, -⟩ | hdone := hsettled
    · rw [hend]
      exact hstart
    · exact postgres_returns hclear hstart hdone

end

/-! ## The memory repository -/

/-- Whether the outbox takes the job of a delivery: no other event is bound to its key, and no
other job has its id.
SOURCE: apps/api/src/reliability/outbox.js:169-181 -/
def takesJob (outbox : OutboxStore) (delivery : EmailDelivery) : Bool :=
  match outbox.idempotencyKeys.get delivery.idempotencyKey with
  | some existingId => (outbox.items.get existingId).any fun existing =>
      existing.idempotencyKey = delivery.idempotencyKey &&
        sameLogicalEvent existing (requestedEvent delivery)
  | none => !outbox.items.has (trim (delivery.id ++ "-outbox"))

/-- A call that stores the delivery: the delivery is valid and new, its id is free, and the first
of the writes has its effect. -/
structure StoresRecord (P : Platform) (delivery : EmailDelivery) (s : MemoryStores)
    (c : QueueCall) : Prop where
  valid : ValidDelivery P delivery
  fresh : ∀ item ∈ s.repository.emailDeliveryStore.values,
    item.idempotencyKey ≠ delivery.idempotencyKey
  free : s.repository.emailDeliveryStore.has delivery.id = false
  effective : ∀ e, (c.faults[0]?).join ≠ some (.before e)

/-- A call that finishes what it began: it has an outbox that takes the job under the key as it is,
no call fails up to the one of the outbox, and that one has its effect. -/
structure RunsThrough (hasOutbox : Bool) (delivery : EmailDelivery) (s : MemoryStores)
    (c : QueueCall) : Prop where
  given : hasOutbox = true
  trimmed : trim delivery.idempotencyKey = delivery.idempotencyKey
  time : isValidTime c.now = true
  takes : takesJob s.outbox delivery = true
  clear : Faulty.Clear 3 (⟨s, c.faults⟩ : Faulty JsError MemoryStores)
  effective : ∀ e, (c.faults[3]?).join ≠ some (.before e)

/-- The delivery is stored, with its job and its queued event. -/
def MemoryDone (delivery : EmailDelivery) (s : MemoryStores) : Prop :=
  (∃ existing, (s.repository.emailDeliveryStore.values.find? fun item =>
      item.idempotencyKey = delivery.idempotencyKey) = some existing ∧
    emailDeliveryIntentMatches existing delivery = true) ∧
  memoryView.Evidenced s delivery

/-- INTERNAL: a text with a character that is no white space is not blank. -/
theorem trim_ne_empty {value : String} {c : Char} (hmem : c ∈ value.toList)
    (hspace : isWhitespace c = false) : trim value ≠ "" := by
  intro hempty
  have hnil : (value.toList.dropWhile isWhitespace).rdropWhile isWhitespace = [] := by
    have htoList := congrArg String.toList hempty
    unfold trim at htoList
    rw [String.toList_ofList] at htoList
    exact htoList
  have hall := List.rdropWhile_eq_nil_iff.mp hnil
  rw [← List.takeWhile_append_dropWhile (p := isWhitespace) (l := value.toList)] at hmem
  obtain htake | hdrop := List.mem_append.mp hmem
  · exact Bool.false_ne_true (hspace.symm.trans (List.mem_takeWhile_imp htake))
  · exact Bool.false_ne_true (hspace.symm.trans (hall c hdrop))

section

variable {P : Platform} {delivery : EmailDelivery} {s : MemoryStores}

/-- INTERNAL: what the memory repository makes of a delivery.
SOURCE: apps/api/src/repositories/memory.js:267-280 -/
theorem exec_createEmailDelivery (r : MemoryRepository) :
    Effect.exec (createEmailDelivery delivery) r =
      match r.emailDeliveryStore.values.find? fun item =>
          item.idempotencyKey = delivery.idempotencyKey with
      | some existing =>
        if emailDeliveryIntentMatches existing delivery then (.ok ⟨false, existing⟩, r)
        else (.error deliveryConflict, r)
      | none =>
        if r.emailDeliveryStore.has delivery.id then
          (.error (newError "Email delivery id already exists."), r)
        else (.ok ⟨true, delivery⟩,
          { r with emailDeliveryStore := r.emailDeliveryStore.put delivery }) := by
  unfold createEmailDelivery
  simp only [Effect.exec_bind, Effect.exec_get]
  cases r.emailDeliveryStore.values.find? fun item =>
      item.idempotencyKey = delivery.idempotencyKey with
  | some existing => cases hmatches : emailDeliveryIntentMatches existing delivery <;> simp
  | none => cases hhas : r.emailDeliveryStore.has delivery.id <;> simp

/-- INTERNAL: an outbox that takes the job has it after `enqueue`.
SOURCE: apps/api/src/reliability/outbox.js:169-181 -/
theorem hasJob_enqueue (hvalid : ValidDelivery P delivery) {outbox : OutboxStore} {now : Int}
    (htrimmed : trim delivery.idempotencyKey = delivery.idempotencyKey)
    (htime : isValidTime now = true) (htakes : takesJob outbox delivery = true) :
    ∃ job ∈ (Effect.exec (enqueue (requestedEvent delivery) (some delivery.idempotencyKey) now)
        outbox).2.items.values,
      job.idempotencyKey = delivery.idempotencyKey ∧ job.event.aggregateId = delivery.id := by
  have hid : trim (delivery.id ++ "-outbox") ≠ "" :=
    trim_ne_empty (c := 'x') (by simp) (by decide)
  have hkey : delivery.idempotencyKey ≠ "" := hvalid.idempotencyKey.ne_empty
  have hjob : ∃ job, newJob (requestedEvent delivery) (some delivery.idempotencyKey) now = .ok job ∧
      job.id = trim (delivery.id ++ "-outbox") ∧ job.idempotencyKey = delivery.idempotencyKey ∧
      job.event = requestedEvent delivery := by
    have htype : trim "email.delivery.requested" ≠ "" :=
      trim_ne_empty (c := 'e') (by decide) (by decide)
    have haggregate : trim "email_delivery" ≠ "" :=
      trim_ne_empty (c := 'e') (by decide) (by decide)
    simp [newJob, Model.requiredString, requestedEvent, hid, htype, haggregate,
      hvalid.id.nonempty, nowIso, nowDate, toISOString, htime, htrimmed, hkey, bind, Except.bind,
      pure, Except.pure]
  obtain ⟨job, hnew, hjobId, hjobKey, hjobEvent⟩ := hjob
  unfold enqueue
  simp only [Effect.exec_bind, Effect.exec_lift, hnew, Effect.exec_get, hjobKey]
  unfold takesJob at htakes
  cases hbound : outbox.idempotencyKeys.get delivery.idempotencyKey with
  | some existingId =>
    cases hexisting : outbox.items.get existingId with
    | none =>
      simp only [hbound, hexisting] at htakes
      cases htakes
    | some existing =>
      simp only [hbound, hexisting] at htakes
      obtain ⟨hexistingKey, hsame⟩ : existing.idempotencyKey = delivery.idempotencyKey ∧
          sameLogicalEvent existing (requestedEvent delivery) = true := by
        simpa using htakes
      have haggregateId : existing.event.aggregateId = delivery.id := by
        unfold sameLogicalEvent at hsame
        simp only [Bool.and_eq_true, decide_eq_true_eq] at hsame
        exact hsame.2
      simp only [hsame, if_true, hexisting]
      exact ⟨existing, OrderedMap.mem_values_iff_get.mpr ⟨existingId, hexisting⟩, hexistingKey,
        haggregateId⟩
  | none =>
    rw [hbound] at htakes
    have hfree : outbox.items.has job.id = false := by
      rw [hjobId]
      simpa using htakes
    simp only [hfree, Bool.false_eq_true, if_false]
    refine ⟨job, OrderedMap.mem_values_iff_get.mpr ⟨job.id, ?_⟩, hjobKey, ?_⟩
    · simp
    · rw [hjobEvent]
      rfl

/-- INTERNAL: without transactions, a call for a valid delivery makes its writes one by one.
SOURCE: packages/email-delivery/src/index.js:275 -/
theorem call_memory (hvalid : ValidDelivery P delivery) (hasOutbox : Bool) (c : QueueCall) :
    (queueCalls (memoryQueue hasOutbox) P delivery).call c s =
      ((Effect.exec (persistQueued (memoryQueue hasOutbox) P delivery c.actorId c.signingKey c.now)
          ⟨s, c.faults⟩).1,
        (Effect.exec (persistQueued (memoryQueue hasOutbox) P delivery c.actorId c.signingKey c.now)
          ⟨s, c.faults⟩).2.store) := by
  simp only [queueCalls, exec_queue_valid _ hvalid]
  rfl

/-- INTERNAL: the call of `createEmailDelivery`, whatever its fault. -/
theorem exec_call_create (hasOutbox : Bool) (faults : List (Option (Fault JsError))) :
    Effect.exec ((memoryQueue hasOutbox).createEmailDelivery delivery) ⟨s, faults⟩ =
      (Faulty.seen (Faulty.next (⟨s, faults⟩ : Faulty JsError MemoryStores))
          (Effect.exec (createEmailDelivery delivery) s.repository).1,
        { store := Faulty.effected (Faulty.next (⟨s, faults⟩ : Faulty JsError MemoryStores)) s
            { s with
              repository := (Effect.exec (createEmailDelivery delivery) s.repository).2 }
          faults := faults.tail }) := rfl

/-- INTERNAL: a call that cannot store the delivery throws, and changes nothing.
SOURCE: packages/email-delivery/src/index.js:254 -/
theorem memory_unchanged (hasOutbox : Bool)
    (hfresh : ∀ item ∈ s.repository.emailDeliveryStore.values,
      item.idempotencyKey ≠ delivery.idempotencyKey) {c : QueueCall}
    (hnot : ¬ StoresRecord P delivery s c) :
    ∃ e, (queueCalls (memoryQueue hasOutbox) P delivery).call c s = (.error e, s) := by
  by_cases hvalid : ValidDelivery P delivery
  · rw [call_memory hvalid]
    have hfind : (s.repository.emailDeliveryStore.values.find? fun item =>
        item.idempotencyKey = delivery.idempotencyKey) = none := by
      apply List.find?_eq_none.mpr
      intro item hitem
      simpa using hfresh item hitem
    have hcreate : ∃ e, Effect.exec ((memoryQueue hasOutbox).createEmailDelivery delivery)
        ⟨s, c.faults⟩ = (.error e, ⟨s, c.faults.tail⟩) := by
      rw [exec_call_create, exec_createEmailDelivery, hfind]
      cases hhas : s.repository.emailDeliveryStore.has delivery.id with
      | true =>
        simp only [if_true]
        cases Faulty.next (⟨s, c.faults⟩ : Faulty JsError MemoryStores) with
        | none => exact ⟨_, rfl⟩
        | some fault => cases fault <;> exact ⟨_, rfl⟩
      | false =>
        have hbefore : ∃ e, (c.faults[0]?).join = some (.before e) := by
          by_contra hnone
          exact hnot ⟨hvalid, hfresh, hhas, not_exists.mp hnone⟩
        obtain ⟨e, he⟩ := hbefore
        have hnext : Faulty.next (⟨s, c.faults⟩ : Faulty JsError MemoryStores) =
            some (.before e) := by
          unfold Faulty.next
          rw [List.head?_eq_getElem?]
          exact he
        rw [hnext]
        exact ⟨e, rfl⟩
    obtain ⟨e, hcreate⟩ := hcreate
    refine ⟨e, ?_⟩
    simp only [persistQueued, Effect.exec_bind, hcreate]
  · exact call_invalid _ hvalid c s

/-- INTERNAL: a call that stores the delivery and finishes leaves it with its evidence.
SOURCE: packages/email-delivery/src/index.js:253-273 -/
theorem memory_finished {hasOutbox : Bool} {c : QueueCall} (hstores : StoresRecord P delivery s c)
    (hfinishes : RunsThrough hasOutbox delivery s c) :
    MemoryDone delivery ((queueCalls (memoryQueue hasOutbox) P delivery).call c s).2 := by
  obtain rfl := hfinishes.given
  rw [call_memory hstores.valid]
  have hfind : (s.repository.emailDeliveryStore.values.find? fun item =>
      item.idempotencyKey = delivery.idempotencyKey) = none := by
    apply List.find?_eq_none.mpr
    intro item hitem
    simpa using hstores.fresh item hitem
  obtain ⟨auditEvent, haudit, hauditId, haction, hresource, htenant⟩ :=
    queuedAudit_of_valid hstores.valid c.actorId c.signingKey
      (s.repository.listAuditEventsByTenant delivery.tenantId)
  -- the stores after each of the first three calls
  let recorded : MemoryStores := { s with repository := { s.repository with
    emailDeliveryStore := s.repository.emailDeliveryStore.put delivery } }
  let audited : MemoryStores := { recorded with repository := { recorded.repository with
    auditEventStore := recorded.repository.auditEventStore ++ [auditEvent] } }
  have hcreate : Effect.exec ((memoryQueue true).createEmailDelivery delivery) ⟨s, c.faults⟩ =
      (.ok ⟨true, delivery⟩, ⟨recorded, c.faults.tail⟩) := by
    show Effect.exec (Faulty.call _) _ = _
    rw [Faulty.exec_call_clear hfinishes.clear, Effect.exec_focus, exec_createEmailDelivery, hfind]
    simp only [hstores.free, Bool.false_eq_true, if_false]
    rfl
  have hlist : Effect.exec ((memoryQueue true).listAuditEventsByTenant delivery.tenantId)
      ⟨recorded, c.faults.tail⟩ =
      (.ok (s.repository.listAuditEventsByTenant delivery.tenantId),
        ⟨recorded, c.faults.tail.tail⟩) := by
    show Effect.exec (Faulty.call _) _ = _
    rw [Faulty.exec_call_clear (hfinishes.clear.tail recorded)]
    rfl
  have happend : Effect.exec ((memoryQueue true).appendAuditEvent auditEvent)
      ⟨recorded, c.faults.tail.tail⟩ = (.ok auditEvent, ⟨audited, c.faults.tail.tail.tail⟩) := by
    show Effect.exec (Faulty.call _) _ = _
    rw [Faulty.exec_call_clear ((hfinishes.clear.tail recorded).tail recorded)]
    rfl
  have henqueue : (Effect.exec (enqueueQueued (memoryQueue true) delivery
      (requestedEvent delivery) c.now) ⟨audited, c.faults.tail.tail.tail⟩).2.store =
      { audited with outbox := (Effect.exec (enqueue (requestedEvent delivery)
        (some delivery.idempotencyKey) c.now) s.outbox).2 } := by
    show (Effect.exec (enqueueMemory (requestedEvent delivery) delivery.idempotencyKey c.now)
      _).2.store = _
    unfold enqueueMemory onOutbox
    rw [Effect.store_bind _ fun _ _ => rfl, Faulty.exec_call]
    have hnext : ∀ e, Faulty.next (⟨audited, c.faults.tail.tail.tail⟩ :
        Faulty JsError MemoryStores) ≠ some (.before e) := by
      intro e
      unfold Faulty.next
      rw [List.head?_eq_getElem?]
      simpa using hfinishes.effective e
    show Faulty.effected _ _ _ = _
    cases hfault : Faulty.next (⟨audited, c.faults.tail.tail.tail⟩ :
        Faulty JsError MemoryStores) with
    | none => rfl
    | some fault =>
      cases fault with
      | before e => exact absurd hfault (hnext e)
      | after e => rfl
  have hend : (Effect.exec (persistQueued (memoryQueue true) P delivery c.actorId c.signingKey
      c.now) ⟨s, c.faults⟩).2.store = { audited with outbox := (Effect.exec (enqueue
        (requestedEvent delivery) (some delivery.idempotencyKey) c.now) s.outbox).2 } := by
    simp only [persistQueued, Effect.exec_bind, hcreate, Bool.not_true, Bool.false_eq_true,
      if_false, hlist, Effect.exec_lift, haudit, happend, outboxEvent_of_valid hstores.valid]
    rw [← henqueue]
    rcases Effect.exec (enqueueQueued (memoryQueue true) delivery (requestedEvent delivery) c.now)
      ⟨audited, c.faults.tail.tail.tail⟩ with ⟨_ | _, t⟩ <;> rfl
  rw [hend]
  refine ⟨⟨delivery, ?_, intentMatches_iff.mpr rfl⟩, ?_, auditEvent, ?_, hauditId, haction,
    hresource⟩
  · show ((s.repository.emailDeliveryStore.put delivery).values.find? _) = _
    rw [Table.values_put_of_not_has hstores.free, List.find?_append, hfind]
    simp
  · exact hasJob_enqueue hstores.valid hfinishes.trimmed hfinishes.time hfinishes.takes
  · show auditEvent ∈ (s.repository.auditEventStore ++ [auditEvent]).filter _
    simp [htenant]

/-- INTERNAL: a delivery with its evidence stays, whatever fails.
SOURCE: packages/email-delivery/src/index.js:254-255 -/
theorem memory_stays (hasOutbox : Bool) (s : MemoryStores) (c : QueueCall)
    (hdone : MemoryDone delivery s) :
    MemoryDone delivery ((queueCalls (memoryQueue hasOutbox) P delivery).call c s).2 := by
  by_cases hvalid : ValidDelivery P delivery
  · rw [call_memory hvalid]
    obtain ⟨⟨existing, hfind, hmatches⟩, hevidenced⟩ := hdone
    have hcreate : Effect.exec (createEmailDelivery delivery) s.repository =
        (.ok ⟨false, existing⟩, s.repository) := by
      rw [exec_createEmailDelivery, hfind]
      simp only [hmatches, if_true]
    have hsame : (Effect.exec (persistQueued (memoryQueue hasOutbox) P delivery c.actorId
        c.signingKey c.now) ⟨s, c.faults⟩).2.store = s := by
      simp only [persistQueued, Effect.exec_bind, exec_call_create, hcreate]
      cases Faulty.next (⟨s, c.faults⟩ : Faulty JsError MemoryStores) with
      | none => rfl
      | some fault => cases fault <;> rfl
    rw [hsame]
    exact ⟨⟨existing, hfind, hmatches⟩, hevidenced⟩
  · obtain ⟨e, hcall⟩ := call_invalid (memoryQueue hasOutbox) hvalid c s
    rw [hcall]
    exact hdone

/-- INTERNAL: a call on which nothing fails returns once the delivery is stored.
SOURCE: packages/email-delivery/src/index.js:254-255 -/
theorem memory_returns {hasOutbox : Bool} {c : QueueCall} (hvalid : ValidDelivery P delivery)
    (hclear : c.faults = []) (hdone : MemoryDone delivery s) :
    ((queueCalls (memoryQueue hasOutbox) P delivery).call c s).1.isOk = true := by
  rw [call_memory hvalid, hclear]
  obtain ⟨⟨existing, hfind, hmatches⟩, -⟩ := hdone
  have hcreate : Effect.exec (createEmailDelivery delivery) s.repository =
      (.ok ⟨false, existing⟩, s.repository) := by
    rw [exec_createEmailDelivery, hfind]
    simp only [hmatches, if_true]
  simp only [persistQueued, Effect.exec_bind, exec_call_create, hcreate]
  rfl

/-- INTERNAL: **on the memory repository a run is repairable when every call of it that stores the
delivery finishes.**
SOURCE: packages/email-delivery/src/index.js:244-277 -/
theorem memory_repairable {hasOutbox : Bool} {start : MemoryStores}
    (hfresh : ∀ item ∈ start.repository.emailDeliveryStore.values,
      item.idempotencyKey ≠ delivery.idempotencyKey) {calls : List QueueCall}
    (hfinishes : (queueCalls (memoryQueue hasOutbox) P delivery).Meets
      (fun s c => StoresRecord P delivery s c → RunsThrough hasOutbox delivery s c) start calls) :
    Repairable (memoryQueue hasOutbox) memoryView P delivery start calls := by
  have honce : ∀ c, (StoresRecord P delivery start c → RunsThrough hasOutbox delivery start c) →
      ((queueCalls (memoryQueue hasOutbox) P delivery).call c start).2 = start ∧
          ¬ ((queueCalls (memoryQueue hasOutbox) P delivery).call c start).1.isOk = true ∨
        MemoryDone delivery ((queueCalls (memoryQueue hasOutbox) P delivery).call c start).2 := by
    intro c hc
    by_cases hstores : StoresRecord P delivery start c
    · exact Or.inr (memory_finished hstores (hc hstores))
    · obtain ⟨e, hcall⟩ := memory_unchanged hasOutbox hfresh hstores
      rw [hcall]
      exact Or.inl ⟨rfl, Bool.false_ne_true⟩
  have hsettled := (queueCalls (memoryQueue hasOutbox) P delivery).settles
    (R := fun answer => answer.isOk = true) honce (memory_stays hasOutbox) hfinishes
  constructor
  · rintro ⟨entry, hentry, hok⟩
    obtain ⟨-, hfailed⟩ | hdone := hsettled
    · exact absurd hok (hfailed entry hentry)
    · exact hdone.2
  · intro c hclear hstart
    obtain ⟨hend, -⟩ | hdone := hsettled
    · rw [hend]
      exact hstart
    · exact memory_returns (valid_of_call hstart) hclear hdone

end

/-- **Queueing can be repaired by queueing again**: on Postgres after any failures, and on a
repository without transactions when every call that stores the delivery finishes.
SOURCE: packages/email-delivery/src/index.js:244-277;
apps/api/src/repositories/postgres.js:66-83, 764-785; apps/api/src/repositories/memory.js:267-280;
apps/api/src/reliability/outbox.js:169-181 -/
theorem queued_deliveries (P : Platform) (delivery : EmailDelivery) :
    (∀ (pg : Postgres) (start : PgDatabase), FreshIn delivery (start .emailDeliveries) →
      ∀ calls, Repairable (postgresQueue pg) postgresView P delivery start calls) ∧
    ∀ (hasOutbox : Bool) (start : MemoryStores),
      (∀ item ∈ start.repository.emailDeliveryStore.values,
        item.idempotencyKey ≠ delivery.idempotencyKey) →
      ∀ calls, (queueCalls (memoryQueue hasOutbox) P delivery).Meets
          (fun s c => StoresRecord P delivery s c → RunsThrough hasOutbox delivery s c) start calls →
        Repairable (memoryQueue hasOutbox) memoryView P delivery start calls :=
  ⟨fun _ _ hfresh calls => postgres_repairable hfresh calls,
    fun _ _ hfresh _ hfinishes => memory_repairable hfresh hfinishes⟩

/-- A database server without limits. -/
def roomyPostgres : Postgres where
  driverText := stringify
  binds _ := true
  fits _ _ := true
  reject _ := newError "rejected"
  collation a b := a ≤ b

/-- A database with one tenant. -/
def tenantDatabase : PgDatabase
  | .tenants => [fun
    | .id => .text "tenant-a"
    | .name => .text "Tenant A"
    | .status => .text "active"
    | .staged => .boolean true
    | _ => .null]
  | _ => []

/-- The first write of the first call fails; the second call goes through. -/
def retriedCalls : List QueueCall := [
  { actorId := "email-queue", signingKey := none, now := 2000
    faults := [some (.before (newError "database is locked"))] },
  { actorId := "email-queue", signingKey := none, now := 3000 }]

/-- The runs of `retriedCalls` on both repositories.
SOURCE: packages/email-delivery/src/index.js:244-277 -/
theorem queued_deliveries_retried :
    Repairable (postgresQueue roomyPostgres) postgresView sinkEnvironment.platform queuedDelivery
        tenantDatabase retriedCalls ∧
      Repairable (memoryQueue true) memoryView sinkEnvironment.platform queuedDelivery {}
        retriedCalls := by
  obtain ⟨hpostgres, hmemory⟩ := queued_deliveries sinkEnvironment.platform queuedDelivery
  refine ⟨hpostgres roomyPostgres tenantDatabase ?_ retriedCalls,
    hmemory true {} ?_ retriedCalls ⟨?_, ?_, trivial⟩⟩
  · intro row hrow
    cases hrow
  · intro item hitem
    cases hitem
  · intro hstores
    exact absurd rfl (hstores.effective (newError "database is locked"))
  · intro _
    exact ⟨rfl, by decide +kernel, by decide, by decide +kernel, Faulty.clear_nil 3 _, by simp⟩

/-- The write to the outbox fails in the first call; the second call goes through. -/
def abandonedCalls : List QueueCall := [
  { actorId := "email-queue", signingKey := none, now := 2000
    faults := [none, none, none, some (.before (newError "database is locked"))] },
  { actorId := "email-queue", signingKey := none, now := 3000 }]

/-- **Without transactions a delivery can be queued for ever**: after a failure of the outbox the
delivery is stored, so the next call returns and makes no job.
SOURCE: packages/email-delivery/src/index.js:253-273 -/
theorem queued_without_job :
    ¬ ∀ calls, Repairable (memoryQueue true) memoryView sinkEnvironment.platform queuedDelivery {}
      calls := by
  intro hall
  have hrun : ((((queueCalls (memoryQueue true) sinkEnvironment.platform queuedDelivery).run {}
      abandonedCalls).1.map fun entry => entry.2.isOk),
      ((queueCalls (memoryQueue true) sinkEnvironment.platform queuedDelivery).run {}
      abandonedCalls).2.outbox.items.values.length) = ([false, true], 0) := by
    decide +kernel
  obtain ⟨hanswers, hlength⟩ := Prod.mk.inj hrun
  have hok : true ∈ ((queueCalls (memoryQueue true) sinkEnvironment.platform queuedDelivery).run {}
      abandonedCalls).1.map fun entry => entry.2.isOk := by
    rw [hanswers]
    decide
  obtain ⟨entry, hentry, hentryOk⟩ := List.mem_map.mp hok
  obtain ⟨⟨job, hjob, -⟩, -⟩ := (hall abandonedCalls).returned ⟨entry, hentry, hentryOk⟩
  rw [List.eq_nil_of_length_eq_zero hlength] at hjob
  cases hjob

end Xygo.Analysis
