import Xygo.Analysis.OutboxSpec
import Xygo.Analysis.SuppressedRecipients
import Xygo.Model.DeliveryWorker

/-!
# Whether one email is sent once

Every attempt of a job calls the provider with the key of the job and a record of the intent
that was queued, so the local sink takes the first message and answers every later call with
it. A job whose delivery is stored as accepted is not sent again, unless the finalization that
stored it is reported as failed: the handler is still in its `try` block then, and its `catch`
block overwrites the status (`accepted_resent`). Along the runs in which that does not happen,
`delivered_once` holds.
-/

set_option autoImplicit false

namespace Xygo.Analysis

open Xygo.Computation Xygo.Model
open EmailDelivery (intent)

/-- The job asks for the delivery, under its key. -/
structure JobOf (queued : EmailDelivery) (job : OutboxJob) : Prop where
  aggregateId : job.event.aggregateId = queued.id
  idempotencyKey : job.idempotencyKey = queued.idempotencyKey

/-- The messages of a sink under the key of the delivery: at most one, with what was queued. -/
structure OneMessage (queued : EmailDelivery) (messages : List SinkMessage) : Prop where
  one : (messages.filter fun item => item.idempotencyKey = queued.idempotencyKey).length ≤ 1
  content : ∀ item ∈ messages, item.idempotencyKey = queued.idempotencyKey →
    emailDeliveryIntentMatches item.delivery queued = true

/-- The stored delivery is accepted. -/
def AcceptedStored (queued : EmailDelivery) (r : MemoryRepository) : Prop :=
  ∃ delivery, r.getEmailDeliveryById queued.id = some delivery ∧ delivery.status = .accepted

section

variable (E : Environment)

/-- **What one delivery promises along a run**: in every state it reaches the sink, and the file
of the sink, have at most one message under the key, with what was queued, and every call of
the provider carried the key; and once the delivery is stored as accepted the provider is not
called again.
SOURCE: apps/worker/src/worker.js:35-117; packages/email-delivery/src/index.js:400-433 -/
structure DeliveredOnce (queued : EmailDelivery) (start : DeliveryState)
    (steps : List DeliveryStep) : Prop where
  messages : ∀ before after s, steps = before ++ after →
    (deliveryWorker E).run start before = some s →
      OneMessage queued s.sink.memory ∧ (∀ file, s.sink.file = some file → OneMessage queued file) ∧
        ∀ key ∈ s.calls, key = queued.idempotencyKey
  accepted : ∀ before middle after s t, steps = before ++ (middle ++ after) →
    (deliveryWorker E).run start before = some s → (deliveryWorker E).run s middle = some t →
      AcceptedStored queued s.repository → t.calls = s.calls

/-- A finalization that stored the delivery as accepted is not reported as failed: its answer is
not lost, and nothing throws between it and the end of the `try` block.
SOURCE: apps/worker/src/worker.js:77-101 -/
def AcceptanceReported (s : DeliveryState) : DeliveryStep → Prop
  | .accept now (some (.after _)) => ∀ job sending id accepted, s.phase = .sent job sending id →
      markEmailDeliveryAccepted E.platform sending E.provider id now ≠ .ok accepted
  | _ => True

/-- The state `queueEmailDelivery` leaves: the delivery is stored, and its job enqueued.
SOURCE: packages/email-delivery/src/index.js:244-277 -/
def queuedState (queued : EmailDelivery) (event : OutboxEvent) (enqueuedAt : Int)
    (repository : MemoryRepository) (sink : Sink) : DeliveryState where
  outbox := (Effect.exec (enqueue event (some queued.idempotencyKey) enqueuedAt) .empty).2
  repository :=
    { repository with emailDeliveryStore := repository.emailDeliveryStore.put queued }
  sink := sink

end

/-- The delivery the worker has in hand is of the job, and of the intent that was queued. -/
def PhaseOf (queued : EmailDelivery) : DeliveryPhase → Prop
  | .idle => True
  | .claimed job | .handled job | .threw job _ => JobOf queued job
  | .loaded job delivery | .checked job delivery _ | .saved job delivery | .sent job delivery _
  | .caught job delivery _ => JobOf queued job ∧ intent delivery = intent queued

/-- The worker does not hold a delivery it may write back. -/
def DeliveryPhase.holdsNothing : DeliveryPhase → Bool
  | .idle | .claimed _ | .handled _ | .threw _ _ => true
  | _ => false

/-- What every step keeps. -/
structure SentOnce (queued : EmailDelivery) (s : DeliveryState) : Prop where
  jobs : ∀ id job, s.outbox.items.get id = some job → JobOf queued job
  stored : ∃ delivery, s.repository.emailDeliveryStore.get queued.id = some delivery ∧
    intent delivery = intent queued
  memory : OneMessage queued s.sink.memory
  file : ∀ file, s.sink.file = some file → OneMessage queued file
  calls : ∀ key ∈ s.calls, key = queued.idempotencyKey
  phase : PhaseOf queued s.phase

/-- What every step keeps while acceptances are reported. -/
def Settles (queued : EmailDelivery) (s : DeliveryState) : Prop :=
  AcceptedStored queued s.repository → DeliveryPhase.holdsNothing s.phase = true

section

variable {queued : EmailDelivery}

/-- INTERNAL: the jobs of a store after a call that enqueues nothing.
SOURCE: apps/api/src/reliability/outbox.js:190-273 -/
theorem outcome_jobs {s t : OutboxStore} {c : OutboxCall} {r : Except JsError OutboxResult}
    (h : Outcome s c r t) (hc : ∀ event key now, c ≠ .enqueue event key now)
    (hs : ∀ id job, s.items.get id = some job → JobOf queued job) :
    ∀ id job, t.items.get id = some job → JobOf queued job := by
  have hput : ∀ {id record record'}, s.items.get id = some record →
      record'.event = record.event → record'.idempotencyKey = record.idempotencyKey →
      ∀ id' job, (s.put id record').items.get id' = some job → JobOf queued job := by
    intro id record record' hget hevent hkey id' job hjob
    simp only [OutboxStore.put, OrderedMap.get_set] at hjob
    split at hjob
    · obtain rfl := Option.some.inj hjob
      obtain ⟨ha, hk⟩ := hs id record hget
      exact ⟨by rw [hevent, ha], by rw [hkey, hk]⟩
    · exact hs id' job hjob
  cases h with
  | refused => exact hs
  | enqueued => exact absurd rfl (hc _ _ _)
  | duplicate => exact hs
  | claimed =>
    intro id job hjob
    simp only [OrderedMap.get_mapValues] at hjob
    obtain ⟨record, hget, rfl⟩ := Option.map_eq_some_iff.mp hjob
    obtain ⟨ha, hk⟩ := hs id record hget
    split
    · exact ⟨ha, hk⟩
    · exact ⟨ha, hk⟩
  | completed found => exact hput found rfl rfl
  | failed found => exact hput found rfl rfl
  | absent => exact hs
  | replayed _ found => exact hput found rfl rfl

/-- INTERNAL: the store after a call of an operation, seen from the operation. -/
theorem store_operation {α : Type} (f : α → OutboxResult) (m : OutboxM α) (s : OutboxStore) :
    (Effect.exec (f <$> m) s).2 = (Effect.exec m s).2 := by
  rw [Effect.exec_map]
  rcases Effect.exec m s with ⟨_ | _, t⟩ <;> rfl

/-- INTERNAL: a call that may meet a fault leaves the store, or what the operation leaves. -/
theorem faulty_store {σ α : Type} (fault : Option (Fault JsError)) (op : Effect JsError σ α)
    (s : σ) : (faulty fault op s).2 = s ∨ (faulty fault op s).2 = (Effect.exec op s).2 := by
  unfold faulty Faulty.effected
  dsimp only
  split
  · exact Or.inl rfl
  · exact Or.inr rfl

/-- INTERNAL: a call that returned met no fault. -/
theorem faulty_ok {σ α : Type} {fault : Option (Fault JsError)} {op : Effect JsError σ α}
    {s : σ} {a : α} (h : (faulty fault op s).1 = .ok a) :
    fault = none ∧ Effect.exec op s = (.ok a, (faulty fault op s).2) := by
  unfold faulty Faulty.seen at h
  dsimp only at h
  cases fault with
  | none => exact ⟨rfl, Prod.ext h rfl⟩
  | some fault =>
    cases fault with
    | before e => cases h
    | after e =>
      cases hanswer : (Effect.exec op s).1 <;> rw [hanswer] at h <;> cases h

/-- INTERNAL: the jobs after a faulty call that enqueues nothing. -/
theorem jobs_faulty {α : Type} {f : α → OutboxResult} {m : OutboxM α} {c : OutboxCall}
    (hop : c.operation = f <$> m) (hc : ∀ event key now, c ≠ .enqueue event key now)
    (fault : Option (Fault JsError)) {s : OutboxStore}
    (hs : ∀ id job, s.items.get id = some job → JobOf queued job) :
    ∀ id job, (faulty fault m s).2.items.get id = some job → JobOf queued job := by
  obtain hsame | hop' := faulty_store fault m s
  · rw [hsame]
    exact hs
  · rw [hop', ← store_operation f m s, ← hop]
    exact outcome_jobs (outcome_call s c) hc hs

/-- INTERNAL: what the sink's list becomes.
SOURCE: packages/email-delivery/src/index.js:404-420 -/
theorem sinkSend_cases (P : Platform) (delivery : EmailDelivery) (key : String) (now : Int)
    (messages : List SinkMessage) :
    (Effect.exec (sinkSend P delivery key now) messages).2 = messages ∨
    (∀ item ∈ messages, item.idempotencyKey ≠ key) ∧ ∃ id acceptedAt,
      (Effect.exec (sinkSend P delivery key now) messages).2 =
        messages ++ [⟨id, key, delivery, acceptedAt⟩] := by
  cases hassert : assertEmailDelivery P delivery with
  | error e => exact Or.inl (by simp [sinkSend, hassert])
  | ok checked =>
    cases hfind : messages.find? fun item => item.idempotencyKey = key with
    | some existing =>
      left
      cases hmatches : emailDeliveryIntentMatches existing.delivery delivery <;>
        simp [sinkSend, hassert, hfind, hmatches]
    | none =>
      cases htime : toISOString now with
      | error e => exact Or.inl (by simp [sinkSend, hassert, hfind, htime])
      | ok acceptedAt =>
        right
        constructor
        · intro item hmem hkey
          simpa [hkey] using List.find?_eq_none.mp hfind item hmem
        · exact ⟨_, acceptedAt, by simp [sinkSend, hassert, hfind, htime]; rfl⟩

/-- INTERNAL: the first message under the key. -/
theorem OneMessage.push {messages : List SinkMessage}
    (hfresh : ∀ item ∈ messages, item.idempotencyKey ≠ queued.idempotencyKey)
    {item : SinkMessage} (hitem : intent item.delivery = intent queued) :
    OneMessage queued (messages ++ [item]) := by
  have hnone : (messages.filter fun item => item.idempotencyKey = queued.idempotencyKey) = [] := by
    rw [List.filter_eq_nil_iff]
    intro item hmem
    simpa using hfresh item hmem
  constructor
  · rw [List.filter_append, hnone]
    exact (List.length_filter_le _ _).trans (by simp)
  · intro other hmem hkey
    obtain hold | hnew := List.mem_append.mp hmem
    · exact absurd hkey (hfresh other hold)
    · obtain rfl := List.mem_singleton.mp hnew
      exact intentMatches_iff.mpr hitem

/-- INTERNAL: a call of the sink under the key, with a record of the queued intent.
SOURCE: packages/email-delivery/src/index.js:391-421 -/
theorem oneMessage_send (P : Platform) {delivery : EmailDelivery}
    (hintent : intent delivery = intent queued) (now : Int) (writeError : Option JsError)
    {sink : Sink} (hmemory : OneMessage queued sink.memory)
    (hfile : ∀ file, sink.file = some file → OneMessage queued file) :
    let after := (Effect.exec
      (Sink.send P delivery queued.idempotencyKey now writeError) sink).2
    OneMessage queued after.memory ∧ ∀ file, after.file = some file → OneMessage queued file := by
  dsimp only
  have hlist : OneMessage queued
      (Effect.exec (sinkSend P delivery queued.idempotencyKey now) sink.memory).2 := by
    obtain hsame | ⟨hfresh, id, acceptedAt, hpush⟩ :=
      sinkSend_cases P delivery queued.idempotencyKey now sink.memory
    · rw [hsame]
      exact hmemory
    · rw [hpush]
      exact OneMessage.push hfresh hintent
  unfold Sink.send
  simp only [Effect.exec_bind, Effect.exec_get, Effect.exec_lift]
  cases (Effect.exec (sinkSend P delivery queued.idempotencyKey now) sink.memory).1 with
  | error e => exact ⟨hmemory, hfile⟩
  | ok id =>
    simp only [Effect.exec_ite, Effect.exec_pure, Effect.exec_bind, Effect.exec_set]
    split
    · exact ⟨hmemory, hfile⟩
    · cases hsink : sink.file with
      | none => exact ⟨hlist, fun file h => by cases h⟩
      | some old =>
        cases writeError with
        | some error => exact ⟨hlist, fun file h => hfile file (hsink.trans h)⟩
        | none =>
          refine ⟨hlist, fun file h => ?_⟩
          obtain rfl := Option.some.inj h
          exact hlist

/-- INTERNAL: a repository in which at most the delivery was put. -/
def Puts (r t : MemoryRepository) (delivery : EmailDelivery) : Prop :=
  t.emailDeliveryStore = r.emailDeliveryStore ∨
    t.emailDeliveryStore = r.emailDeliveryStore.put delivery

/-- INTERNAL: a faulty finalization puts its delivery or nothing.
SOURCE: apps/api/src/repositories/memory.js:299-306 -/
theorem puts_finalize (fault : Option (Fault JsError)) (delivery : EmailDelivery)
    (evidence : Evidence) (r : MemoryRepository) :
    Puts r (faulty fault (finalizeEmailDelivery delivery evidence) r).2 delivery := by
  obtain hsame | hop := faulty_store fault (finalizeEmailDelivery delivery evidence) r
  · exact Or.inl (by rw [hsame])
  · rw [hop]
    obtain hexec | ⟨result, events, hexec, -⟩ := exec_finalizeEmailDelivery delivery evidence r
    · exact Or.inl (by rw [hexec])
    · exact Or.inr (by rw [hexec])

/-- INTERNAL: so does a faulty save.
SOURCE: apps/api/src/repositories/memory.js:294-298 -/
theorem puts_save (fault : Option (Fault JsError)) (delivery : EmailDelivery)
    (r : MemoryRepository) : Puts r (faulty fault (saveEmailDelivery delivery) r).2 delivery := by
  obtain hsame | hop := faulty_store fault (saveEmailDelivery delivery) r
  · exact Or.inl (by rw [hsame])
  · rw [hop, exec_saveEmailDelivery]
    cases r.emailDeliveryStore.has delivery.id with
    | true => exact Or.inr rfl
    | false => exact Or.inl rfl

/-- INTERNAL: after a record of the queued intent was put, the stored one has it. -/
theorem Puts.stored {r t : MemoryRepository} {delivery : EmailDelivery} (h : Puts r t delivery)
    (hintent : intent delivery = intent queued)
    (hstored : ∃ d, r.emailDeliveryStore.get queued.id = some d ∧ intent d = intent queued) :
    ∃ d, t.emailDeliveryStore.get queued.id = some d ∧ intent d = intent queued := by
  obtain hsame | hput := h
  · rw [hsame]
    exact hstored
  · refine ⟨delivery, ?_, hintent⟩
    rw [hput, Table.get_put, if_pos (id_of_intent hintent).symm]

/-- INTERNAL: an acceptance is stored only by a record that is accepted. -/
theorem Puts.accepted {r t : MemoryRepository} {delivery : EmailDelivery} (h : Puts r t delivery)
    (haccepted : AcceptedStored queued t) :
    AcceptedStored queued r ∨ delivery.status = .accepted := by
  obtain hsame | hput := h
  · left
    unfold AcceptedStored MemoryRepository.getEmailDeliveryById at haccepted ⊢
    rw [hsame] at haccepted
    exact haccepted
  · obtain ⟨stored, hget, hstatus⟩ := haccepted
    simp only [MemoryRepository.getEmailDeliveryById, hput, Table.get_put] at hget
    split at hget
    · obtain rfl := Option.some.inj hget
      exact Or.inr hstatus
    · exact Or.inl ⟨stored, hget, hstatus⟩

variable {E : Environment}

/-- The steps that are enabled, and what each makes of the state. -/
inductive Move (E : Environment) (s : DeliveryState) : DeliveryStep → DeliveryState → Prop
  | claim {workerId : String} {now limit staleAfterMs : Int} {fault : Option (Fault JsError)}
      (phase : s.phase = .idle) :
      Move E s (.claim workerId now limit staleAfterMs fault)
        (claimStep workerId now limit staleAfterMs fault s)
  | load {fault : Option (Fault JsError)} {job : OutboxJob} (phase : s.phase = .claimed job) :
      Move E s (.load fault) { s with phase := loadStep job fault s.repository }
  | checkSuppression {fault : Option (Fault JsError)} {job : OutboxJob} {delivery : EmailDelivery}
      (phase : s.phase = .loaded job delivery) :
      Move E s (.checkSuppression fault)
        { s with phase := checkStep E job delivery fault s.repository }
  | store {now : Int} {fault : Option (Fault JsError)} {job : OutboxJob} {delivery : EmailDelivery}
      {suppression : Option EmailSuppression} (phase : s.phase = .checked job delivery suppression) :
      Move E s (.store now fault)
        { s with
          phase := (storeStep E job delivery suppression now fault s.repository).1
          repository := (storeStep E job delivery suppression now fault s.repository).2 }
  | send {now : Int} {writeError : Option JsError} {fault : Option (Fault JsError)}
      {job : OutboxJob} {sending : EmailDelivery} (phase : s.phase = .saved job sending) :
      Move E s (.send now writeError fault)
        { s with
          phase := (sendStep E job sending now writeError fault s.sink).1
          sink := (sendStep E job sending now writeError fault s.sink).2
          calls := s.calls ++ [job.idempotencyKey] }
  | accept {now : Int} {fault : Option (Fault JsError)} {job : OutboxJob}
      {sending : EmailDelivery} {id : String} (phase : s.phase = .sent job sending id) :
      Move E s (.accept now fault)
        { s with
          phase := (acceptStep E job sending id now fault s.repository).1
          repository := (acceptStep E job sending id now fault s.repository).2 }
  | recover {now : Int} {fault : Option (Fault JsError)} {job : OutboxJob}
      {sending : EmailDelivery} {error : JsError} (phase : s.phase = .caught job sending error) :
      Move E s (.recover now fault)
        { s with
          phase := (recoverStep E job sending error now fault s.repository).1
          repository := (recoverStep E job sending error now fault s.repository).2 }
  | complete {now : Int} {fault : Option (Fault JsError)} {job : OutboxJob}
      (phase : s.phase = .handled job) : Move E s (.complete now fault) (completeStep job now fault s)
  | fail {now : Int} {options : FailOptions} {fault : Option (Fault JsError)} {job : OutboxJob}
      {error : JsError} (phase : s.phase = .threw job error) :
      Move E s (.fail now options fault) (failStep job error now options fault s)
  | crash : Move E s .crash { s with sink := s.sink.reopened, phase := .idle }
  | replay {id : String} {tenantId : Option String} {reason : String} {now : Int} :
      Move E s (.replay id tenantId reason now)
        { s with outbox := (Effect.exec (replay id tenantId reason now) s.outbox).2 }

/-- INTERNAL: a step of the machine is one of the moves. -/
theorem move_of_step {s t : DeliveryState} {l : DeliveryStep}
    (h : (deliveryWorker E).step s l = some t) : Move E s l t := by
  obtain ⟨outbox, repository, sink, calls, workerId, phase⟩ := s
  cases l with
  | crash =>
    obtain rfl := Option.some.inj h
    exact .crash
  | replay id tenantId reason now =>
    obtain rfl := Option.some.inj h
    exact .replay
  | claim =>
    cases phase with
    | idle =>
      obtain rfl := Option.some.inj h
      exact .claim rfl
    | _ => cases h
  | load =>
    cases phase with
    | claimed job =>
      obtain rfl := Option.some.inj h
      exact .load rfl
    | _ => cases h
  | checkSuppression =>
    cases phase with
    | loaded job delivery =>
      obtain rfl := Option.some.inj h
      exact .checkSuppression rfl
    | _ => cases h
  | store =>
    cases phase with
    | checked job delivery suppression =>
      obtain rfl := Option.some.inj h
      exact .store rfl
    | _ => cases h
  | send =>
    cases phase with
    | saved job sending =>
      obtain rfl := Option.some.inj h
      exact .send rfl
    | _ => cases h
  | accept =>
    cases phase with
    | sent job sending id =>
      obtain rfl := Option.some.inj h
      exact .accept rfl
    | _ => cases h
  | recover =>
    cases phase with
    | caught job sending error =>
      obtain rfl := Option.some.inj h
      exact .recover rfl
    | _ => cases h
  | complete =>
    cases phase with
    | handled job =>
      obtain rfl := Option.some.inj h
      exact .complete rfl
    | _ => cases h
  | fail =>
    cases phase with
    | threw job error =>
      obtain rfl := Option.some.inj h
      exact .fail rfl
    | _ => cases h

/-- INTERNAL: the job a claim gives is one of the store.
SOURCE: apps/api/src/reliability/outbox.js:190-202 -/
theorem phaseOf_claim {workerId : String} {now limit staleAfterMs : Int}
    {fault : Option (Fault JsError)} {s : DeliveryState}
    (hjobs : ∀ id job, s.outbox.items.get id = some job → JobOf queued job) :
    PhaseOf queued (claimStep workerId now limit staleAfterMs fault s).phase := by
  unfold claimStep
  dsimp only
  split
  · rename_i job jobs hclaim
    obtain ⟨-, hexec⟩ := faulty_ok hclaim
    have hout := outcome_call s.outbox (.claim workerId now limit staleAfterMs)
    have hcall : (memoryOutbox.call (.claim workerId now limit staleAfterMs) s.outbox).1 =
        .ok (.jobs (job :: jobs)) := by
      show (Effect.exec (OutboxResult.jobs <$> claim workerId now limit staleAfterMs) s.outbox).1 =
        _
      rw [Effect.exec_map, hexec]
    rw [hcall] at hout
    generalize hjobs' : job :: jobs = all at hout
    generalize (memoryOutbox.call (.claim workerId now limit staleAfterMs) s.outbox).2 = t at hout
    cases hout
    have hmem : job ∈ (sliceTo (ready s.outbox now staleAfterMs) limit).map
        (Model.claimed workerId now) := hjobs' ▸ List.mem_cons_self
    obtain ⟨record, hrecord, rfl⟩ := List.mem_map.mp hmem
    have hready : record ∈ s.outbox.items.values :=
      (List.mem_filter.mp (mem_of_mem_sliceTo hrecord)).1
    obtain ⟨id, hget⟩ := OrderedMap.mem_values_iff_get.mp hready
    obtain ⟨ha, hk⟩ := hjobs id record hget
    exact ⟨ha, hk⟩
  · trivial

/-- INTERNAL: the delivery the handler reads is the stored one.
SOURCE: apps/worker/src/worker.js:36-50 -/
theorem phaseOf_load {job : OutboxJob} {fault : Option (Fault JsError)} {r : MemoryRepository}
    (hjob : JobOf queued job)
    (hstored : ∃ d, r.emailDeliveryStore.get queued.id = some d ∧ intent d = intent queued) :
    PhaseOf queued (loadStep job fault r) := by
  unfold loadStep
  split
  · exact hjob
  · split
    · exact hjob
    · exact hjob
    · rename_i delivery hread
      split
      · exact hjob
      · split
        · exact hjob
        · refine ⟨hjob, ?_⟩
          obtain ⟨stored, hget, hintent⟩ := hstored
          have hsame : some stored = some delivery := by
            rw [← hget, ← hjob.aggregateId]
            unfold Faulty.seen at hread
            split at hread
            · exact Except.ok.inj hread
            all_goals cases hread
          rw [← Option.some.inj hsame]
          exact hintent

/-- INTERNAL: what the handler writes before the provider is called.
SOURCE: apps/worker/src/worker.js:53-76 -/
theorem storeStep_cases {job : OutboxJob} {delivery : EmailDelivery}
    {suppression : Option EmailSuppression} {now : Int} {fault : Option (Fault JsError)}
    {r : MemoryRepository} (hjob : JobOf queued job) (hintent : intent delivery = intent queued) :
    PhaseOf queued (storeStep E job delivery suppression now fault r).1 ∧
      ∃ marked, intent marked = intent queued ∧ marked.status ≠ .accepted ∧
        Puts r (storeStep E job delivery suppression now fault r).2 marked := by
  have hnothing : ∃ marked : EmailDelivery, intent marked = intent queued ∧
      marked.status ≠ .accepted ∧ Puts r r marked :=
    ⟨{ queued with status := .queued }, rfl, by simp, Or.inl rfl⟩
  unfold storeStep
  cases suppression with
  | some suppression =>
    dsimp only
    split
    · exact ⟨hjob, hnothing⟩
    · rename_i suppressed hmark
      have hmarked := (intent_markSuppressed hmark).trans hintent
      have hputs := puts_finalize fault suppressed (workerEvidence E suppressed
        "email.delivery.suppressed" ("suppression-" ++ suppression.id)) r
      have hstatus : suppressed.status ≠ .accepted := by
        cases hterm : delivery.status.isTerminal with
        | false =>
          obtain ⟨reason, rfl⟩ := markSuppressed_eq_ok hterm hmark
          exact fun h => by cases h
        | true => exact marked_terminal hterm hmark ▸ ne_accepted_of_terminal hterm
      split
      · exact ⟨hjob, suppressed, hmarked, hstatus, hputs⟩
      · exact ⟨hjob, suppressed, hmarked, hstatus, hputs⟩
  | none =>
    dsimp only
    split
    · exact ⟨hjob, hnothing⟩
    · rename_i sending hmark
      have hmarked := (intent_markSending hmark).trans hintent
      have hputs := puts_save fault sending r
      have hstatus : sending.status ≠ .accepted := by
        cases hterm : delivery.status.isTerminal with
        | false =>
          obtain rfl := markSending_eq_ok hterm hmark
          exact fun h => by cases h
        | true => exact marked_terminal hterm hmark ▸ ne_accepted_of_terminal hterm
      split
      · exact ⟨⟨hjob, hmarked⟩, sending, hmarked, hstatus, hputs⟩
      · exact ⟨hjob, sending, hmarked, hstatus, hputs⟩

/-- INTERNAL: what the finalization of an accepted record writes, and where it leaves the handler.
SOURCE: apps/worker/src/worker.js:79-101 -/
theorem acceptStep_cases {job : OutboxJob} {sending : EmailDelivery} {id : String} {now : Int}
    {fault : Option (Fault JsError)} {r : MemoryRepository} (hjob : JobOf queued job)
    (hintent : intent sending = intent queued) :
    PhaseOf queued (acceptStep E job sending id now fault r).1 ∧
      ∃ marked, intent marked = intent queued ∧
        Puts r (acceptStep E job sending id now fault r).2 marked := by
  unfold acceptStep
  split
  · exact ⟨⟨hjob, hintent⟩, queued, rfl, Or.inl rfl⟩
  · rename_i accepted hmark
    have hmarked := (intent_markAccepted hmark).trans hintent
    have hputs := puts_finalize fault accepted
      (workerEvidence E accepted "email.delivery.accepted" "accepted") r
    dsimp only
    split
    · exact ⟨hjob, accepted, hmarked, hputs⟩
    · exact ⟨⟨hjob, hintent⟩, accepted, hmarked, hputs⟩

/-- INTERNAL: what the `catch` block writes.
SOURCE: apps/worker/src/worker.js:101-115 -/
theorem recoverStep_cases {job : OutboxJob} {sending : EmailDelivery} (error : JsError) (now : Int)
    (fault : Option (Fault JsError)) (r : MemoryRepository) (hjob : JobOf queued job)
    (hintent : intent sending = intent queued) :
    (∃ thrown, (recoverStep E job sending error now fault r).1 = .threw job thrown) ∧
      PhaseOf queued (recoverStep E job sending error now fault r).1 ∧
      ∃ marked, intent marked = intent queued ∧
        Puts r (recoverStep E job sending error now fault r).2 marked := by
  unfold recoverStep
  split
  · exact ⟨⟨_, rfl⟩, hjob, queued, rfl, Or.inl rfl⟩
  · rename_i failed hmark
    have hmarked := (intent_markFailed hmark).trans hintent
    have hputs := puts_finalize fault failed (workerEvidence E failed
      "email.delivery.failed" ("attempt-" ++ toString failed.attempts ++ "-failed")) r
    dsimp only
    split
    · exact ⟨⟨_, rfl⟩, hjob, failed, hmarked, hputs⟩
    · exact ⟨⟨_, rfl⟩, hjob, failed, hmarked, hputs⟩

/-- INTERNAL: a process that reopens its sink reads one message or none.
SOURCE: packages/email-delivery/src/index.js:386-389 -/
theorem OneMessage.reopened {sink : Sink}
    (hfile : ∀ file, sink.file = some file → OneMessage queued file) :
    OneMessage queued sink.reopened.memory := by
  unfold Sink.reopened
  dsimp only
  cases hsink : sink.file with
  | none => exact ⟨by simp, fun item hmem => by simp at hmem⟩
  | some file => exact hfile file hsink

/-- **Every step keeps the messages, the keys and the intents.** -/
theorem sentOnce_step {s t : DeliveryState} {l : DeliveryStep} (hs : SentOnce queued s)
    (h : (deliveryWorker E).step s l = some t) : SentOnce queued t := by
  obtain ⟨hjobs, hstored, hmemory, hfile, hcalls, hphase⟩ := hs
  cases move_of_step h with
  | @claim workerId now limit staleAfterMs fault phase =>
    exact ⟨jobs_faulty (c := .claim workerId now limit staleAfterMs) rfl
      (fun _ _ _ h => by cases h) fault hjobs, hstored, hmemory, hfile, hcalls, phaseOf_claim hjobs⟩
  | load phase =>
    rw [phase] at hphase
    exact ⟨hjobs, hstored, hmemory, hfile, hcalls, phaseOf_load hphase hstored⟩
  | @checkSuppression fault job delivery phase =>
    rw [phase] at hphase
    refine ⟨hjobs, hstored, hmemory, hfile, hcalls, ?_⟩
    show PhaseOf queued (checkStep E job delivery fault s.repository)
    unfold checkStep
    split
    · exact hphase
    · exact hphase.1
  | store phase =>
    rw [phase] at hphase
    obtain ⟨hnext, marked, hmarked, -, hputs⟩ := storeStep_cases hphase.1 hphase.2
    exact ⟨hjobs, hputs.stored hmarked hstored, hmemory, hfile, hcalls, hnext⟩
  | @send now writeError fault job sending phase =>
    rw [phase] at hphase
    obtain ⟨hjob, hintent⟩ := hphase
    have hsent := oneMessage_send E.platform hintent now writeError hmemory hfile
    rw [← hjob.idempotencyKey] at hsent
    have hsink : OneMessage queued (sendStep E job sending now writeError fault s.sink).2.memory ∧
        ∀ file, (sendStep E job sending now writeError fault s.sink).2.file = some file →
          OneMessage queued file := by
      have hstep : (sendStep E job sending now writeError fault s.sink).2 = (faulty fault
          (Sink.send E.platform sending job.idempotencyKey now writeError) s.sink).2 := by
        unfold sendStep
        dsimp only
        split <;> rfl
      rw [hstep]
      obtain hsame | hop := faulty_store fault
        (Sink.send E.platform sending job.idempotencyKey now writeError) s.sink
      · rw [hsame]
        exact ⟨hmemory, hfile⟩
      · rw [hop]
        exact hsent
    refine ⟨hjobs, hstored, hsink.1, hsink.2, ?_, ?_⟩
    · intro key hmem
      obtain hold | hnew := List.mem_append.mp hmem
      · exact hcalls key hold
      · rw [List.mem_singleton.mp hnew, hjob.idempotencyKey]
    · show PhaseOf queued (sendStep E job sending now writeError fault s.sink).1
      unfold sendStep
      dsimp only
      split
      · exact ⟨hjob, hintent⟩
      · exact ⟨hjob, hintent⟩
  | accept phase =>
    rw [phase] at hphase
    obtain ⟨hnext, marked, hmarked, hputs⟩ := acceptStep_cases hphase.1 hphase.2
    exact ⟨hjobs, hputs.stored hmarked hstored, hmemory, hfile, hcalls, hnext⟩
  | recover phase =>
    rw [phase] at hphase
    obtain ⟨-, hnext, marked, hmarked, hputs⟩ := recoverStep_cases _ _ _ _ hphase.1 hphase.2
    exact ⟨hjobs, hputs.stored hmarked hstored, hmemory, hfile, hcalls, hnext⟩
  | @complete now fault job phase =>
    rw [phase] at hphase
    have hjobs' := jobs_faulty (c := .complete job.id s.workerId now) rfl
      (fun _ _ _ h => by cases h) fault hjobs
    unfold completeStep
    dsimp only
    split
    · exact ⟨hjobs', hstored, hmemory, hfile, hcalls, trivial⟩
    · exact ⟨hjobs', hstored, hmemory, hfile, hcalls, hphase⟩
  | @fail now options fault job error phase =>
    refine ⟨?_, hstored, hmemory, hfile, hcalls, trivial⟩
    exact jobs_faulty (c := .fail job.id s.workerId error now { options with
      maxAttempts := if error.retryable = some false then job.attempts else options.maxAttempts })
      rfl (fun _ _ _ h => by cases h) fault hjobs
  | crash => exact ⟨hjobs, hstored, OneMessage.reopened hfile, hfile, hcalls, trivial⟩
  | @replay id tenantId reason now =>
    exact ⟨jobs_faulty (c := .replay id tenantId reason now) rfl (fun _ _ _ h => by cases h) none
      hjobs, hstored, hmemory, hfile, hcalls, hphase⟩

/-- INTERNAL: the finalization of an accepted record returns unless it meets a fault.
SOURCE: apps/api/src/repositories/memory.js:299-306 -/
theorem finalize_returns {delivery : EmailDelivery} {r : MemoryRepository}
    (hvalid : ValidDelivery E.platform delivery)
    (hhas : r.emailDeliveryStore.has delivery.id = true) :
    ∃ t, Effect.exec (finalizeEmailDelivery delivery
      (workerEvidence E delivery "email.delivery.accepted" "accepted")) r = (.ok delivery, t) := by
  obtain ⟨event, hresolve⟩ := workerEvidence_ok (E := E) hvalid "email.delivery.accepted"
    (by decide) "accepted" (r.lastEventHash delivery.tenantId)
  obtain ⟨events, hexec⟩ := exec_finalize_ok hhas hresolve
  exact ⟨_, hexec⟩

/-- **Every step keeps an accepted delivery out of the worker's hands**, if acceptances are
reported. -/
theorem settles_step {s t : DeliveryState} {l : DeliveryStep}
    (hvalid : ValidDelivery E.platform queued) (hs : SentOnce queued s) (hsettles : Settles queued s)
    (hreported : AcceptanceReported E s l) (h : (deliveryWorker E).step s l = some t) :
    Settles queued t := by
  have hstays : ∀ {phase : DeliveryPhase}, s.phase = phase → DeliveryPhase.holdsNothing phase = false →
      ¬ AcceptedStored queued s.repository := by
    intro phase hphase hholds haccepted
    have hnothing := hsettles haccepted
    rw [hphase, hholds] at hnothing
    cases hnothing
  cases move_of_step h with
  | claim phase =>
    intro _
    unfold claimStep
    dsimp only
    split <;> rfl
  | @load fault job phase =>
    rintro ⟨delivery, hget, haccepted⟩
    have hjob : JobOf queued job := by
      have hphase := hs.phase
      rw [phase] at hphase
      exact hphase
    show DeliveryPhase.holdsNothing (loadStep job fault s.repository) = true
    unfold loadStep
    split
    · rfl
    · split
      · rfl
      · rfl
      · rename_i read hread
        have hsame : some delivery = some read := by
          rw [← hget, ← hjob.aggregateId]
          unfold Faulty.seen at hread
          split at hread
          · exact Except.ok.inj hread
          all_goals cases hread
        obtain rfl := Option.some.inj hsame
        split
        · rfl
        · rw [haccepted]
          rfl
  | checkSuppression phase => exact fun haccepted => absurd haccepted (hstays phase rfl)
  | store phase =>
    intro haccepted
    have hphase := hs.phase
    rw [phase] at hphase
    obtain ⟨-, marked, -, hstatus, hputs⟩ := storeStep_cases hphase.1 hphase.2
    obtain hold | hnew := hputs.accepted haccepted
    · exact absurd hold (hstays phase rfl)
    · exact absurd hnew hstatus
  | send phase => exact fun haccepted => absurd haccepted (hstays phase rfl)
  | @accept now fault job sending id phase =>
    intro haccepted
    have hphase := hs.phase
    rw [phase] at hphase
    obtain ⟨hjob, hintent⟩ := hphase
    have hopen := hstays phase rfl
    show DeliveryPhase.holdsNothing (acceptStep E job sending id now fault s.repository).1 = true
    have haccepted' : AcceptedStored queued
        (acceptStep E job sending id now fault s.repository).2 := haccepted
    unfold acceptStep at haccepted' ⊢
    split
    · rename_i error hmark
      simp only [hmark] at haccepted'
      exact absurd haccepted' hopen
    · rename_i accepted hmark
      simp only [hmark] at haccepted'
      have hmarked := (intent_markAccepted hmark).trans hintent
      have hhas : s.repository.emailDeliveryStore.has accepted.id = true := by
        obtain ⟨stored, hget, -⟩ := hs.stored
        rw [id_of_intent hmarked, Table.has]
        exact Option.isSome_iff_exists.mpr ⟨stored, hget⟩
      obtain ⟨u, hexec⟩ := finalize_returns (valid_of_intent hmarked hvalid) hhas
      cases fault with
      | none => simp [faulty, Faulty.seen, hexec, DeliveryPhase.holdsNothing]
      | some fault =>
        cases fault with
        | before e =>
          -- Nothing is stored, and nothing was accepted before.
          have hunstored : AcceptedStored queued s.repository := by
            simp only [faulty, Faulty.seen, Faulty.effected] at haccepted'
            exact haccepted'
          exact absurd hunstored hopen
        | after e => exact absurd hmark (hreported job sending id accepted phase)
  | @recover now fault job sending error phase =>
    intro _
    have hphase := hs.phase
    rw [phase] at hphase
    obtain ⟨⟨thrown, hthrown⟩, -⟩ := recoverStep_cases (E := E) error now fault s.repository
      hphase.1 hphase.2
    show DeliveryPhase.holdsNothing (recoverStep E job sending error now fault s.repository).1 = true
    rw [hthrown]
    rfl
  | complete phase =>
    intro _
    unfold completeStep
    dsimp only
    split <;> rfl
  | fail phase => exact fun _ => rfl
  | crash => exact fun _ => rfl
  | replay => exact fun haccepted => hsettles haccepted

/-- INTERNAL: once an accepted delivery is out of the worker's hands, it stays accepted and the
provider is not called. -/
theorem accepted_step {s t : DeliveryState} {l : DeliveryStep}
    (hvalid : ValidDelivery E.platform queued) (hs : SentOnce queued s)
    (haccepted : AcceptedStored queued s.repository)
    (hnothing : DeliveryPhase.holdsNothing s.phase = true)
    (h : (deliveryWorker E).step s l = some t) :
    t.calls = s.calls ∧ AcceptedStored queued t.repository ∧
      DeliveryPhase.holdsNothing t.phase = true := by
  have hsettles : Settles queued s := fun _ => hnothing
  have hhands : ∀ {phase : DeliveryPhase}, s.phase = phase →
      DeliveryPhase.holdsNothing phase = true := fun hphase => hphase ▸ hnothing
  have hreported : AcceptanceReported E s l := by
    cases move_of_step h with
    | accept phase => cases hhands phase
    | _ => trivial
  have hafter := settles_step hvalid hs hsettles hreported h
  have hkeeps : t.calls = s.calls ∧ AcceptedStored queued t.repository := by
    cases move_of_step h with
    | store phase => cases hhands phase
    | send phase => cases hhands phase
    | accept phase => cases hhands phase
    | recover phase => cases hhands phase
    | complete phase =>
      unfold completeStep
      dsimp only
      split <;> exact ⟨rfl, haccepted⟩
    | _ => exact ⟨rfl, haccepted⟩
  exact ⟨hkeeps.1, hkeeps.2, hafter hkeeps.2⟩

/-- INTERNAL: an event of the outbox for a delivery names it.
SOURCE: packages/email-delivery/src/index.js:206-216 -/
theorem aggregateId_outboxEvent {event : OutboxEvent}
    (h : createEmailDeliveryOutboxEvent E.platform queued = .ok event) :
    event.aggregateId = queued.id := by
  obtain ⟨_, -, hevent⟩ := bind_eq_ok.mp h
  unfold createOutboxEvent at hevent
  split at hevent
  · cases hevent
  · obtain rfl := Except.ok.inj hevent
    rfl

/-- INTERNAL: the only job is the one that was enqueued.
SOURCE: apps/api/src/reliability/outbox.js:169-181 -/
theorem jobs_queuedState {event : OutboxEvent} (hevent : event.aggregateId = queued.id)
    (hkey : trim queued.idempotencyKey = queued.idempotencyKey) (enqueuedAt : Int) (id : String)
    (job : OutboxJob)
    (hget : (Effect.exec (enqueue event (some queued.idempotencyKey) enqueuedAt) .empty).2.items.get
      id = some job) : JobOf queued job := by
  have hempty : ∀ k, OutboxStore.empty.items.get k = none := fun k => rfl
  have hout := outcome_call .empty (.enqueue event (some queued.idempotencyKey) enqueuedAt)
  have hstore : (memoryOutbox.call (.enqueue event (some queued.idempotencyKey) enqueuedAt)
      .empty).2 = (Effect.exec (enqueue event (some queued.idempotencyKey) enqueuedAt) .empty).2 :=
    store_operation _ _ _
  rw [hstore] at hout
  generalize (Effect.exec (enqueue event (some queued.idempotencyKey) enqueuedAt) .empty).2 = t
    at hget hout
  generalize (memoryOutbox.call (.enqueue event (some queued.idempotencyKey) enqueuedAt)
    .empty).1 = r at hout
  cases hout with
  | refused => rw [hempty] at hget; cases hget
  | duplicate => rw [hempty] at hget; cases hget
  | @enqueued _ _ _ record built =>
    simp only [OrderedMap.get_set] at hget
    split at hget
    · obtain rfl := Option.some.inj hget
      obtain ⟨_, -, h⟩ := bind_eq_ok.mp built
      obtain ⟨_, -, h⟩ := bind_eq_ok.mp h
      obtain ⟨_, -, h⟩ := bind_eq_ok.mp h
      obtain ⟨_, -, h⟩ := bind_eq_ok.mp h
      obtain ⟨_, -, h⟩ := bind_eq_ok.mp h
      obtain ⟨key, hrequired, h⟩ := bind_eq_ok.mp h
      obtain rfl := Except.ok.inj h
      refine ⟨hevent, ?_⟩
      unfold requiredString at hrequired
      split at hrequired
      · cases hrequired
      · obtain rfl := Except.ok.inj hrequired
        exact hkey
    · rw [hempty] at hget
      cases hget

end

section

variable (E : Environment)

/-- **One email is sent once**, along every run of the worker over its job, with failures and
crashes at any step, retries, stale claims and replays, in which a stored acceptance is not
reported as failed.
SOURCE: apps/worker/src/worker.js:35-117; apps/api/src/reliability/outbox.js:641-676;
packages/email-delivery/src/index.js:289-345, 400-433 -/
theorem delivered_once {parseUrl : String → Option ParsedUrl} {input : EmailDeliveryInput}
    {id : String} {createdAt : Int} {queued checked : EmailDelivery} {event : OutboxEvent}
    (hcreate : Email.createEmailDelivery parseUrl E.platform input id createdAt = .ok queued)
    (hassert : assertEmailDelivery E.platform queued = .ok checked)
    (hevent : createEmailDeliveryOutboxEvent E.platform queued = .ok event) (enqueuedAt : Int)
    (repository : MemoryRepository) {sink : Sink}
    (hmemory : ∀ item ∈ sink.memory, item.idempotencyKey ≠ queued.idempotencyKey)
    (hfile : ∀ file, sink.file = some file →
      ∀ item ∈ file, item.idempotencyKey ≠ queued.idempotencyKey) {steps : List DeliveryStep}
    (hreported : (deliveryWorker E).Meets (AcceptanceReported E)
      (queuedState queued event enqueuedAt repository sink) steps) :
    DeliveredOnce E queued (queuedState queued event enqueuedAt repository sink) steps := by
  have hvalid := ((assertEmailDelivery_eq_ok E.platform).mp hassert).1
  have hfresh : ∀ messages : List SinkMessage,
      (∀ item ∈ messages, item.idempotencyKey ≠ queued.idempotencyKey) →
        OneMessage queued messages := by
    intro messages hmessages
    constructor
    · have hnone : (messages.filter fun item =>
          item.idempotencyKey = queued.idempotencyKey) = [] := by
        rw [List.filter_eq_nil_iff]
        intro item hmem
        simpa using hmessages item hmem
      rw [hnone]
      simp
    · exact fun item hmem hkey => absurd hkey (hmessages item hmem)
  have hstart : SentOnce queued (queuedState queued event enqueuedAt repository sink) := by
    refine ⟨jobs_queuedState (aggregateId_outboxEvent hevent) (createEmailDelivery_ok hcreate).2 _,
      ⟨queued, by simp [queuedState], rfl⟩, hfresh _ hmemory,
      fun file h => hfresh file (hfile file h), ?_, trivial⟩
    simp [queuedState]
  have hsettled : Settles queued (queuedState queued event enqueuedAt repository sink) :=
    fun _ => rfl
  have hrun : ∀ before after s, steps = before ++ after →
      (deliveryWorker E).run (queuedState queued event enqueuedAt repository sink) before = some s →
        SentOnce queued s ∧ Settles queued s := by
    intro before after s hsteps hs
    have hmeets : (deliveryWorker E).Meets (AcceptanceReported E)
        (queuedState queued event enqueuedAt repository sink) before :=
      (deliveryWorker E).meets_of_append (hsteps ▸ hreported)
    exact (deliveryWorker E).invariant_of_meets
      (I := fun u => SentOnce queued u ∧ Settles queued u)
      (fun u l w hu hl hstep => ⟨sentOnce_step hu.1 hstep,
        settles_step hvalid hu.1 hu.2 hl hstep⟩) ⟨hstart, hsettled⟩ hmeets hs
  constructor
  · intro before after s hsteps hs
    have honce := (hrun before after s hsteps hs).1
    exact ⟨honce.memory, honce.file, honce.calls⟩
  · intro before middle after s t hsteps hs ht haccepted
    obtain ⟨honce, hsettles⟩ := hrun before (middle ++ after) s hsteps hs
    have hinv := (deliveryWorker E).invariant
      (I := fun u => SentOnce queued u ∧ u.calls = s.calls ∧
        AcceptedStored queued u.repository ∧ DeliveryPhase.holdsNothing u.phase = true)
      (fun u l w hu hstep => by
        obtain ⟨hu1, hcalls, hu2, hu3⟩ := hu
        obtain ⟨hsame, haccepted', hnothing⟩ := accepted_step hvalid hu1 hu2 hu3 hstep
        exact ⟨sentOnce_step hu1 hstep, hsame.trans hcalls, haccepted', hnothing⟩)
      ⟨honce, rfl, haccepted, hsettles haccepted⟩ ht
    exact hinv.2.1

end

/-- The provider's answer is lost once, and the second attempt is accepted. -/
def retriedSteps : List DeliveryStep := [
  .claim "worker-1" 2000 10 60000 none, .load none, .checkSuppression none, .store 2100 none,
  .send 2200 none (some (.after (newError "socket hang up"))), .recover 2300 none,
  .fail 2400 {} none, .claim "worker-1" 10000 10 60000 none, .load none, .checkSuppression none,
  .store 10100 none, .send 10200 none none, .accept 10300 none, .complete 10400 none]

/-- INTERNAL: the delivery of `clientInput` passes every check it meets. -/
theorem client_queued : ∃ queued checked event,
    Email.createEmailDelivery clientUrl sinkEnvironment.platform (clientInput "client@site.test")
        "delivery-1" 1000 = .ok queued ∧
      assertEmailDelivery sinkEnvironment.platform queued = .ok checked ∧
      createEmailDeliveryOutboxEvent sinkEnvironment.platform queued = .ok event := by
  have hcreated : (Email.createEmailDelivery clientUrl sinkEnvironment.platform
      (clientInput "client@site.test") "delivery-1" 1000).toOption.map (fun queued =>
        (assertEmailDelivery sinkEnvironment.platform queued).toOption.isSome &&
          (createEmailDeliveryOutboxEvent sinkEnvironment.platform queued).toOption.isSome) =
      some true := by
    decide +kernel
  obtain ⟨queued, hqueued, hrest⟩ := Option.map_eq_some_iff.mp hcreated
  obtain ⟨hchecked, hbuilt⟩ := Bool.and_eq_true_iff.mp hrest
  have hok : ∀ {α : Type} {x : Except JsError α}, x.toOption.isSome = true → ∃ a, x = .ok a := by
    intro α x hx
    cases x with
    | ok a => exact ⟨a, rfl⟩
    | error e => cases hx
  obtain ⟨created, hcreate⟩ := hok (x := Email.createEmailDelivery clientUrl
    sinkEnvironment.platform (clientInput "client@site.test") "delivery-1" 1000)
    (by rw [hqueued]; rfl)
  rw [hcreate] at hqueued
  obtain rfl : created = queued := Option.some.inj hqueued
  obtain ⟨checked, hassert⟩ := hok hchecked
  obtain ⟨event, hevent⟩ := hok hbuilt
  exact ⟨created, checked, event, hcreate, hassert, hevent⟩

/-- `delivered_once` on a delivery whose first attempt loses the provider's answer. -/
theorem delivered_once_retried :
    ∃ queued event, Email.createEmailDelivery clientUrl sinkEnvironment.platform
        (clientInput "client@site.test") "delivery-1" 1000 = .ok queued ∧
      DeliveredOnce sinkEnvironment queued (queuedState queued event 1000 {} {}) retriedSteps := by
  obtain ⟨queued, checked, event, hcreate, hassert, hevent⟩ := client_queued
  refine ⟨queued, event, hcreate, delivered_once sinkEnvironment hcreate hassert hevent 1000 {}
    (by simp) (by simp) ?_⟩
  apply (deliveryWorker sinkEnvironment).meets_of_forall
  intro l hmem s
  simp only [retriedSteps, List.mem_cons, List.not_mem_nil, or_false] at hmem
  obtain rfl | rfl | rfl | rfl | rfl | rfl | rfl | rfl | rfl | rfl | rfl | rfl | rfl | rfl := hmem
  all_goals trivial

/-- The event of the job of `queuedDelivery`. -/
def queuedEvent : OutboxEvent where
  id := "delivery-1-outbox"
  eventType := "email.delivery.requested"
  aggregateType := "email_delivery"
  aggregateId := "delivery-1"
  tenantId := some "tenant-a"
  payload := .object [("deliveryId", .string "delivery-1"), ("kind", .string "report_ready")]
  occurredAt := 1000

/-- The provider takes the message, and the acceptance is committed but its answer is lost. -/
def unreportedSteps : List DeliveryStep := [
  .claim "worker-1" 2000 10 60000 none, .load none, .checkSuppression none, .store 2100 none,
  .send 2200 none none, .accept 2300 (some (.after (newError "Connection terminated")))]

/-- The handler records a failure, and the job is tried again. -/
def resentSteps : List DeliveryStep := [
  .recover 2400 none, .fail 2500 {} none, .claim "worker-1" 10000 10 60000 none, .load none,
  .checkSuppression none, .store 10100 none, .send 10200 none none]

/-- **An accepted delivery can be sent again**: the `catch` block takes the lost answer of the
finalization for a failure to send, and overwrites the acceptance.
SOURCE: apps/worker/src/worker.js:47-50, 77-115 -/
theorem accepted_resent :
    ¬ ∀ steps, DeliveredOnce sinkEnvironment queuedDelivery
      (queuedState queuedDelivery queuedEvent 1000 {} {}) steps := by
  intro hall
  have hrun : ((deliveryWorker sinkEnvironment).run
      (queuedState queuedDelivery queuedEvent 1000 {} {}) unreportedSteps).bind (fun s =>
        ((deliveryWorker sinkEnvironment).run s resentSteps).map fun t =>
          ((s.repository.getEmailDeliveryById "delivery-1").map EmailDelivery.status,
            s.calls.length, t.calls.length)) = some (some .accepted, 1, 2) := by
    decide +kernel
  obtain ⟨s, hs, hrun⟩ := Option.bind_eq_some_iff.mp hrun
  obtain ⟨t, ht, htuple⟩ := Option.map_eq_some_iff.mp hrun
  obtain ⟨hstored, hone, htwo⟩ : (s.repository.getEmailDeliveryById "delivery-1").map
      EmailDelivery.status = some .accepted ∧ s.calls.length = 1 ∧ t.calls.length = 2 := by
    simpa using htuple
  obtain ⟨delivery, hget, haccepted⟩ := Option.map_eq_some_iff.mp hstored
  have hsame := (hall (unreportedSteps ++ (resentSteps ++ []))).accepted unreportedSteps resentSteps
    [] s t rfl hs ht ⟨delivery, hget, haccepted⟩
  rw [hsame, hone] at htwo
  cases htwo

end Xygo.Analysis
