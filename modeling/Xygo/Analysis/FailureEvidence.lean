import Xygo.Analysis.DeliveredOnce

/-!
# Whether every failed attempt leaves its evidence

The evidence of a failed attempt stands under an id that ends with the number of the attempt, and
the repository skips evidence whose id is there. The number is the greater of the attempts of the
stored delivery and the claims of the job, and a replay starts the claims again: the attempts after
it repeat a number until the claims exceed what is stored. Here a run of a delivery's job carries
the attempts each attempt began with and the number of attempts that failed, and
`failed_attempts_recorded` says along which runs the tenant's chain has one event for each.
-/

set_option autoImplicit false

namespace Xygo.Analysis

open Xygo.Computation Xygo.Model
open EmailDelivery (intent)

/-- The id of the evidence on a delivery.
SOURCE: packages/email-delivery/src/index.js:225 -/
def evidenceId (deliveryId suffix : String) : Option String :=
  some (deliveryId ++ "-" ++ suffix ++ "-audit")

/-- The suffix of a failed attempt.
SOURCE: apps/worker/src/worker.js:111 -/
def attemptSuffix (attempts : Nat) : String := "attempt-" ++ toString attempts ++ "-failed"

/-- Whether an event records a failed attempt of the delivery. -/
def recordsFailure (deliveryId : String) (event : AuditEvent) : Bool :=
  event.action = "email.delivery.failed" && event.resourceId = deliveryId

/-- The failures of the delivery that the tenant's chain records. -/
def failuresRecorded (queued : EmailDelivery) (r : MemoryRepository) : Nat :=
  (r.listAuditEventsByTenant queued.tenantId).countP (recordsFailure queued.id)

/-- An event stands under the id of the failed attempt. -/
def FailureRecorded (deliveryId : String) (r : MemoryRepository) (attempts : Nat) : Prop :=
  ∃ event ∈ r.auditEventStore, event.eventId = evidenceId deliveryId (attemptSuffix attempts)

/-- A worker, the attempts that the delivery had when the current attempt began, and the attempts
that failed so far: those that reached the `catch` block. -/
structure Attempts where
  worker : DeliveryState
  found : Nat := 0
  failures : Nat := 0

/-- The attempts the delivery had when the current attempt began.
SOURCE: apps/worker/src/worker.js:75 -/
def Attempts.foundAt (s : Attempts) : DeliveryStep → Nat
  | .store _ _ =>
    match s.worker.phase with
    | .checked _ delivery _ => delivery.attempts
    | _ => s.found
  | _ => s.found

/-- The failed attempts after a step. -/
def Attempts.failuresAt (s : Attempts) : DeliveryStep → Nat
  | .recover _ _ => s.failures + 1
  | _ => s.failures

/-- The worker, with its attempts counted. -/
def attemptsOf (E : Environment) : Machine Attempts DeliveryStep where
  step s l := ((deliveryWorker E).step s.worker l).map fun t =>
    { worker := t, found := s.foundAt l, failures := s.failuresAt l }

/-- Nothing but the provider fails, and the clock shows a date. -/
def OnlyProviderFails : DeliveryStep → Prop
  | .claim _ _ _ _ fault | .load fault | .checkSuppression fault | .store _ fault | .accept _ fault
  | .complete _ fault | .fail _ _ fault => fault = none
  | .recover now fault => fault = none ∧ isValidTime now = true
  | .crash => False
  | .send _ _ _ | .replay _ _ _ _ => True

/-- An attempt fails only if its claim is one more than the delivery ever had: the claims of the
job since its last replay exceed the attempts that the attempt found stored.
SOURCE: apps/worker/src/worker.js:102-111; apps/api/src/reliability/outbox.js:261 -/
def ClaimedAnew (s : Attempts) : DeliveryStep → Prop
  | .recover _ _ => ∀ job sending error, s.worker.phase = .caught job sending error →
      s.found < job.attempts
  | _ => True

/-! ### Evidence and its ids -/

/-- INTERNAL: evidence on one delivery has one id exactly if it has one suffix. -/
theorem evidenceId_inj {deliveryId a b : String} :
    evidenceId deliveryId a = evidenceId deliveryId b ↔ a = b := by
  unfold evidenceId
  rw [Option.some_inj, String.append_left_inj, String.append_right_inj]

/-- INTERNAL: the attempts of a suffix. -/
theorem attemptSuffix_inj {m n : Nat} : attemptSuffix m = attemptSuffix n ↔ m = n := by
  unfold attemptSuffix
  rw [String.append_left_inj, String.append_right_inj]
  exact Nat.repr_inj

/-- INTERNAL: no other suffix of a worker's evidence is that of a failed attempt.
SOURCE: apps/worker/src/worker.js:62, 89, 111 -/
theorem attemptSuffix_ne (n : Nat) (id : String) :
    attemptSuffix n ≠ "accepted" ∧ attemptSuffix n ≠ "suppression-" ++ id := by
  constructor
  · intro h
    have hsecond := congrArg (fun text => text.toList.take 2) h
    simp [attemptSuffix, String.toList_append] at hsecond
  · intro h
    have hfirst := congrArg (fun text => text.toList.take 1) h
    simp [attemptSuffix, String.toList_append] at hfirst

/-- The chain after evidence, unless an event with its id is there.
SOURCE: apps/api/src/repositories/memory.js:304 -/
def withEvidence (events : List AuditEvent) (event : AuditEvent) : List AuditEvent :=
  if events.any fun stored => stored.eventId = event.eventId then events else events ++ [event]

/-- INTERNAL: what the repository does with the evidence of an operation.
SOURCE: apps/api/src/repositories/memory.js:304 -/
theorem exec_pushEvidence_some (event : AuditEvent) (r : MemoryRepository) :
    Effect.exec (pushEvidence (some event)) r =
      (.ok (), { r with auditEventStore := withEvidence r.auditEventStore event }) := by
  unfold withEvidence
  cases hstored : r.auditEventStore.any fun stored => stored.eventId = event.eventId <;>
    simp [pushEvidence, -List.any_eq_false, -List.any_eq_true, hstored]

section

variable {E : Environment} {queued delivery : EmailDelivery} {r : MemoryRepository}

/-- INTERNAL: a valid delivery that is stored is finalized with its evidence.
SOURCE: apps/api/src/repositories/memory.js:299-306; apps/worker/src/worker.js:55-66, 82-93, 103-114 -/
theorem faulty_finalize (hvalid : ValidDelivery E.platform delivery)
    (hhas : r.emailDeliveryStore.has delivery.id = true) (action : String)
    (haction : action ≠ "") (suffix : String) :
    ∃ event : AuditEvent, event.eventId = evidenceId delivery.id suffix ∧
      event.tenantId = delivery.tenantId ∧ event.action = action ∧
      event.resourceId = delivery.id ∧
      faulty none (finalizeEmailDelivery delivery (workerEvidence E delivery action suffix)) r =
        (.ok delivery, { r with
          emailDeliveryStore := r.emailDeliveryStore.put delivery
          auditEventStore := withEvidence r.auditEventStore event }) := by
  obtain ⟨event, hevent, hid, htenant, hact, hresource⟩ := emailAudit_ok
    { action := action, signingKey := E.signingKey, timestamp := isoText delivery.updatedAt,
      suffix := suffix } hvalid haction (r.lastEventHash delivery.tenantId)
  have hresolve : (workerEvidence E delivery action suffix).resolve
      (r.lastEventHash delivery.tenantId) = .ok (some event) :=
    map_eq_ok.mpr ⟨event, hevent, rfl⟩
  refine ⟨event, hid, htenant, hact, hresource, ?_⟩
  show Effect.exec (finalizeEmailDelivery delivery _) r = _
  have hpush := exec_pushEvidence_some event
    { r with emailDeliveryStore := r.emailDeliveryStore.put delivery }
  simp [finalizeEmailDelivery, hhas, hresolve, hpush]

/-- INTERNAL: what is recorded once evidence was offered to the chain. -/
theorem failureRecorded_withEvidence {t : MemoryRepository} {event : AuditEvent}
    (ht : t.auditEventStore = withEvidence r.auditEventStore event) (deliveryId : String)
    (n : Nat) :
    FailureRecorded deliveryId t n ↔ FailureRecorded deliveryId r n ∨
      event.eventId = evidenceId deliveryId (attemptSuffix n) := by
  unfold FailureRecorded
  rw [ht, withEvidence]
  split
  · rename_i hthere
    obtain ⟨stored, hmem, hsame⟩ := List.any_eq_true.mp hthere
    constructor
    · exact Or.inl
    · rintro (hold | hnew)
      · exact hold
      · exact ⟨stored, hmem, (of_decide_eq_true hsame).trans hnew⟩
  · constructor
    · rintro ⟨stored, hmem, hid⟩
      obtain hold | hnew := List.mem_append.mp hmem
      · exact Or.inl ⟨stored, hold, hid⟩
      · obtain rfl := List.mem_singleton.mp hnew
        exact Or.inr hid
    · rintro (⟨stored, hmem, hid⟩ | hid)
      · exact ⟨stored, List.mem_append_left _ hmem, hid⟩
      · exact ⟨event, List.mem_append_right _ List.mem_cons_self, hid⟩

/-- INTERNAL: evidence of something else than a failure leaves the recorded failures. -/
theorem failuresRecorded_other {t : MemoryRepository} {event : AuditEvent}
    (ht : t.auditEventStore = withEvidence r.auditEventStore event)
    (hother : event.action ≠ "email.delivery.failed") :
    failuresRecorded queued t = failuresRecorded queued r := by
  unfold failuresRecorded MemoryRepository.listAuditEventsByTenant
  rw [ht, withEvidence]
  split
  · rfl
  · by_cases htenant : event.tenantId = queued.tenantId <;>
      simp [htenant, recordsFailure, hother]

/-- INTERNAL: evidence of a failure is one recorded failure more, unless its id is there. -/
theorem failuresRecorded_failure {t : MemoryRepository} {event : AuditEvent} {n : Nat}
    (ht : t.auditEventStore = withEvidence r.auditEventStore event)
    (hid : event.eventId = evidenceId queued.id (attemptSuffix n))
    (htenant : event.tenantId = queued.tenantId) (haction : event.action = "email.delivery.failed")
    (hresource : event.resourceId = queued.id) :
    failuresRecorded queued t = failuresRecorded queued r + 1 ↔
      ¬ FailureRecorded queued.id r n := by
  have hthere : (r.auditEventStore.any fun stored => stored.eventId = event.eventId) = true ↔
      FailureRecorded queued.id r n := by
    rw [List.any_eq_true]
    unfold FailureRecorded
    simp only [decide_eq_true_eq, hid]
  unfold failuresRecorded MemoryRepository.listAuditEventsByTenant
  rw [ht, withEvidence]
  split
  · rename_i hany
    exact iff_of_false (by omega) (not_not_intro (hthere.mp hany))
  · rename_i hany
    refine iff_of_true ?_ fun hrecorded => hany (hthere.mpr hrecorded)
    simp [htenant, recordsFailure, haction, hresource]

/-! ### What every step keeps -/

/-- The failures that are recorded of a delivery with so many attempts: none is of a later attempt,
and the last attempt's is. -/
structure Evidenced (queued : EmailDelivery) (r : MemoryRepository) (attempts : Nat) : Prop where
  bounded : ∀ n, FailureRecorded queued.id r n → n ≤ attempts
  last : attempts = 0 ∨ FailureRecorded queued.id r attempts

/-- The stored delivery is of the queued intent, with a property. -/
def StoredWith (queued : EmailDelivery) (r : MemoryRepository) (p : EmailDelivery → Prop) : Prop :=
  ∃ delivery, r.emailDeliveryStore.get queued.id = some delivery ∧
    intent delivery = intent queued ∧ p delivery

/-- Between two attempts a delivery that can be sent has evidence of its last attempt. -/
def AtRest (queued : EmailDelivery) (r : MemoryRepository) : Prop :=
  StoredWith queued r fun delivery =>
    delivery.status.isSettled = false → Evidenced queued r delivery.attempts

/-- What holds of the delivery where the worker is, in an attempt that found so many before. -/
def Evidencing (queued : EmailDelivery) (r : MemoryRepository) (found : Nat) :
    DeliveryPhase → Prop
  | .idle | .handled _ | .threw _ _ => AtRest queued r
  | .claimed job => AtRest queued r ∧ 1 ≤ job.attempts
  | .loaded job delivery | .checked job delivery _ =>
    StoredWith queued r (· = delivery) ∧ delivery.status.isSettled = false ∧
      Evidenced queued r delivery.attempts ∧ 1 ≤ job.attempts
  | .saved job sending | .sent job sending _ | .caught job sending _ =>
    StoredWith queued r (· = sending) ∧ sending.status = .sending ∧
      sending.attempts = max found job.attempts ∧ Evidenced queued r found ∧ 1 ≤ job.attempts

/-- The invariant of a run: the jobs are of the delivery, and its evidence is as it should be. -/
structure Accounted (queued : EmailDelivery) (s : Attempts) : Prop where
  jobs : ∀ id job, s.worker.outbox.items.get id = some job → JobOf queued job
  phase : PhaseOf queued s.worker.phase
  evidence : Evidencing queued s.worker.repository s.found s.worker.phase

/-- INTERNAL: a repository with the same deliveries and events has the same evidence. -/
theorem Evidenced.of_events {t : MemoryRepository} {attempts : Nat}
    (h : Evidenced queued r attempts) (hevents : t.auditEventStore = r.auditEventStore) :
    Evidenced queued t attempts := by
  obtain ⟨hbounded, hlast⟩ := h
  unfold FailureRecorded at hbounded hlast
  rw [← hevents] at hbounded hlast
  exact ⟨hbounded, hlast⟩

/-- INTERNAL: the delivery that was put is the stored one. -/
theorem storedWith_put {t : MemoryRepository} {p : EmailDelivery → Prop}
    (ht : t.emailDeliveryStore = r.emailDeliveryStore.put delivery)
    (hintent : intent delivery = intent queued) (hp : p delivery) : StoredWith queued t p := by
  refine ⟨delivery, ?_, hintent, hp⟩
  rw [ht, Table.get_put, if_pos (id_of_intent hintent).symm]

/-- INTERNAL: a claim gives a job or none.
SOURCE: apps/api/src/reliability/outbox.js:652-655 -/
theorem phase_of_claim (workerId : String) (now limit staleAfterMs : Int)
    (fault : Option (Fault JsError)) (s : DeliveryState) :
    (claimStep workerId now limit staleAfterMs fault s).phase = .idle ∨
      ∃ job, (claimStep workerId now limit staleAfterMs fault s).phase = .claimed job := by
  unfold claimStep
  dsimp only
  split
  · exact Or.inr ⟨_, rfl⟩
  · exact Or.inl rfl

/-- INTERNAL: a job that a claim gives has an attempt.
SOURCE: apps/api/src/reliability/outbox.js:193-199 -/
theorem attempts_of_claim {workerId : String} {now limit staleAfterMs : Int}
    {fault : Option (Fault JsError)} {s : DeliveryState} {job : OutboxJob}
    (h : (claimStep workerId now limit staleAfterMs fault s).phase = .claimed job) :
    1 ≤ job.attempts := by
  unfold claimStep at h
  dsimp only at h
  split at h
  · rename_i first rest hclaim
    obtain rfl := DeliveryPhase.claimed.inj h
    obtain ⟨-, hexec⟩ := faulty_ok hclaim
    have hout := outcome_claim s.outbox workerId now limit staleAfterMs
    have hcall : (memoryOutbox.call (.claim workerId now limit staleAfterMs) s.outbox).1 =
        .ok (.jobs (first :: rest)) := by
      show (Effect.exec (OutboxResult.jobs <$> claim workerId now limit staleAfterMs) s.outbox).1 =
        _
      rw [Effect.exec_map, hexec]
    rw [hcall] at hout
    generalize hall : first :: rest = all at hout
    generalize (memoryOutbox.call (.claim workerId now limit staleAfterMs) s.outbox).2 = t at hout
    cases hout
    obtain ⟨record, -, rfl⟩ := List.mem_map.mp (hall ▸ List.mem_cons_self)
    exact Nat.le_add_left 1 record.attempts
  · cases h

/-- INTERNAL: a delivery that can be sent is not finished.
SOURCE: packages/email-delivery/src/index.js:28; apps/worker/src/worker.js:50 -/
theorem not_terminal_of_open {status : EmailDeliveryStatus} (h : status.isSettled = false) :
    status.isTerminal = false := by
  cases status <;> first | rfl | cases h

theorem attemptNumber_eq {attempt : Nat} (h : 1 ≤ attempt) : attemptNumber attempt = attempt :=
  if_neg (by omega)

/-- INTERNAL: a worker that gives up a delivery it read leaves it at rest. -/
theorem StoredWith.atRest (h : StoredWith queued r (· = delivery))
    (hevidenced : Evidenced queued r delivery.attempts) : AtRest queued r := by
  obtain ⟨stored, hget, hintent, rfl⟩ := h
  exact ⟨stored, hget, hintent, fun _ => hevidenced⟩

/-- INTERNAL: evidence under another id leaves what is evidenced. -/
theorem Evidenced.withEvidence {t : MemoryRepository} {event : AuditEvent} {attempts : Nat}
    (h : Evidenced queued r attempts)
    (ht : t.auditEventStore = withEvidence r.auditEventStore event)
    (hother : ∀ n, event.eventId ≠ evidenceId queued.id (attemptSuffix n)) :
    Evidenced queued t attempts := by
  have hsame (n : Nat) : FailureRecorded queued.id t n ↔ FailureRecorded queued.id r n := by
    rw [failureRecorded_withEvidence ht]
    exact or_iff_left (hother n)
  exact ⟨fun n hn => h.bounded n ((hsame n).mp hn), h.last.imp_right (hsame attempts).mpr⟩

/-- INTERNAL: what is stored before the provider is called.
SOURCE: apps/worker/src/worker.js:53-76 -/
theorem evidencing_store (hvalid : ValidDelivery E.platform queued) {job : OutboxJob}
    (hstored : StoredWith queued r (· = delivery)) (hopen : delivery.status.isSettled = false)
    (hevidenced : Evidenced queued r delivery.attempts) (hattempts : 1 ≤ job.attempts)
    (suppression : Option EmailSuppression) (now : Int) :
    Evidencing queued (storeStep E job delivery suppression now none r).2 delivery.attempts
        (storeStep E job delivery suppression now none r).1 ∧
      failuresRecorded queued (storeStep E job delivery suppression now none r).2 =
        failuresRecorded queued r := by
  have hrest := hstored.atRest hevidenced
  have hunfinished := not_terminal_of_open hopen
  obtain ⟨stored, hget, hintent, rfl⟩ := hstored
  have hhas : r.emailDeliveryStore.has queued.id = true := by
    unfold Table.has
    rw [hget]
    rfl
  unfold storeStep
  cases suppression with
  | some suppression =>
    dsimp only
    cases hmark : markEmailDeliverySuppressed E.platform stored suppression job.attempts now with
    | error error => exact ⟨hrest, rfl⟩
    | ok suppressed =>
      have hmarked := (intent_markSuppressed hmark).trans hintent
      obtain ⟨reason, rfl⟩ := markSuppressed_eq_ok hunfinished hmark
      obtain ⟨event, -, -, haction, -, hfinalize⟩ := faulty_finalize (E := E)
        (valid_of_intent hmarked hvalid) (r := r) (by rw [id_of_intent hmarked, hhas])
        "email.delivery.suppressed" (by decide) ("suppression-" ++ suppression.id)
      dsimp only
      rw [hfinalize]
      refine ⟨storedWith_put rfl hmarked (fun hsettled => by cases hsettled), ?_⟩
      refine failuresRecorded_other rfl ?_
      rw [haction]
      decide
  | none =>
    dsimp only
    cases hmark : markEmailDeliverySending E.platform stored job.attempts now with
    | error error => exact ⟨hrest, rfl⟩
    | ok sending =>
      have hmarked := (intent_markSending hmark).trans hintent
      obtain rfl := markSending_eq_ok hunfinished hmark
      have hsave : faulty none (saveEmailDelivery (stored.sending job.attempts now)) r =
          (.ok (stored.sending job.attempts now), { r with
            emailDeliveryStore := r.emailDeliveryStore.put (stored.sending job.attempts now) }) := by
        show Effect.exec (saveEmailDelivery _) r = _
        rw [exec_saveEmailDelivery, id_of_intent hmarked, if_pos hhas]
      dsimp only
      rw [hsave]
      refine ⟨⟨storedWith_put rfl hmarked rfl, rfl, ?_, hevidenced.of_events rfl, hattempts⟩, rfl⟩
      show max stored.attempts (attemptNumber job.attempts) = _
      rw [attemptNumber_eq hattempts]

/-- INTERNAL: what is stored once the provider took the message.
SOURCE: apps/worker/src/worker.js:79-101 -/
theorem evidencing_accept (hvalid : ValidDelivery E.platform queued) {job : OutboxJob}
    {sending : EmailDelivery} {found : Nat} (id : String)
    (h : Evidencing queued r found (.sent job sending id)) (now : Int) :
    Evidencing queued (acceptStep E job sending id now none r).2 found
        (acceptStep E job sending id now none r).1 ∧
      failuresRecorded queued (acceptStep E job sending id now none r).2 =
        failuresRecorded queued r := by
  have hcaught : ∀ error, Evidencing queued r found (.caught job sending error) := fun _ => h
  obtain ⟨⟨stored, hget, hintent, rfl⟩, hstatus, -, -, -⟩ := h
  have hhas : r.emailDeliveryStore.has queued.id = true := by
    unfold Table.has
    rw [hget]
    rfl
  unfold acceptStep
  cases hmark : markEmailDeliveryAccepted E.platform stored E.provider id now with
  | error error => exact ⟨hcaught error, rfl⟩
  | ok accepted =>
    have hmarked := (intent_markAccepted hmark).trans hintent
    obtain ⟨provider, message, rfl⟩ := markAccepted_eq_ok (by rw [hstatus]; rfl) hmark
    obtain ⟨event, -, -, haction, -, hfinalize⟩ := faulty_finalize (E := E)
      (valid_of_intent hmarked hvalid) (r := r) (by rw [id_of_intent hmarked, hhas])
      "email.delivery.accepted" (by decide) "accepted"
    dsimp only
    rw [hfinalize]
    refine ⟨storedWith_put rfl hmarked (fun hsettled => by cases hsettled), ?_⟩
    refine failuresRecorded_other rfl ?_
    rw [haction]
    decide

/-- INTERNAL: **what the `catch` block stores**: the failed delivery, with evidence of its last
attempt; and it is one recorded failure more exactly if the claim is one more than were stored.
SOURCE: apps/worker/src/worker.js:101-115 -/
theorem evidencing_recover (hvalid : ValidDelivery E.platform queued) {job : OutboxJob}
    {sending : EmailDelivery} {found : Nat} {error : JsError}
    (h : Evidencing queued r found (.caught job sending error)) {now : Int}
    (hnow : isValidTime now = true) :
    Evidencing queued (recoverStep E job sending error now none r).2 found
        (recoverStep E job sending error now none r).1 ∧
      (failuresRecorded queued (recoverStep E job sending error now none r).2 =
          failuresRecorded queued r + 1 ↔ found < job.attempts) := by
  obtain ⟨⟨stored, hget, hintent, rfl⟩, hstatus, hsent, hevidenced, hattempts⟩ := h
  have hhas : r.emailDeliveryStore.has queued.id = true := by
    unfold Table.has
    rw [hget]
    rfl
  have hmark : markEmailDeliveryFailed E.platform stored error job.attempts now =
      .ok (stored.failed error job.attempts now) := by
    unfold markEmailDeliveryFailed
    rw [(assertEmailDelivery_eq_ok E.platform).mpr ⟨valid_of_intent hintent hvalid, rfl⟩]
    simp [bind, Except.bind, hstatus, EmailDeliveryStatus.isTerminal, toISOString, hnow, pure,
      Except.pure]
  have hmarked := (intent_markFailed hmark).trans hintent
  have hlast : (stored.failed error job.attempts now).attempts = stored.attempts := by
    show max stored.attempts (attemptNumber job.attempts) = _
    rw [attemptNumber_eq hattempts]
    omega
  obtain ⟨event, hid, htenant, haction, hresource, hfinalize⟩ := faulty_finalize (E := E)
    (valid_of_intent hmarked hvalid) (r := r) (by rw [id_of_intent hmarked, hhas])
    "email.delivery.failed" (by decide) (attemptSuffix stored.attempts)
  rw [id_of_intent hmarked] at hid hresource
  rw [tenantId_of_intent hmarked] at htenant
  have hstep : recoverStep E job stored error now none r = (.threw job error, { r with
      emailDeliveryStore := r.emailDeliveryStore.put (stored.failed error job.attempts now)
      auditEventStore := withEvidence r.auditEventStore event }) := by
    unfold recoverStep
    rw [hmark]
    dsimp only
    rw [hlast]
    unfold attemptSuffix at hfinalize
    rw [hfinalize]
  rw [hstep]
  constructor
  · refine storedWith_put rfl hmarked fun _ => ?_
    rw [hlast]
    constructor
    · intro n hn
      rw [failureRecorded_withEvidence rfl, hid, evidenceId_inj, attemptSuffix_inj] at hn
      obtain hold | rfl := hn
      · have hle := hevidenced.bounded n hold
        omega
      · exact le_refl _
    · right
      rw [failureRecorded_withEvidence rfl, hid]
      exact Or.inr rfl
  · rw [failuresRecorded_failure rfl hid htenant haction hresource]
    constructor
    · intro hnew
      by_contra hle
      have hsame : stored.attempts = found := by omega
      obtain hzero | hrecorded := hevidenced.last
      · omega
      · exact hnew (hsame ▸ hrecorded)
    · intro hlt hrecorded
      have hle := hevidenced.bounded _ hrecorded
      omega

/-- INTERNAL: the delivery that the handler reads is the stored one, and it can be sent.
SOURCE: apps/worker/src/worker.js:36-50 -/
theorem evidencing_load {job : OutboxJob} {found : Nat} (hjob : JobOf queued job)
    (h : Evidencing queued r found (.claimed job)) :
    Evidencing queued r found (loadStep job none r) := by
  obtain ⟨hrest, hattempts⟩ := h
  obtain ⟨stored, hget, hintent, hevidenced⟩ := id hrest
  have hread : Faulty.seen none (.ok (r.getEmailDeliveryById job.event.aggregateId)) =
      (.ok (some stored) : Except JsError (Option EmailDelivery)) := by
    rw [hjob.aggregateId]
    show Except.ok (r.emailDeliveryStore.get queued.id) = _
    rw [hget]
  unfold loadStep
  rw [hread]
  dsimp only
  split
  · exact hrest
  · split
    · exact hrest
    · split
      · exact hrest
      · rename_i hopen
        rw [Bool.not_eq_true] at hopen
        exact ⟨⟨stored, hget, hintent, rfl⟩, hopen, hevidenced hopen, hattempts⟩

/-- **Every step of a run keeps the account.** -/
theorem accounted_step (hvalid : ValidDelivery E.platform queued) {s t : Attempts}
    {l : DeliveryStep} (hs : Accounted queued s) (hl : OnlyProviderFails l)
    (h : (attemptsOf E).step s l = some t) :
    Accounted queued t ∧ (failuresRecorded queued s.worker.repository = s.failures →
      (failuresRecorded queued t.worker.repository = t.failures ↔ ClaimedAnew s l)) := by
  obtain ⟨hjobs, hphase, hevidence⟩ := hs
  obtain ⟨worker, hstep, rfl⟩ := Option.map_eq_some_iff.mp h
  cases move_of_step hstep with
  | @claim workerId now limit staleAfterMs fault phase =>
    obtain rfl : fault = none := hl
    rw [phase] at hevidence
    refine ⟨⟨jobs_faulty (c := .claim workerId now limit staleAfterMs) rfl
      (fun _ _ _ h => by cases h) none hjobs, phaseOf_claim hjobs, ?_⟩, fun hcount => ?_⟩
    · show Evidencing queued s.worker.repository s.found
        (claimStep workerId now limit staleAfterMs none s.worker).phase
      obtain hidle | ⟨job, hclaimed⟩ :=
        phase_of_claim workerId now limit staleAfterMs none s.worker
      · rw [hidle]
        exact hevidence
      · rw [hclaimed]
        exact ⟨hevidence, attempts_of_claim hclaimed⟩
    · exact iff_of_true hcount trivial
  | @load fault job phase =>
    obtain rfl : fault = none := hl
    rw [phase] at hphase hevidence
    refine ⟨⟨hjobs, ?_, evidencing_load hphase hevidence⟩, fun hcount => iff_of_true hcount trivial⟩
    obtain ⟨stored, hget, hintent, -⟩ := hevidence.1
    exact phaseOf_load hphase ⟨stored, hget, hintent⟩
  | @checkSuppression fault job delivery phase =>
    obtain rfl : fault = none := hl
    rw [phase] at hphase hevidence
    refine ⟨⟨hjobs, ?_, ?_⟩, fun hcount => iff_of_true hcount trivial⟩
    · show PhaseOf queued (checkStep E job delivery none s.worker.repository)
      unfold checkStep
      split
      · exact hphase
      · exact hphase.1
    · show Evidencing queued s.worker.repository s.found
        (checkStep E job delivery none s.worker.repository)
      unfold checkStep
      split
      · exact hevidence
      · exact hevidence.1.atRest hevidence.2.2.1
  | @store now fault job delivery suppression phase =>
    obtain rfl : fault = none := hl
    rw [phase] at hphase hevidence
    obtain ⟨hstored, hopen, hevidenced, hattempts⟩ := hevidence
    obtain ⟨hafter, hsame⟩ := evidencing_store hvalid hstored hopen hevidenced hattempts
      suppression now
    have hfound : s.foundAt (.store now none) = delivery.attempts := by
      unfold Attempts.foundAt
      rw [phase]
    refine ⟨⟨hjobs, (storeStep_cases hphase.1 hphase.2).1, ?_⟩, fun hcount => ?_⟩
    · rw [hfound]
      exact hafter
    · exact iff_of_true (hsame.trans hcount) trivial
  | @send now writeError fault job sending phase =>
    rw [phase] at hphase hevidence
    refine ⟨⟨hjobs, ?_, ?_⟩, fun hcount => iff_of_true hcount trivial⟩
    · show PhaseOf queued (sendStep E job sending now writeError fault s.worker.sink).1
      unfold sendStep
      dsimp only
      split <;> exact hphase
    · show Evidencing queued s.worker.repository s.found
        (sendStep E job sending now writeError fault s.worker.sink).1
      unfold sendStep
      dsimp only
      split <;> exact hevidence
  | @accept now fault job sending id phase =>
    obtain rfl : fault = none := hl
    rw [phase] at hphase hevidence
    obtain ⟨hafter, hsame⟩ := evidencing_accept hvalid id hevidence now
    exact ⟨⟨hjobs, (acceptStep_cases hphase.1 hphase.2).1, hafter⟩,
      fun hcount => iff_of_true (hsame.trans hcount) trivial⟩
  | @recover now fault job sending error phase =>
    obtain ⟨rfl, hnow⟩ := hl
    rw [phase] at hphase hevidence
    obtain ⟨hafter, hone⟩ := evidencing_recover hvalid hevidence hnow
    have hguard : ClaimedAnew s (.recover now none) ↔ s.found < job.attempts := by
      unfold ClaimedAnew
      rw [phase]
      constructor
      · intro hall
        exact hall job sending error rfl
      · rintro hlt job' sending' error' hsame
        obtain ⟨rfl, -, -⟩ := DeliveryPhase.caught.inj hsame
        exact hlt
    refine ⟨⟨hjobs, (recoverStep_cases error now none _ hphase.1 hphase.2).2.1, hafter⟩,
      fun hcount => ?_⟩
    rw [hguard, ← hone, hcount]
    rfl
  | @complete now fault job phase =>
    obtain rfl : fault = none := hl
    rw [phase] at hphase hevidence
    have hjobs' := jobs_faulty (c := .complete job.id s.worker.workerId now) rfl
      (fun _ _ _ h => by cases h) none hjobs
    unfold completeStep
    dsimp only
    split
    · exact ⟨⟨hjobs', trivial, hevidence⟩, fun hcount => iff_of_true hcount trivial⟩
    · exact ⟨⟨hjobs', hphase, hevidence⟩, fun hcount => iff_of_true hcount trivial⟩
  | @fail now options fault job error phase =>
    obtain rfl : fault = none := hl
    rw [phase] at hevidence
    refine ⟨⟨?_, trivial, hevidence⟩, fun hcount => iff_of_true hcount trivial⟩
    exact jobs_faulty (c := .fail job.id s.worker.workerId error now { options with
      maxAttempts := if error.retryable = some false then job.attempts else options.maxAttempts })
      rfl (fun _ _ _ h => by cases h) none hjobs
  | crash => exact hl.elim
  | @replay id tenantId reason now =>
    exact ⟨⟨jobs_faulty (c := .replay id tenantId reason now) rfl (fun _ _ _ h => by cases h) none
      hjobs, hphase, hevidence⟩, fun hcount => iff_of_true hcount trivial⟩

/-- INTERNAL: a new delivery is queued, without an attempt.
SOURCE: packages/email-delivery/src/index.js:181-203 -/
theorem createEmailDelivery_new {P : Platform} {parseUrl : String → Option ParsedUrl}
    {input : EmailDeliveryInput} {id : String} {now : Int}
    (h : Email.createEmailDelivery parseUrl P input id now = .ok delivery) :
    delivery.attempts = 0 := by
  obtain ⟨tenantId, -, h⟩ := bind_eq_ok.mp h
  obtain ⟨recipientEmail, -, h⟩ := bind_eq_ok.mp h
  obtain ⟨message, -, h⟩ := bind_eq_ok.mp h
  obtain ⟨createdAt, -, h⟩ := bind_eq_ok.mp h
  obtain ⟨deliveryId, -, h⟩ := bind_eq_ok.mp h
  obtain ⟨idempotencyKey, -, h⟩ := bind_eq_ok.mp h
  obtain ⟨recipientUserId, -, h⟩ := bind_eq_ok.mp h
  obtain ⟨resourceType, -, h⟩ := bind_eq_ok.mp h
  obtain ⟨resourceId, -, h⟩ := bind_eq_ok.mp h
  obtain rfl := Except.ok.inj h
  rfl

end

section

variable (E : Environment)

/-- The start of a run: the delivery is queued, and no attempt was made.
SOURCE: packages/email-delivery/src/index.js:244-277 -/
def unattempted (queued : EmailDelivery) (event : OutboxEvent) (enqueuedAt : Int)
    (repository : MemoryRepository) (sink : Sink) : Attempts where
  worker := queuedState queued event enqueuedAt repository sink

end

/-- A first attempt that fails, and another one. -/
def failedTwice : List DeliveryStep := [
  .claim "worker-1" 2000 10 60000 none, .load none, .checkSuppression none, .store 2100 none,
  .send 2200 none (some (.before (newError "timeout"))), .recover 2300 none, .fail 2400 {} none,
  .claim "worker-1" 10000 10 60000 none, .load none, .checkSuppression none, .store 10100 none,
  .send 10200 none (some (.before (newError "timeout"))), .recover 10300 none,
  .fail 10400 {} none]

/-- An attempt that fails for good, the replay of its job, and an attempt that fails again. -/
def replayedFailure : List DeliveryStep := [
  .claim "worker-1" 2000 10 60000 none, .load none, .checkSuppression none, .store 2100 none,
  .send 2200 none (some (.before { newError "rejected" with retryable := some false })),
  .recover 2300 none, .fail 2400 {} none,
  .replay "delivery-1-outbox" (some "tenant-a") "address corrected" 3000,
  .claim "worker-1" 4000 10 60000 none, .load none, .checkSuppression none, .store 4100 none,
  .send 4200 none (some (.before (newError "timeout"))), .recover 4300 none]

end Xygo.Analysis
