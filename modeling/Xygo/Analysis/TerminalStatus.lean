import Xygo.Analysis.EmailSpec

/-!
# Whether a finished delivery stays finished

A worker reads a delivery, and later writes the record back with a new status, whatever is
stored by then. A webhook, or another worker that finds the recipient suppressed, may
finish the delivery in between. So a finished delivery is reopened by a worker only if it
was finished while a run of the handler held a copy of it (`terminal_kept`), and then it
can be (`terminal_reopened`).
-/

set_option autoImplicit false

namespace Xygo.Analysis

open Xygo.Computation Xygo.Model

/-- The copy of a delivery a run of the handler holds, and will write back with another
status: it goes on from the read only for an unsettled delivery of its tenant. -/
def Handler.copy : Handler → Option EmailDelivery
  | .loaded event (some delivery) =>
    if some delivery.tenantId = event.event.tenantId ∧ delivery.status.isSettled = false then
      some delivery
    else none
  | .checked _ delivery _ => some delivery
  | .saved _ sending => some sending
  | .sent _ sending _ => some sending
  | _ => none

/-- The run of the handler a step belongs to. -/
def ServiceStep.handler : ServiceStep → Option Nat
  | .checkSuppression i | .save i _ | .send i _ | .finalize i _ _ | .crash i => some i
  | _ => none

/-- The step is about to store a terminal status for a delivery: a webhook that is tracked, new
and not stale, or a run of the handler that found the recipient suppressed.
SOURCE: packages/email-delivery/src/index.js:365-385; apps/worker/src/worker.js:53-64 -/
def Finishes (s : Service) : ServiceStep → String → Prop
  | .webhook webhookId event, id => ∃ delivery status occurredAt,
      s.repository.emailWebhookEventStore.has webhookId = false ∧
      s.repository.deliveryOfMessage event.emailId = some delivery ∧ delivery.id = id ∧
      webhookStatus event.type = some status ∧ status.isTerminal = true ∧
      event.occurredAt = .ok occurredAt ∧ delivery.isStale occurredAt = false
  | .save i _, id => ∃ event delivery suppression,
      s.handlers[i]? = some (.checked event delivery (some suppression)) ∧ delivery.id = id
  | _, _ => False

/-- When a step finishes a delivery, no other run of the handler holds a copy of it. -/
def NoCopyHeld (s : Service) (l : ServiceStep) : Prop :=
  ∀ id, Finishes s l id → ∀ j handler copy, s.handlers[j]? = some handler →
    ServiceStep.handler l ≠ some j → Handler.copy handler = some copy → copy.id ≠ id

/-- A worker's step leaves a finished delivery out of the statuses queued, sending, accepted and
failed. -/
def KeepsTerminal (s : Service) (l : ServiceStep) (t : Service) : Prop :=
  l.isWorker = true → ∀ id delivery, s.repository.emailDeliveryStore.get id = some delivery →
    delivery.status.isTerminal = true →
    ∃ delivery', t.repository.emailDeliveryStore.get id = some delivery' ∧
      delivery'.status ∉ [.queued, .sending, .accepted, .failed]

/-- The copy a run holds, and what is stored under its id, are unfinished. -/
def Current (r : MemoryRepository) (handler : Handler) : Prop :=
  ∀ copy, Handler.copy handler = some copy → copy.status.isTerminal = false ∧
    ∀ stored, r.emailDeliveryStore.get copy.id = some stored → stored.status.isTerminal = false

/-- The invariant of the runs in which no delivery is finished while a copy is held. -/
def CopiesCurrent (s : Service) : Prop :=
  ∀ (j : Nat) (handler : Handler), s.handlers[j]? = some handler → Current s.repository handler

/-- Between two repositories only the delivery `id` changed, to a status that passes a test. -/
def Writes (r t : MemoryRepository) (id : String) (test : EmailDeliveryStatus → Prop) : Prop :=
  ∀ k, t.emailDeliveryStore.get k = r.emailDeliveryStore.get k ∨
    (k = id ∧ ∃ delivery, t.emailDeliveryStore.get k = some delivery ∧ test delivery.status)

namespace Writes

variable {r t u : MemoryRepository} {id : String} {test : EmailDeliveryStatus → Prop}

/-- INTERNAL: nothing is written where the deliveries stay. -/
theorem of_eq (h : t.emailDeliveryStore = r.emailDeliveryStore) : Writes r t id test :=
  fun k => Or.inl (by rw [h])

/-- INTERNAL: putting one record writes its id. -/
theorem of_put {delivery : EmailDelivery}
    (h : t.emailDeliveryStore = r.emailDeliveryStore.put delivery) (hid : delivery.id = id)
    (htest : test delivery.status) : Writes r t id test := by
  intro k
  rw [h, Table.get_put]
  by_cases hk : k = delivery.id
  · exact Or.inr ⟨hk.trans hid, delivery, by simp [hk], htest⟩
  · exact Or.inl (by simp [hk])

/-- INTERNAL: putting a record that is stored writes nothing. -/
theorem of_put_stored {delivery : EmailDelivery}
    (h : t.emailDeliveryStore = r.emailDeliveryStore.put delivery)
    (hget : r.emailDeliveryStore.get delivery.id = some delivery) : Writes r t id test := by
  intro k
  rw [h, Table.get_put]
  by_cases hk : k = delivery.id
  · exact Or.inl (by rw [if_pos hk, hk, hget])
  · exact Or.inl (by rw [if_neg hk])

/-- INTERNAL: a weaker test of the same write. -/
theorem mono {test' : EmailDeliveryStatus → Prop} (h : Writes r t id test)
    (himp : ∀ status, test status → test' status) : Writes r t id test' := by
  intro k
  obtain hk | ⟨hk, delivery, hget, htest⟩ := h k
  · exact Or.inl hk
  · exact Or.inr ⟨hk, delivery, hget, himp _ htest⟩

/-- INTERNAL: writes of one id compose. -/
theorem trans (h : Writes r t id test) (h' : Writes t u id test) : Writes r u id test := by
  intro k
  obtain hk' | hk' := h' k
  · rw [hk']
    exact h k
  · exact Or.inr hk'

/-- INTERNAL: a write of an unfinished status keeps copies current. -/
theorem current (h : Writes r t id fun status => status.isTerminal = false) {handler : Handler}
    (hc : Current r handler) : Current t handler := by
  intro copy hcopy
  obtain ⟨hopen, hstored⟩ := hc copy hcopy
  refine ⟨hopen, fun stored hget => ?_⟩
  obtain hsame | ⟨-, delivery, hnew, hstatus⟩ := h copy.id
  · exact hstored stored (hsame ▸ hget)
  · obtain rfl : delivery = stored := Option.some.inj (hnew.symm.trans hget)
    exact hstatus

/-- INTERNAL: a write of another id keeps copies current. -/
theorem current_of_ne (h : Writes r t id test) {handler : Handler}
    (hother : ∀ copy, Handler.copy handler = some copy → copy.id ≠ id)
    (hc : Current r handler) : Current t handler := by
  intro copy hcopy
  obtain ⟨hopen, hstored⟩ := hc copy hcopy
  refine ⟨hopen, fun stored hget => ?_⟩
  obtain hsame | ⟨hid, -⟩ := h copy.id
  · exact hstored stored (hsame ▸ hget)
  · exact absurd hid (hother copy hcopy)

/-- INTERNAL: a write through a current copy leaves the finished deliveries as they are. -/
theorem keeps (h : Writes r t id test) {handler : Handler} {copy : EmailDelivery}
    (hc : Current r handler) (hcopy : Handler.copy handler = some copy) (hid : copy.id = id)
    {k : String} {delivery : EmailDelivery} (hget : r.emailDeliveryStore.get k = some delivery)
    (hterm : delivery.status.isTerminal = true) :
    t.emailDeliveryStore.get k = some delivery := by
  obtain hsame | ⟨rfl, -⟩ := h k
  · rw [hsame, hget]
  · subst hid
    have hopen := (hc copy hcopy).2 delivery hget
    rw [hterm] at hopen
    cases hopen

end Writes

section

variable (E : Environment)

/-- INTERNAL: finalizing writes the record it is given.
SOURCE: apps/api/src/repositories/memory.js:299-306 -/
theorem writes_finalizeEmailDelivery (delivery : EmailDelivery) (evidence : Evidence)
    (r : MemoryRepository) {test : EmailDeliveryStatus → Prop} (htest : test delivery.status) :
    Writes r (Effect.exec (finalizeEmailDelivery delivery evidence) r).2 delivery.id test := by
  obtain hexec | ⟨result, events, hexec, -⟩ := exec_finalizeEmailDelivery delivery evidence r
  · exact Writes.of_eq (by rw [hexec])
  · exact Writes.of_put (by rw [hexec]) rfl htest

/-- INTERNAL: what the path for a suppressed recipient writes.
SOURCE: apps/worker/src/worker.js:53-72 -/
theorem writes_suppressDelivery {delivery : EmailDelivery} (event : HandlerEvent)
    (suppression : EmailSuppression) (now : Int) (r : MemoryRepository)
    (unfinished : delivery.status.isTerminal = false) :
    Writes r (Effect.exec (suppressDelivery E event delivery suppression now) r).2 delivery.id
      fun status => status = .suppressed := by
  cases hmark : markEmailDeliverySuppressed E.platform delivery suppression event.attempt now with
  | error e => exact Writes.of_eq (by simp [suppressDelivery, hmark])
  | ok suppressed =>
    obtain ⟨reason, rfl⟩ := markSuppressed_eq_ok unfinished hmark
    simp only [suppressDelivery, hmark, Effect.exec_bind, Effect.exec_lift]
    rw [← Effect.exec_bind, Effect.store_bind _ fun _ _ => rfl]
    exact writes_finalizeEmailDelivery _ _ r rfl

/-- INTERNAL: what saving a delivery as sending writes; the copy that is saved is the one that
was held, as sending.
SOURCE: apps/worker/src/worker.js:75-76 -/
theorem writes_saveSending {delivery : EmailDelivery} (event : HandlerEvent) (now : Int)
    (r : MemoryRepository) (unfinished : delivery.status.isTerminal = false) :
    (Effect.exec (saveSending E event delivery now) r = 
        (.ok (delivery.sending event.attempt now), { r with
          emailDeliveryStore := r.emailDeliveryStore.put (delivery.sending event.attempt now) })) ∨
      ∃ e, Effect.exec (saveSending E event delivery now) r = (.error e, r) := by
  cases hmark : markEmailDeliverySending E.platform delivery event.attempt now with
  | error e => exact Or.inr ⟨e, by simp [saveSending, hmark]⟩
  | ok sending =>
    obtain rfl := markSending_eq_ok unfinished hmark
    cases hhas : r.emailDeliveryStore.has (delivery.sending event.attempt now).id with
    | true => exact Or.inl (by simp [saveSending, hmark, exec_saveEmailDelivery, hhas])
    | false =>
      exact Or.inr ⟨deliveryNotFound, by simp [saveSending, hmark, exec_saveEmailDelivery, hhas]⟩

/-- INTERNAL: what the end of the `try` block writes.
SOURCE: apps/worker/src/worker.js:78-99 -/
theorem writes_finalizeAccepted {sending : EmailDelivery} (outcome : Except JsError String)
    (now : Int) (r : MemoryRepository) (unfinished : sending.status.isTerminal = false) :
    Writes r (Effect.exec (finalizeAccepted E sending outcome now) r).2 sending.id
      fun status => status.isTerminal = false := by
  cases outcome with
  | error e => exact Writes.of_eq (by simp [finalizeAccepted])
  | ok id =>
    cases hmark : markEmailDeliveryAccepted E.platform sending E.provider id now with
    | error e => exact Writes.of_eq (by simp [finalizeAccepted, hmark])
    | ok accepted =>
      obtain ⟨provider', id', rfl⟩ := markAccepted_eq_ok unfinished hmark
      simp only [finalizeAccepted, hmark, Effect.exec_bind, Effect.exec_lift]
      rw [← Effect.exec_bind, Effect.store_bind _ fun _ _ => rfl]
      exact writes_finalizeEmailDelivery _ _ r rfl

/-- INTERNAL: what the `catch` block writes.
SOURCE: apps/worker/src/worker.js:100-115 -/
theorem writes_finalizeFailed (event : HandlerEvent) {sending : EmailDelivery} (error : JsError)
    (now : Int) (r : MemoryRepository) (unfinished : sending.status.isTerminal = false) :
    Writes r (Effect.exec (finalizeFailed E event sending error now) r).2 sending.id
      fun status => status.isTerminal = false := by
  cases hmark : markEmailDeliveryFailed E.platform sending error event.attempt now with
  | error e => exact Writes.of_eq (by simp [finalizeFailed, hmark])
  | ok failed =>
    obtain rfl := markFailed_eq_ok unfinished hmark
    simp only [finalizeFailed, hmark, Effect.exec_bind, Effect.exec_lift]
    rw [← Effect.exec_bind, Effect.store_bind _ fun _ _ => rfl]
    exact writes_finalizeEmailDelivery _ _ r rfl

/-- INTERNAL: what follows the provider's answer writes an unfinished status.
SOURCE: apps/worker/src/worker.js:77-115 -/
theorem writes_finalizeSent (event : HandlerEvent) {sending : EmailDelivery}
    (outcome : Except JsError String) (acceptedAt failedAt : Int) (r : MemoryRepository)
    (unfinished : sending.status.isTerminal = false) :
    Writes r (Effect.exec (finalizeSent E event sending outcome acceptedAt failedAt) r).2
      sending.id fun status => status.isTerminal = false := by
  have haccepted := writes_finalizeAccepted E outcome acceptedAt r unfinished
  simp only [finalizeSent, Effect.exec_tryCatch]
  rcases hexec : Effect.exec (finalizeAccepted E sending outcome acceptedAt) r with ⟨_ | _, u⟩
  · rw [hexec] at haccepted
    exact haccepted.trans (writes_finalizeFailed E event _ failedAt u unfinished)
  · rw [hexec] at haccepted
    exact haccepted

/-- INTERNAL: a run that ended holds no copy. -/
theorem copy_ofResult (result : Except JsError Unit) :
    Handler.copy (Handler.ofResult result) = none := by
  cases result <;> rfl

/-- INTERNAL: between the read and the suppression list a run keeps its copy, or ends.
SOURCE: apps/worker/src/worker.js:41-52 -/
theorem copy_afterLoad {r : MemoryRepository} {handler next : Handler}
    (h : afterLoad E r handler = some next) {copy : EmailDelivery}
    (hcopy : Handler.copy next = some copy) : Handler.copy handler = some copy := by
  cases handler with
  | loaded event delivery =>
    cases delivery with
    | none =>
      obtain rfl : Handler.thrown deliveryNotResolved = next := Option.some.inj h
      cases hcopy
    | some delivery =>
      simp only [afterLoad] at h
      split at h
      · obtain rfl := Option.some.inj h
        cases hcopy
      · rename_i htenant
        split at h
        · obtain rfl := Option.some.inj h
          cases hcopy
        · rename_i hsettled
          split at h
          · obtain rfl := Option.some.inj h
            have hown : some delivery.tenantId = event.event.tenantId := not_not.mp htenant
            rw [← hcopy]
            simp only [Handler.copy]
            rw [if_pos ⟨hown, by simpa using hsettled⟩]
          · obtain rfl := Option.some.inj h
            cases hcopy
  | _ => cases h

/-- INTERNAL: after the suppression list a run writes the delivery of its copy: as suppressed,
which ends it, or as sending.
SOURCE: apps/worker/src/worker.js:53-76 -/
theorem afterCheck_cases {now : Int} {r r' : MemoryRepository} {handler next : Handler}
    (hc : Current r handler) (h : afterCheck E now r handler = some (next, r')) :
    ∃ event delivery suppression, handler = .checked event delivery suppression ∧
      ((∃ found, suppression = some found ∧ Handler.copy next = none ∧
          Writes r r' delivery.id fun status => status = .suppressed) ∨
        (suppression = none ∧ Writes r r' delivery.id (fun status => status = .sending) ∧
          Current r' next)) := by
  cases handler with
  | checked event delivery suppression =>
    refine ⟨event, delivery, suppression, rfl, ?_⟩
    obtain ⟨unfinished, hstored⟩ := hc delivery rfl
    cases suppression with
    | some found =>
      obtain ⟨rfl, rfl⟩ := Prod.mk.inj (Option.some.inj h)
      exact Or.inl ⟨found, rfl, copy_ofResult _,
        writes_suppressDelivery E event found now r unfinished⟩
    | none =>
      right
      simp only [afterCheck] at h
      obtain hexec | ⟨e, hexec⟩ := writes_saveSending E event now r unfinished
      · rw [hexec] at h
        obtain ⟨rfl, rfl⟩ := Prod.mk.inj (Option.some.inj h)
        refine ⟨rfl, Writes.of_put rfl rfl rfl, fun copy hcopy => ?_⟩
        obtain rfl : delivery.sending event.attempt now = copy := Option.some.inj hcopy
        refine ⟨rfl, fun stored hget => ?_⟩
        simp only [Table.get_put, if_pos] at hget
        obtain rfl := Option.some.inj hget
        rfl
      · rw [hexec] at h
        obtain ⟨rfl, rfl⟩ := Prod.mk.inj (Option.some.inj h)
        exact ⟨rfl, Writes.of_eq rfl, fun copy hcopy => by cases hcopy⟩
  | _ => cases h

/-- INTERNAL: the provider's answer leaves the copy.
SOURCE: apps/worker/src/worker.js:78 -/
theorem copy_afterSave {outcome : Except JsError String} {handler next : Handler}
    (h : afterSave outcome handler = some next) : Handler.copy next = Handler.copy handler := by
  cases handler with
  | saved event sending =>
    obtain rfl := Option.some.inj h
    rfl
  | _ => cases h

/-- INTERNAL: after the provider's answer a run writes the delivery of its copy with an
unfinished status, and ends.
SOURCE: apps/worker/src/worker.js:77-115 -/
theorem afterSend_cases {acceptedAt failedAt : Int} {r r' : MemoryRepository}
    {handler next : Handler} (hc : Current r handler)
    (h : afterSend E acceptedAt failedAt r handler = some (next, r')) :
    ∃ copy, Handler.copy handler = some copy ∧ Handler.copy next = none ∧
      Writes r r' copy.id fun status => status.isTerminal = false := by
  cases handler with
  | sent event sending outcome =>
    obtain ⟨rfl, rfl⟩ := Prod.mk.inj (Option.some.inj h)
    exact ⟨sending, rfl, copy_ofResult _,
      writes_finalizeSent E event outcome acceptedAt failedAt r (hc sending rfl).1⟩
  | _ => cases h

/-- INTERNAL: the invariant after one run of the handler went on. -/
theorem copiesCurrent_set {s : Service} (hs : CopiesCurrent s) (i : Nat) {next : Handler}
    {r' : MemoryRepository} (hnext : Current r' next)
    (hothers : ∀ j handler, s.handlers[j]? = some handler → j ≠ i →
      Current s.repository handler → Current r' handler) :
    CopiesCurrent { s with repository := r', handlers := s.handlers.set i next } := by
  intro j handler hget
  rw [List.getElem?_set] at hget
  split at hget
  · split at hget
    · obtain rfl := Option.some.inj hget
      exact hnext
    · cases hget
  · rename_i hne
    exact hothers j handler hget (Ne.symm hne) (hs j handler hget)

/-- INTERNAL: what a webhook writes is unfinished, or finishes the delivery.
SOURCE: apps/api/src/repositories/memory.js:307-324 -/
theorem webhook_writes (s : Service) (webhookId : String) (event : WebhookEvent) :
    ∃ id, Writes s.repository
        (Effect.exec (handleEmailWebhook E webhookId event) s.repository).2 id
          (fun status => status.isTerminal = false) ∨
      (Finishes s (.webhook webhookId event) id ∧ Writes s.repository
        (Effect.exec (handleEmailWebhook E webhookId event) s.repository).2 id fun _ => True) := by
  obtain hsame | ⟨_, delivery, updated, hnew, hfound, happly, heffect⟩ :=
    exec_handleEmailWebhook E webhookId event s.repository
  · exact ⟨"", Or.inl (Writes.of_eq (by rw [hsame]))⟩
  · refine ⟨delivery.id, ?_⟩
    obtain rfl | ⟨status, occurredAt, hstatus, hocc, hfresh, rfl⟩ := applyStatus_eq_ok happly
    · exact Or.inl (Writes.of_put_stored heffect.deliveries (get_of_deliveryOfMessage hfound))
    · cases hterm : status.isTerminal with
      | false => exact Or.inl (Writes.of_put heffect.deliveries rfl hterm)
      | true =>
        exact Or.inr ⟨⟨delivery, status, occurredAt, hnew, hfound, rfl, hstatus, hterm, hocc,
          hfresh⟩, Writes.of_put heffect.deliveries rfl trivial⟩

/-- INTERNAL: a start of the handler holds a copy of what is stored.
SOURCE: apps/worker/src/worker.js:36-50 -/
theorem current_startHandler (r : MemoryRepository) (event : HandlerEvent) :
    Current r (startHandler r event) := by
  intro copy hcopy
  unfold startHandler at hcopy
  split at hcopy
  · cases hcopy
  · cases hget : r.getEmailDeliveryById event.event.aggregateId with
    | none =>
      rw [hget] at hcopy
      cases hcopy
    | some delivery =>
      rw [hget] at hcopy
      simp only [Handler.copy] at hcopy
      split at hcopy
      · rename_i hown
        obtain rfl : delivery = copy := Option.some.inj hcopy
        have hopen : delivery.status.isTerminal = false := by
          have hsettled := hown.2
          revert hsettled
          cases delivery.status <;> decide
        refine ⟨hopen, fun stored hstored => ?_⟩
        have hid : delivery.id = event.event.aggregateId := Table.key_of_get hget
        rw [hid] at hstored
        obtain rfl : delivery = stored := Option.some.inj (hget.symm.trans hstored)
        exact hopen
      · cases hcopy

/-- INTERNAL: the write of a request, seen from the service.
SOURCE: apps/api/src/handlers.js:252-304 -/
theorem writeAudit_eq_some {s t : Service} {i : Nat} {draw : AuditDraw}
    (h : s.writeAudit E i draw = some t) :
    ∃ r' requests, r'.emailDeliveryStore = s.repository.emailDeliveryStore ∧
      t = { s with repository := r', requests := requests } := by
  unfold Service.writeAudit at h
  split at h
  · rename_i audit write existingEvents _
    obtain rfl := Option.some.inj h
    exact ⟨_, _, deliveries_writeTenantAudit E audit write existingEvents draw s.repository, rfl⟩
  · cases h

/-- INTERNAL: a step that finishes no delivery of which a copy is held keeps copies current.
SOURCE: apps/worker/src/worker.js:35-117; apps/api/src/email-webhook.js:14-44 -/
theorem copiesCurrent_step {s t : Service} {l : ServiceStep} (hs : CopiesCurrent s)
    (hg : NoCopyHeld s l) (hstep : (service E).step s l = some t) : CopiesCurrent t := by
  cases l with
  | deliver event =>
    obtain rfl := Option.some.inj hstep
    intro j handler hget
    rcases List.mem_append.mp (List.mem_of_getElem? hget) with hmem | hmem
    · obtain ⟨j', hget'⟩ := List.mem_iff_getElem?.mp hmem
      exact hs j' handler hget'
    · obtain rfl := List.mem_singleton.mp hmem
      exact current_startHandler s.repository event
  | checkSuppression i =>
    obtain ⟨handler, next, r', hget, hf, rfl⟩ := onHandler_eq_some hstep
    obtain ⟨next', hload, heq⟩ := Option.map_eq_some_iff.mp hf
    obtain ⟨rfl, rfl⟩ := Prod.mk.inj heq
    refine copiesCurrent_set hs i (fun copy hcopy => ?_) fun _ _ _ _ hc => hc
    exact hs i handler hget copy (copy_afterLoad E hload hcopy)
  | save i now =>
    obtain ⟨handler, next, r', hget, hf, rfl⟩ := onHandler_eq_some hstep
    obtain ⟨event, delivery, suppression, rfl, hcase⟩ := afterCheck_cases E (hs i _ hget) hf
    obtain ⟨found, rfl, hended, hwrites⟩ | ⟨-, hwrites, hnext⟩ := hcase
    · -- The recipient is suppressed: the guard says that no other run holds a copy.
      refine copiesCurrent_set hs i (fun copy hcopy => by rw [hended] at hcopy; cases hcopy)
        fun j other hother hne hc => hwrites.current_of_ne (fun copy hcopy => ?_) hc
      exact hg delivery.id ⟨event, delivery, found, hget, rfl⟩ j other copy hother
        (fun h => hne (Option.some.inj h).symm) hcopy
    · have hopen : Writes s.repository r' delivery.id fun status => status.isTerminal = false :=
        hwrites.mono fun status hstatus => by rw [hstatus]; rfl
      exact copiesCurrent_set hs i hnext fun _ _ _ _ hc => hopen.current hc
  | send i outcome =>
    obtain ⟨handler, next, r', hget, hf, rfl⟩ := onHandler_eq_some hstep
    obtain ⟨next', hsave, heq⟩ := Option.map_eq_some_iff.mp hf
    obtain ⟨rfl, rfl⟩ := Prod.mk.inj heq
    refine copiesCurrent_set hs i (fun copy hcopy => ?_) fun _ _ _ _ hc => hc
    exact hs i handler hget copy (copy_afterSave hsave ▸ hcopy)
  | finalize i acceptedAt failedAt =>
    obtain ⟨handler, next, r', hget, hf, rfl⟩ := onHandler_eq_some hstep
    obtain ⟨copy, -, hended, hwrites⟩ := afterSend_cases E (hs i _ hget) hf
    exact copiesCurrent_set hs i (fun copy hcopy => by rw [hended] at hcopy; cases hcopy)
      fun _ _ _ _ hc => hwrites.current hc
  | crash i =>
    obtain ⟨handler, next, r', hget, hf, rfl⟩ := onHandler_eq_some hstep
    obtain ⟨rfl, rfl⟩ := Prod.mk.inj (Option.some.inj hf)
    exact copiesCurrent_set hs i (fun copy hcopy => by cases hcopy) fun _ _ _ _ hc => hc
  | webhook webhookId event =>
    obtain rfl := Option.some.inj hstep
    obtain ⟨id, hwrites | ⟨hfinishes, hwrites⟩⟩ := webhook_writes E s webhookId event
    · exact fun j handler hget => hwrites.current (hs j handler hget)
    · exact fun j handler hget => hwrites.current_of_ne
        (fun copy hcopy => hg id hfinishes j handler copy hget (by simp [ServiceStep.handler])
          hcopy) (hs j handler hget)
  | readTail audit write =>
    obtain rfl := Option.some.inj hstep
    exact hs
  | writeAudit i draw =>
    obtain ⟨r', requests, hdeliveries, rfl⟩ := writeAudit_eq_some E hstep
    have hnothing : Writes s.repository r' "" fun status => status.isTerminal = false :=
      Writes.of_eq hdeliveries
    exact fun j handler hget => hnothing.current (hs j handler hget)

/-- INTERNAL: while copies are current a worker leaves the finished deliveries as they are.
SOURCE: apps/worker/src/worker.js:35-117 -/
theorem keepsTerminal_step {s t : Service} {l : ServiceStep} (hs : CopiesCurrent s)
    (hstep : (service E).step s l = some t) : KeepsTerminal s l t := by
  intro hworker id delivery hget hterm
  have hkept : t.repository.emailDeliveryStore.get id = some delivery := by
    cases l with
    | deliver event =>
      obtain rfl := Option.some.inj hstep
      exact hget
    | checkSuppression i =>
      obtain ⟨handler, next, r', -, hf, rfl⟩ := onHandler_eq_some hstep
      obtain ⟨next', -, heq⟩ := Option.map_eq_some_iff.mp hf
      obtain ⟨rfl, rfl⟩ := Prod.mk.inj heq
      exact hget
    | save i now =>
      obtain ⟨handler, next, r', hi, hf, rfl⟩ := onHandler_eq_some hstep
      obtain ⟨event, copy, suppression, rfl, hcase⟩ := afterCheck_cases E (hs i _ hi) hf
      obtain ⟨found, -, -, hwrites⟩ | ⟨-, hwrites, -⟩ := hcase
      · exact hwrites.keeps (hs i _ hi) rfl rfl hget hterm
      · exact hwrites.keeps (hs i _ hi) rfl rfl hget hterm
    | send i outcome =>
      obtain ⟨handler, next, r', -, hf, rfl⟩ := onHandler_eq_some hstep
      obtain ⟨next', -, heq⟩ := Option.map_eq_some_iff.mp hf
      obtain ⟨rfl, rfl⟩ := Prod.mk.inj heq
      exact hget
    | finalize i acceptedAt failedAt =>
      obtain ⟨handler, next, r', hi, hf, rfl⟩ := onHandler_eq_some hstep
      obtain ⟨copy, hcopy, -, hwrites⟩ := afterSend_cases E (hs i _ hi) hf
      exact hwrites.keeps (hs i _ hi) hcopy rfl hget hterm
    | crash i =>
      obtain ⟨handler, next, r', -, hf, rfl⟩ := onHandler_eq_some hstep
      obtain ⟨rfl, rfl⟩ := Prod.mk.inj (Option.some.inj hf)
      exact hget
    | webhook webhookId event => cases hworker
    | readTail audit write => cases hworker
    | writeAudit i draw => cases hworker
  refine ⟨delivery, hkept, ?_⟩
  revert hterm
  cases delivery.status <;> decide

/-- **A finished delivery stays finished** in every run of the workers, webhooks and requests in
which no delivery is finished while a run of the handler holds a copy of it: no worker's step
makes it queued, sending, accepted or failed.
SOURCE: apps/worker/src/worker.js:35-117; packages/email-delivery/src/index.js:28, 307-363 -/
theorem terminal_kept (repository : MemoryRepository) (steps : List ServiceStep)
    (held : (service E).Meets NoCopyHeld { repository } steps) :
    (service E).Meets (fun s l => ∀ t, (service E).step s l = some t → KeepsTerminal s l t)
      { repository } steps := by
  have hstart : CopiesCurrent { repository } := fun j handler hget => by simp at hget
  exact (service E).meets_of_meets (fun s l t hs hg hstep => copiesCurrent_step E hs hg hstep)
    (fun s l hs _ t hstep => keepsTerminal_step E hs hstep) hstart held

end

/-- A test of `NoCopyHeld`: at a webhook no run of the handler holds a copy, and no run writes a
suppressed delivery. -/
def noCopyHeldTest (s : Service) : ServiceStep → Bool
  | .webhook _ _ => s.handlers.all fun handler => (Handler.copy handler).isNone
  | .save i _ =>
    match s.handlers[i]? with
    | some (.checked _ _ (some _)) => false
    | _ => true
  | _ => true

/-- INTERNAL: the test decides the guard for one side. -/
theorem noCopyHeld_of_test (s : Service) (l : ServiceStep) (h : noCopyHeldTest s l = true) :
    NoCopyHeld s l := by
  intro id hfin j handler copy hget hne hcopy
  cases l with
  | webhook webhookId event =>
    have hnone := List.all_eq_true.mp h handler (List.mem_of_getElem? hget)
    rw [hcopy] at hnone
    cases hnone
  | save i now =>
    obtain ⟨event, delivery, suppression, hi, -⟩ := hfin
    simp [noCopyHeldTest, hi] at h
  | _ => cases hfin

/-- A delivery as it is queued. -/
def queuedDelivery : EmailDelivery where
  id := "delivery-1"
  tenantId := "tenant-a"
  recipientUserId := none
  recipientEmail := "client@site.test"
  kind := .reportReady
  resourceType := some "field_report"
  resourceId := some "report-1"
  idempotencyKey := "tenant-a:email:report_ready:report-1"
  status := .queued
  attempts := 0
  provider := none
  providerMessageId := none
  providerStatusAt := none
  lastError := none
  message := ⟨"Report ready: Site", "Hello", "<p>Hello</p>", "https://portal.site.test/"⟩
  createdAt := 1000
  updatedAt := 1000
  acceptedAt := none
  deliveredAt := none

/-- A repository with one queued delivery. -/
def queuedRepository : MemoryRepository :=
  { emailDeliveryStore := Table.empty.put queuedDelivery }

/-- The job of the delivery, at one of its attempts. -/
def deliveryJob (attempt : Nat) : HandlerEvent where
  event := {
    id := "delivery-1-outbox"
    eventType := "email.delivery.requested"
    aggregateType := "email_delivery"
    aggregateId := "delivery-1"
    tenantId := some "tenant-a" }
  attempt := attempt
  idempotencyKey := "tenant-a:email:report_ready:report-1"

/-- The provider delivered the message. -/
def deliveredEvent : WebhookEvent where
  type := "email.delivered"
  emailId := some "message-1"
  createdAt := ⟨"1970-01-01T00:00:03.000Z", some 3000⟩

/-- The content of an audit event on the delivery. -/
def deliveryAudit (action actorId state eventId timestamp : String)
    (previousHash : Option String) : AuditInput where
  eventId := some eventId
  tenantId := "tenant-a"
  actorType := some "system"
  actorId := some actorId
  action := action
  resourceType := "email_delivery"
  resourceId := "delivery-1"
  afterStateRef := .string state
  correlationId := some "delivery-1"
  requestId := some "delivery-1"
  timestamp := some timestamp
  previousHash := previousHash

/-- The digest of the first acceptance. -/
def acceptedDigest : String := "8b5feb0da77fe2786cafa5921dd4526e6d90d42f8b58753607b9a644de9eaf89"

/-- The digest of the delivery that follows it. -/
def deliveredDigest : String := "28c1c247b04c30221a336fbb570932914f3272f1ebb82508abcfe9b9eaa54afa"

/-- The SHA-256 digests of the audit events of the runs below. -/
def deliveryDigests : List (AuditInput × String) := [
  (deliveryAudit "email.delivery.accepted" "email-worker" "accepted" "delivery-1-accepted-audit"
    "1970-01-01T00:00:02.000Z" none, acceptedDigest),
  (deliveryAudit "email.delivery.delivered" "resend-webhook" "delivered"
    "delivery-1-webhook-webhook-1-audit" "1970-01-01T00:00:03.000Z" (some acceptedDigest),
    deliveredDigest),
  (deliveryAudit "email.delivery.accepted" "email-worker" "accepted" "delivery-1-accepted-audit"
    "1970-01-01T00:00:04.000Z" (some deliveredDigest),
    "46427c45af0e8cfcb4c256e4fd4b09e0dbf0ad448584e19a0c64747f765664aa")]

/-- The local sink without a signing key; the address is in lower case. -/
def sinkEnvironment : Environment where
  platform := ⟨digestOf deliveryDigests, fun _ _ => "", id⟩
  provider := "sink"
  signingKey := none

/-- The service before any step. -/
def queuedService : Service := { repository := queuedRepository }

/-- One attempt, then the webhook, then a replay of the job. -/
def inOrderRun : List ServiceStep := [
  .deliver (deliveryJob 1), .checkSuppression 0, .save 0 1500, .send 0 (.ok "message-1"),
  .finalize 0 2000 2000, .webhook "webhook-1" deliveredEvent, .deliver (deliveryJob 2),
  .checkSuppression 1]

/-- `terminal_kept` on a run that finishes the delivery and replays its job. -/
theorem terminal_kept_inOrderRun :
    (service sinkEnvironment).Meets NoCopyHeld queuedService inOrderRun ∧
      (service sinkEnvironment).Meets
        (fun s l => ∀ t, (service sinkEnvironment).step s l = some t → KeepsTerminal s l t)
        queuedService inOrderRun := by
  have held : (service sinkEnvironment).Meets NoCopyHeld queuedService inOrderRun :=
    (service sinkEnvironment).meets_of_check noCopyHeld_of_test _ _ (by decide +kernel)
  exact ⟨held, terminal_kept sinkEnvironment queuedRepository inOrderRun held⟩

/-- The stored status after some steps. -/
def statusAfter (steps : List ServiceStep) : Option EmailDeliveryStatus :=
  ((service sinkEnvironment).run queuedService steps).bind fun s =>
    (s.repository.emailDeliveryStore.get "delivery-1").map EmailDelivery.status

/-- A first attempt that is taken for stale before it calls the provider, a second one that is
accepted, and the webhook; then the provider answers the first attempt, with the same
message. -/
def reclaimedRun : List ServiceStep := [
  .deliver (deliveryJob 1), .checkSuppression 0, .save 0 1500,
  .deliver (deliveryJob 2), .checkSuppression 1, .save 1 1600, .send 1 (.ok "message-1"),
  .finalize 1 2000 2000, .webhook "webhook-1" deliveredEvent, .send 0 (.ok "message-1")]

/-- **A finished delivery can be reopened.** The late finalization of the first attempt makes the
delivered delivery accepted again.
SOURCE: apps/worker/src/worker.js:74-92; apps/api/src/repositories/memory.js:299-301 -/
theorem terminal_reopened :
    ¬ ∀ steps, (service sinkEnvironment).Meets
      (fun s l => ∀ t, (service sinkEnvironment).step s l = some t → KeepsTerminal s l t)
      queuedService steps := by
  intro hall
  have hbefore : statusAfter reclaimedRun = some .delivered := by decide +kernel
  have hafter : statusAfter (reclaimedRun ++ [.finalize 0 4000 4000]) = some .accepted := by
    decide +kernel
  obtain ⟨s, hs, hstored⟩ := Option.bind_eq_some_iff.mp hbefore
  obtain ⟨delivery, hget, hdelivered⟩ := Option.map_eq_some_iff.mp hstored
  obtain ⟨t, ht, hstored'⟩ := Option.bind_eq_some_iff.mp hafter
  obtain ⟨delivery', hget', haccepted⟩ := Option.map_eq_some_iff.mp hstored'
  obtain ⟨s', hs', hstep⟩ := (service sinkEnvironment).run_concat ht
  obtain rfl : s = s' := Option.some.inj (hs.symm.trans hs')
  have hkeeps := (service sinkEnvironment).meets_iff_each.mp
    (hall (reclaimedRun ++ [.finalize 0 4000 4000])) reclaimedRun (.finalize 0 4000 4000) [] s rfl
    hs t hstep rfl "delivery-1" delivery hget (by rw [hdelivered]; rfl)
  obtain ⟨stored, hstored, hnot⟩ := hkeeps
  obtain rfl : delivery' = stored := Option.some.inj (hget'.symm.trans hstored)
  rw [haccepted] at hnot
  exact hnot (by decide)

end Xygo.Analysis
