import Xygo.Analysis.WebhookOnce

/-!
# What the evidence of a webhook says

`handleEmailWebhook` names the action of its audit event after the type of the provider event,
before `applyEmailWebhookStatus` has decided whether the event is older than what the delivery
already knows. The state the audit event refers to is that of the record after this decision.
So an event that arrives late leaves an audit event whose action names a status the delivery does
not have.
-/

set_option autoImplicit false

namespace Xygo.Analysis

open Xygo.Computation Xygo.Model

/-- **What the audit event of a webhook should say**: its action, its state and the stored
delivery name one status. -/
def EvidenceAgrees (t : MemoryRepository) (e : AuditEvent) : Prop :=
  ∃ delivery, t.getEmailDeliveryById e.resourceId = some delivery ∧
    e.action = "email.delivery." ++ delivery.status.text ∧
    e.afterStateRef = .string delivery.status.text

/-- A status is known by its text. -/
theorem statusText_injective {a b : EmailDeliveryStatus} (h : a.text = b.text) : a = b := by
  cases a <;> cases b <;> first | rfl | exact absurd h (by decide)

/-- What a tracked event makes of a delivery: nothing if it is older than its status, and the
record after the event otherwise.
SOURCE: packages/email-delivery/src/index.js:365-385 -/
theorem applyStatus_tracked {P : Platform} {delivery updated : EmailDelivery}
    {event : WebhookEvent} {status : EmailDeliveryStatus}
    (htracked : webhookStatus event.type = some status)
    (h : applyEmailWebhookStatus P delivery event = .ok updated) :
    ∃ occurredAt, event.occurredAt = .ok occurredAt ∧
      updated = if delivery.isStale occurredAt then delivery
        else delivery.afterEvent event status occurredAt := by
  obtain ⟨_, -, hrest⟩ := bind_eq_ok.mp h
  simp only [htracked] at hrest
  split at hrest
  · cases hrest
  · obtain ⟨occurredAt, hoccurred, hlast⟩ := bind_eq_ok.mp hrest
    refine ⟨occurredAt, hoccurred, ?_⟩
    split at hlast
    · rename_i hstale
      rw [if_pos hstale]
      exact (Except.ok.inj hlast).symm
    · rename_i hfresh
      rw [if_neg hfresh]
      exact (Except.ok.inj hlast).symm

/-- The fields of the evidence of a webhook.
SOURCE: apps/api/src/email-webhook.js:23-31; packages/email-delivery/src/index.js:218-242 -/
theorem webhookEvidence_fields {E : Environment} {webhookId : String} {event : WebhookEvent}
    {status : EmailDeliveryStatus} {delivery : EmailDelivery} {previousHash : Option String}
    {e : AuditEvent}
    (h : (webhookEvidence E webhookId event status delivery).resolve previousHash = .ok (some e)) :
    e.resourceId = delivery.id ∧ e.action = "email.delivery." ++ status.text ∧
      e.afterStateRef = .string delivery.status.text := by
  obtain ⟨made, hmade, hsome⟩ := map_eq_ok.mp h
  obtain rfl := Option.some.inj hsome
  obtain ⟨_, -, hcreate⟩ := bind_eq_ok.mp hmade
  unfold createAuditEvent at hcreate
  split at hcreate
  · cases hcreate
  · obtain rfl := Except.ok.inj hcreate
    exact ⟨rfl, rfl, rfl⟩

/-- A webhook that appended an audit event has updated a delivery, and this is its evidence. -/
theorem written_of_handleEmailWebhook {E : Environment} {webhookId : String} {event : WebhookEvent}
    {r : MemoryRepository} {e : AuditEvent}
    (hwritten : (Effect.exec (handleEmailWebhook E webhookId event) r).2.auditEventStore =
      r.auditEventStore ++ [e]) :
    ∃ status delivery updated, webhookStatus event.type = some status ∧
      r.deliveryOfMessage event.emailId = some delivery ∧
      applyEmailWebhookStatus E.platform delivery event = .ok updated ∧
      (Effect.exec (handleEmailWebhook E webhookId event) r).2.emailDeliveryStore =
        r.emailDeliveryStore.put updated ∧
      (webhookEvidence E webhookId event status updated).resolve
        (r.lastEventHash updated.tenantId) = .ok (some e) := by
  have hchanged : ∀ {t : MemoryRepository}, t.auditEventStore = r.auditEventStore ++ [e] →
      t.auditEventStore ≠ r.auditEventStore := by
    intro t happended hsame
    have hlength := congrArg List.length (happended.symm.trans hsame)
    simp at hlength
  cases hstatus : webhookStatus event.type with
  | none => exact absurd (by simp [handleEmailWebhook, hstatus]) (hchanged hwritten)
  | some status =>
    by_cases hid : event.emailId.getD "" = ""
    · exact absurd (by simp [handleEmailWebhook, hstatus, hid]) (hchanged hwritten)
    · have hstore : (Effect.exec (handleEmailWebhook E webhookId event) r).2 =
          (Effect.exec (applyEmailWebhook E.platform webhookId event
            (webhookEvidence E webhookId event status)) r).2 := by
        simp only [handleEmailWebhook, hstatus, hid, if_false]
        exact Effect.store_bind _ (fun _ _ => rfl) r
      rw [hstore] at hwritten ⊢
      obtain ⟨hsame, -⟩ | ⟨delivery, updated, -, hfound, happly, heffect⟩ :=
        exec_applyEmailWebhook E.platform webhookId event
          (webhookEvidence E webhookId event status) r
      · exact absurd (congrArg MemoryRepository.auditEventStore hsame) (hchanged hwritten)
      · obtain hsame | ⟨made, hmade, happended⟩ := heffect.audit
        · exact absurd hsame (hchanged hwritten)
        · have heq : made = e := by
            simpa using List.append_cancel_left (happended.symm.trans hwritten)
          exact ⟨status, delivery, updated, rfl, hfound, happly, heffect.deliveries, heq ▸ hmade⟩

/-- **The evidence of a webhook agrees with what happened** exactly where the event is not older
than what the status of the delivery rests on, or names the status the delivery has. -/
theorem evidence_agrees_iff (E : Environment) (webhookId : String) (event : WebhookEvent)
    (r : MemoryRepository) (e : AuditEvent)
    (hwritten : (Effect.exec (handleEmailWebhook E webhookId event) r).2.auditEventStore =
      r.auditEventStore ++ [e]) :
    EvidenceAgrees (Effect.exec (handleEmailWebhook E webhookId event) r).2 e ↔
      ∃ delivery, r.deliveryOfMessage event.emailId = some delivery ∧
        (webhookStatus event.type = some delivery.status ∨
          ∃ occurredAt, event.occurredAt = .ok occurredAt ∧
            delivery.isStale occurredAt = false) := by
  obtain ⟨status, delivery, updated, htracked, hfound, happly, hstored, hevidence⟩ :=
    written_of_handleEmailWebhook hwritten
  obtain ⟨hresource, haction, hstate⟩ := webhookEvidence_fields hevidence
  obtain ⟨occurredAt, hoccurred, hupdated⟩ := applyStatus_tracked htracked happly
  have hget : (Effect.exec (handleEmailWebhook E webhookId event) r).2.getEmailDeliveryById
      e.resourceId = some updated := by
    show (Effect.exec (handleEmailWebhook E webhookId event) r).2.emailDeliveryStore.get
      e.resourceId = some updated
    rw [hstored, hresource]
    simp
  have hagrees : EvidenceAgrees (Effect.exec (handleEmailWebhook E webhookId event) r).2 e ↔
      updated.status = status := by
    constructor
    · rintro ⟨stored, hstoredGet, hstoredAction, -⟩
      obtain rfl := Option.some.inj (hget.symm.trans hstoredGet)
      exact (statusText_injective (String.append_right_inj _ |>.mp
        (haction.symm.trans hstoredAction))).symm
    · intro hsame
      exact ⟨updated, hget, by rw [haction, hsame], hstate⟩
  rw [hagrees, hupdated, htracked]
  constructor
  · intro hsame
    refine ⟨delivery, hfound, ?_⟩
    cases hstale : delivery.isStale occurredAt with
    | true =>
      rw [if_pos hstale] at hsame
      exact Or.inl (congrArg some hsame.symm)
    | false => exact Or.inr ⟨occurredAt, hoccurred, hstale⟩
  · rintro ⟨other, hother, hcondition⟩
    obtain rfl := Option.some.inj (hfound.symm.trans hother)
    split
    · rename_i hstale
      obtain hsame | ⟨time, htime, hfresh⟩ := hcondition
      · exact (Option.some.inj hsame).symm
      · obtain rfl := Except.ok.inj (hoccurred.symm.trans htime)
        rw [hfresh] at hstale
        cases hstale
    · rfl

/-- The delivery the provider failed to deliver at 4000. -/
def failedRepository : MemoryRepository :=
  { emailDeliveryStore := Table.empty.put
      (acceptedDelivery.afterEvent failedAt4000.event .failed 4000) }

/-- A webhook of the accepted message appends one audit event. -/
theorem exists_written (webhookId : String) (e : TrackedEvent acceptedDelivery)
    (r : MemoryRepository) (hlength : (Effect.exec (handleEmailWebhook webhookEnvironment webhookId
      e.event) r).2.auditEventStore.length = 1) (hempty : r.auditEventStore = []) :
    ∃ event, (Effect.exec (handleEmailWebhook webhookEnvironment webhookId
      e.event) r).2.auditEventStore = r.auditEventStore ++ [event] := by
  obtain ⟨event, hevent⟩ := List.length_eq_one_iff.mp hlength
  exact ⟨event, by rw [hevent, hempty]; rfl⟩

/-- `evidence_agrees_iff` on a delivery in its turn. -/
theorem evidence_agrees_iff_delivered :
    ∃ event, EvidenceAgrees (Effect.exec (handleEmailWebhook webhookEnvironment "webhook-1"
      deliveredAt3000.event) acceptedRepository).2 event := by
  obtain ⟨event, hevent⟩ := exists_written "webhook-1" deliveredAt3000 acceptedRepository
    (by decide +kernel) rfl
  exact ⟨event, (evidence_agrees_iff webhookEnvironment "webhook-1" deliveredAt3000.event
    acceptedRepository event hevent).mpr ⟨acceptedDelivery, by decide +kernel,
      Or.inr ⟨3000, rfl, by decide⟩⟩⟩

/-- **A late webhook is recorded as what it is not.** The provider reports the delivery of 3000
after the failure of 4000: the delivery stays failed, and an audit event says that it is
delivered. -/
theorem late_delivery_recorded :
    ∃ event, (Effect.exec (handleEmailWebhook webhookEnvironment "webhook-1"
        deliveredAt3000.event) failedRepository).2.auditEventStore = [event] ∧
      event.action = "email.delivery.delivered" ∧ event.afterStateRef = .string "failed" ∧
      ¬ EvidenceAgrees (Effect.exec (handleEmailWebhook webhookEnvironment "webhook-1"
        deliveredAt3000.event) failedRepository).2 event := by
  obtain ⟨event, hevent⟩ := exists_written "webhook-1" deliveredAt3000 failedRepository
    (by decide +kernel) rfl
  obtain ⟨status, delivery, updated, htracked, hfound, happly, hstored, hevidence⟩ :=
    written_of_handleEmailWebhook hevent
  obtain ⟨-, haction, hstate⟩ := webhookEvidence_fields hevidence
  obtain rfl : EmailDeliveryStatus.delivered = status := Option.some.inj htracked
  have hfailed : failedRepository.deliveryOfMessage (some "message-1") =
      some (acceptedDelivery.afterEvent failedAt4000.event .failed 4000) := by decide +kernel
  obtain rfl := Option.some.inj (hfailed.symm.trans hfound)
  have hunchanged : applyEmailWebhookStatus lowerCasePlatform
      (acceptedDelivery.afterEvent failedAt4000.event .failed 4000) deliveredAt3000.event =
      .ok (acceptedDelivery.afterEvent failedAt4000.event .failed 4000) := by decide +kernel
  obtain rfl := Except.ok.inj (hunchanged.symm.trans happly)
  refine ⟨event, hevent, haction, hstate, ?_⟩
  rintro ⟨stored, hget, hstoredAction, hstoredState⟩
  have htext : stored.status.text = "delivered" :=
    (String.append_right_inj _ |>.mp (haction.symm.trans hstoredAction)).symm
  rw [hstate, htext] at hstoredState
  exact absurd (Json.string.inj hstoredState) (by decide)

end Xygo.Analysis
