import Xygo.Analysis.WebhookOrder

/-!
# Webhooks that arrive more than once

A webhook whose id is recorded is a duplicate and changes nothing. An id is recorded when its
call matched a delivery, so dropping the repetitions of matched ids from a run changes nothing
(`run_keptCalls`). What a call writes it does not take back, though: a call that throws after it
has stored the delivery leaves a change without a recorded id and without evidence
(`webhook_half_applied`). Along the runs whose calls can be completed, the effects are exactly
once (`webhooks_exactly_once`).
-/

set_option autoImplicit false

namespace Xygo.Analysis

open Xygo.Computation Xygo.Model

section

variable (P : Platform)

/-- The calls of a run without those whose webhook id was matched by an earlier one. -/
def keptCalls : List String → MemoryRepository → List WebhookCall → List WebhookCall
  | _, _, [] => []
  | seen, r, c :: cs =>
    let answer := (webhooks P).call c r
    if c.webhookId ∈ seen then keptCalls seen answer.2 cs
    else c :: keptCalls (if isMatched answer.1 then c.webhookId :: seen else seen) answer.2 cs

/-- The webhook ids a run matched. -/
def matchedIds : MemoryRepository → List WebhookCall → List String
  | _, [] => []
  | r, c :: cs =>
    let answer := (webhooks P).call c r
    (if isMatched answer.1 then [c.webhookId] else []) ++ matchedIds answer.2 cs

/-- The audit events the calls with a webhook id appended along a run. -/
def contributed (webhookId : String) : MemoryRepository → List WebhookCall → List AuditEvent
  | _, [] => []
  | r, c :: cs =>
    let after := ((webhooks P).call c r).2
    (if c.webhookId = webhookId then after.auditEventStore.drop r.auditEventStore.length else []) ++
      contributed webhookId after cs

/-- **Webhooks take effect exactly once**: repetitions of a matched webhook id could be dropped,
each matched id contributes one audit event, and a call that matches nothing changes nothing.
SOURCE: apps/api/src/repositories/memory.js:307-324; apps/api/src/email-webhook.js:33-43 -/
structure ExactlyOnce (r : MemoryRepository) (cs : List WebhookCall) : Prop where
  repeated : ((webhooks P).run r (keptCalls P [] r cs)).2 = ((webhooks P).run r cs).2
  evidence : ∀ webhookId ∈ matchedIds P r cs, ∃ event, contributed P webhookId r cs = [event]
  unmatched : (webhooks P).Meets
    (fun r c => isMatched ((webhooks P).call c r).1 = false → ((webhooks P).call c r).2 = r) r cs

/-- The suppression of a webhook can be registered: the webhook id is a usable event id, and
the entry under the key, if there is one, is of the same tenant and recipient.
SOURCE: packages/email-delivery/src/index.js:83, 103-107; apps/api/src/repositories/memory.js:316 -/
def Registrable (r : MemoryRepository) (updated : EmailDelivery) (c : WebhookCall) : Prop :=
  ∀ reason, suppressionReason c.event.type = some reason →
    Required 200 c.webhookId ∧
      ∀ existing,
        r.emailSuppressionStore.get
            (updated.tenantId ++ ":" ++ normalAddress P updated.recipientEmail) = some existing →
          existing.tenantId = updated.tenantId ∧
            existing.normalizedRecipient = normalAddress P updated.recipientEmail

/-- The evidence of a webhook is an event that is not stored yet.
SOURCE: apps/api/src/repositories/memory.js:320-322 -/
def HasNewEvidence (r : MemoryRepository) (updated : EmailDelivery) (c : WebhookCall) : Prop :=
  ∃ event, (c.evidence updated).resolve (r.lastEventHash updated.tenantId) = .ok (some event) ∧
    ∀ stored ∈ r.auditEventStore, stored.eventId ≠ event.eventId

/-- A call that stores the record after its event can also do the rest.
SOURCE: apps/api/src/repositories/memory.js:312-323 -/
def CanComplete (r : MemoryRepository) (c : WebhookCall) : Prop :=
  ∀ delivery updated, r.emailWebhookEventStore.has c.webhookId = false →
    r.deliveryOfMessage c.event.emailId = some delivery →
      applyEmailWebhookStatus P delivery c.event = .ok updated →
        Registrable P r updated c ∧ HasNewEvidence r updated c

variable {P}

/-- INTERNAL: a recorded webhook id makes the call a duplicate.
SOURCE: apps/api/src/repositories/memory.js:308 -/
theorem call_duplicate {r : MemoryRepository} {c : WebhookCall}
    (h : r.emailWebhookEventStore.has c.webhookId = true) :
    (webhooks P).call c r = (.ok ⟨true, none⟩, r) := by
  simp [webhooks, applyEmailWebhook, h]

/-- INTERNAL: what a call does to the recorded webhook ids: nothing, or it records its own, and
it does so whenever it matches.
SOURCE: apps/api/src/repositories/memory.js:307-324 -/
theorem recorded_call (r : MemoryRepository) (c : WebhookCall) :
    (((webhooks P).call c r).2.emailWebhookEventStore = r.emailWebhookEventStore ∧
      isMatched ((webhooks P).call c r).1 = false) ∨
    ∃ tenantId, ((webhooks P).call c r).2.emailWebhookEventStore =
      r.emailWebhookEventStore.put ⟨c.webhookId, tenantId, c.event⟩ := by
  cases hdup : r.emailWebhookEventStore.has c.webhookId with
  | true =>
    rw [call_duplicate hdup]
    exact Or.inl ⟨rfl, rfl⟩
  | false =>
    cases hfound : r.deliveryOfMessage c.event.emailId with
    | none => exact Or.inl (by simp [webhooks, applyEmailWebhook, hdup, hfound, isMatched])
    | some delivery =>
      cases happly : applyEmailWebhookStatus P delivery c.event with
      | error e =>
        exact Or.inl (by simp [webhooks, applyEmailWebhook, hdup, hfound, happly, isMatched])
      | ok updated =>
        obtain ⟨result, suppressions, hput⟩ := exec_putSuppression P updated c.event c.webhookId
          { r with emailDeliveryStore := r.emailDeliveryStore.put updated }
        cases result with
        | error e =>
          exact Or.inl (by
            simp [webhooks, applyEmailWebhook, hdup, hfound, happly, hput, isMatched])
        | ok _ =>
          right
          refine ⟨updated.tenantId, ?_⟩
          cases hres : (c.evidence updated).resolve (r.lastEventHash updated.tenantId) with
          | error e => simp [webhooks, applyEmailWebhook, hdup, hfound, happly, hput, hres]
          | ok auditEvent =>
            obtain ⟨events, hpush, -⟩ := exec_pushEvidence auditEvent
              { r with
                emailDeliveryStore := r.emailDeliveryStore.put updated
                emailSuppressionStore := suppressions
                emailWebhookEventStore :=
                  r.emailWebhookEventStore.put ⟨c.webhookId, updated.tenantId, c.event⟩ }
            simp [webhooks, applyEmailWebhook, hdup, hfound, happly, hput, hres, hpush]

/-- INTERNAL: a call that matched recorded its id.
SOURCE: apps/api/src/repositories/memory.js:319 -/
theorem has_of_matched {r : MemoryRepository} {c : WebhookCall}
    (h : isMatched ((webhooks P).call c r).1 = true) :
    ((webhooks P).call c r).2.emailWebhookEventStore.has c.webhookId = true := by
  obtain ⟨-, hunmatched⟩ | ⟨tenantId, hstore⟩ := recorded_call (P := P) r c
  · rw [h] at hunmatched
    cases hunmatched
  · rw [hstore, Table.has_put]
    simp

/-- INTERNAL: a recorded webhook id stays recorded.
SOURCE: apps/api/src/repositories/memory.js:307-324 -/
theorem has_call {r : MemoryRepository} {c : WebhookCall} {webhookId : String}
    (h : r.emailWebhookEventStore.has webhookId = true) :
    ((webhooks P).call c r).2.emailWebhookEventStore.has webhookId = true := by
  obtain ⟨hstore, -⟩ | ⟨tenantId, hstore⟩ := recorded_call (P := P) r c
  · rw [hstore]
    exact h
  · rw [hstore, Table.has_put, h]
    simp

/-- **Repetitions of matched webhook ids change nothing**, whatever the calls in between do.
SOURCE: apps/api/src/repositories/memory.js:308 -/
theorem run_keptCalls {seen : List String} {r : MemoryRepository} {cs : List WebhookCall}
    (hseen : ∀ webhookId ∈ seen, r.emailWebhookEventStore.has webhookId = true) :
    ((webhooks P).run r (keptCalls P seen r cs)).2 = ((webhooks P).run r cs).2 := by
  induction cs generalizing seen r with
  | nil => rfl
  | cons c cs ih =>
    unfold keptCalls
    by_cases hrepeated : c.webhookId ∈ seen
    · have hsame : ((webhooks P).call c r).2 = r := by
        rw [call_duplicate (hseen _ hrepeated)]
      rw [if_pos hrepeated, Object.run_cons, hsame]
      exact ih hseen
    · rw [if_neg hrepeated]
      simp only [Object.run_cons]
      apply ih
      intro webhookId hmem
      split at hmem
      · rename_i hmatched
        obtain rfl | hold := List.mem_cons.mp hmem
        · exact has_of_matched hmatched
        · exact has_call (hseen _ hold)
      · exact has_call (hseen _ hmem)

/-- INTERNAL: the suppression of a webhook that can be registered is registered.
SOURCE: apps/api/src/repositories/memory.js:314-318 -/
theorem putSuppression_ok {r : MemoryRepository} {delivery updated : EmailDelivery}
    {c : WebhookCall} (hmessage : delivery.hasMessage c.event.emailId = true)
    (happly : applyEmailWebhookStatus P delivery c.event = .ok updated)
    (hregistrable : Registrable P r updated c) :
    ∃ suppressions,
      Effect.exec (putSuppression P updated c.event c.webhookId)
          { r with emailDeliveryStore := r.emailDeliveryStore.put updated } =
        (.ok (), { r with
          emailDeliveryStore := r.emailDeliveryStore.put updated
          emailSuppressionStore := suppressions }) := by
  obtain ⟨hvalid, hsame⟩ := valid_of_applyStatus happly
  cases hreason : suppressionReason c.event.type with
  | none =>
    refine ⟨r.emailSuppressionStore, ?_⟩
    have hnew : createEmailSuppressionFromWebhook P updated c.event c.webhookId = .ok none :=
      createSuppression_none hvalid hreason
    simp [putSuppression, hnew]
  | some reason =>
    obtain ⟨hid, hexisting⟩ := hregistrable reason hreason
    obtain ⟨occurredAt, hocc⟩ := occurredAt_of_applyStatus happly hreason
    obtain ⟨incoming, hnew, hincoming⟩ := createSuppression_some hvalid hreason
      (by rw [EmailDelivery.hasMessage, hsame]; exact hmessage) hocc hid
    have hmerge : ∃ merged, mergeEmailSuppression
        (r.emailSuppressionStore.get incoming.storeKey) incoming = .ok merged := by
      apply merge_ok
      intro existing hget
      rw [EmailSuppression.storeKey, hincoming.tenantId, hincoming.recipient] at hget
      rw [hincoming.tenantId, hincoming.recipient]
      exact hexisting existing hget
    obtain ⟨merged, hmerged⟩ := hmerge
    exact ⟨r.emailSuppressionStore.put merged, by simp [putSuppression, hnew, hmerged]⟩

/-- INTERNAL: a call that can be completed matches, and appends one event, or it changes nothing.
SOURCE: apps/api/src/repositories/memory.js:307-324 -/
theorem call_cases {r : MemoryRepository} {c : WebhookCall} (hcomplete : CanComplete P r c) :
    (isMatched ((webhooks P).call c r).1 = false ∧ ((webhooks P).call c r).2 = r) ∨
    (isMatched ((webhooks P).call c r).1 = true ∧
      ∃ event, ((webhooks P).call c r).2.auditEventStore = r.auditEventStore ++ [event]) := by
  cases hdup : r.emailWebhookEventStore.has c.webhookId with
  | true =>
    rw [call_duplicate hdup]
    exact Or.inl ⟨rfl, rfl⟩
  | false =>
    cases hfound : r.deliveryOfMessage c.event.emailId with
    | none => exact Or.inl (by simp [webhooks, applyEmailWebhook, hdup, hfound, isMatched])
    | some delivery =>
      cases happly : applyEmailWebhookStatus P delivery c.event with
      | error e =>
        exact Or.inl (by simp [webhooks, applyEmailWebhook, hdup, hfound, happly, isMatched])
      | ok updated =>
        right
        obtain ⟨hregistrable, event, hresolve, hnew⟩ :=
          hcomplete delivery updated hdup hfound happly
        obtain ⟨suppressions, hput⟩ :=
          putSuppression_ok (hasMessage_of_deliveryOfMessage hfound) happly hregistrable
        have hpush := exec_pushEvidence_new
          (r := { r with
            emailDeliveryStore := r.emailDeliveryStore.put updated
            emailSuppressionStore := suppressions
            emailWebhookEventStore :=
              r.emailWebhookEventStore.put ⟨c.webhookId, updated.tenantId, c.event⟩ }) hnew
        constructor
        · simp [webhooks, applyEmailWebhook, hdup, hfound, happly, hput, hresolve, hpush, isMatched]
        · exact ⟨event, by
            simp [webhooks, applyEmailWebhook, hdup, hfound, happly, hput, hresolve, hpush]⟩

/-- INTERNAL: a call whose suppression cannot be created has stored the delivery when it throws.
SOURCE: apps/api/src/repositories/memory.js:312-314; packages/email-delivery/src/index.js:83 -/
theorem call_unusable {r : MemoryRepository} {c : WebhookCall} {delivery updated : EmailDelivery}
    {reason : String} (hnew : r.emailWebhookEventStore.has c.webhookId = false)
    (hfound : r.deliveryOfMessage c.event.emailId = some delivery)
    (happly : applyEmailWebhookStatus P delivery c.event = .ok updated)
    (hreason : suppressionReason c.event.type = some reason) (hid : ¬ Required 200 c.webhookId) :
    ∃ error, (webhooks P).call c r =
      (.error error, { r with emailDeliveryStore := r.emailDeliveryStore.put updated }) := by
  cases hcreate : createEmailSuppressionFromWebhook P updated c.event c.webhookId with
  | ok created => exact absurd (createSuppression_eq_some hreason hcreate).1 hid
  | error e =>
    exact ⟨e, by simp [webhooks, applyEmailWebhook, hnew, hfound, happly, putSuppression, hcreate]⟩

/-- INTERNAL: the calls with a recorded webhook id match nothing and contribute nothing.
SOURCE: apps/api/src/repositories/memory.js:308 -/
theorem contributed_recorded {webhookId : String} {r : MemoryRepository} {cs : List WebhookCall}
    (h : r.emailWebhookEventStore.has webhookId = true) :
    contributed P webhookId r cs = [] ∧ webhookId ∉ matchedIds P r cs := by
  induction cs generalizing r with
  | nil => exact ⟨rfl, by simp [matchedIds]⟩
  | cons c cs ih =>
    obtain ⟨hrest, hunmatched⟩ := ih (has_call (c := c) h)
    by_cases hid : c.webhookId = webhookId
    · have hdup := call_duplicate (P := P) (c := c) (hid ▸ h)
      rw [hdup] at hrest hunmatched
      simp [contributed, matchedIds, hid, hdup, hrest, hunmatched, isMatched]
    · refine ⟨by simp [contributed, hid, hrest], ?_⟩
      simp only [matchedIds, List.mem_append, not_or]
      refine ⟨?_, hunmatched⟩
      split
      · simpa using fun heq => hid heq.symm
      · simp

/-- INTERNAL: along a run whose calls can be completed, a matched webhook id contributes one event.
SOURCE: apps/api/src/repositories/memory.js:307-324 -/
theorem contributed_matched {webhookId : String} {r : MemoryRepository} {cs : List WebhookCall}
    (hcomplete : (webhooks P).Meets (CanComplete P) r cs)
    (hmatched : webhookId ∈ matchedIds P r cs) :
    ∃ event, contributed P webhookId r cs = [event] := by
  induction cs generalizing r with
  | nil => simp [matchedIds] at hmatched
  | cons c cs ih =>
    obtain ⟨hhead, htail⟩ := hcomplete
    simp only [matchedIds, List.mem_append] at hmatched
    by_cases hid : c.webhookId = webhookId
    · obtain ⟨hunmatched, hsame⟩ | ⟨hnow, event, hstore⟩ := call_cases hhead
      · have hlater : webhookId ∈ matchedIds P ((webhooks P).call c r).2 cs := by
          simpa [hunmatched] using hmatched
        obtain ⟨event, hevent⟩ := ih htail hlater
        rw [hsame] at hevent
        exact ⟨event, by simp [contributed, hid, hsame, hevent]⟩
      · -- the id is recorded with its event, so no later call contributes another one
        have hrecorded : ((webhooks P).call c r).2.emailWebhookEventStore.has webhookId = true :=
          hid ▸ has_of_matched hnow
        exact ⟨event, by simp [contributed, hid, hstore, (contributed_recorded hrecorded).1]⟩
    · have hlater : webhookId ∈ matchedIds P ((webhooks P).call c r).2 cs := by
        obtain hnow | hlater := hmatched
        · split at hnow
          · exact absurd (List.mem_singleton.mp hnow).symm hid
          · simp at hnow
        · exact hlater
      obtain ⟨event, hevent⟩ := ih htail hlater
      exact ⟨event, by simp [contributed, hid, hevent]⟩

end

/-- The environment of the runs below. -/
def webhookEnvironment : Environment := ⟨lowerCasePlatform, "resend", none⟩

/-- A bounce of the accepted delivery at 3000, under a webhook id. -/
def bouncedCall (webhookId : String) : WebhookCall where
  webhookId := webhookId
  event := ⟨"email.bounced", some "message-1", none, "1970-01-01T00:00:03.000Z", some 3000⟩
  evidence := webhookEvidence webhookEnvironment webhookId
    ⟨"email.bounced", some "message-1", none, "1970-01-01T00:00:03.000Z", some 3000⟩ .bounced

/-- The bounce under a webhook id of 201 characters. -/
def oversizedCall : WebhookCall := bouncedCall (String.ofList (List.replicate 201 'w'))

end Xygo.Analysis
