import Xygo.Computation.Triple
import Xygo.Analysis.EmailIntent
import Xygo.Analysis.TerminalStatus
import Xygo.Model.MailService

/-!
# Whether a suppressed recipient is written to again

A webhook that suppresses a recipient enters them in the registry of the tenant, and an entry
never leaves it or changes who it is about. A handler that reads the registry later finds the
entry, because the address of a stored delivery is the normal one both sides compute, and
from there on its only steps are to store the delivery as suppressed and return, or to die.
-/

set_option autoImplicit false

namespace Xygo.Analysis

open Xygo.Computation Xygo.Model
open EmailDelivery (intent)

section

variable (P : Platform)

/-- An entry of the registry as a webhook makes it.
SOURCE: packages/email-delivery/src/index.js:71-101 -/
structure UsableSuppression (suppression : EmailSuppression) : Prop where
  reason : Required 100 suppression.reason
  recipient : Required 320 suppression.normalizedRecipient
  address : Email.isAddress suppression.normalizedRecipient = true
  normal : normalAddress P suppression.normalizedRecipient = suppression.normalizedRecipient

/-- The stored deliveries are as they were queued, and the entries of the registry usable. -/
structure Sound (r : MemoryRepository) : Prop where
  deliveries : ∀ delivery ∈ r.emailDeliveryStore.values, Queued P delivery
  suppressions : ∀ suppression ∈ r.emailSuppressionStore.values, UsableSuppression P suppression

end

/-- The registry has an entry about the recipient of the tenant, under their key. -/
def Registered (r : MemoryRepository) (tenantId recipient : String) : Prop :=
  ∃ suppression, r.emailSuppressionStore.get (tenantId ++ ":" ++ recipient) = some suppression ∧
    suppression.tenantId = tenantId ∧ suppression.normalizedRecipient = recipient

/-- No delivery and no entry of the registry is lost. -/
structure Grows (r t : MemoryRepository) : Prop where
  deliveries : ∀ id, r.emailDeliveryStore.has id = true → t.emailDeliveryStore.has id = true
  registered : ∀ tenantId recipient,
    Registered r tenantId recipient → Registered t tenantId recipient

/-- What every operation keeps: `t` is sound, and has grown from `r`. -/
structure Advances (P : Platform) (r t : MemoryRepository) : Prop where
  sound : Sound P t
  grows : Grows r t

theorem Grows.refl (r : MemoryRepository) : Grows r r := ⟨fun _ h => h, fun _ _ h => h⟩

theorem Grows.trans {r t u : MemoryRepository} (h : Grows r t) (h' : Grows t u) : Grows r u :=
  ⟨fun id hid => h'.deliveries id (h.deliveries id hid),
    fun tenantId recipient hr => h'.registered tenantId recipient (h.registered _ _ hr)⟩

namespace Advances

variable {P : Platform} {r t u : MemoryRepository}

/-- INTERNAL: other stores do not matter. -/
theorem congr (h : Advances P r t) (hdeliveries : u.emailDeliveryStore = t.emailDeliveryStore)
    (hsuppressions : u.emailSuppressionStore = t.emailSuppressionStore) : Advances P r u := by
  obtain ⟨⟨hvalid, husable⟩, hids, hregistered⟩ := h
  constructor
  · constructor
    · rw [hdeliveries]
      exact hvalid
    · rw [hsuppressions]
      exact husable
  · constructor
    · rw [hdeliveries]
      exact hids
    · unfold Registered at hregistered ⊢
      rw [hsuppressions]
      exact hregistered

/-- INTERNAL: a delivery that is as it was queued can be put. -/
theorem put {delivery : EmailDelivery} (h : Advances P r t) (hqueued : Queued P delivery) :
    Advances P r { t with emailDeliveryStore := t.emailDeliveryStore.put delivery } := by
  constructor
  · constructor
    · intro stored hmem
      obtain rfl | ⟨hold, -⟩ := Table.mem_values_put.mp hmem
      · exact hqueued
      · exact h.sound.deliveries stored hold
    · exact h.sound.suppressions
  · constructor
    · intro id hid
      rw [Table.has_put, h.grows.deliveries id hid, Bool.or_true]
    · exact h.grows.registered

/-- INTERNAL: an entry that merges with the stored one can be put.
SOURCE: apps/api/src/repositories/memory.js:314-318; packages/email-delivery/src/index.js:103-110 -/
theorem putSuppression {incoming merged : EmailSuppression} (h : Advances P r t)
    (husable : UsableSuppression P incoming)
    (hmerge : mergeEmailSuppression (t.emailSuppressionStore.get incoming.storeKey) incoming =
      .ok merged) :
    Advances P r { t with emailSuppressionStore := t.emailSuppressionStore.put merged } ∧
      merged.tenantId = incoming.tenantId ∧
      merged.normalizedRecipient = incoming.normalizedRecipient := by
  have hmerged : UsableSuppression P merged ∧ merged.tenantId = incoming.tenantId ∧
      merged.normalizedRecipient = incoming.normalizedRecipient ∧
      ∀ existing, t.emailSuppressionStore.get incoming.storeKey = some existing →
        existing.tenantId = incoming.tenantId ∧
          existing.normalizedRecipient = incoming.normalizedRecipient := by
    cases hget : t.emailSuppressionStore.get incoming.storeKey with
    | none =>
      rw [hget] at hmerge
      obtain rfl := Except.ok.inj hmerge
      exact ⟨husable, rfl, rfl, fun existing hexisting => by cases hexisting⟩
    | some existing =>
      have hstored := h.sound.suppressions existing (Table.get_eq_some.mp hget).1
      rw [hget] at hmerge
      unfold mergeEmailSuppression at hmerge
      dsimp only at hmerge
      split at hmerge
      · cases hmerge
      · rename_i hsame
        obtain ⟨htenant, hrecipient⟩ := not_or.mp hsame
        have hsame' : existing.tenantId = incoming.tenantId ∧
            existing.normalizedRecipient = incoming.normalizedRecipient :=
          ⟨not_not.mp htenant, not_not.mp hrecipient⟩
        have hall : ∀ e, some existing = some e → e.tenantId = incoming.tenantId ∧
            e.normalizedRecipient = incoming.normalizedRecipient := by
          intro e he
          obtain rfl := Option.some.inj he
          exact hsame'
        split at hmerge
        · obtain rfl := Except.ok.inj hmerge
          exact ⟨hstored, hsame'.1, hsame'.2, hall⟩
        · obtain rfl := Except.ok.inj hmerge
          exact ⟨⟨husable.reason, husable.recipient, husable.address, husable.normal⟩, rfl, rfl,
            hall⟩
  obtain ⟨husable', htenant, hrecipient, hexisting⟩ := hmerged
  have hkey : merged.storeKey = incoming.storeKey := by
    rw [EmailSuppression.storeKey, EmailSuppression.storeKey, htenant, hrecipient]
  refine ⟨⟨⟨h.sound.deliveries, ?_⟩, h.grows.deliveries, ?_⟩, htenant, hrecipient⟩
  · intro suppression hmem
    obtain rfl | ⟨hold, -⟩ := Table.mem_values_put.mp hmem
    · exact husable'
    · exact h.sound.suppressions suppression hold
  · intro tenantId recipient hregistered
    obtain ⟨suppression, hget, hsame⟩ := h.grows.registered tenantId recipient hregistered
    by_cases hk : tenantId ++ ":" ++ recipient = merged.storeKey
    · rw [hk, hkey] at hget
      obtain ⟨htenant', hrecipient'⟩ := hexisting suppression hget
      refine ⟨merged, by simp [hk], ?_, ?_⟩
      · rw [htenant, ← htenant', hsame.1]
      · rw [hrecipient, ← hrecipient', hsame.2]
    · exact ⟨suppression, by simp [hk, hget], hsame⟩

end Advances

section

variable {P : Platform} {r : MemoryRepository}

/-- INTERNAL: the evidence of an operation keeps the deliveries and the registry.
SOURCE: apps/api/src/repositories/memory.js:304, 322 -/
theorem keeps_pushEvidence (event : Option AuditEvent) :
    Effect.Keeps (Advances P r) (pushEvidence event) := by
  refine Effect.Triple.of_exec ?_
  intro t ht
  obtain ⟨events, hpush, -⟩ := exec_pushEvidence event t
  rw [hpush]
  exact ht.congr rfl rfl

/-- INTERNAL: a delivery that is as it was queued can be saved.
SOURCE: apps/api/src/repositories/memory.js:294-298 -/
theorem triple_saveEmailDelivery {delivery : EmailDelivery} (hqueued : Queued P delivery) :
    Effect.Triple (Advances P r) (saveEmailDelivery delivery)
      (fun saved t => Advances P r t ∧ saved = delivery ∧
        t.emailDeliveryStore.has delivery.id = true)
      fun _ => Advances P r := by
  refine Effect.Triple.of_exec ?_
  intro t ht
  rw [exec_saveEmailDelivery]
  cases hhas : t.emailDeliveryStore.has delivery.id with
  | true => exact ⟨ht.put hqueued, rfl, by simp⟩
  | false => exact ht

/-- INTERNAL: a delivery that is as it was queued can be finalized.
SOURCE: apps/api/src/repositories/memory.js:299-306 -/
theorem keeps_finalizeEmailDelivery {delivery : EmailDelivery} (hqueued : Queued P delivery)
    (evidence : Evidence) :
    Effect.Keeps (Advances P r) (finalizeEmailDelivery delivery evidence) := by
  refine Effect.Triple.of_exec ?_
  intro t ht
  obtain hexec | ⟨result, events, hexec, -⟩ := exec_finalizeEmailDelivery delivery evidence t
  · rw [hexec]
    exact ht
  · have hput := (ht.put hqueued).congr
      (u := { t with
        emailDeliveryStore := t.emailDeliveryStore.put delivery
        auditEventStore := t.auditEventStore ++ events }) rfl rfl
    rw [hexec]
    cases result <;> exact hput

/-- INTERNAL: a new delivery that is as it is queued can be created.
SOURCE: apps/api/src/repositories/memory.js:267-280 -/
theorem keeps_createEmailDelivery {delivery : EmailDelivery} (hqueued : Queued P delivery) :
    Effect.Keeps (Advances P r) (createEmailDelivery delivery) := by
  refine Effect.Triple.of_exec ?_
  intro t ht
  cases hexisting : t.emailDeliveryStore.values.find? fun item =>
      item.idempotencyKey = delivery.idempotencyKey with
  | some existing =>
    cases hmatches : emailDeliveryIntentMatches existing delivery <;>
      simpa [createEmailDelivery, hexisting, hmatches] using ht
  | none =>
    cases hhas : t.emailDeliveryStore.has delivery.id with
    | true => simpa [createEmailDelivery, hexisting, hhas] using ht
    | false => simpa [createEmailDelivery, hexisting, hhas] using ht.put hqueued

variable {E : Environment}

/-- INTERNAL: the path for a suppressed recipient keeps the deliveries and the registry.
SOURCE: apps/worker/src/worker.js:53-72 -/
theorem keeps_suppressDelivery {delivery : EmailDelivery} (hqueued : Queued E.platform delivery)
    (event : HandlerEvent) (suppression : EmailSuppression) (now : Int) :
    Effect.Keeps (Advances E.platform r) (suppressDelivery E event delivery suppression now) := by
  apply Effect.Triple.bind_lift (fun _ _ _ h => h)
  intro suppressed hmark
  apply Effect.Triple.bind (keeps_finalizeEmailDelivery
    (hqueued.of_intent (intent_markSuppressed hmark)) _)
  intro _
  exact Effect.Triple.pure fun _ h => h

/-- INTERNAL: the record that is saved before the provider is called.
SOURCE: apps/worker/src/worker.js:75-76 -/
theorem triple_saveSending {delivery : EmailDelivery} (hqueued : Queued E.platform delivery)
    (event : HandlerEvent) (now : Int) :
    Effect.Triple (Advances E.platform r) (saveSending E event delivery now)
      (fun sending t => Advances E.platform r t ∧ Queued E.platform sending ∧
        t.emailDeliveryStore.has sending.id = true)
      fun _ => Advances E.platform r := by
  apply Effect.Triple.bind_lift (fun _ _ _ h => h)
  intro sending hmark
  have hsending := hqueued.of_intent (intent_markSending hmark)
  apply (triple_saveEmailDelivery hsending).weaken (fun _ h => h) _ (fun _ _ h => h)
  rintro saved t ⟨hadvances, rfl, hhas⟩
  exact ⟨hadvances, hsending, hhas⟩

/-- INTERNAL: what follows the provider's answer keeps the deliveries and the registry.
SOURCE: apps/worker/src/worker.js:77-115 -/
theorem keeps_finalizeSent {sending : EmailDelivery} (hqueued : Queued E.platform sending)
    (event : HandlerEvent) (outcome : Except JsError String) (acceptedAt failedAt : Int) :
    Effect.Keeps (Advances E.platform r)
      (finalizeSent E event sending outcome acceptedAt failedAt) := by
  apply Effect.Triple.tryCatch (Y := fun _ => Advances E.platform r)
  · apply Effect.Triple.bind_lift (fun _ _ _ h => h)
    intro id _
    apply Effect.Triple.bind_lift (fun _ _ _ h => h)
    intro accepted hmark
    apply Effect.Triple.bind (keeps_finalizeEmailDelivery
      (hqueued.of_intent (intent_markAccepted hmark)) _)
    intro _
    exact Effect.Triple.pure fun _ h => h
  · intro error
    apply Effect.Triple.bind_lift (fun _ _ _ h => h)
    intro failed hmark
    apply Effect.Triple.bind (keeps_finalizeEmailDelivery
      (hqueued.of_intent (intent_markFailed hmark)) _)
    intro _
    exact Effect.Triple.throw fun _ h => h

/-- INTERNAL: a request keeps the deliveries and the registry.
SOURCE: apps/api/src/repositories/memory.js:336-348 -/
theorem keeps_writeTenantAudit (audit : TenantAudit) (write : AuditWrite)
    (existingEvents : List AuditEvent) (draw : AuditDraw) :
    Effect.Keeps (Advances P r) (writeTenantAudit E audit write existingEvents draw) := by
  apply Effect.Triple.bind_lift (fun _ _ _ h => h)
  intro event _
  cases write with
  | append =>
    refine Effect.Triple.of_exec ?_
    intro t ht
    simpa [appendAuditEvent] using ht.congr (u := { t with
      auditEventStore := t.auditEventStore ++ [event] }) rfl rfl
  | finalizeFile fileRecord =>
    refine Effect.Triple.of_exec ?_
    intro t ht
    cases hhas : t.fileRecordStore.has fileRecord.id with
    | false => simpa [finalizeFileRecord, hhas] using ht
    | true =>
      simpa [finalizeFileRecord, hhas] using ht.congr (u := { t with
        fileRecordStore := t.fileRecordStore.put fileRecord
        auditEventStore := t.auditEventStore ++ [event] }) rfl rfl

/-- INTERNAL: the storing of a delivery keeps the deliveries and the registry.
SOURCE: packages/email-delivery/src/index.js:167-204, 251-254 -/
theorem keeps_enqueueDelivery (laws : LowercaseLaws E.platform)
    (parseUrl : String → Option ParsedUrl) (input : EmailDeliveryInput) (id : String) (now : Int) :
    Effect.Keeps (Advances E.platform r) (enqueueDelivery E parseUrl input id now) := by
  apply Effect.Triple.bind_lift (fun _ _ _ h => h)
  intro delivery hcreate
  apply Effect.Triple.bind_lift (fun _ _ _ h => h)
  intro checked hassert
  apply keeps_createEmailDelivery
  refine ⟨((assertEmailDelivery_eq_ok _).mp hassert).1, ?_⟩
  rw [(createEmailDelivery_ok hcreate).1]
  exact normalAddress_normal laws _

end

/-- Between two repositories nothing changed but what belongs to the tenant of a delivery, and
in the registry nothing but the entry of its recipient. -/
structure Apart (P : Platform) (r t : MemoryRepository) (delivery : EmailDelivery) : Prop where
  deliveries : ∀ id stored, stored.tenantId ≠ delivery.tenantId →
    (t.emailDeliveryStore.get id = some stored ↔ r.emailDeliveryStore.get id = some stored)
  suppressions : ∀ key, key ≠ delivery.tenantId ++ ":" ++ normalAddress P delivery.recipientEmail →
    t.emailSuppressionStore.get key = r.emailSuppressionStore.get key

section

variable {P : Platform} {r : MemoryRepository}

theorem Apart.congr {t u : MemoryRepository} {delivery : EmailDelivery} (h : Apart P r t delivery)
    (hdeliveries : u.emailDeliveryStore = t.emailDeliveryStore)
    (hsuppressions : u.emailSuppressionStore = t.emailSuppressionStore) :
    Apart P r u delivery := by
  constructor
  · rw [hdeliveries]
    exact h.deliveries
  · rw [hsuppressions]
    exact h.suppressions

/-- INTERNAL: putting a record of the same tenant over a stored one. -/
theorem Apart.of_put {delivery updated : EmailDelivery}
    (hstored : r.emailDeliveryStore.get delivery.id = some delivery)
    (hintent : intent updated = intent delivery) :
    Apart P r { r with emailDeliveryStore := r.emailDeliveryStore.put updated } updated := by
  constructor
  · intro id stored hother
    rw [Table.get_put]
    split
    · rename_i hid
      rw [hid, id_of_intent hintent, hstored]
      constructor
      · rintro heq
        exact absurd (congrArg EmailDelivery.tenantId (Option.some.inj heq)).symm hother
      · rintro heq
        rw [tenantId_of_intent hintent] at hother
        exact absurd (congrArg EmailDelivery.tenantId (Option.some.inj heq)).symm hother
    · rfl
  · intro key _
    rfl

/-- INTERNAL: every reason of a webhook is one a mark takes.
SOURCE: packages/email-delivery/src/index.js:39-44 -/
theorem required_reason {type reason : String} (h : suppressionReason type = some reason) :
    Required 100 reason := by
  unfold suppressionReason at h
  split at h
  all_goals cases h
  all_goals exact ⟨by decide, by decide, by decide⟩

/-- INTERNAL: the suppression of a webhook enters its recipient, and changes nothing else.
SOURCE: apps/api/src/repositories/memory.js:314-318; packages/email-delivery/src/index.js:71-110 -/
theorem triple_putSuppression {delivery : EmailDelivery} (hqueued : Queued P delivery)
    (event : WebhookEvent) (webhookId : String) :
    Effect.Triple (fun t => Advances P r t ∧ Apart P r t delivery)
      (putSuppression P delivery event webhookId)
      (fun _ t => Advances P r t ∧ Apart P r t delivery ∧
        ∀ reason, suppressionReason event.type = some reason →
          Registered t delivery.tenantId (normalAddress P delivery.recipientEmail))
      fun _ => Advances P r := by
  apply Effect.Triple.bind_lift (fun _ _ _ h => h.1)
  intro created hcreate
  cases hreason : suppressionReason event.type with
  | none =>
    obtain rfl : none = created :=
      Except.ok.inj ((createSuppression_none hqueued.valid hreason).symm.trans hcreate)
    exact Effect.Triple.pure fun t ht => ⟨ht.1, ht.2, fun reason h => by cases h⟩
  | some reason =>
    obtain ⟨-, incoming, rfl, hincoming⟩ := createSuppression_eq_some hreason hcreate
    have hrecipient : incoming.normalizedRecipient = delivery.recipientEmail :=
      hincoming.recipient.trans hqueued.normal
    have husable : UsableSuppression P incoming := by
      constructor
      · rw [hincoming.reason]
        exact required_reason hreason
      · rw [hrecipient]
        exact hqueued.valid.recipientEmail
      · rw [hincoming.recipient]
        exact hqueued.valid.address
      · rw [hrecipient]
        exact hqueued.normal
    refine Effect.Triple.of_exec ?_
    intro t ht
    cases hmerge : mergeEmailSuppression (t.emailSuppressionStore.get incoming.storeKey)
        incoming with
    | error e => simpa [hmerge] using ht.1
    | ok merged =>
      obtain ⟨hadvances, htenant, hmerged⟩ := ht.1.putSuppression husable hmerge
      have hkey : merged.storeKey =
          delivery.tenantId ++ ":" ++ normalAddress P delivery.recipientEmail := by
        rw [EmailSuppression.storeKey, htenant, hmerged, hincoming.tenantId, hincoming.recipient]
      have hapart : Apart P r { t with
          emailSuppressionStore := t.emailSuppressionStore.put merged } delivery := by
        constructor
        · exact ht.2.deliveries
        · intro key hne
          rw [Table.get_put, if_neg (by rw [hkey]; exact hne)]
          exact ht.2.suppressions key hne
      have hregistered : Registered { t with
          emailSuppressionStore := t.emailSuppressionStore.put merged }
          delivery.tenantId (normalAddress P delivery.recipientEmail) :=
        ⟨merged, by simp [hkey], htenant.trans hincoming.tenantId,
          hmerged.trans hincoming.recipient⟩
      have hall := And.intro hadvances (And.intro hapart hregistered)
      simpa [hmerge] using hall

/-- What a webhook that matched a delivery did.
SOURCE: apps/api/src/repositories/memory.js:307-324 -/
structure Registers (P : Platform) (r t : MemoryRepository) (event : WebhookEvent)
    (delivery : EmailDelivery) : Prop where
  apart : Apart P r t delivery
  registered : ∀ reason, suppressionReason event.type = some reason →
    Registered t delivery.tenantId (normalAddress P delivery.recipientEmail)

/-- INTERNAL: a webhook keeps the deliveries and the registry, and when it matches a delivery of
a recipient to be suppressed, it enters them.
SOURCE: apps/api/src/repositories/memory.js:307-324 -/
theorem triple_applyEmailWebhook (hsound : Sound P r) (webhookId : String) (event : WebhookEvent)
    (evidence : EmailDelivery → Evidence) :
    Effect.Triple (fun t => t = r) (applyEmailWebhook P webhookId event evidence)
      (fun result t => Advances P r t ∧
        ∀ delivery, result.delivery = some delivery → Registers P r t event delivery)
      fun _ => Advances P r := by
  have hstart : Advances P r r := ⟨hsound, Grows.refl r⟩
  apply Effect.Triple.bind (Effect.Triple.get (Q := fun a t => a = r ∧ t = r) fun t ht => ⟨ht, ht⟩)
  intro a
  apply Effect.Triple.assume
  rintro rfl
  apply Effect.Triple.ite
  · intro _
    exact Effect.Triple.pure fun t ht => ⟨ht ▸ hstart, fun delivery h => by cases h⟩
  intro _
  cases hfound : a.deliveryOfMessage event.emailId with
  | none => exact Effect.Triple.pure fun t ht => ⟨ht ▸ hstart, fun delivery h => by cases h⟩
  | some delivery =>
    apply Effect.Triple.bind_lift (fun _ t _ ht => ht ▸ hstart)
    intro updated happly
    have hget := get_of_deliveryOfMessage hfound
    have hintent := intent_applyStatus happly
    have hqueued : Queued P updated :=
      (hsound.deliveries delivery (Table.get_eq_some.mp hget).1).of_intent hintent
    apply Effect.Triple.bind (Effect.Triple.set
      (Q := fun _ t => Advances P a t ∧ Apart P a t updated)
      fun _ _ => ⟨hstart.put hqueued, Apart.of_put hget hintent⟩)
    intro _
    apply Effect.Triple.bind (triple_putSuppression hqueued event webhookId)
    intro _
    apply Effect.Triple.bind (Effect.Triple.update
      (Q := fun _ t => Advances P a t ∧ Registers P a t event updated)
      fun t ht => ⟨ht.1.congr rfl rfl, ht.2.1.congr rfl rfl, ht.2.2⟩)
    intro _
    apply Effect.Triple.bind_lift (fun _ _ _ h => h.1)
    intro auditEvent _
    apply Effect.Triple.bind
      (R := fun _ t => Advances P a t ∧ Registers P a t event updated)
    · refine Effect.Triple.of_exec ?_
      intro t ht
      obtain ⟨events, hpush, -⟩ := exec_pushEvidence auditEvent t
      rw [hpush]
      exact ⟨ht.1.congr rfl rfl, ht.2.apart.congr rfl rfl, ht.2.registered⟩
    intro _
    apply Effect.Triple.pure
    intro t ht
    refine ⟨ht.1, fun d hd => ?_⟩
    obtain rfl := Option.some.inj hd
    exact ht.2

/-- INTERNAL: the same of a verified webhook.
SOURCE: apps/api/src/email-webhook.js:14-44 -/
theorem triple_handleEmailWebhook {E : Environment} (hsound : Sound E.platform r)
    (webhookId : String) (event : WebhookEvent) :
    Effect.Triple (fun t => t = r) (handleEmailWebhook E webhookId event)
      (fun answer t => Advances E.platform r t ∧ ∀ result delivery, answer = .applied result →
        result.delivery = some delivery → Registers E.platform r t event delivery)
      fun _ => Advances E.platform r := by
  have hstart : Advances E.platform r r := ⟨hsound, Grows.refl r⟩
  unfold handleEmailWebhook
  cases webhookStatus event.type with
  | none => exact Effect.Triple.pure fun t ht => ⟨ht ▸ hstart, fun _ _ h => by cases h⟩
  | some status =>
    apply Effect.Triple.ite
    · intro _
      exact Effect.Triple.pure fun t ht => ⟨ht ▸ hstart, fun _ _ h => by cases h⟩
    intro _
    apply Effect.Triple.bind (triple_applyEmailWebhook hsound webhookId event _)
    intro result
    apply Effect.Triple.pure
    rintro t ⟨hadvances, hregisters⟩
    refine ⟨hadvances, fun result' delivery hresult hdelivery => ?_⟩
    obtain rfl := WebhookAnswer.applied.inj hresult
    exact hregisters delivery hdelivery

end

/-- The delivery a run of the handler goes on with. -/
def Handler.held : Handler → Option EmailDelivery
  | .loaded _ delivery => delivery
  | .checked _ delivery _ => some delivery
  | .saved _ sending => some sending
  | .sent _ sending _ => some sending
  | _ => none

/-- What a run of the handler holds is a stored delivery, as it was queued. -/
def Holds (P : Platform) (r : MemoryRepository) (handler : Handler) : Prop :=
  ∀ delivery, Handler.held handler = some delivery →
    Queued P delivery ∧ r.emailDeliveryStore.has delivery.id = true

/-- The invariant of the runs: the repository is sound, and so is what the handlers hold. -/
structure MailSound (P : Platform) (s : Service) : Prop where
  repository : Sound P s.repository
  handlers : ∀ handler ∈ s.handlers, Holds P s.repository handler

section

variable {P : Platform} {r r' : MemoryRepository} {handler next : Handler}

theorem Holds.grow (h : Holds P r handler) (hgrows : Grows r r') : Holds P r' handler :=
  fun delivery hheld => ⟨(h delivery hheld).1, hgrows.deliveries _ (h delivery hheld).2⟩

/-- INTERNAL: an ended run holds nothing. -/
theorem Holds.ofResult (result : Except JsError Unit) : Holds P r (.ofResult result) := by
  intro delivery hheld
  cases result <;> cases hheld

/-- INTERNAL: a repository that advanced, and handlers that each are old or hold what is there. -/
theorem MailSound.advance {s t : Service} (hs : MailSound P s)
    (hadvances : Advances P s.repository t.repository)
    (hnew : ∀ handler ∈ t.handlers, handler ∈ s.handlers ∨ Holds P t.repository handler) :
    MailSound P t ∧ Grows s.repository t.repository := by
  refine ⟨⟨hadvances.sound, fun handler hmem => ?_⟩, hadvances.grows⟩
  obtain hold | hholds := hnew handler hmem
  · exact (hs.handlers handler hold).grow hadvances.grows
  · exact hholds

variable {E : Environment}

/-- INTERNAL: a start of the handler holds what is stored.
SOURCE: apps/worker/src/worker.js:36-40 -/
theorem holds_startHandler (hsound : Sound P r) (event : HandlerEvent) :
    Holds P r (startHandler r event) := by
  intro delivery hheld
  unfold startHandler at hheld
  split at hheld
  · cases hheld
  · have hget : r.emailDeliveryStore.get event.event.aggregateId = some delivery := hheld
    refine ⟨hsound.deliveries delivery (Table.get_eq_some.mp hget).1, ?_⟩
    rw [Table.has, Table.key_of_get hget, hget]
    rfl

/-- INTERNAL: after the read a run holds the same delivery, or has ended.
SOURCE: apps/worker/src/worker.js:41-52 -/
theorem held_afterLoad (h : afterLoad E r handler = some next) {delivery : EmailDelivery}
    (hheld : Handler.held next = some delivery) : Handler.held handler = some delivery := by
  cases handler with
  | loaded event loaded =>
    cases loaded with
    | none =>
      obtain rfl := Option.some.inj h
      cases hheld
    | some loaded =>
      simp only [afterLoad] at h
      split at h
      · obtain rfl := Option.some.inj h
        cases hheld
      · split at h
        · obtain rfl := Option.some.inj h
          cases hheld
        · split at h
          · obtain rfl := Option.some.inj h
            exact hheld
          · obtain rfl := Option.some.inj h
            cases hheld
  | _ => cases h

/-- INTERNAL: after the suppression list the repository has advanced, and a run that goes on
holds the record it saved.
SOURCE: apps/worker/src/worker.js:53-76 -/
theorem holds_afterCheck {now : Int} (hsound : Sound E.platform r)
    (hholds : Holds E.platform r handler) (h : afterCheck E now r handler = some (next, r')) :
    Advances E.platform r r' ∧ Holds E.platform r' next := by
  have hstart : Advances E.platform r r := ⟨hsound, Grows.refl r⟩
  cases handler with
  | checked event delivery suppression =>
    have hqueued := (hholds delivery rfl).1
    cases suppression with
    | some found =>
      obtain ⟨rfl, rfl⟩ := Prod.mk.inj (Option.some.inj h)
      exact ⟨(keeps_suppressDelivery hqueued event found now).store hstart, Holds.ofResult _⟩
    | none =>
      have hsave := triple_saveSending (r := r) hqueued event now
      simp only [afterCheck] at h
      rcases hexec : Effect.exec (saveSending E event delivery now) r with ⟨e | sending, t⟩
      · rw [hexec] at h
        obtain ⟨rfl, rfl⟩ := Prod.mk.inj (Option.some.inj h)
        exact ⟨hsave.of_error hstart hexec, fun copy hheld => by cases hheld⟩
      · rw [hexec] at h
        obtain ⟨rfl, rfl⟩ := Prod.mk.inj (Option.some.inj h)
        obtain ⟨hadvances, hsending, hhas⟩ := hsave.of_ok hstart hexec
        refine ⟨hadvances, fun copy hheld => ?_⟩
        obtain rfl := Option.some.inj hheld
        exact ⟨hsending, hhas⟩
  | _ => cases h

/-- INTERNAL: after the provider's answer the repository has advanced, and the run has ended.
SOURCE: apps/worker/src/worker.js:77-115 -/
theorem holds_afterSend {acceptedAt failedAt : Int} (hsound : Sound E.platform r)
    (hholds : Holds E.platform r handler)
    (h : afterSend E acceptedAt failedAt r handler = some (next, r')) :
    Advances E.platform r r' ∧ Holds E.platform r' next := by
  cases handler with
  | sent event sending outcome =>
    obtain ⟨rfl, rfl⟩ := Prod.mk.inj (Option.some.inj h)
    exact ⟨(keeps_finalizeSent (hholds sending rfl).1 event outcome acceptedAt failedAt).store
      ⟨hsound, Grows.refl r⟩, Holds.ofResult _⟩
  | _ => cases h

variable {parseUrl : String → Option ParsedUrl}

/-- INTERNAL: one run of the handler goes on. -/
theorem mailSound_onHandler {s t : Service} {i : Nat}
    {f : Handler → Option (Handler × MemoryRepository)} (hs : MailSound P s)
    (hf : ∀ handler next r', Holds P s.repository handler → f handler = some (next, r') →
      Advances P s.repository r' ∧ Holds P r' next)
    (h : s.onHandler i f = some t) : MailSound P t ∧ Grows s.repository t.repository := by
  obtain ⟨handler, next, r', hget, hnext, rfl⟩ := onHandler_eq_some h
  obtain ⟨hadvances, hholds⟩ :=
    hf handler next r' (hs.handlers handler (List.mem_of_getElem? hget)) hnext
  apply hs.advance hadvances
  intro other hmem
  obtain hold | rfl := List.mem_or_eq_of_mem_set hmem
  · exact Or.inl hold
  · exact Or.inr hholds

/-- **Every step keeps the invariant**, and loses no delivery and no entry of the registry. -/
theorem mailSound_step (laws : LowercaseLaws E.platform) {s t : Service} {l : MailStep}
    (hs : MailSound E.platform s) (h : (mailService E parseUrl).step s l = some t) :
    MailSound E.platform t ∧ Grows s.repository t.repository := by
  have hstart : Advances E.platform s.repository s.repository :=
    ⟨hs.repository, Grows.refl s.repository⟩
  cases l with
  | enqueue input id now =>
    obtain rfl := Option.some.inj h
    exact hs.advance ((keeps_enqueueDelivery laws parseUrl input id now).store hstart)
      fun handler hmem => Or.inl hmem
  | append event =>
    obtain rfl := Option.some.inj h
    exact hs.advance (hstart.congr rfl rfl) fun handler hmem => Or.inl hmem
  | service step =>
    cases step with
    | deliver event =>
      obtain rfl := Option.some.inj h
      refine hs.advance hstart fun handler hmem => ?_
      obtain hold | hnew := List.mem_append.mp hmem
      · exact Or.inl hold
      · obtain rfl := List.mem_singleton.mp hnew
        exact Or.inr (holds_startHandler hs.repository event)
    | checkSuppression i =>
      apply mailSound_onHandler hs _ h
      intro handler next r' hholds hf
      obtain ⟨next', hload, heq⟩ := Option.map_eq_some_iff.mp hf
      obtain ⟨rfl, rfl⟩ := Prod.mk.inj heq
      exact ⟨hstart, fun delivery hheld => hholds delivery (held_afterLoad hload hheld)⟩
    | save i now =>
      exact mailSound_onHandler hs (fun _ _ _ hholds hf => holds_afterCheck hs.repository hholds hf)
        h
    | send i outcome =>
      apply mailSound_onHandler hs _ h
      intro handler next r' hholds hf
      obtain ⟨next', hsave, heq⟩ := Option.map_eq_some_iff.mp hf
      obtain ⟨rfl, rfl⟩ := Prod.mk.inj heq
      refine ⟨hstart, fun delivery hheld => hholds delivery ?_⟩
      cases handler with
      | saved event sending =>
        obtain rfl := Option.some.inj hsave
        exact hheld
      | _ => cases hsave
    | finalize i acceptedAt failedAt =>
      exact mailSound_onHandler hs (fun _ _ _ hholds hf => holds_afterSend hs.repository hholds hf)
        h
    | crash i =>
      apply mailSound_onHandler hs _ h
      intro handler next r' _ hf
      obtain ⟨rfl, rfl⟩ := Prod.mk.inj (Option.some.inj hf)
      exact ⟨hstart, fun delivery hheld => by cases hheld⟩
    | webhook webhookId event =>
      obtain rfl := Option.some.inj h
      refine hs.advance ?_ fun handler hmem => Or.inl hmem
      have hwebhook := triple_handleEmailWebhook (E := E) hs.repository webhookId event
      rcases hexec : Effect.exec (handleEmailWebhook E webhookId event) s.repository with ⟨e | a, t⟩
      · exact hwebhook.of_error rfl hexec
      · exact (hwebhook.of_ok rfl hexec).1
    | readTail audit write =>
      obtain rfl := Option.some.inj h
      exact hs.advance hstart fun handler hmem => Or.inl hmem
    | writeAudit i draw =>
      have hwrite : s.writeAudit E i draw = some t := h
      unfold Service.writeAudit at hwrite
      split at hwrite
      · rename_i audit write existingEvents _
        obtain rfl := Option.some.inj hwrite
        exact hs.advance ((keeps_writeTenantAudit audit write existingEvents draw).store hstart)
          fun handler hmem => Or.inl hmem
      · cases hwrite

/-- INTERNAL: the same along a run. -/
theorem mailSound_run (laws : LowercaseLaws E.platform) {s t : Service} {ls : List MailStep}
    (hs : MailSound E.platform s) (h : (mailService E parseUrl).run s ls = some t) :
    MailSound E.platform t ∧ Grows s.repository t.repository := by
  refine (mailService E parseUrl).invariant
    (I := fun u => MailSound E.platform u ∧ Grows s.repository u.repository) ?_
    ⟨hs, Grows.refl _⟩ h
  rintro u l w ⟨hu, hgrows⟩ hstep
  obtain ⟨hw, hmore⟩ := mailSound_step laws hu hstep
  exact ⟨hw, hgrows.trans hmore⟩

end

/-- No entry about email is stored, as in the seed of a repository.
SOURCE: apps/api/src/repositories/seed.js:33-35 -/
def EmailFree (r : MemoryRepository) : Prop :=
  r.emailDeliveryStore = .empty ∧ r.emailSuppressionStore = .empty

/-- What becomes of a job whose handler reads the registry after its recipient was entered, once
`later` has happened: its process died; or it returned, because its delivery was settled or
after it was saved; or it holds the suppression, and as soon as it goes on the delivery is
stored as suppressed and the handler returns. -/
def EndsSuppressed (E : Environment) (parseUrl : String → Option ParsedUrl)
    (later : List MailStep) (s : Service) (i : Nat) (delivery : EmailDelivery) : Prop :=
  s.handlers[i]? = some .crashed ∨
  (s.handlers[i]? = some .returned ∧
    (delivery.status.isSettled = true ∨ ∃ now, .service (.save i now) ∈ later)) ∨
  ∃ event suppression, s.handlers[i]? = some (.checked event delivery (some suppression)) ∧
    ∀ now, isValidTime now = true →
      ∃ t, (mailService E parseUrl).step s (.service (.save i now)) = some t ∧
        t.handlers[i]? = some .returned ∧
        ∃ stored, t.repository.getEmailDeliveryById delivery.id = some stored ∧
          stored.status = .suppressed

section

variable {P : Platform} {r : MemoryRepository} {delivery : EmailDelivery}
  {suppression : EmailSuppression}

/-- An entry of the registry about the recipient of a delivery. -/
structure Suppresses (P : Platform) (suppression : EmailSuppression) (delivery : EmailDelivery) :
    Prop where
  usable : UsableSuppression P suppression
  tenantId : suppression.tenantId = delivery.tenantId
  recipient : suppression.normalizedRecipient = delivery.recipientEmail

/-- INTERNAL: an unfinished delivery is marked by an entry about its recipient.
SOURCE: packages/email-delivery/src/index.js:347-363 -/
theorem markSuppressed_ok (attempt : Nat) {now : Int} (hqueued : Queued P delivery)
    (hopen : delivery.status.isTerminal = false) (hentry : Suppresses P suppression delivery)
    (hnow : isValidTime now = true) :
    markEmailDeliverySuppressed P delivery suppression attempt now =
      .ok (delivery.suppressed (trim suppression.reason) attempt now) := by
  have hrecipient : normalizeEmailRecipient P suppression.normalizedRecipient =
      .ok delivery.recipientEmail := by
    have hfixed : delivery.recipientEmail = normalAddress P suppression.normalizedRecipient := by
      rw [hentry.usable.normal, hentry.recipient]
    apply (emailAddress_eq_ok P).mpr
    refine ⟨hentry.usable.recipient, ?_, hfixed⟩
    rw [hentry.usable.normal]
    exact hentry.usable.address
  have htime : toISOString now = .ok now := if_pos hnow
  unfold markEmailDeliverySuppressed
  rw [(assertEmailDelivery_eq_ok P).mpr ⟨hqueued.valid, rfl⟩]
  simp [bind, Except.bind, hopen, hentry.tenantId, hrecipient, htime,
    requiredString_eq_ok.mpr ⟨hentry.usable.reason, rfl⟩, pure, Except.pure]

/-- INTERNAL: a stored delivery is finalized when its evidence can be made.
SOURCE: apps/api/src/repositories/memory.js:299-306 -/
theorem exec_finalize_ok {evidence : Evidence} {event : Option AuditEvent}
    (hhas : r.emailDeliveryStore.has delivery.id = true)
    (hresolve : evidence.resolve (r.lastEventHash delivery.tenantId) = .ok event) :
    ∃ events, Effect.exec (finalizeEmailDelivery delivery evidence) r =
      (.ok delivery, { r with
        emailDeliveryStore := r.emailDeliveryStore.put delivery
        auditEventStore := r.auditEventStore ++ events }) := by
  obtain ⟨events, hpush, -⟩ := exec_pushEvidence event
    { r with emailDeliveryStore := r.emailDeliveryStore.put delivery }
  exact ⟨events, by simp [finalizeEmailDelivery, hhas, hresolve, hpush]⟩

/-- INTERNAL: there is evidence for every step of a worker on a valid delivery.
SOURCE: apps/worker/src/worker.js:57-64 -/
theorem workerEvidence_ok {E : Environment} (hvalid : ValidDelivery E.platform delivery)
    (action : String) (haction : action ≠ "") (suffix : String) (previousHash : Option String) :
    ∃ event, (workerEvidence E delivery action suffix).resolve previousHash = .ok (some event) := by
  obtain ⟨event, hevent, -⟩ := emailAudit_ok
    { action := action, signingKey := E.signingKey, timestamp := isoText delivery.updatedAt,
      suffix := suffix } hvalid haction previousHash
  exact ⟨event, map_eq_ok.mpr ⟨event, hevent, rfl⟩⟩

/-- INTERNAL: an unfinished delivery is stored as suppressed, and the path returns.
SOURCE: apps/worker/src/worker.js:53-72 -/
theorem exec_suppressDelivery {E : Environment} (event : HandlerEvent) {now : Int}
    (hqueued : Queued E.platform delivery) (hopen : delivery.status.isTerminal = false)
    (hentry : Suppresses E.platform suppression delivery) (hnow : isValidTime now = true)
    (hhas : r.emailDeliveryStore.has delivery.id = true) :
    ∃ t, Effect.exec (suppressDelivery E event delivery suppression now) r = (.ok (), t) ∧
      ∃ stored, t.getEmailDeliveryById delivery.id = some stored ∧
        stored.status = .suppressed := by
  have hmark := markSuppressed_ok event.attempt hqueued hopen hentry hnow
  have hmarked := hqueued.of_intent (intent_markSuppressed hmark)
  obtain ⟨evidence, hresolve⟩ := workerEvidence_ok (E := E) hmarked.valid
    "email.delivery.suppressed" (by decide) ("suppression-" ++ suppression.id)
    (r.lastEventHash delivery.tenantId)
  have hsame : r.emailDeliveryStore.has
      (delivery.suppressed (trim suppression.reason) event.attempt now).id = true := hhas
  obtain ⟨events, hfinalize⟩ := exec_finalize_ok hsame hresolve
  have hexec : Effect.exec (suppressDelivery E event delivery suppression now) r =
      (.ok (), { r with
        emailDeliveryStore := r.emailDeliveryStore.put
          (delivery.suppressed (trim suppression.reason) event.attempt now)
        auditEventStore := r.auditEventStore ++ events }) := by
    simp only [suppressDelivery, Effect.exec_bind, Effect.exec_lift, hmark, hfinalize]
    rfl
  refine ⟨_, hexec, delivery.suppressed (trim suppression.reason) event.attempt now, ?_, rfl⟩
  simp [MemoryRepository.getEmailDeliveryById, EmailDelivery.suppressed]

/-- INTERNAL: the registry answers with an entry about the recipient, once there is one.
SOURCE: apps/api/src/repositories/memory.js:288-290 -/
theorem getEmailSuppression_registered (hsound : Sound P r) (hqueued : Queued P delivery)
    (hregistered : Registered r delivery.tenantId delivery.recipientEmail) :
    ∃ suppression, getEmailSuppression P r delivery.tenantId delivery.recipientEmail =
        .ok (some suppression) ∧ Suppresses P suppression delivery := by
  obtain ⟨suppression, hget, htenant, hrecipient⟩ := hregistered
  have hnormalize : normalizeEmailRecipient P delivery.recipientEmail =
      .ok delivery.recipientEmail :=
    (emailAddress_eq_ok P).mpr
      ⟨hqueued.valid.recipientEmail, hqueued.valid.address, hqueued.normal.symm⟩
  refine ⟨suppression, ?_, ?_, htenant, hrecipient⟩
  · simp [getEmailSuppression, hnormalize, bind, Except.bind, hget, pure, Except.pure]
  · exact hsound.suppressions suppression (Table.get_eq_some.mp hget).1

/-- INTERNAL: the registry of another tenant answers as before, about the same recipient.
SOURCE: apps/api/src/repositories/memory.js:288-290 -/
theorem getEmailSuppression_apart {t : MemoryRepository} (hapart : Apart P r t delivery)
    {tenantId address : String} (hother : tenantId ≠ delivery.tenantId)
    (hsame : normalAddress P address = normalAddress P delivery.recipientEmail) :
    getEmailSuppression P t tenantId address = getEmailSuppression P r tenantId address := by
  unfold getEmailSuppression
  cases hnormalize : normalizeEmailRecipient P address with
  | error e => rfl
  | ok recipient =>
    obtain ⟨-, -, rfl⟩ := (emailAddress_eq_ok P).mp hnormalize
    have hkey : tenantId ++ ":" ++ normalAddress P address ≠
        delivery.tenantId ++ ":" ++ normalAddress P delivery.recipientEmail := by
      rw [hsame]
      intro heq
      apply hother
      exact (String.append_left_inj ":").mp ((String.append_left_inj _).mp heq)
    simp only [bind, Except.bind, hapart.suppressions _ hkey]

end

section

variable {E : Environment} {parseUrl : String → Option ParsedUrl}

/-- The run of the handler a step belongs to. -/
def MailStep.handler : MailStep → Option Nat
  | .service step => ServiceStep.handler step
  | _ => none

/-- INTERNAL: a step of another run of the handler. -/
theorem onHandler_kept {s t : Service} {i j : Nat} {handler : Handler}
    {f : Handler → Option (Handler × MemoryRepository)} (h : s.onHandler j f = some t)
    (hi : s.handlers[i]? = some handler) (hne : j ≠ i) : t.handlers[i]? = some handler := by
  obtain ⟨other, next, r', -, -, rfl⟩ := onHandler_eq_some h
  show (s.handlers.set j next)[i]? = some handler
  rw [List.getElem?_set_ne hne]
  exact hi

/-- INTERNAL: a run of the handler stays where it is at the steps of others. -/
theorem handler_kept {s t : Service} {l : MailStep} {i : Nat} {handler : Handler}
    (h : (mailService E parseUrl).step s l = some t) (hi : s.handlers[i]? = some handler)
    (hother : MailStep.handler l ≠ some i) : t.handlers[i]? = some handler := by
  cases l with
  | enqueue input id now =>
    obtain rfl := Option.some.inj h
    exact hi
  | append event =>
    obtain rfl := Option.some.inj h
    exact hi
  | service step =>
    cases step with
    | deliver event =>
      obtain rfl := Option.some.inj h
      show (s.handlers ++ [startHandler s.repository event])[i]? = some handler
      rw [List.getElem?_append_left (List.getElem?_eq_some_iff.mp hi).1]
      exact hi
    | webhook webhookId event =>
      obtain rfl := Option.some.inj h
      exact hi
    | readTail audit write =>
      obtain rfl := Option.some.inj h
      exact hi
    | writeAudit j draw =>
      obtain ⟨r', requests, -, rfl⟩ := writeAudit_eq_some E h
      exact hi
    | checkSuppression j => exact onHandler_kept h hi fun hij => hother (by rw [← hij]; rfl)
    | save j now => exact onHandler_kept h hi fun hij => hother (by rw [← hij]; rfl)
    | send j outcome => exact onHandler_kept h hi fun hij => hother (by rw [← hij]; rfl)
    | finalize j acceptedAt failedAt =>
      exact onHandler_kept h hi fun hij => hother (by rw [← hij]; rfl)
    | crash j => exact onHandler_kept h hi fun hij => hother (by rw [← hij]; rfl)

/-- INTERNAL: what a step of the run `i` of the handler does to it. -/
theorem onHandler_self {s t : Service} {i : Nat} {handler : Handler}
    {f : Handler → Option (Handler × MemoryRepository)} (h : s.onHandler i f = some t)
    (hi : s.handlers[i]? = some handler) :
    ∃ next r', f handler = some (next, r') ∧ t.handlers[i]? = some next := by
  obtain ⟨other, next, r', hget, hf, rfl⟩ := onHandler_eq_some h
  obtain rfl : handler = other := Option.some.inj (hi.symm.trans hget)
  refine ⟨next, r', hf, ?_⟩
  show (s.handlers.set i next)[i]? = some next
  rw [List.getElem?_set_self (List.getElem?_eq_some_iff.mp hi).1]

/-- INTERNAL: a run that returned or died is not resumed. -/
theorem ended_step {s t : Service} {l : MailStep} {i : Nat}
    (h : (mailService E parseUrl).step s l = some t) {handler : Handler}
    (hi : s.handlers[i]? = some handler) (hended : handler = .returned ∨ handler = .crashed) :
    t.handlers[i]? = some handler ∨ t.handlers[i]? = some .crashed := by
  by_cases hother : MailStep.handler l = some i
  · right
    cases l with
    | service step =>
      cases step with
      | crash j =>
        obtain rfl := Option.some.inj hother
        obtain ⟨next, r', hf, ht⟩ := onHandler_self h hi
        obtain ⟨rfl, -⟩ := Prod.mk.inj (Option.some.inj hf)
        exact ht
      | checkSuppression j =>
        obtain rfl := Option.some.inj hother
        obtain ⟨next, r', hf, -⟩ := onHandler_self h hi
        obtain rfl | rfl := hended <;> cases hf
      | save j now =>
        obtain rfl := Option.some.inj hother
        obtain ⟨next, r', hf, -⟩ := onHandler_self h hi
        obtain rfl | rfl := hended <;> cases hf
      | send j outcome =>
        obtain rfl := Option.some.inj hother
        obtain ⟨next, r', hf, -⟩ := onHandler_self h hi
        obtain rfl | rfl := hended <;> cases hf
      | finalize j acceptedAt failedAt =>
        obtain rfl := Option.some.inj hother
        obtain ⟨next, r', hf, -⟩ := onHandler_self h hi
        obtain rfl | rfl := hended <;> cases hf
      | _ => cases hother
    | _ => cases hother
  · exact Or.inl (handler_kept h hi hother)

/-- INTERNAL: nor is it along a run. -/
theorem ended_run {s t : Service} {ls : List MailStep} {i : Nat}
    (h : (mailService E parseUrl).run s ls = some t) {handler : Handler}
    (hi : s.handlers[i]? = some handler) (hended : handler = .returned ∨ handler = .crashed) :
    t.handlers[i]? = some handler ∨ t.handlers[i]? = some .crashed := by
  refine (mailService E parseUrl).invariant
    (I := fun u => u.handlers[i]? = some handler ∨ u.handlers[i]? = some .crashed) ?_
    (Or.inl hi) h
  rintro u l w (hu | hu) hstep
  · exact ended_step hstep hu hended
  · exact Or.inr ((ended_step hstep hu (Or.inr rfl)).elim id id)

theorem EndsSuppressed.cons {later : List MailStep} {s : Service} {i : Nat}
    {delivery : EmailDelivery} (l : MailStep) (h : EndsSuppressed E parseUrl later s i delivery) :
    EndsSuppressed E parseUrl (l :: later) s i delivery := by
  obtain hcrashed | ⟨hreturned, hwhy⟩ | hchecked := h
  · exact Or.inl hcrashed
  · refine Or.inr (Or.inl ⟨hreturned, ?_⟩)
    obtain hsettled | ⟨now, hmem⟩ := hwhy
    · exact Or.inl hsettled
    · exact Or.inr ⟨now, List.mem_cons_of_mem _ hmem⟩
  · exact Or.inr (Or.inr hchecked)

/-- INTERNAL: a save of a job that holds the suppression.
SOURCE: apps/worker/src/worker.js:53-72 -/
theorem save_suppresses {s : Service} (hs : MailSound E.platform s) {i : Nat} {job : HandlerEvent}
    {delivery : EmailDelivery} {suppression : EmailSuppression}
    (hi : s.handlers[i]? = some (.checked job delivery (some suppression)))
    (hentry : Suppresses E.platform suppression delivery)
    (hopen : delivery.status.isTerminal = false) {now : Int} (hnow : isValidTime now = true) :
    ∃ t, (mailService E parseUrl).step s (.service (.save i now)) = some t ∧
      t.handlers[i]? = some .returned ∧
      ∃ stored, t.repository.getEmailDeliveryById delivery.id = some stored ∧
        stored.status = .suppressed := by
  obtain ⟨hqueued, hhas⟩ := hs.handlers _ (List.mem_of_getElem? hi) delivery rfl
  obtain ⟨r', hexec, hstored⟩ :=
    exec_suppressDelivery job hqueued hopen hentry hnow hhas
  refine ⟨{ s with repository := r', handlers := s.handlers.set i .returned }, ?_, ?_, hstored⟩
  · show s.onHandler i (afterCheck E now s.repository) = _
    simp [Service.onHandler, hi, afterCheck, hexec, Handler.ofResult]
  · show (s.handlers.set i .returned)[i]? = some .returned
    rw [List.getElem?_set_self (List.getElem?_eq_some_iff.mp hi).1]

/-- INTERNAL: a job that holds the suppression of its recipient, along a run.
SOURCE: apps/worker/src/worker.js:53-72 -/
theorem checked_run (laws : LowercaseLaws E.platform) {u v : Service} {later : List MailStep}
    {i : Nat} {job : HandlerEvent} {delivery : EmailDelivery} {suppression : EmailSuppression}
    (hu : MailSound E.platform u)
    (hi : u.handlers[i]? = some (.checked job delivery (some suppression)))
    (hentry : Suppresses E.platform suppression delivery)
    (hopen : delivery.status.isTerminal = false)
    (hclock : ∀ now, .service (.save i now) ∈ later → isValidTime now = true)
    (hlater : (mailService E parseUrl).run u later = some v) :
    EndsSuppressed E parseUrl later v i delivery := by
  induction later generalizing u with
  | nil =>
    obtain rfl : u = v := by simpa using hlater
    exact Or.inr (Or.inr ⟨job, suppression, hi,
      fun now hnow => save_suppresses hu hi hentry hopen hnow⟩)
  | cons l ls ih =>
    obtain ⟨t, ht, hrest⟩ := Option.bind_eq_some_iff.mp hlater
    by_cases hother : MailStep.handler l = some i
    · cases l with
      | service step =>
        cases step with
        | save j now =>
          obtain rfl := Option.some.inj hother
          have hnow : isValidTime now = true := hclock now List.mem_cons_self
          obtain ⟨t', ht', hreturned, -⟩ := save_suppresses hu hi hentry hopen hnow
          obtain rfl : t' = t := Option.some.inj (ht'.symm.trans ht)
          obtain hend | hend := ended_run hrest hreturned (Or.inl rfl)
          · exact Or.inr (Or.inl ⟨hend, Or.inr ⟨now, List.mem_cons_self⟩⟩)
          · exact Or.inl hend
        | crash j =>
          obtain rfl := Option.some.inj hother
          obtain ⟨next, r', hf, hcrashed⟩ := onHandler_self ht hi
          obtain ⟨rfl, -⟩ := Prod.mk.inj (Option.some.inj hf)
          exact Or.inl ((ended_run hrest hcrashed (Or.inr rfl)).elim id id)
        | checkSuppression j =>
          obtain rfl := Option.some.inj hother
          obtain ⟨next, r', hf, -⟩ := onHandler_self ht hi
          cases hf
        | send j outcome =>
          obtain rfl := Option.some.inj hother
          obtain ⟨next, r', hf, -⟩ := onHandler_self ht hi
          cases hf
        | finalize j acceptedAt failedAt =>
          obtain rfl := Option.some.inj hother
          obtain ⟨next, r', hf, -⟩ := onHandler_self ht hi
          cases hf
        | _ => cases hother
      | _ => cases hother
    · exact (ih (mailSound_step laws hu ht).1 (handler_kept ht hi hother)
        (fun now hmem => hclock now (List.mem_cons_of_mem _ hmem)) hrest).cons l

/-- INTERNAL: a job with a registered recipient reads the registry.
SOURCE: apps/worker/src/worker.js:41-53 -/
theorem check_registered {u t : Service} (hu : MailSound E.platform u) {i : Nat}
    {job : HandlerEvent} {delivery : EmailDelivery}
    (hi : u.handlers[i]? = some (.loaded job (some delivery)))
    (hjob : job.event.tenantId = some delivery.tenantId)
    (hregistered : Registered u.repository delivery.tenantId delivery.recipientEmail)
    (hstep : (mailService E parseUrl).step u (.service (.checkSuppression i)) = some t) :
    (delivery.status.isSettled = true ∧ t.handlers[i]? = some .returned) ∨
    (delivery.status.isSettled = false ∧ ∃ suppression,
      t.handlers[i]? = some (.checked job delivery (some suppression)) ∧
        Suppresses E.platform suppression delivery) := by
  obtain ⟨hqueued, -⟩ := hu.handlers _ (List.mem_of_getElem? hi) delivery rfl
  obtain ⟨suppression, hread, hentry⟩ :=
    getEmailSuppression_registered hu.repository hqueued hregistered
  obtain ⟨next, r', hf, hnext⟩ := onHandler_self hstep hi
  obtain ⟨next', hload, heq⟩ := Option.map_eq_some_iff.mp hf
  obtain ⟨rfl, -⟩ := Prod.mk.inj heq
  cases hsettled : delivery.status.isSettled with
  | true =>
    left
    simp [afterLoad, hjob, hsettled] at hload
    exact ⟨rfl, by rw [hnext, ← hload]⟩
  | false =>
    right
    simp [afterLoad, hjob, hsettled, hread] at hload
    exact ⟨rfl, suppression, by rw [hnext, ← hload], hentry⟩

/-- What a webhook leaves as it was: the runs of the handler, and for every other tenant the
stored deliveries and what the registry says about the recipient. -/
def LeavesOthers (P : Platform) (s t : Service) (matched : EmailDelivery) : Prop :=
  t.handlers = s.handlers ∧ ∀ tenantId, tenantId ≠ matched.tenantId →
    (∀ id stored, stored.tenantId = tenantId →
      (t.repository.getEmailDeliveryById id = some stored ↔
        s.repository.getEmailDeliveryById id = some stored)) ∧
    ∀ address, normalAddress P address = normalAddress P matched.recipientEmail →
      getEmailSuppression P t.repository tenantId address =
        getEmailSuppression P s.repository tenantId address

/-- **A suppressed recipient is not written to again.** After a webhook that suppresses its
recipient matched a delivery, every handler that reads the registry for the same tenant and
recipient, up to case and surrounding white space, ends its delivery as suppressed, if it was
not settled before, and never comes to a call of the provider; the webhook leaves the other
tenants alone.
SOURCE: apps/worker/src/worker.js:35-76; apps/api/src/repositories/memory.js:288-324;
packages/email-delivery/src/index.js:61-110, 347-363 -/
theorem suppressed_recipient (laws : LowercaseLaws E.platform) {repository : MemoryRepository}
    (hempty : EmailFree repository) {before after later : List MailStep} {s u v : Service}
    {webhookId reason : String} {event : WebhookEvent} {result : WebhookResult}
    {matched delivery : EmailDelivery} {i : Nat} {job : HandlerEvent}
    (hbefore : (mailService E parseUrl).run { repository } before = some s)
    (hreason : suppressionReason event.type = some reason)
    (hanswer : (Effect.exec (handleEmailWebhook E webhookId event) s.repository).1 =
      .ok (.applied result))
    (hmatched : result.delivery = some matched)
    (hafter : (mailService E parseUrl).run s (.service (.webhook webhookId event) :: after) =
      some u)
    (hloaded : u.handlers[i]? = some (.loaded job (some delivery)))
    (hjob : job.event.tenantId = some delivery.tenantId)
    (htenant : delivery.tenantId = matched.tenantId)
    (hrecipient : normalAddress E.platform delivery.recipientEmail =
      normalAddress E.platform matched.recipientEmail)
    (hlater : (mailService E parseUrl).run u (.service (.checkSuppression i) :: later) = some v)
    (hclock : ∀ now, .service (.save i now) ∈ later → isValidTime now = true) :
    EndsSuppressed E parseUrl later v i delivery ∧
      (∀ outcome, (mailService E parseUrl).step v (.service (.send i outcome)) = none) ∧
      LeavesOthers E.platform s
        { s with repository :=
          (Effect.exec (handleEmailWebhook E webhookId event) s.repository).2 } matched := by
  have hstart : MailSound E.platform { repository } := by
    constructor
    · constructor
      · simp [hempty.1]
      · simp [hempty.2]
    · simp
  have hs := (mailSound_run laws hstart hbefore).1
  obtain ⟨t, ht, hrest⟩ := Option.bind_eq_some_iff.mp hafter
  obtain ⟨htsound, -⟩ := mailSound_step laws hs ht
  obtain ⟨husound, hgrows⟩ := mailSound_run laws htsound hrest
  -- The webhook enters the recipient, and the entry stays.
  have hregisters : Registers E.platform s.repository t.repository event matched := by
    obtain rfl := Option.some.inj ht
    have hwebhook := triple_handleEmailWebhook (E := E) hs.repository webhookId event
    exact (hwebhook.of_ok rfl (Prod.ext hanswer rfl)).2 result matched rfl hmatched
  have hregistered : Registered u.repository delivery.tenantId delivery.recipientEmail := by
    have hqueued := (husound.handlers _ (List.mem_of_getElem? hloaded) delivery rfl).1
    rw [htenant, ← hqueued.normal, hrecipient]
    exact hgrows.registered _ _ (hregisters.registered reason hreason)
  -- The handler finds it, and never gets past it.
  obtain ⟨w, hw, hlast⟩ := Option.bind_eq_some_iff.mp hlater
  have hends : EndsSuppressed E parseUrl later v i delivery := by
    obtain ⟨hsettled, hreturned⟩ | ⟨hunsettled, suppression, hchecked, hentry⟩ :=
      check_registered husound hloaded hjob hregistered hw
    · obtain hend | hend := ended_run hlast hreturned (Or.inl rfl)
      · exact Or.inr (Or.inl ⟨hend, Or.inl hsettled⟩)
      · exact Or.inl hend
    · have hopen : delivery.status.isTerminal = false := by
        revert hunsettled
        cases delivery.status <;> decide
      exact checked_run laws (mailSound_step laws husound hw).1 hchecked hentry hopen hclock hlast
  refine ⟨hends, fun outcome => ?_, ?_⟩
  · show v.onHandler i _ = none
    obtain hi | ⟨hi, -⟩ | ⟨_, _, hi, -⟩ := hends <;> simp [Service.onHandler, hi, afterSave]
  · obtain rfl := Option.some.inj ht
    refine ⟨rfl, fun tenantId hother => ⟨fun id stored hstored => ?_, fun address hsame => ?_⟩⟩
    · exact hregisters.apart.deliveries id stored (by rw [hstored]; exact hother)
    · exact getEmailSuppression_apart hregisters.apart hother hsame

end

/-- The delivery a webhook matched. -/
def matchedDelivery : Except JsError WebhookAnswer → Option EmailDelivery
  | .ok (.applied result) => result.delivery
  | _ => none

/-- INTERNAL: an answer with a matched delivery. -/
theorem answer_of_matched {answer : Except JsError WebhookAnswer} {delivery : EmailDelivery}
    (h : matchedDelivery answer = some delivery) :
    ∃ result, answer = .ok (.applied result) ∧ result.delivery = some delivery := by
  cases answer with
  | error e => cases h
  | ok answer =>
    cases answer with
    | applied result => exact ⟨result, rfl, h⟩
    | _ => cases h

/-- The tenant of the job and the delivery of a handler that has just read it. -/
def loadedDelivery : Handler → Option (Option String × EmailDelivery)
  | .loaded job (some delivery) => some (job.event.tenantId, delivery)
  | _ => none

/-- INTERNAL: a handler that has just read its delivery. -/
theorem loaded_of_loadedDelivery {handler : Handler} {tenantId : Option String}
    {delivery : EmailDelivery} (h : loadedDelivery handler = some (tenantId, delivery)) :
    ∃ job, handler = .loaded job (some delivery) ∧ job.event.tenantId = tenantId := by
  cases handler with
  | loaded job loaded =>
    cases loaded with
    | none => cases h
    | some loaded =>
      obtain ⟨rfl, rfl⟩ := Prod.mk.inj (Option.some.inj h)
      exact ⟨job, rfl, rfl⟩
  | _ => cases h

/-- A report for the client of the site, whose address is written in some way. -/
def clientInput (recipientEmail : String) : EmailDeliveryInput where
  tenantId := "tenant-a"
  recipientEmail := recipientEmail
  kind := .reportReady
  templateData := { actionUrl := some "https://site.test/", reportTitle := some "Site" }

/-- The job of a delivery. -/
def clientJob (deliveryId : String) : HandlerEvent where
  event := {
    id := deliveryId ++ "-outbox"
    eventType := "email.delivery.requested"
    aggregateType := "email_delivery"
    aggregateId := deliveryId
    tenantId := some "tenant-a" }
  attempt := 1
  idempotencyKey := "tenant-a:email:report_ready:" ++ deliveryId

/-- The message bounced. -/
def bouncedEvent : WebhookEvent where
  type := "email.bounced"
  emailId := some "message-1"
  createdAt := ⟨"1970-01-01T00:00:03.000Z", some 3000⟩

/-- The URL of the input, parsed. -/
def clientUrl (value : String) : Option ParsedUrl :=
  if value = "https://site.test/" then some ⟨"https:", "", "", "", value⟩ else none

/-- The service with the local sink. -/
def clientService : Machine Service MailStep := mailService sinkEnvironment clientUrl

/-- A first report is queued and accepted. -/
def acceptedRun : List MailStep := [
  .enqueue (clientInput "client@site.test") "delivery-1" 1000,
  .service (.deliver (clientJob "delivery-1")), .service (.checkSuppression 0),
  .service (.save 0 1500), .service (.send 0 (.ok "message-1")), .service (.finalize 0 2000 2000)]

/-- It bounces, and a second one is queued for the same client. -/
def bouncedRun : List MailStep := [
  .service (.webhook "webhook-1" bouncedEvent),
  .enqueue (clientInput " client@site.test ") "delivery-2" 4000,
  .service (.deliver (clientJob "delivery-2"))]

/-- `suppressed_recipient` on a second report after the first one bounced. -/
theorem suppressed_recipient_bounced :
    ∃ s u v matched delivery, clientService.run { repository := {} } acceptedRun = some s ∧
      clientService.run s bouncedRun = some u ∧
      clientService.run u [.service (.checkSuppression 1), .service (.save 1 5000)] = some v ∧
      EndsSuppressed sinkEnvironment clientUrl [.service (.save 1 5000)] v 1 delivery ∧
      LeavesOthers sinkEnvironment.platform s { s with repository := (Effect.exec
        (handleEmailWebhook sinkEnvironment "webhook-1" bouncedEvent) s.repository).2 }
        matched := by
  have hrun : ((clientService.run { repository := {} } acceptedRun).bind fun s =>
      (matchedDelivery (Effect.exec (handleEmailWebhook sinkEnvironment "webhook-1" bouncedEvent)
        s.repository).1).bind fun matched =>
      (clientService.run s bouncedRun).bind fun u =>
      ((u.handlers[1]?).bind loadedDelivery).bind fun loaded =>
      (clientService.run u [.service (.checkSuppression 1), .service (.save 1 5000)]).map fun _ =>
        ((matched.tenantId, matched.recipientEmail),
          loaded.1, loaded.2.tenantId, loaded.2.recipientEmail)) =
      some (("tenant-a", "client@site.test"),
        some "tenant-a", "tenant-a", "client@site.test") := by
    decide +kernel
  obtain ⟨s, hs, hrun⟩ := Option.bind_eq_some_iff.mp hrun
  obtain ⟨matched, hmatched, hrun⟩ := Option.bind_eq_some_iff.mp hrun
  obtain ⟨u, hu, hrun⟩ := Option.bind_eq_some_iff.mp hrun
  obtain ⟨⟨tenantId, delivery⟩, hbind, hrun⟩ := Option.bind_eq_some_iff.mp hrun
  obtain ⟨v, hv, htuple⟩ := Option.map_eq_some_iff.mp hrun
  obtain ⟨⟨htenant, hemail⟩, rfl, htenant', hemail'⟩ : (matched.tenantId = "tenant-a" ∧
      matched.recipientEmail = "client@site.test") ∧ tenantId = some "tenant-a" ∧
      delivery.tenantId = "tenant-a" ∧ delivery.recipientEmail = "client@site.test" := by
    simpa using htuple
  obtain ⟨result, hanswer, hresult⟩ := answer_of_matched hmatched
  obtain ⟨handler, hget, hload⟩ := Option.bind_eq_some_iff.mp hbind
  obtain ⟨job, rfl, hjob⟩ := loaded_of_loadedDelivery hload
  have laws : LowercaseLaws sinkEnvironment.platform := ⟨fun _ => rfl, fun value => trim_trim value⟩
  obtain ⟨hends, -, hothers⟩ := suppressed_recipient laws ⟨rfl, rfl⟩ hs
    rfl hanswer hresult hu hget (by rw [hjob, htenant'])
    (by rw [htenant, htenant']) (by rw [hemail, hemail']) hv (by
      intro now hmem
      obtain rfl : now = 5000 := by simpa using hmem
      decide)
  exact ⟨s, u, v, matched, delivery, hs, hu, hv, hends, hothers⟩

end Xygo.Analysis
