import Xygo.Model.EmailBackends
import Xygo.Analysis.WebhookOnce

/-!
# What a finalization leaves behind when it throws

The memory repository stores the delivery, and for a webhook its id too, before it asks for the
evidence. Where the evidence or the suppression throws, what was stored stays; and a webhook whose
evidence threw is a duplicate when it is delivered again. The file repository writes its file last,
and the SQLite repository rolls back: there a call that throws changes nothing.
-/

set_option autoImplicit false

namespace Xygo.Analysis

open Xygo.Computation Xygo.Model

variable (P : Platform)

/-- The suppression of a webhook cannot be created, or not be merged with the stored one. -/
def SuppressionThrows (r : MemoryRepository) (webhookId : String) (event : WebhookEvent)
    (delivery : EmailDelivery) : Prop :=
  ∃ error, (Effect.exec (putSuppression P delivery event webhookId) r).1 = .error error

/-- A call reaches the evidence, and the evidence throws; or it reaches the suppression, and the
suppression throws.
SOURCE: apps/api/src/repositories/memory.js:299-325 -/
def FactoryThrows (r : MemoryRepository) : FinalizationCall → Prop
  | .finalize delivery evidence =>
    r.emailDeliveryStore.has delivery.id = true ∧
      ∃ error, evidence.resolve (r.lastEventHash delivery.tenantId) = .error error
  | .webhook webhookId event evidence =>
    r.emailWebhookEventStore.has webhookId = false ∧
      ∃ delivery updated, r.deliveryOfMessage event.emailId = some delivery ∧
        applyEmailWebhookStatus P delivery event = .ok updated ∧
        (SuppressionThrows P r webhookId event updated ∨
          ∃ error, (evidence updated).resolve (r.lastEventHash updated.tenantId) = .error error)

/-- What the call stores before it throws is stored already: the delivery of a finalization is the
stored one, or the event of a webhook leaves its delivery as it is and its suppression throws. -/
def NothingWritten (r : MemoryRepository) : FinalizationCall → Prop
  | .finalize delivery _ => r.getEmailDeliveryById delivery.id = some delivery
  | .webhook webhookId event _ =>
    ∃ delivery, r.deliveryOfMessage event.emailId = some delivery ∧
      applyEmailWebhookStatus P delivery event = .ok delivery ∧
      SuppressionThrows P r webhookId event delivery

variable {P}

/-- Putting the record that is stored changes nothing, and nothing else does so. -/
theorem put_eq_self_iff {κ β : Type} [DecidableEq κ] {key : β → κ} {t : Table key} {v : β} :
    t.put v = t ↔ t.get (key v) = some v := by
  constructor
  · intro hput
    rw [← hput]
    simp
  · intro hget
    have hhas : t.has (key v) = true := by rw [Table.has, hget]; rfl
    apply Table.ext
    rw [Table.values_put_of_has hhas]
    conv_rhs => rw [← List.map_id t.values]
    apply List.map_congr_left
    intro w hw
    split
    · rename_i hkey
      exact Table.eq_of_key (Table.get_eq_some.mp hget).1 hw hkey.symm
    · rfl

/-- A suppression that throws has written nothing, and what it does depends on the suppressions
only.
SOURCE: apps/api/src/repositories/memory.js:313-318 -/
theorem exec_putSuppression_throws (r : MemoryRepository) {s : MemoryRepository}
    {delivery : EmailDelivery} {event : WebhookEvent} {webhookId : String} {error : JsError}
    (hsame : s.emailSuppressionStore = r.emailSuppressionStore)
    (h : (Effect.exec (putSuppression P delivery event webhookId) r).1 = .error error) :
    Effect.exec (putSuppression P delivery event webhookId) s = (.error error, s) := by
  unfold putSuppression at h ⊢
  simp only [Effect.exec_bind, Effect.exec_lift] at h ⊢
  cases hnew : createEmailSuppressionFromWebhook P delivery event webhookId with
  | error e =>
    simp only [hnew] at h ⊢
    rw [Except.error.inj h]
  | ok incoming =>
    cases incoming with
    | none =>
      simp only [hnew] at h
      cases h
    | some incoming =>
      simp only [hnew, Effect.exec_get, Effect.exec_bind, Effect.exec_lift, hsame] at h ⊢
      cases hmerge : mergeEmailSuppression (r.emailSuppressionStore.get incoming.storeKey)
          incoming with
      | error e =>
        simp only [hmerge] at h ⊢
        rw [Except.error.inj h]
      | ok merged =>
        simp only [hmerge] at h
        cases h

/-- A suppression that does not throw succeeds. -/
theorem exec_putSuppression_ok (r : MemoryRepository) {s : MemoryRepository}
    {delivery : EmailDelivery} {event : WebhookEvent} {webhookId : String}
    (hsame : s.emailSuppressionStore = r.emailSuppressionStore)
    (h : ¬ SuppressionThrows P r webhookId event delivery) :
    ∃ suppressions, Effect.exec (putSuppression P delivery event webhookId) s =
      (.ok (), { s with emailSuppressionStore := suppressions }) := by
  obtain ⟨result, suppressions, hexec⟩ := exec_putSuppression P delivery event webhookId s
  cases result with
  | ok _ => exact ⟨suppressions, hexec⟩
  | error e =>
    have hthrows := exec_putSuppression_throws s hsame.symm (congrArg Prod.fst hexec)
    exact absurd ⟨e, congrArg Prod.fst hthrows⟩ h

/-- Storing a delivery changes nothing where it is the stored one. -/
theorem putDelivery_eq_self_iff {r : MemoryRepository} {delivery : EmailDelivery} :
    { r with emailDeliveryStore := r.emailDeliveryStore.put delivery } = r ↔
      r.emailDeliveryStore.get delivery.id = some delivery := by
  rw [← put_eq_self_iff]
  constructor
  · intro hsame
    exact congrArg MemoryRepository.emailDeliveryStore hsame
  · intro hput
    rw [hput]

/-- A finalization whose evidence throws.
SOURCE: apps/api/src/repositories/memory.js:299-306 -/
theorem call_finalize_throws {r : MemoryRepository} {delivery : EmailDelivery} {evidence : Evidence}
    {error : JsError} (hhas : r.emailDeliveryStore.has delivery.id = true)
    (hthrows : evidence.resolve (r.lastEventHash delivery.tenantId) = .error error) :
    (memoryFinalizations P).call (.finalize delivery evidence) r =
      (.error error, { r with emailDeliveryStore := r.emailDeliveryStore.put delivery }) := by
  simp [memoryFinalizations, finalizeEmailDelivery, hhas, hthrows]

section

variable {r : MemoryRepository} {webhookId : String} {event : WebhookEvent}
  {evidence : EmailDelivery → Evidence} {delivery updated : EmailDelivery}

/-- A webhook whose suppression throws.
SOURCE: apps/api/src/repositories/memory.js:307-319 -/
theorem call_suppression_throws (hnew : r.emailWebhookEventStore.has webhookId = false)
    (hfound : r.deliveryOfMessage event.emailId = some delivery)
    (happly : applyEmailWebhookStatus P delivery event = .ok updated)
    (h : SuppressionThrows P r webhookId event updated) :
    ∃ error, (memoryFinalizations P).call (.webhook webhookId event evidence) r =
      (.error error, { r with emailDeliveryStore := r.emailDeliveryStore.put updated }) := by
  obtain ⟨error, herror⟩ := h
  have hput : Effect.exec (putSuppression P updated event webhookId)
      { r with emailDeliveryStore := r.emailDeliveryStore.put updated } =
        (.error error, { r with emailDeliveryStore := r.emailDeliveryStore.put updated }) :=
    exec_putSuppression_throws r rfl herror
  exact ⟨error, by simp [memoryFinalizations, applyEmailWebhook, hnew, hfound, happly, hput]⟩

/-- A webhook whose evidence throws has stored its id.
SOURCE: apps/api/src/repositories/memory.js:307-323 -/
theorem call_evidence_throws {error : JsError}
    (hnew : r.emailWebhookEventStore.has webhookId = false)
    (hfound : r.deliveryOfMessage event.emailId = some delivery)
    (happly : applyEmailWebhookStatus P delivery event = .ok updated)
    (hsuppression : ¬ SuppressionThrows P r webhookId event updated)
    (herror : (evidence updated).resolve (r.lastEventHash updated.tenantId) = .error error) :
    ∃ t : MemoryRepository, t.emailWebhookEventStore.has webhookId = true ∧
      (memoryFinalizations P).call (.webhook webhookId event evidence) r = (.error error, t) := by
  obtain ⟨suppressions, hput⟩ : ∃ suppressions,
      Effect.exec (putSuppression P updated event webhookId)
        { r with emailDeliveryStore := r.emailDeliveryStore.put updated } =
      (.ok (), { r with
        emailDeliveryStore := r.emailDeliveryStore.put updated
        emailSuppressionStore := suppressions }) :=
    exec_putSuppression_ok r rfl hsuppression
  let t : MemoryRepository := { r with
    emailDeliveryStore := r.emailDeliveryStore.put updated
    emailSuppressionStore := suppressions
    emailWebhookEventStore := r.emailWebhookEventStore.put ⟨webhookId, updated.tenantId, event⟩ }
  refine ⟨t, by simp [t], ?_⟩
  simp [memoryFinalizations, applyEmailWebhook, hnew, hfound, happly, hput, herror, t]

end

/-- **A finalization that throws in memory** changes nothing exactly where it has written
nothing. -/
theorem memory_restores_iff {r : MemoryRepository} {c : FinalizationCall}
    (h : FactoryThrows P r c) :
    (∃ error, ((memoryFinalizations P).call c r).1 = .error error) ∧
      (((memoryFinalizations P).call c r).2 = r ↔ NothingWritten P r c) := by
  cases c with
  | finalize delivery evidence =>
    obtain ⟨hhas, error, hthrows⟩ := h
    rw [call_finalize_throws hhas hthrows]
    exact ⟨⟨error, rfl⟩, putDelivery_eq_self_iff⟩
  | webhook webhookId event evidence =>
    obtain ⟨hnew, delivery, updated, hfound, happly, hthrows⟩ := h
    have hid : updated.id = delivery.id := id_of_applyStatus happly
    have hwritten : NothingWritten P r (.webhook webhookId event evidence) ↔
        updated = delivery ∧ SuppressionThrows P r webhookId event updated := by
      constructor
      · rintro ⟨other, hother, hkept, hsuppression⟩
        obtain rfl := Option.some.inj (hfound.symm.trans hother)
        obtain rfl := Except.ok.inj (happly.symm.trans hkept)
        exact ⟨rfl, hsuppression⟩
      · rintro ⟨rfl, hsuppression⟩
        exact ⟨updated, hfound, happly, hsuppression⟩
    rw [hwritten]
    by_cases hsuppression : SuppressionThrows P r webhookId event updated
    · obtain ⟨error, hcall⟩ := call_suppression_throws hnew hfound happly hsuppression
      rw [hcall]
      refine ⟨⟨error, rfl⟩, putDelivery_eq_self_iff.trans ?_⟩
      rw [hid, get_of_deliveryOfMessage hfound]
      exact ⟨fun hsame => ⟨(Option.some.inj hsame).symm, hsuppression⟩,
        fun hsame => congrArg some hsame.1.symm⟩
    · obtain hthrown | ⟨error, herror⟩ := hthrows
      · exact absurd hthrown hsuppression
      obtain ⟨t, hrecorded, hcall⟩ := call_evidence_throws hnew hfound happly hsuppression herror
      rw [hcall]
      refine ⟨⟨error, rfl⟩, fun hsame => ?_, fun hsame => absurd hsame.2 hsuppression⟩
      rw [show t = r from hsame, hnew] at hrecorded
      cases hrecorded

/-! ### The file and the SQLite repository -/

/-- Finalizing a delivery in the file writes last.
SOURCE: apps/api/src/repositories/file.js:350-360 -/
theorem throwsClean_fileFinalize (delivery : EmailDelivery) (evidence : Evidence) :
    Effect.ThrowsClean (FileRepository.finalizeEmailDelivery delivery evidence) := by
  apply Effect.readsOnly_get.bind
  intro state
  dsimp only
  split
  · exact (Effect.ReadsOnly.bind (fun _ => rfl) fun _ => by
      exact (Effect.readsOnly_lift _).bind fun _ => Effect.throwsClean_set _ _)
  · exact (Effect.readsOnly_lift _).bind fun _ => Effect.throwsClean_set _ _

/-- Applying a webhook to the file writes last.
SOURCE: apps/api/src/repositories/file.js:361-387 -/
theorem throwsClean_fileWebhook (webhookId : String) (event : WebhookEvent)
    (evidence : EmailDelivery → Evidence) :
    Effect.ThrowsClean (FileRepository.applyEmailWebhook P webhookId event evidence) := by
  apply Effect.readsOnly_get.bind
  intro state
  dsimp only
  split
  · exact Effect.throwsClean_pure _
  · split
    · exact Effect.throwsClean_pure _
    · apply (Effect.readsOnly_lift _).bind
      intro updated
      apply (Effect.readsOnly_lift _).bind
      intro incoming
      apply (Effect.readsOnly_lift _).bind
      intro merged
      apply (Effect.readsOnly_lift _).bind
      intro auditEvent
      exact Effect.throwsClean_set _ _

/-- **A call that throws on the file changes nothing.** -/
theorem file_restores {s : FileEmailState} {c : FinalizationCall} {error : JsError}
    (h : ((FileRepository.finalizations P).call c s).1 = .error error) :
    ((FileRepository.finalizations P).call c s).2 = s := by
  cases c with
  | finalize delivery evidence =>
    exact (throwsClean_fileFinalize delivery evidence).map _ s error _ (Prod.ext h rfl)
  | webhook webhookId event evidence =>
    exact (throwsClean_fileWebhook webhookId event evidence).map _ s error _ (Prod.ext h rfl)

/-- The transaction of a finalization ends with its commit.
SOURCE: apps/api/src/repositories/sqlite.js:465-478 -/
theorem throwsInside_finalize (delivery : EmailDelivery) (evidence : Evidence) :
    Transactional.ThrowsInside (do
      Transactional.statements (SqliteRepository.finalizeStatements delivery evidence)
      Transactional.commit
      return delivery : SqliteEmailM EmailDelivery) := by
  apply Transactional.throwsInside_bind_statements
  intro _
  exact Transactional.throwsInside_end _ _

/-- **A call that throws on SQLite changes nothing.**
SOURCE: apps/api/src/repositories/sqlite.js:465-520 -/
theorem sqlite_restores {s : Transactional EmailTables} {c : FinalizationCall} {error : JsError}
    (hclosed : s.began = none)
    (h : ((SqliteRepository.finalizations P).call c s).1 = .error error) :
    ((SqliteRepository.finalizations P).call c s).2 = s := by
  have hmap : ∀ {α β : Type} {m : SqliteEmailM α} (f : α → β),
      (∀ e t, Effect.exec m s = (.error e, t) → t = s) →
        (Effect.exec (f <$> m) s).1 = .error error → (Effect.exec (f <$> m) s).2 = s := by
    intro α β m f hclean herror
    rw [Effect.exec_map] at herror ⊢
    cases hm : Effect.exec m s with
    | mk result t =>
      rw [hm] at herror
      cases result with
      | ok a => cases herror
      | error thrown => exact hclean thrown t hm
  cases c with
  | finalize delivery evidence =>
    exact hmap _ (fun e t hexec =>
      Transactional.transaction_restores (throwsInside_finalize delivery evidence) hclosed hexec) h
  | webhook webhookId event evidence =>
    refine hmap _ (fun e t hexec => Transactional.transaction_restores ?_ hclosed hexec) h
    apply Transactional.throwsInside_bind_statements
    rintro ⟨processed, found⟩
    dsimp only
    split
    · exact Transactional.throwsInside_end _ _
    · cases found with
      | none => exact Transactional.throwsInside_end _ _
      | some delivery =>
        apply Transactional.throwsInside_bind_statements
        intro updated
        exact Transactional.throwsInside_end _ _

/-- **Finalizations that throw.** On the file and on SQLite a call that throws leaves the state as
it was; in memory a call whose evidence or suppression throws does so exactly where it has written
nothing. -/
theorem failed_finalizations_restore (P : Platform) :
    (∀ r c, FactoryThrows P r c →
      (∃ error, ((memoryFinalizations P).call c r).1 = .error error) ∧
        (((memoryFinalizations P).call c r).2 = r ↔ NothingWritten P r c)) ∧
    (∀ s c error, ((FileRepository.finalizations P).call c s).1 = .error error →
      ((FileRepository.finalizations P).call c s).2 = s) ∧
    ∀ s c error, s.began = none →
      ((SqliteRepository.finalizations P).call c s).1 = .error error →
        ((SqliteRepository.finalizations P).call c s).2 = s :=
  ⟨fun _ _ h => memory_restores_iff h, fun _ _ _ h => file_restores h,
    fun _ _ _ hclosed h => sqlite_restores hclosed h⟩

/-- A delivery of the accepted message at 3000, whose evidence throws. -/
def unsignedCall : FinalizationCall :=
  .webhook "webhook-1" deliveredAt3000.event fun _ =>
    { auditEventFactory := some fun _ => .error (newError "The signing key is not available.") }

/-- Evidence throws on the accepted delivery. -/
theorem factoryThrows_unsigned : FactoryThrows lowerCasePlatform acceptedRepository unsignedCall :=
  ⟨rfl, acceptedDelivery, acceptedDelivery.afterEvent deliveredAt3000.event .delivered 3000,
    by decide +kernel, by decide +kernel, Or.inr ⟨_, rfl⟩⟩

/-- `failed_finalizations_restore` on evidence that throws, in the three repositories. -/
theorem failed_finalizations_restore_unsigned :
    (∃ error, ((memoryFinalizations lowerCasePlatform).call unsignedCall acceptedRepository).1 =
      .error error) ∧
    ((FileRepository.finalizations lowerCasePlatform).call unsignedCall
      { emailDeliveries := [acceptedDelivery] }).2 = { emailDeliveries := [acceptedDelivery] } ∧
    ((SqliteRepository.finalizations lowerCasePlatform).call unsignedCall
      ⟨{ emailDeliveries := [⟨"delivery-1", "tenant-a", some "message-1", acceptedDelivery⟩] },
        none⟩).2 =
      ⟨{ emailDeliveries := [⟨"delivery-1", "tenant-a", some "message-1", acceptedDelivery⟩] },
        none⟩ := by
  obtain ⟨hmemory, hfile, hsqlite⟩ := failed_finalizations_restore lowerCasePlatform
  refine ⟨(hmemory acceptedRepository unsignedCall factoryThrows_unsigned).1, ?_, ?_⟩
  · exact hfile _ _ (newError "The signing key is not available.") (by rfl)
  · exact hsqlite _ _ (newError "The signing key is not available.") rfl (by rfl)

/-- **A webhook is lost with its evidence.** In memory the call that throws has stored the webhook's
id, so that the provider's next delivery of the webhook is answered as a duplicate.
SOURCE: apps/api/src/repositories/memory.js:308, 320-322 -/
theorem unsigned_webhook_lost :
    (∃ error, ((memoryFinalizations lowerCasePlatform).call unsignedCall acceptedRepository).1 =
      .error error) ∧
    ((memoryFinalizations lowerCasePlatform).call unsignedCall acceptedRepository).2 ≠
      acceptedRepository ∧
    ((memoryFinalizations lowerCasePlatform).call unsignedCall
      ((memoryFinalizations lowerCasePlatform).call unsignedCall acceptedRepository).2).1 =
        .ok (.webhook ⟨true, none⟩) := by
  obtain ⟨⟨error, herror⟩, hsame⟩ := memory_restores_iff factoryThrows_unsigned
  have hwritten : ¬ NothingWritten lowerCasePlatform acceptedRepository unsignedCall := by
    rintro ⟨delivery, hfound, happly, -⟩
    have haccepted : acceptedRepository.deliveryOfMessage (some "message-1") =
        some acceptedDelivery := by decide +kernel
    obtain rfl := Option.some.inj (haccepted.symm.trans hfound)
    have hchanged : applyEmailWebhookStatus lowerCasePlatform acceptedDelivery
        deliveredAt3000.event ≠ .ok acceptedDelivery := by decide +kernel
    exact hchanged happly
  have hrecorded : ((memoryFinalizations lowerCasePlatform).call unsignedCall
      acceptedRepository).2.emailWebhookEventStore.has "webhook-1" = true := by decide +kernel
  refine ⟨⟨error, herror⟩, fun hrestored => hwritten (hsame.mp hrestored), ?_⟩
  generalize ((memoryFinalizations lowerCasePlatform).call unsignedCall acceptedRepository).2 = t
    at hrecorded
  simp [memoryFinalizations, unsignedCall, applyEmailWebhook, hrecorded]

end Xygo.Analysis
