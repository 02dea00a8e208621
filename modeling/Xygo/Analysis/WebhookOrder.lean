import Xygo.Computation.LatestWins
import Xygo.Analysis.EmailSpec

/-!
# Whether webhooks may arrive in any order

A tracked event updates a delivery unless it is older than what the status of the delivery
rests on, which is the time of the last event taken or, before the first one, the moment the
worker recorded the acceptance. Besides the status, an event may set `deliveredAt` and
`lastError`, and only if it is taken. So the order of arrival does not matter exactly when
the latest event is taken, and what older events would write is written by it or already
there (`converges_iff`).
-/

set_option autoImplicit false

namespace Xygo.Analysis

open Xygo.Computation Xygo.Model

/-- A tracked provider event for a delivery, under the id of its webhook. -/
structure TrackedEvent (delivery : EmailDelivery) where
  webhookId : String
  event : WebhookEvent
  status : EmailDeliveryStatus
  time : Int
  tracked : webhookStatus event.type = some status
  occurred : event.occurredAt = .ok time
  message : event.emailId = delivery.providerMessageId

/-- The deliveries as a register of tracked events. -/
def deliveryRegister (delivery : EmailDelivery) :
    Register EmailDelivery (TrackedEvent delivery) Int where
  time := TrackedEvent.time
  stamp := EmailDelivery.providerStatusAt
  next current e := current.afterEvent e.event e.status e.time
  stamp_next _ _ := rfl

section

variable (P : Platform) (evidence : String → WebhookEvent → EmailDelivery → Evidence)
variable {delivery : EmailDelivery}

/-- Apply webhooks in their order of arrival. -/
def applyAll (r : MemoryRepository) (es : List (TrackedEvent delivery)) : MemoryRepository :=
  es.foldl (fun r e =>
    (Effect.exec (applyEmailWebhook P e.webhookId e.event (evidence e.webhookId e.event)) r).2) r

/-- **What arrival in any order should give**: one record, with the status of the latest event,
and with a delivery time iff one of the events is a delivery.
SOURCE: packages/email-delivery/src/index.js:365-385; apps/api/src/email-webhook.js:32-35 -/
def Converges (r : MemoryRepository) (es : List (TrackedEvent delivery)) : Prop :=
  ∃ final : EmailDelivery,
    (∀ order : List (TrackedEvent delivery), order.Perm es →
      (applyAll P evidence r order).getEmailDeliveryById delivery.id = some final) ∧
    (∀ m ∈ es, (∀ e ∈ es, e.time ≤ m.time) → final.status = m.status) ∧
    (final.deliveredAt.isSome = true ↔ ∃ e ∈ es, e.status = .delivered)

end

/-- What the latest event has to be for the order not to matter: not stale, or without a change
of the status; and for each of the two fields, one that writes it itself, or one that leaves
it as every order must. -/
structure LatestDecides (delivery : EmailDelivery) (es : List (TrackedEvent delivery))
    (m : TrackedEvent delivery) : Prop where
  taken : delivery.isStale m.time = false ∨ m.status = delivery.status
  deliveredAt : (delivery.isStale m.time = false ∧ m.status = .delivered) ∨
    ((delivery.deliveredAt.isSome = true ↔ ∃ e ∈ es, e.status = .delivered) ∧
      ∀ e ∈ es, delivery.isStale e.time = false → e.status = .delivered →
        delivery.deliveredAt = some e.time)
  lastError : (delivery.isStale m.time = false ∧ m.status.isFailure = true) ∨
    ∀ e ∈ es, delivery.isStale e.time = false → e.status.isFailure = true →
      delivery.lastError = some e.event.errorText

/-- When the order of arrival does not matter. -/
def OrderFree (delivery : EmailDelivery) (es : List (TrackedEvent delivery)) : Prop :=
  (es = [] → delivery.deliveredAt = none) ∧
    ∀ m ∈ es, (∀ e ∈ es, e.time ≤ m.time) → LatestDecides delivery es m

section

variable {delivery : EmailDelivery}

/-- INTERNAL: the register's staleness is the one of the source.
SOURCE: packages/email-delivery/src/index.js:372-373 -/
theorem stale_eq (current : EmailDelivery) (e : TrackedEvent delivery) :
    (deliveryRegister delivery).stale current e = current.isStale e.time := by
  rw [Bool.eq_iff_iff]
  unfold Register.stale EmailDelivery.isStale
  cases h : current.providerStatusAt with
  | none => simp [deliveryRegister, h]
  | some t =>
    simp only [deliveryRegister, h, Option.any_some, decide_eq_true_eq]
    exact decide_eq_true_iff

/-- The record with the fields reset that an event writes. -/
def EmailDelivery.core (current : EmailDelivery) : EmailDelivery :=
  { current with
    status := .queued
    providerStatusAt := none
    lastError := none
    updatedAt := 0
    deliveredAt := none }

/-- INTERNAL: two records that agree on those fields and on the others are equal. -/
theorem EmailDelivery.eq_of_core {a b : EmailDelivery}
    (hcore : EmailDelivery.core a = EmailDelivery.core b) (hstatus : a.status = b.status)
    (hstamp : a.providerStatusAt = b.providerStatusAt) (herror : a.lastError = b.lastError)
    (hupdated : a.updatedAt = b.updatedAt) (hdelivered : a.deliveredAt = b.deliveredAt) :
    a = b := by
  cases a
  cases b
  simp only [EmailDelivery.core, EmailDelivery.mk.injEq] at *
  simp_all

/-- INTERNAL: the fields no event writes.
SOURCE: packages/email-delivery/src/index.js:375-384 -/
theorem core_run (current : EmailDelivery) (es : List (TrackedEvent delivery)) :
    EmailDelivery.core ((deliveryRegister delivery).run current es) = EmailDelivery.core current :=
  (deliveryRegister delivery).const_run EmailDelivery.core (fun _ _ => rfl) current es

/-- INTERNAL: when a run leaves the time of delivery as it was.
SOURCE: packages/email-delivery/src/index.js:379 -/
theorem deliveredAt_run {es : List (TrackedEvent delivery)}
    (h : ∀ e ∈ es, delivery.isStale e.time = false → e.status = .delivered →
      delivery.deliveredAt = some e.time) :
    ((deliveryRegister delivery).run delivery es).deliveredAt = delivery.deliveredAt := by
  refine (deliveryRegister delivery).field_run EmailDelivery.deliveredAt
    (fun e => decide (e.status = .delivered)) (fun e => some e.time) ?_ ?_
  · intro s e
    simp [deliveryRegister, EmailDelivery.afterEvent]
  · intro e he hfresh hwrites
    rw [stale_eq] at hfresh
    exact (h e he hfresh (of_decide_eq_true hwrites)).symm

/-- INTERNAL: when a run leaves the last error as it was.
SOURCE: packages/email-delivery/src/index.js:380-382 -/
theorem lastError_run {es : List (TrackedEvent delivery)}
    (h : ∀ e ∈ es, delivery.isStale e.time = false → e.status.isFailure = true →
      delivery.lastError = some e.event.errorText) :
    ((deliveryRegister delivery).run delivery es).lastError = delivery.lastError := by
  refine (deliveryRegister delivery).field_run EmailDelivery.lastError
    (fun e => e.status.isFailure) (fun e => some e.event.errorText) ?_ ?_
  · intro s e
    simp [deliveryRegister, EmailDelivery.afterEvent]
  · intro e he hfresh hwrites
    rw [stale_eq] at hfresh
    exact (h e he hfresh hwrites).symm

/-- INTERNAL: nothing happens to a delivery for which every event is stale. -/
theorem run_of_stale_latest {es order : List (TrackedEvent delivery)} {m : TrackedEvent delivery}
    (hlatest : ∀ e ∈ es, e.time ≤ m.time) (hstale : delivery.isStale m.time = true)
    (hperm : order.Perm es) : (deliveryRegister delivery).run delivery order = delivery := by
  refine (deliveryRegister delivery).run_of_stale fun e he => ?_
  have hle := hlatest e (hperm.mem_iff.mp he)
  rw [stale_eq]
  unfold EmailDelivery.isStale at hstale ⊢
  cases hstamp : delivery.providerStatusAt with
  | none => simp [hstamp] at hstale
  | some t =>
    simp only [hstamp, decide_eq_true_eq] at hstale ⊢
    omega

/-- INTERNAL: the latest event, when it is not stale, makes the last change in any order.
SOURCE: packages/email-delivery/src/index.js:365-385 -/
theorem run_of_fresh_latest {es order : List (TrackedEvent delivery)} {m : TrackedEvent delivery}
    (hmem : m ∈ es) (hlatest : ∀ e ∈ es, e.time ≤ m.time)
    (hdistinct : (es.map TrackedEvent.time).Nodup) (hfresh : delivery.isStale m.time = false)
    (hperm : order.Perm es) :
    ∃ before, (∀ e ∈ before, e ∈ es) ∧ (deliveryRegister delivery).run delivery order =
      ((deliveryRegister delivery).run delivery before).afterEvent m.event m.status m.time := by
  obtain ⟨before, after, rfl⟩ := List.append_of_mem (hperm.mem_iff.mpr hmem)
  have hnodup : ((before ++ m :: after).map TrackedEvent.time).Nodup :=
    (hperm.map TrackedEvent.time).nodup_iff.mpr hdistinct
  refine ⟨before, fun e he => hperm.mem_iff.mp (List.mem_append_left _ he), ?_⟩
  refine (deliveryRegister delivery).run_latest (by rw [stale_eq]; exact hfresh)
    (fun e he => hlatest e (hperm.mem_iff.mp (List.mem_append_left _ he))) fun e he => ?_
  have hle := hlatest e (hperm.mem_iff.mp (List.mem_append_right _ (List.mem_cons_of_mem _ he)))
  have hne : e.time ≠ m.time := by
    rw [List.map_append, List.map_cons] at hnodup
    have hrest := (List.nodup_cons.mp (List.nodup_append.mp hnodup).2.1).1
    intro heq
    exact hrest (heq ▸ List.mem_map_of_mem he)
  exact lt_of_le_of_ne hle hne

/-- INTERNAL: when the order does not matter, every order gives what the latest event makes of
the delivery itself.
SOURCE: packages/email-delivery/src/index.js:365-385 -/
theorem run_eq_of_decides {es order : List (TrackedEvent delivery)} {m : TrackedEvent delivery}
    (hmem : m ∈ es) (hlatest : ∀ e ∈ es, e.time ≤ m.time)
    (hdistinct : (es.map TrackedEvent.time).Nodup) (hfresh : delivery.isStale m.time = false)
    (hdecides : LatestDecides delivery es m) (hperm : order.Perm es) :
    (deliveryRegister delivery).run delivery order =
      delivery.afterEvent m.event m.status m.time := by
  obtain ⟨before, hsub, hrun⟩ := run_of_fresh_latest hmem hlatest hdistinct hfresh hperm
  rw [hrun]
  refine EmailDelivery.eq_of_core ?_ rfl rfl ?_ rfl ?_
  · exact core_run delivery before
  · show (if m.status.isFailure then _ else _) = if m.status.isFailure then _ else _
    obtain ⟨-, hfailure⟩ | hkept := hdecides.lastError
    · rw [if_pos hfailure, if_pos hfailure]
    · rw [lastError_run fun e he => hkept e (hsub e he)]
  · show (if m.status = .delivered then _ else _) = if m.status = .delivered then _ else _
    obtain ⟨-, hdelivered⟩ | ⟨-, hkept⟩ := hdecides.deliveredAt
    · rw [if_pos hdelivered, if_pos hdelivered]
    · rw [deliveredAt_run fun e he => hkept e (hsub e he)]

/-- INTERNAL: an event that is not stale, followed by the latest one.
SOURCE: packages/email-delivery/src/index.js:365-385 -/
theorem run_two_first {m e : TrackedEvent delivery} {rest : List (TrackedEvent delivery)}
    (hfresh : delivery.isStale e.time = false) (hle : e.time ≤ m.time)
    (hrest : ∀ x ∈ rest, x.time < m.time) :
    (deliveryRegister delivery).run delivery (e :: m :: rest) =
      (delivery.afterEvent e.event e.status e.time).afterEvent m.event m.status m.time := by
  rw [Register.run_cons, Register.apply_of_fresh _ (by rw [stale_eq]; exact hfresh)]
  refine (deliveryRegister delivery).run_latest_first ?_ hrest
  rw [stale_eq]
  show decide (m.time < e.time) = false
  simpa using hle

/-- INTERNAL: among distinct times, the events other than the latest one are earlier. -/
theorem lt_of_latest {es rest : List (TrackedEvent delivery)} {m : TrackedEvent delivery}
    (hlatest : ∀ e ∈ es, e.time ≤ m.time) (hdistinct : (es.map TrackedEvent.time).Nodup)
    (hperm : (m :: rest).Perm es) : ∀ x ∈ rest, x.time < m.time := by
  intro x hx
  have hnodup := (hperm.map TrackedEvent.time).nodup_iff.mpr hdistinct
  have hne : x.time ≠ m.time := by
    intro heq
    exact (List.nodup_cons.mp hnodup).1 (heq ▸ List.mem_map_of_mem hx)
  exact lt_of_le_of_ne (hlatest x (hperm.mem_iff.mp (List.mem_cons_of_mem _ hx))) hne

/-- The statement of `Converges` about the register. -/
def RunConverges (delivery : EmailDelivery) (es : List (TrackedEvent delivery)) : Prop :=
  ∃ final : EmailDelivery,
    (∀ order : List (TrackedEvent delivery), order.Perm es →
      (deliveryRegister delivery).run delivery order = final) ∧
    (∀ m ∈ es, (∀ e ∈ es, e.time ≤ m.time) → final.status = m.status) ∧
    (final.deliveredAt.isSome = true ↔ ∃ e ∈ es, e.status = .delivered)

/-- INTERNAL: what convergence says about the latest event when it is not stale: the orders in
which it comes first, or right after another event, give one record.
SOURCE: packages/email-delivery/src/index.js:365-385 -/
theorem decides_of_fresh {es : List (TrackedEvent delivery)} {m : TrackedEvent delivery}
    (hmem : m ∈ es) (hlatest : ∀ e ∈ es, e.time ≤ m.time)
    (hdistinct : (es.map TrackedEvent.time).Nodup) (hfresh : delivery.isStale m.time = false)
    (h : RunConverges delivery es) : LatestDecides delivery es m := by
  obtain ⟨final, horder, -, hdelivered⟩ := h
  obtain ⟨before, after, rfl⟩ := List.append_of_mem hmem
  have hperm : (m :: (before ++ after)).Perm (before ++ m :: after) := List.perm_middle.symm
  have hrest := lt_of_latest hlatest hdistinct hperm
  have hfinal : final = delivery.afterEvent m.event m.status m.time := by
    rw [← horder _ hperm]
    exact (deliveryRegister delivery).run_latest_first (by rw [stale_eq]; exact hfresh) hrest
  -- An event that is not stale may come right before the latest one.
  have hsecond : ∀ e ∈ before ++ after, delivery.isStale e.time = false →
      (delivery.afterEvent e.event e.status e.time).afterEvent m.event m.status m.time = final := by
    intro e he hefresh
    obtain ⟨l, r, hsplit⟩ := List.append_of_mem he
    have hperm' : (e :: m :: (l ++ r)).Perm (before ++ m :: after) := by
      refine (List.Perm.swap m e (l ++ r)).trans (List.Perm.trans ?_ hperm)
      rw [hsplit]
      exact (List.perm_middle.symm).cons m
    rw [← horder _ hperm']
    refine (run_two_first hefresh (hlatest e (hperm'.mem_iff.mp List.mem_cons_self)) ?_).symm
    intro x hx
    refine hrest x ?_
    rw [hsplit]
    rcases List.mem_append.mp hx with hx | hx
    · exact List.mem_append_left _ hx
    · exact List.mem_append_right _ (List.mem_cons_of_mem _ hx)
  have hother : ∀ e ∈ before ++ m :: after, e ≠ m → e ∈ before ++ after := by
    intro e he hne
    rcases List.mem_append.mp he with he | he
    · exact List.mem_append_left _ he
    · rcases List.mem_cons.mp he with rfl | he
      · exact absurd rfl hne
      · exact List.mem_append_right _ he
  refine ⟨Or.inl hfresh, ?_, ?_⟩
  · by_cases hm : m.status = .delivered
    · exact Or.inl ⟨hfresh, hm⟩
    · right
      have hkeep : final.deliveredAt = delivery.deliveredAt := by
        rw [hfinal]
        simp [EmailDelivery.afterEvent, hm]
      refine ⟨by rw [← hkeep]; exact hdelivered, fun e he hefresh hed => ?_⟩
      have he' := hsecond e (hother e he fun heq => hm (heq ▸ hed)) hefresh
      have hfield := congrArg EmailDelivery.deliveredAt he'
      rw [hkeep] at hfield
      rw [← hfield]
      simp [EmailDelivery.afterEvent, hm, hed]
  · cases hm : m.status.isFailure with
    | true => exact Or.inl ⟨hfresh, rfl⟩
    | false =>
      right
      intro e he hefresh hefail
      have hne : e ≠ m := by
        rintro rfl
        rw [hm] at hefail
        cases hefail
      have hfield := congrArg EmailDelivery.lastError (hsecond e (hother e he hne) hefresh)
      rw [hfinal] at hfield
      simpa [EmailDelivery.afterEvent, hm, hefail] using hfield.symm

/-- INTERNAL: the register converges exactly when the order does not matter.
SOURCE: packages/email-delivery/src/index.js:365-385 -/
theorem runConverges_iff {es : List (TrackedEvent delivery)}
    (hdistinct : (es.map TrackedEvent.time).Nodup) :
    RunConverges delivery es ↔ OrderFree delivery es := by
  constructor
  · intro h
    constructor
    · rintro rfl
      obtain ⟨final, horder, -, hdelivered⟩ := h
      obtain rfl : delivery = final := horder [] (List.Perm.refl _)
      simpa using hdelivered
    · intro m hmem hlatest
      cases hstale : delivery.isStale m.time with
      | false => exact decides_of_fresh hmem hlatest hdistinct hstale h
      | true =>
        obtain ⟨final, horder, hstatus, hdelivered⟩ := h
        obtain rfl : delivery = final := by
          rw [← horder es (List.Perm.refl _)]
          exact (run_of_stale_latest hlatest hstale (List.Perm.refl _)).symm
        -- Every event is stale, so nothing is written.
        have hall : ∀ e ∈ es, delivery.isStale e.time ≠ false := by
          intro e he hfresh
          have hle := hlatest e he
          unfold EmailDelivery.isStale at hstale hfresh
          cases hstamp : delivery.providerStatusAt with
          | none => simp [hstamp] at hstale
          | some t =>
            simp only [hstamp, decide_eq_true_eq, decide_eq_false_iff_not] at hstale hfresh
            omega
        exact ⟨Or.inr (hstatus m hmem hlatest).symm,
          Or.inr ⟨hdelivered, fun e he hfresh => absurd hfresh (hall e he)⟩,
          Or.inr fun e he hfresh => absurd hfresh (hall e he)⟩
  · rintro ⟨hempty, hdecides⟩
    by_cases hnil : es = []
    · subst hnil
      refine ⟨delivery, fun order hperm => ?_, by simp, by simp [hempty rfl]⟩
      rw [List.Perm.eq_nil hperm]
      rfl
    · obtain ⟨m, hmem, hlatest⟩ := (deliveryRegister delivery).exists_latest hnil
      have hm := hdecides m hmem hlatest
      have hunique : ∀ m' ∈ es, (∀ e ∈ es, e.time ≤ m'.time) → m' = m := fun m' hmem' hlatest' =>
        List.inj_on_of_nodup_map hdistinct hmem' hmem
          (le_antisymm (hlatest m' hmem') (hlatest' m hmem))
      cases hstale : delivery.isStale m.time with
      | true =>
        refine ⟨delivery, fun order hperm => run_of_stale_latest hlatest hstale hperm, ?_, ?_⟩
        · intro m' hmem' hlatest'
          rw [hunique m' hmem' hlatest']
          exact (hm.taken.resolve_left (by simp [hstale])).symm
        · exact (hm.deliveredAt.resolve_left (by simp [hstale])).1
      | false =>
        refine ⟨delivery.afterEvent m.event m.status m.time, fun order hperm =>
          run_eq_of_decides hmem hlatest hdistinct hstale hm hperm, ?_, ?_⟩
        · intro m' hmem' hlatest'
          rw [hunique m' hmem' hlatest']
          rfl
        · by_cases hd : m.status = .delivered
          · simp only [EmailDelivery.afterEvent, hd, if_true, Option.isSome_some, true_iff]
            exact ⟨m, hmem, hd⟩
          · simp only [EmailDelivery.afterEvent, hd, if_false]
            exact (hm.deliveredAt.resolve_left fun h => hd h.2).1

end

section

variable (P : Platform) (evidence : String → WebhookEvent → EmailDelivery → Evidence)
variable {delivery : EmailDelivery}

/-- INTERNAL: a tracked event does to a valid record what the register does.
SOURCE: packages/email-delivery/src/index.js:365-385 -/
theorem applyStatus_eq_apply {current : EmailDelivery} (e : TrackedEvent delivery)
    (hvalid : assertEmailDelivery P current = .ok current)
    (hmessage : current.hasMessage e.event.emailId = true) :
    applyEmailWebhookStatus P current e.event =
      .ok ((deliveryRegister delivery).apply current e) := by
  unfold applyEmailWebhookStatus Register.apply
  rw [stale_eq, hvalid]
  simp only [bind, Except.bind, e.tracked, hmessage, e.occurred, Bool.not_true, Bool.false_eq_true,
    if_false]
  split
  · rfl
  · rfl

/-- INTERNAL: after webhooks in some order the delivery is what the register makes of it.
SOURCE: apps/api/src/repositories/memory.js:307-324 -/
theorem delivery_applyAll {current : EmailDelivery} {r : MemoryRepository}
    (es : List (TrackedEvent delivery))
    (hfound : r.deliveryOfMessage delivery.providerMessageId = some current)
    (hvalid : assertEmailDelivery P current = .ok current) (hid : current.id = delivery.id)
    (hnew : ∀ e ∈ es, r.emailWebhookEventStore.has e.webhookId = false)
    (hids : (es.map TrackedEvent.webhookId).Nodup) :
    (applyAll P evidence r es).getEmailDeliveryById delivery.id =
      some ((deliveryRegister delivery).run current es) := by
  induction es generalizing current r with
  | nil =>
    show r.emailDeliveryStore.get delivery.id = some current
    rw [← hid]
    exact get_of_deliveryOfMessage hfound
  | cons e es ih =>
    have hmessage : current.hasMessage e.event.emailId = true := by
      rw [e.message]
      exact hasMessage_of_deliveryOfMessage hfound
    have happly := applyStatus_eq_apply P e hvalid hmessage
    have hfound' : r.deliveryOfMessage e.event.emailId = some current := by rw [e.message, hfound]
    obtain ⟨-, hdup | hnone | ⟨d, error, hd, herror⟩⟩ |
        ⟨d, updated, -, hd, hupdated, heffect⟩ :=
      exec_applyEmailWebhook P e.webhookId e.event (evidence e.webhookId e.event) r
    · rw [hnew e List.mem_cons_self] at hdup
      cases hdup
    · rw [hfound'] at hnone
      cases hnone
    · obtain rfl : current = d := Option.some.inj (hfound'.symm.trans hd)
      rw [happly] at herror
      cases herror
    · obtain rfl : current = d := Option.some.inj (hfound'.symm.trans hd)
      obtain rfl : (deliveryRegister delivery).apply current e = updated :=
        Except.ok.inj (happly.symm.trans hupdated)
      have hkeeps : ∀ {γ : Type} (field : EmailDelivery → γ),
          (∀ s x, field ((deliveryRegister delivery).next s x) = field s) →
          field ((deliveryRegister delivery).apply current e) = field current :=
        fun field hfield => (deliveryRegister delivery).const_run field hfield current [e]
      have hid' : ((deliveryRegister delivery).apply current e).id = current.id :=
        hkeeps EmailDelivery.id fun _ _ => rfl
      refine ih (r := (Effect.exec (applyEmailWebhook P e.webhookId e.event
        (evidence e.webhookId e.event)) r).2) ?_ ?_ (hid'.trans hid) ?_ (List.nodup_cons.mp hids).2
      · unfold MemoryRepository.deliveryOfMessage
        rw [heffect.deliveries]
        refine Table.find?_values_put hfound hid' ?_
        show (_ && decide
          (((deliveryRegister delivery).apply current e).providerMessageId = _)) = true
        rw [hkeeps EmailDelivery.providerMessageId fun _ _ => rfl]
        exact hasMessage_of_deliveryOfMessage hfound
      · exact (assertEmailDelivery_eq_ok P).mpr ⟨validDelivery_congr P
          ((assertEmailDelivery_eq_ok P).mp hvalid).1 hid'
          (hkeeps EmailDelivery.tenantId fun _ _ => rfl)
          (hkeeps EmailDelivery.recipientEmail fun _ _ => rfl)
          (hkeeps EmailDelivery.idempotencyKey fun _ _ => rfl), rfl⟩
      · intro x hx
        cases hhas : (Effect.exec (applyEmailWebhook P e.webhookId e.event
            (evidence e.webhookId e.event)) r).2.emailWebhookEventStore.has x.webhookId with
        | false => rfl
        | true =>
          obtain heq | hold := heffect.webhooks x.webhookId hhas
          · exact absurd (heq ▸ List.mem_map_of_mem hx) (List.nodup_cons.mp hids).1
          · rw [hnew x (List.mem_cons_of_mem _ hx)] at hold
            cases hold

/-- **When webhooks may arrive in any order.** For a stored delivery and tracked events with new,
distinct webhook ids and distinct times, every order of arrival gives one record, with the
status of the latest event and a delivery time iff one of them is a delivery, exactly when
`OrderFree` holds.
SOURCE: packages/email-delivery/src/index.js:365-385; apps/api/src/repositories/memory.js:307-324 -/
theorem converges_iff {r : MemoryRepository} {es : List (TrackedEvent delivery)}
    (hstored : r.deliveryOfMessage delivery.providerMessageId = some delivery)
    (hvalid : assertEmailDelivery P delivery = .ok delivery)
    (hnew : ∀ e ∈ es, r.emailWebhookEventStore.has e.webhookId = false)
    (hids : (es.map TrackedEvent.webhookId).Nodup)
    (hdistinct : (es.map TrackedEvent.time).Nodup) :
    Converges P evidence r es ↔ OrderFree delivery es := by
  have hrun : ∀ order : List (TrackedEvent delivery), order.Perm es →
      (applyAll P evidence r order).getEmailDeliveryById delivery.id =
        some ((deliveryRegister delivery).run delivery order) := fun order hperm =>
    delivery_applyAll P evidence order hstored hvalid rfl
      (fun e he => hnew e (hperm.mem_iff.mp he))
      ((hperm.map TrackedEvent.webhookId).nodup_iff.mpr hids)
  rw [← runConverges_iff hdistinct]
  constructor
  · rintro ⟨final, horder, hrest⟩
    exact ⟨final, fun order hperm =>
      Option.some.inj ((hrun order hperm).symm.trans (horder order hperm)), hrest⟩
  · rintro ⟨final, horder, hrest⟩
    exact ⟨final, fun order hperm => by rw [hrun order hperm, horder order hperm], hrest⟩

end

/-- A delivery that the worker recorded as accepted at 2000. -/
def acceptedDelivery : EmailDelivery where
  id := "delivery-1"
  tenantId := "tenant-a"
  recipientUserId := none
  recipientEmail := "client@site.test"
  kind := .reportReady
  resourceType := some "field_report"
  resourceId := some "report-1"
  idempotencyKey := "tenant-a:email:report_ready:report-1"
  status := .accepted
  attempts := 1
  provider := some "resend"
  providerMessageId := some "message-1"
  providerStatusAt := some 2000
  lastError := none
  message := ⟨"Report ready: Site", "Hello", "<p>Hello</p>", "https://portal.site.test/"⟩
  createdAt := 1000
  updatedAt := 2000
  acceptedAt := some 2000
  deliveredAt := none

/-- The repository that holds it. -/
def acceptedRepository : MemoryRepository :=
  { emailDeliveryStore := Table.empty.put acceptedDelivery }

/-- A platform whose digests are not asked for; the address is in lower case. -/
def lowerCasePlatform : Platform := ⟨fun _ => "", fun _ _ => "", id⟩

/-- The provider delivered the message at 3000. -/
def deliveredAt3000 : TrackedEvent acceptedDelivery where
  webhookId := "webhook-1"
  event := ⟨"email.delivered", some "message-1", none, "1970-01-01T00:00:03.000Z", some 3000⟩
  status := .delivered
  time := 3000
  tracked := rfl
  occurred := rfl
  message := rfl

/-- The provider failed at 4000. -/
def failedAt4000 : TrackedEvent acceptedDelivery where
  webhookId := "webhook-2"
  event := ⟨"email.failed", some "message-1", none, "1970-01-01T00:00:04.000Z", some 4000⟩
  status := .failed
  time := 4000
  tracked := rfl
  occurred := rfl
  message := rfl

/-- The provider delayed the message at 2500. -/
def delayedAt2500 : TrackedEvent acceptedDelivery where
  webhookId := "webhook-3"
  event := ⟨"email.delivery_delayed", some "message-1", none, "1970-01-01T00:00:02.500Z",
    some 2500⟩
  status := .delayed
  time := 2500
  tracked := rfl
  occurred := rfl
  message := rfl

/-- `converges_iff` on a delay and the delivery after it. -/
theorem converges_iff_delayed :
    Converges lowerCasePlatform (fun _ _ _ => {}) acceptedRepository
      [delayedAt2500, deliveredAt3000] := by
  refine (converges_iff lowerCasePlatform (fun _ _ _ => {}) (by decide +kernel) (by decide +kernel)
    (by decide +kernel) (by decide +kernel) (by decide +kernel)).mpr ⟨by simp, ?_⟩
  intro m hmem hlatest
  have hm : m = deliveredAt3000 := by
    rcases List.mem_pair.mp hmem with rfl | rfl
    · exact absurd (hlatest deliveredAt3000 (by simp)) (by decide)
    · rfl
  subst hm
  exact ⟨Or.inl (by decide), Or.inl ⟨by decide, rfl⟩, Or.inr (by decide)⟩

/-- **The order of arrival matters.** A delivery that fails after the provider delivered it keeps
its time of delivery only if the older webhook comes first.
SOURCE: packages/email-delivery/src/index.js:373, 379 -/
theorem arrival_order_matters :
    ¬ Converges lowerCasePlatform (fun _ _ _ => {}) acceptedRepository
      [deliveredAt3000, failedAt4000] := by
  rintro ⟨final, horder, -⟩
  have hfirst := horder [deliveredAt3000, failedAt4000] (List.Perm.refl _)
  have hsecond := horder [failedAt4000, deliveredAt3000] (List.Perm.swap _ _ _)
  have hne : (applyAll lowerCasePlatform (fun _ _ _ => {}) acceptedRepository
        [deliveredAt3000, failedAt4000]).getEmailDeliveryById acceptedDelivery.id ≠
      (applyAll lowerCasePlatform (fun _ _ _ => {}) acceptedRepository
        [failedAt4000, deliveredAt3000]).getEmailDeliveryById acceptedDelivery.id := by
    decide +kernel
  exact hne (hfirst.trans hsecond.symm)

end Xygo.Analysis
