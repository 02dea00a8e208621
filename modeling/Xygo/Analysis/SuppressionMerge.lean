import Xygo.Computation.LatestWins
import Xygo.Analysis.WebhookOrder

/-!
# Suppressions merged in any order

The suppressions of one tenant and recipient, folded with `mergeEmailSuppression`, are a register
in which the latest event wins: whatever the order, the record ends with the content of the latest
event. What it keeps of the first record folded is the time it was created at.
-/

set_option autoImplicit false

namespace Xygo.Analysis

open Xygo.Computation Xygo.Model

/-- The suppression that results when records are merged one after the other. -/
def mergeAll (records : List EmailSuppression) : Except JsError (Option EmailSuppression) :=
  records.foldlM (fun existing incoming => some <$> mergeEmailSuppression existing incoming) none

/-- A record `createEmailSuppressionFromWebhook` makes for a tenant and a recipient. -/
structure FromWebhook (P : Platform) (tenantId recipient : String) (record : EmailSuppression) :
    Prop where
  made : ∃ delivery event webhookId,
    createEmailSuppressionFromWebhook P delivery event webhookId = .ok (some record)
  tenant : record.tenantId = tenantId
  recipient : record.normalizedRecipient = recipient

namespace FromWebhook

variable {P : Platform} {tenantId recipient : String} {record other : EmailSuppression}

/-- The id of a record and its two times. -/
theorem fields (h : FromWebhook P tenantId recipient record) :
    record.id = "email-suppression-" ++ P.sha256 (tenantId ++ "\u0000" ++ recipient) ∧
      record.createdAt = record.updatedAt := by
  obtain ⟨delivery, event, webhookId, hmade⟩ := h.made
  obtain ⟨_, -, hrest⟩ := bind_eq_ok.mp hmade
  cases hreason : suppressionReason event.type with
  | none =>
    rw [hreason] at hrest
    cases hrest
  | some reason =>
    simp only [hreason] at hrest
    split at hrest
    · cases hrest
    · obtain ⟨occurredAt, -, hrest⟩ := bind_eq_ok.mp hrest
      obtain ⟨normalized, -, hrest⟩ := bind_eq_ok.mp hrest
      obtain ⟨provider, -, hrest⟩ := bind_eq_ok.mp hrest
      obtain ⟨providerEventId, -, hret⟩ := bind_eq_ok.mp hrest
      obtain rfl := Option.some.inj (Except.ok.inj hret)
      obtain rfl := h.tenant
      obtain rfl := h.recipient
      exact ⟨rfl, rfl⟩

/-- Two records of one recipient have one id. -/
theorem id_eq (h : FromWebhook P tenantId recipient record)
    (hother : FromWebhook P tenantId recipient other) : record.id = other.id :=
  h.fields.1.trans hother.fields.1.symm

end FromWebhook

/-- The register a suppression is. -/
def suppressionRegister : Register EmailSuppression EmailSuppression Int where
  time := EmailSuppression.updatedAt
  stamp record := some record.updatedAt
  next existing incoming := { incoming with id := existing.id, createdAt := existing.createdAt }
  stamp_next _ _ := rfl

/-- A merge of one recipient is a step of the register. -/
theorem merge_eq_apply {existing incoming : EmailSuppression}
    (htenant : existing.tenantId = incoming.tenantId)
    (hrecipient : existing.normalizedRecipient = incoming.normalizedRecipient) :
    mergeEmailSuppression (some existing) incoming =
      .ok (suppressionRegister.apply existing incoming) := by
  unfold mergeEmailSuppression Register.apply Register.stale suppressionRegister
  simp only [htenant, hrecipient, ne_eq, not_true_eq_false, or_self, if_false, Option.any_some,
    decide_eq_true_eq]
  split <;> rfl

/-- A step keeps the tenant and the recipient, where the incoming record has them. -/
theorem apply_recipient {existing incoming : EmailSuppression}
    (htenant : existing.tenantId = incoming.tenantId)
    (hrecipient : existing.normalizedRecipient = incoming.normalizedRecipient) :
    (suppressionRegister.apply existing incoming).tenantId = incoming.tenantId ∧
      (suppressionRegister.apply existing incoming).normalizedRecipient =
        incoming.normalizedRecipient := by
  unfold Register.apply
  split
  · exact ⟨htenant, hrecipient⟩
  · exact ⟨rfl, rfl⟩

/-- Records merged into a first one are a run of the register. -/
theorem fold_eq_run {tenantId recipient : String} {first : EmailSuppression}
    {rest : List EmailSuppression} (htenant : first.tenantId = tenantId)
    (hrecipient : first.normalizedRecipient = recipient)
    (hrest : ∀ record ∈ rest,
      record.tenantId = tenantId ∧ record.normalizedRecipient = recipient) :
    rest.foldlM (fun existing incoming => some <$> mergeEmailSuppression existing incoming)
        (some first) = .ok (some (suppressionRegister.run first rest)) := by
  induction rest generalizing first with
  | nil => rfl
  | cons incoming rest ih =>
    obtain ⟨hincoming, hincomingRecipient⟩ := hrest incoming List.mem_cons_self
    have htenants : first.tenantId = incoming.tenantId := htenant.trans hincoming.symm
    have hrecipients : first.normalizedRecipient = incoming.normalizedRecipient :=
      hrecipient.trans hincomingRecipient.symm
    have hkept := apply_recipient htenants hrecipients
    rw [List.foldlM_cons, merge_eq_apply htenants hrecipients]
    exact ih (hkept.1.trans hincoming) (hkept.2.trans hincomingRecipient) fun record hrecord =>
      hrest record (List.mem_cons_of_mem _ hrecord)

/-- A run ends with the content of the latest record, under the id and the creation time of the
first one. -/
theorem run_of_latest {first latest : EmailSuppression} {rest : List EmailSuppression}
    (hlatest : latest ∈ first :: rest)
    (hmax : ∀ record ∈ first :: rest, record.updatedAt ≤ latest.updatedAt)
    (hdistinct : (first :: rest).Pairwise fun a b => a.updatedAt ≠ b.updatedAt) :
    suppressionRegister.run first rest =
      { latest with id := first.id, createdAt := first.createdAt } := by
  obtain ⟨hfirst, hpairs⟩ := List.pairwise_cons.mp hdistinct
  obtain rfl | hmem := List.mem_cons.mp hlatest
  · apply suppressionRegister.run_of_stale
    intro record hrecord
    have hle : record.updatedAt ≤ latest.updatedAt := hmax record (List.mem_cons_of_mem _ hrecord)
    have hne := hfirst record hrecord
    have hlt : record.updatedAt < latest.updatedAt := by omega
    exact decide_eq_true hlt
  · obtain ⟨before, after, rfl⟩ := List.append_of_mem hmem
    have hfresh : suppressionRegister.stale first latest = false := by
      have hle := hmax first List.mem_cons_self
      have hnot : ¬ latest.updatedAt < first.updatedAt := by omega
      exact decide_eq_false hnot
    have hafter : ∀ record ∈ after, record.updatedAt < latest.updatedAt := by
      intro record hrecord
      have hle := hmax record (by simp [hrecord])
      have hne := (List.pairwise_cons.mp (List.pairwise_append.mp hpairs).2.1).1 record hrecord
      omega
    have hbefore : ∀ record ∈ before, record.updatedAt ≤ latest.updatedAt := by
      intro record hrecord
      exact hmax record (by simp [hrecord])
    rw [suppressionRegister.run_latest hfresh hbefore hafter]
    have hkeptId : (suppressionRegister.run first before).id = first.id :=
      suppressionRegister.const_run EmailSuppression.id (fun _ _ => rfl) first before
    have hkeptTime : (suppressionRegister.run first before).createdAt = first.createdAt :=
      suppressionRegister.const_run EmailSuppression.createdAt (fun _ _ => rfl) first before
    show { latest with
      id := (suppressionRegister.run first before).id
      createdAt := (suppressionRegister.run first before).createdAt } = _
    rw [hkeptId, hkeptTime]

/-- Records with distinct times are told apart by them. -/
theorem eq_of_updatedAt {records : List EmailSuppression}
    (hdistinct : records.Pairwise fun a b => a.updatedAt ≠ b.updatedAt) {a b : EmailSuppression}
    (ha : a ∈ records) (hb : b ∈ records) (heq : a.updatedAt = b.updatedAt) : a = b :=
  List.inj_on_of_nodup_map (List.pairwise_map.mpr hdistinct) ha hb heq

/-- What merging in some order gives. -/
theorem mergeAll_order {tenantId recipient : String} {records : List EmailSuppression}
    (hall : ∀ record ∈ records,
      record.tenantId = tenantId ∧ record.normalizedRecipient = recipient)
    (hdistinct : records.Pairwise fun a b => a.updatedAt ≠ b.updatedAt) {latest : EmailSuppression}
    (hlatest : latest ∈ records) (hmax : ∀ record ∈ records, record.updatedAt ≤ latest.updatedAt)
    {first : EmailSuppression} {rest : List EmailSuppression}
    (hperm : (first :: rest).Perm records) :
    mergeAll (first :: rest) =
      .ok (some { latest with id := first.id, createdAt := first.createdAt }) := by
  have hmem : ∀ record ∈ first :: rest, record ∈ records := fun record hrecord =>
    hperm.subset hrecord
  have horder : (first :: rest).Pairwise fun a b => a.updatedAt ≠ b.updatedAt :=
    hperm.symm.pairwise hdistinct (fun h => h.symm)
  have hrun := run_of_latest (hperm.symm.subset hlatest)
    (fun record hrecord => hmax record (hmem record hrecord)) horder
  have hfirst := hall first (hmem first List.mem_cons_self)
  have hfold := fold_eq_run hfirst.1 hfirst.2 fun record hrecord =>
    hall record (hmem record (List.mem_cons_of_mem _ hrecord))
  rw [hrun] at hfold
  exact hfold

/-- **Suppressions merge to the latest event.** Whatever the order in which the suppressions of one
tenant and recipient are merged, the result is the latest of them under the id and the creation
time of the first one. For records a webhook makes, whose id names the recipient and which are
created at their event's time, two orders give one record exactly when they begin with the same
one, and the result is as old as the earliest event exactly when that one comes first. -/
theorem suppressions_merge (tenantId recipient : String) (records : List EmailSuppression)
    (hall : ∀ record ∈ records,
      record.tenantId = tenantId ∧ record.normalizedRecipient = recipient)
    (hdistinct : records.Pairwise fun a b => a.updatedAt ≠ b.updatedAt)
    (latest earliest : EmailSuppression)
    (hlatest : latest ∈ records ∧ ∀ record ∈ records, record.updatedAt ≤ latest.updatedAt)
    (hearliest : earliest ∈ records ∧
      ∀ record ∈ records, earliest.updatedAt ≤ record.updatedAt) :
    ∀ first rest, (first :: rest).Perm records →
      mergeAll (first :: rest) =
        .ok (some { latest with id := first.id, createdAt := first.createdAt }) ∧
      ((∃ P, ∀ record ∈ records, FromWebhook P tenantId recipient record) →
        (mergeAll (first :: rest) = .ok (some { latest with createdAt := earliest.updatedAt }) ↔
          first = earliest) ∧
        ∀ other others, (other :: others).Perm records →
          (mergeAll (first :: rest) = mergeAll (other :: others) ↔ first = other)) := by
  intro first rest hperm
  have hfirst : first ∈ records := hperm.subset List.mem_cons_self
  have hmerge := mergeAll_order hall hdistinct hlatest.1 hlatest.2 hperm
  refine ⟨hmerge, ?_⟩
  rintro ⟨P, hmade⟩
  have htime : first.createdAt = first.updatedAt := (hmade first hfirst).fields.2
  constructor
  · rw [hmerge]
    constructor
    · intro heq
      have hcreated : first.createdAt = earliest.updatedAt := by
        injection heq with hsome
        injection hsome with hrecord
        exact congrArg EmailSuppression.createdAt hrecord
      exact eq_of_updatedAt hdistinct hfirst hearliest.1 (htime.symm.trans hcreated)
    · rintro rfl
      rw [htime, (hmade first hfirst).id_eq (hmade latest hlatest.1)]
  · intro other others hother
    have hmem : other ∈ records := hother.subset List.mem_cons_self
    rw [hmerge, mergeAll_order hall hdistinct hlatest.1 hlatest.2 hother]
    constructor
    · intro heq
      have hcreated : first.createdAt = other.createdAt := by
        injection heq with hsome
        injection hsome with hrecord
        have hfield := congrArg EmailSuppression.createdAt hrecord
        exact hfield
      have htimes : first.updatedAt = other.updatedAt := by
        rw [← htime, hcreated, (hmade other hmem).fields.2]
      exact eq_of_updatedAt hdistinct hfirst hmem htimes
    · rintro rfl
      rfl

/-- The message of the delivery bounced at 3000. -/
def bouncedAt3000 : WebhookEvent :=
  ⟨"email.bounced", some "message-1", some "Mailbox full", "1970-01-01T00:00:03.000Z", some 3000⟩

/-- Its recipient complained at 4000. -/
def complainedAt4000 : WebhookEvent :=
  ⟨"email.complained", some "message-1", none, "1970-01-01T00:00:04.000Z", some 4000⟩

/-- The suppression of an event of the accepted delivery. -/
def acceptedSuppression (reason webhookId : String) (time : Int) : EmailSuppression where
  id := "email-suppression-"
  tenantId := "tenant-a"
  normalizedRecipient := "client@site.test"
  recipientUserId := none
  reason := reason
  provider := "resend"
  providerEventId := webhookId
  providerMessageId := some "message-1"
  deliveryId := "delivery-1"
  resourceType := some "field_report"
  resourceId := some "report-1"
  createdAt := time
  updatedAt := time

/-- The bounce and the complaint, as their webhooks make them. -/
theorem acceptedSuppressions_made :
    ∀ record ∈ [acceptedSuppression "bounce" "webhook-1" 3000,
        acceptedSuppression "complaint" "webhook-2" 4000],
      FromWebhook lowerCasePlatform "tenant-a" "client@site.test" record := by
  intro record hrecord
  rcases List.mem_pair.mp hrecord with rfl | rfl
  · exact ⟨⟨acceptedDelivery, bouncedAt3000, "webhook-1", by decide +kernel⟩, rfl, rfl⟩
  · exact ⟨⟨acceptedDelivery, complainedAt4000, "webhook-2", by decide +kernel⟩, rfl, rfl⟩

/-- `suppressions_merge` on the complaint that is processed before the older bounce. -/
theorem suppressions_merge_complaint :
    mergeAll [acceptedSuppression "complaint" "webhook-2" 4000,
        acceptedSuppression "bounce" "webhook-1" 3000] =
      .ok (some (acceptedSuppression "complaint" "webhook-2" 4000)) :=
  (suppressions_merge "tenant-a" "client@site.test"
    [acceptedSuppression "bounce" "webhook-1" 3000,
      acceptedSuppression "complaint" "webhook-2" 4000]
    (by decide) (by decide) (acceptedSuppression "complaint" "webhook-2" 4000)
    (acceptedSuppression "bounce" "webhook-1" 3000) (by decide) (by decide)
    (acceptedSuppression "complaint" "webhook-2" 4000)
    [acceptedSuppression "bounce" "webhook-1" 3000] (List.Perm.swap _ _ _)).1

/-- **The order decides the time of creation.** A bounce and a later complaint, merged in their two
orders, are records of two different creation times. -/
theorem suppression_order_matters :
    (∀ record ∈ [acceptedSuppression "bounce" "webhook-1" 3000,
        acceptedSuppression "complaint" "webhook-2" 4000],
      FromWebhook lowerCasePlatform "tenant-a" "client@site.test" record) ∧
    mergeAll [acceptedSuppression "bounce" "webhook-1" 3000,
        acceptedSuppression "complaint" "webhook-2" 4000] ≠
      mergeAll [acceptedSuppression "complaint" "webhook-2" 4000,
        acceptedSuppression "bounce" "webhook-1" 3000] :=
  ⟨acceptedSuppressions_made, by decide +kernel⟩

end Xygo.Analysis
