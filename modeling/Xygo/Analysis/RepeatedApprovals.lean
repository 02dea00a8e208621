import Xygo.Analysis.QueuedDeliveries
import Xygo.Analysis.ReportAnnouncements
import Xygo.Model.ReportEmails

/-!
# Approving a report again

An approval makes an email for every client of the tenant, under a key made of the tenant, the
report and the user. The email of an earlier approval has the same key, so it must be the same email
to the letter: a user who is called otherwise since, or who has another address, makes the approval
fail. Where every email is the one that is stored, or is new and can be made and queued, an approval
is answered with the approved report, and no user gets two emails about it (`approvals_answered`).
-/

set_option autoImplicit false

namespace Xygo.Analysis

open Xygo.Computation Xygo.Model Xygo.Model.FieldReports

/-- A request to approve a report that has a draft, by one who may. -/
structure IsApproval (s : ReportStores) (request : MailRequest) (report : FieldReport) : Prop where
  asked : ∃ reportId parsed, request.action = .review reportId (some parsed) ∧
    parsed.member? "nextStatus" = some (.string "approved") ∧
    s.repository.getFieldReportById reportId.text = some report
  authorized : authorize request.principal request.tenantId.text "field_report" "update" = none
  own : report.tenantId = request.tenantId.text
  drafted : report.draft.isSome = true

/-- Two emails that tell one user of one report. -/
structure SameReader (a b : EmailDelivery) : Prop where
  kinds : a.kind = .reportReady ∧ b.kind = .reportReady
  tenantId : a.tenantId = b.tenantId
  resourceId : a.resourceId = b.resourceId
  recipientUserId : a.recipientUserId = b.recipientUserId

/-- No two stored emails tell one user of one report. -/
def OnePerReader (s : ReportStores) : Prop :=
  s.repository.emailDeliveryStore.values.Pairwise fun a b => ¬ SameReader a b

/-- Every stored report is staged, as the constructor of a report makes it.
SOURCE: packages/field-reporting/src/index.js:57-59 -/
def StagedReports (r : MemoryRepository) : Prop :=
  ∀ report ∈ r.fieldReportStore.values, report.staged = true

section

variable (P : Platform) (parseUrl : String → Option ParsedUrl) (webAppUrl : String)

/-- An approval is answered with the report, which is approved and stored; and no two emails tell
one user of one report. -/
structure ApprovalAnswered (s : ReportStores) (request : MailRequest) : Prop where
  answered : ∀ report, IsApproval s request report → ∃ approved,
    ((mailApi P parseUrl webAppUrl).call request s).1 = .ok (.answered 200 approved) ∧
      approved.id = report.id ∧ approved.status = .approved ∧
      ((mailApi P parseUrl webAppUrl).call request s).2.repository.getFieldReportById report.id =
        some approved
  once : OnePerReader ((mailApi P parseUrl webAppUrl).call request s).2

/-- The outbox takes an event under a key: no other event is bound to the key, and no other job has
the id of the event.
SOURCE: apps/api/src/reliability/outbox.js:169-181 -/
structure Takes (outbox : OutboxStore) (event : OutboxEvent) (key : String) (now : Int) : Prop where
  job : ∃ job, newJob event (some key) now = .ok job
  room : (outbox.idempotencyKeys.get (trim key) = none ∧
      outbox.items.has (trim event.id) = false) ∨
    ∃ existing, (outbox.idempotencyKeys.get (trim key)).bind outbox.items.get = some existing ∧
      sameLogicalEvent existing event = true

/-- The stored email with the key of another.
SOURCE: apps/api/src/repositories/memory.js:268-269 -/
def storedUnder (r : MemoryRepository) (delivery : EmailDelivery) : Option EmailDelivery :=
  r.emailDeliveryStore.values.find? fun item => item.idempotencyKey = delivery.idempotencyKey

/-- An email that can be stored and queued. -/
structure NewEmail (s : ReportStores) (delivery : EmailDelivery) (enqueuedAt : Int) : Prop where
  unknown : storedUnder s.repository delivery = none
  unread : ∀ item ∈ s.repository.emailDeliveryStore.values, ¬ SameReader item delivery
  free : s.repository.emailDeliveryStore.has delivery.id = false
  valid : ValidDelivery P delivery
  takes : Takes s.outbox (requestedEvent delivery) delivery.idempotencyKey enqueuedAt

/-- The email of a user can be made, and it is the one that is stored under its key or a new one. -/
def Mailable (s : ReportStores) (request : MailRequest) (report : FieldReport) (user : User) :
    Prop :=
  ∃ delivery, reportEmail P parseUrl webAppUrl request report user = .ok delivery ∧
    ((∃ existing, storedUnder s.repository delivery = some existing ∧
        emailDeliveryIntentMatches existing delivery = true) ∨
      NewEmail P s delivery (request.emailDraw user).enqueuedAt)

/-- What an approval needs: the outbox takes the job of the review, the recipients have different
ids, and each of them can be written to; the id that is drawn for the job is not that of an email's
job. -/
structure Approvable (s : ReportStores) (request : MailRequest) (report : FieldReport) : Prop where
  announced : ∀ event,
    transitionEvent request.toReportRequest "api.field_report.reviewed" report = .ok event →
    Takes s.outbox event (outboxKey request.tenantId.text "api.field_report.reviewed" report.id
      (some "approved")) request.enqueuedAt
  readers : ((recipients request.directory).map fun user => trim user.id).Nodup
  mailable : ∀ user ∈ recipients request.directory,
    Mailable P parseUrl webAppUrl s request report user
  drawn : ∀ user ∈ recipients request.directory, ∀ delivery,
    reportEmail P parseUrl webAppUrl request report user = .ok delivery →
    trim request.outboxDraw.id ≠ trim (delivery.id ++ "-outbox")

/-- Where a request is an approval, it has what it needs. -/
def MeetsNeeds (s : ReportStores) (request : MailRequest) : Prop :=
  ∀ report, IsApproval s request report → Approvable P parseUrl webAppUrl s request report

end

/-! ## Texts -/

/-- White space goes only up to a character that is none. -/
theorem dropWhile_mark {left right : List Char} {c : Char} (hc : isWhitespace c = false) :
    (left ++ c :: right).dropWhile isWhitespace =
      left.dropWhile isWhitespace ++ c :: right := by
  rw [List.dropWhile_append]
  split
  · rename_i hempty
    rw [List.isEmpty_iff.mp hempty, List.dropWhile_cons_of_neg (by simp [hc])]
    rfl
  · rfl

/-- The end of a text, after a character that is no white space. -/
theorem rdropWhile_mark {left right : List Char} {c : Char} (hc : isWhitespace c = false) :
    (left ++ c :: right).rdropWhile isWhitespace =
      left ++ c :: right.rdropWhile isWhitespace := by
  unfold List.rdropWhile
  rw [List.reverse_append, List.reverse_cons, List.append_assoc, List.singleton_append,
    dropWhile_mark hc]
  simp

/-- The two ends of a text are trimmed apart. -/
theorem toList_trim_mark {value : String} {left right : List Char} {c : Char}
    (hc : isWhitespace c = false) (hvalue : value.toList = left ++ c :: right) :
    (trim value).toList =
      left.dropWhile isWhitespace ++ c :: right.rdropWhile isWhitespace := by
  have htrim : (trim value).toList =
      (value.toList.dropWhile isWhitespace).rdropWhile isWhitespace := by
    unfold trim
    rw [String.toList_ofList]
    rfl
  rw [htrim, hvalue, dropWhile_mark hc, rdropWhile_mark hc]

/-- Texts with the same end are trimmed to one text. -/
theorem trim_eq_of_end {a b : String}
    (h : a.toList.rdropWhile isWhitespace = b.toList.rdropWhile isWhitespace) :
    trim a = trim b := by
  have hcommute : ∀ value : String, (trim value).toList =
      (value.toList.rdropWhile isWhitespace).dropWhile isWhitespace := by
    intro value
    cases hstart : value.toList.dropWhile isWhitespace with
    | nil =>
      have hblank : ∀ c ∈ value.toList, isWhitespace c = true := by
        simpa [List.dropWhile_eq_nil_iff] using hstart
      rw [List.rdropWhile_eq_nil_iff.mpr hblank]
      unfold trim
      rw [hstart]
      rfl
    | cons c right =>
      have hc : isWhitespace c = false := by
        have hne : value.toList.dropWhile isWhitespace ≠ [] := by simp [hstart]
        simpa [hstart] using List.head_dropWhile_not isWhitespace hne
      have hvalue : value.toList = value.toList.takeWhile isWhitespace ++ c :: right := by
        rw [← hstart, List.takeWhile_append_dropWhile]
      rw [toList_trim_mark hc hvalue, ← dropWhile_mark hc, ← rdropWhile_mark hc, ← hvalue]
  rw [← String.toList_inj, hcommute, hcommute, h]

/-! ## The outbox -/

section

variable {o : OutboxStore} {event : OutboxEvent} {key : String} {now : Int}

/-- INTERNAL: a new job has the trimmed id of its event.
SOURCE: apps/api/src/reliability/outbox.js:87-92 -/
theorem newJob_id {job : OutboxJob} (h : newJob event (some key) now = .ok job) :
    job.id = trim event.id := by
  unfold newJob at h
  obtain ⟨id, hid, h⟩ := bind_eq_ok.mp h
  iterate 3 obtain ⟨-, -, h⟩ := bind_eq_ok.mp h
  obtain ⟨timestamp, -, h⟩ := bind_eq_ok.mp h
  obtain ⟨idempotencyKey, -, h⟩ := bind_eq_ok.mp h
  obtain rfl := Except.ok.inj h
  unfold Model.requiredString at hid
  split at hid
  · cases hid
  · exact (Except.ok.inj hid).symm

/-- INTERNAL: an outbox that takes an event takes after it what it took before, where neither the id
nor the key is the same.
SOURCE: apps/api/src/reliability/outbox.js:169-181 -/
theorem exec_enqueue_taken (htakes : Takes o event key now) :
    ∃ job o', Effect.exec (enqueue event (some key) now) o = (.ok job, o') ∧
      ∀ event' key' now', trim event'.id ≠ trim event.id → trim key' ≠ trim key →
        Takes o event' key' now' → Takes o' event' key' now' := by
  obtain ⟨⟨job, hjob⟩, hroom⟩ := htakes
  obtain ⟨-, -, hkey⟩ := newJob_ok hjob
  have hid := newJob_id hjob
  unfold enqueue
  simp only [Effect.exec_bind, Effect.exec_lift, hjob, Effect.exec_get, hkey]
  obtain ⟨hfree, hhas⟩ | ⟨existing, hexisting, hsame⟩ := hroom
  · rw [← hid] at hhas
    simp only [hfree, hhas, Bool.false_eq_true, if_false]
    refine ⟨job, _, rfl, fun event' key' now' hids hkeys hother => ⟨hother.job, ?_⟩⟩
    have hbound : (o.idempotencyKeys.set (trim key) job.id).get (trim key') =
        o.idempotencyKeys.get (trim key') := by
      rw [OrderedMap.get_set, if_neg hkeys]
    obtain ⟨hfree', hhas'⟩ | ⟨existing, hexisting, hsame⟩ := hother.room
    · left
      refine ⟨hbound.trans hfree', ?_⟩
      rw [OrderedMap.has_eq_isSome] at hhas' ⊢
      rw [hid, OrderedMap.get_set, if_neg hids]
      exact hhas'
    · right
      refine ⟨existing, ?_, hsame⟩
      obtain ⟨existingId, hexistingId, hitem⟩ := Option.bind_eq_some_iff.mp hexisting
      have hne : existingId ≠ job.id := by
        rintro rfl
        rw [OrderedMap.has_eq_isSome, hitem] at hhas
        cases hhas
      refine Option.bind_eq_some_iff.mpr ⟨existingId, hbound.trans hexistingId, ?_⟩
      rw [OrderedMap.get_set, if_neg hne]
      exact hitem
  · obtain ⟨existingId, hexistingId, hitem⟩ := Option.bind_eq_some_iff.mp hexisting
    simp only [hexistingId, hitem, hsame, if_true]
    exact ⟨existing, o, rfl, fun _ _ _ _ _ hother => hother⟩

end

/-! ## One email -/

/-- A text that ends with a character that is no white space is trimmed at its start only. -/
theorem toList_trim_ended {value : String} {left mid : List Char} {c e : Char}
    (hc : isWhitespace c = false) (he : isWhitespace e = false)
    (hvalue : value.toList = left ++ c :: (mid ++ [e])) :
    (trim value).toList = left.dropWhile isWhitespace ++ c :: (mid ++ [e]) := by
  rw [toList_trim_mark hc hvalue, rdropWhile_mark he]
  rfl

/-- Two emails that have no name in common. -/
structure KeyedApart (a b : EmailDelivery) : Prop where
  id : a.id ≠ b.id
  jobId : trim (a.id ++ "-outbox") ≠ trim (b.id ++ "-outbox")
  key : trim a.idempotencyKey ≠ trim b.idempotencyKey
  recipientUserId : a.recipientUserId ≠ b.recipientUserId

section

variable {P : Platform} {parseUrl : String → Option ParsedUrl} {webAppUrl : String}
  {request : MailRequest} {report : FieldReport} {user other : User}
  {delivery delivery' : EmailDelivery}

/-- INTERNAL: what an email has of its report and its user.
SOURCE: apps/api/src/handlers.js:1140-1154; packages/email-delivery/src/index.js:168-190 -/
theorem reportEmail_ok
    (h : reportEmail P parseUrl webAppUrl request report user = .ok delivery) :
    delivery.id = trim (report.id ++ "-" ++ user.id ++ "-report-ready") ∧
      delivery.idempotencyKey = trim (request.tenantId.text ++ ":email:report_ready:" ++
        report.id ++ ":" ++ user.id) ∧
      delivery.recipientUserId.getD "" = trim user.id := by
  obtain ⟨tenantId, -, h⟩ := bind_eq_ok.mp h
  obtain ⟨recipientEmail, -, h⟩ := bind_eq_ok.mp h
  obtain ⟨message, -, h⟩ := bind_eq_ok.mp h
  obtain ⟨createdAt, -, h⟩ := bind_eq_ok.mp h
  obtain ⟨deliveryId, hid, h⟩ := bind_eq_ok.mp h
  obtain ⟨idempotencyKey, hkey, h⟩ := bind_eq_ok.mp h
  obtain ⟨recipientUserId, huser, h⟩ := bind_eq_ok.mp h
  obtain ⟨resourceType, -, h⟩ := bind_eq_ok.mp h
  obtain ⟨resourceId, -, h⟩ := bind_eq_ok.mp h
  obtain rfl := Except.ok.inj h
  refine ⟨(requiredString_eq_ok.mp hid).2, ?_, ?_⟩
  · obtain ⟨normalized, hrequired, hline⟩ := bind_eq_ok.mp hkey
    obtain ⟨-, rfl⟩ := requiredString_eq_ok.mp hrequired
    dsimp only at hline ⊢
    split at hline
    · cases hline
    · obtain rfl := Except.ok.inj hline
      rfl
  · unfold Email.optionalString reportEmailInput at huser
    by_cases hempty : user.id = ""
    · simp only [hempty, Option.filter_some, ne_eq, not_true_eq_false, decide_false,
        Bool.false_eq_true, if_false] at huser
      obtain rfl := Except.ok.inj huser
      rw [hempty]
      rfl
    · simp only [hempty, Option.filter_some, ne_eq, not_false_eq_true, decide_true, if_true]
        at huser
      obtain ⟨normalized, hrequired, rfl⟩ := map_eq_ok.mp huser
      exact (requiredString_eq_ok.mp hrequired).2

/-- INTERNAL: the id of an email, as it is stored.
SOURCE: apps/api/src/handlers.js:1154 -/
theorem toList_reportEmail_id
    (h : reportEmail P parseUrl webAppUrl request report user = .ok delivery) :
    delivery.id.toList = report.id.toList.dropWhile isWhitespace ++
      '-' :: (user.id.toList ++ "-report-ready".toList) := by
  have hended : (trim (report.id ++ "-" ++ user.id ++ "-report-ready")).toList =
      report.id.toList.dropWhile isWhitespace ++
        '-' :: (user.id.toList ++ "-report-read".toList ++ ['y']) := by
    apply toList_trim_ended (by decide) (by decide)
    simp
  rw [(reportEmail_ok h).1, hended]
  simp

/-- INTERNAL: the emails of two users have no name in common.
SOURCE: apps/api/src/handlers.js:1140-1154 -/
theorem reportEmail_apart
    (h : reportEmail P parseUrl webAppUrl request report user = .ok delivery)
    (h' : reportEmail P parseUrl webAppUrl request report other = .ok delivery')
    (hne : trim user.id ≠ trim other.id) : KeyedApart delivery delivery' := by
  have hids : user.id.toList ≠ other.id.toList := by
    intro hsame
    exact hne (by rw [String.toList_inj.mp hsame])
  obtain ⟨-, hkey, hrecipient⟩ := reportEmail_ok h
  obtain ⟨-, hkey', hrecipient'⟩ := reportEmail_ok h'
  constructor
  · intro hsame
    have hlists := congrArg String.toList hsame
    rw [toList_reportEmail_id h, toList_reportEmail_id h'] at hlists
    simp at hlists
    exact hids (by simp [hlists])
  · intro hsame
    have hended : ∀ {id : String} {d : EmailDelivery}, d.id.toList =
        report.id.toList.dropWhile isWhitespace ++ '-' :: (id.toList ++ "-report-ready".toList) →
        (trim (d.id ++ "-outbox")).toList =
          (report.id.toList.dropWhile isWhitespace).dropWhile isWhitespace ++
            '-' :: (id.toList ++ "-report-ready-outbo".toList ++ ['x']) := by
      intro id d hd
      apply toList_trim_ended (by decide) (by decide)
      rw [String.toList_append, hd]
      simp
    have hlists := congrArg String.toList hsame
    rw [hended (toList_reportEmail_id h), hended (toList_reportEmail_id h')] at hlists
    simp at hlists
    exact hids (by simp [hlists])
  · intro hsame
    rw [hkey, hkey', trim_trim, trim_trim] at hsame
    apply hne
    apply trim_eq_of_end
    have hmark : ∀ id : String, (trim (request.tenantId.text ++ ":email:report_ready:" ++
        report.id ++ ":" ++ id)).toList =
        (request.tenantId.text ++ ":email:report_ready:" ++ report.id).toList.dropWhile
          isWhitespace ++ ':' :: id.toList.rdropWhile isWhitespace := by
      intro id
      apply toList_trim_mark (by decide)
      simp
    have hlists := congrArg String.toList hsame
    rw [hmark, hmark] at hlists
    simpa using hlists
  · intro hsame
    rw [hsame, hrecipient'] at hrecipient
    exact hne hrecipient.symm

/-- INTERNAL: the evidence of a change is appended.
SOURCE: apps/api/src/handlers.js:252-304 -/
theorem exec_appendEvidence_given (P : Platform) (request : ReportRequest) {audit : TenantAudit}
    (htenant : audit.tenantId ≠ "") (haction : audit.action ≠ "")
    (htype : audit.resourceType ≠ "") (hid : audit.resourceId ≠ "")
    (existingEvents : List AuditEvent) (r : MemoryRepository) :
    ∃ event, Effect.exec (appendEvidence P request audit existingEvents) r =
      (.ok (), { r with auditEventStore := r.auditEventStore ++ [event] }) := by
  simp only [appendEvidence, buildTenantAuditEvent, createAuditEvent, appendAuditEvent,
    htenant, haction, htype, hid, Effect.exec_bind, Effect.exec_lift]
  exact ⟨_, rfl⟩

/-- INTERNAL: what is known of one email after another is stored.
SOURCE: apps/api/src/repositories/memory.js:268-278 -/
theorem storedUnder_put {r r' : MemoryRepository} {existing : EmailDelivery}
    (hfree : r.emailDeliveryStore.has delivery.id = false)
    (hr' : r'.emailDeliveryStore = r.emailDeliveryStore.put delivery)
    (h : storedUnder r delivery' = some existing) : storedUnder r' delivery' = some existing := by
  unfold storedUnder at h ⊢
  rw [hr', Table.values_put_of_not_has hfree, List.find?_append, h]
  rfl

/-- INTERNAL: **one round of the loop.** An email that is known, or new, is queued, and the other
users can be written to as before.
SOURCE: apps/api/src/handlers.js:1140-1172 -/
theorem exec_queueReportEmail_mailable {s : ReportStores} (honce : OnePerReader s)
    (hmailable : Mailable P parseUrl webAppUrl s request report user) :
    ∃ t, Effect.exec (queueReportEmail P parseUrl webAppUrl request report user) s = (.ok ⟨⟩, t) ∧
      OnePerReader t ∧ t.repository.fieldReportStore = s.repository.fieldReportStore ∧
      ∀ other, trim other.id ≠ trim user.id →
        Mailable P parseUrl webAppUrl s request report other →
        Mailable P parseUrl webAppUrl t request report other := by
  obtain ⟨delivery, hemail, ⟨existing, hstored, hmatches⟩ | hnew⟩ := hmailable
  · have hcreate : Effect.exec (createEmailDelivery delivery) s.repository =
        (.ok ⟨false, existing⟩, s.repository) := by
      unfold storedUnder at hstored
      rw [exec_createEmailDelivery, hstored]
      simp only [hmatches, if_true]
    refine ⟨s, ?_, honce, rfl, fun _ _ h => h⟩
    simp only [queueReportEmail, FieldReports.onRepository, Effect.exec_bind, Effect.exec_lift,
      hemail, Effect.exec_focus, hcreate]
    rfl
  · have hevidence : ∀ r : MemoryRepository, ∃ event, Effect.exec (appendEvidence P
        { request.toReportRequest with auditDraw := (request.emailDraw user).audit }
        (emailQueuedAudit request delivery)
        (r.listAuditEventsByTenant request.tenantId.text)) r =
          (.ok (), { r with auditEventStore := r.auditEventStore ++ [event] }) := by
      intro r
      apply exec_appendEvidence_given
      · exact request.tenantId.nonempty
      · exact (by decide : "email.delivery.queued" ≠ "")
      · exact (by decide : "email_delivery" ≠ "")
      · exact hnew.valid.id.ne_empty
    obtain ⟨event, haudit⟩ := hevidence { s.repository with
      emailDeliveryStore := s.repository.emailDeliveryStore.put delivery }
    obtain ⟨job, o', henqueue, hothers⟩ := exec_enqueue_taken hnew.takes
    have hcreate : Effect.exec (createEmailDelivery delivery) s.repository =
        (.ok ⟨true, delivery⟩, { s.repository with
          emailDeliveryStore := s.repository.emailDeliveryStore.put delivery }) := by
      have hnone := hnew.unknown
      unfold storedUnder at hnone
      rw [exec_createEmailDelivery, hnone]
      simp only [hnew.free, Bool.false_eq_true, if_false]
    refine ⟨⟨{ s.repository with
        emailDeliveryStore := s.repository.emailDeliveryStore.put delivery
        auditEventStore := s.repository.auditEventStore ++ [event] }, o', s.idempotency⟩,
      ?_, ?_, rfl, ?_⟩
    · simp only [queueReportEmail, FieldReports.onRepository, FieldReports.onOutbox,
        Effect.exec_bind, Effect.exec_lift, hemail, Effect.exec_focus, hcreate, Bool.not_true,
        Bool.false_eq_true, if_false, Effect.exec_get, haudit, outboxEvent_of_valid hnew.valid,
        henqueue]
      rfl
    · unfold OnePerReader
      rw [Table.values_put_of_not_has hnew.free]
      apply List.pairwise_append.mpr
      refine ⟨honce, List.pairwise_singleton _ _, ?_⟩
      intro item hitem last hlast
      rw [List.mem_singleton.mp hlast]
      exact hnew.unread item hitem
    · rintro other hne ⟨delivery', hemail', hother⟩
      refine ⟨delivery', hemail', ?_⟩
      have hapart := reportEmail_apart hemail' hemail hne
      obtain ⟨existing, hstored, hmatches⟩ | hother := hother
      · exact Or.inl ⟨existing, storedUnder_put hnew.free rfl hstored, hmatches⟩
      · right
        refine ⟨?_, ?_, ?_, hother.valid, hothers _ _ _ hapart.jobId hapart.key hother.takes⟩
        · have hnone := hother.unknown
          unfold storedUnder at hnone ⊢
          rw [Table.values_put_of_not_has hnew.free, List.find?_append, hnone]
          have hkeys : ¬ delivery.idempotencyKey = delivery'.idempotencyKey := by
            intro hsame
            exact hapart.key (by rw [hsame])
          simp [hkeys]
        · intro item hitem hreader
          rw [Table.values_put_of_not_has hnew.free] at hitem
          obtain hold | hlast := List.mem_append.mp hitem
          · exact hother.unread item hold hreader
          · rw [List.mem_singleton.mp hlast] at hreader
            exact hapart.recipientUserId hreader.recipientUserId.symm
        · rw [Table.has_put, hother.free, Bool.or_false]
          exact decide_eq_false hapart.id

/-- INTERNAL: **the loop over the recipients.**
SOURCE: apps/api/src/handlers.js:1139-1173 -/
theorem exec_loop_mailable {users : List User} {s : ReportStores} (honce : OnePerReader s)
    (hreaders : (users.map fun user => trim user.id).Nodup)
    (hmailable : ∀ user ∈ users, Mailable P parseUrl webAppUrl s request report user) :
    ∃ t, Effect.exec (users.forM (queueReportEmail P parseUrl webAppUrl request report)) s =
        (.ok ⟨⟩, t) ∧
      OnePerReader t ∧ t.repository.fieldReportStore = s.repository.fieldReportStore := by
  induction users generalizing s with
  | nil => exact ⟨s, rfl, honce, rfl⟩
  | cons user users ih =>
    rw [List.map_cons, List.nodup_cons] at hreaders
    obtain ⟨t, hexec, honce', hsame, hothers⟩ :=
      exec_queueReportEmail_mailable honce (hmailable user List.mem_cons_self)
    obtain ⟨u, hrest, honce'', hsame'⟩ := ih honce' hreaders.2 fun other hother => by
      apply hothers other
      · intro hids
        exact hreaders.1 (List.mem_map.mpr ⟨other, hother, hids⟩)
      · exact hmailable other (List.mem_cons_of_mem _ hother)
    refine ⟨u, ?_, honce'', hsame'.trans hsame⟩
    show Effect.exec (queueReportEmail P parseUrl webAppUrl request report user >>= fun _ =>
      users.forM (queueReportEmail P parseUrl webAppUrl request report)) s = _
    rw [Effect.exec_bind, hexec]
    exact hrest

/-! ## One approval -/

/-- INTERNAL: a transition whose job is taken is announced.
SOURCE: apps/api/src/handlers.js:1113-1124 -/
theorem exec_announce_taken (P : Platform) {request : ReportRequest} (action : String)
    (scope : Option String) (before : Json) {s : ReportStores} (haction : action ≠ "")
    (hid : report.id ≠ "")
    (htakes : ∀ event, transitionEvent request action report = .ok event →
      Takes s.outbox event (outboxKey request.tenantId.text action report.id scope)
        request.enqueuedAt) :
    ∃ audit o', Effect.exec (announce P request action before scope report) s =
        (.ok (), { s with
          repository := { s.repository with
            auditEventStore := s.repository.auditEventStore ++ [audit] }
          outbox := o' }) ∧
      ∀ event' key' now', trim event'.id ≠ trim request.outboxDraw.id →
        trim key' ≠ trim (outboxKey request.tenantId.text action report.id scope) →
        Takes s.outbox event' key' now' → Takes o' event' key' now' := by
  obtain ⟨audit, haudit⟩ : ∃ audit, Effect.exec (appendEvidence P request
      (transitionAudit request action before report)
      (s.repository.listAuditEventsByTenant request.tenantId.text)) s.repository =
        (.ok (), { s.repository with
          auditEventStore := s.repository.auditEventStore ++ [audit] }) := by
    apply exec_appendEvidence_given
    · exact request.tenantId.nonempty
    · exact haction
    · exact (by decide : "field_report" ≠ "")
    · exact hid
  obtain ⟨event, hevent, heventId⟩ : ∃ event, transitionEvent request action report = .ok event ∧
      event.id = request.outboxDraw.id := by
    unfold transitionEvent createOutboxEvent
    rw [if_neg (by simp [haction, hid])]
    exact ⟨_, rfl, rfl⟩
  obtain ⟨job, o', henqueue, hothers⟩ := exec_enqueue_taken (htakes event hevent)
  rw [heventId] at hothers
  refine ⟨audit, o', ?_, hothers⟩
  simp only [announce, enqueueTransition, FieldReports.onRepository, FieldReports.onOutbox,
    Effect.exec_bind, Effect.exec_get, Effect.exec_focus, Effect.exec_lift, haudit, hevent,
    henqueue]
  rfl

/-- INTERNAL: the key of a review's job is that of no email.
SOURCE: apps/api/src/handlers.js:735, 1147 -/
theorem reviewKey_ne (tenantId : PathPart) (reportId userId : String) :
    trim (trim (tenantId.text ++ ":email:report_ready:" ++ reportId ++ ":" ++ userId)) ≠
      trim (outboxKey tenantId.text "api.field_report.reviewed" reportId (some "approved")) := by
  obtain ⟨rest, hrest⟩ : ∃ rest, (outboxKey tenantId.text "api.field_report.reviewed" reportId
      (some "approved")).toList = tenantId.text.toList ++ ':' :: ([] ++ 'a' :: rest) := by
    unfold outboxKey
    by_cases hempty : reportId = ""
    · simp [hempty, tenantId.nonempty]
    · simp [hempty, tenantId.nonempty]
  have hemail : (tenantId.text ++ ":email:report_ready:" ++ reportId ++ ":" ++ userId).toList =
      tenantId.text.toList ++ ':' :: ([] ++ 'e' :: ("mail:report_ready:" ++ reportId ++ ":" ++
        userId).toList) := by
    simp
  intro hsame
  have hlists := congrArg String.toList hsame
  rw [trim_trim, toList_trim_mark (by decide) hrest, toList_trim_mark (by decide) hemail,
    rdropWhile_mark (by decide), rdropWhile_mark (by decide)] at hlists
  simp at hlists

/-- INTERNAL: what an approval makes of a report.
SOURCE: apps/api/src/handlers.js:1095-1112; packages/field-reporting/src/index.js:122-141 -/
theorem reviewed_approval {parsed : Json} (principal : Principal)
    (hasked : parsed.member? "nextStatus" = some (.string "approved"))
    (hstaged : report.staged = true) (hdrafted : report.draft.isSome = true) :
    ∃ reviewedBy reviewNote, FieldReports.reviewed principal (some parsed) report =
      .ok (.ok { report with
        status := .approved, reviewedBy := reviewedBy, reviewNote := reviewNote
        clientVisible := true }) := by
  obtain ⟨members, rfl⟩ : ∃ members, parsed = .object members := by
    cases parsed with
    | object members => exact ⟨members, rfl⟩
    | _ => cases hasked
  have hstatus : reviewStatus? (.string "approved") = some .approved := by decide
  have hnext : (Json.object members).orElse "nextStatus" .null = .string "approved" := by
    rw [Json.orElse, hasked]
  have htruthy : (Json.object members).hasTruthy "nextStatus" = true := by
    rw [Json.hasTruthy, hasked]
    rfl
  refine ⟨(Json.object members).orElse "reviewedBy" (.ofOption principal.userId),
    (Json.object members).orElse "reviewNote" .null, ?_⟩
  simp only [FieldReports.reviewed, ensureObjectBody, htruthy, hnext, setReviewStatus, hstaged,
    hstatus, Option.isNone_eq_false_iff.mpr hdrafted, Bool.not_true, Bool.false_eq_true, if_false]
  rfl

/-- INTERNAL: the report an approval is about is found.
SOURCE: apps/api/src/handlers.js:1085-1093 -/
theorem IsApproval.found {s : ReportStores} {reportId : PathPart}
    (happroval : IsApproval s request report)
    (hstored : s.repository.getFieldReportById reportId.text = some report) :
    findReport request.toReportRequest reportId s.repository = .ok report := by
  unfold findReport
  rw [happroval.authorized, hstored]
  simp only [Option.filter_some, happroval.own, decide_true, if_true]

/-- INTERNAL: **an approval that has what it needs** is answered with the report, and no user is
told twice.
SOURCE: apps/api/src/handlers.js:1084-1181 -/
theorem call_approvable {s : ReportStores} (hstaged : StagedReports s.repository)
    (honce : OnePerReader s)
    (happroval : IsApproval s request report)
    (happrovable : Approvable P parseUrl webAppUrl s request report) :
    ∃ approved t,
      (mailApi P parseUrl webAppUrl).call request s = (.ok (.answered 200 approved), t) ∧
      approved.id = report.id ∧ approved.status = .approved ∧ approved.staged = true ∧
      t.repository.fieldReportStore = s.repository.fieldReportStore.put approved ∧
      OnePerReader t := by
  obtain ⟨reportId, parsed, haction, hasked, hstored⟩ := happroval.asked
  have hreport : report ∈ s.repository.fieldReportStore.values := (Table.get_eq_some.mp hstored).1
  have hid : report.id ≠ "" := by
    rw [Table.key_of_get hstored]
    exact reportId.nonempty
  obtain ⟨reviewedBy, reviewNote, hreviewed⟩ := reviewed_approval request.principal hasked
    (hstaged report hreport) happroval.drafted
  generalize happroved : { report with
    status := .approved, reviewedBy := reviewedBy, reviewNote := reviewNote
    clientVisible := true } = approved at hreviewed
  -- the review changes nothing that an email or the job of the review is made of
  have hsame : approved.id = report.id ∧ approved.status = .approved ∧
      approved.staged = report.staged := by
    rw [← happroved]
    exact ⟨rfl, rfl, rfl⟩
  have hemails : reportEmail P parseUrl webAppUrl request approved =
      reportEmail P parseUrl webAppUrl request report := by
    rw [← happroved]
    rfl
  let saved : ReportStores := { s with repository := { s.repository with
    fieldReportStore := s.repository.fieldReportStore.put approved } }
  obtain ⟨audit, o', hannounce, hothers⟩ := exec_announce_taken P "api.field_report.reviewed"
    (some "approved") (.string report.status.text) (s := saved) (by decide) (hsame.1.symm ▸ hid)
    fun event hevent => by
      have htransition : transitionEvent request.toReportRequest "api.field_report.reviewed"
          report = .ok event := by
        rw [← hevent]
        unfold transitionEvent
        rw [hsame.1]
      rw [hsame.1]
      exact happrovable.announced event htransition
  let announced : ReportStores := { saved with
    repository := { saved.repository with
      auditEventStore := saved.repository.auditEventStore ++ [audit] }
    outbox := o' }
  have hmailable : ∀ user ∈ recipients request.directory,
      Mailable P parseUrl webAppUrl announced request approved user := by
    intro user huser
    obtain ⟨delivery, hemail, hknown | hnew⟩ := happrovable.mailable user huser
    · exact ⟨delivery, by rw [hemails]; exact hemail, Or.inl hknown⟩
    · refine ⟨delivery, by rw [hemails]; exact hemail, Or.inr ⟨hnew.unknown, hnew.unread, hnew.free,
        hnew.valid, hothers _ _ _ ?_ ?_ hnew.takes⟩⟩
      · exact (happrovable.drawn user huser delivery hemail).symm
      · rw [(reportEmail_ok hemail).2.1, hsame.1]
        exact reviewKey_ne _ _ _
  obtain ⟨t, hloop, honce', hstore⟩ :=
    exec_loop_mailable (s := announced) honce happrovable.readers hmailable
  refine ⟨approved, t, ?_, hsame.1, hsame.2.1, hsame.2.2.trans (hstaged report hreport), hstore,
    honce'⟩
  have hpersist : Effect.exec (persistReview P parseUrl webAppUrl request
      (reviewChange request.principal reportId (some parsed)) report (.ok approved)) s =
        (.ok (.answered 200 approved), t) := by
    have hsave : Effect.exec (FieldReports.onRepository (MemoryRepository.saveFieldReport approved))
        s = (.ok approved, saved) := rfl
    have hscope : (reviewChange request.principal reportId (some parsed)).scope approved =
        some "approved" := by
      show some approved.status.text = _
      rw [hsame.2.1]
      rfl
    have haction : (reviewChange request.principal reportId (some parsed)).action =
        "api.field_report.reviewed" := rfl
    have hevidence : Effect.exec (announce P request.toReportRequest "api.field_report.reviewed"
        (.string report.status.text) (some "approved") approved) saved = (.ok (), announced) :=
      hannounce
    simp only [persistReview, Effect.exec_bind, Effect.exec_lift, hsave, hscope, haction, hevidence,
      hsame.2.1, if_true, hloop]
    rfl
  have hroute : Effect.exec (mailRoute P parseUrl webAppUrl request) s =
      (.ok (.answered 200 approved), t) := by
    unfold mailRoute
    rw [haction]
    have hfound := happroval.found hstored
    simp only [reviewRoute, Effect.exec_bind, Effect.exec_get, hfound]
    have happly : (reviewChange request.principal reportId (some parsed)).apply report =
        .ok (.ok approved) := hreviewed
    rw [happly]
    dsimp only
    rw [Effect.exec_tryCatch, hpersist]
  show Effect.exec (handleApiRequest _) s = _
  unfold handleApiRequest
  rw [Effect.exec_tryCatch, hroute]

end

/-! ## The other requests -/

/-- The stored reports are staged, and the stored emails are the given ones. -/
structure Quiet (emails : Table EmailDelivery.id) (r : MemoryRepository) : Prop where
  staged : StagedReports r
  emails : r.emailDeliveryStore = emails

section

variable {P : Platform} {emails : Table EmailDelivery.id} {r : MemoryRepository}
  {request : ReportRequest} {report : FieldReport}

/-- INTERNAL: a staged report may be stored. -/
theorem Quiet.put (h : Quiet emails r) (hreport : report.staged = true) :
    Quiet emails { r with fieldReportStore := r.fieldReportStore.put report } := by
  refine ⟨?_, h.emails⟩
  intro stored hstored
  obtain rfl | ⟨hold, -⟩ := Table.mem_values_put.mp hstored
  · exact hreport
  · exact h.staged stored hold

/-- INTERNAL: the evidence of a change is no report and no email.
SOURCE: apps/api/src/handlers.js:252-304 -/
theorem appendEvidence_keeps {I : MemoryRepository → Prop}
    (hI : ∀ r events, I r → I { r with auditEventStore := events }) (audit : TenantAudit)
    (existingEvents : List AuditEvent) :
    Effect.Keeps I (appendEvidence P request audit existingEvents) := by
  unfold appendEvidence
  apply Effect.Triple.bind_lift
  · exact fun _ _ _ h => h
  intro event _
  apply Effect.Triple.bind (R := fun _ => I)
  · apply Effect.Triple.bind (R := fun _ => I)
    · exact Effect.Triple.update fun r h => hI r _ h
    · intro _
      exact Effect.Triple.pure fun _ h => h
  · intro _
    exact Effect.Triple.pure fun _ h => h

/-- INTERNAL: an operation of the repository keeps what it keeps there. -/
theorem onRepository_keeps {α : Type} {I : MemoryRepository → Prop} {m : RepositoryM α}
    (h : Effect.Keeps I m) :
    Effect.Keeps (fun s : ReportStores => I s.repository) (FieldReports.onRepository m) :=
  Effect.Triple.focus h fun _ _ => rfl

/-- INTERNAL: announcing a transition stores no report and no email.
SOURCE: apps/api/src/handlers.js:615-636, 1063-1074, 1113-1124 -/
theorem keeps_announce (action : String) (before : Json) (scope : Option String) :
    Effect.Keeps (fun s : ReportStores => Quiet emails s.repository)
      (announce P request action before scope report) := by
  unfold announce
  apply Effect.Triple.bind (R := fun _ (s : ReportStores) => Quiet emails s.repository)
    (Effect.Triple.get fun _ h => h)
  intro s
  apply Effect.Triple.bind
    (onRepository_keeps (appendEvidence_keeps (fun _ _ h => ⟨h.staged, h.emails⟩) _ _))
  intro _
  exact Effect.Keeps.frame fun _ _ h => h

/-- INTERNAL: a report is created staged.
SOURCE: apps/api/src/repositories/memory.js:236-243 -/
theorem keeps_createFieldReport (input : Json) :
    Effect.Keeps (Quiet emails) (MemoryRepository.createFieldReport input) := by
  apply Effect.Triple.bind_lift
  · exact fun _ _ _ h => h
  intro report hreport
  apply Effect.Triple.of_exec
  intro r h
  rw [Effect.exec_bind, Effect.exec_get]
  dsimp only
  cases hhas : r.fieldReportStore.has report.id with
  | true =>
    simp
    exact h
  | false =>
    simp
    exact h.put (gated_create hreport).2

/-- INTERNAL: a staged report is saved.
SOURCE: apps/api/src/repositories/memory.js:244-247 -/
theorem triple_saveFieldReport (hreport : report.staged = true) :
    Effect.Triple (fun s : ReportStores => Quiet emails s.repository)
      (FieldReports.onRepository (MemoryRepository.saveFieldReport report))
      (fun saved s => saved = report ∧ Quiet emails s.repository)
      fun _ s => Quiet emails s.repository := by
  apply Effect.Triple.of_exec
  intro s h
  exact ⟨rfl, h.put hreport⟩

/-- INTERNAL: the route that creates a report.
SOURCE: apps/api/src/handlers.js:32-47, 593-648, 986-1014 -/
theorem keeps_createRoute (path : String) (clientKey : Option String) (body : Option Json) :
    Effect.Keeps (fun s : ReportStores => Quiet emails s.repository)
      (createRoute P request path clientKey body) := by
  have hpersist : ∀ parsed, Effect.Keeps (fun s : ReportStores => Quiet emails s.repository)
      (persistCreated P request parsed) := by
    intro parsed
    unfold persistCreated
    apply Effect.Triple.bind (onRepository_keeps (keeps_createFieldReport _))
    intro created
    apply Effect.Triple.bind (keeps_announce _ _ _)
    exact fun _ => Effect.Triple.pure fun _ h => h
  have hcreate : Effect.Keeps (fun s : ReportStores => Quiet emails s.repository)
      (handleCollectionCreate P request body) := by
    unfold handleCollectionCreate
    split
    · exact Effect.Triple.pure fun _ h => h
    split
    · exact Effect.Triple.pure fun _ h => h
    split
    · exact Effect.Triple.pure fun _ h => h
    apply Effect.Triple.bind (R := fun _ (s : ReportStores) => Quiet emails s.repository)
      (Effect.Triple.get fun _ h => h)
    intro s
    split
    · exact Effect.Triple.pure fun _ h => h
    · apply Effect.Triple.tryCatch (hpersist _)
      exact fun _ => Effect.Triple.pure fun _ h => h
  unfold createRoute
  split
  · exact Effect.Triple.pure fun _ h => h
  unfold withIdempotency
  split
  · exact hcreate
  · apply Effect.Triple.bind (R := fun _ (s : ReportStores) => Quiet emails s.repository)
    · apply Effect.Triple.of_exec
      intro s h
      obtain ⟨u, hrepository, -, hexec⟩ := exec_idempotencyGet
        (idempotencyKeyFor request.tenantId.text path _) request.lookedUpAt s
      rw [hexec]
      show Quiet emails u.repository
      rw [hrepository]
      exact h
    intro cached
    split
    · exact Effect.Triple.pure fun _ h => h
    · apply Effect.Triple.bind hcreate
      intro result
      dsimp only
      apply Effect.Triple.ite
      · intro _
        apply Effect.Triple.bind (R := fun _ (s : ReportStores) => Quiet emails s.repository)
        · exact Effect.Triple.update fun _ h => h
        · exact fun _ => Effect.Triple.pure fun _ h => h
      · exact fun _ => Effect.Triple.pure fun _ h => h

/-- INTERNAL: a report that is found is stored, and of the tenant of the request.
SOURCE: apps/api/src/handlers.js:1049-1057, 1085-1093 -/
theorem findReport_ok {reportId : PathPart} (h : findReport request reportId r = .ok report) :
    authorize request.principal request.tenantId.text "field_report" "update" = none ∧
      r.getFieldReportById reportId.text = some report ∧
      report.tenantId = request.tenantId.text := by
  unfold findReport at h
  split at h
  · cases h
  · rename_i hauthorized
    split at h
    · cases h
    · rename_i found hfound
      obtain rfl := Except.ok.inj h
      obtain ⟨hstored, htenant⟩ := Option.filter_eq_some_iff.mp hfound
      exact ⟨hauthorized, hstored, of_decide_eq_true htenant⟩

/-- INTERNAL: the route that generates a draft.
SOURCE: apps/api/src/handlers.js:1048-1082 -/
theorem keeps_draftRoute (reportId : PathPart) :
    Effect.Keeps (fun s : ReportStores => Quiet emails s.repository)
      (changeRoute P request (draftChange reportId)) := by
  unfold changeRoute
  apply Effect.Triple.bind (R := fun s (t : ReportStores) =>
    StagedReports s.repository ∧ Quiet emails t.repository)
    (Effect.Triple.get fun _ h => ⟨h.staged, h⟩)
  intro s
  apply Effect.Triple.assume
  intro hstaged
  cases hfind : findReport request (draftChange reportId).reportId s.repository with
  | error refusal => exact Effect.Triple.pure fun _ h => h
  | ok report =>
    have hreport : report.staged = true :=
      hstaged report (Table.get_eq_some.mp (findReport_ok hfind).2.1).1
    apply Effect.Triple.tryCatch (Y := fun _ s => Quiet emails s.repository)
    · apply Effect.Triple.bind_lift
      · exact fun _ _ _ h => h
      intro next hnext
      have hnextStaged : next.staged = true := by
        rw [generateReportDraft_ok hnext]
        exact hreport
      apply Effect.Triple.bind (triple_saveFieldReport hnextStaged)
      intro saved
      apply Effect.Triple.assume
      intro _
      apply Effect.Triple.bind (keeps_announce _ _ _)
      exact fun _ => Effect.Triple.pure fun _ h => h
    · exact fun _ => Effect.Triple.pure fun _ h => h

/-- INTERNAL: what a review may make of a report.
SOURCE: apps/api/src/handlers.js:1095-1112; packages/field-reporting/src/index.js:122-141 -/
theorem reviewed_next {principal : Principal} {body : Option Json} {next : FieldReport}
    (h : FieldReports.reviewed principal body report = .ok (.ok next)) :
    next.staged = report.staged ∧ (next.status = .approved →
      report.draft.isSome = true ∧ ∃ parsed, body = some parsed ∧
        parsed.member? "nextStatus" = some (.string "approved")) := by
  unfold FieldReports.reviewed at h
  split at h
  · cases h
  rename_i parsed
  split at h
  · cases h
  split at h
  · cases h
  obtain ⟨hdrafted, status, hstatus, rfl⟩ := setReviewStatus_ok (Except.ok.inj h)
  refine ⟨rfl, fun happroved => ⟨hdrafted, parsed, rfl, ?_⟩⟩
  have hfound := List.find?_some hstatus
  rw [show status = .approved from happroved] at hfound
  unfold Json.orElse at hfound
  cases hmember : parsed.member? "nextStatus" with
  | none =>
    rw [hmember] at hfound
    cases hfound
  | some own =>
    rw [hmember] at hfound
    cases own with
    | string text => rw [of_decide_eq_true hfound]; rfl
    | _ => cases hfound

end

section

variable {P : Platform} {parseUrl : String → Option ParsedUrl} {webAppUrl : String}
  {emails : Table EmailDelivery.id} {request : MailRequest} {s : ReportStores}

/-- INTERNAL: a request that is no approval stores no email.
SOURCE: apps/api/src/handlers.js:986-1014, 1048-1181 -/
theorem call_other (hquiet : Quiet emails s.repository)
    (hother : ∀ report, ¬ IsApproval s request report) :
    Quiet emails ((mailApi P parseUrl webAppUrl).call request s).2.repository := by
  have hkept : Effect.Triple (fun t : ReportStores => t = s)
      (mailRoute P parseUrl webAppUrl request) (fun _ t => Quiet emails t.repository)
      fun _ t => Quiet emails t.repository := by
    unfold mailRoute
    cases haction : request.action with
    | create path clientKey body =>
      unfold route
      rw [haction]
      exact (keeps_createRoute path clientKey body).weaken (fun t ht => by rw [ht]; exact hquiet)
        (fun _ _ h => h) fun _ _ h => h
    | draft reportId =>
      unfold route
      rw [haction]
      exact (keeps_draftRoute reportId).weaken (fun t ht => by rw [ht]; exact hquiet)
        (fun _ _ h => h) fun _ _ h => h
    | review reportId body =>
      dsimp only
      unfold reviewRoute
      apply Effect.Triple.bind (R := fun u (t : ReportStores) =>
        u = s ∧ Quiet emails t.repository)
        (Effect.Triple.get fun t ht => ⟨ht, by rw [ht]; exact hquiet⟩)
      intro u
      apply Effect.Triple.assume
      rintro rfl
      cases hfind : findReport request.toReportRequest reportId u.repository with
      | error refusal => exact Effect.Triple.pure fun _ h => h
      | ok report =>
        obtain ⟨hauthorized, hstored, hown⟩ := findReport_ok hfind
        have hreport : report.staged = true :=
          hquiet.staged report (Table.get_eq_some.mp hstored).1
        dsimp only
        cases happly : (reviewChange request.principal reportId body).apply report with
        | error refusal => exact Effect.Triple.pure fun _ h => h
        | ok changed =>
          apply Effect.Triple.tryCatch (Y := fun _ t => Quiet emails t.repository)
          · apply Effect.Triple.bind_lift
            · exact fun _ _ _ h => h
            rintro next rfl
            obtain ⟨hstaged, happroval⟩ := reviewed_next happly
            have hstatus : next.status ≠ .approved := by
              intro happroved
              obtain ⟨hdrafted, parsed, rfl, hasked⟩ := happroval happroved
              exact hother report
                ⟨⟨reportId, parsed, haction, hasked, hstored⟩, hauthorized, hown, hdrafted⟩
            apply Effect.Triple.bind (triple_saveFieldReport (hstaged.trans hreport))
            intro saved
            apply Effect.Triple.assume
            rintro rfl
            apply Effect.Triple.bind (keeps_announce _ _ _)
            intro _
            simp only [hstatus, if_false]
            exact Effect.Triple.pure fun _ h => h
          · exact fun _ => Effect.Triple.pure fun _ h => h
  have hcall : Effect.Triple (fun t : ReportStores => t = s)
      (handleApiRequest (mailRoute P parseUrl webAppUrl request))
      (fun _ t => Quiet emails t.repository) fun _ t => Quiet emails t.repository :=
    Effect.Triple.tryCatch hkept fun _ => Effect.Triple.pure fun _ h => h
  exact hcall.store rfl

/-! ## An email that is stored otherwise -/

/-- INTERNAL: storing an email leaves what is stored under a key.
SOURCE: apps/api/src/repositories/memory.js:267-280 -/
theorem createEmailDelivery_keeps {delivery existing made : EmailDelivery} :
    Effect.Keeps (fun r => storedUnder r delivery = some existing) (createEmailDelivery made) := by
  apply Effect.Triple.of_exec
  intro r h
  rw [exec_createEmailDelivery]
  cases r.emailDeliveryStore.values.find? fun item =>
      item.idempotencyKey = made.idempotencyKey with
  | some other =>
    dsimp only
    cases emailDeliveryIntentMatches other made with
    | true => exact h
    | false => exact h
  | none =>
    dsimp only
    cases hhas : r.emailDeliveryStore.has made.id with
    | true => exact h
    | false => exact storedUnder_put hhas rfl h

/-- INTERNAL: a round of the loop leaves what is stored under a key.
SOURCE: apps/api/src/handlers.js:1140-1172 -/
theorem keeps_queueReportEmail {report : FieldReport} {delivery existing : EmailDelivery}
    (user : User) :
    Effect.Keeps (fun s : ReportStores => storedUnder s.repository delivery = some existing)
      (queueReportEmail P parseUrl webAppUrl request report user) := by
  unfold queueReportEmail
  apply Effect.Triple.bind_lift
  · exact fun _ _ _ h => h
  intro made _
  apply Effect.Triple.bind (onRepository_keeps createEmailDelivery_keeps)
  intro created
  apply Effect.Triple.ite
  · exact fun _ => Effect.Triple.pure fun _ h => h
  intro _
  apply Effect.Triple.bind
    (R := fun _ (s : ReportStores) => storedUnder s.repository delivery = some existing)
    (Effect.Triple.get fun _ h => h)
  intro s
  apply Effect.Triple.bind (onRepository_keeps
    (I := fun r => storedUnder r delivery = some existing)
    (appendEvidence_keeps (fun _ _ h => h) _ _))
  intro _
  apply Effect.Triple.bind_lift
  · exact fun _ _ _ h => h
  intro event _
  apply Effect.Triple.bind
    (R := fun _ (s : ReportStores) => storedUnder s.repository delivery = some existing)
  · exact Effect.Keeps.frame
      (I := fun s : ReportStores => storedUnder s.repository delivery = some existing)
      fun _ _ h => h
  intro _
  exact Effect.Triple.pure fun _ h => h

/-- INTERNAL: **an approval is refused** where the email of a recipient is not the one stored under
its key.
SOURCE: apps/api/src/handlers.js:1084-1181; apps/api/src/repositories/memory.js:267-274 -/
theorem call_changed {report : FieldReport} {user : User} {delivery existing : EmailDelivery}
    (hstaged : StagedReports s.repository) (happroval : IsApproval s request report)
    (huser : user ∈ recipients request.directory)
    (hemail : reportEmail P parseUrl webAppUrl request report user = .ok delivery)
    (hstored : storedUnder s.repository delivery = some existing)
    (hchanged : emailDeliveryIntentMatches existing delivery = false) :
    ∃ message, ((mailApi P parseUrl webAppUrl).call request s).1 = .ok (badRequest message) := by
  obtain ⟨reportId, parsed, haction, hasked, hfound⟩ := happroval.asked
  have hreport : report.staged = true := hstaged report (Table.get_eq_some.mp hfound).1
  obtain ⟨reviewedBy, reviewNote, hreviewed⟩ :=
    reviewed_approval request.principal hasked hreport happroval.drafted
  generalize happroved : { report with
    status := .approved, reviewedBy := reviewedBy, reviewNote := reviewNote
    clientVisible := true } = approved at hreviewed
  have hsame : approved.status = .approved ∧ approved.staged = report.staged := by
    rw [← happroved]
    exact ⟨rfl, rfl⟩
  have hemail' : reportEmail P parseUrl webAppUrl request approved user = .ok delivery := by
    rw [← hemail, ← happroved]
    rfl
  have hround : Effect.Triple
      (fun t : ReportStores => storedUnder t.repository delivery = some existing)
      (queueReportEmail P parseUrl webAppUrl request approved user) (fun _ _ => False)
      fun _ _ => True := by
    apply Effect.Triple.of_exec
    intro t ht
    unfold storedUnder at ht
    simp only [queueReportEmail, FieldReports.onRepository, Effect.exec_bind, Effect.exec_lift,
      hemail', Effect.exec_focus, exec_createEmailDelivery, ht, hchanged, Bool.false_eq_true,
      if_false]
  have hloop : Effect.Triple
      (fun t : ReportStores => storedUnder t.repository delivery = some existing ∧ user ∉ [])
      ((recipients request.directory).forM
        (queueReportEmail P parseUrl webAppUrl request approved))
      (fun _ t => storedUnder t.repository delivery = some existing ∧
        user ∉ recipients request.directory) fun _ _ => True := by
    apply Effect.Triple.forM (I := fun done (t : ReportStores) =>
      storedUnder t.repository delivery = some existing ∧ user ∉ done)
    intro done item rest _
    by_cases hitem : item = user
    · rw [hitem]
      exact hround.weaken (fun _ h => h.1) (fun _ _ h => h.elim) fun _ _ _ => trivial
    · have hnot : user ∉ done → user ∉ done ++ [item] := by
        intro hdone hmem
        obtain hold | hlast := List.mem_append.mp hmem
        · exact hdone hold
        · exact hitem (List.mem_singleton.mp hlast).symm
      apply Effect.Triple.weaken (P := fun t : ReportStores =>
        user ∉ done ∧ storedUnder t.repository delivery = some existing) _
        (fun _ h => h.symm) (fun _ _ h => h) fun _ _ h => h
      apply Effect.Triple.assume
      intro hdone
      exact (keeps_queueReportEmail item).weaken (fun _ h => h) (fun _ _ h => ⟨h, hnot hdone⟩)
        fun _ _ _ => trivial
  have hpersist : Effect.Triple (fun t : ReportStores =>
        Quiet s.repository.emailDeliveryStore t.repository)
      (persistReview P parseUrl webAppUrl request
        (reviewChange request.principal reportId (some parsed)) report (.ok approved))
      (fun _ _ => False) fun _ _ => True := by
    apply Effect.Triple.bind_lift
    · exact fun _ _ _ _ => trivial
    intro next hnext
    obtain rfl := Except.ok.inj hnext
    apply Effect.Triple.bind ((triple_saveFieldReport (hsame.2.trans hreport)).weaken
      (fun _ h => h) (fun _ _ h => h) fun _ _ _ => trivial)
    intro saved
    apply Effect.Triple.assume
    rintro rfl
    apply Effect.Triple.bind ((keeps_announce _ _ _).weaken
      (fun _ h => h) (fun _ _ h => h) fun _ _ _ => trivial)
    intro _
    simp only [hsame.1, if_true]
    apply Effect.Triple.bind (hloop.weaken _ (fun _ _ h => h) fun _ _ _ => trivial)
    · intro _
      exact Effect.Triple.pure fun _ h => absurd huser h.2
    · intro t ht
      refine ⟨?_, List.not_mem_nil⟩
      unfold storedUnder at hstored ⊢
      rw [ht.emails]
      exact hstored
  obtain ⟨e, t, hthrown⟩ : ∃ e t, Effect.exec (persistReview P parseUrl webAppUrl request
      (reviewChange request.principal reportId (some parsed)) report (.ok approved)) s =
        (.error e, t) := by
    have hrun := hpersist.holds s ⟨hstaged, rfl⟩
    rcases hexec : Effect.exec (persistReview P parseUrl webAppUrl request
      (reviewChange request.principal reportId (some parsed)) report (.ok approved)) s
      with ⟨e | a, t⟩
    · exact ⟨e, t, rfl⟩
    · rw [hexec] at hrun
      exact hrun.elim
  refine ⟨e.message, ?_⟩
  have hroute : Effect.exec (mailRoute P parseUrl webAppUrl request) s =
      (.ok (badRequest e.message), t) := by
    unfold mailRoute
    rw [haction]
    have happly : (reviewChange request.principal reportId (some parsed)).apply report =
        .ok (.ok approved) := hreviewed
    simp only [reviewRoute, Effect.exec_bind, Effect.exec_get, happroval.found hfound, happly]
    rw [Effect.exec_tryCatch, hthrown]
    rfl
  show (Effect.exec (handleApiRequest _) s).1 = _
  unfold handleApiRequest
  rw [Effect.exec_tryCatch, hroute]

end

/-- **Which approvals are answered.** In a run whose approvals all have what they need, every
approval is answered with the approved report, and no user gets two emails about it. Wherever the
email of a recipient is not the one that is stored under its key, an approval is refused.
SOURCE: apps/api/src/handlers.js:1084-1181; packages/email-delivery/src/index.js:168-203, 289-305;
apps/api/src/repositories/memory.js:267-280 -/
theorem approvals_answered (P : Platform) (parseUrl : String → Option ParsedUrl) (webAppUrl : String)
    {s : ReportStores} (hstaged : StagedReports s.repository) (honce : OnePerReader s) :
    (∀ requests,
      (mailApi P parseUrl webAppUrl).Meets (MeetsNeeds P parseUrl webAppUrl) s requests →
      (mailApi P parseUrl webAppUrl).Meets (ApprovalAnswered P parseUrl webAppUrl) s requests) ∧
    ∀ (t : ReportStores) (request : MailRequest) (report : FieldReport) (user : User)
      (delivery existing : EmailDelivery), StagedReports t.repository →
      IsApproval t request report → user ∈ recipients request.directory →
      reportEmail P parseUrl webAppUrl request report user = .ok delivery →
      storedUnder t.repository delivery = some existing →
      emailDeliveryIntentMatches existing delivery = false →
      ¬ ApprovalAnswered P parseUrl webAppUrl t request := by
  constructor
  · intro requests
    apply (mailApi P parseUrl webAppUrl).meets_of_meets
      (I := fun t => StagedReports t.repository ∧ OnePerReader t) _ ⟨hstaged, honce⟩
    rintro t request ⟨hstaged, honce⟩ hneeds
    by_cases happroval : ∃ report, IsApproval t request report
    · have hcall := fun report hreport =>
        call_approvable hstaged honce hreport (hneeds report hreport)
      obtain ⟨report, hreport⟩ := happroval
      obtain ⟨approved, u, hexec, -, -, happroved, hstore, honce'⟩ := hcall report hreport
      refine ⟨⟨?_, by rw [hexec]; exact honce'⟩, ?_, by rw [hexec]; exact honce'⟩
      · intro report' hreport'
        obtain ⟨approved', u', hexec', hid, hstatus, -, hstore', -⟩ := hcall report' hreport'
        rw [hexec']
        refine ⟨approved', rfl, hid, hstatus, ?_⟩
        show u'.repository.fieldReportStore.get report'.id = some approved'
        rw [hstore', Table.get_put, if_pos hid.symm]
      · rw [hexec]
        intro stored hmem
        rw [hstore] at hmem
        obtain rfl | ⟨hold, -⟩ := Table.mem_values_put.mp hmem
        · exact happroved
        · exact hstaged stored hold
    · have hquiet : Quiet t.repository.emailDeliveryStore
          ((mailApi P parseUrl webAppUrl).call request t).2.repository :=
        call_other ⟨hstaged, rfl⟩ (not_exists.mp happroval)
      have honce' : OnePerReader ((mailApi P parseUrl webAppUrl).call request t).2 := by
        unfold OnePerReader
        rw [hquiet.emails]
        exact honce
      exact ⟨⟨fun report hreport => absurd ⟨report, hreport⟩ happroval, honce'⟩, hquiet.staged,
        honce'⟩
  · intro t request report user delivery existing hstaged happroval huser hemail hstored hchanged
      hanswered
    obtain ⟨approved, hanswer, -⟩ := hanswered.answered report happroval
    obtain ⟨message, hrefused⟩ := call_changed hstaged happroval huser hemail hstored hchanged
    rw [hrefused] at hanswer
    cases hanswer

/-! ## A report that is approved twice -/

/-- The URL of an app that is served over HTTPS, as it is parsed. -/
def parseAppUrl (url : String) : Option ParsedUrl := some ⟨"https:", "", "", "", url⟩

/-- A request of the owner of a tenant with one client, who is called `name`. -/
def clientRequest (n name : String) (action : ReportAction) : MailRequest where
  toReportRequest := ownerRequest n action
  directory := {
    users := [{ id := "u2", tenantId := "t1", email := "ana@client.example"
                displayName := some name }]
    assignments := [⟨"ra1", "t1", "u2", "client_owner"⟩]
    distinct := List.nodup_singleton "u2" }
  emailDraw _ := {
    audit := ⟨"mail-" ++ n, "correlation-" ++ n, "request-" ++ n, "2026-01-01T00:00:00.000Z"⟩ }

theorem approved_id_ne_empty : "fr1" ≠ "" := by simp

/-- The review that approves the report. -/
def approveAction : ReportAction :=
  .review ⟨"fr1", approved_id_ne_empty⟩ (some (.object [("nextStatus", .string "approved")]))

/-- A report is created, drafted and approved twice; the client is called `later` at the second
approval. -/
def approvedTwice (later : String) : List MailRequest := [
  clientRequest "1" "Ana" (.create "/v1/tenants/t1/field-reports" none (some reportBody)),
  clientRequest "2" "Ana" (.draft ⟨"fr1", approved_id_ne_empty⟩),
  clientRequest "3" "Ana" approveAction,
  clientRequest "4" later approveAction]

/-- Whether the outbox takes an event. -/
def takesEvent (outbox : OutboxStore) (event : OutboxEvent) (key : String) (now : Int) : Bool :=
  (newJob event (some key) now).isOk &&
    match outbox.idempotencyKeys.get (trim key) with
    | none => !outbox.items.has (trim event.id)
    | some id => (outbox.items.get id).any fun existing => sameLogicalEvent existing event

theorem takes_of_test {outbox : OutboxStore} {event : OutboxEvent} {key : String} {now : Int}
    (h : takesEvent outbox event key now = true) : Takes outbox event key now := by
  unfold takesEvent at h
  obtain ⟨hjob, hroom⟩ := Bool.and_eq_true_iff.mp h
  constructor
  · cases hnew : newJob event (some key) now with
    | ok job => exact ⟨job, rfl⟩
    | error e =>
      rw [hnew] at hjob
      cases hjob
  · cases hkey : outbox.idempotencyKeys.get (trim key) with
    | none =>
      rw [hkey] at hroom
      exact Or.inl ⟨rfl, by simpa using hroom⟩
    | some id =>
      rw [hkey] at hroom
      obtain ⟨existing, hexisting, hsame⟩ := (Option.any_eq_true _ _).mp hroom
      exact Or.inr ⟨existing, hexisting, hsame⟩

section

variable (P : Platform) (parseUrl : String → Option ParsedUrl) (webAppUrl : String)

/-- Whether an email is the one that is stored, or can be stored and queued. -/
def mailableEmail (s : ReportStores) (request : MailRequest) (user : User)
    (delivery : EmailDelivery) : Bool :=
  match storedUnder s.repository delivery with
  | some existing => emailDeliveryIntentMatches existing delivery
  | none => s.repository.emailDeliveryStore.values.isEmpty &&
    (assertEmailDelivery P delivery).isOk &&
    takesEvent s.outbox (requestedEvent delivery) delivery.idempotencyKey
      (request.emailDraw user).enqueuedAt

/-- Whether an approval of a report has what it needs. -/
def approvable (s : ReportStores) (request : MailRequest) (report : FieldReport) : Bool :=
  (match transitionEvent request.toReportRequest "api.field_report.reviewed" report with
    | .ok event => takesEvent s.outbox event (outboxKey request.tenantId.text
        "api.field_report.reviewed" report.id (some "approved")) request.enqueuedAt
    | .error _ => false) &&
  decide ((recipients request.directory).map fun user => trim user.id).Nodup &&
  (recipients request.directory).all fun user =>
    match reportEmail P parseUrl webAppUrl request report user with
    | .ok delivery => mailableEmail P s request user delivery &&
        trim request.outboxDraw.id ≠ trim (delivery.id ++ "-outbox")
    | .error _ => false

/-- Whether a request has what it needs, where it is an approval. -/
def meetsNeeds (s : ReportStores) (request : MailRequest) : Bool :=
  match request.action with
  | .review reportId (some _) => (s.repository.getFieldReportById reportId.text).all
      (approvable P parseUrl webAppUrl s request)
  | _ => true

variable {P parseUrl webAppUrl}

theorem mailable_of_test {s : ReportStores} {request : MailRequest} {report : FieldReport}
    {user : User} {delivery : EmailDelivery}
    (hemail : reportEmail P parseUrl webAppUrl request report user = .ok delivery)
    (h : mailableEmail P s request user delivery = true) :
    Mailable P parseUrl webAppUrl s request report user := by
  refine ⟨delivery, hemail, ?_⟩
  unfold mailableEmail at h
  cases hstored : storedUnder s.repository delivery with
  | some existing =>
    rw [hstored] at h
    exact Or.inl ⟨existing, rfl, h⟩
  | none =>
    rw [hstored] at h
    simp only [Bool.and_eq_true, List.isEmpty_iff] at h
    obtain ⟨⟨hempty, hassert⟩, htakes⟩ := h
    right
    refine ⟨hstored, ?_, ?_, ?_, takes_of_test htakes⟩
    · rw [hempty]
      exact fun item hitem => absurd hitem List.not_mem_nil
    · rw [Table.has, Table.get, hempty]
      rfl
    · cases hchecked : assertEmailDelivery P delivery with
      | ok checked => exact ((assertEmailDelivery_eq_ok P).mp hchecked).1
      | error e =>
        rw [hchecked] at hassert
        cases hassert

theorem approvable_of_test {s : ReportStores} {request : MailRequest} {report : FieldReport}
    (h : approvable P parseUrl webAppUrl s request report = true) :
    Approvable P parseUrl webAppUrl s request report := by
  unfold approvable at h
  simp only [Bool.and_eq_true, decide_eq_true_eq, List.all_eq_true] at h
  obtain ⟨⟨hannounced, hreaders⟩, hall⟩ := h
  have hemails : ∀ user ∈ recipients request.directory, ∃ delivery,
      reportEmail P parseUrl webAppUrl request report user = .ok delivery ∧
        mailableEmail P s request user delivery = true ∧
        trim request.outboxDraw.id ≠ trim (delivery.id ++ "-outbox") := by
    intro user huser
    have hone := hall user huser
    cases hemail : reportEmail P parseUrl webAppUrl request report user with
    | error e =>
      rw [hemail] at hone
      cases hone
    | ok delivery =>
      rw [hemail] at hone
      simp only [Bool.and_eq_true, decide_eq_true_eq] at hone
      exact ⟨delivery, rfl, hone⟩
  refine ⟨?_, hreaders, ?_, ?_⟩
  · intro event hevent
    rw [hevent] at hannounced
    exact takes_of_test hannounced
  · intro user huser
    obtain ⟨delivery, hemail, hmailable, -⟩ := hemails user huser
    exact mailable_of_test hemail hmailable
  · intro user huser delivery hemail
    obtain ⟨made, hmade, -, hdrawn⟩ := hemails user huser
    obtain rfl := Except.ok.inj (hmade.symm.trans hemail)
    exact hdrawn

theorem meetsNeeds_of_test {s : ReportStores} {request : MailRequest}
    (h : meetsNeeds P parseUrl webAppUrl s request = true) :
    MeetsNeeds P parseUrl webAppUrl s request := by
  intro report happroval
  obtain ⟨reportId, parsed, haction, -, hstored⟩ := happroval.asked
  unfold meetsNeeds at h
  rw [haction] at h
  dsimp only at h
  rw [hstored] at h
  exact approvable_of_test h

/-- The requests of a run all have what they need. -/
def needsMet (P : Platform) (parseUrl : String → Option ParsedUrl) (webAppUrl : String) :
    ReportStores → List MailRequest → Bool
  | _, [] => true
  | s, request :: requests => meetsNeeds P parseUrl webAppUrl s request &&
    needsMet P parseUrl webAppUrl ((mailApi P parseUrl webAppUrl).call request s).2 requests

theorem meets_of_needsMet {s : ReportStores} {requests : List MailRequest}
    (h : needsMet P parseUrl webAppUrl s requests = true) :
    (mailApi P parseUrl webAppUrl).Meets (MeetsNeeds P parseUrl webAppUrl) s requests := by
  induction requests generalizing s with
  | nil => trivial
  | cons request requests ih =>
    simp only [needsMet, Bool.and_eq_true] at h
    exact ⟨meetsNeeds_of_test h.1, ih h.2⟩

end

/-- The app of the example. -/
def appUrl : String := "https://app.example/"

/-- A report that is approved twice, for a client who keeps her name. -/
theorem approvals_answered_twice :
    (mailApi digestless parseAppUrl appUrl).Meets
      (ApprovalAnswered digestless parseAppUrl appUrl) oneProject (approvedTwice "Ana") := by
  have hstaged : StagedReports oneProject.repository := by
    intro report hreport
    cases hreport
  have honce : OnePerReader oneProject := List.Pairwise.nil
  apply (approvals_answered digestless parseAppUrl appUrl hstaged honce).1
  exact meets_of_needsMet (by decide +kernel)

/-- The second approval of a report is refused where its client is called otherwise since the first.
SOURCE: apps/api/src/handlers.js:1149-1154; packages/email-delivery/src/index.js:289-305 -/
theorem renamed_client_refused :
    ¬ ∀ requests, (mailApi digestless parseAppUrl appUrl).Meets
      (ApprovalAnswered digestless parseAppUrl appUrl) oneProject requests := by
  intro hall
  have hlast : ApprovalAnswered digestless parseAppUrl appUrl
      ((mailApi digestless parseAppUrl appUrl).run oneProject
        ((approvedTwice "Ana Lima").take 3)).2 (clientRequest "4" "Ana Lima" approveAction) :=
    (hall (approvedTwice "Ana Lima")).2.2.2.1
  generalize hstate : ((mailApi digestless parseAppUrl appUrl).run oneProject
    ((approvedTwice "Ana Lima").take 3)).2 = s at hlast
  have hrun : ((s.repository.getFieldReportById "fr1").map fun report =>
        (report.tenantId, report.draft.isSome)) = some ("t1", true) ∧
      ((mailApi digestless parseAppUrl appUrl).call
        (clientRequest "4" "Ana Lima" approveAction) s).1.toOption.map Response.status =
          some 400 := by
    rw [← hstate]
    decide +kernel
  obtain ⟨report, hreport, hfields⟩ := Option.map_eq_some_iff.mp hrun.1
  obtain ⟨htenant, hdrafted⟩ := Prod.mk.inj hfields
  obtain ⟨approved, hanswer, -⟩ := hlast.answered report
    ⟨⟨_, _, rfl, rfl, hreport⟩, by decide +kernel, htenant, hdrafted⟩
  have hstatus := hrun.2
  rw [hanswer] at hstatus
  cases hstatus

end Xygo.Analysis
