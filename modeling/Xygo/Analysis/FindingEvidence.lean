import Xygo.Analysis.QueuedDeliveries
import Xygo.Model.FindingDisposition

/-!
# The disposition of a finding and its evidence

The route writes the finding and then its audit event, and neither write waits for the other: each
commits by itself. So a request is evidenced in every run but those where it has reached the first
write and one of the steps from there on fails.
-/

set_option autoImplicit false

namespace Xygo.Analysis

open Xygo.Computation Xygo.Computation.Relational Xygo.Model

/-- What a request is asked to leave: nothing changed where it is refused, and the disposition with
its audit event where it is answered. -/
structure DispositionEvidenced (request : DispositionRequest) (start : PgDatabase)
    (response : Response AiFinding) (db : PgDatabase) : Prop where
  unchanged : response.succeeded = false →
    recordById Document.aiFinding? .aiFindings request.findingId db =
        recordById Document.aiFinding? .aiFindings request.findingId start ∧
      chainIn request.tenantId db = chainIn request.tenantId start
  stored : response.status = 200 → ∃ parsed finding event,
    request.body = some parsed ∧
      recordById Document.aiFinding? .aiFindings request.findingId db = some finding ∧
      finding.humanDisposition = parsed.orElse "nextDisposition" .null ∧
      chainIn request.tenantId db = chainIn request.tenantId start ++ [event] ∧
      event.action = "api.ai_finding.disposition_updated" ∧ event.resourceId = finding.id ∧
      event.afterStateRef = finding.humanDisposition

/-- A run of the route answers, and leaves what it is asked to. -/
def EvidencedRun (request : DispositionRequest) (start : PgDatabase)
    (outcome : Except JsError (Response AiFinding) × PgStore) : Prop :=
  ∃ response, outcome.1 = .ok response ∧
    DispositionEvidenced request start response outcome.2.store

/-- The statements of a request before its first write. -/
def readsOf (parsed : Json) : Nat := if parsed.hasTruthy "relatedIssueId" then 4 else 3

/-- What happens to a statement of a request. -/
def faultAt (faults : List (Option (Fault JsError))) (n : Nat) : Option (Fault JsError) :=
  (faults[n]?).join

section

variable (pg : Postgres) (E : Environment) (request : DispositionRequest) (start : PgDatabase)
  (faults : List (Option (Fault JsError))) (draw : AuditDraw)

/-- A request passes its checks, and no statement before its first write fails.
SOURCE: apps/api/src/handlers.js:1183-1226; apps/api/src/repositories/postgres.js:710-715 -/
structure ReachesWrite (parsed : Json) (finding updated : AiFinding) : Prop where
  authorized : authorize request.principal request.tenantId "ai_finding" "update" = none
  body : request.body = some parsed
  reads : Faulty.Clear (readsOf parsed) (⟨start, faults⟩ : PgStore)
  bindsFinding : pg.binds (.text request.findingId) = true
  found : recordById Document.aiFinding? .aiFindings request.findingId start = some finding
  bindsRun : pg.binds (.text finding.reviewRunId) = true
  inTenant : ((recordById Document.aiReviewRun? .aiReviewRuns finding.reviewRunId start).any
    fun run => run.tenantId = request.tenantId) = true
  shaped : ensureObjectBody parsed = none
  asked : parsed.hasTruthy "nextDisposition" = true
  related : parsed.hasTruthy "relatedIssueId" = true → pg.binds (.text request.tenantId) = true ∧
    ((tenantRecords Document.issue? .issues request.tenantId start).any
      fun issue => (relatedIssueIdOf parsed).isText issue.id) = true
  allowed : setHumanDisposition finding (parsed.orElse "nextDisposition" .null)
    (relatedIssueIdOf parsed) = .ok updated

/-- From its `UPDATE` on a request gets to the `INSERT` of its audit event, and that takes effect.
SOURCE: apps/api/src/handlers.js:290-303; apps/api/src/repositories/postgres.js:717-720 -/
structure AppendsEvidence (parsed : Json) (finding updated : AiFinding) : Prop where
  answered : faultAt faults (readsOf parsed) = none
  read : faultAt faults (readsOf parsed + 1) = none ∧ pg.binds (.text request.tenantId) = true
  inserted : ∃ event, buildTenantAuditEvent E (dispositionAudit request finding updated)
      (chainIn request.tenantId start) draw = .ok event ∧
    pg.server.insertRefusal start insertAudit (auditParams event) = none
  effective : ∀ e, faultAt faults (readsOf parsed + 2) ≠ some (.before e)

/-- Evidence is lost: the `UPDATE` takes effect, the request does not go through to its end, and it
has changed the finding or its audit chain. -/
def LosesEvidence : Prop :=
  ∃ parsed finding updated, ReachesWrite pg request start faults parsed finding updated ∧
    (∀ e, faultAt faults (readsOf parsed) ≠ some (.before e)) ∧
    pg.server.updateRefusal start .aiFindings (Postgres.dispositionColumns pg updated)
      [(.id, .text request.findingId)] = none ∧
    ¬ (AppendsEvidence pg E request start faults draw parsed finding updated ∧
      faultAt faults (readsOf parsed + 2) = none) ∧
    (updated ≠ finding ∨ AppendsEvidence pg E request start faults draw parsed finding updated)

/-- The run of a request. -/
def runDisposition : Except JsError (Response AiFinding) × PgStore :=
  Effect.exec (handleApiRequest (dispositionRoute pg E request draw)) ⟨start, faults⟩

/-- A request is refused, and has changed nothing. -/
def RefusedAt (outcome : Except JsError (Response AiFinding) × PgStore) : Prop :=
  ∃ refusal rest, outcome = (.ok (.refused refusal), ⟨start, rest⟩) ∧ 400 ≤ refusal.status

end

section

variable {pg : Postgres} {E : Environment} {request : DispositionRequest} {start : PgDatabase}
  {faults : List (Option (Fault JsError))} {draw : AuditDraw}

/-- INTERNAL: a refused request is evidenced. -/
theorem evidenced_of_refused {outcome : Except JsError (Response AiFinding) × PgStore}
    (h : RefusedAt start outcome) : EvidencedRun request start outcome := by
  obtain ⟨refusal, rest, rfl, hstatus⟩ := h
  refine ⟨_, rfl, fun _ => ⟨rfl, rfl⟩, ?_⟩
  intro h200
  simp only [Response.status] at h200
  omega

/-- INTERNAL: the fault of the statement after `n` others. -/
theorem next_drop (db : PgDatabase) (n : Nat) :
    Faulty.next (⟨db, faults.drop n⟩ : PgStore) = faultAt faults n := by
  unfold Faulty.next faultAt
  rw [List.head?_drop]

/-- INTERNAL: what holds of a request that a read has failed, and of what follows the read, holds
of the request. -/
theorem read_step {α : Type} {op : PostgresM α} {db : PgDatabase} {n : Nat}
    {answer : Except JsError α} {f : α → PostgresM (Response AiFinding)}
    {G : Except JsError (Response AiFinding) × PgStore → Prop}
    (hop : Effect.exec op ⟨db, faults.drop n⟩ =
      (Faulty.seen (Faulty.next ⟨db, faults.drop n⟩) answer, ⟨db, (faults.drop n).tail⟩))
    (hrefused : ∀ outcome, RefusedAt db outcome →
      ¬ (faultAt faults n = none ∧ ∃ a, answer = .ok a) → G outcome)
    (hread : faultAt faults n = none → ∀ a, answer = .ok a →
      G (Effect.exec (handleApiRequest (f a)) ⟨db, faults.drop (n + 1)⟩)) :
    G (Effect.exec (handleApiRequest (op >>= f)) ⟨db, faults.drop n⟩) := by
  unfold handleApiRequest at hread ⊢
  simp only [Effect.exec_tryCatch, Effect.exec_bind, hop] at hread ⊢
  rw [next_drop, List.tail_drop]
  cases hseen : Faulty.seen (faultAt faults n) answer with
  | error e =>
    apply hrefused _ ⟨_, _, rfl, by decide⟩
    rintro ⟨hnext, a, hanswer⟩
    rw [hnext, hanswer] at hseen
    cases hseen
  | ok a =>
    obtain ⟨hnext, hanswer⟩ := Faulty.seen_eq_ok.mp hseen
    exact hread hnext a hanswer

/-- INTERNAL: a read that was answered was bound, and answers what is there. -/
theorem of_bound {α : Type} {b : Bool} {a a' : α} {e : JsError}
    (h : (if b then Except.ok a else .error e) = .ok a') : b = true ∧ a = a' := by
  cases b with
  | true => exact ⟨rfl, Except.ok.inj h⟩
  | false => cases h

/-- INTERNAL: a branch that refuses changes nothing. -/
theorem refused_pure {refusal : Refusal} (hstatus : 400 ≤ refusal.status)
    (pending : List (Option (Fault JsError))) :
    RefusedAt start (Effect.exec (handleApiRequest
      (pure (.refused refusal) : PostgresM (Response AiFinding))) ⟨start, pending⟩) :=
  ⟨refusal, pending, rfl, hstatus⟩

end

section

variable (pg : Postgres) (E : Environment) (request : DispositionRequest) (draw : AuditDraw)

/-- The writes of a request, and its answer. -/
def writesOf (finding updated : AiFinding) : PostgresM (Response AiFinding) := do
  let _ ← queryUpdate pg .aiFindings (Postgres.dispositionColumns pg updated)
    [(.id, .text request.findingId)]
  appendTenantAuditEvent pg E (dispositionAudit request finding updated) draw
  return .answered 200 updated

/-- What becomes of the writes of a request. -/
def settled (outcome : Except JsError (Response AiFinding) × PgStore) :
    Except JsError (Response AiFinding) × PgStore :=
  match outcome with
  | (.ok response, t) => (.ok response, t)
  | (.error error, t) => (.ok (badRequest error.message), t)

end

section

variable {pg : Postgres} {E : Environment} {request : DispositionRequest} {start : PgDatabase}
  {faults : List (Option (Fault JsError))} {draw : AuditDraw}

/-- INTERNAL: the refusal of the gate is a 403. -/
theorem status_of_authorize {principal : Principal} {tenantId resource action : String}
    {refusal : Refusal} (h : authorize principal tenantId resource action = some refusal) :
    refusal.status = 403 := by
  unfold authorize at h
  dsimp only at h
  split at h
  · obtain rfl := Option.some.inj h
    rfl
  · split at h
    · obtain rfl := Option.some.inj h
      rfl
    · split at h
      · obtain rfl := Option.some.inj h
        rfl
      · cases h

variable (E draw) in
/-- INTERNAL: the `try` block of the route, from its own read of the finding on.
SOURCE: apps/api/src/handlers.js:1222-1248; apps/api/src/repositories/postgres.js:710-721 -/
theorem route_tail {n : Nat} {finding : AiFinding} (next related : Json)
    (hbinds : pg.binds (.text request.findingId) = true)
    (hfound : recordById Document.aiFinding? .aiFindings request.findingId start = some finding) :
    (RefusedAt start (Effect.exec (handleApiRequest (tryCatch
          (writeDisposition pg E request finding next related draw)
          fun error => return badRequest error.message)) ⟨start, faults.drop n⟩) ∧
        ¬ (faultAt faults n = none ∧
          ∃ updated, setHumanDisposition finding next related = .ok updated)) ∨
      faultAt faults n = none ∧
        ∃ updated, setHumanDisposition finding next related = .ok updated ∧
          Effect.exec (handleApiRequest (tryCatch
              (writeDisposition pg E request finding next related draw)
              fun error => return badRequest error.message)) ⟨start, faults.drop n⟩ =
            settled (Effect.exec (writesOf pg E request draw finding updated)
              ⟨start, faults.drop (n + 1)⟩) := by
  unfold handleApiRequest writeDisposition Postgres.setAiFindingDisposition
    Postgres.getAiFindingById
  simp only [Effect.exec_tryCatch, Effect.exec_bind, exec_getById, next_drop, List.tail_drop,
    hbinds, if_true, hfound]
  cases hfault : faultAt faults n with
  | some fault =>
    refine Or.inl ⟨?_, fun h => by cases h.1⟩
    cases fault <;> exact ⟨_, _, rfl, Nat.le_refl 400⟩
  | none =>
    simp only [Faulty.seen, Effect.exec_bind, Effect.exec_lift]
    cases hupdated : setHumanDisposition finding next related with
    | error e =>
      refine Or.inl ⟨⟨_, _, rfl, Nat.le_refl 400⟩, ?_⟩
      rintro ⟨-, updated, h⟩
      cases h
    | ok updated =>
      refine Or.inr ⟨trivial, updated, rfl, ?_⟩
      unfold writesOf settled
      simp only [Effect.exec_bind]
      rcases Effect.exec (queryUpdate pg .aiFindings (Postgres.dispositionColumns pg updated)
        [(.id, .text request.findingId)]) ⟨start, faults.drop (n + 1)⟩ with ⟨e | changed, t⟩
      · rfl
      · simp only [Effect.exec_pure]
        rcases Effect.exec (appendTenantAuditEvent pg E
          (dispositionAudit request finding updated) draw) t with ⟨e | written, u⟩ <;> rfl

variable (pg E request start faults draw) in
/-- A request is refused before its first write, or gets there and goes on with its writes. -/
def DispositionCases (outcome : Except JsError (Response AiFinding) × PgStore) : Prop :=
  (RefusedAt start outcome ∧
      ∀ parsed finding updated, ¬ ReachesWrite pg request start faults parsed finding updated) ∨
    ∃ parsed finding updated, ReachesWrite pg request start faults parsed finding updated ∧
      outcome = settled (Effect.exec (writesOf pg E request draw finding updated)
        ⟨start, faults.drop (readsOf parsed)⟩)

variable (pg E request start faults draw) in
/-- INTERNAL: every request is one of the two.
SOURCE: apps/api/src/handlers.js:1183-1249 -/
theorem disposition_cases :
    DispositionCases pg E request start faults draw
      (runDisposition pg E request start faults draw) := by
  have hrefused : ∀ outcome, RefusedAt start outcome →
      (∀ parsed finding updated, ¬ ReachesWrite pg request start faults parsed finding updated) →
      DispositionCases pg E request start faults draw outcome :=
    fun _ h hnot => Or.inl ⟨h, hnot⟩
  have hearly : ∀ parsed, 2 < readsOf parsed := by
    intro parsed
    unfold readsOf
    split <;> decide
  unfold runDisposition dispositionRoute
  cases hauthorize : authorize request.principal request.tenantId "ai_finding" "update" with
  | some refusal =>
    apply hrefused _ (refused_pure (by simp [status_of_authorize hauthorize]) faults)
    intro parsed finding updated h
    cases hauthorize.symm.trans h.authorized
  | none =>
    dsimp only
    apply read_step (n := 0) (exec_getById pg ⟨start, faults.drop 0⟩ .aiFindings
      Document.aiFinding? request.findingId)
    · intro outcome hout hnot
      apply hrefused outcome hout
      intro parsed finding updated h
      exact hnot ⟨h.reads 0 (by have := hearly parsed; omega), _, if_pos h.bindsFinding⟩
    intro hfault0 found hfound
    obtain ⟨hbinds, rfl⟩ := of_bound hfound
    cases hfind : recordById Document.aiFinding? .aiFindings request.findingId start with
    | none =>
      apply hrefused _ (refused_pure (by decide) _)
      intro parsed finding updated h
      cases hfind.symm.trans h.found
    | some finding =>
    have hsame : ∀ parsed finding' updated,
        ReachesWrite pg request start faults parsed finding' updated → finding' = finding :=
      fun _ _ _ h => Option.some.inj (h.found.symm.trans hfind)
    dsimp only
    -- its review run
    apply read_step (n := 1) (exec_getById pg ⟨start, faults.drop 1⟩ .aiReviewRuns
      Document.aiReviewRun? finding.reviewRunId)
    · intro outcome hout hnot
      apply hrefused outcome hout
      intro parsed finding' updated h
      obtain rfl := hsame _ _ _ h
      exact hnot ⟨h.reads 1 (by have := hearly parsed; omega), _, if_pos h.bindsRun⟩
    intro hfault1 run hrun
    obtain ⟨hbindsRun, rfl⟩ := of_bound hrun
    cases htenant : (recordById Document.aiReviewRun? .aiReviewRuns finding.reviewRunId start).any
        fun run => run.tenantId = request.tenantId with
    | false =>
      simp only [htenant, Bool.not_false, if_true]
      apply hrefused _ (refused_pure (by decide) _)
      intro parsed finding' updated h
      obtain rfl := hsame _ _ _ h
      cases htenant.symm.trans h.inTenant
    | true =>
    simp only [htenant, Bool.not_true, Bool.false_eq_true, if_false]
    -- the body
    cases hbody : request.body with
    | none =>
      apply hrefused _ (refused_pure (by decide) _)
      intro parsed finding' updated h
      cases hbody.symm.trans h.body
    | some parsed =>
    have hparsed : ∀ parsed' finding' updated,
        ReachesWrite pg request start faults parsed' finding' updated → parsed' = parsed :=
      fun _ _ _ h => Option.some.inj (h.body.symm.trans hbody)
    dsimp only
    cases hshape : ensureObjectBody parsed with
    | some message =>
      apply hrefused _ (refused_pure (Nat.le_refl 400) _)
      intro parsed' finding' updated h
      obtain rfl := hparsed _ _ _ h
      cases hshape.symm.trans h.shaped
    | none =>
    dsimp only
    cases hasked : parsed.hasTruthy "nextDisposition" with
    | false =>
      apply hrefused _ (refused_pure (by decide) _)
      intro parsed' finding' updated h
      obtain rfl := hparsed _ _ _ h
      cases hasked.symm.trans h.asked
    | true =>
    simp only [Bool.not_true, Bool.false_eq_true, if_false]
    -- the issue it names, and the `try` block
    have hcommit : ∀ n, readsOf parsed = n + 1 → (∀ i < n, faultAt faults i = none) →
        (parsed.hasTruthy "relatedIssueId" = true → pg.binds (.text request.tenantId) = true ∧
          ((tenantRecords Document.issue? .issues request.tenantId start).any
            fun issue => (relatedIssueIdOf parsed).isText issue.id) = true) →
        DispositionCases pg E request start faults draw
          (Effect.exec (handleApiRequest (tryCatch
            (writeDisposition pg E request finding (parsed.orElse "nextDisposition" .null)
              (relatedIssueIdOf parsed) draw)
            fun error => return badRequest error.message)) ⟨start, faults.drop n⟩) := by
      intro n hn hclear hrelated
      obtain ⟨hout, hnot⟩ | ⟨hfault, updated, hupdated, hexec⟩ :=
        route_tail E draw (n := n) (parsed.orElse "nextDisposition" .null)
          (relatedIssueIdOf parsed) hbinds hfind
      · apply hrefused _ hout
        intro parsed' finding' updated h
        obtain rfl := hparsed _ _ _ h
        obtain rfl := hsame _ _ _ h
        exact hnot ⟨h.reads n (by omega), updated, h.allowed⟩
      · refine Or.inr ⟨parsed, finding, updated, ?_, by rw [hn]; exact hexec⟩
        refine ⟨hauthorize, hbody, ?_, hbinds, hfind, hbindsRun, htenant, hshape, hasked, hrelated,
          hupdated⟩
        intro i hi
        obtain hlt | rfl : i < n ∨ i = n := by omega
        · exact hclear i hlt
        · exact hfault
    unfold relatedIssueRefusal
    cases hrelated : parsed.hasTruthy "relatedIssueId" with
    | false =>
      apply hcommit 2
      · simp [readsOf, hrelated]
      · intro i hi
        interval_cases i
        · exact hfault0
        · exact hfault1
      · simp [hrelated]
    | true =>
      simp only [Bool.not_true, Bool.false_eq_true, if_false, bind_assoc]
      apply read_step (n := 2) (exec_listByTenant pg ⟨start, faults.drop 2⟩ .issues
        Document.issue? request.tenantId)
      · intro outcome hout hnot
        apply hrefused outcome hout
        intro parsed' finding' updated h
        obtain rfl := hparsed _ _ _ h
        exact hnot ⟨h.reads 2 (hearly _), _, if_pos (h.related hrelated).1⟩
      intro hfault2 issues hissues
      obtain ⟨hbindsTenant, rfl⟩ := of_bound hissues
      cases hany : (tenantRecords Document.issue? .issues request.tenantId start).any
          fun issue => (relatedIssueIdOf parsed).isText issue.id with
      | false =>
        simp only [Bool.false_eq_true, if_false, pure_bind]
        apply hrefused _ (refused_pure (by decide) _)
        intro parsed' finding' updated h
        obtain rfl := hparsed _ _ _ h
        cases hany.symm.trans (h.related hrelated).2
      | true =>
        simp only [if_true, pure_bind]
        apply hcommit 3
        · simp [readsOf, hrelated]
        · intro i hi
          interval_cases i
          · exact hfault0
          · exact hfault1
          · exact hfault2
        · exact fun _ => ⟨hbindsTenant, hany⟩

/-- The rows once the finding is updated. -/
def updatedDatabase (pg : Postgres) (request : DispositionRequest) (start : PgDatabase)
    (updated : AiFinding) : PgDatabase :=
  Function.update start .aiFindings ((start .aiFindings).map fun row =>
    if selects [(.id, .text request.findingId)] row then
      assign (Postgres.dispositionColumns pg updated) row
    else row)

/-- The rows once the audit event is appended to them. -/
def appendedDatabase (db : PgDatabase) (event : AuditEvent) : PgDatabase :=
  Function.update db .auditEvents
    (db .auditEvents ++ [insertAudit.row pgSchema (auditParams event)])

/-- INTERNAL: the finding after the `UPDATE`. -/
theorem finding_updated {finding updated : AiFinding}
    (hfound : recordById Document.aiFinding? .aiFindings request.findingId start = some finding) :
    recordById Document.aiFinding? .aiFindings request.findingId
      (updatedDatabase pg request start updated) = some updated := by
  have hkeeps : ∀ row : PgRow, selects [(.id, .text request.findingId)]
      (assign (Postgres.dispositionColumns pg updated) row) =
      selects [(.id, .text request.findingId)] row := fun _ => rfl
  unfold recordById updatedDatabase
  rw [Function.update_self, filter_assigned hkeeps]
  cases hrows : (start .aiFindings).filter (selects [(.id, .text request.findingId)]) with
  | nil =>
    unfold recordById at hfound
    rw [hrows] at hfound
    cases hfound
  | cons row rows => rfl

/-- INTERNAL: the `UPDATE` leaves the chains. -/
theorem chain_updated (updated : AiFinding) :
    chainIn request.tenantId (updatedDatabase pg request start updated) =
      chainIn request.tenantId start := rfl

/-- INTERNAL: an appended event is the last of its chain. -/
theorem chain_appended {db : PgDatabase} {tenantId : String} {event : AuditEvent}
    (htenant : event.tenantId = tenantId) :
    chainIn tenantId (appendedDatabase db event) = chainIn tenantId db ++ [event] := by
  have hselected : selects [(.tenantId, .text tenantId)]
      (insertAudit.row pgSchema (auditParams event)) = true := by
    simp [selects, row_audit_tenantId, htenant]
  unfold chainIn tenantRecords appendedDatabase
  rw [Function.update_self, List.filter_append, List.filter_cons_of_pos hselected]
  unfold payloads
  rw [List.filterMap_append]
  rfl

/-- INTERNAL: a built event is one of its tenant, about its resource.
SOURCE: apps/api/src/handlers.js:290-303 -/
theorem built_event {audit : TenantAudit} {events : List AuditEvent} {event : AuditEvent}
    (h : buildTenantAuditEvent E audit events draw = .ok event) :
    event.tenantId = audit.tenantId ∧ event.action = audit.action ∧
      event.resourceId = audit.resourceId ∧ event.afterStateRef = audit.afterStateRef := by
  unfold buildTenantAuditEvent createAuditEvent at h
  split at h
  · cases h
  · obtain rfl := Except.ok.inj h
    exact ⟨rfl, rfl, rfl, rfl⟩

/-- INTERNAL: a finding takes the disposition it is given.
SOURCE: packages/ai-review/src/index.js:189-203 -/
theorem disposition_of_allowed {finding updated : AiFinding} {next related : Json}
    (h : setHumanDisposition finding next related = .ok updated) :
    updated.humanDisposition = next := by
  unfold setHumanDisposition at h
  dsimp only at h
  split at h
  · obtain ⟨shown, -, h⟩ := bind_eq_ok.mp h
    cases h
  · split at h
    · cases h
    · obtain rfl := Except.ok.inj h
      rfl

/-- INTERNAL: a request that ends between its two writes is evidenced when its `UPDATE` changed
nothing. -/
theorem evidenced_between (message : String) {finding updated : AiFinding}
    (hfound : recordById Document.aiFinding? .aiFindings request.findingId start = some finding) :
    DispositionEvidenced request start (badRequest message)
      (updatedDatabase pg request start updated) ↔ updated = finding := by
  constructor
  · intro h
    have hsame := (h.unchanged rfl).1
    rw [finding_updated hfound, hfound] at hsame
    exact Option.some.inj hsame
  · rintro rfl
    refine ⟨fun _ => ⟨(finding_updated hfound).trans hfound.symm, chain_updated updated⟩, ?_⟩
    intro h200
    cases h200

/-- INTERNAL: a request whose audit event is stored and whose answer is lost is not evidenced. -/
theorem not_evidenced_appended {db : PgDatabase} {event : AuditEvent} {message : String}
    (htenant : event.tenantId = request.tenantId)
    (hchain : chainIn request.tenantId db = chainIn request.tenantId start) :
    ¬ DispositionEvidenced request start (badRequest message) (appendedDatabase db event) := by
  intro h
  have hsame := (h.unchanged rfl).2
  rw [chain_appended htenant, hchain] at hsame
  simpa using congrArg List.length hsame

variable (E draw) in
/-- INTERNAL: what the writes of a request come to when its `UPDATE` is rejected or fails before it
has an effect. -/
theorem writes_refused {n : Nat} (finding : AiFinding) {updated : AiFinding}
    (h : pg.server.updateRefusal start .aiFindings (Postgres.dispositionColumns pg updated)
        [(.id, .text request.findingId)] ≠ none ∨ ∃ e, faultAt faults n = some (.before e)) :
    RefusedAt start (settled (Effect.exec (writesOf pg E request draw finding updated)
      ⟨start, faults.drop n⟩)) := by
  unfold writesOf
  simp only [Effect.exec_bind, queryUpdate, Faulty.exec_call, Server.exec_update, next_drop]
  cases hrefusal : pg.server.updateRefusal start .aiFindings
      (Postgres.dispositionColumns pg updated) [(.id, .text request.findingId)] with
  | some rejection =>
    cases faultAt faults n with
    | none => exact ⟨_, _, rfl, Nat.le_refl 400⟩
    | some fault => cases fault <;> exact ⟨_, _, rfl, Nat.le_refl 400⟩
  | none =>
    obtain hnone | ⟨e, he⟩ := h
    · exact absurd hrefusal hnone
    · rw [he]
      exact ⟨_, _, rfl, Nat.le_refl 400⟩

variable (E draw) in
/-- INTERNAL: what the writes of a request come to when its `UPDATE` is taken: with the evidence
appended or not, and with an answer or not.
SOURCE: apps/api/src/handlers.js:1229-1248 -/
theorem writes_taken {parsed : Json} (finding : AiFinding) {updated : AiFinding}
    (hrefusal : pg.server.updateRefusal start .aiFindings (Postgres.dispositionColumns pg updated)
      [(.id, .text request.findingId)] = none)
    (hbefore : ∀ e, faultAt faults (readsOf parsed) ≠ some (.before e)) :
    ∃ rest, (¬ AppendsEvidence pg E request start faults draw parsed finding updated ∧
        ∃ message, settled (Effect.exec (writesOf pg E request draw finding updated)
            ⟨start, faults.drop (readsOf parsed)⟩) =
          (.ok (badRequest message), ⟨updatedDatabase pg request start updated, rest⟩)) ∨
      AppendsEvidence pg E request start faults draw parsed finding updated ∧
        ∃ event, buildTenantAuditEvent E (dispositionAudit request finding updated)
            (chainIn request.tenantId start) draw = .ok event ∧ ∃ response,
          settled (Effect.exec (writesOf pg E request draw finding updated)
            ⟨start, faults.drop (readsOf parsed)⟩) =
          (.ok response, ⟨appendedDatabase (updatedDatabase pg request start updated) event,
            rest⟩) ∧
          ((faultAt faults (readsOf parsed + 2) = none ∧ response = .answered 200 updated) ∨
            faultAt faults (readsOf parsed + 2) ≠ none ∧
              ∃ message, response = badRequest message) := by
  have hupdate : Effect.exec (queryUpdate pg .aiFindings (Postgres.dispositionColumns pg updated)
      [(.id, .text request.findingId)]) ⟨start, faults.drop (readsOf parsed)⟩ =
      (Faulty.seen (faultAt faults (readsOf parsed)) (.ok ((start .aiFindings).filter
        (selects [(.id, .text request.findingId)])).length),
        ⟨updatedDatabase pg request start updated, faults.drop (readsOf parsed + 1)⟩) := by
    unfold queryUpdate
    rw [Faulty.exec_call, Server.exec_update, hrefusal, next_drop, List.tail_drop]
    cases hfault : faultAt faults (readsOf parsed) with
    | none => rfl
    | some fault =>
      cases fault with
      | before e => exact absurd hfault (hbefore e)
      | after e => rfl
  have hlist : Effect.exec (Postgres.listAuditEventsByTenant pg
      (dispositionAudit request finding updated).tenantId) ⟨updatedDatabase pg request start updated, faults.drop (readsOf parsed + 1)⟩ =
      (Faulty.seen (faultAt faults (readsOf parsed + 1))
        (if pg.binds (.text request.tenantId) then .ok (chainIn request.tenantId start)
        else .error (pg.reject .parameterValue)),
        ⟨updatedDatabase pg request start updated, faults.drop (readsOf parsed + 2)⟩) := by
    rw [exec_listAuditEventsByTenant, next_drop, List.tail_drop]
    rfl
  have hunanswered : ∀ {α : Type} {fault : Option (Fault JsError)} {answer : Except JsError α}
      {e : JsError}, Faulty.seen fault answer = .error e → ¬ (fault = none ∧ ∃ a, answer = .ok a) := by
    rintro α fault answer e hseen ⟨rfl, a, rfl⟩
    cases hseen
  unfold writesOf appendTenantAuditEvent
  simp only [Effect.exec_bind, hupdate]
  cases hseen : Faulty.seen (faultAt faults (readsOf parsed)) (.ok ((start .aiFindings).filter
      (selects [(.id, .text request.findingId)])).length) with
  | error e =>
    refine ⟨_, Or.inl ⟨fun happends => ?_, _, rfl⟩⟩
    exact hunanswered hseen ⟨happends.answered, _, rfl⟩
  | ok count =>
  simp only [hlist]
  cases hread : Faulty.seen (faultAt faults (readsOf parsed + 1))
      (if pg.binds (.text request.tenantId) then .ok (chainIn request.tenantId start)
        else .error (pg.reject .parameterValue)) with
  | error e =>
    refine ⟨_, Or.inl ⟨fun happends => ?_, _, rfl⟩⟩
    exact hunanswered hread ⟨happends.read.1, _, if_pos happends.read.2⟩
  | ok events =>
  obtain ⟨hfault1, hevents⟩ := Faulty.seen_eq_ok.mp hread
  obtain ⟨hbinds, rfl⟩ := of_bound hevents
  simp only [Effect.exec_lift]
  cases hevent : buildTenantAuditEvent E (dispositionAudit request finding updated)
      (chainIn request.tenantId start) draw with
  | error e =>
    refine ⟨_, Or.inl ⟨fun happends => ?_, _, rfl⟩⟩
    obtain ⟨event, hbuilt, -⟩ := happends.inserted
    cases hevent.symm.trans hbuilt
  | ok event =>
  have hinsert : pg.server.insertRefusal (updatedDatabase pg request start updated) insertAudit
      (auditParams event) = pg.server.insertRefusal start insertAudit (auditParams event) := rfl
  have hexec := Server.exec_insert pg.server (updatedDatabase pg request start updated)
    (rfl : insertAudit.onConflict = .reject) (auditParams event)
  rw [hinsert] at hexec
  simp only [Postgres.appendAuditEvent, queryInsert, Effect.exec_bind, Faulty.exec_call, hexec,
    next_drop]
  have hfault0 := (Faulty.seen_eq_ok.mp hseen).1
  cases hinserted : pg.server.insertRefusal start insertAudit (auditParams event) with
  | some rejection =>
    have hnot : ¬ AppendsEvidence pg E request start faults draw parsed finding updated := by
      intro happends
      obtain ⟨event', hbuilt, hnone⟩ := happends.inserted
      obtain rfl : event = event' := Except.ok.inj (hevent.symm.trans hbuilt)
      cases hinserted.symm.trans hnone
    cases faultAt faults (readsOf parsed + 2) with
    | none => exact ⟨_, Or.inl ⟨hnot, _, rfl⟩⟩
    | some fault => cases fault <;> exact ⟨_, Or.inl ⟨hnot, _, rfl⟩⟩
  | none =>
    have happends : (∀ e, faultAt faults (readsOf parsed + 2) ≠ some (.before e)) →
        AppendsEvidence pg E request start faults draw parsed finding updated :=
      fun heffective => ⟨hfault0, ⟨hfault1, hbinds⟩, ⟨event, hevent, hinserted⟩, heffective⟩
    cases hlast : faultAt faults (readsOf parsed + 2) with
    | none =>
      rw [hlast] at happends
      exact ⟨_, Or.inr ⟨happends (fun _ h => by cases h), event, rfl, _, rfl, Or.inl ⟨rfl, rfl⟩⟩⟩
    | some fault =>
      cases fault with
      | before e =>
        exact ⟨_, Or.inl ⟨fun h => h.effective e hlast, _, rfl⟩⟩
      | after e =>
        rw [hlast] at happends
        exact ⟨_, Or.inr ⟨happends (fun _ h => by cases h), event, rfl, _, rfl,
          Or.inr ⟨(fun h => by cases h), _, rfl⟩⟩⟩

/-- **The disposition of a finding is evidenced exactly when its request does not end between the
two writes, nor right after them.** A request whose `UPDATE` takes effect and which does not go
through loses its evidence, unless the `UPDATE` changed nothing.
SOURCE: apps/api/src/handlers.js:1183-1249; apps/api/src/repositories/postgres.js:710-721 -/
theorem disposition_evidenced (pg : Postgres) (E : Environment) (request : DispositionRequest)
    (start : PgDatabase) (faults : List (Option (Fault JsError))) (draw : AuditDraw) :
    EvidencedRun request start (runDisposition pg E request start faults draw) ↔
      ¬ LosesEvidence pg E request start faults draw := by
  obtain ⟨hrefused, hnot⟩ | ⟨parsed, finding, updated, hreaches, hrun⟩ :=
    disposition_cases pg E request start faults draw
  · constructor
    · rintro - ⟨parsed, finding, updated, hreaches, -⟩
      exact hnot parsed finding updated hreaches
    · intro _
      exact evidenced_of_refused hrefused
  rw [hrun]
  have hsame : ∀ parsed' finding' updated',
      ReachesWrite pg request start faults parsed' finding' updated' →
      parsed' = parsed ∧ finding' = finding ∧ updated' = updated := by
    intro parsed' finding' updated' h
    obtain rfl : parsed' = parsed := Option.some.inj (h.body.symm.trans hreaches.body)
    obtain rfl : finding' = finding := Option.some.inj (h.found.symm.trans hreaches.found)
    exact ⟨rfl, rfl, Except.ok.inj (h.allowed.symm.trans hreaches.allowed)⟩
  by_cases htaken : pg.server.updateRefusal start .aiFindings
      (Postgres.dispositionColumns pg updated) [(.id, .text request.findingId)] = none ∧
    ∀ e, faultAt faults (readsOf parsed) ≠ some (.before e)
  · have hloses : LosesEvidence pg E request start faults draw ↔
        ¬ (AppendsEvidence pg E request start faults draw parsed finding updated ∧
          faultAt faults (readsOf parsed + 2) = none) ∧
        (updated ≠ finding ∨
          AppendsEvidence pg E request start faults draw parsed finding updated) := by
      constructor
      · rintro ⟨parsed', finding', updated', h', -, -, hrest⟩
        obtain ⟨rfl, rfl, rfl⟩ := hsame _ _ _ h'
        exact hrest
      · intro hrest
        exact ⟨parsed, finding, updated, hreaches, htaken.2, htaken.1, hrest⟩
    rw [hloses]
    obtain ⟨rest, ⟨hnone, message, hout⟩ | ⟨happends, event, hbuilt, response, hout, hlast⟩⟩ :=
      writes_taken E draw finding htaken.1 htaken.2
    · rw [hout]
      have hkept : EvidencedRun request start (.ok (badRequest message),
          ⟨updatedDatabase pg request start updated, rest⟩) ↔ updated = finding := by
        rw [← evidenced_between message hreaches.found]
        constructor
        · rintro ⟨response, hresponse, h⟩
          obtain rfl := Except.ok.inj hresponse
          exact h
        · exact fun h => ⟨_, rfl, h⟩
      rw [hkept]
      tauto
    · rw [hout]
      obtain ⟨htenant, haction, hresource, hafter⟩ := built_event hbuilt
      obtain ⟨hnone, rfl⟩ | ⟨hlost, message, rfl⟩ := hlast
      · constructor
        · rintro - ⟨hnot, -⟩
          exact hnot ⟨happends, hnone⟩
        · intro _
          refine ⟨_, rfl, fun hfailed => ?_, fun _ => ?_⟩
          · cases hfailed
          · exact ⟨parsed, updated, event, hreaches.body, finding_updated hreaches.found,
              disposition_of_allowed hreaches.allowed, chain_appended htenant, haction, hresource,
              hafter⟩
      · constructor
        · rintro ⟨response, hresponse, h⟩
          obtain rfl := Except.ok.inj hresponse
          exact absurd h (not_evidenced_appended htenant (chain_updated updated))
        · intro hkept
          exact absurd ⟨fun h => hlost h.2, Or.inr happends⟩ hkept
  · have hrefused := writes_refused E draw finding (n := readsOf parsed)
      (not_and_or.mp htaken |>.imp id fun h => by push Not at h; exact h)
    constructor
    · rintro - ⟨parsed', finding', updated', h', hbefore, hnone, -⟩
      obtain ⟨rfl, rfl, rfl⟩ := hsame _ _ _ h'
      exact htaken ⟨hnone, hbefore⟩
    · intro _
      exact evidenced_of_refused hrefused

end

/-- A finding of `run-1` that waits for its disposition. -/
def pendingFinding : AiFinding where
  id := "finding-1"
  reviewRunId := "run-1"
  category := "missing_sheets"
  title := "Sheet A-101"
  description := "Potential issue: sheet A-101 is missing."
  severity := "medium"

/-- The database with that finding and its review run. -/
def findingDatabase : PgDatabase
  | .tenants => [fun
    | .id => .text "tenant-a"
    | .name => .text "Tenant A"
    | .status => .text "active"
    | .staged => .boolean true
    | _ => .null]
  | .aiReviewRuns => [fun
    | .id => .text "run-1"
    | .tenantId => .text "tenant-a"
    | .projectId => .text "project-1"
    | .status => .text "queued"
    | .payload => .document (.aiReviewRun
        { id := "run-1", tenantId := "tenant-a", projectId := "project-1"
          artifactType := "drawing_sheet", artifactId := "sheet-1" })
    | _ => .null]
  | .aiFindings => [fun
    | .id => .text "finding-1"
    | .tenantId => .text "tenant-a"
    | .reviewRunId => .text "run-1"
    | .category => .text "missing_sheets"
    | .severity => .text "medium"
    | .humanDisposition => .text "pending"
    | .payload => .document (.aiFinding pendingFinding)
    | _ => .null]
  | _ => []

/-- The request that accepts the finding. -/
def acceptRequest : DispositionRequest where
  tenantId := "tenant-a"
  findingId := "finding-1"
  principal := { tenantId := some "tenant-a", organizationRole := some "company_admin" }
  body := some (.object [("nextDisposition", .string "accepted")])

/-- **A disposition can be stored without evidence**: the read of the audit chain fails after the
`UPDATE`, and the request is refused.
SOURCE: apps/api/src/handlers.js:1222-1248 -/
theorem disposition_unevidenced :
    ¬ ∀ faults, EvidencedRun acceptRequest findingDatabase (runDisposition roomyPostgres
      sinkEnvironment acceptRequest findingDatabase faults ⟨"e", "c", "r", "t"⟩) := by
  intro hall
  let faults : List (Option (Fault JsError)) :=
    [none, none, none, none, some (.before (newError "connection terminated"))]
  obtain ⟨response, hresponse, hkept⟩ := hall faults
  have hrun : ((runDisposition roomyPostgres sinkEnvironment acceptRequest findingDatabase faults
      ⟨"e", "c", "r", "t"⟩).1.toOption.any fun response => !response.succeeded) = true ∧
      ((recordById Document.aiFinding? .aiFindings "finding-1" (runDisposition roomyPostgres
        sinkEnvironment acceptRequest findingDatabase faults ⟨"e", "c", "r", "t"⟩).2.store).any
        fun finding => finding.humanDisposition.isText "accepted") = true := by
    decide +kernel
  rw [hresponse] at hrun
  have hfailed : response.succeeded = false := (Bool.not_eq_true' _).mp hrun.1
  have hsame := (hkept.unchanged hfailed).1
  rw [show acceptRequest.findingId = "finding-1" from rfl] at hsame
  rw [hsame] at hrun
  exact absurd hrun.2 (by decide +kernel)

end Xygo.Analysis
