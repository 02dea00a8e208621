import Xygo.Computation.Triple
import Xygo.Model.FindingRoutes

/-!
# The dispositions of stored findings

A finding has one of five dispositions, and a converted one names an issue of its tenant. The
disposition route sees to both. The creation of a finding takes the disposition of the body as it
is, so the rule holds all along a run exactly when each body that is stored gives none of its own
or one that needs no issue.
-/

set_option autoImplicit false

namespace Xygo.Analysis

open Xygo.Computation Xygo.Computation.Effect Xygo.Model Xygo.Model.Findings

/-- The stores the rule is about. -/
structure FindingRecords where
  issues : Table CoordinationIssue.id
  reviewRuns : Table AiReviewRun.id
  findings : Table AiFinding.id

/-- The stores of a repository the rule is about. -/
def findingRecords (r : MemoryRepository) : FindingRecords :=
  ⟨r.issueStore, r.aiReviewRunStore, r.aiFindingStore⟩

/-- A finding as the rule has it: a disposition of the set, and for a converted one an issue in the
tenant of its review run. -/
structure DispositionSound (records : FindingRecords) (finding : AiFinding) : Prop where
  known : humanDispositionSet.any finding.humanDisposition.isText = true
  related : finding.humanDisposition.isText "converted_to_issue" = true →
    ∃ issue reviewRun, finding.relatedIssueId = some (.string issue.id) ∧
      records.issues.get issue.id = some issue ∧
      records.reviewRuns.get finding.reviewRunId = some reviewRun ∧
      issue.tenantId = reviewRun.tenantId

/-- Every stored finding is as the rule has it. -/
def FindingsSound (records : FindingRecords) : Prop :=
  ∀ finding ∈ records.findings.values, DispositionSound records finding

/-- The response that is replayed for a request.
SOURCE: apps/api/src/handlers.js:34-41; apps/api/src/reliability/idempotency.js:8-18 -/
def replayed (s : FindingStores) (request : FindingRequest) (path : String)
    (clientKey : Option String) : Option (Response Item) :=
  (FieldReports.usableClientKey clientKey).bind fun clientKey =>
    ((s.idempotency.get (FieldReports.idempotencyKeyFor request.tenantId.text path clientKey)).filter
      fun entry => request.lookedUpAt < entry.expiresAt).map IdempotencyEntry.response

/-- A body passes the checks before the constructor.
SOURCE: apps/api/src/handlers.js:596-609 -/
def admits {α : Type} (resource : CollectionResource α) (r : MemoryRepository) (tenantId : String)
    (parsed : Json) : Bool :=
  (ensureObjectBody parsed).isNone && (resource.validate parsed).isNone &&
    (resource.guard r tenantId parsed).isNone

/-- The body a request gets to the constructor with.
SOURCE: apps/api/src/handlers.js:596-609, 986-1010 -/
def submitted {α : Type} (resource : CollectionResource α) (s : FindingStores)
    (request : FindingRequest) (path : String) (clientKey : Option String) (body : Option Json) :
    Option Json :=
  if (authorize request.principal request.tenantId.text resource.resourceType "create").isSome ||
      (replayed s request path clientKey).isSome then none
  else body.filter (admits resource s.repository request.tenantId.text)

/-- The records the operation of the repository leaves, if there is a body to make a record of. -/
def recordsAfter {α : Type} (resource : CollectionResource α) (tenantId : String) (body : Option Json)
    (r : MemoryRepository) : FindingRecords :=
  match body with
  | some parsed => findingRecords (exec (resource.create (resource.build parsed tenantId)) r).2
  | none => findingRecords r

/-- The dispositions that need no issue. -/
def unrelatedDispositions : List String :=
  ["pending", "accepted", "rejected_false_positive", "needs_more_information"]

/-- A body leaves the disposition of its finding out, or gives one that needs no issue. -/
def NeedsNoIssue (parsed : Json) : Prop :=
  unrelatedDispositions.any (parsed.orElse "humanDisposition" (.string "pending")).isText = true

/-- A request stores a new finding of a body: it gets to the constructor, which takes the body, and
the id is free.
SOURCE: apps/api/src/repositories/memory.js:183-195 -/
structure StoresFinding (s : FindingStores) (request : FindingRequest) (path : String)
    (clientKey : Option String) (body : Option Json) (parsed : Json) (finding : AiFinding) :
    Prop where
  asked : request.action = .create .aiFindings path clientKey body
  submits : submitted aiFindings s request path clientKey body = some parsed
  takes : createFinding (aiFindings.build parsed request.tenantId.text).staged = .ok finding
  fresh : s.repository.aiFindingStore.has finding.id = false

/-- **When a request keeps the rule**: where it stores a finding, the body leaves the disposition
out or gives one that needs no issue. -/
def StoresUnrelated (s : FindingStores) (request : FindingRequest) : Prop :=
  ∀ path clientKey body parsed finding,
    StoresFinding s request path clientKey body parsed finding → NeedsNoIssue parsed

section

variable {P : Platform} {request : FindingRequest}

/-- INTERNAL: a request leaves what its route leaves.
SOURCE: apps/api/src/handlers.js:650-663 -/
theorem store_handleApiRequest {σ β : Type} (m : Effect JsError σ (Response β)) (s : σ) :
    (exec (handleApiRequest m) s).2 = (exec m s).2 := by
  unfold handleApiRequest
  rw [exec_tryCatch]
  rcases exec m s with ⟨e | a, t⟩ <;> rfl

variable (P request) in
/-- INTERNAL: evidence is stored beside the records.
SOURCE: apps/api/src/repositories/memory.js:345-348 -/
theorem findingRecords_appendEvidence (audit : TenantAudit) (r : MemoryRepository) :
    findingRecords (exec (appendEvidence P request audit) r).2 = findingRecords r := by
  unfold appendEvidence appendAuditEvent
  simp only [exec_bind, exec_get, exec_lift]
  cases buildTenantAuditEvent ⟨P, "", request.signingKey⟩ audit
    (r.listAuditEventsByTenant audit.tenantId) request.auditDraw <;> rfl

/-- INTERNAL: evidence changes no record of the stores. -/
theorem keeps_appendEvidence (records : FindingRecords) (audit : TenantAudit) :
    Keeps (fun s : FindingStores => findingRecords s.repository = records)
      (Findings.onRepository (appendEvidence P request audit)) := by
  have hevidence : Keeps (fun r => findingRecords r = records)
      (appendEvidence P request audit) := by
    apply Triple.of_exec
    intro r hr
    have hsame := findingRecords_appendEvidence P request audit r
    rcases hrun : exec (appendEvidence P request audit) r with ⟨e | a, t⟩ <;>
      · rw [hrun] at hsame
        exact hsame.trans hr
  exact Triple.focus hevidence fun _ _ => rfl

variable (P request) in
/-- INTERNAL: the records a creation leaves are those of the repository's operation.
SOURCE: apps/api/src/handlers.js:611-644 -/
theorem findingRecords_persistCreated {α : Type} (resource : CollectionResource α)
    (item : α → Item) (parsed : Json) (s : FindingStores) :
    findingRecords (exec (persistCreated P resource item request parsed) s).2.repository =
      findingRecords
        (exec (resource.create (resource.build parsed request.tenantId.text)) s.repository).2 := by
  unfold persistCreated
  rw [exec_bind, Findings.onRepository, exec_focus]
  rcases exec (resource.create (resource.build parsed request.tenantId.text)) s.repository
    with ⟨e | created, r⟩
  · rfl
  · have hrest : Keeps (fun s : FindingStores => findingRecords s.repository = findingRecords r)
        (do
          Findings.onRepository (appendEvidence P request
            { tenantId := request.tenantId.text
              actorId := request.principal.userId
              action := resource.action
              resourceType := resource.resourceType
              resourceId := resource.id created
              afterStateRef := resource.afterStateRef created })
          Findings.onOutbox (enqueueCreated resource request created)
          return Response.answered 201 (item created)) :=
      Triple.bind (keeps_appendEvidence _ _) fun _ =>
        Triple.bind (Keeps.frame fun _ _ hs => hs) fun _ => Triple.pure fun _ hs => hs
    exact hrest.store (s := { s with repository := r }) rfl

/-- INTERNAL: the records a handled creation leaves.
SOURCE: apps/api/src/handlers.js:593-648 -/
theorem findingRecords_handleCollectionCreate {α : Type} (resource : CollectionResource α)
    (item : α → Item) (body : Option Json) (s : FindingStores) :
    findingRecords (exec (handleCollectionCreate P resource item request body) s).2.repository =
      recordsAfter resource request.tenantId.text
        (body.filter (admits resource s.repository request.tenantId.text)) s.repository := by
  unfold handleCollectionCreate
  cases body with
  | none => rfl
  | some parsed =>
    rw [Option.filter_some]
    unfold admits
    dsimp only
    cases ensureObjectBody parsed with
    | some message => rfl
    | none =>
      cases resource.validate parsed with
      | some message => rfl
      | none =>
        simp only [exec_bind, exec_get]
        cases resource.guard s.repository request.tenantId.text parsed with
        | some message => rfl
        | none =>
          have hpersist := findingRecords_persistCreated P request resource item parsed s
          refine Eq.trans ?_ hpersist
          dsimp only
          rw [exec_tryCatch]
          rcases exec (persistCreated P resource item request parsed) s with ⟨e | a, t⟩ <;> rfl

/-- INTERNAL: looking a response up writes no record.
SOURCE: apps/api/src/reliability/idempotency.js:8-18 -/
theorem exec_lookUp (key : String) (now : Int) (s : FindingStores) :
    ∃ t, t.repository = s.repository ∧
      exec (idempotencyGet key now) s =
        (.ok (((s.idempotency.get key).filter fun entry => now < entry.expiresAt).map
          IdempotencyEntry.response), t) := by
  unfold idempotencyGet
  rw [exec_bind, exec_get]
  dsimp only
  cases s.idempotency.get key with
  | none => exact ⟨s, rfl, rfl⟩
  | some entry =>
    dsimp only
    rw [Option.filter_some]
    by_cases hexpired : now ≥ entry.expiresAt
    · rw [if_pos hexpired, if_neg (by simpa using hexpired)]
      exact ⟨{ s with idempotency := s.idempotency.erase key }, rfl, rfl⟩
    · rw [if_neg hexpired, if_pos (by simpa using hexpired)]
      exact ⟨s, rfl, rfl⟩

/-- INTERNAL: keeping a response writes no record.
SOURCE: apps/api/src/handlers.js:42-46 -/
theorem repository_remember (key : String) (now : Int) (compute : FindingM (Response Item))
    (s : FindingStores) :
    (exec (do
        let result ← compute
        if result.succeeded then idempotencySet key result now
        return result) s).2.repository = (exec compute s).2.repository := by
  rw [exec_bind]
  rcases exec compute s with ⟨e | result, t⟩
  · rfl
  · unfold idempotencySet
    simp only [exec_bind, exec_ite, exec_modify, exec_pure]
    split <;> rfl

/-- INTERNAL: a replayed request changes no record, and any other leaves those of its computation.
SOURCE: apps/api/src/handlers.js:32-47 -/
theorem findingRecords_withIdempotency {path : String} {clientKey : Option String}
    {compute : FindingM (Response Item)} (leaves : MemoryRepository → FindingRecords)
    (hcompute : ∀ t, findingRecords (exec compute t).2.repository = leaves t.repository)
    (s : FindingStores) :
    findingRecords (exec (withIdempotency request path clientKey compute) s).2.repository =
      if (replayed s request path clientKey).isSome then findingRecords s.repository
      else leaves s.repository := by
  unfold withIdempotency
  cases hkey : FieldReports.usableClientKey clientKey with
  | none =>
    have hcached : replayed s request path clientKey = none := by
      rw [replayed, hkey, Option.bind_none]
    rw [hcached]
    exact hcompute s
  | some key =>
    obtain ⟨t, ht, hlookup⟩ := exec_lookUp
      (FieldReports.idempotencyKeyFor request.tenantId.text path key) request.lookedUpAt s
    have hcached : replayed s request path clientKey =
        ((s.idempotency.get (FieldReports.idempotencyKeyFor request.tenantId.text path key)).filter
          fun entry => request.lookedUpAt < entry.expiresAt).map IdempotencyEntry.response := by
      rw [replayed, hkey, Option.bind_some]
    rw [← hcached] at hlookup
    dsimp only
    rw [exec_bind, hlookup]
    cases replayed s request path clientKey with
    | none =>
      dsimp only
      rw [repository_remember, hcompute, ht]
      rfl
    | some response =>
      rw [← ht]
      rfl

/-- INTERNAL: the records a request to a collection leaves.
SOURCE: apps/api/src/handlers.js:986-1014 -/
theorem findingRecords_collectionRoute {α : Type} (resource : CollectionResource α)
    (item : α → Item) (path : String) (clientKey : Option String) (body : Option Json)
    (s : FindingStores) :
    findingRecords (exec (collectionRoute P resource item request path clientKey body) s).2.repository
      = recordsAfter resource request.tenantId.text
          (submitted resource s request path clientKey body) s.repository := by
  unfold collectionRoute submitted
  cases authorize request.principal request.tenantId.text resource.resourceType "create" with
  | some denied => rfl
  | none =>
    dsimp only
    rw [findingRecords_withIdempotency (fun r => recordsAfter resource request.tenantId.text
      (body.filter (admits resource r request.tenantId.text)) r)
      (findingRecords_handleCollectionCreate resource item body)]
    cases replayed s request path clientKey <;> rfl

/-- INTERNAL: a project is no record of the rule. -/
theorem findingRecords_createProject (input : Json) (r : MemoryRepository) :
    findingRecords (exec (MemoryRepository.createProject input) r).2 = findingRecords r := by
  unfold MemoryRepository.createProject
  rw [exec_bind, exec_lift]
  cases Model.createProject input.staged with
  | error e => rfl
  | ok project =>
    simp only [exec_bind, exec_get, exec_ite, exec_throw, exec_set, exec_pure]
    split <;> rfl

/-- INTERNAL: an issue is added under a free id.
SOURCE: apps/api/src/repositories/memory.js:92-104 -/
theorem findingRecords_createIssue (input : Json) (r : MemoryRepository) :
    findingRecords (exec (MemoryRepository.createIssue input) r).2 = findingRecords r ∨
      ∃ issue, r.issueStore.has issue.id = false ∧
        findingRecords (exec (MemoryRepository.createIssue input) r).2 =
          { findingRecords r with issues := r.issueStore.put issue } := by
  unfold MemoryRepository.createIssue
  rw [exec_bind, exec_lift]
  cases createCoordinationIssue input.staged with
  | error e => exact Or.inl rfl
  | ok issue =>
    simp only [exec_bind, exec_get, exec_ite, exec_throw, exec_set, exec_pure]
    split
    · exact Or.inl rfl
    · rename_i hfree
      exact Or.inr ⟨issue, by simpa using hfree, rfl⟩

/-- INTERNAL: a review run is added under a free id.
SOURCE: apps/api/src/repositories/memory.js:161-173 -/
theorem findingRecords_createAiReviewRun (input : Json) (r : MemoryRepository) :
    findingRecords (exec (MemoryRepository.createAiReviewRun input) r).2 = findingRecords r ∨
      ∃ reviewRun, r.aiReviewRunStore.has reviewRun.id = false ∧
        findingRecords (exec (MemoryRepository.createAiReviewRun input) r).2 =
          { findingRecords r with reviewRuns := r.aiReviewRunStore.put reviewRun } := by
  unfold MemoryRepository.createAiReviewRun
  rw [exec_bind, exec_lift]
  cases createReviewRun input.staged with
  | error e => exact Or.inl rfl
  | ok reviewRun =>
    simp only [exec_bind, exec_get, exec_ite, exec_throw, exec_set, exec_pure]
    split
    · exact Or.inl rfl
    · rename_i hfree
      exact Or.inr ⟨reviewRun, by simpa using hfree, rfl⟩

/-- INTERNAL: a finding is added if the constructor takes the input and its id is free, and nothing
is otherwise.
SOURCE: apps/api/src/repositories/memory.js:183-195 -/
theorem findingRecords_createAiFinding (input : Json) (r : MemoryRepository) :
    (∃ finding, createFinding input.staged = .ok finding ∧
        r.aiFindingStore.has finding.id = false ∧
        findingRecords (exec (MemoryRepository.createAiFinding input) r).2 =
          { findingRecords r with findings := r.aiFindingStore.put finding }) ∨
      (∀ finding, createFinding input.staged = .ok finding →
        r.aiFindingStore.has finding.id = true) ∧
        findingRecords (exec (MemoryRepository.createAiFinding input) r).2 = findingRecords r := by
  unfold MemoryRepository.createAiFinding
  rw [exec_bind, exec_lift]
  cases createFinding input.staged with
  | error e =>
    refine Or.inr ⟨fun finding h => ?_, rfl⟩
    cases h
  | ok finding =>
    simp only [exec_bind, exec_get, exec_ite, exec_throw, exec_set, exec_pure]
    split
    · rename_i htaken
      refine Or.inr ⟨fun own h => ?_, rfl⟩
      obtain rfl := Except.ok.inj h
      exact htaken
    · rename_i hfree
      exact Or.inl ⟨finding, rfl, by simpa using hfree, rfl⟩

variable (P request) in
/-- INTERNAL: the records a disposition leaves are those of the repository's operation.
SOURCE: apps/api/src/handlers.js:1222-1245 -/
theorem findingRecords_persistDisposition (findingId : PathPart) (finding : AiFinding)
    (parsed : Json) (s : FindingStores) :
    findingRecords (exec (persistDisposition P request findingId finding parsed) s).2.repository =
      findingRecords (exec (MemoryRepository.setAiFindingDisposition findingId.text
        (parsed.orElse "nextDisposition" .null) (relatedIssueIdOf parsed)) s.repository).2 := by
  unfold persistDisposition
  rw [exec_bind, Findings.onRepository, exec_focus]
  rcases exec (MemoryRepository.setAiFindingDisposition findingId.text
    (parsed.orElse "nextDisposition" .null) (relatedIssueIdOf parsed)) s.repository
    with ⟨e | updated, r⟩
  · rfl
  · have hrest : Keeps (fun s : FindingStores => findingRecords s.repository = findingRecords r)
        (do
          Findings.onRepository (appendEvidence P request
            (dispositionAudit (dispositionOf request findingId (some parsed)) finding updated))
          return Response.answered 200 (Item.finding updated)) :=
      Triple.bind (keeps_appendEvidence _ _) fun _ => Triple.pure fun _ hs => hs
    exact hrest.store (s := { s with repository := r }) rfl

/-- INTERNAL: a finding a disposition may be made on is stored, and one of the tenant's.
SOURCE: apps/api/src/handlers.js:1194-1205 -/
theorem findFinding_eq_ok {findingId : PathPart} {r : MemoryRepository} {finding : AiFinding}
    (h : findFinding request findingId r = .ok finding) :
    r.aiFindingStore.get findingId.text = some finding ∧
      r.findingInTenant request.tenantId.text finding = true := by
  unfold findFinding MemoryRepository.getAiFindingById at h
  split at h
  · cases h
  split at h
  · cases h
  rename_i hget
  split at h
  · obtain rfl := Except.ok.inj h
    exact ⟨hget, by assumption⟩
  · cases h

/-- A disposition of a stored finding that passes the checks of the route.
SOURCE: apps/api/src/handlers.js:1183-1227 -/
structure Disposes (request : FindingRequest) (r : MemoryRepository) (parsed : Json)
    (finding updated : AiFinding) : Prop where
  stored : r.aiFindingStore.get finding.id = some finding
  inTenant : r.findingInTenant request.tenantId.text finding = true
  related : Findings.relatedIssueRefusal r request.tenantId.text parsed = none
  allowed : setHumanDisposition finding (parsed.orElse "nextDisposition" .null)
    (relatedIssueIdOf parsed) = .ok updated

variable (P request) in
/-- INTERNAL: what the disposition route leaves.
SOURCE: apps/api/src/handlers.js:1183-1249 -/
theorem findingRecords_dispositionRoute (findingId : PathPart) (body : Option Json)
    (s : FindingStores) :
    findingRecords (exec (Findings.dispositionRoute P request findingId body) s).2.repository =
        findingRecords s.repository ∨
      ∃ parsed finding updated, Disposes request s.repository parsed finding updated ∧
        findingRecords (exec (Findings.dispositionRoute P request findingId body) s).2.repository =
          { findingRecords s.repository with
            findings := s.repository.aiFindingStore.put updated } := by
  unfold Findings.dispositionRoute
  rw [exec_bind, exec_get]
  dsimp only
  cases hfind : findFinding request findingId s.repository with
  | error refusal => exact Or.inl rfl
  | ok finding =>
    obtain ⟨hstored, hinTenant⟩ := findFinding_eq_ok hfind
    cases body with
    | none => exact Or.inl rfl
    | some parsed =>
      dsimp only
      cases ensureObjectBody parsed with
      | some message => exact Or.inl rfl
      | none =>
        cases parsed.hasTruthy "nextDisposition" with
        | false => exact Or.inl rfl
        | true =>
          cases hrelated : relatedIssueRefusal s.repository request.tenantId.text parsed with
          | some refusal => exact Or.inl rfl
          | none =>
            have hpersist := findingRecords_persistDisposition P request findingId finding parsed s
            have hroute : findingRecords (exec (tryCatch
                (persistDisposition P request findingId finding parsed)
                fun error => return badRequest error.message) s).2.repository =
                findingRecords (exec (MemoryRepository.setAiFindingDisposition findingId.text
                  (parsed.orElse "nextDisposition" .null) (relatedIssueIdOf parsed))
                  s.repository).2 := by
              rw [← hpersist, exec_tryCatch]
              rcases exec (persistDisposition P request findingId finding parsed) s
                with ⟨e | a, t⟩ <;> rfl
            unfold MemoryRepository.setAiFindingDisposition at hroute
            rw [exec_bind, exec_get] at hroute
            dsimp only at hroute
            rw [hstored] at hroute
            dsimp only at hroute
            rw [exec_bind, exec_lift] at hroute
            cases hallowed : setHumanDisposition finding (parsed.orElse "nextDisposition" .null)
                (relatedIssueIdOf parsed) with
            | error e =>
              rw [hallowed] at hroute
              exact Or.inl hroute
            | ok updated =>
              rw [hallowed] at hroute
              refine Or.inr ⟨parsed, finding, updated, ⟨?_, hinTenant, hrelated, hallowed⟩, hroute⟩
              rw [Table.key_of_get hstored]
              exact hstored

end

section

variable {records after : FindingRecords} {finding : AiFinding}

/-- INTERNAL: a value that is one text is no other. -/
theorem isText_inj {value : Json} {a b : String} (ha : value.isText a = true)
    (hb : value.isText b = true) : a = b := by
  cases value with
  | string own =>
    have hown : own = a := of_decide_eq_true ha
    have hown' : own = b := of_decide_eq_true hb
    exact hown.symm.trans hown'
  | _ => cases ha

/-- INTERNAL: the rule is about one finding's own issue and review run, which stay when others are
added. -/
theorem DispositionSound.mono (h : DispositionSound records finding)
    (hissues : ∀ id issue, records.issues.get id = some issue → after.issues.get id = some issue)
    (hruns : ∀ id reviewRun, records.reviewRuns.get id = some reviewRun →
      after.reviewRuns.get id = some reviewRun) : DispositionSound after finding := by
  refine ⟨h.known, fun hconverted => ?_⟩
  obtain ⟨issue, reviewRun, hrelated, hissue, hrun, htenant⟩ := h.related hconverted
  exact ⟨issue, reviewRun, hrelated, hissues _ _ hissue, hruns _ _ hrun, htenant⟩

/-- INTERNAL: a record under a new key leaves what is found under the others. -/
theorem get_put_of_fresh {κ β : Type} [DecidableEq κ] {key : β → κ} {t : Table key} {v w : β}
    (hfresh : t.has (key v) = false) {k : κ} (h : t.get k = some w) : (t.put v).get k = some w := by
  rw [Table.get_put]
  split
  · rename_i hk
    rw [Table.has, ← hk, h] at hfresh
    cases hfresh
  · exact h

/-- INTERNAL: a new issue keeps the rule. -/
theorem findingsSound_issue {issue : CoordinationIssue} (h : FindingsSound records)
    (hfresh : records.issues.has issue.id = false) :
    FindingsSound { records with issues := records.issues.put issue } :=
  fun finding hmem => (h finding hmem).mono (fun _ _ => get_put_of_fresh hfresh) fun _ _ hrun => hrun

/-- INTERNAL: a new review run keeps the rule. -/
theorem findingsSound_reviewRun {reviewRun : AiReviewRun} (h : FindingsSound records)
    (hfresh : records.reviewRuns.has reviewRun.id = false) :
    FindingsSound { records with reviewRuns := records.reviewRuns.put reviewRun } :=
  fun finding hmem => (h finding hmem).mono (fun _ _ hissue => hissue) fun _ _ =>
    get_put_of_fresh hfresh

/-- INTERNAL: a stored finding keeps the rule exactly when it is as the rule has it. -/
theorem findingsSound_put (h : FindingsSound records) :
    FindingsSound { records with findings := records.findings.put finding } ↔
      DispositionSound records finding := by
  constructor
  · intro hafter
    obtain ⟨hknown, hrelated⟩ := hafter finding (Table.mem_values_put.mpr (Or.inl rfl))
    exact ⟨hknown, hrelated⟩
  · intro hfinding stored hmem
    obtain rfl | ⟨hmem, -⟩ := Table.mem_values_put.mp hmem
    · exact ⟨hfinding.known, hfinding.related⟩
    · obtain ⟨hknown, hrelated⟩ := h stored hmem
      exact ⟨hknown, hrelated⟩

/-- INTERNAL: a finding that is made of a body has the disposition of the body, and no issue.
SOURCE: packages/ai-review/src/index.js:136-173; apps/api/src/handlers.js:489-506 -/
theorem createFinding_build {parsed : Json} {tenantId : String}
    (h : createFinding (aiFindings.build parsed tenantId).staged = .ok finding) :
    finding.humanDisposition = parsed.orElse "humanDisposition" (.string "pending") ∧
      finding.relatedIssueId = none := by
  unfold createFinding at h
  simp only [bind_eq_ok] at h
  obtain ⟨id, -, reviewRunId, -, category, -, title, -, description, -, severity, -, h⟩ := h
  split at h
  · cases h
  split at h
  · cases h
  obtain rfl := Except.ok.inj h
  refine ⟨?_, rfl⟩
  have hmember : (aiFindings.build parsed tenantId).staged.member? "humanDisposition" =
      some (parsed.orElse "humanDisposition" (.string "pending")) := by
    simp [aiFindings, Json.staged, Json.member?, List.lookup]
  dsimp only
  rw [Json.orElse, hmember]
  unfold Json.orElse
  rcases parsed.member? "humanDisposition" with _ | (_ | _ | _ | _ | _ | _) <;> rfl

/-- INTERNAL: a finding of a body is as the rule has it exactly when the body gives it a
disposition that needs no issue. -/
theorem dispositionSound_created {parsed : Json} {tenantId : String}
    (h : createFinding (aiFindings.build parsed tenantId).staged = .ok finding) :
    DispositionSound records finding ↔ NeedsNoIssue parsed := by
  obtain ⟨hdisposition, hissue⟩ := createFinding_build h
  have hset : humanDispositionSet = unrelatedDispositions ++ ["converted_to_issue"] := rfl
  constructor
  · rintro ⟨hknown, hrelated⟩
    rw [hset, List.any_append, hdisposition, Bool.or_eq_true] at hknown
    rw [hdisposition, hissue] at hrelated
    obtain hunrelated | hconverted := hknown
    · exact hunrelated
    · obtain ⟨issue, reviewRun, hnone, -⟩ := hrelated (by simpa using hconverted)
      cases hnone
  · intro hunrelated
    refine ⟨?_, fun hconverted => ?_⟩
    · rw [hset, List.any_append, hdisposition, Bool.or_eq_true]
      exact Or.inl hunrelated
    · rw [hdisposition] at hconverted
      obtain ⟨text, hmem, htext⟩ := List.any_eq_true.mp hunrelated
      rw [isText_inj htext hconverted] at hmem
      exact absurd hmem (by decide)

/-- INTERNAL: what a disposition asks for, and what it leaves.
SOURCE: packages/ai-review/src/index.js:189-203 -/
theorem setHumanDisposition_eq_ok {updated : AiFinding} {nextDisposition relatedIssueId : Json}
    (h : setHumanDisposition finding nextDisposition relatedIssueId = .ok updated) :
    humanDispositionSet.any nextDisposition.isText = true ∧
      (nextDisposition.isText "converted_to_issue" = true → relatedIssueId.truthy = true) ∧
      updated = { finding with
        humanDisposition := nextDisposition
        relatedIssueId := some relatedIssueId } := by
  unfold setHumanDisposition at h
  dsimp only at h
  by_cases hknown : humanDispositionSet.any nextDisposition.isText = true
  · rw [hknown, Bool.not_true, if_neg Bool.false_ne_true] at h
    by_cases hissue : (nextDisposition.isText "converted_to_issue" && !relatedIssueId.truthy) = true
    · rw [if_pos hissue] at h
      cases h
    · rw [if_neg hissue] at h
      refine ⟨hknown, fun hconverted => ?_, (Except.ok.inj h).symm⟩
      simpa [hconverted] using hissue
  · rw [if_pos (by simpa using hknown)] at h
    obtain ⟨shown, -, h⟩ := bind_eq_ok.mp h
    cases h

/-- INTERNAL: a disposition makes a finding that is as the rule has it.
SOURCE: packages/ai-review/src/index.js:189-203; apps/api/src/handlers.js:1213-1219 -/
theorem dispositionSound_disposed {request : FindingRequest} {r : MemoryRepository} {parsed : Json}
    {updated : AiFinding} (h : Disposes request r parsed finding updated) :
    DispositionSound (findingRecords r) updated := by
  obtain ⟨hknown, hissue, rfl⟩ := setHumanDisposition_eq_ok h.allowed
  refine ⟨hknown, fun hconverted => ?_⟩
  have htruthy : (relatedIssueIdOf parsed).truthy = true := hissue hconverted
  have hnamed : parsed.hasTruthy "relatedIssueId" = true := by
    unfold relatedIssueIdOf Json.orElse at htruthy
    unfold Json.hasTruthy
    rcases hmember : parsed.member? "relatedIssueId" with _ | value
    · rw [hmember] at htruthy
      cases htruthy
    · rw [hmember] at htruthy
      cases value <;> exact htruthy
  have hrelated := h.related
  unfold Findings.relatedIssueRefusal at hrelated
  rw [hnamed, Bool.not_true, if_neg Bool.false_ne_true] at hrelated
  split at hrelated
  · rename_i hany
    obtain ⟨issue, hmem, htext⟩ := List.any_eq_true.mp hany
    obtain ⟨hstored, htenant⟩ := List.mem_filter.mp hmem
    obtain ⟨reviewRun, hrun, hruntenant⟩ : ∃ reviewRun,
        r.aiReviewRunStore.get finding.reviewRunId = some reviewRun ∧
          decide (reviewRun.tenantId = request.tenantId.text) = true := by
      simpa [MemoryRepository.findingInTenant, Option.any_eq_true] using h.inTenant
    refine ⟨issue, reviewRun, ?_, Table.get_key hstored, hrun, ?_⟩
    · cases hvalue : relatedIssueIdOf parsed with
      | string own =>
        rw [hvalue] at htext
        have hown : own = issue.id := of_decide_eq_true htext
        rw [hown]
      | _ =>
        rw [hvalue] at htext
        cases htext
    · have hissueTenant : issue.tenantId = request.tenantId.text := of_decide_eq_true htenant
      have hrunTenant : reviewRun.tenantId = request.tenantId.text := of_decide_eq_true hruntenant
      rw [hissueTenant, hrunTenant]
  · cases hrelated

/-- INTERNAL: a creation keeps the rule if the operation of the repository does. -/
theorem findingsSound_recordsAfter {α : Type} {resource : CollectionResource α} {tenantId : String}
    {body : Option Json} {r : MemoryRepository} (h : FindingsSound (findingRecords r))
    (hcreate : ∀ input, FindingsSound (findingRecords (exec (resource.create input) r).2)) :
    FindingsSound (recordsAfter resource tenantId body r) := by
  cases body with
  | none => exact h
  | some parsed => exact hcreate (resource.build parsed tenantId)

/-- INTERNAL: a request to the findings keeps the rule exactly when it stores an unrelated one. -/
theorem findingsSound_createFinding {s : FindingStores} {request : FindingRequest} {path : String}
    {clientKey : Option String} {body : Option Json}
    (haction : request.action = .create .aiFindings path clientKey body)
    (h : FindingsSound (findingRecords s.repository)) :
    FindingsSound (recordsAfter aiFindings request.tenantId.text
        (submitted aiFindings s request path clientKey body) s.repository) ↔
      StoresUnrelated s request := by
  have hasked : ∀ path' clientKey' body' parsed' finding',
      StoresFinding s request path' clientKey' body' parsed' finding' →
        submitted aiFindings s request path clientKey body = some parsed' := by
    intro path' clientKey' body' parsed' finding' hstores
    obtain ⟨-, rfl, rfl, rfl⟩ := FindingAction.create.inj (haction.symm.trans hstores.asked)
    exact hstores.submits
  cases hsubmitted : submitted aiFindings s request path clientKey body with
  | none =>
    refine ⟨fun _ path' clientKey' body' parsed' finding' hstores => ?_, fun _ => h⟩
    have hnone := hasked _ _ _ _ _ hstores
    rw [hsubmitted] at hnone
    cases hnone
  | some parsed =>
    unfold recordsAfter
    dsimp only
    obtain ⟨finding, htakes, hfresh, hrecords⟩ | ⟨htaken, hrecords⟩ := findingRecords_createAiFinding
      (aiFindings.build parsed request.tenantId.text) s.repository
    · change FindingsSound (findingRecords (exec (MemoryRepository.createAiFinding _) _).2) ↔ _
      rw [hrecords]
      refine (findingsSound_put h).trans ((dispositionSound_created htakes).trans ⟨?_, ?_⟩)
      · intro hunrelated path' clientKey' body' parsed' finding' hstores
        have hsame := hasked _ _ _ _ _ hstores
        rw [hsubmitted] at hsame
        obtain rfl := Option.some.inj hsame
        exact hunrelated
      · intro hstores
        exact hstores path clientKey body parsed finding ⟨haction, hsubmitted, htakes, hfresh⟩
    · change FindingsSound (findingRecords (exec (MemoryRepository.createAiFinding _) _).2) ↔ _
      rw [hrecords]
      refine ⟨fun _ path' clientKey' body' parsed' finding' hstores => ?_, fun _ => h⟩
      have hsame := hasked _ _ _ _ _ hstores
      rw [hsubmitted] at hsame
      obtain rfl := Option.some.inj hsame
      have hused := htaken finding' hstores.takes
      rw [hstores.fresh] at hused
      cases hused

/-- INTERNAL: a request that is no creation of a finding meets the condition. -/
theorem storesUnrelated_of_ne {s : FindingStores} {request : FindingRequest}
    (h : ∀ path clientKey body, request.action ≠ .create .aiFindings path clientKey body) :
    StoresUnrelated s request :=
  fun path clientKey body _ _ hstores => absurd hstores.asked (h path clientKey body)

/-- INTERNAL: one request keeps the rule exactly when it meets the condition. -/
theorem findingsSound_call (P : Platform) (s : FindingStores) (request : FindingRequest)
    (h : FindingsSound (findingRecords s.repository)) :
    FindingsSound (findingRecords ((Findings.api P).call request s).2.repository) ↔
      StoresUnrelated s request := by
  unfold Findings.api
  dsimp only
  rw [store_handleApiRequest]
  unfold Findings.route
  cases haction : request.action with
  | create collection path clientKey body =>
    cases collection with
    | aiFindings =>
      dsimp only
      rw [findingRecords_collectionRoute]
      exact findingsSound_createFinding haction h
    | projects =>
      refine iff_of_true ?_ (storesUnrelated_of_ne (by simp [haction]))
      dsimp only
      rw [findingRecords_collectionRoute]
      apply findingsSound_recordsAfter h
      intro input
      exact (findingRecords_createProject input s.repository).symm ▸ h
    | issues =>
      refine iff_of_true ?_ (storesUnrelated_of_ne (by simp [haction]))
      dsimp only
      rw [findingRecords_collectionRoute]
      apply findingsSound_recordsAfter h
      intro input
      obtain hsame | ⟨issue, hfresh, hadded⟩ := findingRecords_createIssue input s.repository
      · exact hsame.symm ▸ h
      · exact hadded.symm ▸ findingsSound_issue h hfresh
    | aiReviewRuns =>
      refine iff_of_true ?_ (storesUnrelated_of_ne (by simp [haction]))
      dsimp only
      rw [findingRecords_collectionRoute]
      apply findingsSound_recordsAfter h
      intro input
      obtain hsame | ⟨reviewRun, hfresh, hadded⟩ :=
        findingRecords_createAiReviewRun input s.repository
      · exact hsame.symm ▸ h
      · exact hadded.symm ▸ findingsSound_reviewRun h hfresh
  | dispose findingId body =>
    refine iff_of_true ?_ (storesUnrelated_of_ne (by simp [haction]))
    dsimp only
    obtain hsame | ⟨parsed, finding, updated, hdisposes, hupdated⟩ :=
      findingRecords_dispositionRoute P request findingId body s
    · rw [hsame]
      exact h
    · rw [hupdated]
      exact (findingsSound_put h).mpr (dispositionSound_disposed hdisposes)

end

/-- **Findings are as the rule has them.** From stores where every finding has a disposition of the
set and every converted one names an issue of its tenant, this holds after each request of a run
exactly when each request that stores a finding gives it no disposition, or one that needs no issue.
SOURCE: apps/api/src/handlers.js:477-514, 593-648, 1183-1249; packages/ai-review/src/index.js:136-203 -/
theorem dispositions_stay_sound (P : Platform) {start : FindingStores}
    (hstart : FindingsSound (findingRecords start.repository)) (requests : List FindingRequest) :
    (∀ before after, requests = before ++ after →
        FindingsSound (findingRecords ((Findings.api P).run start before).2.repository)) ↔
      (Findings.api P).Meets StoresUnrelated start requests :=
  (Findings.api P).throughout_iff_meets
    (I := fun s => FindingsSound (findingRecords s.repository))
    (fun s request => findingsSound_call P s request) hstart requests

/-- The digests and the case mapping of the example runs. -/
def undigested : Platform := ⟨fun _ => "", fun _ _ => "", id⟩

/-- The review run of the example runs. -/
def structuralRun : AiReviewRun where
  id := "run-1"
  tenantId := "tenant-a"
  projectId := "project-1"
  artifactType := "drawing_sheet"
  artifactId := "sheet-1"

/-- Stores with the review run and no findings. -/
def reviewed : FindingStores where
  repository := { aiReviewRunStore := Table.empty.put structuralRun }

/-- The members of a body that makes a finding of the review run. -/
def findingMembers : List (String × Json) :=
  [("id", .string "finding-1"), ("reviewRunId", .string "run-1"),
    ("category", .string "clearance_concern"), ("title", .string "Clearance"),
    ("description", .string "Potential issue: clearance is low.")]

/-- A request that creates a finding of a body. -/
def createsFinding (members : List (String × Json)) : FindingRequest where
  tenantId := ⟨"tenant-a", by decide⟩
  principal := { tenantId := some "tenant-a", organizationRole := some "company_admin" }
  action := .create .aiFindings "/v1/tenants/tenant-a/ai-findings" none (some (.object members))
  auditDraw := ⟨"event-1", "correlation-1", "request-1", "2026-01-01T00:00:00.000Z"⟩
  outboxDraw := ⟨"outbox-1", 0⟩

/-- INTERNAL: there is nothing to be sound without findings. -/
theorem findingsSound_reviewed : FindingsSound (findingRecords reviewed.repository) :=
  fun _ hmem => nomatch hmem

/-- INTERNAL: a request that creates a finding of a body stores one of this body. -/
theorem storesUnrelated_createsFinding {s : FindingStores} {members : List (String × Json)}
    (h : NeedsNoIssue (.object members)) : StoresUnrelated s (createsFinding members) := by
  intro path clientKey body parsed finding hstores
  obtain ⟨-, -, -, rfl⟩ := FindingAction.create.inj hstores.asked
  have hsubmits := hstores.submits
  unfold submitted at hsubmits
  split at hsubmits
  · cases hsubmits
  · obtain ⟨hbody, -⟩ := Option.filter_eq_some_iff.mp hsubmits
    obtain rfl := Option.some.inj hbody
    exact h

theorem dispositions_stay_sound_created :
    FindingsSound (findingRecords
      ((Findings.api undigested).run reviewed [createsFinding findingMembers]).2.repository) :=
  (dispositions_stay_sound undigested findingsSound_reviewed [createsFinding findingMembers]).mpr
    ⟨storesUnrelated_createsFinding rfl, trivial⟩ _ [] (List.append_nil _).symm

/-- A body that names no issue and has its finding converted to one: it is stored so. -/
theorem converted_without_issue :
    FindingsSound (findingRecords reviewed.repository) ∧
      ¬ FindingsSound (findingRecords ((Findings.api undigested).run reviewed
        [createsFinding (findingMembers ++
          [("humanDisposition", .string "converted_to_issue")])]).2.repository) := by
  refine ⟨findingsSound_reviewed, fun hafter => ?_⟩
  have hunrelated := (findingsSound_call undigested reviewed _ findingsSound_reviewed).mp hafter
  have hstores := hunrelated _ _ _ _ _ ⟨rfl, rfl, rfl, rfl⟩
  cases hstores

end Xygo.Analysis
