import Xygo.Analysis.ForeignRecords
import Xygo.Computation.TwoRuns
import Xygo.Model.ReadRoutes

/-!
# What a GET request shows

The answer to a GET request is made of the records of the tenant in its path, and of no other:
from two repositories that agree on the tenant's records it is the same (`reads_isolated`).

It rests on one rule for two runs (`answer_congr`): a route reads the lists of the tenant, or it
looks one record up, and what it does from there depends on the file storage alone.
-/

set_option autoImplicit false

namespace Xygo.Analysis

open Xygo.Computation Xygo.Computation.Effect Xygo.Model Xygo.Model.ReadRoutes
open Xygo.Model.RecordRoutes (RecordStores RecordBody RecordM findBlueprint findReport findReady
  canReadFile withRecord inTenant authorized onStorage downloadFile getContent)

/-! ### Two runs of a route -/

section

variable {Ω : Type}

/-- Stores with one file storage. -/
def SameStorage (s t : RecordStores Ω) : Prop := s.storage = t.storage

theorem agrees_onStorage {α : Type} (operation : Effect JsError Ω α) :
    Agrees (@SameStorage Ω) (onStorage operation) := by
  refine Agrees.of_exec fun s t h => ?_
  unfold SameStorage at h
  unfold onStorage
  rw [exec_focus, exec_focus, h]
  exact ⟨rfl, rfl⟩

/-- The download of a file depends on the file and on the storage. -/
theorem agrees_downloadFile (storage : StorageAdapter Ω) (request : RecordRoutes.RecordRequest)
    (fileRecord : FileRecord) : Agrees SameStorage (downloadFile storage request fileRecord) :=
  Agrees.bind (agrees_onStorage _) fun _ =>
    Agrees.bind (Agrees.lift _) fun _ => Agrees.pure _

/-- So does its content. -/
theorem agrees_getContent (storage : StorageAdapter Ω) (request : RecordRoutes.RecordRequest)
    (fileRecord : FileRecord) : Agrees SameStorage (getContent storage request fileRecord) := by
  unfold RecordRoutes.getContent
  refine Agrees.ite (fun _ => Agrees.pure _) fun _ => ?_
  refine Agrees.bind (agrees_onStorage _) fun object => ?_
  cases object.filter fun object => object.tenantId = some request.tenantId.text with
  | none => exact Agrees.pure _
  | some object => exact Agrees.pure _

/-- A route on what it finds answers the same where it finds the same. -/
theorem withRecord_congr {α : Type} {find : MemoryRepository → Except (Response RecordBody) α}
    {use : α → RecordM Ω (Response RecordBody)} {s t : RecordStores Ω}
    (huse : ∀ record, Agrees SameStorage (use record)) (hstorage : s.storage = t.storage)
    (hfind : find s.repository = find t.repository) :
    (exec (withRecord find use) s).1 = (exec (withRecord find use) t).1 := by
  unfold withRecord
  rw [exec_bind, exec_bind]
  simp only [exec_get]
  rw [hfind]
  cases find t.repository with
  | error refusal => rfl
  | ok record => exact (huse record).answer hstorage

variable (P : Platform) (localeCompare : Comparator String) (storage : StorageAdapter Ω)

/-- What a request reads of two repositories is the same: each list it may read, and each record
it looks up. -/
structure SameReads (request : ReadRequest) (tenantId : PathPart) (principal : Principal)
    (r r' : MemoryRepository) : Prop where
  lists : ∀ route : ListRoute, authorize principal tenantId.text route.resource "read" = none →
    readList P localeCompare request tenantId.text principal r route =
      readList P localeCompare request tenantId.text principal r' route
  blueprint : ∀ recordId route,
    findBlueprint (request.onRecord tenantId principal recordId route) r =
      findBlueprint (request.onRecord tenantId principal recordId route) r'
  report : ∀ recordId route,
    findReport (request.onRecord tenantId principal recordId route) r =
      findReport (request.onRecord tenantId principal recordId route) r'
  ready : ∀ recordId route,
    findReady (request.onRecord tenantId principal recordId route) r =
      findReady (request.onRecord tenantId principal recordId route) r'

/-- What a route on a record answers, from what the record's own route answers. -/
theorem readRecord_congr {request : ReadRequest} {tenantId : PathPart} {principal : Principal}
    {recordId : PathPart} {route : RecordRoutes.RecordRoute} {s t : RecordStores Ω}
    (h : (exec (RecordRoutes.route P storage
        (request.onRecord tenantId principal recordId route)) s).1 =
      (exec (RecordRoutes.route P storage
        (request.onRecord tenantId principal recordId route)) t).1) :
    (exec (readRecord P storage request tenantId principal recordId route) s).1 =
      (exec (readRecord P storage request tenantId principal recordId route) t).1 := by
  unfold readRecord
  rw [exec_bind, exec_bind]
  rcases hs : exec (RecordRoutes.route P storage
    (request.onRecord tenantId principal recordId route)) s with ⟨_ | response, u⟩ <;>
  rcases ht : exec (RecordRoutes.route P storage
    (request.onRecord tenantId principal recordId route)) t with ⟨_ | response', v⟩ <;>
  rw [hs, ht] at h <;> cases h <;> rfl

/-- **Where a request reads the same, it is answered the same.** -/
theorem answer_congr {request : ReadRequest} {s t : RecordStores Ω}
    (hstorage : s.storage = t.storage)
    (h : ∀ tenantId rest principal, tenantPath request.pathname = some (tenantId, rest) →
      request.principal = some principal →
      SameReads P localeCompare request tenantId principal s.repository t.repository) :
    (answer P localeCompare storage request s).1 = (answer P localeCompare storage request t).1 := by
  have hroute : (exec (route P localeCompare storage request) s).1 =
      (exec (route P localeCompare storage request) t).1 := by
    unfold ReadRoutes.route
    split
    · rfl
    · cases hpath : tenantPath request.pathname with
      | none => rfl
      | some path =>
        obtain ⟨tenantId, rest⟩ := path
        cases hprincipal : request.principal with
        | none => rfl
        | some principal =>
          have hsame := h tenantId rest principal hpath hprincipal
          dsimp only
          cases ReadRoute.ofParts rest with
          | none => rfl
          | some readable =>
            cases readable with
            | list route =>
              dsimp only [readRoute, readLists]
              cases hauthorize : authorize principal tenantId.text route.resource "read" with
              | some denied => rfl
              | none =>
                simp only [exec_bind, exec_get, exec_lift]
                rw [hsame.lists route hauthorize]
                cases readList P localeCompare request tenantId.text principal t.repository
                  route <;> rfl
            | downloadFile fileId =>
              exact readRecord_congr P storage (withRecord_congr
                (agrees_downloadFile storage (request.onRecord tenantId principal fileId _))
                hstorage (hsame.ready fileId _))
            | getContent fileId =>
              exact readRecord_congr P storage (withRecord_congr
                (agrees_getContent storage (request.onRecord tenantId principal fileId _))
                hstorage (hsame.ready fileId _))
            | getBlueprint blueprintId =>
              exact readRecord_congr P storage (withRecord_congr
                (fun _ => Agrees.pure _) hstorage (hsame.blueprint blueprintId _))
            | getReport reportId =>
              exact readRecord_congr P storage (withRecord_congr
                (fun _ => Agrees.pure _) hstorage (hsame.report reportId _))
  unfold answer handleApiRequest
  rw [exec_tryCatch, exec_tryCatch]
  rcases hs : exec (route P localeCompare storage request) s with ⟨_ | response, u⟩ <;>
  rcases ht : exec (route P localeCompare storage request) t with ⟨_ | response', v⟩ <;>
  rw [hs, ht] at hroute <;> cases hroute <;> rfl

end

/-! ### The records of one tenant -/

/-- Two repositories agree on the records of a tenant. -/
structure SameTenant (tenantId : String) (r r' : MemoryRepository) : Prop where
  projects : r.listProjectsByTenant tenantId = r'.listProjectsByTenant tenantId
  issues : r.listIssuesByTenant tenantId = r'.listIssuesByTenant tenantId
  rfis : r.listRfisByTenant tenantId = r'.listRfisByTenant tenantId
  permits : r.listPermitPackagesByTenant tenantId = r'.listPermitPackagesByTenant tenantId
  reviewSessions : r.listReviewSessionsByTenant tenantId = r'.listReviewSessionsByTenant tenantId
  aiReviewRuns : r.listAiReviewRunsByTenant tenantId = r'.listAiReviewRunsByTenant tenantId
  aiFindings : r.listAiFindingsByTenant tenantId = r'.listAiFindingsByTenant tenantId
  blueprints : r.listPlatformBlueprintsByTenant tenantId =
    r'.listPlatformBlueprintsByTenant tenantId
  reports : r.listFieldReportsByTenant tenantId = r'.listFieldReportsByTenant tenantId
  files : r.listFileRecordsByTenant tenantId = r'.listFileRecordsByTenant tenantId
  deliveries : r.listEmailDeliveriesByTenant tenantId = r'.listEmailDeliveriesByTenant tenantId
  auditEvents : r.listAuditEventsByTenant tenantId = r'.listAuditEventsByTenant tenantId

/-- Tables with the same records of a kind have the same record of that kind under each key. -/
theorem get_filter_congr {κ β : Type} [DecidableEq κ] {key : β → κ} {t t' : Table key}
    {p : β → Bool} (h : t.values.filter p = t'.values.filter p) (k : κ) :
    (t.get k).filter p = (t'.get k).filter p := by
  have htable : t.filter p = t'.filter p := Table.ext h
  rw [← Table.get_filter, ← Table.get_filter, htable]

/-- A lookup in a tenant, where the two repositories hold the same record of the tenant. -/
theorem inTenant_congr {α : Type} {tenantOf : α → String} {tenantId : String}
    {stored stored' : Option α} (message : String)
    (h : (stored.filter fun record => tenantOf record = tenantId) =
      stored'.filter fun record => tenantOf record = tenantId) :
    inTenant tenantOf tenantId stored message = inTenant tenantOf tenantId stored' message := by
  unfold inTenant
  rw [h]

/-- Repositories that agree on a tenant are read alike. -/
theorem SameTenant.sameReads {tenantId : PathPart} {r r' : MemoryRepository}
    (h : SameTenant tenantId.text r r') (P : Platform) (localeCompare : Comparator String)
    (request : ReadRequest) (principal : Principal) :
    SameReads P localeCompare request tenantId principal r r' where
  lists route _ := by
    cases route with
    | files => simp only [readList, visibleFiles, h.files]
    | emailDeliveries => simp only [readList, h.deliveries]
    | collection collection =>
      cases collection with
      | projects => simp only [readList, collectionPage, h.projects]
      | issues => simp only [readList, collectionPage, h.issues]
      | rfis => simp only [readList, collectionPage, h.rfis]
      | permits => simp only [readList, collectionPage, h.permits]
      | reviewSessions => simp only [readList, collectionPage, h.reviewSessions]
      | aiReviewRuns => simp only [readList, collectionPage, h.aiReviewRuns]
      | aiFindings => simp only [readList, collectionPage, h.aiFindings]
      | platformBlueprints => simp only [readList, collectionPage, h.blueprints]
      | fieldReports => simp only [readList, collectionPage, h.reports]
    | executive => simp only [readList, executiveView, h.projects, h.issues, h.permits]
    | workspace =>
      simp only [readList, workspaceOf, h.projects, h.reviewSessions, h.aiReviewRuns,
        h.aiFindings, h.issues, h.permits]
    | auditEvents => simp only [readList, h.auditEvents]
    | verifyAudit => simp only [readList, h.auditEvents]
    | transfers => rfl
    | clientPortal => simp only [readList, h.projects, h.reports, h.files]
  blueprint recordId route :=
    congrArg (fun found => authorized (request.onRecord tenantId principal recordId route)
        "platform_blueprint" "read" >>= fun _ => found)
      (inTenant_congr "Platform blueprint not found." (get_filter_congr h.blueprints recordId.text))
  report recordId route :=
    congrArg (fun found => authorized (request.onRecord tenantId principal recordId route)
        "field_report" "read" >>= fun _ => found)
      (inTenant_congr "Field report not found." (get_filter_congr h.reports recordId.text))
  ready recordId route := by
    have hfound := inTenant_congr "File not found." (get_filter_congr h.files recordId.text)
    unfold RecordRoutes.findReady RecordRoutes.canReadFile
    exact congrArg (fun found => (found >>= _) >>= _) hfound

/-- **A GET request under a tenant is answered from the records of the tenant alone.** -/
theorem reads_isolated {Ω : Type} (P : Platform) (localeCompare : Comparator String)
    (storage : StorageAdapter Ω) (request : ReadRequest) {tenantId : PathPart}
    {rest : List PathPart} (hpath : tenantPath request.pathname = some (tenantId, rest))
    {s t : RecordStores Ω} (hsame : SameTenant tenantId.text s.repository t.repository)
    (hstorage : s.storage = t.storage) :
    (answer P localeCompare storage request s).1 =
      (answer P localeCompare storage request t).1 := by
  refine answer_congr P localeCompare storage hstorage fun tenantId' rest' principal hpath' _ => ?_
  obtain ⟨rfl, rfl⟩ := Prod.mk.inj (Option.some.inj (hpath.symm.trans hpath'))
  exact hsame.sameReads P localeCompare request principal

/-- A GET request to the API. -/
def readAt (pathname : String) (principal : Principal) : ReadRequest where
  pathname := pathname
  principal := some principal
  draws _ := ⟨"event-1", "correlation-1", "request-1", "2026-01-01T00:00:00.000Z"⟩
  outboxDraw := ⟨"outbox-1", 0⟩

/-- The records of the second tenant do not show in the workspace of the first. -/
theorem reads_isolated_workspace :
    (answer ⟨fun _ => "", fun _ _ => "", id⟩ (Comparator.ofKey id) emptyStorage
        (readAt "/v1/tenants/tenant-a/blueprint-workspace" (asAdmin .getReport).principal)
        othersRecords).1 =
      (answer ⟨fun _ => "", fun _ _ => "", id⟩ (Comparator.ofKey id) emptyStorage
        (readAt "/v1/tenants/tenant-a/blueprint-workspace" (asAdmin .getReport).principal)
        { storage := () }).1 :=
  reads_isolated _ _ _ _
    (show tenantPath "/v1/tenants/tenant-a/blueprint-workspace" =
      some (⟨"tenant-a", asked_tenant_ne_empty⟩, _) from rfl)
    ⟨rfl, rfl, rfl, rfl, rfl, rfl, rfl, rfl, rfl, rfl, rfl, rfl⟩ rfl

end Xygo.Analysis
