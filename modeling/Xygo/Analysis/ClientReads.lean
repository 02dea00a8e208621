import Xygo.Analysis.TenantReads

/-!
# What a client may see

A client without a project role reads the projects of its tenant, the files and the portal. Nothing
it is answered depends on a report or a file of its tenant that is not released to it
(`viewer_reads_isolated`): such a file is answered as one that does not exist, and the portal shows
released reports and files only, whoever asks for it.
-/

set_option autoImplicit false

namespace Xygo.Analysis

open Xygo.Computation Xygo.Computation.Effect Xygo.Model Xygo.Model.ReadRoutes
open Xygo.Model.RecordRoutes (RecordStores RecordBody RecordM findBlueprint findReport findReady
  canReadFile withRecord inTenant authorized)

/-! ### Released records -/

/-- Whether a report is released to the client. -/
def isReleased (report : FieldReport) : Bool := report.clientVisible && report.status = .approved

/-- A stored file, where it is one of a tenant and published. -/
def publishedIn (tenantId : String) (stored : Option FileRecord) : Option FileRecord :=
  stored.filter fun file => file.tenantId = tenantId && isPublished file

/-- Two repositories differ at most in the reports and the files of a tenant that are not released
to its clients. -/
structure SameForClients (tenantId : String) (r r' : MemoryRepository) : Prop where
  others : { r with fieldReportStore := .empty, fileRecordStore := .empty } =
    { r' with fieldReportStore := .empty, fileRecordStore := .empty }
  reports : (r.fieldReportStore.values.filter fun report =>
      report.tenantId ≠ tenantId || isReleased report) =
    r'.fieldReportStore.values.filter fun report =>
      report.tenantId ≠ tenantId || isReleased report
  files : (r.fileRecordStore.values.filter fun file =>
      file.tenantId ≠ tenantId || isPublished file) =
    r'.fileRecordStore.values.filter fun file =>
      file.tenantId ≠ tenantId || isPublished file

/-- Lists with the same items of a kind have the same items of a narrower kind. -/
theorem filter_congr_of_imp {α : Type} {p q : α → Bool} {xs ys : List α}
    (himp : ∀ a, p a = true → q a = true) (h : xs.filter q = ys.filter q) :
    xs.filter p = ys.filter p := by
  have hnarrow : ∀ zs : List α, zs.filter p = (zs.filter q).filter p := by
    intro zs
    rw [List.filter_filter]
    refine List.filter_congr fun a _ => ?_
    cases hp : p a with
    | false => rfl
    | true => simp [himp a hp]
  rw [hnarrow xs, hnarrow ys, h]

/-- A report that is not released has no view for the client. -/
theorem toClientView_isSome (report : FieldReport) :
    (toClientView report).isSome = isReleased report := by
  unfold toClientView isReleased
  cases report.clientVisible with
  | false => rfl
  | true =>
    by_cases h : report.status = .approved
    · simp [h]
    · simp [h]

/-- The views of reports are those of the released ones. -/
theorem filterMap_toClientView (reports : List FieldReport) :
    reports.filterMap toClientView = (reports.filter isReleased).filterMap toClientView := by
  rw [List.filterMap_filter]
  refine List.filterMap_congr fun report _ => ?_
  rw [← toClientView_isSome]
  cases toClientView report <;> rfl

/-! ### The rights of a client -/

/-- What a client may read by the policy. -/
def clientResources : List String := ["project", "file_record", "client_portal"]

/-- The rules that let a client read are on these resources. -/
theorem rule_of_client : ∀ rule ∈ allowMatrix, rule.action = "read" →
    "client_viewer" ∈ rule.organizationRoles → rule.resource ∈ clientResources := by
  decide +kernel

/-- The role of a client has no alias. -/
theorem alias_of_client :
    (organizationRoleAliases.lookup "client_viewer").getD "client_viewer" = "client_viewer" := rfl

/-- A principal with the role of a client and no other. -/
structure IsClient (principal : Principal) (tenantId : String) : Prop where
  tenant : principal.tenantId = some tenantId
  role : principal.organizationRole = some "client_viewer"
  project : principal.projectRole = none

theorem IsClient.resource {principal : Principal} {own tenantId resource : String}
    (h : IsClient principal own) (hread : authorize principal tenantId resource "read" = none) :
    resource ∈ clientResources := by
  unfold authorize at hread
  rw [h.tenant] at hread
  dsimp only at hread
  split at hread
  · cases hread
  · split at hread
    · cases hread
    · rename_i hallowed
      rw [not_not] at hallowed
      unfold canPerform at hallowed
      split at hallowed
      · cases hallowed
      · rename_i rule hrule
        obtain ⟨hresource, haction⟩ : rule.resource = resource ∧ rule.action = "read" := by
          simpa using List.find?_some hrule
        split_ifs at hallowed with htenant hvisible hadmits
        have hroles : "client_viewer" ∈ rule.organizationRoles := by
          simp only [AccessRule.admits, h.role, h.project, Option.any_some, Option.any_none,
            alias_of_client, Bool.or_false, Bool.not_eq_true', Bool.not_eq_false] at hadmits
          exact of_decide_eq_true hadmits
        rw [← hresource]
        exact rule_of_client rule (List.mem_of_find?_eq_some hrule) haction hroles

/-- A client may read the files of its tenant. -/
theorem IsClient.reads_files {principal : Principal} {tenantId : PathPart}
    (h : IsClient principal tenantId.text) :
    authorize principal tenantId.text "file_record" "read" = none := by
  have hrule : allowMatrix.find? (fun rule =>
      rule.resource = "file_record" && rule.action = "read") = some (apiReadRule "file_record") := by
    rfl
  unfold authorize
  rw [h.tenant]
  simp [tenantId.nonempty, canPerform, hrule, h.role, h.project, apiReadRule, AccessRule.admits,
    alias_of_client]

/-! ### What is read of the two repositories -/

section

variable {own : String} {r r' : MemoryRepository} (h : SameForClients own r r')

include h

theorem SameForClients.projects : r.projectStore = r'.projectStore := by
  have hprojects := congrArg MemoryRepository.projectStore h.others
  exact hprojects

/-- The files of a tenant of a kind that has only published files. -/
theorem SameForClients.published (tenantId : String) {p : FileRecord → Bool}
    (hp : ∀ file, p file = true → isPublished file = true) :
    (r.listFileRecordsByTenant tenantId).filter p =
      (r'.listFileRecordsByTenant tenantId).filter p := by
  unfold MemoryRepository.listFileRecordsByTenant
  rw [List.filter_filter, List.filter_filter]
  refine filter_congr_of_imp (fun file hfile => ?_) h.files
  simp only [Bool.and_eq_true] at hfile
  simp [hp file hfile.1]

/-- The views of the reports of a tenant of a kind. -/
theorem SameForClients.views (tenantId : String) (p : FieldReport → Bool) :
    ((r.listFieldReportsByTenant tenantId).filter p).filterMap toClientView =
      ((r'.listFieldReportsByTenant tenantId).filter p).filterMap toClientView := by
  unfold MemoryRepository.listFieldReportsByTenant
  rw [filterMap_toClientView, filterMap_toClientView (List.filter p _), List.filter_filter,
    List.filter_filter, List.filter_filter, List.filter_filter]
  congr 1
  refine filter_congr_of_imp (fun report hreport => ?_) h.reports
  simp only [Bool.and_eq_true] at hreport
  simp [hreport.1]

/-- The portal of a project. -/
theorem SameForClients.portal (localeCompare : Comparator String) (tenantId : String)
    (project : Project) :
    projectPortal localeCompare tenantId (r.listFieldReportsByTenant tenantId)
        (r.listFileRecordsByTenant tenantId) project =
      projectPortal localeCompare tenantId (r'.listFieldReportsByTenant tenantId)
        (r'.listFileRecordsByTenant tenantId) project := by
  unfold projectPortal
  rw [h.views]
  congr 1
  exact h.published tenantId fun file hfile => (Bool.and_eq_true_iff.mp hfile).2

/-- A file that may be read under the path of a tenant. -/
theorem SameForClients.file {tenantId : String} (hother : tenantId ≠ own) (fileId : String) :
    ((r.getFileRecordById fileId).filter fun file => file.tenantId = tenantId) =
      (r'.getFileRecordById fileId).filter fun file => file.tenantId = tenantId := by
  refine get_filter_congr (filter_congr_of_imp (fun file hfile => ?_) h.files) fileId
  have htenant : file.tenantId = tenantId := of_decide_eq_true hfile
  simp [htenant, hother]

/-- A published file of the client's own tenant. -/
theorem SameForClients.publishedFile (fileId : String) :
    publishedIn own (r.getFileRecordById fileId) =
      publishedIn own (r'.getFileRecordById fileId) := by
  refine get_filter_congr (filter_congr_of_imp (fun file hfile => ?_) h.files) fileId
  simp [(Bool.and_eq_true_iff.mp hfile).2]

end

/-- A client is answered a file that is not published as one that does not exist. -/
theorem canReadFile_client {request : RecordRoutes.RecordRequest} {r : MemoryRepository}
    (hclient : IsClient request.principal request.tenantId.text) :
    canReadFile request r =
      ((publishedIn request.tenantId.text (r.getFileRecordById request.recordId.text)).elim
        (.error (notFound "File not found.")) .ok) := by
  have hread : authorized request "file_record" "read" = .ok () := by
    unfold RecordRoutes.authorized
    rw [hclient.reads_files]
  unfold RecordRoutes.canReadFile RecordRoutes.inTenant
  rw [hread]
  cases hfile : r.getFileRecordById request.recordId.text with
  | none => rfl
  | some file =>
    by_cases htenant : file.tenantId = request.tenantId.text
    · have hown : ((some file).filter fun record => record.tenantId = request.tenantId.text) =
          some file := by
        simp [htenant]
      have hpublished : publishedIn request.tenantId.text (some file) =
          if isPublished file then some file else none := by
        simp [publishedIn, Option.filter_some, htenant]
      rw [hown, hpublished]
      unfold isPublished
      cases hstatus : file.status with
      | ready =>
        cases hvisible : file.clientVisible with
        | false => simp [hclient.role, bind, Except.bind, hstatus, hvisible]; rfl
        | true => simp [hclient.role, bind, Except.bind, hstatus, hvisible]; rfl
      | pendingUpload => simp [hclient.role, bind, Except.bind, hstatus]; rfl
      | deleting => simp [hclient.role, bind, Except.bind, hstatus]; rfl
      | deleted => simp [bind, Except.bind, hstatus]; rfl
    · have hforeign : publishedIn request.tenantId.text (some file) = none := by
        simp [publishedIn, htenant]
      have hother : ((some file).filter fun record =>
          record.tenantId = request.tenantId.text) = none := by
        simp [htenant]
      rw [hforeign, hother]
      rfl

/-- Repositories that differ in what is not released are read alike by a client. -/
theorem SameForClients.sameReads {own : String} {r r' : MemoryRepository}
    (h : SameForClients own r r') {principal : Principal} (hclient : IsClient principal own)
    (P : Platform) (localeCompare : Comparator String) (request : ReadRequest)
    (tenantId : PathPart) : SameReads P localeCompare request tenantId principal r r' where
  lists route hread := by
    have hresource := hclient.resource hread
    have hprojects : r.listProjectsByTenant tenantId.text =
        r'.listProjectsByTenant tenantId.text := by
      unfold MemoryRepository.listProjectsByTenant
      rw [h.projects]
    cases route with
    | files =>
      have hfiles : visibleFiles r tenantId.text principal =
          visibleFiles r' tenantId.text principal := by
        unfold visibleFiles
        rw [if_pos hclient.role, if_pos hclient.role, List.filter_filter, List.filter_filter]
        exact h.published tenantId.text fun file hfile => (Bool.and_eq_true_iff.mp hfile).1
      simp only [readList, hfiles]
    | collection items =>
      cases items with
      | projects => simp only [readList, collectionPage, hprojects]
      | _ => simp [ListRoute.resource, Collection.resourceType, clientResources] at hresource
    | workspace =>
      have hworkspace : workspaceOf r tenantId.text = workspaceOf r' tenantId.text := by
        have hothers := congrArg (fun r => workspaceOf r tenantId.text) h.others
        exact hothers
      simp only [readList, hworkspace]
    | clientPortal =>
      have hportal := funext (h.portal localeCompare tenantId.text)
      simp only [readList, hprojects, hportal]
    | _ => simp [ListRoute.resource, clientResources] at hresource
  blueprint recordId route := by
    have hblueprints := congrArg MemoryRepository.platformBlueprintStore h.others
    unfold RecordRoutes.findBlueprint MemoryRepository.getPlatformBlueprintById
    exact congrArg (fun store => authorized _ _ _ >>= fun _ => inTenant _ _ (Table.get store _) _)
      hblueprints
  report recordId route := by
    have hdenied : ∃ denied, authorized (request.onRecord tenantId principal recordId route)
        "field_report" "read" = .error denied := by
      unfold RecordRoutes.authorized
      cases hauthorize : authorize principal tenantId.text "field_report" "read" with
      | none => simpa [clientResources] using hclient.resource hauthorize
      | some denied => exact ⟨.refused denied, by simp [ReadRequest.onRecord, hauthorize]⟩
    obtain ⟨denied, hdenied⟩ := hdenied
    unfold RecordRoutes.findReport
    rw [hdenied]
    rfl
  ready recordId route := by
    have hfile : canReadFile (request.onRecord tenantId principal recordId route) r =
        canReadFile (request.onRecord tenantId principal recordId route) r' := by
      by_cases hown : tenantId.text = own
      · subst hown
        rw [canReadFile_client hclient, canReadFile_client hclient]
        dsimp only [ReadRequest.onRecord]
        rw [h.publishedFile recordId.text]
      · have hfound := inTenant_congr "File not found." (h.file hown recordId.text)
        unfold RecordRoutes.canReadFile
        exact congrArg (fun found => found >>= _) hfound
    unfold RecordRoutes.findReady
    rw [hfile]

/-- **What is not released shows in no answer to a client.** -/
theorem viewer_reads_isolated {Ω : Type} (P : Platform) (localeCompare : Comparator String)
    (storage : StorageAdapter Ω) (request : ReadRequest) {principal : Principal} {own : String}
    (hprincipal : request.principal = some principal) (hclient : IsClient principal own)
    {s t : RecordStores Ω} (hsame : SameForClients own s.repository t.repository)
    (hstorage : s.storage = t.storage) :
    (answer P localeCompare storage request s).1 =
      (answer P localeCompare storage request t).1 := by
  refine answer_congr P localeCompare storage hstorage fun tenantId rest other _ hother => ?_
  obtain rfl : principal = other := Option.some.inj (hprincipal.symm.trans hother)
  exact hsame.sameReads hclient P localeCompare request tenantId

/-- A client of the tenant that has the records. -/
def asClient : Principal where
  tenantId := some "tenant-b"
  organizationRole := some "client_viewer"

theorem asClient_isClient : IsClient asClient "tenant-b" := ⟨rfl, rfl, rfl⟩

/-- A captured report does not show in the portal. -/
theorem viewer_reads_isolated_portal :
    (answer ⟨fun _ => "", fun _ _ => "", id⟩ (Comparator.ofKey id) emptyStorage
        (readAt "/v1/tenants/tenant-b/client-portal" asClient) othersRecords).1 =
      (answer ⟨fun _ => "", fun _ _ => "", id⟩ (Comparator.ofKey id) emptyStorage
        (readAt "/v1/tenants/tenant-b/client-portal" asClient)
        { othersRecords with
          repository := { othersRecords.repository with fieldReportStore := .empty } }).1 :=
  viewer_reads_isolated _ _ _ _ rfl asClient_isClient ⟨rfl, rfl, rfl⟩ rfl

end Xygo.Analysis
