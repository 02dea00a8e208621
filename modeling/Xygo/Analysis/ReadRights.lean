import Xygo.Analysis.ClientReads

/-!
# The right to what is read

The records in an answer to a GET request are of kinds the principal may read in the tenant of the
path, with one exception: the blueprint workspace and the portal are authorized as a whole, and a
client without a role in a project is shown records there of kinds it may not read by themselves
(`reads_permitted`). The other principals who may see a view may read all it is made of
(`reads_parts`).
-/

set_option autoImplicit false

namespace Xygo.Analysis

open Xygo.Computation Xygo.Computation.Effect Xygo.Model Xygo.Model.ReadRoutes
open Xygo.Model.RecordRoutes (RecordStores RecordBody RecordM findBlueprint findReport findReady
  canReadFile withRecord inTenant authorized onStorage downloadFile getContent)

/-! ### What an answer is made of -/

/-- The kind of the records of a page. -/
def kindOfPage : CollectionPage → String
  | .projects _ => "project"
  | .issues _ => "coordination_issue"
  | .rfis _ => "rfi"
  | .permits _ => "permit_package"
  | .reviewSessions _ => "review_session"
  | .aiReviewRuns _ => "ai_review_run"
  | .aiFindings _ => "ai_finding"
  | .platformBlueprints _ => "platform_blueprint"
  | .fieldReports _ => "field_report"

/-- The kind of a record. -/
def kindOfRecord : RecordBody → String
  | .report _ => "field_report"
  | .blueprint _ => "platform_blueprint"
  | .file _ | .download _ _ | .content _ => "file_record"
  | .item _ => "ai_finding"

/-- The kinds of the records in the workspace. -/
def workspaceKinds : List String :=
  ["project", "review_session", "ai_review_run", "ai_finding", "coordination_issue",
    "permit_package"]

/-- The kinds of the records in the portal. -/
def portalKinds : List String := ["project", "field_report", "file_record"]

/-- The kinds of the records in an answer. -/
def kindsOf : ReadBody → List String
  | .health => []
  | .files _ => ["file_record"]
  | .record body => [kindOfRecord body]
  | .emailDeliveries _ => ["email_delivery"]
  | .collection page => [kindOfPage page]
  | .executive _ => ["executive_dashboard"]
  | .workspace _ => workspaceKinds
  | .auditEvents _ | .auditReport _ => ["audit_event"]
  | .transfers _ => ["transfer"]
  | .portals _ => portalKinds

/-- The resource of a view that is authorized as a whole. -/
def viewResource : ReadBody → Option String
  | .workspace _ => some "project"
  | .portals _ => some "client_portal"
  | _ => none

/-! ### The rules of reading -/

/-- The roles that read in the whole tenant. -/
def readerRoles : List String :=
  ["platform_admin", "company_admin", "executive", "supervisor", "read_only_auditor"]

/-- The roles in a project that read. -/
def projectReaderRoles : List String :=
  ["project_executive", "project_manager", "design_manager", "viewer"]

/-- The roles of clients. -/
def clientRoles : List String := ["client_staff", "client_viewer"]

/-- The role an organization role stands for. -/
def aliased (role : String) : String := (organizationRoleAliases.lookup role).getD role

/-- Whether a principal has a role that reads. -/
def reads (principal : Principal) : Bool :=
  (principal.organizationRole.any fun role => aliased role ∈ readerRoles) ||
    principal.projectRole.any fun role => role ∈ projectReaderRoles

/-- Whether a principal reads as a client only. -/
def readsAsClient (principal : Principal) : Bool :=
  (principal.organizationRole.any fun role => aliased role ∈ clientRoles) && !reads principal

/-- Whether a rule admits the roles of a principal. -/
def grants (rule : AccessRule) (principal : Principal) : Bool :=
  (principal.organizationRole.any fun role => aliased role ∈ rule.organizationRoles) ||
    principal.projectRole.any fun role => role ≠ "" && role ∈ rule.projectRoles

/-- A principal may read where it is of the tenant and the rule of the resource admits its roles. -/
theorem authorize_read_iff {principal : Principal} {tenantId resource : String} {rule : AccessRule}
    (hrule : (allowMatrix.find? fun rule =>
      rule.resource = resource && rule.action = "read") = some rule)
    (hclasses : rule.visibilityClasses = none) :
    authorize principal tenantId resource "read" = none ↔
      tenantId ≠ "" ∧ principal.tenantId = some tenantId ∧ grants rule principal = true := by
  unfold authorize canPerform
  cases hown : principal.tenantId with
  | none => simp
  | some own =>
    dsimp only
    rw [hrule]
    by_cases hsame : own = tenantId
    · subst hsame
      by_cases hempty : own = ""
      · simp [hempty]
      · cases hgrants : grants rule principal with
        | false =>
          have hadmits : rule.admits ⟨resource, "read", own, own, principal.organizationRole,
              principal.projectRole, none⟩ = false := hgrants
          simp [hclasses, hadmits, hempty]
        | true =>
          have hadmits : rule.admits ⟨resource, "read", own, own, principal.organizationRole,
              principal.projectRole, none⟩ = true := hgrants
          simp [hclasses, hadmits, hempty]
    · simp [hsame]

/-- The rule that grants the reading of a kind that has a route. -/
def readRule (kind : String) : AccessRule :=
  if kind = "project" then
    { resource := "project"
      action := "read"
      organizationRoles := readerRoles ++ clientRoles
      projectRoles := projectReaderRoles }
  else apiReadRule kind

/-- The kinds of the views. -/
def viewKinds : List String := workspaceKinds ++ portalKinds ++ ["client_portal"]

/-- The first rule of each kind of the views is the one that grants its reading. -/
theorem find_readRule : ∀ kind ∈ viewKinds,
    (allowMatrix.find? fun rule => rule.resource = kind && rule.action = "read") =
      some (readRule kind) := by
  simp only [viewKinds, workspaceKinds, portalKinds, List.cons_append, List.nil_append,
    List.forall_mem_cons]
  refine ⟨rfl, rfl, rfl, rfl, rfl, rfl, rfl, rfl, rfl, rfl, ?_⟩
  intro kind hkind
  cases hkind

theorem readRule_classes (kind : String) : (readRule kind).visibilityClasses = none := by
  unfold readRule
  split <;> rfl

/-- A role that reads is granted the reading of every kind. -/
theorem grants_of_reads {principal : Principal} (h : reads principal = true) (kind : String) :
    grants (readRule kind) principal = true := by
  have hroles : ∀ role ∈ readerRoles, role ∈ (readRule kind).organizationRoles := by
    intro role hrole
    unfold readRule
    split
    · exact List.mem_append_left _ hrole
    · exact List.mem_append_left _ (List.mem_append_left _ (List.mem_append_left _ hrole))
  have hproject : (readRule kind).projectRoles = projectReaderRoles := by
    unfold readRule
    split <;> rfl
  unfold reads at h
  unfold grants
  rw [Bool.or_eq_true] at h ⊢
  rcases h with horganization | hprojectRole
  · left
    rw [Option.any_eq_true] at horganization ⊢
    obtain ⟨role, hrole, hreader⟩ := horganization
    exact ⟨role, hrole, decide_eq_true (hroles _ (of_decide_eq_true hreader))⟩
  · right
    rw [hproject]
    rw [Option.any_eq_true] at hprojectRole ⊢
    obtain ⟨role, hrole, hreader⟩ := hprojectRole
    refine ⟨role, hrole, ?_⟩
    have hnonempty : role ≠ "" := by
      rintro rfl
      revert hreader
      decide
    simpa [hnonempty] using hreader

/-- Whom a rule of the views admits is a reader or a client. -/
theorem reads_of_grants {principal : Principal} {kind : String}
    (h : grants (readRule kind) principal = true) (hreads : reads principal = false) :
    readsAsClient principal = true := by
  have hroles : ∀ role ∈ (readRule kind).organizationRoles, role ∈ readerRoles ∨
      role ∈ clientRoles := by
    intro role hrole
    unfold readRule at hrole
    split at hrole
    · exact List.mem_append.mp hrole
    · simp only [apiReadRule, List.mem_append] at hrole
      rcases hrole with ((hreader | hreport) | hfile) | hportal
      · exact Or.inl hreader
      · split at hreport <;> simp_all [clientRoles]
      · split at hfile <;> simp_all [clientRoles]
      · split at hportal <;> simp_all [clientRoles]
  have hproject : (readRule kind).projectRoles = projectReaderRoles := by
    unfold readRule
    split <;> rfl
  have hno := hreads
  unfold reads at hno
  rw [Bool.or_eq_false_iff] at hno
  unfold grants at h
  rw [Bool.or_eq_true, hproject] at h
  unfold readsAsClient
  rw [hreads]
  rcases h with horganization | hprojectRole
  · rw [Option.any_eq_true] at horganization
    obtain ⟨role, hrole, hadmitted⟩ := horganization
    have hnotReader : aliased role ∉ readerRoles := by
      simpa [hrole] using hno.1
    have hclient := (hroles _ (of_decide_eq_true hadmitted)).resolve_left hnotReader
    simp [hrole, hclient]
  · rw [Option.any_eq_true] at hprojectRole
    obtain ⟨role, hrole, hadmitted⟩ := hprojectRole
    have hnot : role ∉ projectReaderRoles := by simpa [hrole] using hno.2
    simp [hnot] at hadmitted

/-- **Who may see a view and is no client may read each kind of records it is made of.** -/
theorem reads_parts {principal : Principal} {tenantId view kind : String} (hview : view ∈ viewKinds)
    (hkind : kind ∈ viewKinds) (h : authorize principal tenantId view "read" = none) :
    authorize principal tenantId kind "read" = none ∨ readsAsClient principal = true := by
  rw [authorize_read_iff (find_readRule view hview) (readRule_classes view)] at h
  rw [authorize_read_iff (find_readRule kind hkind) (readRule_classes kind)]
  obtain ⟨hnonempty, htenant, hgrants⟩ := h
  cases hreads : reads principal with
  | true => exact Or.inl ⟨hnonempty, htenant, grants_of_reads hreads kind⟩
  | false => exact Or.inr (reads_of_grants hgrants hreads)

/-! ### What the routes answer -/

/-- A body is a view the principal may see, and sees as a client. -/
def SeenByClient (principal : Principal) (tenantId : String) (body : ReadBody) : Prop :=
  readsAsClient principal = true ∧ ∃ view, viewResource body = some view ∧
    authorize principal tenantId view "read" = none

/-- Each record of a body is of a kind the principal may read, or part of a view it is shown as a
client. -/
def Permitted (principal : Principal) (tenantId : String) (body : ReadBody) : Prop :=
  ∀ kind ∈ kindsOf body, authorize principal tenantId kind "read" = none ∨
    SeenByClient principal tenantId body

/-- What a list contains is permitted to whom the list is. -/
theorem permitted_readList {P : Platform} {localeCompare : Comparator String}
    {request : ReadRequest} {tenantId : String} {principal : Principal} {r : MemoryRepository}
    {route : ListRoute} {body : ReadBody}
    (hauthorize : authorize principal tenantId route.resource "read" = none)
    (h : readList P localeCompare request tenantId principal r route = .ok body) :
    Permitted principal tenantId body := by
  cases route with
  | workspace =>
    obtain ⟨payload, -, rfl⟩ := map_eq_ok.mp h
    intro kind hkind
    have hparts : authorize principal tenantId kind "read" = none ∨ _ := reads_parts (by decide)
      (List.mem_append_left _ (List.mem_append_left _ hkind)) hauthorize
    exact hparts.imp_right fun hclient => ⟨hclient, _, rfl, hauthorize⟩
  | clientPortal =>
    cases h
    intro kind hkind
    have hparts : authorize principal tenantId kind "read" = none ∨ _ := reads_parts (by decide)
      (List.mem_append_left _ (List.mem_append_right _ hkind)) hauthorize
    exact hparts.imp_right fun hclient => ⟨hclient, _, rfl, hauthorize⟩
  | collection items =>
    obtain ⟨page, hpage, rfl⟩ := map_eq_ok.mp h
    have hkindOfPage : kindOfPage page = items.resourceType := by
      cases items <;> (obtain ⟨_, -, rfl⟩ := map_eq_ok.mp hpage; rfl)
    intro kind hkind
    obtain rfl : kind = kindOfPage page := List.mem_singleton.mp hkind
    rw [hkindOfPage]
    exact Or.inl hauthorize
  | transfers =>
    cases h
    intro kind hkind
    obtain rfl := List.mem_singleton.mp hkind
    exact Or.inl hauthorize
  | _ =>
    obtain ⟨_, -, rfl⟩ := map_eq_ok.mp h
    intro kind hkind
    obtain rfl := List.mem_singleton.mp hkind
    exact Or.inl hauthorize

/-- A lookup that refuses, or finds something where `φ` holds. -/
def FindsIf (φ : Prop) {α : Type} : Except (Response RecordBody) α → Prop
  | .error (.refused _) => True
  | .error (.answered _ _) => False
  | .ok _ => φ

theorem FindsIf.bind {φ ψ : Prop} {α β : Type} {x : Except (Response RecordBody) α}
    {f : α → Except (Response RecordBody) β} (hx : FindsIf φ x)
    (hf : φ → ∀ a, FindsIf ψ (f a)) : FindsIf ψ (x >>= f) := by
  cases x with
  | ok a => exact hf hx a
  | error response =>
    cases response with
    | refused refusal => trivial
    | answered status body => exact hx

theorem findsIf_inTenant {φ : Prop} (hφ : φ) {α : Type} (tenantOf : α → String)
    (tenantId : String) (stored : Option α) (message : String) :
    FindsIf φ (inTenant tenantOf tenantId stored message) := by
  unfold inTenant
  cases stored.filter fun record => tenantOf record = tenantId with
  | none => trivial
  | some record => exact hφ

theorem findsIf_authorized (request : RecordRoutes.RecordRequest) (resource action : String) :
    FindsIf (authorize request.principal request.tenantId.text resource action = none)
      (authorized request resource action) := by
  unfold authorized
  cases hauthorize : authorize request.principal request.tenantId.text resource action with
  | some denied => trivial
  | none => exact rfl

/-- A file is found by whom may read files. -/
theorem findsIf_ready (request : RecordRoutes.RecordRequest) (r : MemoryRepository) :
    FindsIf (authorize request.principal request.tenantId.text "file_record" "read" = none)
      (findReady request r) := by
  have hread : FindsIf
      (authorize request.principal request.tenantId.text "file_record" "read" = none)
      (canReadFile request r) := by
    refine FindsIf.bind (findsIf_inTenant trivial _ _ _ _) fun _ fileRecord => ?_
    dsimp only
    split
    · trivial
    · refine FindsIf.bind (findsIf_authorized request "file_record" "read") fun hauthorize _ => ?_
      split
      · trivial
      · exact hauthorize
  refine FindsIf.bind hread fun hauthorize fileRecord => ?_
  split
  · trivial
  · exact hauthorize

section

variable {Ω : Type}

/-- A response with a record is of a kind the principal may read. -/
def RecordPermitted (principal : Principal) (tenantId : String) : Response RecordBody → Prop
  | .answered _ body => authorize principal tenantId (kindOfRecord body) "read" = none
  | .refused _ => True

/-- A route on a record answers only what its lookup allows. -/
theorem triple_withRecord {α : Type} {find : MemoryRepository → Except (Response RecordBody) α}
    {use : α → RecordM Ω (Response RecordBody)} {φ : Prop} {Q : Response RecordBody → Prop}
    (hfind : ∀ r, FindsIf φ (find r)) (hrefused : ∀ refusal, Q (.refused refusal))
    (huse : φ → ∀ record, Triple (fun _ => True) (use record) (fun response _ => Q response)
      fun _ _ => True) :
    Triple (fun _ => True) (withRecord find use) (fun response _ => Q response)
      fun _ _ => True := by
  unfold withRecord
  refine Triple.bind (R := fun _ _ => True) (Triple.get fun _ _ => trivial) fun s => ?_
  have hfound := hfind s.repository
  cases hs : find s.repository with
  | ok record =>
    rw [hs] at hfound
    exact huse hfound record
  | error response =>
    rw [hs] at hfound
    cases response with
    | refused refusal => exact Triple.pure fun _ _ => hrefused refusal
    | answered status body => exact hfound.elim

variable (P : Platform) (localeCompare : Comparator String) (storage : StorageAdapter Ω)

/-- An operation nothing is asked of. -/
theorem triple_returns {σ α : Type} {m : Effect JsError σ α} :
    Triple (fun _ => True) m (fun _ _ => True) fun _ _ => True := by
  refine Triple.of_exec fun s _ => ?_
  rcases exec m s with ⟨_ | a, t⟩ <;> trivial

/-- The routes that read a record under an id. -/
def readsRecord : RecordRoutes.RecordRoute → Bool
  | .getBlueprint | .getReport | .downloadFile | .getContent => true
  | _ => false

/-- A record is answered to whom may read its kind. -/
theorem triple_recordRoute (request : RecordRoutes.RecordRequest)
    (hroute : readsRecord request.route = true) :
    Triple (fun _ => True) (RecordRoutes.route P storage request)
      (fun response _ => RecordPermitted request.principal request.tenantId.text response)
      fun _ _ => True := by
  unfold RecordRoutes.route
  cases hkind : request.route with
  | getBlueprint =>
    refine triple_withRecord (fun r => FindsIf.bind (findsIf_authorized request _ _)
      fun hauthorize _ => findsIf_inTenant hauthorize _ _ _ _) (fun _ => trivial) ?_
    exact fun hauthorize _ => Triple.pure fun _ _ => hauthorize
  | getReport =>
    refine triple_withRecord (fun r => FindsIf.bind (findsIf_authorized request _ _)
      fun hauthorize _ => findsIf_inTenant hauthorize _ _ _ _) (fun _ => trivial) ?_
    exact fun hauthorize _ => Triple.pure fun _ _ => hauthorize
  | downloadFile =>
    refine triple_withRecord (findsIf_ready request) (fun _ => trivial) fun hauthorize file => ?_
    refine Triple.bind (R := fun _ _ => True) triple_returns fun download => ?_
    exact Triple.bind_lift (fun _ _ _ _ => trivial) fun item _ => Triple.pure fun _ _ => hauthorize
  | getContent =>
    refine triple_withRecord (findsIf_ready request) (fun _ => trivial) fun hauthorize file => ?_
    refine Triple.ite (fun _ => Triple.pure fun _ _ => trivial) fun _ => ?_
    refine Triple.bind (R := fun _ _ => True) triple_returns fun object => ?_
    cases object.filter fun object => object.tenantId = some request.tenantId.text with
    | none => exact Triple.pure fun _ _ => trivial
    | some object => exact Triple.pure fun _ _ => hauthorize
  | _ =>
    rw [hkind] at hroute
    cases hroute

/-- A response that shows nothing the principal of the request may not read. -/
def ShowsPermitted (request : ReadRequest) : Response ReadBody → Prop
  | .refused _ => True
  | .answered _ body =>
    kindsOf body = [] ∨ ∃ tenantId rest principal,
      tenantPath request.pathname = some (tenantId, rest) ∧ request.principal = some principal ∧
        Permitted principal tenantId.text body

theorem triple_readRecord {request : ReadRequest} {tenantId : PathPart} {rest : List PathPart}
    {principal : Principal} (hpath : tenantPath request.pathname = some (tenantId, rest))
    (hprincipal : request.principal = some principal) (recordId : PathPart)
    {route : RecordRoutes.RecordRoute} (hroute : readsRecord route = true) :
    Triple (fun _ => True) (readRecord P storage request tenantId principal recordId route)
      (fun response _ => ShowsPermitted request response) fun _ _ => True := by
  refine Triple.bind (triple_recordRoute P storage
    (request.onRecord tenantId principal recordId route) hroute) fun response => ?_
  cases response with
  | refused refusal => exact Triple.pure fun _ _ => trivial
  | answered status body =>
    refine Triple.pure fun _ hpermitted => Or.inr ⟨tenantId, rest, principal, hpath, hprincipal, ?_⟩
    intro kind hkind
    obtain rfl := List.mem_singleton.mp hkind
    exact Or.inl hpermitted

theorem triple_readLists {request : ReadRequest} {tenantId : PathPart} {rest : List PathPart}
    {principal : Principal} (hpath : tenantPath request.pathname = some (tenantId, rest))
    (hprincipal : request.principal = some principal) (route : ListRoute) :
    Triple (fun _ => True) (readLists P localeCompare request tenantId principal route)
      (fun response _ => ShowsPermitted request response)
      fun (_ : JsError) (_ : RecordStores Ω) => True := by
  unfold readLists
  cases hauthorize : authorize principal tenantId.text route.resource "read" with
  | some denied => exact Triple.pure fun _ _ => trivial
  | none =>
    refine Triple.bind (R := fun _ _ => True) (Triple.get fun _ _ => trivial) fun s => ?_
    refine Triple.bind_lift (fun _ _ _ _ => trivial) fun body hbody => ?_
    exact Triple.pure fun _ _ => Or.inr ⟨tenantId, rest, principal, hpath, hprincipal,
      permitted_readList hauthorize hbody⟩

theorem triple_route (request : ReadRequest) :
    Triple (fun _ => True) (route P localeCompare storage request)
      (fun response _ => ShowsPermitted request response) fun _ _ => True := by
  unfold ReadRoutes.route
  refine Triple.ite (fun _ => Triple.pure fun _ _ => Or.inl rfl) fun _ => ?_
  cases hpath : tenantPath request.pathname with
  | none => exact Triple.pure fun _ _ => trivial
  | some path =>
    obtain ⟨tenantId, rest⟩ := path
    cases hprincipal : request.principal with
    | none => exact Triple.pure fun _ _ => trivial
    | some principal =>
      dsimp only
      cases ReadRoute.ofParts rest with
      | none => exact Triple.pure fun _ _ => trivial
      | some readable =>
        cases readable with
        | list route => exact triple_readLists P localeCompare hpath hprincipal route
        | downloadFile fileId => exact triple_readRecord P storage hpath hprincipal fileId rfl
        | getContent fileId => exact triple_readRecord P storage hpath hprincipal fileId rfl
        | getBlueprint recordId => exact triple_readRecord P storage hpath hprincipal recordId rfl
        | getReport recordId => exact triple_readRecord P storage hpath hprincipal recordId rfl

/-- **What a GET request is answered is of kinds its principal may read in the tenant of the path,
or part of a view that a client is shown as a whole.** -/
theorem reads_permitted {request : ReadRequest} {s : RecordStores Ω} {status : ℕ} {body : ReadBody}
    (h : (answer P localeCompare storage request s).1 = .ok (.answered status body)) {kind : String}
    (hkind : kind ∈ kindsOf body) :
    ∃ tenantId rest principal, tenantPath request.pathname = some (tenantId, rest) ∧
      request.principal = some principal ∧
      (authorize principal tenantId.text kind "read" = none ∨
        SeenByClient principal tenantId.text body) := by
  have hshows : Triple (fun _ => True) (handleApiRequest (route P localeCompare storage request))
      (fun response _ => ShowsPermitted request response) fun _ _ => True :=
    Triple.tryCatch (triple_route P localeCompare storage request) fun _ =>
      Triple.pure fun _ _ => trivial
  rcases hrun : answer P localeCompare storage request s with ⟨result, t⟩
  rw [hrun] at h
  dsimp only at h
  rw [h] at hrun
  rcases hshows.of_ok trivial hrun with hnone | ⟨tenantId, rest, principal, hpath, hprincipal, hall⟩
  · rw [hnone] at hkind
    cases hkind
  · exact ⟨tenantId, rest, principal, hpath, hprincipal, hall kind hkind⟩

end

/-- A client asks for the workspace of its tenant. -/
def workspaceRead : ReadRequest := readAt "/v1/tenants/tenant-b/blueprint-workspace" asClient

/-- It is shown the finding there. -/
theorem reads_permitted_workspace :
    ∃ payload, (answer ⟨fun _ => "", fun _ _ => "", id⟩ (Comparator.ofKey id) emptyStorage
        workspaceRead othersRecords).1 = .ok (.answered 200 (.workspace payload)) ∧
      ∃ tenantId rest principal, tenantPath workspaceRead.pathname = some (tenantId, rest) ∧
        workspaceRead.principal = some principal ∧
          (authorize principal tenantId.text "ai_finding" "read" = none ∨
            SeenByClient principal tenantId.text (.workspace payload)) := by
  have hseen : ∃ payload, (answer ⟨fun _ => "", fun _ _ => "", id⟩ (Comparator.ofKey id)
      emptyStorage workspaceRead othersRecords).1 = .ok (.answered 200 (.workspace payload)) :=
    ⟨_, rfl⟩
  obtain ⟨payload, hanswer⟩ := hseen
  have hfinding : "ai_finding" ∈ workspaceKinds := by simp [workspaceKinds]
  exact ⟨payload, hanswer, reads_permitted _ _ _ hanswer hfinding⟩

end Xygo.Analysis
