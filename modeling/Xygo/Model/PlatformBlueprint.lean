import Xygo.Computation.LowerCase
import Xygo.Model.FindingRoutes

/-!
# Platform blueprints

`packages/platform-blueprint`: the intake of a business, the modules recommended for it, and the
blueprint with its build steps. A module is recommended because it was selected, because the text of
the intake has one of its triggers, or because it belongs to the industry's baseline.
-/

set_option autoImplicit false

namespace Xygo.Model

open Xygo.Computation

/-- Unicode's properties of characters, as far as the texts of an intake rely on them: a space and a
line feed are no letters and nothing passes over them. -/
structure UnicodeTable extends CaseTable where
  space : toCaseTable.Stops ' '
  lineFeed : toCaseTable.Stops '\n'

/-- `text.toLowerCase()` -/
def UnicodeTable.toLowerCase (T : UnicodeTable) (text : String) : String :=
  String.ofList (T.lower text.toList)

/-- The text of an industry. -/
def Industry.text : Industry → String
  | .construction => "construction"
  | .fieldServices => "field_services"
  | .inspections => "inspections"
  | .engineering => "engineering"
  | .homeServices => "home_services"
  | .other => "other"

/-- The industry of a text. -/
def industry? (text : String) : Option Industry :=
  [Industry.construction, .fieldServices, .inspections, .engineering, .homeServices, .other].find?
    fun industry => industry.text = text

/-- A module of the library. -/
structure LibraryModule where
  key : String
  name : String
  category : String
  replaces : String
  deriving DecidableEq, Repr

/-- `MODULE_LIBRARY`
SOURCE: packages/platform-blueprint/src/index.js:30-42 -/
def moduleLibrary : List LibraryModule :=
  [⟨"client_portal", "Client Portal", "customer_experience", "email/phone status updates"⟩,
    ⟨"scheduling", "Scheduling & Booking", "operations", "manual calendar coordination"⟩,
    ⟨"crm_intake", "CRM / Lead Intake", "sales", "spreadsheet lead tracking"⟩,
    ⟨"field_reporting", "Field Reporting", "operations", "paper/photo field notes"⟩,
    ⟨"document_analysis", "Document Analysis", "knowledge", "manual document review"⟩,
    ⟨"compliance_review", "Compliance / Insurance Review", "risk", "manual compliance checks"⟩,
    ⟨"permitting", "Permitting", "operations", "manual permit package prep"⟩,
    ⟨"accounting_job_costing", "Accounting / Job Costing Dashboard", "finance",
      "spreadsheet job costing"⟩,
    ⟨"ai_receptionist", "AI Receptionist", "ai_agent", "missed calls and manual intake"⟩,
    ⟨"ai_project_coordinator", "AI Project Coordinator", "ai_agent", "manual status chasing"⟩,
    ⟨"reporting_dashboard", "Reporting Dashboard", "analytics", "manual report compilation"⟩]

/-- `MODULE_BY_KEY.get(key)` -/
def moduleByKey (key : String) : Option LibraryModule := moduleLibrary.find? fun m => m.key = key

/-- `MODULE_RULES`
SOURCE: packages/platform-blueprint/src/index.js:48-60 -/
def moduleRules : List (String × List String) :=
  [("field_reporting",
      ["field report", "field data", "photo", "job site", "inspection report", "daily log"]),
    ("client_portal",
      ["client portal", "customer portal", "client visibility", "status update", "share reports"]),
    ("scheduling", ["schedule", "booking", "dispatch", "appointment", "calendar"]),
    ("crm_intake", ["lead", "intake", "crm", "estimate request", "new inquiry"]),
    ("document_analysis", ["document", "spec", "drawing", "contract", "submittal", "pdf"]),
    ("compliance_review",
      ["compliance", "insurance", "coi", "safety", "osha", "certification"]),
    ("permitting", ["permit", "jurisdiction", "ahj", "code review"]),
    ("accounting_job_costing",
      ["job cost", "invoic", "accounting", "budget", "margin", "billing"]),
    ("ai_receptionist", ["receptionist", "answer calls", "phone intake", "after hours"]),
    ("ai_project_coordinator",
      ["coordinat", "status chasing", "follow up", "project manager assist"]),
    ("reporting_dashboard", ["report", "dashboard", "kpi", "metrics", "analytics"])]

/-- `INDUSTRY_DEFAULT_MODULES`
SOURCE: packages/platform-blueprint/src/index.js:63-70 -/
def industryDefaultModules : Industry → List String
  | .construction => ["field_reporting", "client_portal", "document_analysis", "reporting_dashboard"]
  | .fieldServices => ["scheduling", "field_reporting", "client_portal", "crm_intake"]
  | .inspections => ["field_reporting", "document_analysis", "compliance_review", "client_portal"]
  | .engineering => ["document_analysis", "reporting_dashboard", "client_portal"]
  | .homeServices => ["scheduling", "crm_intake", "client_portal", "ai_receptionist"]
  | .other => ["client_portal", "reporting_dashboard"]

/-- `toArray`
SOURCE: packages/platform-blueprint/src/index.js:14-16 -/
def toArray : Option Json → List Json
  | some (.array items) => items
  | _ => []

/-- `createBlueprintIntake`
SOURCE: packages/platform-blueprint/src/index.js:72-104 -/
def createBlueprintIntake (input : Json) : Except JsError BlueprintIntake := do
  let id ← input.requiredString "id" "Blueprint id"
  let tenantId ← input.requiredString "tenantId" "Blueprint tenantId"
  let businessName ← input.requiredString "businessName" "Business name"
  let named ← input.requiredString "industry" "Industry"
  match industry? named with
  | none => throw (newError ("Unknown industry: " ++ named))
  | some industry =>
    if !input.isTrue "staged" then throw (newError "Blueprint intake must be staged.")
    return {
      id := id
      tenantId := tenantId
      businessName := businessName
      industry := industry
      serviceLine := input.orElse "serviceLine" .null
      roles := toArray (input.member? "roles")
      workflows := toArray (input.member? "workflows")
      painPoints := toArray (input.member? "painPoints")
      portalRequirements := toArray (input.member? "portalRequirements")
      dashboardRequirements := toArray (input.member? "dashboardRequirements")
      aiAgentRequirements := toArray (input.member? "aiAgentRequirements")
      documentReportingNeeds := toArray (input.member? "documentReportingNeeds")
      integrationNeeds := toArray (input.member? "integrationNeeds")
      selectedModules := toArray (input.member? "selectedModules") }

/-- `intake.serviceLine ?? ""` -/
def serviceLineEntry : Json → Json
  | .null => .string ""
  | value => value

/-- What the text of an intake is made of. -/
def haystackEntries (intake : BlueprintIntake) : List Json :=
  serviceLineEntry intake.serviceLine :: (intake.workflows ++ intake.painPoints ++
    intake.portalRequirements ++ intake.dashboardRequirements ++ intake.aiAgentRequirements ++
    intake.documentReportingNeeds ++ intake.integrationNeeds)

/-- `haystack`
SOURCE: packages/platform-blueprint/src/index.js:106-119 -/
def haystack (T : UnicodeTable) (intake : BlueprintIntake) : Except JsError String := do
  let texts ← Json.itemsToText (haystackEntries intake)
  return T.toLowerCase (" \n ".intercalate texts)

/-- `{ ...module, rationale }` -/
def LibraryModule.recommended (m : LibraryModule) (rationale : String) : RecommendedModule where
  key := m.key
  name := m.name
  category := m.category
  replaces := m.replaces
  rationale := rationale

/-- `add`: the first reason for a module counts.
SOURCE: packages/platform-blueprint/src/index.js:125-130 -/
def addRecommendation (recommendations : OrderedMap String RecommendedModule) (key : Json)
    (rationale : String) : OrderedMap String RecommendedModule :=
  match key with
  | .string key =>
    match moduleByKey key with
    | none => recommendations
    | some m =>
      if recommendations.has key then recommendations
      else recommendations.set key (m.recommended rationale)
  | _ => recommendations

/-- The recommendations of an intake with a text.
SOURCE: packages/platform-blueprint/src/index.js:132-146 -/
def recommendationsOf (intake : BlueprintIntake) (text : String) :
    OrderedMap String RecommendedModule :=
  let selected := intake.selectedModules.foldl
    (fun recommendations key => addRecommendation recommendations key "explicitly selected") .empty
  let triggered := moduleRules.foldl
    (fun recommendations rule =>
      match rule.2.find? (includes text) with
      | some trigger =>
        addRecommendation recommendations (.string rule.1)
          ("matched requirement: \"" ++ trigger ++ "\"")
      | none => recommendations) selected
  (industryDefaultModules intake.industry).foldl
    (fun recommendations key =>
      addRecommendation recommendations (.string key) (intake.industry.text ++ " baseline"))
    triggered

/-- `recommendModules`
SOURCE: packages/platform-blueprint/src/index.js:121-151 -/
def recommendModules (T : UnicodeTable) (intake : BlueprintIntake) :
    Except JsError (List RecommendedModule) := do
  let text ← haystack T intake
  let recommendations := recommendationsOf intake text
  return moduleLibrary.filterMap fun m => recommendations.get m.key

/-- `buildOrder`
SOURCE: packages/platform-blueprint/src/index.js:162-174 -/
def buildOrder : List String :=
  ["crm_intake", "scheduling", "field_reporting", "document_analysis", "permitting",
    "compliance_review", "accounting_job_costing", "ai_receptionist", "ai_project_coordinator",
    "reporting_dashboard", "client_portal"]

/-- The step that provisions a module. -/
def buildStep (index : Nat) (key : String) : BuildStep where
  order := index + 1
  module := key
  action := "Provision staged " ++ ((moduleByKey key).map LibraryModule.name).getD "undefined"
  replaces := ((moduleByKey key).map LibraryModule.replaces).getD "undefined"

/-- `nextBuildSteps`
SOURCE: packages/platform-blueprint/src/index.js:175-182 -/
def nextBuildSteps (moduleKeys : List String) : List BuildStep :=
  (buildOrder.filter fun key => key ∈ moduleKeys).mapIdx buildStep

/-- `summary`
SOURCE: packages/platform-blueprint/src/index.js:184-187 -/
def blueprintSummary (intake : BlueprintIntake) (modules : List RecommendedModule)
    (steps : List BuildStep) : String :=
  "Staged platform blueprint for " ++ intake.businessName ++ " (" ++ intake.industry.text ++ "): " ++
    toString modules.length ++ " recommended module(s) — " ++
    ", ".intercalate (modules.map RecommendedModule.name) ++ ". " ++ toString steps.length ++
    " build step(s) planned. SIMULATED — no live deployment."

/-- The keys of the modules of a category. -/
def keysOfCategory (modules : List RecommendedModule) (category : String) : List String :=
  (modules.filter fun m => m.category = category).map RecommendedModule.key

/-- `generatePlatformBlueprint`
SOURCE: packages/platform-blueprint/src/index.js:153-224 -/
def generatePlatformBlueprint (T : UnicodeTable) (intakeInput : Json) :
    Except JsError PlatformBlueprint := do
  let intake ← createBlueprintIntake intakeInput
  let modules ← recommendModules T intake
  let moduleKeys := modules.map RecommendedModule.key
  let steps := nextBuildSteps moduleKeys
  return {
    id := intake.id
    blueprintId := intake.id
    tenantId := intake.tenantId
    businessName := intake.businessName
    industry := intake.industry
    intake := intake
    recommendedModules := modules
    portalModules := keysOfCategory modules "customer_experience"
    includesReportingDashboard := "reporting_dashboard" ∈ moduleKeys
    aiAgents := keysOfCategory modules "ai_agent"
    includesDocumentAnalysis := "document_analysis" ∈ moduleKeys
    nextBuildSteps := steps
    summary := blueprintSummary intake modules steps }

end Xygo.Model
