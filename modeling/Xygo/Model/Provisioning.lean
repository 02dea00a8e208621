import Xygo.Computation.Comparator
import Xygo.Model.PlatformBlueprint
import Xygo.Model.Principals

/-!
# Provisioning a tenant

`packages/activation/src/provision-tenant.js`: the records of a staged tenant, from an input that is
normalised first. The users are brought into the order of a locale's comparison of their e-mail
addresses, and what is made of a user carries the user's place in that order.
-/

set_option autoImplicit false

namespace Xygo.Model.Provisioning

open Xygo.Computation

/-- `requiredString`: the text without the blanks around it.
SOURCE: packages/activation/src/provision-tenant.js:12-17 -/
def requiredString (value : Option Json) (label : String) : Except JsError String :=
  match value with
  | some (.string text) =>
    if trim text = "" then .error (newError (label ++ " is required.")) else .ok (trim text)
  | _ => .error (newError (label ++ " is required."))

/-- A lower-case letter or a digit of ASCII. -/
def isSlugChar (c : Char) : Bool := c.isLower || c.isDigit

/-- `/^[a-z0-9]+(?:-[a-z0-9]+)*$/` -/
def isSlug (text : String) : Bool :=
  (text.toList.splitOn '-').all fun part => part ≠ [] && part.all isSlugChar

/-- `assertSlug`
SOURCE: packages/activation/src/provision-tenant.js:19-25 -/
def assertSlug (value : Option Json) : Except JsError String := do
  let slug ← requiredString value "Tenant slug"
  if !isSlug slug then
    throw (newError
      "Tenant slug must contain lowercase letters, numbers, and single hyphens only.")
  return slug

/-- A user of the normalised input. -/
structure NormalizedUser where
  email : String
  displayName : String
  role : String
  oidcSubject : Option String
  deriving DecidableEq, Repr

/-- A text that may be left out: the subject of a user, the issuer of an input.
SOURCE: packages/activation/src/provision-tenant.js:37-39,66-68 -/
def optionalString (value : Option Json) (label : String) : Except JsError (Option String) :=
  match value with
  | none | some .null => .ok none
  | value => do
    let text ← requiredString value label
    return some text

/-- The callback of `users.map`.
SOURCE: packages/activation/src/provision-tenant.js:31-41 -/
def normalizeUser (T : UnicodeTable) (user : Json) (index : Nat) :
    Except JsError NormalizedUser := do
  let label := "User " ++ toString (index + 1)
  let email ← requiredString (user.member? "email") (label ++ " email")
  let displayName ← requiredString (user.member? "displayName") (label ++ " displayName")
  let role ← requiredString (user.member? "role") (label ++ " role")
  if role ∉ paidClientRoles then throw (newError ("Unknown paid-client role: " ++ role))
  let oidcSubject ← optionalString (user.member? "oidcSubject") (label ++ " oidcSubject")
  return ⟨T.toLowerCase email, displayName, role, oidcSubject⟩

/-- What `users.map` gives for the users from a place on. -/
def normalizeFrom (T : UnicodeTable) : Nat → List Json → Except JsError (List NormalizedUser)
  | _, [] => .ok []
  | index, user :: users => do
    let first ← normalizeUser T user index
    let rest ← normalizeFrom T (index + 1) users
    return first :: rest

/-- `normalizeUsers`; `localeCompare` is the comparison of the locale.
SOURCE: packages/activation/src/provision-tenant.js:27-53 -/
def normalizeUsers (T : UnicodeTable) (localeCompare : Comparator String) (users : Option Json) :
    Except JsError (List NormalizedUser) :=
  match users with
  | some (.array (first :: rest)) => do
    let normalized ← normalizeFrom T 0 (first :: rest)
    if !normalized.any fun user => user.role = "client_owner" then
      .error (newError "At least one client_owner is required.")
    else if ¬ (normalized.map NormalizedUser.email).Nodup then
      .error (newError "User emails must be unique within a tenant.")
    else if ¬ (normalized.filterMap NormalizedUser.oidcSubject).Nodup then
      .error (newError "OIDC subjects must be unique within a tenant.")
    else .ok (localeCompare.sortBy NormalizedUser.email normalized)
  | _ => .error (newError "At least one user is required.")

/-- The normalised input. -/
structure Config where
  slug : String
  businessName : String
  projectName : String
  brandName : String
  primaryColor : Json
  users : List NormalizedUser
  oidcIssuer : Option String

/-- `input.brandName ?? input.businessName` -/
def brandOf (input : Json) : Option Json :=
  match input.member? "brandName" with
  | none | some .null => input.member? "businessName"
  | some value => some value

/-- `normalizeProvisioningInput`
SOURCE: packages/activation/src/provision-tenant.js:55-73 -/
def normalizeProvisioningInput (T : UnicodeTable) (localeCompare : Comparator String)
    (input : Json) : Except JsError Config := do
  if !input.isTrue "staged" then throw (newError "Provisioning requires staged=true.")
  let users ← normalizeUsers T localeCompare (input.member? "users")
  let slug ← assertSlug (input.member? "slug")
  let businessName ← requiredString (input.member? "businessName") "Business name"
  let projectName ← requiredString (input.member? "projectName") "Project name"
  let brandName ← requiredString (brandOf input) "Brand name"
  let oidcIssuer ← optionalString (input.member? "oidcIssuer") "OIDC issuer"
  if users.any (fun user => user.oidcSubject.isSome) && oidcIssuer.isNone then
    throw (newError "OIDC issuer is required when a user has an oidcSubject.")
  return {
    slug := slug
    businessName := businessName
    projectName := projectName
    brandName := brandName
    primaryColor := input.orElse "primaryColor" (.string "#17324d")
    users := users
    oidcIssuer := oidcIssuer }

/-- A member that is there only where its value is. -/
def optionalMember (key : String) : Option String → List (String × Json)
  | none => []
  | some value => [(key, .string value)]

/-- A normalised user as a value. -/
def NormalizedUser.json (user : NormalizedUser) : Json :=
  .object ([("email", .string user.email), ("displayName", .string user.displayName),
    ("role", .string user.role)] ++ optionalMember "oidcSubject" user.oidcSubject)

/-- The normalised input as a value. -/
def Config.json (config : Config) : Json :=
  .object ([("slug", .string config.slug), ("businessName", .string config.businessName),
    ("projectName", .string config.projectName), ("brandName", .string config.brandName),
    ("primaryColor", config.primaryColor),
    ("users", .array (config.users.map NormalizedUser.json))] ++
      optionalMember "oidcIssuer" config.oidcIssuer)

/-- `` `tenant-${config.slug}` `` -/
def Config.tenantId (config : Config) : String := "tenant-" ++ config.slug

/-- What `createTenant` returns. -/
structure StagedTenant where
  id : String
  name : String
  staged : Bool
  status : Json
  createdAt : Json

/-- `createTenant`; `clock` is the time of `new Date()`.
SOURCE: packages/shared-contracts/src/foundation.js:43-55 -/
def createTenant (clock : String) (input : Json) : Except JsError StagedTenant := do
  let id ← input.requiredString "id" "Tenant id"
  let name ← input.requiredString "name" "Tenant name"
  if !input.isTrue "staged" then
    throw (newError "Synthetic staged entities must set staged=true.")
  return {
    id := id
    name := name
    staged := true
    status := input.orElse "status" (.string "active")
    createdAt := input.orElse "createdAt" (.string clock) }

/-- What `createUser` returns. -/
structure StagedUser where
  id : String
  tenantId : String
  email : String
  displayName : String
  staged : Bool
  status : Json

/-- `createUser`
SOURCE: packages/shared-contracts/src/foundation.js:102-117 -/
def createUser (input : Json) : Except JsError StagedUser := do
  let id ← input.requiredString "id" "User id"
  let tenantId ← input.requiredString "tenantId" "User tenantId"
  let email ← input.requiredString "email" "User email"
  let displayName ← input.requiredString "displayName" "User displayName"
  if !input.isTrue "staged" then
    throw (newError "Synthetic staged entities must set staged=true.")
  return {
    id := id
    tenantId := tenantId
    email := email
    displayName := displayName
    staged := true
    status := input.orElse "status" (.string "active") }

/-- The role of a provisioned user. -/
structure StagedRole where
  id : String
  tenantId : String
  userId : String
  role : String
  staged : Bool
  deriving DecidableEq

/-- The identity a provisioned user is bound to; an issuer that is `undefined` is `none`. -/
structure StagedIdentity where
  id : String
  tenantId : String
  userId : String
  issuer : Option String
  subject : String
  staged : Bool
  deriving DecidableEq

structure BusinessProfile where
  id : String
  tenantId : String
  legalName : String
  serviceLine : String
  staged : Bool

structure PortalConfiguration where
  id : String
  tenantId : String
  brandName : String
  primaryColor : Json
  approvedContentOnly : Bool
  staged : Bool

/-- An update of a portal; its `at` is `createdAt` here. -/
structure PortalUpdate where
  id : String
  createdAt : String
  message : String

structure PortalData where
  id : String
  tenantId : String
  projectId : String
  welcomeMessage : String
  approvedReports : List Json
  updates : List PortalUpdate
  staged : Bool

structure ProvisioningEvent where
  id : String
  tenantId : String
  action : String
  createdAt : String
  staged : Bool

/-- What `buildStagedTenantProvisioning` returns. -/
structure ProvisioningRecords where
  config : Config
  provisioningKey : String
  tenant : StagedTenant
  users : List StagedUser
  roleAssignments : List StagedRole
  oidcIdentities : List StagedIdentity
  businessProfile : BusinessProfile
  project : Project
  blueprint : PlatformBlueprint
  portalConfiguration : PortalConfiguration
  portalData : PortalData
  provisioningEvent : ProvisioningEvent

/-- The number of a place, from one. -/
def place (index : Nat) : String := toString (index + 1)

/-- The input of `createUser` for the user at a place. -/
def userInput (tenantId : String) (user : NormalizedUser) (index : Nat) : Json :=
  .object [("id", .string (tenantId ++ "-user-" ++ place index)), ("tenantId", .string tenantId),
    ("email", .string user.email), ("displayName", .string user.displayName),
    ("staged", .bool true)]

/-- The users that are created for those from a place on.
SOURCE: packages/activation/src/provision-tenant.js:81-87 -/
def createUsers (tenantId : String) : Nat → List NormalizedUser → Except JsError (List StagedUser)
  | _, [] => .ok []
  | index, user :: users => do
    let first ← createUser (userInput tenantId user index)
    let rest ← createUsers tenantId (index + 1) users
    return first :: rest

/-- The role of a created user; `requested` is `config.users[index]`.
SOURCE: packages/activation/src/provision-tenant.js:88-94 -/
def roleAssignment (tenantId : String) (index : Nat) (requested : NormalizedUser)
    (user : StagedUser) : StagedRole where
  id := tenantId ++ "-role-" ++ place index
  tenantId := tenantId
  userId := user.id
  role := requested.role
  staged := true

/-- The identity of a created user, where its subject is given.
SOURCE: packages/activation/src/provision-tenant.js:95-106 -/
def oidcIdentity (tenantId : String) (issuer : Option String) (index : Nat)
    (requested : NormalizedUser) (user : StagedUser) : Option StagedIdentity :=
  requested.oidcSubject.map fun subject =>
    { id := tenantId ++ "-oidc-" ++ place index
      tenantId := tenantId
      userId := user.id
      issuer := issuer
      subject := subject
      staged := true }

/-- `serviceLine` of the business profile. -/
def serviceLine : String := "Contractor Field Reports + Client Portal"

def texts (values : List String) : Json := .array (values.map Json.string)

/-- The input of `createProject`.
SOURCE: packages/activation/src/provision-tenant.js:111-114 -/
def projectInput (config : Config) : Json :=
  .object [("id", .string (config.tenantId ++ "-project-1")),
    ("tenantId", .string config.tenantId), ("name", .string config.projectName),
    ("projectType", .string "commercial"), ("status", .string "draft"), ("staged", .bool true)]

/-- The input of `generatePlatformBlueprint`.
SOURCE: packages/activation/src/provision-tenant.js:115-125 -/
def blueprintInput (config : Config) : Json :=
  .object [("id", .string (config.tenantId ++ "-blueprint-1")),
    ("tenantId", .string config.tenantId), ("businessName", .string config.businessName),
    ("industry", .string "construction"), ("serviceLine", .string serviceLine),
    ("roles", texts (config.users.map NormalizedUser.role)),
    ("workflows", texts ["field report capture", "human review", "share reports"]),
    ("painPoints", texts ["manual field report compilation", "client status updates"]),
    ("portalRequirements", texts ["approved reports only", "branded client portal"]),
    ("dashboardRequirements", texts ["report status"]), ("aiAgentRequirements", texts []),
    ("documentReportingNeeds", texts ["daily field reports"]), ("integrationNeeds", texts []),
    ("selectedModules", texts ["field_reporting", "client_portal"]), ("staged", .bool true)]

/-- The input of `createTenant`. -/
def tenantInput (config : Config) (createdAt : String) : Json :=
  .object [("id", .string config.tenantId), ("name", .string config.businessName),
    ("staged", .bool true), ("createdAt", .string createdAt)]

/-- What `buildStagedTenantProvisioning` makes of a normalised input.
SOURCE: packages/activation/src/provision-tenant.js:77-150 -/
def recordsOf (P : Platform) (T : UnicodeTable) (now : String) (config : Config) :
    Except JsError ProvisioningRecords := do
  let tenantId := config.tenantId
  let tenant ← createTenant now (tenantInput config now)
  let users ← createUsers tenantId 0 config.users
  let project ← createProject (projectInput config)
  let blueprint ← generatePlatformBlueprint T (blueprintInput config)
  let made := (config.users.zip users).zipIdx
  return {
    config := config
    provisioningKey := P.sha256 (stringify config.json)
    tenant := tenant
    users := users
    roleAssignments := made.map fun m => roleAssignment tenantId m.2 m.1.1 m.1.2
    oidcIdentities := made.filterMap fun m =>
      oidcIdentity tenantId config.oidcIssuer m.2 m.1.1 m.1.2
    businessProfile := ⟨tenantId ++ "-business-profile", tenantId, config.businessName,
      serviceLine, true⟩
    project := project
    blueprint := blueprint
    portalConfiguration := ⟨tenantId ++ "-portal-config", tenantId, config.brandName,
      config.primaryColor, true, true⟩
    portalData := {
      id := tenantId ++ "-portal-starter"
      tenantId := tenantId
      projectId := project.id
      welcomeMessage := "Welcome to the " ++ config.brandName ++ " project portal."
      approvedReports := []
      updates := [⟨tenantId ++ "-portal-update-1", now,
        config.brandName ++ " staged portal provisioned."⟩]
      staged := true }
    provisioningEvent :=
      ⟨tenantId ++ "-provisioned", tenantId, "staged_tenant.provisioned", now, true⟩ }

/-- `buildStagedTenantProvisioning`; `now` is what the clock of its options gives.
SOURCE: packages/activation/src/provision-tenant.js:75-150 -/
def buildStagedTenantProvisioning (P : Platform) (T : UnicodeTable)
    (localeCompare : Comparator String) (now : String) (input : Json) :
    Except JsError ProvisioningRecords := do
  let config ← normalizeProvisioningInput T localeCompare input
  recordsOf P T now config

end Xygo.Model.Provisioning
