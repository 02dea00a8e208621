import Xygo.Model.Js

/-!
# The access policy

`packages/authorization/src/policy.js`: the matrix of rules, and `canPerform`. A rule names the
organization roles and the project roles that may take an action on a resource; everything no rule
names is denied.
-/

set_option autoImplicit false

namespace Xygo.Model

/-- `ORGANIZATION_ROLE_ALIASES`
SOURCE: packages/authorization/src/policy.js:1-4 -/
def organizationRoleAliases : List (String × String) :=
  [("xygo_admin", "platform_admin"), ("client_owner", "company_admin")]

/-- A rule of the matrix.
SOURCE: packages/authorization/src/policy.js:6-119 -/
structure AccessRule where
  resource : String
  action : String
  organizationRoles : List String
  projectRoles : List String := []
  visibilityClasses : Option (List String) := none

/-- The rule of the resources an API route reads.
SOURCE: packages/authorization/src/policy.js:50-80 -/
def apiReadRule (resource : String) : AccessRule where
  resource := resource
  action := "read"
  organizationRoles := ["platform_admin", "company_admin", "executive", "supervisor",
      "read_only_auditor"] ++
    (if resource = "field_report" then ["client_staff"] else []) ++
    (if resource = "file_record" then ["client_staff", "client_viewer"] else []) ++
    (if resource = "client_portal" then ["client_staff", "client_viewer"] else [])
  projectRoles := ["project_executive", "project_manager", "design_manager", "viewer"]

/-- The rule of the resources an API route creates.
SOURCE: packages/authorization/src/policy.js:81-92 -/
def apiCreateRule (resource : String) : AccessRule where
  resource := resource
  action := "create"
  organizationRoles := ["platform_admin", "company_admin"] ++
    (if resource ∈ ["field_report", "file_record"] then ["client_staff"] else [])
  projectRoles := ["project_manager", "design_manager"]

/-- The rule of a change that staff of the client may make.
SOURCE: packages/authorization/src/policy.js:93-110 -/
def staffRule (resource action : String) : AccessRule where
  resource := resource
  action := action
  organizationRoles := ["platform_admin", "company_admin", "client_staff"]
  projectRoles := ["project_manager", "design_manager"]

/-- `ALLOW_MATRIX`
SOURCE: packages/authorization/src/policy.js:6-122 -/
def allowMatrix : List AccessRule :=
  [{ resource := "tenant"
     action := "read"
     organizationRoles := ["platform_admin", "company_admin", "executive", "read_only_auditor"] },
   { resource := "department"
     action := "read"
     organizationRoles := ["platform_admin", "company_admin", "executive", "department_head",
       "supervisor"] },
   { resource := "project"
     action := "read"
     organizationRoles := ["platform_admin", "company_admin", "executive", "supervisor",
       "read_only_auditor", "client_staff", "client_viewer"]
     projectRoles := ["project_executive", "project_manager", "design_manager", "viewer"] },
   { resource := "project"
     action := "update"
     organizationRoles := ["platform_admin", "company_admin"]
     projectRoles := ["project_manager", "design_manager"] },
   { resource := "channel"
     action := "read"
     organizationRoles := ["platform_admin", "company_admin", "supervisor", "employee"]
     visibilityClasses := some ["participant_only", "team_only", "department_only",
       "project_only", "company_public_summary"] },
   { resource := "announcement_channel"
     action := "publish"
     organizationRoles := ["platform_admin", "company_admin", "executive"] }] ++
  ["coordination_issue", "rfi", "permit_package", "review_session", "ai_review_run", "ai_finding",
    "executive_dashboard", "audit_event", "transfer", "platform_blueprint", "field_report",
    "file_record", "email_delivery", "client_portal"].map apiReadRule ++
  ["coordination_issue", "rfi", "permit_package", "review_session", "ai_review_run", "ai_finding",
    "platform_blueprint", "field_report", "file_record"].map apiCreateRule ++
  [staffRule "field_report" "update",
   staffRule "file_record" "update",
   staffRule "file_record" "delete",
   { resource := "project"
     action := "create"
     organizationRoles := ["platform_admin", "company_admin"] },
   { resource := "ai_finding"
     action := "update"
     organizationRoles := ["platform_admin", "company_admin"]
     projectRoles := ["project_manager", "design_manager"] }]

/-- The input of `canPerform`. -/
structure AccessInput where
  resource : String
  action : String
  tenantId : String
  resourceTenantId : String
  organizationRole : Option String
  projectRole : Option String
  visibilityClass : Option String := none

/-- The reason of a decision. -/
inductive AccessReason
  | noMatchingRule
  | tenantMismatch
  | visibilityClassDenied
  | roleDenied
  | allowed
  deriving DecidableEq, Repr

/-- The text of a reason. -/
def AccessReason.text : AccessReason → String
  | .noMatchingRule => "default_deny_no_matching_rule"
  | .tenantMismatch => "tenant_mismatch"
  | .visibilityClassDenied => "visibility_class_denied"
  | .roleDenied => "role_denied"
  | .allowed => "allowed"

/-- Whether a rule's roles allow the roles of an input.
SOURCE: packages/authorization/src/policy.js:149-153 -/
def AccessRule.admits (rule : AccessRule) (input : AccessInput) : Bool :=
  (input.organizationRole.any fun role =>
      (organizationRoleAliases.lookup role).getD role ∈ rule.organizationRoles) ||
    (input.projectRole.any fun role => role ≠ "" && role ∈ rule.projectRoles)

/-- `canPerform`: why it is denied, or that it is allowed.
SOURCE: packages/authorization/src/policy.js:124-167 -/
def canPerform (input : AccessInput) : AccessReason :=
  match allowMatrix.find? fun rule =>
      rule.resource = input.resource && rule.action = input.action with
  | none => .noMatchingRule
  | some rule =>
    if input.tenantId ≠ input.resourceTenantId then .tenantMismatch
    else if rule.visibilityClasses.any fun classes =>
        !input.visibilityClass.any (· ∈ classes) then .visibilityClassDenied
    else if !rule.admits input then .roleDenied
    else .allowed

end Xygo.Model
