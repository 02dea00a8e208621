import Xygo.Model.Api
import Xygo.Model.Postgres

/-!
# The Postgres repository: reading records, and the disposition of a finding

The `list…ByTenant` and `get…ById` operations of `apps/api/src/repositories/postgres.js`, which all
read the `payload` column of one table, and `setAiFindingDisposition`.
-/

set_option autoImplicit false

namespace Xygo.Model

open Xygo.Computation
open Xygo.Computation.Relational

/-- `HUMAN_DISPOSITION_SET`
SOURCE: packages/ai-review/src/index.js:33-39 -/
def humanDispositionSet : List String :=
  ["pending", "accepted", "rejected_false_positive", "needs_more_information",
    "converted_to_issue"]

/-- `setHumanDisposition`
SOURCE: packages/ai-review/src/index.js:189-203 -/
def setHumanDisposition (finding : AiFinding) (nextDisposition relatedIssueId : Json) :
    Except JsError AiFinding := do
  if !humanDispositionSet.any nextDisposition.isText then
    let shown ← nextDisposition.toText
    throw (newError ("Unknown human disposition: " ++ shown))
  if nextDisposition.isText "converted_to_issue" && !relatedIssueId.truthy then
    throw (newError "Converted findings require a related issue id.")
  return { finding with
    humanDisposition := nextDisposition
    relatedIssueId := some relatedIssueId }

namespace Postgres

section

variable (pg : Postgres)

/-- `payloads(await query("SELECT payload FROM … WHERE tenant_id = $1", [tenantId]))` -/
def listByTenant {α : Type} (table : PgTable) (kind : Document → Option α) (tenantId : String) :
    PostgresM (List α) := do
  let rows ← querySelect pg table [(.tenantId, .text tenantId)]
  return payloads kind rows

/-- `one(await query("SELECT payload FROM … WHERE id = $1", [id]))` -/
def getById {α : Type} (table : PgTable) (kind : Document → Option α) (id : String) :
    PostgresM (Option α) := do
  let rows ← querySelect pg table [(.id, .text id)]
  return (payloads kind rows).head?

/-- `listProjectsByTenant`
SOURCE: apps/api/src/repositories/postgres.js:599-601 -/
def listProjectsByTenant : String → PostgresM (List Project) :=
  listByTenant pg .projects Document.project?

/-- `getProjectById`
SOURCE: apps/api/src/repositories/postgres.js:602-604 -/
def getProjectById : String → PostgresM (Option Project) := getById pg .projects Document.project?

/-- `listIssuesByTenant`
SOURCE: apps/api/src/repositories/postgres.js:616-618 -/
def listIssuesByTenant : String → PostgresM (List CoordinationIssue) :=
  listByTenant pg .issues Document.issue?

/-- `listRfisByTenant`
SOURCE: apps/api/src/repositories/postgres.js:633-635 -/
def listRfisByTenant : String → PostgresM (List Rfi) := listByTenant pg .rfis Document.rfi?

/-- `listPermitPackagesByTenant`
SOURCE: apps/api/src/repositories/postgres.js:647-649 -/
def listPermitPackagesByTenant : String → PostgresM (List PermitPackage) :=
  listByTenant pg .permitPackages Document.permitPackage?

/-- `listReviewSessionsByTenant`
SOURCE: apps/api/src/repositories/postgres.js:661-663 -/
def listReviewSessionsByTenant : String → PostgresM (List ReviewSession) :=
  listByTenant pg .reviewSessions Document.reviewSession?

/-- `listAiReviewRunsByTenant`
SOURCE: apps/api/src/repositories/postgres.js:675-677 -/
def listAiReviewRunsByTenant : String → PostgresM (List AiReviewRun) :=
  listByTenant pg .aiReviewRuns Document.aiReviewRun?

/-- `getAiReviewRunById`
SOURCE: apps/api/src/repositories/postgres.js:678-680 -/
def getAiReviewRunById : String → PostgresM (Option AiReviewRun) :=
  getById pg .aiReviewRuns Document.aiReviewRun?

/-- `listAiFindingsByTenant`
SOURCE: apps/api/src/repositories/postgres.js:692-694 -/
def listAiFindingsByTenant : String → PostgresM (List AiFinding) :=
  listByTenant pg .aiFindings Document.aiFinding?

/-- `getAiFindingById`
SOURCE: apps/api/src/repositories/postgres.js:695-697 -/
def getAiFindingById : String → PostgresM (Option AiFinding) :=
  getById pg .aiFindings Document.aiFinding?

/-- `listPlatformBlueprintsByTenant`
SOURCE: apps/api/src/repositories/postgres.js:722-724 -/
def listPlatformBlueprintsByTenant : String → PostgresM (List PlatformBlueprint) :=
  listByTenant pg .platformBlueprints Document.platformBlueprint?

/-- `getPlatformBlueprintById`
SOURCE: apps/api/src/repositories/postgres.js:725-727 -/
def getPlatformBlueprintById : String → PostgresM (Option PlatformBlueprint) :=
  getById pg .platformBlueprints Document.platformBlueprint?

/-- `listFieldReportsByTenant`
SOURCE: apps/api/src/repositories/postgres.js:739-741 -/
def listFieldReportsByTenant : String → PostgresM (List FieldReport) :=
  listByTenant pg .fieldReports Document.fieldReport?

/-- `getFieldReportById`
SOURCE: apps/api/src/repositories/postgres.js:742-744 -/
def getFieldReportById : String → PostgresM (Option FieldReport) :=
  getById pg .fieldReports Document.fieldReport?

/-- The columns `setAiFindingDisposition` sets.
SOURCE: apps/api/src/repositories/postgres.js:717-718 -/
def dispositionColumns (finding : AiFinding) : List (Column × Cell Document) :=
  [(.humanDisposition, pg.cell finding.humanDisposition),
    (.relatedIssueId, pg.cell (finding.relatedIssueId.getD .null)),
    (.payload, .document (.aiFinding finding))]

/-- `setAiFindingDisposition`
SOURCE: apps/api/src/repositories/postgres.js:710-721 -/
def setAiFindingDisposition (findingId : String) (nextDisposition relatedIssueId : Json) :
    PostgresM AiFinding := do
  let finding ← getAiFindingById pg findingId
  match finding with
  | none => throw (newError "AI finding not found.")
  | some finding =>
    let updated ← setHumanDisposition finding nextDisposition relatedIssueId
    let _ ← queryUpdate pg .aiFindings (dispositionColumns pg updated) [(.id, .text findingId)]
    return updated

end

end Postgres

end Xygo.Model
