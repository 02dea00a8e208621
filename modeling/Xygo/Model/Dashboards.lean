import Mathlib
import Xygo.Computation.OrderedMap
import Xygo.Model.Input

/-!
# Numbers for a dashboard

The executive view of `packages/dashboards` and the scores of a review run of `packages/ai-review`.
The view counts the statuses into a plain object, which has the members of `Object.prototype` as
well: reading one of these gives a function or an object, and adding a number to it gives a text.
The order of the members is left out.
-/

set_option autoImplicit false

namespace Xygo.Model

open Xygo.Computation

/-! ### The members of an object literal -/

/-- A value of the object of counts: a number, or the text a sum with no number makes. -/
inductive Tally
  | number (count : ℕ)
  | text (value : String)
  deriving DecidableEq

/-- `value + 1` -/
def Tally.plusOne : Tally → Tally
  | .number count => .number (count + 1)
  | .text value => .text (value ++ "1")

/-- The names of the functions of `Object.prototype`. -/
def prototypeFunctions : List String :=
  ["constructor", "__defineGetter__", "__defineSetter__", "hasOwnProperty", "__lookupGetter__",
    "__lookupSetter__", "isPrototypeOf", "propertyIsEnumerable", "toString", "valueOf",
    "toLocaleString"]

/-- The names of the members every object literal has. -/
def prototypeNames : List String := "__proto__" :: prototypeFunctions

/-- The text of a member an object literal inherits. -/
def inheritedText (name : String) : Option String :=
  if name = "__proto__" then some "[object Object]"
  else if name ∈ prototypeFunctions then
    let function := if name = "constructor" then "Object" else name
    some ("function " ++ function ++ "() \x7b [native code] \x7d")
  else none

/-- The own members of an object of counts. -/
abbrev Tallies : Type := OrderedMap String Tally

/-- `tallies[name] ?? 0` -/
def Tallies.read (tallies : Tallies) (name : String) : Tally :=
  ((tallies.get name).or ((inheritedText name).map .text)).getD (.number 0)

/-- `tallies[name] = value`: the setter of `__proto__` ignores what is no object. -/
def Tallies.write (tallies : Tallies) (name : String) (value : Tally) : Tallies :=
  if name = "__proto__" then tallies else tallies.set name value

/-! ### The executive view -/

/-- A record as an object literal. -/
abbrev Members : Type := List (String × Json)

/-- `item[key] ?? "unknown"`, as the name of a member.
SOURCE: packages/dashboards/src/index.js:3 -/
def groupKey (item : Members) (key : String) : Except JsError String :=
  ((Json.object item).orElse key (.string "unknown")).toText

/-- `groupCount`
SOURCE: packages/dashboards/src/index.js:1-7 -/
def groupCount (items : List Members) (key : String) : Except JsError Tallies :=
  items.foldlM (fun accumulator item => do
    let name ← groupKey item key
    return accumulator.write name (accumulator.read name).plusOne) .empty

/-- What the executive view is made of. -/
structure PortfolioInput where
  tenantId : String
  projects : Option (List Members)
  issues : Option (List Members) := none
  financeEvents : Option (List Members) := none
  permitPackages : Option (List Members) := none

/-- The executive view. -/
structure ExecutivePortfolioView where
  tenantId : String
  totalProjects : ℕ
  projectStatuses : Tallies
  highSeverityIssueCount : ℕ
  pendingFinanceReviewCount : ℕ
  pendingLegalReviewCount : ℕ
  permitDelays : ℕ
  staged : Bool

/-- `items?.filter(test).length ?? 0` -/
def countWhere (items : Option (List Members)) (test : Members → Bool) : ℕ :=
  (items.getD []).countP test

/-- `buildExecutivePortfolioView`
SOURCE: packages/dashboards/src/index.js:37-54 -/
def buildExecutivePortfolioView (input : PortfolioInput) :
    Except JsError ExecutivePortfolioView := do
  let projectStatuses ← groupCount (input.projects.getD []) "status"
  return {
    tenantId := input.tenantId
    totalProjects := (input.projects.getD []).length
    projectStatuses := projectStatuses
    highSeverityIssueCount := countWhere input.issues fun issue =>
      (issue.lookup "severity").any (·.isText "high")
    pendingFinanceReviewCount := countWhere input.financeEvents fun event =>
      (Json.object event).isTrue "requiresFinanceReview"
    pendingLegalReviewCount := countWhere input.financeEvents fun event =>
      (Json.object event).isTrue "requiresLegalReview"
    permitDelays := countWhere input.permitPackages fun permitPackage =>
      (permitPackage.lookup "status").any fun status =>
        status.isText "reviewer_comments_received" || status.isText "revision_required"
    staged := true }

/-! ### The scores of a review run -/

/-- What `evaluateReviewRun` returns, in exact numbers. -/
structure ReviewScores where
  precision : ℚ
  «recall» : ℚ
  falsePositiveRate : ℚ
  falseNegatives : ℕ

/-- `evaluateReviewRun`
SOURCE: packages/ai-review/src/index.js:205-219 -/
def evaluateReviewRun {α : Type} [DecidableEq α] (expected actual : List α) : ReviewScores :=
  let truePositives := actual.countP (· ∈ expected)
  let falsePositives := actual.countP (· ∉ expected)
  let falseNegatives := expected.countP (· ∉ actual)
  { precision := if actual.length = 0 then 0 else truePositives / actual.length
    «recall» := if expected.length = 0 then 0 else truePositives / expected.length
    falsePositiveRate := if actual.length = 0 then 0 else falsePositives / actual.length
    falseNegatives := falseNegatives }

end Xygo.Model
