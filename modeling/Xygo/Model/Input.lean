import Xygo.Model.Json

/-!
# Reading a JSON value

What the source reads of a request body or of the input of a constructor: a member, with a default
where it is absent; a text that must be there; the text of any value.
-/

set_option autoImplicit false

namespace Xygo.Model

namespace Json

/-- A member of a value; an absent one is `none`, and a value that is no object has none. -/
def member? (value : Json) (key : String) : Option Json :=
  match value with
  | .object members => members.lookup key
  | _ => none

/-- Whether a value is truthy. -/
def truthy : Json → Bool
  | .null => false
  | .bool value => value
  | .number text => text ≠ "0"
  | .string value => value ≠ ""
  | .array _ | .object _ => true

/-- Whether a value is the text. -/
def isText (value : Json) (text : String) : Bool :=
  match value with
  | .string own => own = text
  | _ => false

/-- `input?.key ?? fallback` -/
def orElse (value : Json) (key : String) (fallback : Json) : Json :=
  match value.member? key with
  | none | some .null => fallback
  | some own => own

/-- Whether a member is there and truthy. -/
def hasTruthy (value : Json) (key : String) : Bool := (value.member? key).any truthy

/-- `{ ...input, staged: true }` -/
def staged : Json → Json
  | .object members =>
    .object (members.filter (fun member => member.1 ≠ "staged") ++ [("staged", .bool true)])
  | _ => .object [("staged", .bool true)]

/-- Whether a member is `true`. -/
def isTrue (value : Json) (key : String) : Bool :=
  match value.member? key with
  | some (.bool true) => true
  | _ => false

/-- The error of an object whose own `toString` is no function. -/
def notConvertible : JsError := newError "Cannot convert object to primitive value"

mutual

/-- `String(value)` -/
def toText : Json → Except JsError String
  | .null => .ok "null"
  | .bool value => .ok (if value then "true" else "false")
  | .number text => .ok text
  | .string value => .ok value
  | .array items => do
    let texts ← itemsToText items
    return ",".intercalate texts
  | .object members =>
    if (members.lookup "toString").isSome then .error notConvertible else .ok "[object Object]"

/-- The texts of the items of an array that is joined: those of `null` are empty. -/
def itemsToText : List Json → Except JsError (List String)
  | [] => .ok []
  | .null :: items => do
    let texts ← itemsToText items
    return "" :: texts
  | item :: items => do
    let text ← item.toText
    let texts ← itemsToText items
    return text :: texts

end

/-- `requiredString` of the packages: the member, a text that is not blank. -/
def requiredString (input : Json) (key label : String) : Except JsError String :=
  match input.member? key with
  | some (.string value) =>
    if trim value = "" then .error (newError (label ++ " is required.")) else .ok value
  | _ => .error (newError (label ++ " is required."))

/-- A required member that is there. -/
theorem requiredString_eq_ok {input : Json} {key label value : String}
    (h : input.requiredString key label = .ok value) :
    input.member? key = some (.string value) ∧ trim value ≠ "" := by
  unfold requiredString at h
  split at h
  · rename_i own hmember
    split at h
    · cases h
    · obtain rfl := Except.ok.inj h
      exact ⟨hmember, by assumption⟩
  · cases h

end Json

end Xygo.Model
