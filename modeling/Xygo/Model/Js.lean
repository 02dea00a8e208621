import Mathlib

/-!
# What the modelled code uses of JavaScript

Thrown errors, `String.prototype.trim`, the length of a string in UTF-16 code units, JSON
values and dates. A timestamp is stored by the source as the ISO text of a date; the text
and the millisecond it denotes determine each other, so a record of the model holds the
millisecond.
-/

set_option autoImplicit false

namespace Xygo.Model

/-- A thrown `Error`, with the properties the source attaches to one. -/
structure JsError where
  message : String
  code : Option String := none
  retryable : Option Bool := none
  deriving DecidableEq, Repr

/-- `new Error(message)` -/
def newError (message : String) : JsError := { message := message }

/-- A JSON value. A number is kept as the text `JSON.stringify` writes for it, and the
members of an object in insertion order. -/
inductive Json
  | null
  | bool (value : Bool)
  | number (text : String)
  | string (value : String)
  | array (items : List Json)
  | object (members : List (String × Json))
  deriving Repr, Inhabited

/-- The characters `String.prototype.trim` removes. -/
def isWhitespace (c : Char) : Bool :=
  c.toNat ∈ [0x09, 0x0A, 0x0B, 0x0C, 0x0D, 0x20, 0xA0, 0x1680, 0x2028, 0x2029, 0x202F,
    0x205F, 0x3000, 0xFEFF] || (0x2000 ≤ c.toNat && c.toNat ≤ 0x200A)

/-- `value.trim()` -/
def trim (value : String) : String :=
  String.ofList ((value.toList.dropWhile isWhitespace).reverse.dropWhile isWhitespace).reverse

/-- `value.length`: a character outside the basic plane takes two code units. -/
def utf16Length (value : String) : Nat :=
  (value.toList.map fun c => if c.toNat < 0x10000 then 1 else 2).sum

/-- `value.slice(0, count)` on text of the basic plane. -/
def slicePrefix (value : String) (count : Nat) : String :=
  String.ofList (value.toList.take count)

/-- The control characters `[\u0000-\u001f\u007f]`. -/
def isControl (c : Char) : Bool := c.toNat ≤ 0x1F || c.toNat = 0x7F

/-- What the modelled code calls of its platform and the model leaves open: the digests of
`node:crypto`, in hexadecimal, and the case mapping of Unicode. -/
structure Platform where
  sha256 : String → String
  hmacSha256 : String → String → String
  toLowerCase : String → String

/-- `items.slice(0, limit)`: a negative limit counts from the end. -/
def sliceTo {α : Type} (items : List α) (limit : Int) : List α :=
  if limit < 0 then items.take (items.length + limit).toNat else items.take limit.toNat

/-- The largest number of milliseconds from the epoch a `Date` can hold. -/
def maxTime : Int := 8640000000000000

/-- A number of milliseconds that is a `Date`; any other makes an invalid one. -/
def isValidTime (time : Int) : Bool := -maxTime ≤ time && time ≤ maxTime

/-- A date in a request, with what `new Date` reads from its text: `none` is an invalid
date. -/
structure DateText where
  text : String
  time : Option Int
  deriving DecidableEq, Repr

/-- The time `new Date` gives for a text. -/
def DateText.date (value : DateText) : Option Int := value.time.filter isValidTime

/-- `date.toISOString()`: an invalid date throws. -/
def toISOString (time : Int) : Except JsError Int :=
  if isValidTime time then .ok time else .error (newError "Invalid time value")

/-- A call of `toISOString` that returns gives the time it was made on. -/
theorem toISOString_eq_ok {time t : Int} (h : toISOString time = .ok t) :
    t = time ∧ isValidTime time = true := by
  unfold toISOString at h
  split at h
  · exact ⟨(Except.ok.inj h).symm, by assumption⟩
  · cases h

/-- A slice takes its elements from the list. -/
theorem mem_of_mem_sliceTo {α : Type} {items : List α} {limit : Int} {a : α}
    (h : a ∈ sliceTo items limit) : a ∈ items := by
  unfold sliceTo at h
  split at h <;> exact List.mem_of_mem_take h

/-- A slice is a part of the list, in order. -/
theorem sliceTo_sublist {α : Type} (items : List α) (limit : Int) :
    (sliceTo items limit).Sublist items := by
  unfold sliceTo
  split <;> exact List.take_sublist _ _

end Xygo.Model
