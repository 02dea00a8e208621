import Xygo.Model.Js

/-!
# JSON text

`JSON.stringify`, and the canonical form the audit chain hashes: `canonicalize` rebuilds
every object with its keys in the order of their code units, so that two objects with the
same members give the same text. A key is compared, and an object enumerates its keys, as
the language specifies.
-/

set_option autoImplicit false

namespace Xygo.Model

/-- The UTF-16 code units of a character. -/
def codeUnits (c : Char) : List Nat :=
  if c.toNat < 0x10000 then [c.toNat]
  else [0xD800 + (c.toNat - 0x10000) / 0x400, 0xDC00 + (c.toNat - 0x10000) % 0x400]

/-- The order of `sort` on strings: by UTF-16 code units. -/
def codeUnitLe (a b : String) : Bool :=
  a.toList.flatMap codeUnits ≤ b.toList.flatMap codeUnits

/-- A hexadecimal digit. -/
def hexDigit (n : Nat) : Char := "0123456789abcdef".toList.getD n '0'

/-- How `JSON.stringify` writes one character of a string. -/
def quoteChar (c : Char) : List Char :=
  if c = '"' then ['\\', '"']
  else if c = '\\' then ['\\', '\\']
  else if c.toNat = 0x08 then ['\\', 'b']
  else if c.toNat = 0x09 then ['\\', 't']
  else if c.toNat = 0x0A then ['\\', 'n']
  else if c.toNat = 0x0C then ['\\', 'f']
  else if c.toNat = 0x0D then ['\\', 'r']
  else if c.toNat < 0x20 then
    ['\\', 'u', '0', '0', hexDigit (c.toNat / 16), hexDigit (c.toNat % 16)]
  else [c]

/-- `JSON.stringify` of a string. -/
def quote (value : String) : List Char :=
  '"' :: (value.toList.flatMap quoteChar ++ ['"'])

/-- The texts of the items of an array or the members of an object, with commas between
them. -/
def commaSeparated : List (List Char) → List Char
  | [] => []
  | [text] => text
  | text :: texts => text ++ ',' :: commaSeparated texts

mutual

/-- `JSON.stringify`, as characters. -/
def Json.text : Json → List Char
  | .null => "null".toList
  | .bool value => (if value then "true" else "false").toList
  | .number text => text.toList
  | .string value => quote value
  | .array items => '[' :: (commaSeparated (itemTexts items) ++ [']'])
  | .object members => '\x7b' :: (commaSeparated (memberTexts members) ++ ['\x7d'])

/-- The texts of the items of an array. -/
def itemTexts : List Json → List (List Char)
  | [] => []
  | item :: items => item.text :: itemTexts items

/-- The texts of the members of an object. -/
def memberTexts : List (String × Json) → List (List Char)
  | [] => []
  | (key, value) :: members => (quote key ++ ':' :: value.text) :: memberTexts members

end

/-- `JSON.stringify(value)` -/
def stringify (value : Json) : String := String.ofList value.text

/-- Whether a key is an array index: an object enumerates those first, by number. -/
def isArrayIndex (key : String) : Bool :=
  match key.toList with
  | [] => false
  | ['0'] => true
  | '0' :: _ => false
  | digits => digits.all Char.isDigit && (Nat.ofDigitChars 10 digits 0 < 4294967295)

/-- Members sorted by a comparison of their keys. -/
def sortMembers (le : String → String → Bool) (members : List (String × Json)) :
    List (String × Json) :=
  members.insertionSort fun a b => le a.1 b.1

/-- The object `reduce` builds by assigning the members in order: array indices come first,
and an assignment to `__proto__` makes no member. -/
def assignMembers (members : List (String × Json)) : List (String × Json) :=
  let own := members.filter fun member => member.1 ≠ "__proto__"
  sortMembers (fun a b => a.length < b.length || (a.length = b.length && codeUnitLe a b))
      (own.filter fun member => isArrayIndex member.1) ++
    own.filter fun member => !isArrayIndex member.1

/-- Where no key is an array index or `__proto__`, assigning the members makes the same object. -/
theorem assignMembers_of_plain {members : List (String × Json)}
    (h : ∀ member ∈ members, member.1 ≠ "__proto__" ∧ isArrayIndex member.1 = false) :
    assignMembers members = members := by
  have hown : members.filter (fun member => member.1 ≠ "__proto__") = members :=
    List.filter_eq_self.mpr fun member hm => by simpa using (h member hm).1
  have hindex : members.filter (fun member => isArrayIndex member.1) = [] :=
    List.filter_eq_nil_iff.mpr fun member hm => by simp [(h member hm).2]
  have hrest : members.filter (fun member => !isArrayIndex member.1) = members :=
    List.filter_eq_self.mpr fun member hm => by simp [(h member hm).2]
  unfold assignMembers
  simp only [hown, hindex, hrest]
  rfl

mutual

/-- `canonicalize`
SOURCE: packages/audit/src/foundation.js:9-24 -/
def canonicalize : Json → Json
  | .array items => .array (canonicalizeItems items)
  | .object members =>
    .object (assignMembers (sortMembers codeUnitLe (canonicalizeMembers members)))
  | value => value

/-- The canonical forms of the items of an array. -/
def canonicalizeItems : List Json → List Json
  | [] => []
  | item :: items => canonicalize item :: canonicalizeItems items

/-- The members of an object with their values in canonical form. -/
def canonicalizeMembers : List (String × Json) → List (String × Json)
  | [] => []
  | (key, value) :: members => (key, canonicalize value) :: canonicalizeMembers members

end

/-- The values of an object are made canonical one by one. -/
theorem canonicalizeMembers_eq_map (members : List (String × Json)) :
    canonicalizeMembers members = members.map fun member => (member.1, canonicalize member.2) := by
  induction members with
  | nil => rfl
  | cons member members ih =>
    rw [canonicalizeMembers, ih]
    rfl

/-- `stableSerialize`
SOURCE: packages/audit/src/foundation.js:26-28 -/
def stableSerialize (value : Json) : String := stringify (canonicalize value)

example : stableSerialize (.object [("b", .number "1"), ("a", .array [.null])]) =
    "\x7b\"a\":[null],\"b\":1\x7d" := by decide +kernel

end Xygo.Model
