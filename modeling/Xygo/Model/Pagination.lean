import Xygo.Computation.Doubles
import Xygo.Model.Input

/-!
# Pages of a list

`paginate` of `apps/api/src/handlers.js`, with the conversion `Number` makes of the texts of a
query, and a client that follows `nextOffset` from page to page.
-/

set_option autoImplicit false

namespace Xygo.Model

open Xygo.Computation

/-! ### `Number` -/

/-- A non-empty run of digits of a radix. -/
def radixDigits (radix : ℕ) (digits : List Char) : Option ℕ :=
  let values := digits.map fun c =>
    if c.isDigit then c.toNat - '0'.toNat
    else if 'a' ≤ c ∧ c ≤ 'z' then c.toNat - 'a'.toNat + 10
    else if 'A' ≤ c ∧ c ≤ 'Z' then c.toNat - 'A'.toNat + 10
    else radix
  if digits = [] ∨ values.any (radix ≤ ·) then none
  else some (values.foldl (fun sum digit => radix * sum + digit) 0)

/-- A hexadecimal, octal or binary literal. It has no sign. -/
def radixLiteral : List Char → Option ℚ
  | '0' :: c :: digits =>
    if c = 'x' ∨ c = 'X' then (radixDigits 16 digits).map Nat.cast
    else if c = 'o' ∨ c = 'O' then (radixDigits 8 digits).map Nat.cast
    else if c = 'b' ∨ c = 'B' then (radixDigits 2 digits).map Nat.cast
    else none
  | _ => none

/-- The exponent a decimal literal ends with; none is zero. -/
def exponentPart : List Char → Option ℤ
  | [] => some 0
  | c :: rest =>
    if c = 'e' ∨ c = 'E' then
      match rest with
      | '-' :: digits => (radixDigits 10 digits).map fun n => -(n : ℤ)
      | '+' :: digits => (radixDigits 10 digits).map fun n => (n : ℤ)
      | digits => (radixDigits 10 digits).map fun n => (n : ℤ)
    else none

/-- The digits after a decimal point, and what follows them. -/
def fractionPart : List Char → List Char × List Char
  | '.' :: rest => (rest.takeWhile Char.isDigit, rest.dropWhile Char.isDigit)
  | rest => ([], rest)

/-- A decimal literal without a sign: digits on one side of the point at least. -/
def decimalLiteral (text : List Char) : Option ℚ :=
  let whole := text.takeWhile Char.isDigit
  let (fraction, rest) := fractionPart (text.dropWhile Char.isDigit)
  if whole = [] ∧ fraction = [] then none
  else (exponentPart rest).map fun (exponent : ℤ) =>
    (Nat.ofDigitChars 10 (whole ++ fraction) 0 : ℚ) * 10 ^ (exponent - fraction.length)

/-- A decimal literal or `Infinity`, under a sign. -/
def signedLiteral (negative : Bool) (text : List Char) : Option Double :=
  if text = "Infinity".toList then some (.infinity negative)
  else (decimalLiteral text).map fun value => .ofRat (if negative then -value else value)

/-- `Number(value)`: an absent value is `null`. -/
def toNumber : Option String → Double
  | none => .finite 0
  | some value =>
    let literal : Option Double :=
      match (trim value).toList with
      | [] => some (.finite 0)
      | '-' :: rest => signedLiteral true rest
      | '+' :: rest => signedLiteral false rest
      | text => ((radixLiteral text).map Double.ofRat).or (signedLiteral false text)
    literal.getD .nan

/-! ### `paginate` -/

/-- The parameters of a list request. -/
structure PageQuery where
  status : Option String := none
  limit : Option String := none
  offset : Option String := none

/-- A list of the language: an array has fewer than 2^32 items. -/
structure JsArray (α : Type) where
  items : List α
  bound : items.length < 2 ^ 32

/-- `DEFAULT_PAGE_LIMIT`
SOURCE: apps/api/src/handlers.js:114 -/
def defaultPageLimit : ℕ := 50

/-- `MAX_PAGE_LIMIT`
SOURCE: apps/api/src/handlers.js:115 -/
def maxPageLimit : ℕ := 500

/-- `Number.isFinite(value) && value > 0`, with the value. -/
def Double.positive? : Double → Option ℚ
  | .finite value => if 0 < value then some value else none
  | _ => none

/-- The limit a query asks for.
SOURCE: apps/api/src/handlers.js:126-127 -/
def pageLimit (query : PageQuery) : ℕ :=
  match Double.positive? (toNumber query.limit) with
  | some value => min ⌊value⌋₊ maxPageLimit
  | none => defaultPageLimit

/-- The offset a query asks for.
SOURCE: apps/api/src/handlers.js:128-129 -/
def pageOffset (query : PageQuery) : ℕ :=
  match Double.positive? (toNumber query.offset) with
  | some value => ⌊value⌋₊
  | none => 0

/-- What `paginate` returns. -/
structure Page (α : Type) where
  items : List α
  total : ℕ
  limit : ℕ
  offset : ℕ
  nextOffset : Option ℕ
  deriving DecidableEq

section

variable {α : Type} (status humanDisposition : α → Option Json)

/-- The items a status selects: an empty one selects all.
SOURCE: apps/api/src/handlers.js:121-124 -/
def filterByStatus (items : List α) (query : PageQuery) : List α :=
  match query.status with
  | none | some "" => items
  | some wanted => items.filter fun item =>
      (status item).any (·.isText wanted) || (humanDisposition item).any (·.isText wanted)

/-- `paginate`. A sum of an offset and a limit is exact below 2^53, and no list goes beyond that.
SOURCE: apps/api/src/handlers.js:117-140 -/
def paginate (items : JsArray α) (query : PageQuery) : Page α :=
  let filtered := filterByStatus status humanDisposition items.items query
  let limit := pageLimit query
  let offset := pageOffset query
  { items := (filtered.drop offset).take limit
    total := filtered.length
    limit := limit
    offset := offset
    nextOffset := if offset + limit < filtered.length then some (offset + limit) else none }

/-- The pages a client gets that starts at an offset and follows `nextOffset`, in `fuel`
requests; `none` where that many do not reach the end. -/
def followPages (items : JsArray α) (query : PageQuery) : ℕ → ℕ → Option (List (Page α))
  | 0, _ => none
  | fuel + 1, offset =>
    let page := paginate status humanDisposition items
      { query with offset := some (toString offset) }
    match page.nextOffset with
    | none => some [page]
    | some next => (followPages items query fuel next).map (page :: ·)

end

end Xygo.Model
