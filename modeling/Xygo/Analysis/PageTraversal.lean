import Xygo.Model.Pagination

/-!
# Following the pages of a list

A client that starts at offset 0 and follows `nextOffset` gets every selected item once, in order,
in finitely many pages, if the limit lets it move on at all. A limit between 0 and 1 passes the test
for a positive number and is then rounded down to 0: the next page is the same one again
(`pages_repeat`). `pages_covered_iff` says that this is the only way to fail.
-/

set_option autoImplicit false

namespace Xygo.Analysis

open Xygo.Computation Xygo.Model

/-! ### Offsets as texts -/

theorem isWhitespace_of_isDigit {c : Char} (h : c.isDigit = true) : isWhitespace c = false := by
  have hrange : 48 ≤ c.toNat ∧ c.toNat ≤ 57 := Char.isDigit_iff_toNat.mp h
  simp only [isWhitespace, List.mem_cons, List.not_mem_nil, or_false, Bool.or_eq_false_iff,
    Bool.and_eq_false_iff, decide_eq_false_iff_not]
  omega

theorem trim_of_digits {value : String} (h : ∀ c ∈ value.toList, c.isDigit = true) :
    trim value = value := by
  have hkeep : ∀ l : List Char, (∀ c ∈ l, c.isDigit = true) → l.dropWhile isWhitespace = l := by
    intro l hl
    cases l with
    | nil => rfl
    | cons c l => rw [List.dropWhile_cons, isWhitespace_of_isDigit (hl c List.mem_cons_self)]; rfl
  unfold trim
  rw [hkeep _ h, hkeep _ fun c hc => h c (List.mem_reverse.mp hc), List.reverse_reverse,
    String.ofList_toList]

theorem toList_toString (n : ℕ) : (toString n).toList = Nat.toDigits 10 n := by
  rw [Nat.toString_eq_repr, Nat.toList_repr]

/-- INTERNAL: a run of digits is no literal of another radix. -/
theorem radixLiteral_of_digits {text : List Char} (h : ∀ c ∈ text, c.isDigit = true) :
    radixLiteral text = none := by
  unfold radixLiteral
  split
  · rename_i c digits
    have hc := h c (by simp)
    have hother : ∀ d : Char, d.isDigit = false → c ≠ d := by
      rintro d hd rfl
      rw [hc] at hd
      cases hd
    simp [hother 'x' rfl, hother 'X' rfl, hother 'o' rfl, hother 'O' rfl, hother 'b' rfl,
      hother 'B' rfl]
  · rfl

/-- INTERNAL: a run of digits is the decimal literal of its number. -/
theorem decimalLiteral_of_digits {text : List Char} (hne : text ≠ [])
    (h : ∀ c ∈ text, c.isDigit = true) :
    decimalLiteral text = some (Nat.ofDigitChars 10 text 0 : ℚ) := by
  have htake : text.takeWhile Char.isDigit = text := List.takeWhile_eq_self_iff.mpr h
  have hdrop : text.dropWhile Char.isDigit = [] := List.dropWhile_eq_nil_iff.mpr h
  simp [decimalLiteral, htake, hdrop, fractionPart, exponentPart, hne]

/-- INTERNAL: **the text of an offset is read back.** -/
theorem toNumber_toString {n : ℕ} (hn : n ≤ 2 ^ 53) :
    toNumber (some (toString n)) = .finite n := by
  have hdigits : ∀ c ∈ (toString n).toList, c.isDigit = true := by
    intro c hc
    rw [toList_toString] at hc
    exact Nat.isDigit_of_mem_toDigits (by omega) (by omega) hc
  have hne : (toString n).toList ≠ [] := by
    rw [toList_toString]
    exact Nat.toDigits_ne_nil
  have hvalue : Nat.ofDigitChars 10 (toString n).toList 0 = n := by
    rw [toList_toString]
    exact Nat.ofDigitChars_ten_toDigits
  have hround : Double.ofRat (n : ℚ) = .finite n := Double.ofRat_intCast (n := n) (by omega)
  have hword : (toString n).toList ≠ "Infinity".toList := by
    intro heq
    have hfirst := hdigits 'I' (by rw [heq]; decide)
    cases hfirst
  have hplain : signedLiteral false (toString n).toList = some (.finite n) := by
    rw [signedLiteral, if_neg hword, decimalLiteral_of_digits hne hdigits, hvalue]
    simp [hround]
  simp only [toNumber, trim_of_digits hdigits]
  split
  · rename_i hnil
    exact absurd hnil hne
  · rename_i rest hsign
    have hdash := hdigits '-' (by rw [hsign]; simp)
    cases hdash
  · rename_i rest hsign
    have hplus := hdigits '+' (by rw [hsign]; simp)
    cases hplus
  · rw [radixLiteral_of_digits hdigits, hplain]
    rfl

section

variable {α : Type} {status humanDisposition : α → Option Json} {items : JsArray α}
  {query : PageQuery}

/-- INTERNAL: the offset a client writes is the one `paginate` reads. -/
theorem pageOffset_toString {n : ℕ} (hn : n ≤ 2 ^ 53) :
    pageOffset { query with offset := some (toString n) } = n := by
  simp only [pageOffset, toNumber_toString hn, Double.positive?]
  split
  · rename_i value hvalue
    split at hvalue
    · obtain rfl := Option.some.inj hvalue
      exact Nat.floor_natCast n
    · cases hvalue
  · rename_i hnone
    split at hnone
    · cases hnone
    · rename_i hzero
      have hle : (n : ℚ) ≤ 0 := not_lt.mp hzero
      have hnat : n ≤ 0 := by exact_mod_cast hle
      omega

/-! ### The limit -/

/-- The limit of a query is no number between 0 and 1. -/
def LimitMovesOn (query : PageQuery) : Prop :=
  ∀ value, toNumber query.limit = .finite value → ¬ (0 < value ∧ value < 1)

/-- INTERNAL: the limit is zero just where it is read between 0 and 1.
SOURCE: apps/api/src/handlers.js:126-127 -/
theorem pageLimit_pos_iff : 1 ≤ pageLimit query ↔ LimitMovesOn query := by
  unfold pageLimit LimitMovesOn
  cases hlimit : toNumber query.limit with
  | nan => simp [Double.positive?, defaultPageLimit]
  | infinity negative => simp [Double.positive?, defaultPageLimit]
  | finite value =>
    by_cases hpos : 0 < value
    · have hfloor : 1 ≤ ⌊value⌋₊ ↔ 1 ≤ value := by
        rw [Nat.le_floor_iff hpos.le]
        simp
      simp only [Double.positive?, if_pos hpos, maxPageLimit, le_min_iff, hfloor]
      constructor
      · rintro ⟨hone, -⟩ v hv ⟨-, hlt⟩
        obtain rfl := Double.finite.inj hv
        exact absurd hlt (not_lt.mpr hone)
      · intro h
        refine ⟨not_lt.mp fun hlt => h value rfl ⟨hpos, hlt⟩, by omega⟩
    · simp only [Double.positive?, if_neg hpos, defaultPageLimit]
      refine ⟨?_, fun _ => by omega⟩
      rintro - v hv ⟨hv0, -⟩
      obtain rfl := Double.finite.inj hv
      exact hpos hv0

/-- INTERNAL: no page is wider than the cap. -/
theorem pageLimit_le : pageLimit query ≤ 500 := by
  unfold pageLimit
  split
  · exact Nat.min_le_right _ _
  · exact Nat.le_of_ble_eq_true rfl

/-! ### The pages -/

variable (status humanDisposition items query) in
/-- The items a query selects. -/
def selected : List α := filterByStatus status humanDisposition items.items query

/-- The selected items fit an array. -/
theorem length_selected : (selected status humanDisposition items query).length < 2 ^ 32 := by
  refine lt_of_le_of_lt ?_ items.bound
  unfold selected filterByStatus
  split
  · exact le_rfl
  · exact le_rfl
  · exact List.length_filter_le _ _

/-- INTERNAL: the page at an offset.
SOURCE: apps/api/src/handlers.js:131-139 -/
theorem paginate_at {n : ℕ} (hn : n ≤ 2 ^ 53) :
    paginate status humanDisposition items { query with offset := some (toString n) } =
      { items := ((selected status humanDisposition items query).drop n).take (pageLimit query)
        total := (selected status humanDisposition items query).length
        limit := pageLimit query
        offset := n
        nextOffset :=
          if n + pageLimit query < (selected status humanDisposition items query).length
          then some (n + pageLimit query) else none } := by
  unfold paginate
  rw [pageOffset_toString hn]
  rfl

variable (status humanDisposition items query) in
/-- What a client got is what the query selects: the pages one after the other are the selected
items from an offset on, none is wider than 500, and only the last one has no next offset. -/
structure Covers (n : ℕ) (pages : List (Page α)) : Prop where
  items_eq : pages.flatMap Page.items = (selected status humanDisposition items query).drop n
  width : ∀ page ∈ pages, page.items.length ≤ 500
  last : ∀ i page, pages[i]? = some page → (page.nextOffset = none ↔ i + 1 = pages.length)

/-- INTERNAL: a page at the end covers what is left. -/
theorem covers_last {n : ℕ} (hn : n ≤ 2 ^ 53)
    (hend : (selected status humanDisposition items query).length ≤ n + pageLimit query) :
    Covers status humanDisposition items query n
      [paginate status humanDisposition items { query with offset := some (toString n) }] := by
  rw [paginate_at hn]
  refine ⟨?_, ?_, ?_⟩
  · simp only [List.flatMap_cons, List.flatMap_nil, List.append_nil]
    refine List.take_of_length_le ?_
    rw [List.length_drop]
    omega
  · intro page hpage
    obtain rfl := List.mem_singleton.mp hpage
    exact le_trans (List.length_take_le _ _) pageLimit_le
  · intro i page hpage
    obtain ⟨rfl, rfl⟩ : i = 0 ∧ _ = page := by
      cases i with
      | zero => exact ⟨rfl, Option.some.inj hpage⟩
      | succ i => cases hpage
    simpa using hend

/-- INTERNAL: a page before the end, and the pages from its next offset on. -/
theorem covers_cons {n : ℕ} {pages : List (Page α)} (hn : n ≤ 2 ^ 53)
    (hmore : n + pageLimit query < (selected status humanDisposition items query).length)
    (hrest : Covers status humanDisposition items query (n + pageLimit query) pages) :
    Covers status humanDisposition items query n
      (paginate status humanDisposition items { query with offset := some (toString n) } ::
        pages) := by
  rw [paginate_at hn, if_pos hmore]
  refine ⟨?_, ?_, ?_⟩
  · rw [List.flatMap_cons, hrest.items_eq, ← List.drop_drop]
    exact List.take_append_drop _ _
  · intro page hpage
    obtain rfl | hpage := List.mem_cons.mp hpage
    · exact le_trans (List.length_take_le _ _) pageLimit_le
    · exact hrest.width page hpage
  · intro i page hpage
    cases i with
    | zero =>
      obtain rfl := Option.some.inj hpage
      have hsome : pages ≠ [] := by
        rintro rfl
        have hempty := hrest.items_eq.symm
        rw [List.flatMap_nil, List.drop_eq_nil_iff] at hempty
        omega
      have hlen := List.length_pos_iff.mpr hsome
      simp only [List.length_cons]
      constructor
      · intro h
        cases h
      · omega
    | succ i =>
      rw [List.getElem?_cons_succ] at hpage
      rw [hrest.last i page hpage, List.length_cons]
      omega

/-- INTERNAL: where the limit moves on, a client that may make one request more than there are
items left reaches the end. The induction is on that number. -/
theorem followPages_covers (hlimit : 1 ≤ pageLimit query) (remaining n : ℕ) (hn : n ≤ 2 ^ 53)
    (hleft : (selected status humanDisposition items query).length ≤ n + remaining) :
    ∃ pages, followPages status humanDisposition items query (remaining + 1) n = some pages ∧
      Covers status humanDisposition items query n pages := by
  induction remaining generalizing n with
  | zero =>
    refine ⟨_, ?_, covers_last hn (by omega)⟩
    rw [followPages, paginate_at hn, if_neg (by omega)]
  | succ remaining ih =>
    by_cases hmore : n + pageLimit query < (selected status humanDisposition items query).length
    · have hfits : (selected status humanDisposition items query).length < 2 ^ 32 := length_selected
      obtain ⟨pages, hpages, hcovers⟩ := ih (n + pageLimit query) (by omega) (by omega)
      refine ⟨_, ?_, covers_cons hn hmore hcovers⟩
      rw [followPages, paginate_at hn, if_pos hmore]
      simp only [hpages, Option.map_some]
    · refine ⟨_, ?_, covers_last hn (by omega)⟩
      rw [followPages, paginate_at hn, if_neg hmore]

/-- INTERNAL: where the limit is zero and there is an item, no number of requests reaches the
end. -/
theorem followPages_stuck (hlimit : pageLimit query = 0)
    (hitems : selected status humanDisposition items query ≠ []) (fuel : ℕ) :
    followPages status humanDisposition items query fuel 0 = none := by
  induction fuel with
  | zero => rfl
  | succ fuel ih =>
    have hlen := List.length_pos_iff.mpr hitems
    rw [followPages, paginate_at (by omega), hlimit, if_pos (by omega)]
    simp only [Nat.add_zero, ih]
    rfl

variable (status humanDisposition items query) in
/-- **When the pages cover the list.** A client that starts at offset 0 and follows `nextOffset`
reaches the end, and has then seen every selected item once and in order, on pages of at most 500
items of which only the last has no next offset, if and only if no item is selected or the limit is
no number between 0 and 1.
SOURCE: apps/api/src/handlers.js:114-140 -/
theorem pages_covered_iff :
    (∃ fuel pages, followPages status humanDisposition items query fuel 0 = some pages ∧
        Covers status humanDisposition items query 0 pages) ↔
      selected status humanDisposition items query = [] ∨ LimitMovesOn query := by
  constructor
  · rintro ⟨fuel, pages, hpages, -⟩
    by_contra hneither
    obtain ⟨hitems, hlimit⟩ := not_or.mp hneither
    rw [← pageLimit_pos_iff] at hlimit
    rw [followPages_stuck (by omega) hitems fuel] at hpages
    cases hpages
  · intro h
    obtain hempty | hmoves := h
    · refine ⟨1, _, ?_, covers_last (by omega) (by simp [hempty])⟩
      rw [followPages, paginate_at (by omega), if_neg (by simp [hempty])]
    · obtain ⟨pages, hpages, hcovers⟩ : ∃ pages, followPages status humanDisposition items query
          ((selected status humanDisposition items query).length + 1) 0 = some pages ∧
            Covers status humanDisposition items query 0 pages :=
        followPages_covers (pageLimit_pos_iff.mpr hmoves) _ 0 (by omega) (by omega)
      exact ⟨_, pages, hpages, hcovers⟩

end

/-- A list of one item. -/
def oneItem : JsArray Unit where
  items := [()]
  bound := by decide

/-- **The pages of one item under a limit of one half never end.** -/
theorem pages_repeat :
    ¬ ∃ fuel pages, followPages (fun _ => none) (fun _ => none) oneItem { limit := some "0.5" }
        fuel 0 = some pages ∧
      Covers (fun _ => none) (fun _ => none) oneItem { limit := some "0.5" } 0 pages := by
  rintro ⟨fuel, pages, hpages, -⟩
  have hlimit : pageLimit { limit := some "0.5" } = 0 := by decide +kernel
  rw [followPages_stuck hlimit (by simp [selected, filterByStatus, oneItem]) fuel] at hpages
  cases hpages

end Xygo.Analysis
