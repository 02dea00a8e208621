import Xygo.Model.Json

/-!
# JSON text determines its value

`JSON.stringify` writes different texts for different values, and a text it wrote is never the
beginning of another one where a value ends: `text_injective`. A number is kept as its text, which
is one that a number can have.
-/

set_option autoImplicit false

namespace Xygo.Analysis

open Xygo.Model

/-! ### Strings -/

/-- The value of a hexadecimal digit. -/
def hexValue (c : Char) : ℕ := "0123456789abcdef".toList.idxOf c

/-- The character a quoted text begins with, and what follows it. -/
def readQuoted : List Char → Option (Char × List Char)
  | '\\' :: 'b' :: rest => some (Char.ofNat 0x08, rest)
  | '\\' :: 't' :: rest => some (Char.ofNat 0x09, rest)
  | '\\' :: 'n' :: rest => some (Char.ofNat 0x0A, rest)
  | '\\' :: 'f' :: rest => some (Char.ofNat 0x0C, rest)
  | '\\' :: 'r' :: rest => some (Char.ofNat 0x0D, rest)
  | '\\' :: 'u' :: '0' :: '0' :: high :: low :: rest =>
    some (Char.ofNat (16 * hexValue high + hexValue low), rest)
  | '\\' :: c :: rest => some (c, rest)
  | c :: rest => some (c, rest)
  | [] => none

/-- INTERNAL: a control character is read back from its digits. -/
theorem hexValue_digits :
    ∀ n < 32, 16 * hexValue (hexDigit (n / 16)) + hexValue (hexDigit (n % 16)) = n := by
  decide +kernel

/-- INTERNAL: what is written for a character is read back. -/
theorem readQuoted_quoteChar (c : Char) (rest : List Char) :
    readQuoted (quoteChar c ++ rest) = some (c, rest) := by
  have hback : ∀ n, c.toNat = n → Char.ofNat n = c := by
    rintro n rfl
    exact Char.ofNat_toNat c
  unfold quoteChar
  split_ifs with hquote hslash hb ht hn hf hr hcontrol
  · rw [hquote]; rfl
  · rw [hslash]; rfl
  · simp only [List.cons_append, List.nil_append, readQuoted, hback _ hb]
  · simp only [List.cons_append, List.nil_append, readQuoted, hback _ ht]
  · simp only [List.cons_append, List.nil_append, readQuoted, hback _ hn]
  · simp only [List.cons_append, List.nil_append, readQuoted, hback _ hf]
  · simp only [List.cons_append, List.nil_append, readQuoted, hback _ hr]
  · simp only [List.cons_append, List.nil_append, readQuoted, hexValue_digits _ hcontrol,
      hback _ rfl]
  · simp [readQuoted, hslash]

/-- INTERNAL: no character is written as the end of a string. -/
theorem quoteChar_ne_quote (c : Char) : ∃ d rest, quoteChar c = d :: rest ∧ d ≠ '"' := by
  unfold quoteChar
  split_ifs with hquote
  all_goals first
    | exact ⟨'\\', _, rfl, by decide⟩
    | exact ⟨c, [], rfl, hquote⟩

/-- INTERNAL: a quoted text ends where its string does. -/
theorem quoted_injective {l m x y : List Char}
    (h : l.flatMap quoteChar ++ '"' :: x = m.flatMap quoteChar ++ '"' :: y) : l = m ∧ x = y := by
  induction l generalizing m with
  | nil =>
    cases m with
    | nil => exact ⟨rfl, (List.cons.inj h).2⟩
    | cons d m =>
      obtain ⟨e, rest, hquote, hne⟩ := quoteChar_ne_quote d
      rw [List.flatMap_cons, hquote] at h
      exact absurd (List.cons.inj h).1.symm hne
  | cons c l ih =>
    cases m with
    | nil =>
      obtain ⟨e, rest, hquote, hne⟩ := quoteChar_ne_quote c
      rw [List.flatMap_cons, hquote] at h
      exact absurd (List.cons.inj h).1 hne
    | cons d m =>
      rw [List.flatMap_cons, List.flatMap_cons, List.append_assoc, List.append_assoc] at h
      have hread := congrArg readQuoted h
      rw [readQuoted_quoteChar, readQuoted_quoteChar] at hread
      obtain ⟨rfl, hrest⟩ := Prod.mk.inj (Option.some.inj hread)
      obtain ⟨rfl, hxy⟩ := ih hrest
      exact ⟨rfl, hxy⟩

/-- INTERNAL: the text of a string determines it and where it ends. -/
theorem quote_injective {a b : String} {x y : List Char} (h : quote a ++ x = quote b ++ y) :
    a = b ∧ x = y := by
  unfold quote at h
  rw [List.cons_append, List.cons_append, List.append_assoc, List.append_assoc] at h
  obtain ⟨hchars, hxy⟩ := quoted_injective (List.cons.inj h).2
  exact ⟨String.toList_injective hchars, hxy⟩

/-! ### Values -/

/-- The characters of the text of a number. -/
def isNumberChar (c : Char) : Bool := c.isDigit || c ∈ ['-', '+', '.', 'e']

mutual

/-- A value whose numbers are texts of numbers. -/
def written : Json → Bool
  | .number text => text ≠ "" && text.toList.all isNumberChar
  | .array items => itemsWritten items
  | .object members => membersWritten members
  | _ => true

/-- The items of an array are written. -/
def itemsWritten : List Json → Bool
  | [] => true
  | item :: items => written item && itemsWritten items

/-- The values of an object are written. -/
def membersWritten : List (String × Json) → Bool
  | [] => true
  | (_, value) :: members => written value && membersWritten members

end

/-- The text goes on with what may follow a value. -/
def Stops (x : List Char) : Prop := ∀ c ∈ x.head?, c ∈ [',', ']', '\x7d']

/-- The kind of value that begins with a character. -/
def leadKind (c : Char) : ℕ :=
  if c = 'n' then 0 else if c = 't' ∨ c = 'f' then 1 else if c = '"' then 2
  else if c = '[' then 3 else if c = '\x7b' then 4 else 5

/-- The kind of a value. -/
def jsonKind : Json → ℕ
  | .null => 0
  | .bool _ => 1
  | .string _ => 2
  | .array _ => 3
  | .object _ => 4
  | .number _ => 5

/-- INTERNAL: the text of a value begins with its kind. -/
theorem lead_text {a : Json} (h : written a = true) :
    ∃ c rest, a.text = c :: rest ∧ leadKind c = jsonKind a ∧ c ∉ [',', ']', '\x7d'] := by
  cases a with
  | null => exact ⟨_, _, rfl, rfl, by decide⟩
  | bool value => cases value <;> exact ⟨_, _, rfl, rfl, by decide⟩
  | string value => exact ⟨_, _, rfl, rfl, by decide⟩
  | array items => exact ⟨_, _, rfl, rfl, by decide⟩
  | object members => exact ⟨_, _, rfl, rfl, by decide⟩
  | number text =>
    simp only [written, Bool.and_eq_true, decide_eq_true_eq] at h
    obtain ⟨hne, hall⟩ := h
    rcases htext : text.toList with _ | ⟨c, rest⟩
    · exact absurd (String.toList_injective htext) hne
    · rw [htext, List.all_cons, Bool.and_eq_true] at hall
      have hother : ∀ d, isNumberChar d = false → c ≠ d := by
        rintro d hd rfl
        cases hd.symm.trans hall.1
      refine ⟨c, rest, htext, ?_, ?_⟩
      · simp only [leadKind, jsonKind, hother 'n' rfl, hother 't' rfl, hother 'f' rfl,
          hother '"' rfl, hother '[' rfl, hother '\x7b' rfl, if_false, or_self]
      · simp only [List.mem_cons, List.not_mem_nil, or_false, hother ',' rfl, hother ']' rfl,
          hother '\x7d' rfl, not_false_iff]

/-- INTERNAL: two texts of numbers end where no character of a number follows. -/
theorem number_injective {l m x y : List Char} (hl : l.all isNumberChar = true)
    (hm : m.all isNumberChar = true) (hx : Stops x) (hy : Stops y) (h : l ++ x = m ++ y) :
    l = m ∧ x = y := by
  have hstop : ∀ z, Stops z → z.takeWhile isNumberChar = [] := by
    intro z hz
    cases z with
    | nil => rfl
    | cons c z =>
      have hc := hz c rfl
      simp only [List.mem_cons, List.not_mem_nil, or_false] at hc
      obtain rfl | rfl | rfl := hc <;> rfl
  have htake := congrArg (List.takeWhile isNumberChar) h
  rw [List.takeWhile_append_of_pos (List.all_eq_true.mp hl),
    List.takeWhile_append_of_pos (List.all_eq_true.mp hm), hstop x hx, hstop y hy, List.append_nil,
    List.append_nil] at htake
  subst htake
  exact ⟨rfl, List.append_cancel_left h⟩

/-- INTERNAL: the texts after the first one, each after a comma. -/
theorem commaSeparated_cons (text : List Char) (texts : List (List Char)) :
    commaSeparated (text :: texts) = text ++ texts.flatMap fun next => ',' :: next := by
  induction texts generalizing text with
  | nil => simp [commaSeparated]
  | cons next texts ih => simp [commaSeparated, ih]

section

variable {α : Type} {text : α → List Char} {close : Char} {x y : List Char}

/-- INTERNAL: after a value comes a comma or the end. -/
theorem stops_after (hclose : close ∈ [']', '\x7d']) (l : List α) (x : List Char) :
    Stops (l.flatMap (fun a => ',' :: text a) ++ close :: x) := by
  cases l with
  | nil =>
    intro c hc
    obtain rfl := Option.some.inj hc
    exact List.mem_cons_of_mem _ hclose
  | cons a l =>
    intro c hc
    obtain rfl := Option.some.inj hc
    exact List.mem_cons_self

/-- INTERNAL: values that each follow a comma are determined by their text. -/
theorem after_injective (hclose : close ∈ [']', '\x7d']) {l m : List α}
    (hinj : ∀ a ∈ l, ∀ b ∈ m, ∀ x y, Stops x → Stops y → text a ++ x = text b ++ y →
      a = b ∧ x = y)
    (h : l.flatMap (fun a => ',' :: text a) ++ close :: x =
      m.flatMap (fun a => ',' :: text a) ++ close :: y) : l = m ∧ x = y := by
  have hne : close ≠ ',' := by
    rintro rfl
    exact absurd hclose (by decide)
  induction l generalizing m with
  | nil =>
    cases m with
    | nil => exact ⟨rfl, (List.cons.inj h).2⟩
    | cons b m => exact absurd (List.cons.inj h).1 hne
  | cons a l ih =>
    cases m with
    | nil => exact absurd (List.cons.inj h).1.symm hne
    | cons b m =>
      rw [List.flatMap_cons, List.flatMap_cons, List.append_assoc, List.append_assoc] at h
      obtain ⟨rfl, hrest⟩ := hinj a List.mem_cons_self b List.mem_cons_self _ _
        (stops_after hclose l x) (stops_after hclose m y) (List.cons.inj h).2
      obtain ⟨rfl, hxy⟩ := ih (fun a ha b hb => hinj a (List.mem_cons_of_mem _ ha) b
        (List.mem_cons_of_mem _ hb)) hrest
      exact ⟨rfl, hxy⟩

/-- INTERNAL: values with commas between them are determined by their text. -/
theorem separated_injective (hclose : close ∈ [']', '\x7d']) {l m : List α}
    (hstart : ∀ a y, a ∈ l ∨ a ∈ m → ¬ Stops (text a ++ y))
    (hinj : ∀ a ∈ l, ∀ b ∈ m, ∀ x y, Stops x → Stops y → text a ++ x = text b ++ y →
      a = b ∧ x = y)
    (h : commaSeparated (l.map text) ++ close :: x = commaSeparated (m.map text) ++ close :: y) :
    l = m ∧ x = y := by
  have hempty : ∀ z, Stops (close :: z) := by
    intro z c hc
    obtain rfl := Option.some.inj hc
    exact List.mem_cons_of_mem _ hclose
  cases l with
  | nil =>
    cases m with
    | nil => exact ⟨rfl, (List.cons.inj h).2⟩
    | cons b m =>
      rw [List.map_cons, commaSeparated_cons, List.append_assoc] at h
      have hstops := hempty x
      rw [show close :: x = text b ++ _ from h] at hstops
      exact absurd hstops (hstart b _ (Or.inr List.mem_cons_self))
  | cons a l =>
    cases m with
    | nil =>
      rw [List.map_cons, commaSeparated_cons, List.append_assoc] at h
      have hstops := hempty y
      rw [show close :: y = text a ++ _ from h.symm] at hstops
      exact absurd hstops (hstart a _ (Or.inl List.mem_cons_self))
    | cons b m =>
      rw [List.map_cons, List.map_cons, commaSeparated_cons, commaSeparated_cons, List.append_assoc,
        List.append_assoc, List.flatMap_map, List.flatMap_map] at h
      obtain ⟨rfl, hrest⟩ := hinj a List.mem_cons_self b List.mem_cons_self _ _
        (stops_after hclose l x) (stops_after hclose m y) h
      obtain ⟨rfl, hxy⟩ := after_injective hclose (fun a ha b hb => hinj a
        (List.mem_cons_of_mem _ ha) b (List.mem_cons_of_mem _ hb)) hrest
      exact ⟨rfl, hxy⟩

end

/-- INTERNAL: texts that begin alike are of one kind. -/
theorem kind_eq {a b : Json} {x y : List Char} (ha : written a = true) (hb : written b = true)
    (h : a.text ++ x = b.text ++ y) : jsonKind a = jsonKind b := by
  obtain ⟨c, rest, htext, hkind, -⟩ := lead_text ha
  obtain ⟨d, rest', htext', hkind', -⟩ := lead_text hb
  rw [htext, htext'] at h
  obtain rfl := (List.cons.inj h).1
  exact hkind.symm.trans hkind'

/-- INTERNAL: a value does not begin where one has to end. -/
theorem not_stops_text {a : Json} (ha : written a = true) (y : List Char) :
    ¬ Stops (a.text ++ y) := by
  obtain ⟨c, rest, htext, -, hc⟩ := lead_text ha
  intro hstops
  rw [htext] at hstops
  exact hc (hstops c rfl)

theorem itemTexts_eq_map (items : List Json) : itemTexts items = items.map Json.text := by
  induction items with
  | nil => rfl
  | cons item items ih => rw [itemTexts, ih, List.map_cons]

/-- The text of a member of an object. -/
def memberText (member : String × Json) : List Char := quote member.1 ++ ':' :: member.2.text

theorem memberTexts_eq_map (members : List (String × Json)) :
    memberTexts members = members.map memberText := by
  induction members with
  | nil => rfl
  | cons member members ih => rw [memberTexts, ih, List.map_cons]; rfl

theorem written_of_mem {items : List Json} (h : itemsWritten items = true) {a : Json}
    (ha : a ∈ items) : written a = true := by
  induction items with
  | nil => cases ha
  | cons item items ih =>
    rw [itemsWritten, Bool.and_eq_true] at h
    obtain rfl | ha := List.mem_cons.mp ha
    · exact h.1
    · exact ih h.2 ha

theorem written_of_member {members : List (String × Json)} (h : membersWritten members = true)
    {member : String × Json} (hm : member ∈ members) : written member.2 = true := by
  induction members with
  | nil => cases hm
  | cons own members ih =>
    rw [membersWritten, Bool.and_eq_true] at h
    obtain rfl | hm := List.mem_cons.mp hm
    · exact h.1
    · exact ih h.2 hm

/-- Texts that begin with the text of a written value begin with that value. -/
def Determined (a : Json) : Prop :=
  ∀ b x y, written a = true → written b = true → Stops x → Stops y →
    a.text ++ x = b.text ++ y → a = b ∧ x = y

/-- INTERNAL: an array is determined if its items are. -/
theorem determined_array {items : List Json} (hitems : ∀ a ∈ items, Determined a) :
    Determined (.array items) := by
  intro b x y ha hb hx hy h
  have hkind := kind_eq ha hb h
  cases b <;> cases hkind
  rename_i others
  simp only [Json.text, List.cons_append, List.append_assoc, List.nil_append, itemTexts_eq_map]
    at h
  have hown : ∀ a ∈ items, written a = true := fun a hmem => written_of_mem ha hmem
  have hother : ∀ a ∈ others, written a = true := fun a hmem => written_of_mem hb hmem
  obtain ⟨rfl, hxy⟩ := separated_injective (by decide)
    (fun a y hmem => not_stops_text (hmem.elim (hown a) (hother a)) y)
    (fun a hmem b hmem' x y => hitems a hmem b x y (hown a hmem) (hother b hmem'))
    (List.cons.inj h).2
  exact ⟨rfl, hxy⟩

/-- INTERNAL: an object is determined if its values are. -/
theorem determined_object {members : List (String × Json)}
    (hmembers : ∀ member ∈ members, Determined member.2) : Determined (.object members) := by
  intro b x y ha hb hx hy h
  have hkind := kind_eq ha hb h
  cases b <;> cases hkind
  rename_i others
  simp only [Json.text, List.cons_append, List.append_assoc, List.nil_append, memberTexts_eq_map]
    at h
  obtain ⟨rfl, hxy⟩ := separated_injective (by decide)
    (fun a y _ hstops => absurd (hstops '"' rfl) (by decide))
    (fun a hmem b hmem' x y hx hy h => by
      unfold memberText at h
      rw [List.append_assoc, List.append_assoc] at h
      obtain ⟨hkey, hvalue⟩ := quote_injective h
      obtain ⟨hvalue, hxy⟩ := hmembers a hmem b.2 x y (written_of_member ha hmem)
        (written_of_member hb hmem') hx hy (List.cons.inj hvalue).2
      exact ⟨Prod.ext hkey hvalue, hxy⟩)
    (List.cons.inj h).2
  exact ⟨rfl, hxy⟩

mutual

/-- **The text of a value determines it and where it ends.** -/
theorem text_injective (a : Json) : Determined a := by
  cases a with
  | array items => exact determined_array (items_determined items)
  | object members => exact determined_object (members_determined members)
  | null =>
    intro b x y ha hb hx hy h
    have hkind := kind_eq ha hb h
    cases b <;> cases hkind
    exact ⟨rfl, List.append_cancel_left h⟩
  | bool value =>
    intro b x y ha hb hx hy h
    have hkind := kind_eq ha hb h
    cases b <;> cases hkind
    rename_i other
    cases value <;> cases other <;> first
      | exact ⟨rfl, List.append_cancel_left h⟩
      | exact absurd (List.cons.inj h).1 (by decide)
  | number text =>
    intro b x y ha hb hx hy h
    have hkind := kind_eq ha hb h
    cases b <;> cases hkind
    simp only [written, Bool.and_eq_true] at ha hb
    obtain ⟨htext, hxy⟩ := number_injective ha.2 hb.2 hx hy h
    exact ⟨congrArg Json.number (String.toList_injective htext), hxy⟩
  | string value =>
    intro b x y ha hb hx hy h
    have hkind := kind_eq ha hb h
    cases b <;> cases hkind
    obtain ⟨hvalue, hxy⟩ := quote_injective h
    exact ⟨congrArg Json.string hvalue, hxy⟩

/-- INTERNAL: the items of an array are determined by their texts. -/
theorem items_determined (items : List Json) : ∀ a ∈ items, Determined a := by
  cases items with
  | nil => exact fun a ha => by cases ha
  | cons item items =>
    intro a ha
    obtain heq | ha := List.mem_cons.mp ha
    · exact heq ▸ text_injective item
    · exact items_determined items a ha

/-- INTERNAL: the values of an object are determined by their texts. -/
theorem members_determined (members : List (String × Json)) :
    ∀ member ∈ members, Determined member.2 := by
  match members with
  | [] => exact fun member hm => by cases hm
  | (key, value) :: members =>
    intro member hm
    obtain heq | hm := List.mem_cons.mp hm
    · exact heq ▸ text_injective value
    · exact members_determined members member hm

end

end Xygo.Analysis
