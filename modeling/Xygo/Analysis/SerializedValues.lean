import Xygo.Analysis.TamperEvidence

/-!
# What `stableSerialize` says of a value

`stableSerialize` writes the same text for two values that `JSON.parse` makes exactly when they are
equal up to the order of keys, save for what the text leaves out: an assignment to `__proto__` makes
no member, and an infinite number is written as `null`. `plainValue` is a value without these, and
`serialize_iff` compares the texts of two values by it.
-/

set_option autoImplicit false

namespace Xygo.Analysis

open Xygo.Computation Xygo.Model

/-! ### The order of keys -/

/-- The code units of a text. -/
def textUnits (value : String) : List ℕ := value.toList.flatMap codeUnits

/-- INTERNAL: the code units of a character say what it is, and where it ends. -/
theorem codeUnits_injective {c d : Char} {x y : List ℕ} (h : codeUnits c ++ x = codeUnits d ++ y) :
    c = d ∧ x = y := by
  have hvalid : ∀ e : Char, e.toNat < 0xD800 ∨ 0xDFFF < e.toNat ∧ e.toNat < 0x110000 :=
    fun e => e.valid
  have hc := hvalid c
  have hd := hvalid d
  unfold codeUnits at h
  split_ifs at h with hbmp hbmp' hbmp'
  · simp only [List.cons_append, List.nil_append, List.cons.injEq] at h
    exact ⟨Char.toNat_inj.mp h.1, h.2⟩
  · simp only [List.cons_append, List.nil_append, List.cons.injEq] at h
    omega
  · simp only [List.cons_append, List.nil_append, List.cons.injEq] at h
    omega
  · simp only [List.cons_append, List.nil_append, List.cons.injEq] at h
    exact ⟨Char.toNat_inj.mp (by omega), h.2.2⟩

theorem codeUnits_ne_nil (c : Char) : codeUnits c ≠ [] := by
  unfold codeUnits
  split <;> simp

/-- INTERNAL: texts with the same code units are the same. -/
theorem textUnits_injective {a b : String} (h : textUnits a = textUnits b) : a = b := by
  have hchars : ∀ l m : List Char, l.flatMap codeUnits = m.flatMap codeUnits → l = m := by
    intro l
    induction l with
    | nil =>
      intro m hm
      cases m with
      | nil => rfl
      | cons d m => simp [codeUnits_ne_nil] at hm
    | cons c l ih =>
      intro m hm
      cases m with
      | nil => simp [codeUnits_ne_nil] at hm
      | cons d m =>
        rw [List.flatMap_cons, List.flatMap_cons] at hm
        obtain ⟨rfl, hrest⟩ := codeUnits_injective hm
        rw [ih m hrest]
  exact String.toList_injective (hchars _ _ h)

theorem codeUnitLe_iff (a b : String) : codeUnitLe a b = true ↔ textUnits a ≤ textUnits b := by
  simp [codeUnitLe, textUnits]

/-- INTERNAL: sorted members are in the order of their keys. -/
theorem pairwise_sortMembers (members : List (String × Json)) :
    (sortMembers codeUnitLe members).Pairwise fun a b => codeUnitLe a.1 b.1 = true := by
  have htotal : Std.Total fun a b : String × Json => codeUnitLe a.1 b.1 = true := by
    refine ⟨fun a b => ?_⟩
    simp only [codeUnitLe_iff]
    exact le_total _ _
  have htrans : IsTrans (String × Json) fun a b => codeUnitLe a.1 b.1 = true := by
    refine ⟨fun a b c => ?_⟩
    simp only [codeUnitLe_iff]
    exact le_trans
  exact List.pairwise_insertionSort _ _

theorem perm_sortMembers (members : List (String × Json)) :
    (sortMembers codeUnitLe members).Perm members := List.perm_insertionSort _ _

/-- Members with a key of their own each. -/
def KeysDistinct (members : List (String × Json)) : Prop := (members.map Prod.fst).Nodup

/-- A key that can be assigned. -/
def ownKey (member : String × Json) : Bool := member.1 ≠ "__proto__"

/-- INTERNAL: the members an object is built of are determined by the set of members that can be
assigned: in the order of their keys there is only one list of them. -/
theorem assignMembers_congr {l m : List (String × Json)} (hl : KeysDistinct l)
    (h : (l.filter ownKey).Perm (m.filter ownKey)) :
    assignMembers (sortMembers codeUnitLe l) = assignMembers (sortMembers codeUnitLe m) := by
  have hown : (sortMembers codeUnitLe l).filter ownKey = (sortMembers codeUnitLe m).filter ownKey := by
    refine List.Perm.eq_of_pairwise ?_ ((pairwise_sortMembers l).sublist List.filter_sublist)
      ((pairwise_sortMembers m).sublist List.filter_sublist) ?_
    · intro a b ha hb hab hba
      rw [codeUnitLe_iff] at hab hba
      have hkey : a.1 = b.1 := textUnits_injective (le_antisymm hab hba)
      have ha' : a ∈ l := (perm_sortMembers l).mem_iff.mp (List.mem_filter.mp ha).1
      have hb' : b ∈ l := by
        have hmem := (perm_sortMembers m).mem_iff.mp (List.mem_filter.mp hb).1
        exact (List.mem_filter.mp (h.mem_iff.mpr (List.mem_filter.mpr ⟨hmem, (List.mem_filter.mp hb).2⟩))).1
      exact List.inj_on_of_nodup_map hl ha' hb' hkey
    · exact ((perm_sortMembers l).filter _).trans (h.trans ((perm_sortMembers m).filter _).symm)
  unfold assignMembers
  have hsame : (sortMembers codeUnitLe l).filter (fun member => member.1 ≠ "__proto__") =
      (sortMembers codeUnitLe m).filter (fun member => member.1 ≠ "__proto__") := hown
  simp only [hsame]

/-- INTERNAL: the members an object is built of are the ones that can be assigned. -/
theorem perm_assignMembers (members : List (String × Json)) :
    (assignMembers (sortMembers codeUnitLe members)).Perm (members.filter ownKey) := by
  unfold assignMembers
  have hsort : ((sortMembers codeUnitLe members).filter fun member => member.1 ≠ "__proto__").Perm
      (members.filter ownKey) := (perm_sortMembers members).filter _
  refine List.Perm.trans ?_ hsort
  refine ((List.perm_insertionSort _ _).append_right _).trans ?_
  exact List.filter_append_perm _ _

/-- INTERNAL: values are replaced after the members were put in order. -/
theorem assignMembers_map (f : Json → Json) (members : List (String × Json)) :
    assignMembers (sortMembers codeUnitLe (members.map fun member => (member.1, f member.2))) =
      (assignMembers (sortMembers codeUnitLe members)).map fun member => (member.1, f member.2) := by
  have hsort : ∀ (le : String → String → Bool) (l : List (String × Json)),
      sortMembers le (l.map fun member => (member.1, f member.2)) =
        (sortMembers le l).map fun member => (member.1, f member.2) := by
    intro le l
    unfold sortMembers
    rw [List.map_insertionSort (s := fun a b => le a.1 b.1) _ _ _ (by simp)]
  unfold assignMembers
  simp only [hsort, List.filter_map, List.map_append, Function.comp_def]

/-! ### Values -/

mutual

/-- A value `JSON.parse` makes: a key occurs once in an object, and a number has the text of a
number, which for an infinite one is `null`. -/
def parsed : Json → Prop
  | .number text => text = "null" ∨ written (.number text) = true
  | .array items => itemsParsed items
  | .object members => KeysDistinct members ∧ membersParsed members
  | _ => True

def itemsParsed : List Json → Prop
  | [] => True
  | item :: items => parsed item ∧ itemsParsed items

def membersParsed : List (String × Json) → Prop
  | [] => True
  | (_, value) :: members => parsed value ∧ membersParsed members

end

mutual

/-- Two values that are equal when the order of keys is ignored at every depth. -/
def sameValue : Json → Json → Prop
  | .null, .null => True
  | .bool a, .bool b => a = b
  | .number a, .number b => a = b
  | .string a, .string b => a = b
  | .array items, .array others => sameItems items others
  | .object members, .object others =>
    members.length = others.length ∧ membersAmong members others
  | _, _ => False

def sameItems : List Json → List Json → Prop
  | [], [] => True
  | item :: items, other :: others => sameValue item other ∧ sameItems items others
  | _, _ => False

/-- Every member has one of the same key and value among the others. -/
def membersAmong : List (String × Json) → List (String × Json) → Prop
  | [], _ => True
  | (key, value) :: members, others =>
    (∃ other, (key, other) ∈ others ∧ sameValue value other) ∧ membersAmong members others

end

mutual

/-- A value without the members that are keyed `__proto__`, and with `null` for an infinite
number. -/
def plainValue : Json → Json
  | .number text => if text = "null" then .null else .number text
  | .array items => .array (plainItems items)
  | .object members => .object (plainMembers members)
  | value => value

def plainItems : List Json → List Json
  | [] => []
  | item :: items => plainValue item :: plainItems items

def plainMembers : List (String × Json) → List (String × Json)
  | [] => []
  | (key, value) :: members =>
    if key = "__proto__" then plainMembers members
    else (key, plainValue value) :: plainMembers members

end

mutual

/-- A value with `null` for an infinite number. -/
def nullNumbers : Json → Json
  | .number text => if text = "null" then .null else .number text
  | .array items => .array (nullItems items)
  | .object members => .object (nullMembers members)
  | value => value

def nullItems : List Json → List Json
  | [] => []
  | item :: items => nullNumbers item :: nullItems items

def nullMembers : List (String × Json) → List (String × Json)
  | [] => []
  | (key, value) :: members => (key, nullNumbers value) :: nullMembers members

end

theorem nullMembers_eq_map (members : List (String × Json)) :
    nullMembers members = members.map fun member => (member.1, nullNumbers member.2) := by
  induction members with
  | nil => rfl
  | cons member members ih => rw [nullMembers, ih, List.map_cons]

theorem plainMembers_eq_map (members : List (String × Json)) :
    plainMembers members =
      (members.filter ownKey).map fun member => (member.1, plainValue member.2) := by
  induction members with
  | nil => rfl
  | cons member members ih =>
    rw [plainMembers, ih]
    by_cases hkey : member.1 = "__proto__" <;> simp [ownKey, hkey]

mutual

/-- INTERNAL: an infinite number has the text of `null`. -/
theorem text_nullNumbers (a : Json) : (nullNumbers a).text = a.text := by
  cases a with
  | array items =>
    simp only [nullNumbers, Json.text, itemTexts_null items]
  | object members =>
    simp only [nullNumbers, Json.text, memberTexts_null members]
  | number text =>
    unfold nullNumbers
    split
    · rename_i hnull
      rw [hnull]
      rfl
    · rfl
  | null => rfl
  | bool _ => rfl
  | string _ => rfl

theorem itemTexts_null (items : List Json) : itemTexts (nullItems items) = itemTexts items := by
  cases items with
  | nil => rfl
  | cons item items => rw [nullItems, itemTexts, itemTexts, text_nullNumbers item, itemTexts_null items]

theorem memberTexts_null (members : List (String × Json)) :
    memberTexts (nullMembers members) = memberTexts members := by
  match members with
  | [] => rfl
  | (key, value) :: members =>
    rw [nullMembers, memberTexts, memberTexts, text_nullNumbers value, memberTexts_null members]

end

theorem keys_canonicalizeMembers (members : List (String × Json)) :
    (canonicalizeMembers members).map Prod.fst = members.map Prod.fst := by
  rw [canonicalizeMembers_eq_map, List.map_map]
  rfl

mutual

/-- INTERNAL: the canonical form of what is left of a value is that of the value, with `null` for
an infinite number. -/
theorem canonicalize_plainValue (a : Json) (h : parsed a) :
    canonicalize (plainValue a) = nullNumbers (canonicalize a) := by
  cases a with
  | array items =>
    simp only [plainValue, canonicalize, nullNumbers, canonicalize_plainItems items h]
  | object members =>
    obtain ⟨hkeys, hmembers⟩ := h
    simp only [plainValue, canonicalize, nullNumbers, nullMembers_eq_map]
    rw [canonicalize_plainMembers members hmembers, assignMembers_map]
    rw [assignMembers_congr (m := canonicalizeMembers members)]
    · refine List.Nodup.sublist (List.filter_sublist.map _) ?_
      rw [keys_canonicalizeMembers]
      exact hkeys
    · rw [List.filter_filter]
      simp
  | number text =>
    unfold plainValue
    split <;> simp_all [canonicalize, nullNumbers]
  | null => rfl
  | bool _ => rfl
  | string _ => rfl

theorem canonicalize_plainItems (items : List Json) (h : itemsParsed items) :
    canonicalizeItems (plainItems items) = nullItems (canonicalizeItems items) := by
  cases items with
  | nil => rfl
  | cons item items =>
    rw [plainItems, canonicalizeItems, canonicalizeItems, nullItems,
      canonicalize_plainValue item h.1, canonicalize_plainItems items h.2]

theorem canonicalize_plainMembers (members : List (String × Json)) (h : membersParsed members) :
    canonicalizeMembers (plainMembers members) =
      ((canonicalizeMembers members).filter ownKey).map fun member =>
        (member.1, nullNumbers member.2) := by
  match members with
  | [] => rfl
  | (key, value) :: members =>
    have hrest := canonicalize_plainMembers members h.2
    by_cases hkey : key = "__proto__"
    · rw [plainMembers, if_pos hkey, hrest, canonicalizeMembers]
      simp [ownKey, hkey]
    · rw [plainMembers, if_neg hkey, canonicalizeMembers, hrest, canonicalizeMembers,
        canonicalize_plainValue value h.1]
      simp [ownKey, hkey]

end

/-- INTERNAL: the text of a value is that of what is left of it. -/
theorem text_plainValue {a : Json} (h : parsed a) :
    (canonicalize (plainValue a)).text = (canonicalize a).text := by
  rw [canonicalize_plainValue a h, text_nullNumbers]

mutual

/-- INTERNAL: what is left of a value has numbers with the texts of numbers. -/
theorem written_plainValue (a : Json) (h : parsed a) : written (plainValue a) = true := by
  cases a with
  | array items => exact written_plainItems items h
  | object members => exact written_plainMembers members h.2
  | number text =>
    unfold plainValue
    split
    · rfl
    · rename_i hnull
      exact h.resolve_left hnull
  | null => rfl
  | bool _ => rfl
  | string _ => rfl

theorem written_plainItems (items : List Json) (h : itemsParsed items) :
    itemsWritten (plainItems items) = true := by
  cases items with
  | nil => rfl
  | cons item items =>
    rw [plainItems, itemsWritten, written_plainValue item h.1, written_plainItems items h.2]
    rfl

theorem written_plainMembers (members : List (String × Json)) (h : membersParsed members) :
    membersWritten (plainMembers members) = true := by
  match members with
  | [] => rfl
  | (key, value) :: members =>
    rw [plainMembers]
    split
    · exact written_plainMembers members h.2
    · rw [membersWritten, written_plainValue value h.1, written_plainMembers members h.2]
      rfl

end

/-- INTERNAL: the texts of two values are equal when the canonical forms of what is left of them
are. -/
theorem serialize_eq_canonicalize {a b : Json} (ha : parsed a) (hb : parsed b) :
    stableSerialize a = stableSerialize b ↔
      canonicalize (plainValue a) = canonicalize (plainValue b) := by
  constructor
  · intro h
    have htext : (canonicalize (plainValue a)).text = (canonicalize (plainValue b)).text := by
      rw [text_plainValue ha, text_plainValue hb]
      exact String.ofList_injective h
    exact (text_injective _ _ [] [] (written_canonicalize _ (written_plainValue a ha))
      (written_canonicalize _ (written_plainValue b hb)) (fun c hc => by cases hc)
      (fun c hc => by cases hc) (by rw [htext])).1
  · intro h
    unfold stableSerialize stringify
    rw [← text_plainValue ha, ← text_plainValue hb, h]

/-! ### Values up to the order of keys -/

/-- A value that holds no other values. -/
def isScalar : Json → Bool
  | .array _ | .object _ => false
  | _ => true

theorem sameValue_scalar {x y : Json} (h : isScalar x = true) : sameValue x y ↔ x = y := by
  cases x <;> cases y <;> simp_all [isScalar, sameValue]

theorem canonicalize_scalar {x y : Json} (h : isScalar x = true) :
    canonicalize x = canonicalize y ↔ x = y := by
  cases x <;> cases y <;> simp_all [isScalar, canonicalize]

/-- INTERNAL: what is left of a scalar is one. -/
theorem isScalar_plainValue (a : Json) : isScalar (plainValue a) = isScalar a := by
  cases a with
  | number text =>
    unfold plainValue
    split <;> rfl
  | _ => rfl

theorem membersAmong_iff (members others : List (String × Json)) :
    membersAmong members others ↔
      ∀ member ∈ members, ∃ other, (member.1, other) ∈ others ∧ sameValue member.2 other := by
  induction members with
  | nil => simp [membersAmong]
  | cons member members ih => simp [membersAmong, ih]

theorem parsed_of_mem {members : List (String × Json)} (h : membersParsed members)
    {member : String × Json} (hm : member ∈ members) : parsed member.2 := by
  induction members with
  | nil => cases hm
  | cons own members ih =>
    obtain rfl | hm := List.mem_cons.mp hm
    · exact h.1
    · exact ih h.2 hm

/-- INTERNAL: the canonical members of what is left of an object. -/
theorem canonicalizeMembers_plain (members : List (String × Json)) :
    canonicalizeMembers (plainMembers members) =
      (members.filter ownKey).map fun member => (member.1, canonicalize (plainValue member.2)) := by
  rw [plainMembers_eq_map, canonicalizeMembers_eq_map, List.map_map]
  rfl

/-- INTERNAL: **objects are compared member by member**, if their values are. -/
theorem object_plain_iff {members others : List (String × Json)} (hkeys : KeysDistinct members)
    (hparsed : membersParsed others)
    (hvalues : ∀ member ∈ members, ∀ b, parsed b →
      (canonicalize (plainValue member.2) = canonicalize (plainValue b) ↔
        sameValue (plainValue member.2) (plainValue b))) :
    canonicalize (plainValue (.object members)) = canonicalize (plainValue (.object others)) ↔
      sameValue (plainValue (.object members)) (plainValue (.object others)) := by
  have hown : ∀ l : List (String × Json),
      (canonicalizeMembers (plainMembers l)).filter ownKey = canonicalizeMembers (plainMembers l) := by
    intro l
    rw [canonicalizeMembers_plain, List.filter_eq_self]
    intro member hmember
    obtain ⟨own, hfilter, rfl⟩ := List.mem_map.mp hmember
    exact (List.mem_filter.mp hfilter).2
  have hdistinct : KeysDistinct (canonicalizeMembers (plainMembers members)) := by
    rw [canonicalizeMembers_plain]
    unfold KeysDistinct
    rw [List.map_map]
    exact hkeys.sublist (List.filter_sublist.map _)
  have hperm : canonicalize (plainValue (.object members)) =
      canonicalize (plainValue (.object others)) ↔
        (canonicalizeMembers (plainMembers members)).Perm
          (canonicalizeMembers (plainMembers others)) := by
    simp only [plainValue, canonicalize, Json.object.injEq]
    constructor
    · intro h
      have hleft := perm_assignMembers (canonicalizeMembers (plainMembers members))
      have hright := perm_assignMembers (canonicalizeMembers (plainMembers others))
      rw [hown] at hleft hright
      rw [h] at hleft
      exact hleft.symm.trans hright
    · intro h
      refine assignMembers_congr hdistinct ?_
      rw [hown, hown]
      exact h
  rw [hperm]
  simp only [plainValue, sameValue, membersAmong_iff]
  rw [canonicalizeMembers_plain, canonicalizeMembers_plain] at *
  rw [plainMembers_eq_map, plainMembers_eq_map]
  constructor
  · intro h
    refine ⟨by simpa using h.length_eq, ?_⟩
    intro member hmember
    obtain ⟨own, hfilter, rfl⟩ := List.mem_map.mp hmember
    have hmem : (own.1, canonicalize (plainValue own.2)) ∈ (others.filter ownKey).map fun member =>
        (member.1, canonicalize (plainValue member.2)) :=
      h.mem_iff.mp (List.mem_map.mpr ⟨own, hfilter, rfl⟩)
    obtain ⟨other, hother, heq⟩ := List.mem_map.mp hmem
    obtain ⟨hkey, hvalue⟩ := Prod.mk.inj heq
    refine ⟨plainValue other.2, List.mem_map.mpr ⟨other, hother, by rw [hkey]⟩, ?_⟩
    exact (hvalues own (List.mem_filter.mp hfilter).1 other.2
      (parsed_of_mem hparsed (List.mem_filter.mp hother).1)).mp hvalue.symm
  · rintro ⟨hlength, hamong⟩
    have hnodup : ((members.filter ownKey).map fun member =>
        (member.1, canonicalize (plainValue member.2))).Nodup := List.Nodup.of_map _ hdistinct
    refine (List.subperm_of_subset hnodup ?_).perm_of_length_le (by simpa using hlength.ge)
    intro member hmember
    obtain ⟨own, hfilter, rfl⟩ := List.mem_map.mp hmember
    obtain ⟨value, hvalue, hsame⟩ := hamong _ (List.mem_map.mpr ⟨own, hfilter, rfl⟩)
    obtain ⟨other, hother, heq⟩ := List.mem_map.mp hvalue
    obtain ⟨hkey, rfl⟩ := Prod.mk.inj heq
    refine List.mem_map.mpr ⟨other, hother, ?_⟩
    rw [hkey, (hvalues own (List.mem_filter.mp hfilter).1 other.2
      (parsed_of_mem hparsed (List.mem_filter.mp hother).1)).mpr hsame]

mutual

/-- INTERNAL: the canonical forms of what is left of two values are equal when what is left of them
is the same up to the order of keys. The induction is on the first value. -/
theorem canonicalize_eq_iff (a : Json) (ha : parsed a) : ∀ b, parsed b →
    (canonicalize (plainValue a) = canonicalize (plainValue b) ↔
      sameValue (plainValue a) (plainValue b)) := by
  intro b hb
  by_cases hscalar : isScalar a = true
  · rw [canonicalize_scalar (by rw [isScalar_plainValue, hscalar]),
      sameValue_scalar (by rw [isScalar_plainValue, hscalar])]
  · by_cases hother : isScalar b = true
    · have hb' : isScalar (plainValue b) = true := by rw [isScalar_plainValue, hother]
      have ha' : isScalar (plainValue a) ≠ true := by rw [isScalar_plainValue]; exact hscalar
      rw [eq_comm, canonicalize_scalar hb']
      constructor
      · intro h
        rw [h] at hb'
        exact absurd hb' ha'
      · intro h
        generalize plainValue a = x at h ha'
        generalize plainValue b = y at h hb'
        cases x <;> cases y <;> simp_all [isScalar, sameValue]
    · cases a with
      | array items =>
        cases b with
        | array others =>
          simp only [plainValue, canonicalize, sameValue, Json.array.injEq]
          exact canonicalizeItems_eq_iff items ha others hb
        | object others => simp [plainValue, canonicalize, sameValue]
        | _ => simp [isScalar] at hother
      | object members =>
        cases b with
        | array others => simp [plainValue, canonicalize, sameValue]
        | object others => exact object_plain_iff ha.1 hb.2 (members_eq_iff members ha.2)
        | _ => simp [isScalar] at hother
      | _ => simp [isScalar] at hscalar

theorem canonicalizeItems_eq_iff (items : List Json) (ha : itemsParsed items) : ∀ others,
    itemsParsed others →
    (canonicalizeItems (plainItems items) = canonicalizeItems (plainItems others) ↔
      sameItems (plainItems items) (plainItems others)) := by
  intro others hb
  cases items with
  | nil => cases others <;> simp [plainItems, canonicalizeItems, sameItems]
  | cons item items =>
    cases others with
    | nil => simp [plainItems, canonicalizeItems, sameItems]
    | cons other others =>
      simp only [plainItems, canonicalizeItems, sameItems, List.cons.injEq]
      rw [canonicalize_eq_iff item ha.1 other hb.1, canonicalizeItems_eq_iff items ha.2 others hb.2]

theorem members_eq_iff (members : List (String × Json)) (ha : membersParsed members) :
    ∀ member ∈ members, ∀ b, parsed b →
      (canonicalize (plainValue member.2) = canonicalize (plainValue b) ↔
        sameValue (plainValue member.2) (plainValue b)) := by
  match members with
  | [] => exact fun member hm => by cases hm
  | (key, value) :: members =>
    intro member hm
    obtain heq | hm := List.mem_cons.mp hm
    · rw [heq]
      exact canonicalize_eq_iff value ha.1
    · exact members_eq_iff members ha.2 member hm

end

/-- INTERNAL: **two values have the same text when what is left of them is the same** up to the
order of keys at every depth.
SOURCE: packages/audit/src/foundation.js:3-28 -/
theorem serialize_iff {a b : Json} (ha : parsed a) (hb : parsed b) :
    stableSerialize a = stableSerialize b ↔ sameValue (plainValue a) (plainValue b) := by
  rw [serialize_eq_canonicalize ha hb, canonicalize_eq_iff a ha b hb]

mutual

/-- INTERNAL: what is left of equal values is equal. -/
theorem same_plainValue (a : Json) (ha : parsed a) : ∀ b, parsed b → sameValue a b →
    sameValue (plainValue a) (plainValue b) := by
  intro b hb h
  cases a with
  | array items =>
    cases b with
    | array others => exact same_plainItems items ha others hb h
    | _ => cases h
  | object members =>
    cases b with
    | object others =>
      obtain ⟨hlength, hamong⟩ := h
      rw [membersAmong_iff] at hamong
      have hkeys : (members.map Prod.fst).Perm (others.map Prod.fst) := by
        refine (List.subperm_of_subset ha.1 ?_).perm_of_length_le (by simpa using hlength.ge)
        intro key hkey
        obtain ⟨member, hmember, rfl⟩ := List.mem_map.mp hkey
        obtain ⟨other, hother, -⟩ := hamong member hmember
        exact List.mem_map.mpr ⟨_, hother, rfl⟩
      have hcount := hkeys.countP_eq fun key => key ≠ "__proto__"
      rw [List.countP_map, List.countP_map, List.countP_eq_length_filter,
        List.countP_eq_length_filter] at hcount
      simp only [plainValue, sameValue, membersAmong_iff, plainMembers_eq_map, List.length_map]
      refine ⟨hcount, ?_⟩
      intro member hmember
      obtain ⟨own, hfilter, rfl⟩ := List.mem_map.mp hmember
      obtain ⟨hown, hkey⟩ := List.mem_filter.mp hfilter
      obtain ⟨other, hother, hsame⟩ := hamong own hown
      refine ⟨plainValue other, List.mem_map.mpr ⟨(own.1, other), ?_, rfl⟩, ?_⟩
      · exact List.mem_filter.mpr ⟨hother, hkey⟩
      · exact same_plainMembers members ha.2 own hown other (parsed_of_mem hb.2 hother) hsame
    | _ => cases h
  | _ =>
    rw [sameValue_scalar rfl] at h
    subst h
    exact (sameValue_scalar (by rw [isScalar_plainValue]; rfl)).mpr rfl

theorem same_plainItems (items : List Json) (ha : itemsParsed items) : ∀ others,
    itemsParsed others → sameItems items others →
    sameItems (plainItems items) (plainItems others) := by
  intro others hb h
  cases items with
  | nil =>
    cases others with
    | nil => trivial
    | cons other others => cases h
  | cons item items =>
    cases others with
    | nil => cases h
    | cons other others =>
      exact ⟨same_plainValue item ha.1 other hb.1 h.1, same_plainItems items ha.2 others hb.2 h.2⟩

theorem same_plainMembers (members : List (String × Json)) (ha : membersParsed members) :
    ∀ member ∈ members, ∀ b, parsed b → sameValue member.2 b →
      sameValue (plainValue member.2) (plainValue b) := by
  match members with
  | [] => exact fun member hm => by cases hm
  | (key, value) :: members =>
    intro member hm
    obtain heq | hm := List.mem_cons.mp hm
    · rw [heq]
      exact same_plainValue value ha.1
    · exact same_plainMembers members ha.2 member hm

end

/-! ### Hash inputs -/

/-- An event whose fields hold values that `JSON.parse` makes. -/
def ParsedRecord (r : AuditRecord) : Prop := ∀ field value, r field = some value → parsed value

/-- INTERNAL: what an event is built from is parsed. -/
theorem parsed_eventValue {r : AuditRecord} (h : ParsedRecord r) (draw : AuditDraw)
    (field : AuditField) : parsed (eventValue r draw field) := by
  have hnullish : ∀ own fallback, parsed fallback → parsed (nullish (r own) fallback) := by
    intro own fallback hfallback
    unfold nullish
    split
    · exact hfallback
    · exact hfallback
    · exact h own _ (by assumption)
  have hgetD : ∀ own, parsed ((r own).getD .null) := by
    intro own
    rcases hown : r own with _ | value
    · trivial
    · exact h own value hown
  cases field <;> first
    | exact hnullish _ _ trivial
    | exact hgetD _
    | exact Or.inr rfl
    | trivial

/-- INTERNAL: the hashed fields have names of their own, none of which is `__proto__`. -/
theorem hashedFields_names :
    (hashedFields.map AuditField.name).Nodup ∧ "__proto__" ∉ hashedFields.map AuditField.name := by
  decide +kernel

/-- INTERNAL: the hashed content is parsed. -/
theorem parsed_recordContent {r : AuditRecord} (h : ParsedRecord r) (draw : AuditDraw) :
    parsed (recordContent r draw) := by
  have hmembers : ∀ fields : List AuditField,
      membersParsed (fields.map fun field => (field.name, eventValue r draw field)) := by
    intro fields
    induction fields with
    | nil => trivial
    | cons field fields ih => exact ⟨parsed_eventValue h draw field, ih⟩
  refine ⟨?_, hmembers hashedFields⟩
  unfold KeysDistinct
  rw [List.map_map]
  exact hashedFields_names.1

/-- INTERNAL: the contents of two events are the same when their fields are. -/
theorem same_recordContent (r r' : AuditRecord) (draw draw' : AuditDraw) :
    sameValue (plainValue (recordContent r draw)) (plainValue (recordContent r' draw')) ↔
      ∀ field ∈ hashedFields, sameValue (plainValue (eventValue r draw field))
        (plainValue (eventValue r' draw' field)) := by
  have hown : ∀ (q : AuditRecord) (d : AuditDraw), plainValue (recordContent q d) =
      .object (hashedFields.map fun field => (field.name, plainValue (eventValue q d field))) := by
    intro q d
    unfold recordContent
    rw [plainValue, plainMembers_eq_map, List.filter_eq_self.mpr, List.map_map]
    · rfl
    · intro member hmember
      obtain ⟨field, hfield, rfl⟩ := List.mem_map.mp hmember
      have hname : field.name ≠ "__proto__" := by
        intro heq
        exact hashedFields_names.2 (heq ▸ List.mem_map.mpr ⟨field, hfield, rfl⟩)
      simpa [ownKey] using hname
  rw [hown, hown]
  simp only [sameValue, membersAmong_iff, List.length_map, true_and]
  constructor
  · intro h field hfield
    obtain ⟨other, hother, hsame⟩ := h _ (List.mem_map.mpr ⟨field, hfield, rfl⟩)
    obtain ⟨own, hmem, heq⟩ := List.mem_map.mp hother
    obtain ⟨hname, rfl⟩ := Prod.mk.inj heq
    obtain rfl := List.inj_on_of_nodup_map hashedFields_names.1 hmem hfield hname
    exact hsame
  · intro h member hmember
    obtain ⟨field, hfield, rfl⟩ := List.mem_map.mp hmember
    exact ⟨_, List.mem_map.mpr ⟨field, hfield, rfl⟩, h field hfield⟩

/-- **When `stableSerialize` tells two values apart.** It writes the same text for two values
exactly when they are equal up to the order of keys, unless they differ and are equal once the
members keyed `__proto__` are left out and infinite numbers are `null`; and two events are hashed
over the same text exactly when each of their fields is equal in this sense.
SOURCE: packages/audit/src/foundation.js:3-28, 52-62 -/
theorem serialize_faithful {a b : Json} (ha : parsed a) (hb : parsed b) {r r' : AuditRecord}
    (hr : ParsedRecord r) (hr' : ParsedRecord r') (draw draw' : AuditDraw) :
    ((stableSerialize a = stableSerialize b ↔ sameValue a b) ↔
        (sameValue (plainValue a) (plainValue b) → sameValue a b)) ∧
      (stableSerialize (recordContent r draw) = stableSerialize (recordContent r' draw') ↔
        ∀ field ∈ hashedFields, sameValue (plainValue (eventValue r draw field))
          (plainValue (eventValue r' draw' field))) := by
  refine ⟨?_, ?_⟩
  · have hplain := same_plainValue a ha b hb
    rw [serialize_iff ha hb]
    exact ⟨Iff.mp, fun h => ⟨h, hplain⟩⟩
  · rw [serialize_iff (parsed_recordContent hr draw) (parsed_recordContent hr' draw')]
    exact same_recordContent r r' draw draw'

/-- **A member keyed `__proto__` is not in the text.** -/
theorem serialize_drops_proto :
    ¬ ∀ a b : Json, parsed a → parsed b → (stableSerialize a = stableSerialize b ↔ sameValue a b) := by
  intro hall
  have hsame := (hall (.object [("__proto__", .object [("approved", .bool true)])]) (.object [])
    (by simp [parsed, membersParsed, KeysDistinct]) (by simp [parsed, membersParsed, KeysDistinct])).mp
    (by decide +kernel)
  simp [sameValue] at hsame

/-- A state with two keys. -/
def twoKeys : Json := .object [("b", .array [.null]), ("a", .object [("y", .bool true)])]

/-- The same state with its keys in another order. -/
def keysSwapped : Json := .object [("a", .object [("y", .bool true)]), ("b", .array [.null])]

/-- An event of which the state after it is given. -/
def eventAfter (state : Json) : AuditRecord
  | .afterStateRef => some state
  | _ => none

theorem parsedRecord_eventAfter {state : Json} (h : parsed state) :
    ParsedRecord (eventAfter state) := by
  intro field value hvalue
  cases field <;> first
    | exact Option.some.inj hvalue ▸ h
    | cases hvalue

/-- Two objects whose keys come in another order, and two events with other states. -/
theorem serialize_faithful_nested :
    stableSerialize twoKeys = stableSerialize keysSwapped ∧
      ∀ draw, stableSerialize (recordContent (eventAfter twoKeys) draw) ≠
        stableSerialize (recordContent (eventAfter (.array [])) draw) := by
  have hfirst : parsed twoKeys := by
    simp [twoKeys, parsed, membersParsed, itemsParsed, KeysDistinct]
  have hsecond : parsed keysSwapped := by
    simp [keysSwapped, parsed, membersParsed, itemsParsed, KeysDistinct]
  have hsame : sameValue twoKeys keysSwapped := by
    refine ⟨rfl, ⟨_, List.mem_cons_of_mem _ List.mem_cons_self, ?_⟩, ⟨_, List.mem_cons_self, ?_⟩,
      trivial⟩
    · exact ⟨(sameValue_scalar rfl).mpr rfl, trivial⟩
    · exact ⟨rfl, ⟨_, List.mem_cons_self, (sameValue_scalar rfl).mpr rfl⟩, trivial⟩
  have hempty : parsed (.array []) := trivial
  have hfaithful := serialize_faithful hfirst hsecond (parsedRecord_eventAfter hfirst)
    (parsedRecord_eventAfter hempty)
  refine ⟨((hfaithful ⟨"", "", "", ""⟩ ⟨"", "", "", ""⟩).1.mpr fun _ => hsame).mpr hsame, ?_⟩
  intro draw htext
  have hstate := (hfaithful draw draw).2.mp htext .afterStateRef (by decide)
  simp [eventValue, nullish, eventAfter, twoKeys, plainValue, sameValue] at hstate

end Xygo.Analysis
