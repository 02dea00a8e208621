import Xygo.Model.PlatformBlueprint

/-!
# Recommended modules

A module is recommended exactly when it was selected, belongs to the industry's baseline, or one of
its triggers is part of the lower case of one entry of the intake (`mem_recommended_iff`): a trigger
is never found across two entries, since these are joined around a line feed. So what is recommended
keeps the order of the library, each of it has one build step, and more entries recommend no less
(`blueprint_sound`).
-/

set_option autoImplicit false

namespace Xygo.Analysis

open Xygo.Computation Xygo.Model

/-! ### The text of an intake -/

/-- The text an entry has in a joined array. -/
def entryText : Json → Except JsError String
  | .null => .ok ""
  | value => value.toText

/-- The entries of an array have their texts one by one. -/
theorem itemsToText_eq_ok_iff {entries : List Json} {texts : List String} :
    Json.itemsToText entries = .ok texts ↔
      List.Forall₂ (fun entry text => entryText entry = .ok text) entries texts := by
  induction entries generalizing texts with
  | nil =>
    rw [List.forall₂_nil_left_iff]
    constructor
    · intro h
      cases h
      rfl
    · rintro rfl
      rfl
  | cons entry entries ih =>
    have hcons : Json.itemsToText (entry :: entries) = (do
        let text ← entryText entry
        let texts ← Json.itemsToText entries
        return text :: texts) := by
      cases entry <;> rfl
    rw [hcons, bind_eq_ok]
    constructor
    · rintro ⟨text, htext, h⟩
      obtain ⟨rest, hrest, h⟩ := bind_eq_ok.mp h
      cases h
      exact .cons htext (ih.mp hrest)
    · rintro (_ | ⟨htext, hrest⟩)
      exact ⟨_, htext, bind_eq_ok.mpr ⟨_, ih.mpr hrest, rfl⟩⟩

theorem includes_iff {text part : String} :
    includes text part = true ↔ part.toList <:+: text.toList := by
  unfold includes
  rw [List.any_eq_true, List.infix_iff_prefix_suffix]
  constructor
  · rintro ⟨rest, hrest, hprefix⟩
    exact ⟨rest, List.isPrefixOf_iff_prefix.mp hprefix, (List.mem_tails _ _).mp hrest⟩
  · rintro ⟨rest, hprefix, hrest⟩
    exact ⟨rest, (List.mem_tails _ _).mpr hrest, List.isPrefixOf_iff_prefix.mpr hprefix⟩

/-- A text that cannot lie across two entries: without a line feed, and with no space at an end. -/
structure Solid (part : List Char) : Prop where
  noLineFeed : '\n' ∉ part
  start : ∀ rest, part ≠ ' ' :: rest
  finish : ∀ rest, part ≠ rest ++ [' ']

theorem Solid.infix_space {part text : List Char} (h : Solid part) :
    part <:+: text ++ [' '] ↔ part <:+: text := by
  rw [List.infix_concat_iff, List.suffix_concat_iff]
  constructor
  · rintro ((rfl | ⟨rest, heq, -⟩) | hinfix)
    · exact List.nil_infix
    · exact absurd heq (h.finish rest)
    · exact hinfix
  · exact Or.inr

theorem Solid.space_infix {part text : List Char} (h : Solid part) :
    part <:+: ' ' :: text ↔ part <:+: text := by
  rw [List.infix_cons_iff, List.prefix_cons_iff]
  constructor
  · rintro ((rfl | ⟨rest, heq, -⟩) | hinfix)
    · exact List.nil_infix
    · exact absurd heq (h.start rest)
    · exact hinfix
  · exact Or.inr

/-- Two texts around a line feed are converted alone. -/
theorem lower_separated (T : UnicodeTable) (front back : List Char) :
    T.lower (front ++ (" \n ".toList ++ back)) =
      (T.lower front ++ [' ']) ++ '\n' :: ' ' :: T.lower back := by
  have hnil : T.lower [] = [] := rfl
  have hfront : T.lower (front ++ [' ']) = T.lower front ++ [' '] := by
    rw [CaseTable.lower_append_cons T.space, hnil]
  have hback : T.lower (' ' :: back) = ' ' :: T.lower back := by
    rw [← List.nil_append (' ' :: back), CaseTable.lower_append_cons T.space, hnil]
    rfl
  have hsplit : front ++ (" \n ".toList ++ back) = (front ++ [' ']) ++ '\n' :: ' ' :: back := by
    simp
  rw [hsplit, CaseTable.lower_append_cons T.lineFeed, hfront, hback]

/-- **A solid text is part of the joined texts exactly when it is part of one of them.** -/
theorem Solid.infix_joined_iff (T : UnicodeTable) {part : List Char} (h : Solid part)
    (text : List Char) (texts : List (List Char)) :
    part <:+: T.lower (" \n ".toList.intercalate (text :: texts)) ↔
      ∃ one ∈ text :: texts, part <:+: T.lower one := by
  induction texts generalizing text with
  | nil => simp [List.intercalate]
  | cons next texts ih =>
    have hjoin : " \n ".toList.intercalate (text :: next :: texts) =
        text ++ (" \n ".toList ++ " \n ".toList.intercalate (next :: texts)) := by
      simp [List.intercalate]
    rw [hjoin, lower_separated, infix_append_cons_iff h.noLineFeed, h.infix_space, h.space_infix,
      ih next]
    simp

/-- Every trigger is solid. -/
theorem triggers_solid {rule : String × List String} (hrule : rule ∈ moduleRules)
    {trigger : String} (htrigger : trigger ∈ rule.2) : Solid trigger.toList := by
  have hall : moduleRules.all (fun rule => rule.2.all fun trigger =>
      trigger.toList.all (· ≠ '\n') && trigger.toList.head? ≠ some ' ' &&
        trigger.toList.getLast? ≠ some ' ') = true := by
    decide +kernel
  have hone := List.all_eq_true.mp (List.all_eq_true.mp hall rule hrule) trigger htrigger
  simp only [Bool.and_eq_true, decide_eq_true_eq, ne_eq] at hone
  obtain ⟨⟨hfeed, hstart⟩, hfinish⟩ := hone
  refine ⟨?_, ?_, ?_⟩
  · intro hmem
    simpa using List.all_eq_true.mp hfeed _ hmem
  · intro rest heq
    exact hstart (by rw [heq]; rfl)
  · intro rest heq
    exact hfinish (by rw [heq]; simp)

/-- The text of an intake with at least one entry has a trigger exactly when an entry has it. -/
theorem includes_haystack_iff (T : UnicodeTable) {rule : String × List String}
    (hrule : rule ∈ moduleRules) {trigger : String} (htrigger : trigger ∈ rule.2) {text : String}
    {texts : List String} :
    includes (T.toLowerCase (" \n ".intercalate (text :: texts))) trigger = true ↔
      ∃ one ∈ text :: texts, includes (T.toLowerCase one) trigger = true := by
  have hjoined := (triggers_solid hrule htrigger).infix_joined_iff T text.toList
    (texts.map String.toList)
  simp only [includes_iff, UnicodeTable.toLowerCase, String.toList_ofList,
    String.toList_intercalate, List.map_cons]
  rw [hjoined]
  simp

/-! ### The recommendations -/

/-- What may be recommended for an intake, in the order of the source, each with its reason. -/
def candidates (intake : BlueprintIntake) (text : String) : List (Json × String) :=
  (intake.selectedModules.map fun key => (key, "explicitly selected")) ++
    (moduleRules.filterMap fun rule => (rule.2.find? (includes text)).map fun trigger =>
      (Json.string rule.1, "matched requirement: \"" ++ trigger ++ "\"")) ++
    (industryDefaultModules intake.industry).map fun key =>
      (Json.string key, intake.industry.text ++ " baseline")

theorem recommendationsOf_eq (intake : BlueprintIntake) (text : String) :
    recommendationsOf intake text =
      (candidates intake text).foldl (fun m c => addRecommendation m c.1 c.2) .empty := by
  unfold recommendationsOf candidates
  rw [List.foldl_append, List.foldl_append, List.foldl_map, List.foldl_map,
    List.foldl_filterMap]
  dsimp only
  congr 2
  funext m rule
  cases rule.2.find? (includes text) <;> rfl

/-- Recommendations under the keys of their modules. -/
def KeyedByModule (m : OrderedMap String RecommendedModule) : Prop :=
  ∀ key value, m.get key = some value → value.key = key

theorem moduleByKey_key {key : String} {m : LibraryModule} (h : moduleByKey key = some m) :
    m.key = key := by
  simpa using List.find?_some h

/-- What one candidate adds. -/
theorem addRecommendation_spec {m : OrderedMap String RecommendedModule} (h : KeyedByModule m)
    (key : Json) (rationale : String) :
    KeyedByModule (addRecommendation m key rationale) ∧
      ∀ k, (addRecommendation m key rationale).has k = true ↔
        m.has k = true ∨ (moduleByKey k).isSome ∧ key = .string k := by
  unfold addRecommendation
  cases key with
  | string own =>
    dsimp only
    cases hmodule : moduleByKey own with
    | none =>
      refine ⟨h, fun k => ?_⟩
      constructor
      · exact Or.inl
      · rintro (hhas | ⟨hsome, heq⟩)
        · exact hhas
        · rw [← Json.string.inj heq, hmodule] at hsome
          cases hsome
    | some found =>
      dsimp only
      cases hhas : m.has own with
      | true =>
        rw [if_pos rfl]
        refine ⟨h, fun k => ?_⟩
        constructor
        · exact Or.inl
        · rintro (hk | ⟨-, heq⟩)
          · exact hk
          · rw [← Json.string.inj heq]
            exact hhas
      | false =>
        rw [if_neg (by simp)]
        refine ⟨?_, fun k => ?_⟩
        · intro k value hget
          rw [OrderedMap.get_set] at hget
          split at hget
          · rename_i hk
            cases hget
            rw [hk]
            exact moduleByKey_key hmodule
          · exact h k value hget
        · rw [OrderedMap.has_eq_isSome, OrderedMap.get_set, OrderedMap.has_eq_isSome]
          by_cases hk : k = own
          · subst hk
            simp [hmodule]
          · have hne : ¬ own = k := fun heq => hk heq.symm
            simp [hk, hne]
  | _ => exact ⟨h, fun k => by simp⟩

/-- What the candidates of a list add. -/
theorem foldl_addRecommendation {m : OrderedMap String RecommendedModule} (h : KeyedByModule m)
    (cs : List (Json × String)) :
    KeyedByModule (cs.foldl (fun m c => addRecommendation m c.1 c.2) m) ∧
      ∀ k, (cs.foldl (fun m c => addRecommendation m c.1 c.2) m).has k = true ↔
        m.has k = true ∨ (moduleByKey k).isSome ∧ ∃ c ∈ cs, c.1 = .string k := by
  induction cs generalizing m with
  | nil => exact ⟨h, fun k => by simp⟩
  | cons c cs ih =>
    obtain ⟨hkeyed, hhas⟩ := addRecommendation_spec h c.1 c.2
    obtain ⟨hkeyed', hhas'⟩ := ih hkeyed
    refine ⟨hkeyed', fun k => ?_⟩
    rw [List.foldl_cons, hhas' k, hhas k]
    constructor
    · rintro ((hk | ⟨hsome, heq⟩) | ⟨hsome, d, hd, heq⟩)
      · exact Or.inl hk
      · exact Or.inr ⟨hsome, c, List.mem_cons_self, heq⟩
      · exact Or.inr ⟨hsome, d, List.mem_cons_of_mem _ hd, heq⟩
    · rintro (hk | ⟨hsome, d, hd, heq⟩)
      · exact Or.inl (Or.inl hk)
      · obtain rfl | hd := List.mem_cons.mp hd
        · exact Or.inl (Or.inr ⟨hsome, heq⟩)
        · exact Or.inr ⟨hsome, d, hd, heq⟩

/-- The keys of the library. -/
def libraryKeys : List String := moduleLibrary.map LibraryModule.key

theorem isSome_moduleByKey_iff {key : String} :
    (moduleByKey key).isSome ↔ key ∈ libraryKeys := by
  unfold moduleByKey libraryKeys
  rw [List.find?_isSome, List.mem_map]
  simp

/-- The keys of the modules. -/
def keysOf (modules : List RecommendedModule) : List String := modules.map RecommendedModule.key

/-- Taken in the order of the library, the recommended modules are those of its keys that have a
recommendation. -/
theorem keysOf_filterMap {m : OrderedMap String RecommendedModule} (h : KeyedByModule m)
    (modules : List LibraryModule) :
    keysOf (modules.filterMap fun one => m.get one.key) =
      (modules.map LibraryModule.key).filter m.has := by
  unfold keysOf
  induction modules with
  | nil => rfl
  | cons one modules ih =>
    rw [List.filterMap_cons, List.map_cons, List.filter_cons, OrderedMap.has_eq_isSome]
    cases hget : m.get one.key with
    | none => simpa using ih
    | some value => simpa [h one.key value hget] using ih

/-- Why a module is recommended for an intake whose entries have these texts. -/
def Wanted (T : UnicodeTable) (intake : BlueprintIntake) (texts : List String) (key : String) :
    Prop :=
  .string key ∈ intake.selectedModules ∨
    (∃ rule ∈ moduleRules, rule.1 = key ∧ ∃ trigger ∈ rule.2, ∃ text ∈ texts,
      includes (T.toLowerCase text) trigger = true) ∨
    key ∈ industryDefaultModules intake.industry

theorem mem_candidates_iff (T : UnicodeTable) {intake : BlueprintIntake} {text : String}
    {texts : List String} {key : String} :
    (∃ c ∈ candidates intake (T.toLowerCase (" \n ".intercalate (text :: texts))),
        c.1 = .string key) ↔ Wanted T intake (text :: texts) key := by
  unfold candidates Wanted
  simp only [List.mem_append, List.mem_map, List.mem_filterMap, Option.map_eq_some_iff]
  constructor
  · rintro ⟨c, (⟨own, hown, rfl⟩ | ⟨rule, hrule, trigger, hfound, rfl⟩) | ⟨own, hown, rfl⟩, heq⟩
    · left
      exact heq ▸ hown
    · right
      left
      have htrigger := List.mem_of_find?_eq_some hfound
      have hincludes := List.find?_some hfound
      exact ⟨rule, hrule, Json.string.inj heq, trigger, htrigger,
        (includes_haystack_iff T hrule htrigger).mp hincludes⟩
    · right
      right
      exact Json.string.inj heq ▸ hown
  · rintro (hselected | ⟨rule, hrule, rfl, trigger, htrigger, hone⟩ | hdefault)
    · exact ⟨_, Or.inl (Or.inl ⟨_, hselected, rfl⟩), rfl⟩
    · have hincludes := (includes_haystack_iff T hrule htrigger).mpr hone
      obtain ⟨found, hfound⟩ := Option.isSome_iff_exists.mp
        (List.find?_isSome.mpr ⟨trigger, htrigger, hincludes⟩)
      exact ⟨_, Or.inl (Or.inr ⟨rule, hrule, found, hfound, rfl⟩), rfl⟩
    · exact ⟨_, Or.inr ⟨key, hdefault, rfl⟩, rfl⟩

/-- What an intake with these texts is recommended. -/
structure Recommended (T : UnicodeTable) (intake : BlueprintIntake) (texts : List String)
    (modules : List RecommendedModule) : Prop where
  order : ∃ test, keysOf modules = libraryKeys.filter test
  wanted : ∀ key, key ∈ keysOf modules ↔ key ∈ libraryKeys ∧ Wanted T intake texts key

/-- **What is recommended**, once the entries have their texts. -/
theorem recommendModules_of_texts (T : UnicodeTable) {intake : BlueprintIntake}
    {texts : List String}
    (h : List.Forall₂ (fun entry text => entryText entry = .ok text) (haystackEntries intake)
      texts) :
    ∃ modules, recommendModules T intake = .ok modules ∧ Recommended T intake texts modules := by
  obtain ⟨text, rest, -, -, rfl⟩ := List.forall₂_cons_left_iff.mp h
  have hhaystack : haystack T intake =
      .ok (T.toLowerCase (" \n ".intercalate (text :: rest))) :=
    bind_eq_ok.mpr ⟨_, itemsToText_eq_ok_iff.mpr h, rfl⟩
  have hempty : KeyedByModule .empty := by
    intro key value hget
    rw [OrderedMap.get_empty] at hget
    cases hget
  obtain ⟨hkeyed, hhas⟩ := foldl_addRecommendation hempty
    (candidates intake (T.toLowerCase (" \n ".intercalate (text :: rest))))
  rw [← recommendationsOf_eq] at hkeyed hhas
  have hkeys := keysOf_filterMap hkeyed moduleLibrary
  refine ⟨_, bind_eq_ok.mpr ⟨_, hhaystack, rfl⟩, ⟨_, hkeys⟩, fun key => ?_⟩
  rw [hkeys, List.mem_filter, hhas key, mem_candidates_iff, isSome_moduleByKey_iff,
    OrderedMap.has_empty]
  simp [libraryKeys]

/-- A list of recommendations comes from the texts of the entries. -/
theorem recommendModules_eq_ok {T : UnicodeTable} {intake : BlueprintIntake}
    {modules : List RecommendedModule} (h : recommendModules T intake = .ok modules) :
    ∃ texts, List.Forall₂ (fun entry text => entryText entry = .ok text) (haystackEntries intake)
      texts ∧ Recommended T intake texts modules := by
  obtain ⟨joined, hhaystack, -⟩ := bind_eq_ok.mp h
  obtain ⟨texts, htexts, -⟩ := bind_eq_ok.mp hhaystack
  have hentries := itemsToText_eq_ok_iff.mp htexts
  obtain ⟨others, hothers, hrecommended⟩ := recommendModules_of_texts T hentries
  have hsame : modules = others := Except.ok.inj (h.symm.trans hothers)
  exact ⟨texts, hentries, hsame ▸ hrecommended⟩

/-! ### Larger intakes -/

/-- An intake with all that another has, and only texts besides. -/
structure Extends (i j : BlueprintIntake) : Prop where
  industry : j.industry = i.industry
  selected : ∀ key ∈ i.selectedModules, key ∈ j.selectedModules
  entries : ∀ entry ∈ haystackEntries i, entry ∈ haystackEntries j
  added : ∀ entry ∈ haystackEntries j, entry ∈ haystackEntries i ∨ ∃ text, entry = .string text

/-- A list of entries has its texts when each of them has one. -/
theorem exists_texts_iff {entries : List Json} :
    (∃ texts, List.Forall₂ (fun entry text => entryText entry = .ok text) entries texts) ↔
      ∀ entry ∈ entries, ∃ text, entryText entry = .ok text := by
  induction entries with
  | nil => simp
  | cons entry entries ih =>
    rw [List.forall_mem_cons, ← ih]
    constructor
    · rintro ⟨texts, htexts⟩
      obtain ⟨text, rest, htext, hrest, -⟩ := List.forall₂_cons_left_iff.mp htexts
      exact ⟨⟨text, htext⟩, rest, hrest⟩
    · rintro ⟨⟨text, htext⟩, rest, hrest⟩
      exact ⟨text :: rest, .cons htext hrest⟩

theorem mem_texts_iff {entries : List Json} {texts : List String}
    (h : List.Forall₂ (fun entry text => entryText entry = .ok text) entries texts)
    {text : String} : text ∈ texts ↔ ∃ entry ∈ entries, entryText entry = .ok text := by
  induction h with
  | nil => simp
  | cons hhead _ ih => simp [ih, hhead, eq_comm]

/-- **A larger intake is recommended no less.** -/
theorem recommendModules_mono (T : UnicodeTable) {i j : BlueprintIntake} (h : Extends i j)
    {modules : List RecommendedModule} (hi : recommendModules T i = .ok modules) :
    ∃ larger, recommendModules T j = .ok larger ∧
      ∀ key ∈ keysOf modules, key ∈ keysOf larger := by
  obtain ⟨texts, htexts, hrecommended⟩ := recommendModules_eq_ok hi
  have hprinted : ∀ entry ∈ haystackEntries j, ∃ text, entryText entry = .ok text := by
    intro entry hentry
    rcases h.added entry hentry with hold | ⟨text, rfl⟩
    · exact exists_texts_iff.mp ⟨texts, htexts⟩ entry hold
    · exact ⟨text, rfl⟩
  obtain ⟨others, hothers⟩ := exists_texts_iff.mpr hprinted
  obtain ⟨larger, hlarger, hmore⟩ := recommendModules_of_texts T hothers
  refine ⟨larger, hlarger, fun key hkey => ?_⟩
  obtain ⟨hlibrary, hwanted⟩ := (hrecommended.wanted key).mp hkey
  refine (hmore.wanted key).mpr ⟨hlibrary, ?_⟩
  rcases hwanted with hselected | ⟨rule, hrule, heq, trigger, htrigger, text, htext, hincludes⟩ |
    hdefault
  · exact Or.inl (h.selected _ hselected)
  · obtain ⟨entry, hentry, hprint⟩ := (mem_texts_iff htexts).mp htext
    have htext' := (mem_texts_iff hothers).mpr ⟨entry, h.entries entry hentry, hprint⟩
    exact Or.inr (Or.inl ⟨rule, hrule, heq, trigger, htrigger, text, htext', hincludes⟩)
  · exact Or.inr (Or.inr (h.industry ▸ hdefault))

/-- The lists of an intake. -/
inductive IntakeList
  | roles
  | workflows
  | painPoints
  | portalRequirements
  | dashboardRequirements
  | aiAgentRequirements
  | documentReportingNeeds
  | integrationNeeds
  | selectedModules

/-- The member a list is read from. -/
def IntakeList.key : IntakeList → String
  | .roles => "roles"
  | .workflows => "workflows"
  | .painPoints => "painPoints"
  | .portalRequirements => "portalRequirements"
  | .dashboardRequirements => "dashboardRequirements"
  | .aiAgentRequirements => "aiAgentRequirements"
  | .documentReportingNeeds => "documentReportingNeeds"
  | .integrationNeeds => "integrationNeeds"
  | .selectedModules => "selectedModules"

/-- The input with a text more in one of its lists, behind some of the list's entries. -/
def addEntry (input : Json) (list : IntakeList) (position : Nat) (entry : String) : Json :=
  match input with
  | .object members =>
    let items := toArray (members.lookup list.key)
    .object ((list.key, .array (items.take position ++ .string entry :: items.drop position)) ::
      members.filter fun member => member.1 ≠ list.key)
  | value => value

theorem lookup_filter_ne {α : Type} {members : List (String × α)} {key other : String}
    (h : key ≠ other) :
    (members.filter fun member => member.1 ≠ other).lookup key = members.lookup key := by
  induction members with
  | nil => rfl
  | cons member members ih =>
    obtain ⟨own, value⟩ := member
    rw [List.filter_cons]
    by_cases hother : own = other
    · have hkey : (key == own) = false := by
        rw [hother]
        simpa using h
      rw [if_neg (by simpa using hother), ih, List.lookup_cons, hkey]
    · rw [if_pos (by simpa using hother), List.lookup_cons, List.lookup_cons, ih]

section addEntry

variable {input : Json} {list : IntakeList} {position : Nat} {entry : String}

/-- The list of an object. -/
theorem member_addEntry_object (members : List (String × Json)) (key : String) :
    (addEntry (.object members) list position entry).member? key =
      List.lookup key ((list.key, .array ((toArray (members.lookup list.key)).take position ++
          .string entry :: (toArray (members.lookup list.key)).drop position)) ::
        members.filter fun member => member.1 ≠ list.key) := rfl

theorem member_addEntry_ne {key : String} (h : key ≠ list.key) :
    (addEntry input list position entry).member? key = input.member? key := by
  cases input with
  | object members =>
    have hkey : (key == list.key) = false := by simpa using h
    rw [member_addEntry_object, List.lookup_cons, hkey]
    exact lookup_filter_ne h
  | _ => rfl

/-- What the lists of the input become. -/
theorem mem_toArray_addEntry {key : String} {item : Json} :
    (item ∈ toArray (input.member? key) →
        item ∈ toArray ((addEntry input list position entry).member? key)) ∧
      (item ∈ toArray ((addEntry input list position entry).member? key) →
        item ∈ toArray (input.member? key) ∨ item = .string entry) := by
  by_cases hkey : key = list.key
  · cases input with
    | object members =>
      have hmember : (addEntry (.object members) list position entry).member? key =
          some (.array ((toArray (members.lookup list.key)).take position ++
            .string entry :: (toArray (members.lookup list.key)).drop position)) := by
        rw [member_addEntry_object, List.lookup_cons, hkey, beq_self_eq_true]
      have hsplit := List.take_append_drop position (toArray (members.lookup list.key))
      have hold : (Json.object members).member? key = members.lookup list.key := by
        rw [hkey]
        rfl
      rw [hmember, hold]
      generalize toArray (members.lookup list.key) = items at hsplit ⊢
      constructor
      · intro hitem
        rw [← hsplit] at hitem
        rcases List.mem_append.mp hitem with hitem | hitem
        · exact List.mem_append_left _ hitem
        · exact List.mem_append_right _ (List.mem_cons_of_mem _ hitem)
      · intro hitem
        rcases List.mem_append.mp hitem with hitem | hitem
        · exact Or.inl (List.mem_of_mem_take hitem)
        · rcases List.mem_cons.mp hitem with heq | hitem
          · exact Or.inr heq
          · exact Or.inl (List.mem_of_mem_drop hitem)
    | _ => exact ⟨id, Or.inl⟩
  · rw [member_addEntry_ne hkey]
    exact ⟨id, Or.inl⟩

end addEntry

/-- What an intake takes from its input. -/
structure IntakeOf (input : Json) (i : BlueprintIntake) : Prop where
  id : input.requiredString "id" "Blueprint id" = .ok i.id
  tenantId : input.requiredString "tenantId" "Blueprint tenantId" = .ok i.tenantId
  businessName : input.requiredString "businessName" "Business name" = .ok i.businessName
  industry : ∃ named, input.requiredString "industry" "Industry" = .ok named ∧
    industry? named = some i.industry
  staged : input.isTrue "staged" = true ∧ i.staged = true
  serviceLine : i.serviceLine = input.orElse "serviceLine" .null
  roles : i.roles = toArray (input.member? "roles")
  workflows : i.workflows = toArray (input.member? "workflows")
  painPoints : i.painPoints = toArray (input.member? "painPoints")
  portalRequirements : i.portalRequirements = toArray (input.member? "portalRequirements")
  dashboardRequirements : i.dashboardRequirements =
    toArray (input.member? "dashboardRequirements")
  aiAgentRequirements : i.aiAgentRequirements = toArray (input.member? "aiAgentRequirements")
  documentReportingNeeds : i.documentReportingNeeds =
    toArray (input.member? "documentReportingNeeds")
  integrationNeeds : i.integrationNeeds = toArray (input.member? "integrationNeeds")
  selectedModules : i.selectedModules = toArray (input.member? "selectedModules")

theorem createBlueprintIntake_eq_ok_iff {input : Json} {i : BlueprintIntake} :
    createBlueprintIntake input = .ok i ↔ IntakeOf input i := by
  constructor
  · intro h
    unfold createBlueprintIntake at h
    obtain ⟨id, hid, h⟩ := bind_eq_ok.mp h
    obtain ⟨tenantId, htenant, h⟩ := bind_eq_ok.mp h
    obtain ⟨businessName, hname, h⟩ := bind_eq_ok.mp h
    obtain ⟨named, hnamed, h⟩ := bind_eq_ok.mp h
    split at h
    · cases h
    · rename_i industry hindustry
      cases hstaged : input.isTrue "staged" with
      | false =>
        rw [hstaged] at h
        cases h
      | true =>
        rw [hstaged] at h
        cases h
        exact ⟨hid, htenant, hname, ⟨named, hnamed, hindustry⟩, ⟨hstaged, rfl⟩, rfl, rfl, rfl, rfl,
          rfl, rfl, rfl, rfl, rfl, rfl⟩
  · intro h
    obtain ⟨named, hnamed, hindustry⟩ := h.industry
    refine bind_eq_ok.mpr ⟨_, h.id, ?_⟩
    refine bind_eq_ok.mpr ⟨_, h.tenantId, ?_⟩
    refine bind_eq_ok.mpr ⟨_, h.businessName, ?_⟩
    refine bind_eq_ok.mpr ⟨_, hnamed, ?_⟩
    rw [hindustry]
    dsimp only
    rw [h.staged.1, if_neg (by simp), ← h.serviceLine, ← h.roles, ← h.workflows, ← h.painPoints,
      ← h.portalRequirements, ← h.dashboardRequirements, ← h.aiAgentRequirements,
      ← h.documentReportingNeeds, ← h.integrationNeeds, ← h.selectedModules, ← h.staged.2]
    rfl

/-- No list is read from one of the members that must be there. -/
theorem requiredString_addEntry {input : Json} {list : IntakeList} {position : Nat}
    {entry key label : String} (h : key ≠ list.key) :
    (addEntry input list position entry).requiredString key label =
      input.requiredString key label := by
  unfold Json.requiredString
  rw [member_addEntry_ne h]

/-- An input with a text more gives a larger intake. -/
theorem createBlueprintIntake_addEntry {input : Json} {i : BlueprintIntake}
    (h : IntakeOf input i) (list : IntakeList) (position : Nat) (entry : String) :
    ∃ j, createBlueprintIntake (addEntry input list position entry) = .ok j ∧ Extends i j := by
  let lists := fun key => toArray ((addEntry input list position entry).member? key)
  refine ⟨{ i with
      roles := lists "roles"
      workflows := lists "workflows"
      painPoints := lists "painPoints"
      portalRequirements := lists "portalRequirements"
      dashboardRequirements := lists "dashboardRequirements"
      aiAgentRequirements := lists "aiAgentRequirements"
      documentReportingNeeds := lists "documentReportingNeeds"
      integrationNeeds := lists "integrationNeeds"
      selectedModules := lists "selectedModules" },
    createBlueprintIntake_eq_ok_iff.mpr ?_, ?_⟩
  · have hother : ∀ key ∈ ["id", "tenantId", "businessName", "industry", "staged", "serviceLine"],
        key ≠ list.key := by
      cases list <;> decide
    obtain ⟨named, hnamed, hindustry⟩ := h.industry
    refine ⟨?_, ?_, ?_, ⟨named, ?_, hindustry⟩, ⟨?_, h.staged.2⟩, ?_, rfl, rfl, rfl, rfl, rfl, rfl,
      rfl, rfl, rfl⟩
    · rw [requiredString_addEntry (hother _ (by simp))]
      exact h.id
    · rw [requiredString_addEntry (hother _ (by simp))]
      exact h.tenantId
    · rw [requiredString_addEntry (hother _ (by simp))]
      exact h.businessName
    · rw [requiredString_addEntry (hother _ (by simp))]
      exact hnamed
    · unfold Json.isTrue
      rw [member_addEntry_ne (hother _ (by simp))]
      exact h.staged.1
    · unfold Json.orElse
      rw [member_addEntry_ne (hother _ (by simp))]
      exact h.serviceLine
  · have hkept : ∀ key, ∀ item ∈ toArray (input.member? key), item ∈ lists key :=
      fun key item => mem_toArray_addEntry.1
    have hadded : ∀ key, ∀ item ∈ lists key,
        item ∈ toArray (input.member? key) ∨ ∃ text, item = .string text := by
      intro key item hitem
      rcases mem_toArray_addEntry.2 hitem with hold | rfl
      · exact Or.inl hold
      · exact Or.inr ⟨entry, rfl⟩
    refine ⟨rfl, ?_, ?_, ?_⟩
    · intro key hkey
      rw [h.selectedModules] at hkey
      exact hkept _ _ hkey
    · intro item hitem
      simp only [haystackEntries, List.mem_cons, List.mem_append, h.workflows, h.painPoints,
        h.portalRequirements, h.dashboardRequirements, h.aiAgentRequirements,
        h.documentReportingNeeds, h.integrationNeeds] at hitem ⊢
      rcases hitem with rfl | (((((hitem | hitem) | hitem) | hitem) | hitem) | hitem) | hitem
      · exact Or.inl rfl
      all_goals
        have hmem := hkept _ _ hitem
        tauto
    · intro item hitem
      simp only [haystackEntries, List.mem_cons, List.mem_append, h.workflows, h.painPoints,
        h.portalRequirements, h.dashboardRequirements, h.aiAgentRequirements,
        h.documentReportingNeeds, h.integrationNeeds] at hitem ⊢
      rcases hitem with rfl | (((((hitem | hitem) | hitem) | hitem) | hitem) | hitem) | hitem
      · exact Or.inl (Or.inl rfl)
      all_goals
        have hmem := hadded _ _ hitem
        tauto

/-! ### The blueprint -/

/-- The keys of the library, in the order they are built. -/
theorem buildOrder_perm : buildOrder.Perm libraryKeys := by decide +kernel

theorem nodup_libraryKeys : libraryKeys.Nodup := by decide +kernel

/-- The steps of a list of modules are those of the build order, numbered from one. -/
theorem nextBuildSteps_spec (moduleKeys : List String) :
    (nextBuildSteps moduleKeys).map BuildStep.module =
        buildOrder.filter (fun key => key ∈ moduleKeys) ∧
      (nextBuildSteps moduleKeys).map BuildStep.order =
        List.range' 1 (nextBuildSteps moduleKeys).length := by
  unfold nextBuildSteps
  generalize buildOrder.filter (fun key => key ∈ moduleKeys) = steps
  constructor
  · apply List.ext_getElem
    · simp
    · intro n hn hn'
      simp [buildStep]
  · apply List.ext_getElem
    · simp
    · intro n hn hn'
      simp [buildStep, Nat.add_comm]

/-- The steps are those of the recommended modules. -/
theorem nextBuildSteps_perm {moduleKeys : List String} {test : String → Bool}
    (h : moduleKeys = libraryKeys.filter test) :
    ((nextBuildSteps moduleKeys).map BuildStep.module).Perm moduleKeys := by
  have hsame : buildOrder.filter (fun key => key ∈ moduleKeys) = buildOrder.filter test := by
    refine List.filter_congr fun key hkey => ?_
    have hlibrary : key ∈ libraryKeys := buildOrder_perm.mem_iff.mp hkey
    rw [h]
    simp [List.mem_filter, hlibrary]
  rw [(nextBuildSteps_spec moduleKeys).1, hsame]
  conv_rhs => rw [h]
  exact buildOrder_perm.filter test

/-- What holds of the blueprint of an input: its modules are keys of the library in the library's
order, its steps are these modules once each, numbered from one, and every selected module of the
library and every module of the industry's baseline is among them; a text more in any list of the
input takes no module away. -/
structure BlueprintSound (T : UnicodeTable) (input : Json) (blueprint : PlatformBlueprint) :
    Prop where
  order : (keysOf blueprint.recommendedModules).Sublist libraryKeys
  nodup : (keysOf blueprint.recommendedModules).Nodup
  steps : (blueprint.nextBuildSteps.map BuildStep.module).Perm
    (keysOf blueprint.recommendedModules)
  numbered : blueprint.nextBuildSteps.map BuildStep.order =
    List.range' 1 blueprint.recommendedModules.length
  selected : ∀ key ∈ libraryKeys, .string key ∈ toArray (input.member? "selectedModules") →
    key ∈ keysOf blueprint.recommendedModules
  baseline : ∀ key ∈ industryDefaultModules blueprint.industry,
    key ∈ keysOf blueprint.recommendedModules
  monotone : ∀ list position entry, ∃ larger,
    generatePlatformBlueprint T (addEntry input list position entry) = .ok larger ∧
      ∀ key ∈ keysOf blueprint.recommendedModules, key ∈ keysOf larger.recommendedModules

/-- The baselines are modules of the library. -/
theorem industryDefaultModules_subset (industry : Industry) :
    ∀ key ∈ industryDefaultModules industry, key ∈ libraryKeys := by
  cases industry <;> decide +kernel

/-- **The blueprint of every accepted input is sound.** -/
theorem blueprint_sound (T : UnicodeTable) (input : Json) (blueprint : PlatformBlueprint)
    (h : generatePlatformBlueprint T input = .ok blueprint) :
    BlueprintSound T input blueprint := by
  obtain ⟨intake, hintake, h⟩ := bind_eq_ok.mp h
  obtain ⟨modules, hmodules, h⟩ := bind_eq_ok.mp h
  cases h
  have hof := createBlueprintIntake_eq_ok_iff.mp hintake
  obtain ⟨texts, -, ⟨test, horder⟩, hwanted⟩ := recommendModules_eq_ok hmodules
  have hnodup : (keysOf modules).Nodup := horder ▸ nodup_libraryKeys.filter test
  have hperm := nextBuildSteps_perm horder
  refine ⟨?_, hnodup, hperm, ?_, ?_, ?_, ?_⟩
  · rw [horder]
    exact List.filter_sublist
  · have hlength := hperm.length_eq
    rw [keysOf, List.length_map, List.length_map] at hlength
    exact (nextBuildSteps_spec (keysOf modules)).2.trans (congrArg (List.range' 1) hlength)
  · intro key hkey hselected
    exact (hwanted key).mpr ⟨hkey, Or.inl (hof.selectedModules ▸ hselected)⟩
  · intro key hkey
    exact (hwanted key).mpr
      ⟨industryDefaultModules_subset intake.industry key hkey, Or.inr (Or.inr hkey)⟩
  · intro list position entry
    obtain ⟨j, hj, hextends⟩ := createBlueprintIntake_addEntry hof list position entry
    obtain ⟨larger, hlarger, hmore⟩ := recommendModules_mono T hextends hmodules
    exact ⟨_, bind_eq_ok.mpr ⟨j, hj, bind_eq_ok.mpr ⟨larger, hlarger, rfl⟩⟩, hmore⟩

/-- The case of ASCII characters. -/
def asciiCase : CaseTable where
  mapping c := [c.toLower]
  cased := Char.isAlpha
  caseIgnorable c := [0x27, 0x2E, 0x3A, 0x5E, 0x60].contains c.toNat

theorem asciiCase_stops : asciiCase.Stops ' ' ∧ asciiCase.Stops '\n' :=
  ⟨⟨by decide, by decide, by decide, by decide⟩, ⟨by decide, by decide, by decide, by decide⟩⟩

/-- The characters of ASCII. -/
def asciiTable : UnicodeTable where
  toCaseTable := asciiCase
  space := asciiCase_stops.1
  lineFeed := asciiCase_stops.2

/-- The intake of a builder who wants permits. -/
def builderIntake : Json :=
  .object [("id", .string "bp-1"), ("tenantId", .string "t"), ("businessName", .string "Acme"),
    ("industry", .string "construction"), ("staged", .bool true),
    ("painPoints", .array [.string "Slow Permit review"])]

theorem blueprint_sound_builder : ∃ blueprint,
    generatePlatformBlueprint asciiTable builderIntake = .ok blueprint ∧
      BlueprintSound asciiTable builderIntake blueprint :=
  ⟨_, rfl, blueprint_sound asciiTable builderIntake _ rfl⟩

end Xygo.Analysis
