import Mathlib.Tactic.Common
import Mathlib.Data.List.Basic

/-!
# Finite maps that remember insertion order

`OrderedMap κ β` is the map of a language whose map iterates in insertion order: setting
a key that is present replaces its value in place, and setting a new key appends it. The
entries carry the proof that no key occurs twice, so a lookup and a scan of the values see
the same bindings.
-/

set_option autoImplicit false

namespace Xygo.Computation

/-- An association list in insertion order, without a repeated key. -/
structure OrderedMap (κ β : Type) where
  entries : List (κ × β)
  nodup : (entries.map Prod.fst).Nodup

namespace OrderedMap

variable {κ β : Type}

@[ext] theorem ext {m n : OrderedMap κ β} (h : m.entries = n.entries) : m = n := by
  cases m; cases n; cases h; rfl

/-- The map without entries. -/
def empty : OrderedMap κ β := ⟨[], by simp⟩

/-- The values in insertion order. -/
def values (m : OrderedMap κ β) : List β := m.entries.map Prod.snd

/-- The keys in insertion order. -/
def keys (m : OrderedMap κ β) : List κ := m.entries.map Prod.fst

@[simp] theorem entries_empty : (empty : OrderedMap κ β).entries = [] := rfl

@[simp] theorem values_empty : (empty : OrderedMap κ β).values = [] := rfl

@[simp] theorem keys_empty : (empty : OrderedMap κ β).keys = [] := rfl

/-- The keys do not repeat. -/
theorem nodup_keys (m : OrderedMap κ β) : m.keys.Nodup := m.nodup

/-- Every value comes from an entry. -/
theorem mem_values {m : OrderedMap κ β} {v : β} : v ∈ m.values ↔ ∃ k, (k, v) ∈ m.entries := by
  simp [values]

variable [DecidableEq κ]

/-- The value bound to a key. -/
def get (m : OrderedMap κ β) (k : κ) : Option β :=
  (m.entries.find? fun e => e.1 = k).map Prod.snd

/-- Whether a key is bound. -/
def has (m : OrderedMap κ β) (k : κ) : Bool := m.entries.any fun e => e.1 = k

/-- The entries after a key present among them gets a new value. -/
def replace (es : List (κ × β)) (k : κ) (v : β) : List (κ × β) :=
  es.map fun e => if e.1 = k then (k, v) else e

@[simp] theorem keys_replace (es : List (κ × β)) (k : κ) (v : β) :
    (replace es k v).map Prod.fst = es.map Prod.fst := by
  induction es with
  | nil => rfl
  | cons e es ih =>
    simp only [replace, List.map_cons, List.map_map] at ih ⊢
    split <;> simp_all

/-- Bind a key: in place when it is present, at the end when it is new. -/
def set (m : OrderedMap κ β) (k : κ) (v : β) : OrderedMap κ β :=
  if h : m.has k then
    ⟨replace m.entries k v, by rw [keys_replace]; exact m.nodup⟩
  else
    ⟨m.entries ++ [(k, v)], by
      have hk : k ∉ m.entries.map Prod.fst := by
        intro hmem
        obtain ⟨e, he, rfl⟩ := List.mem_map.mp hmem
        exact h (List.any_eq_true.mpr ⟨e, he, by simp⟩)
      simpa [List.nodup_append] using
        ⟨m.nodup, fun a b hab hak => hk (hak ▸ List.mem_map.mpr ⟨_, hab, rfl⟩)⟩⟩

/-- A key is present iff an entry has it. -/
theorem has_iff {m : OrderedMap κ β} {k : κ} : m.has k = true ↔ ∃ v, (k, v) ∈ m.entries := by
  simp only [has, List.any_eq_true, decide_eq_true_eq]
  constructor
  · rintro ⟨⟨k', v⟩, hmem, rfl⟩
    exact ⟨v, hmem⟩
  · rintro ⟨v, hmem⟩
    exact ⟨(k, v), hmem, rfl⟩

/-- A lookup answers exactly the entries. -/
theorem get_eq_some {m : OrderedMap κ β} {k : κ} {v : β} :
    m.get k = some v ↔ (k, v) ∈ m.entries := by
  unfold get
  obtain ⟨es, hnd⟩ := m
  dsimp only
  induction es with
  | nil => simp
  | cons e es ih =>
    have hnd' : (es.map Prod.fst).Nodup := (List.nodup_cons.mp hnd).2
    rw [List.find?_cons]
    by_cases he : e.1 = k
    · have hfresh : (k, v) ∉ es := fun hmem =>
        (List.nodup_cons.mp hnd).1 (he ▸ List.mem_map.mpr ⟨_, hmem, rfl⟩)
      simp only [he, decide_true, Option.map_some, Option.some.injEq, List.mem_cons]
      constructor
      · rintro rfl
        exact Or.inl (by rw [← he])
      · rintro (heq | hmem)
        · rw [← heq]
        · exact absurd hmem hfresh
    · simp only [he, decide_false, List.mem_cons]
      rw [ih hnd']
      constructor
      · exact Or.inr
      · rintro (rfl | hmem)
        · exact absurd rfl he
        · exact hmem

/-- A lookup that finds nothing. -/
theorem get_eq_none {m : OrderedMap κ β} {k : κ} : m.get k = none ↔ m.has k = false := by
  rw [← Option.not_isSome_iff_eq_none, Option.isSome_iff_exists, ← Bool.not_eq_true, has_iff]
  simp only [get_eq_some]

/-- `has` reads whether `get` finds a value. -/
theorem has_eq_isSome (m : OrderedMap κ β) (k : κ) : m.has k = (m.get k).isSome := by
  cases h : m.get k with
  | none => simpa using get_eq_none.mp h
  | some v => simpa using has_iff.mpr ⟨v, get_eq_some.mp h⟩

@[simp] theorem get_empty (k : κ) : (empty : OrderedMap κ β).get k = none := rfl

@[simp] theorem has_empty (k : κ) : (empty : OrderedMap κ β).has k = false := rfl

/-- The entries after a present key is set. -/
theorem entries_set_of_has {m : OrderedMap κ β} {k : κ} (h : m.has k = true) (v : β) :
    (m.set k v).entries = replace m.entries k v := by
  simp [set, h]

/-- The entries after a new key is set. -/
theorem entries_set_of_not_has {m : OrderedMap κ β} {k : κ} (h : m.has k = false) (v : β) :
    (m.set k v).entries = m.entries ++ [(k, v)] := by
  simp [set, h]

/-- The entries of a map after a key is set, whether it was present or not. -/
theorem mem_entries_set {m : OrderedMap κ β} {k k' : κ} {v v' : β} :
    (k', v') ∈ (m.set k v).entries ↔ (k' = k ∧ v' = v) ∨ (k' ≠ k ∧ (k', v') ∈ m.entries) := by
  cases hk : m.has k with
  | true =>
    obtain ⟨w, hw⟩ := has_iff.mp hk
    rw [entries_set_of_has hk]
    simp only [replace, List.mem_map]
    constructor
    · rintro ⟨e, he, heq⟩
      split at heq
      · exact Or.inl (by simpa [eq_comm] using heq)
      · subst heq
        exact Or.inr ⟨by assumption, he⟩
    · rintro (⟨rfl, rfl⟩ | ⟨hne, hmem⟩)
      · exact ⟨_, hw, by simp⟩
      · exact ⟨_, hmem, by simp [hne]⟩
  | false =>
    have hfresh : ∀ w, (k, w) ∉ m.entries := fun w hw => by
      simp [has_iff.mpr ⟨w, hw⟩] at hk
    rw [entries_set_of_not_has hk]
    simp only [List.mem_append, List.mem_singleton, Prod.mk.injEq]
    constructor
    · rintro (hmem | heq)
      · exact Or.inr ⟨fun h => hfresh v' (h ▸ hmem), hmem⟩
      · exact Or.inl heq
    · rintro (heq | ⟨-, hmem⟩)
      · exact Or.inr heq
      · exact Or.inl hmem

/-- A lookup after a key is set. -/
@[simp, grind =] theorem get_set (m : OrderedMap κ β) (k k' : κ) (v : β) :
    (m.set k v).get k' = if k' = k then some v else m.get k' := by
  apply Option.ext
  intro w
  rw [get_eq_some, mem_entries_set]
  split
  · rename_i h
    simp [h, eq_comm]
  · rename_i h
    simp [h, get_eq_some]

/-- The values after a present key is set: only the value of that key changes. -/
theorem values_set_of_has {m : OrderedMap κ β} {k : κ} (h : m.has k = true) (v : β) :
    (m.set k v).values = m.entries.map fun e => if e.1 = k then v else e.2 := by
  simp only [values, entries_set_of_has h, replace, List.map_map]
  apply List.map_congr_left
  intro e _
  simp only [Function.comp_apply]
  split <;> rfl

/-- The values after a new key is set. -/
theorem values_set_of_not_has {m : OrderedMap κ β} {k : κ} (h : m.has k = false) (v : β) :
    (m.set k v).values = m.values ++ [v] := by
  simp [values, entries_set_of_not_has h]

/-- The keys after a present key is set. -/
theorem keys_set_of_has {m : OrderedMap κ β} {k : κ} (h : m.has k = true) (v : β) :
    (m.set k v).keys = m.keys := by
  simp [keys, entries_set_of_has h]

/-- The entries that satisfy a test, in order. -/
def filter (m : OrderedMap κ β) (test : κ → β → Bool) : OrderedMap κ β :=
  ⟨m.entries.filter fun e => test e.1 e.2, m.nodup.sublist (List.filter_sublist.map Prod.fst)⟩

/-- A lookup among the entries that satisfy a test. -/
@[simp, grind =] theorem get_filter (m : OrderedMap κ β) (test : κ → β → Bool) (k : κ) :
    (m.filter test).get k = (m.get k).filter (test k) := by
  apply Option.ext
  intro v
  rw [get_eq_some, Option.filter_eq_some_iff, get_eq_some]
  exact List.mem_filter

/-- Drop the entry of a key. -/
def erase (m : OrderedMap κ β) (k : κ) : OrderedMap κ β := m.filter fun k' _ => k' ≠ k

/-- A lookup after a key is dropped. -/
@[simp, grind =] theorem get_erase (m : OrderedMap κ β) (k k' : κ) :
    (m.erase k).get k' = if k' = k then none else m.get k' := by
  unfold erase
  rw [get_filter]
  split
  · rename_i h
    cases m.get k' <;> simp [h]
  · rename_i h
    cases m.get k' <;> simp [h]

variable {γ : Type}

/-- Change every value in place. -/
def mapValues (f : β → γ) (m : OrderedMap κ β) : OrderedMap κ γ :=
  ⟨m.entries.map fun e => (e.1, f e.2), by
    simpa [List.map_map, Function.comp_def] using m.nodup⟩

omit [DecidableEq κ] in
@[simp] theorem values_mapValues (f : β → γ) (m : OrderedMap κ β) :
    (m.mapValues f).values = m.values.map f := by
  simp [values, mapValues, Function.comp_def]

omit [DecidableEq κ] in
@[simp] theorem keys_mapValues (f : β → γ) (m : OrderedMap κ β) :
    (m.mapValues f).keys = m.keys := by
  simp [keys, mapValues, Function.comp_def]

@[simp, grind =] theorem get_mapValues (f : β → γ) (m : OrderedMap κ β) (k : κ) :
    (m.mapValues f).get k = (m.get k).map f := by
  simp [get, mapValues, List.find?_map, Function.comp_def]

@[simp] theorem has_mapValues (f : β → γ) (m : OrderedMap κ β) (k : κ) :
    (m.mapValues f).has k = m.has k := by
  simp [has, mapValues, Function.comp_def]

/-- Setting a key and changing every value commute. -/
theorem mapValues_set (f : β → γ) (m : OrderedMap κ β) (k : κ) (v : β) :
    (m.set k v).mapValues f = (m.mapValues f).set k (f v) := by
  apply OrderedMap.ext
  cases hk : m.has k with
  | true =>
    rw [entries_set_of_has (by simpa using hk)]
    simp only [mapValues, entries_set_of_has hk, replace, List.map_map]
    apply List.map_congr_left
    intro e _
    simp only [Function.comp_apply]
    split <;> rfl
  | false =>
    rw [entries_set_of_not_has (by simpa using hk)]
    simp [mapValues, entries_set_of_not_has hk]

omit [DecidableEq κ] in
/-- What an entry binds is determined by its place among the keys. -/
theorem entries_eq_of_keys {es fs : List (κ × β)} (hkeys : es.map Prod.fst = fs.map Prod.fst)
    (hnd : (es.map Prod.fst).Nodup)
    (hmem : ∀ k v w, (k, v) ∈ es → (k, w) ∈ fs → v = w) : es = fs := by
  induction es generalizing fs with
  | nil => exact (List.map_eq_nil_iff.mp hkeys.symm).symm
  | cons e es ih =>
    cases fs with
    | nil => simp at hkeys
    | cons f fs =>
      obtain ⟨hhead, htail⟩ : e.1 = f.1 ∧ es.map Prod.fst = fs.map Prod.fst := by
        simpa using hkeys
      have hvalue : e.2 = f.2 :=
        hmem e.1 e.2 f.2 List.mem_cons_self (hhead ▸ List.mem_cons_self)
      have hrest : es = fs := ih htail (List.nodup_cons.mp hnd).2 fun k v w hv hw =>
        hmem k v w (List.mem_cons_of_mem _ hv) (List.mem_cons_of_mem _ hw)
      rw [hrest, Prod.ext hhead hvalue]

/-- **Extensionality.** Two maps with the same keys in the same order that answer every
lookup alike are equal. -/
theorem ext_get {m n : OrderedMap κ β} (hkeys : m.keys = n.keys)
    (hget : ∀ k, m.get k = n.get k) : m = n := by
  refine ext (entries_eq_of_keys hkeys m.nodup fun k v w hv hw => ?_)
  have h := hget k
  rw [get_eq_some.mpr hv, get_eq_some.mpr hw] at h
  exact Option.some.inj h

/-- A value is listed iff some key is bound to it. -/
theorem mem_values_iff_get {m : OrderedMap κ β} {v : β} :
    v ∈ m.values ↔ ∃ k, m.get k = some v := by
  simp only [mem_values, get_eq_some]

end OrderedMap

end Xygo.Computation
