import Mathlib.Tactic.Common
import Mathlib.Data.List.Nodup

/-!
# Tables of records stored under their own key

A `Table key` is a map in insertion order that stores each record under the key it
carries: a lookup answers a record with that key, and a scan sees each record once.
Putting a record replaces the one with its key in place, or appends it.
-/

set_option autoImplicit false

namespace Xygo.Computation

/-- Records in insertion order, no two of them with the same key. -/
structure Table {κ β : Type} (key : β → κ) where
  values : List β
  nodup : (values.map key).Nodup

namespace Table

variable {κ β : Type} {key : β → κ}

@[ext] theorem ext {s t : Table key} (h : s.values = t.values) : s = t := by
  cases s; cases t; cases h; rfl

/-- The table without records. -/
def empty : Table key := ⟨[], by simp⟩

@[simp] theorem values_empty : (empty : Table key).values = [] := rfl

/-- Two records of a table with one key are one record. -/
theorem eq_of_key {t : Table key} {v w : β} (hv : v ∈ t.values) (hw : w ∈ t.values)
    (h : key v = key w) : v = w :=
  List.inj_on_of_nodup_map t.nodup hv hw h

/-- The records that pass a test. -/
def filter (p : β → Bool) (t : Table key) : Table key :=
  ⟨t.values.filter p, t.nodup.sublist (List.filter_sublist.map key)⟩

@[simp] theorem values_filter (p : β → Bool) (t : Table key) :
    (t.filter p).values = t.values.filter p := rfl

variable [DecidableEq κ]

/-- The record stored under a key. -/
def get (t : Table key) (k : κ) : Option β := t.values.find? fun v => key v = k

/-- Whether a record is stored under a key. -/
def has (t : Table key) (k : κ) : Bool := (t.get k).isSome

@[simp] theorem get_empty (k : κ) : (empty : Table key).get k = none := rfl

/-- A lookup answers a record of the table that has the key. -/
theorem get_eq_some {t : Table key} {k : κ} {v : β} :
    t.get k = some v ↔ v ∈ t.values ∧ key v = k := by
  unfold get
  constructor
  · intro h
    exact ⟨List.mem_of_find?_eq_some h, by simpa using List.find?_some h⟩
  · rintro ⟨hmem, hkey⟩
    cases hf : t.values.find? fun w => decide (key w = k) with
    | none => simpa [hkey] using List.find?_eq_none.mp hf v hmem
    | some w =>
      have hwk : key w = k := by simpa using List.find?_some hf
      rw [eq_of_key hmem (List.mem_of_find?_eq_some hf) (hkey.trans hwk.symm)]

/-- A lookup that finds nothing. -/
theorem get_eq_none {t : Table key} {k : κ} : t.get k = none ↔ ∀ v ∈ t.values, key v ≠ k := by
  simp [get, List.find?_eq_none]

/-- Every record is found under its own key. -/
theorem get_key {t : Table key} {v : β} (h : v ∈ t.values) : t.get (key v) = some v :=
  get_eq_some.mpr ⟨h, rfl⟩

/-- What a lookup answers has the key that was looked up. -/
theorem key_of_get {t : Table key} {k : κ} {v : β} (h : t.get k = some v) : key v = k :=
  (get_eq_some.mp h).2

/-- The records after one with the same key is replaced. -/
def replace (v : β) (vs : List β) : List β := vs.map fun w => if key w = key v then v else w

omit [DecidableEq κ] in
private theorem map_key_congr {f : β → β} (hf : ∀ w, key (f w) = key w) (vs : List β) :
    (vs.map f).map key = vs.map key := by
  simp [List.map_map, Function.comp_def, hf]

/-- Replacing keeps the keys. -/
theorem map_key_replace (v : β) (vs : List β) :
    (@replace κ β key _ v vs).map key = vs.map key := by
  apply map_key_congr
  intro w
  split
  · rename_i h
    exact h.symm
  · rfl

/-- Store a record under its key: in place of the one stored there, or at the end. -/
def put (t : Table key) (v : β) : Table key :=
  if h : t.has (key v) then ⟨@replace κ β key _ v t.values, by
    rw [map_key_replace]
    exact t.nodup⟩
  else ⟨t.values ++ [v], by
    have hnone : t.get (key v) = none := by simpa [has] using h
    have hfresh : key v ∉ t.values.map key := by
      rintro hmem
      obtain ⟨w, hw, hkey⟩ := List.mem_map.mp hmem
      exact get_eq_none.mp hnone w hw hkey
    rw [List.map_append, List.nodup_append]
    refine ⟨t.nodup, by simp, ?_⟩
    rintro a ha b hb rfl
    obtain rfl : a = key v := by simpa using hb
    exact hfresh ha⟩

/-- The records after one that is present is put. -/
theorem values_put_of_has {t : Table key} {v : β} (h : t.has (key v) = true) :
    (t.put v).values = @replace κ β key _ v t.values := by
  simp [put, h]

/-- The records after a new one is put. -/
theorem values_put_of_not_has {t : Table key} {v : β} (h : t.has (key v) = false) :
    (t.put v).values = t.values ++ [v] := by
  simp [put, h]

/-- The records of a table after one is put: it, and those with other keys. -/
theorem mem_values_put {t : Table key} {v w : β} :
    w ∈ (t.put v).values ↔ w = v ∨ (w ∈ t.values ∧ key w ≠ key v) := by
  cases h : t.has (key v) with
  | true =>
    obtain ⟨u, hu⟩ := Option.isSome_iff_exists.mp h
    obtain ⟨humem, hukey⟩ := get_eq_some.mp hu
    rw [values_put_of_has h]
    simp only [replace, List.mem_map]
    constructor
    · rintro ⟨x, hx, hxw⟩
      split at hxw
      · exact Or.inl hxw.symm
      · subst hxw
        exact Or.inr ⟨hx, by assumption⟩
    · rintro (rfl | ⟨hw, hne⟩)
      · exact ⟨u, humem, by simp [hukey]⟩
      · exact ⟨w, hw, by simp [hne]⟩
  | false =>
    have hnone : t.get (key v) = none := by simpa [has] using h
    rw [values_put_of_not_has h]
    simp only [List.mem_append, List.mem_singleton]
    constructor
    · rintro (hw | rfl)
      · exact Or.inr ⟨hw, get_eq_none.mp hnone w hw⟩
      · exact Or.inl rfl
    · rintro (rfl | ⟨hw, -⟩)
      · exact Or.inr rfl
      · exact Or.inl hw

/-- A lookup after a record is put. -/
@[simp, grind =] theorem get_put (t : Table key) (v : β) (k : κ) :
    (t.put v).get k = if k = key v then some v else t.get k := by
  apply Option.ext
  intro w
  rw [get_eq_some, mem_values_put]
  split
  · rename_i h
    subst h
    constructor
    · rintro ⟨rfl | ⟨-, hne⟩, hkey⟩
      · rfl
      · exact absurd hkey hne
    · rintro ⟨⟩
      exact ⟨Or.inl rfl, rfl⟩
  · rename_i h
    rw [get_eq_some]
    constructor
    · rintro ⟨rfl | ⟨hw, -⟩, hkey⟩
      · exact absurd hkey.symm h
      · exact ⟨hw, hkey⟩
    · rintro ⟨hw, hkey⟩
      exact ⟨Or.inr ⟨hw, fun he => h (hkey.symm.trans he)⟩, hkey⟩

/-- Putting a record adds its key and no other. -/
@[simp, grind =] theorem has_put (t : Table key) (v : β) (k : κ) :
    (t.put v).has k = (decide (k = key v) || t.has k) := by
  unfold has
  rw [get_put]
  by_cases h : k = key v <;> simp [h]

/-- A lookup among the records that pass a test. -/
@[simp, grind =] theorem get_filter (t : Table key) (p : β → Bool) (k : κ) :
    (t.filter p).get k = (t.get k).filter p := by
  apply Option.ext
  intro w
  rw [get_eq_some, Option.filter_eq_some_iff, get_eq_some]
  simp only [values_filter, List.mem_filter]
  tauto

/-- A search by a test that the replaced record and the new one both pass finds the new one
where it found the other. -/
theorem find?_values_put {t : Table key} {p : β → Bool} {v w : β}
    (hfind : t.values.find? p = some v) (hkey : key w = key v) (hp : p w = true) :
    (t.put w).values.find? p = some w := by
  have hmem : v ∈ t.values := List.mem_of_find?_eq_some hfind
  have hhas : t.has (key w) = true := by
    rw [hkey, has, get_key hmem]
    rfl
  rw [values_put_of_has hhas]
  have hinj : ∀ u ∈ t.values, key u = key w → u = v := fun u hu h =>
    eq_of_key hu hmem (h.trans hkey)
  generalize t.values = vs at hfind hinj
  induction vs with
  | nil => simp at hfind
  | cons u us ih =>
    simp only [replace, List.map_cons, List.find?_cons] at hfind ⊢ ih
    by_cases hu : key u = key w
    · simp [hu, hp]
    · cases hpu : p u with
      | true =>
        rw [hpu] at hfind
        obtain rfl : u = v := by simpa using hfind
        exact absurd hkey.symm hu
      | false =>
        rw [hpu] at hfind
        simp only [hu, if_false, hpu]
        exact ih hfind fun x hx => hinj x (List.mem_cons_of_mem _ hx)

end Table

end Xygo.Computation
