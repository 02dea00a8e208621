import Mathlib

/-!
# Aggregates over groups

A query that groups its rows by a key answers with one row for each key that occurs, in no order
the program may rely on. An aggregate is the combination of a value of each row under a
commutative and associative operation with an identity: a count, a sum, the least of the values.
What is combined for each group and then over the groups is what is combined over the rows
(`Grouping.aggregate_groups`), and a table that is filled with the count of each group is the
table of counts (`Grouping.counts_groups`).
-/

set_option autoImplicit false

namespace Xygo.Computation

variable {α β κ : Type}

/-- The values of the rows, combined. -/
def aggregate (op : β → β → β) (e : β) (f : α → β) (rows : List α) : β :=
  rows.foldl (fun total row => op total (f row)) e

/-- `count(*) FILTER (WHERE p)` -/
def countFiltered (p : α → Bool) (rows : List α) : ℕ :=
  aggregate (· + ·) 0 (fun row => if p row then 1 else 0) rows

/-- `min(value) FILTER (WHERE p)`: there is none where no row is counted. -/
def minFiltered (p : α → Bool) (value : α → ℤ) (rows : List α) : Option ℤ :=
  aggregate (Option.merge min) none (fun row => if p row then some (value row) else none) rows

section

variable {op : β → β → β} {e : β} [Std.Associative op] [Std.LawfulIdentity op e]

/-- A loop that starts from a value combines it with the rest. -/
theorem foldl_aggregate (f : α → β) (rows : List α) (start : β) :
    rows.foldl (fun total row => op total (f row)) start = op start (aggregate op e f rows) := by
  induction rows generalizing start with
  | nil => exact (Std.LawfulRightIdentity.right_id start).symm
  | cons row rows ih =>
    have hfirst : op e (f row) = f row := Std.LawfulLeftIdentity.left_id (f row)
    have hrest : aggregate op e f (row :: rows) = op (f row) (aggregate op e f rows) := by
      rw [aggregate, List.foldl_cons, hfirst, ih]
    have hassoc : ∀ a b c, op (op a b) c = op a (op b c) := Std.Associative.assoc
    rw [List.foldl_cons, ih, hrest, hassoc]

theorem aggregate_cons (f : α → β) (row : α) (rows : List α) :
    aggregate op e f (row :: rows) = op (f row) (aggregate op e f rows) := by
  have hfirst : op e (f row) = f row := Std.LawfulLeftIdentity.left_id (f row)
  rw [aggregate, List.foldl_cons, hfirst, foldl_aggregate (e := e)]

theorem aggregate_append (f : α → β) (rows others : List α) :
    aggregate op e f (rows ++ others) = op (aggregate op e f rows) (aggregate op e f others) := by
  rw [aggregate, List.foldl_append]
  exact foldl_aggregate f others _

/-- The parts of a table, one after the other. -/
theorem aggregate_flatMap (f : α → β) (part : κ → List α) (keys : List κ) :
    aggregate op e f (keys.flatMap part) =
      aggregate op e (fun key => aggregate op e f (part key)) keys := by
  induction keys with
  | nil => rfl
  | cons key keys ih => rw [List.flatMap_cons, aggregate_append, ih, aggregate_cons]

/-- The order of the rows does not matter. -/
theorem aggregate_perm [Std.Commutative op] (f : α → β) {rows others : List α}
    (h : rows.Perm others) : aggregate op e f rows = aggregate op e f others := by
  induction h with
  | nil => rfl
  | cons row _ ih => rw [aggregate_cons, aggregate_cons, ih]
  | swap first second rows =>
    have hassoc : ∀ a b c, op (op a b) c = op a (op b c) := Std.Associative.assoc
    have hcomm : op (f second) (f first) = op (f first) (f second) := Std.Commutative.comm _ _
    rw [aggregate_cons, aggregate_cons, aggregate_cons, aggregate_cons, ← hassoc, hcomm, hassoc]
  | trans _ _ ih₁ ih₂ => rw [ih₁, ih₂]

end

/-- A count is the number of the rows that are counted. -/
theorem countFiltered_eq (p : α → Bool) (rows : List α) : countFiltered p rows = rows.countP p := by
  induction rows with
  | nil => rfl
  | cons row rows ih =>
    rw [countFiltered, aggregate_cons, ← countFiltered, ih, List.countP_cons, Nat.add_comm]

section

variable [DecidableEq κ]

/-- The rows of a key. -/
def group (key : α → κ) (rows : List α) (k : κ) : List α := rows.filter fun row => key row = k

/-- The order in which a query answers with the groups of its rows: each key that occurs, once. -/
structure Grouping (key : α → κ) (rows : List α) where
  keys : List κ
  nodup : keys.Nodup
  mem_keys : ∀ k, k ∈ keys ↔ ∃ row ∈ rows, key row = k

variable {key : α → κ} {rows : List α}

/-- The groups of distinct keys are the rows with one of the keys. -/
theorem flatMap_group_perm {keys : List κ} (hkeys : keys.Nodup) :
    (keys.flatMap (group key rows)).Perm (rows.filter fun row => key row ∈ keys) := by
  induction keys with
  | nil => simp
  | cons k keys ih =>
    obtain ⟨hk, hrest⟩ := List.nodup_cons.mp hkeys
    have hsplit := List.filter_append_perm (fun row => key row = k)
      (rows.filter fun row => key row ∈ k :: keys)
    have hfirst : (rows.filter fun row => key row ∈ k :: keys).filter (fun row => key row = k) =
        group key rows k := by
      rw [List.filter_filter]
      refine List.filter_congr fun row _ => ?_
      by_cases h : key row = k
      · simp [h]
      · simp [h]
    have hsecond : (rows.filter fun row => key row ∈ k :: keys).filter
        (fun row => !decide (key row = k)) = rows.filter fun row => key row ∈ keys := by
      rw [List.filter_filter]
      refine List.filter_congr fun row _ => ?_
      by_cases h : key row = k
      · simp [h, hk]
      · simp [h]
    rw [hfirst, hsecond] at hsplit
    rw [List.flatMap_cons]
    exact ((ih hrest).append_left _).trans hsplit

namespace Grouping

variable (g : Grouping key rows)

/-- **The groups are the rows, in some order.** -/
theorem perm : (g.keys.flatMap (group key rows)).Perm rows := by
  have h := @flatMap_group_perm _ _ _ key rows _ g.nodup
  rwa [List.filter_eq_self.mpr] at h
  intro row hrow
  simpa using (g.mem_keys (key row)).mpr ⟨row, hrow, rfl⟩

/-- **What is combined for each group and over the groups is what is combined over the rows.** -/
theorem aggregate_groups {op : β → β → β} {e : β} [Std.Associative op] [Std.LawfulIdentity op e]
    [Std.Commutative op] (f : α → β) :
    aggregate op e (fun k => aggregate op e f (group key rows k)) g.keys =
      aggregate op e f rows := by
  rw [← aggregate_flatMap, aggregate_perm f g.perm]

/-- A key that does not occur has no rows. -/
theorem group_eq_nil {k : κ} (h : k ∉ g.keys) : group key rows k = [] := by
  rw [group, List.filter_eq_nil_iff]
  intro row hrow hkey
  exact h ((g.mem_keys k).mpr ⟨row, hrow, by simpa using hkey⟩)

end Grouping

/-- Entries that are written once for each of some distinct keys. -/
theorem foldl_update_apply (value : κ → β) {keys : List κ} (hkeys : keys.Nodup)
    (table : κ → β) (k : κ) :
    keys.foldl (fun table key => Function.update table key (value key)) table k =
      if k ∈ keys then value k else table k := by
  induction keys generalizing table with
  | nil => simp
  | cons first keys ih =>
    obtain ⟨hfirst, hrest⟩ := List.nodup_cons.mp hkeys
    rw [List.foldl_cons, ih hrest]
    by_cases hk : k = first
    · subst hk
      simp [hfirst]
    · simp [hk]

/-- **A table that is filled from the groups counts the rows of each key.** -/
theorem Grouping.counts_groups (g : Grouping key rows) :
    g.keys.foldl (fun counts k => Function.update counts k (group key rows k).length)
      (fun _ => 0) = fun k => rows.countP fun row => key row = k := by
  funext k
  rw [foldl_update_apply _ g.nodup, List.countP_eq_length_filter]
  by_cases hk : k ∈ g.keys
  · rw [if_pos hk]
    rfl
  · rw [if_neg hk]
    exact (congrArg List.length (g.group_eq_nil hk)).symm

end

/-- Two counts, one of rows the other counts too, agree iff the rows are the same. -/
theorem countP_eq_iff {p q : α → Bool} {rows : List α}
    (hle : ∀ row ∈ rows, p row = true → q row = true) :
    rows.countP p = rows.countP q ↔ ∀ row ∈ rows, q row = true → p row = true := by
  induction rows with
  | nil => simp
  | cons row rows ih =>
    have hrest := ih fun other hother => hle other (List.mem_cons_of_mem row hother)
    have hless : rows.countP p ≤ rows.countP q :=
      List.countP_mono_left fun other hother => hle other (List.mem_cons_of_mem row hother)
    have hrow := hle row List.mem_cons_self
    rw [List.countP_cons, List.countP_cons, List.forall_mem_cons, ← hrest]
    cases hp : p row with
    | true => simp [hrow hp]
    | false =>
      cases hq : q row with
      | true =>
        simp only [Bool.false_eq_true, if_false, if_true, forall_const, false_and, iff_false]
        omega
      | false => simp

end Xygo.Computation
