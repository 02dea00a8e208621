import Mathlib.Tactic.Common
import Mathlib.Data.List.Basic

/-!
# Fields joined with a separator

What a text tells of the fields it was joined from, where a field may contain the separator
itself: the pieces between separators, and no more. Two lists of fields give the same text iff
they fall into the same pieces, and the same pieces come from the same fields iff every field
has as many separators in one list as in the other.
-/

set_option autoImplicit false

namespace Xygo.Computation

variable {α : Type} [DecidableEq α] (sep : α)

/-- The pieces of a list of fields, cut at every separator. -/
def cut (fields : List (List α)) : List (List α) := fields.flatMap (List.splitOn sep)

@[simp] theorem cut_nil : cut sep [] = [] := rfl

@[simp] theorem cut_cons (field : List α) (fields : List (List α)) :
    cut sep (field :: fields) = field.splitOn sep ++ cut sep fields := by
  simp [cut]

/-- A field has one piece more than it has separators. -/
theorem length_splitOn (field : List α) : (field.splitOn sep).length = field.count sep + 1 := by
  induction field with
  | nil => simp
  | cons a field ih =>
    rw [List.splitOn_cons_eq_if_modifyHead, List.count_cons]
    split <;> simp_all

/-- Cutting what was joined. -/
theorem splitOn_intercalate_cut {fields : List (List α)} (hne : fields ≠ []) :
    ([sep].intercalate fields).splitOn sep = cut sep fields := by
  induction fields with
  | nil => exact absurd rfl hne
  | cons field fields ih =>
    cases fields with
    | nil => simp
    | cons next fields =>
      rw [List.intercalate_cons_cons, cut_cons, ← ih (List.cons_ne_nil _ _)]
      simp only [List.append_assoc, List.singleton_append]
      exact List.splitOn_append_cons_self _ _

/-- **Same text, same pieces.** -/
theorem intercalate_eq_iff {xs ys : List (List α)} (hxs : xs ≠ []) (hys : ys ≠ []) :
    [sep].intercalate xs = [sep].intercalate ys ↔ cut sep xs = cut sep ys := by
  rw [← splitOn_intercalate_cut sep hxs, ← splitOn_intercalate_cut sep hys]
  constructor
  · intro heq
    rw [heq]
  · intro hcut
    have hjoined (fields : List α) : fields = [sep].intercalate (fields.splitOn sep) :=
      (List.intercalate_splitOn sep).symm
    rw [hjoined ([sep].intercalate xs), hcut, ← hjoined]

/-- **Same pieces, same fields**, where the separators of every field are as many. -/
theorem eq_of_cut {xs ys : List (List α)} (hcut : cut sep xs = cut sep ys)
    (hcounts : xs.map (List.count sep) = ys.map (List.count sep)) : xs = ys := by
  induction xs generalizing ys with
  | nil =>
    cases ys with
    | nil => rfl
    | cons y ys => cases hcounts
  | cons x xs ih =>
    cases ys with
    | nil => cases hcounts
    | cons y ys =>
      rw [List.map_cons, List.map_cons] at hcounts
      obtain ⟨hcount, hrest⟩ := List.cons.inj hcounts
      have hlength : (x.splitOn sep).length = (y.splitOn sep).length := by
        rw [length_splitOn, length_splitOn, hcount]
      rw [cut_cons, cut_cons] at hcut
      obtain ⟨hfirst, hothers⟩ := List.append_inj hcut hlength
      have hfield : x = y := by
        have hjoined := congrArg [sep].intercalate hfirst
        rwa [List.intercalate_splitOn, List.intercalate_splitOn] at hjoined
      rw [hfield, ih hothers hrest]

end Xygo.Computation
