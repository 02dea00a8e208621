import Mathlib.Tactic.Common

/-!
# Linked lists of records

A list of records each of which fits a mark of the record before it: a hash chain, a log with
back references. Such a list grows at its end, and stays linked iff what is appended fits the
mark of the last record.
-/

set_option autoImplicit false

namespace Xygo.Computation

section

variable {α σ : Type} (fits : Option σ → α → Prop) (mark : α → σ)

/-- Every record fits the mark of the one before it, and the first one fits `previous`. -/
def Linked : Option σ → List α → Prop
  | _, [] => True
  | previous, a :: rest => fits previous a ∧ Linked (some (mark a)) rest

/-- The mark a next record has to fit. -/
def lastMark (previous : Option σ) (l : List α) : Option σ :=
  (l.getLast?.map mark).or previous

@[simp] theorem linked_nil (previous : Option σ) : Linked fits mark previous [] := trivial

@[simp] theorem linked_cons (previous : Option σ) (a : α) (rest : List α) :
    Linked fits mark previous (a :: rest) ↔
      fits previous a ∧ Linked fits mark (some (mark a)) rest :=
  Iff.rfl

@[simp] theorem lastMark_nil (previous : Option σ) : lastMark mark previous [] = previous := rfl

/-- A list that is not empty has a mark of its own. -/
@[simp] theorem lastMark_cons (previous : Option σ) (a : α) (rest : List α) :
    lastMark mark previous (a :: rest) = lastMark mark (some (mark a)) rest := by
  cases rest with
  | nil => rfl
  | cons b rest => simp [lastMark, List.getLast?_cons]

/-- A list that starts the chain ends it with the mark of its last record. -/
theorem lastMark_none (l : List α) : lastMark mark none l = l.getLast?.map mark := by
  simp [lastMark]

/-- The mark after a record that was appended is its own. -/
theorem lastMark_concat (previous : Option σ) (l : List α) (a : α) :
    lastMark mark previous (l ++ [a]) = some (mark a) := by
  simp [lastMark]

/-- **Chains join** where the second one starts from the last mark of the first. -/
theorem linked_append (previous : Option σ) (l k : List α) :
    Linked fits mark previous (l ++ k) ↔
      Linked fits mark previous l ∧ Linked fits mark (lastMark mark previous l) k := by
  induction l generalizing previous with
  | nil => simp
  | cons a l ih => simp [ih, and_assoc]

/-- A chain grows by a record that fits its last mark. -/
theorem linked_concat (previous : Option σ) (l : List α) (a : α) :
    Linked fits mark previous (l ++ [a]) ↔
      Linked fits mark previous l ∧ fits (lastMark mark previous l) a := by
  simp [linked_append]

end

end Xygo.Computation
