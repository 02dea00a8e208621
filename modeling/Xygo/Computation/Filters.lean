import Mathlib.Tactic.Common
import Mathlib.Data.List.Basic

/-!
# Filters whose test may fail

A loop that keeps the elements a test accepts, where the test may fail and the first failure ends
the loop. The rule used of it: the loop has a result exactly where every test has one, and it is
then the filter by these (`filterE_of_ok`, `ok_of_filterE`).
-/

set_option autoImplicit false

namespace Xygo.Computation

variable {α ε : Type}

/-- The elements a test accepts; the first test that fails ends it. -/
def filterE (test : α → Except ε Bool) : List α → Except ε (List α)
  | [] => .ok []
  | a :: as => do
    let keep ← test a
    let rest ← filterE test as
    return if keep then a :: rest else rest

/-- Where every test has a result, the loop is a filter. -/
theorem filterE_of_ok {test : α → Except ε Bool} {keep : α → Bool} {as : List α}
    (h : ∀ a ∈ as, test a = .ok (keep a)) : filterE test as = .ok (as.filter keep) := by
  induction as with
  | nil => rfl
  | cons a as ih =>
    have hhead := h a List.mem_cons_self
    have htail := ih fun b hb => h b (List.mem_cons_of_mem _ hb)
    rw [filterE, hhead, htail, List.filter_cons]
    rfl

/-- Where the loop has a result, every test has one. -/
theorem ok_of_filterE {test : α → Except ε Bool} {as kept : List α}
    (h : filterE test as = .ok kept) : ∀ a ∈ as, ∃ keep, test a = .ok keep := by
  induction as generalizing kept with
  | nil =>
    intro a ha
    cases ha
  | cons a as ih =>
    rw [filterE] at h
    cases hhead : test a with
    | error e =>
      rw [hhead] at h
      cases h
    | ok keep =>
      rw [hhead] at h
      cases htail : filterE test as with
      | error e =>
        rw [htail] at h
        cases h
      | ok rest =>
        intro b hb
        obtain rfl | hb := List.mem_cons.mp hb
        · exact ⟨keep, hhead⟩
        · exact ih htail b hb

/-- Loops over the same elements with tests that agree on them agree. -/
theorem filterE_congr {test other : α → Except ε Bool} {as : List α}
    (h : ∀ a ∈ as, test a = other a) : filterE test as = filterE other as := by
  induction as with
  | nil => rfl
  | cons a as ih =>
    rw [filterE, filterE, h a List.mem_cons_self, ih fun b hb => h b (List.mem_cons_of_mem _ hb)]

end Xygo.Computation
