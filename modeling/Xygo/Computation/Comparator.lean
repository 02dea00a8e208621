import Mathlib.Data.List.Sort
import Mathlib.Data.Int.Order.Basic

/-!
# Sorting by a comparison that may have ties

A comparison returns a number whose sign orders two keys, consistently, but it may rank different
keys equal. The stable sort by such a comparison gives one list for all permutations of a list
exactly when no two of its elements with different keys compare equal (`sortBy_perm_invariant_iff`):
of two that do, the one that came first stays first.
-/

set_option autoImplicit false

namespace Xygo.Computation

/-- A consistent comparison: total, transitive, its sign turned round with its arguments. -/
structure Comparator (α : Type) where
  compare : α → α → Int
  sign : ∀ a b, (compare b a).sign = -(compare a b).sign
  trans : ∀ a b c, compare a b ≤ 0 → compare b c ≤ 0 → compare a c ≤ 0

namespace Comparator

variable {α β : Type} (C : Comparator α)

theorem compare_self (a : α) : C.compare a a = 0 := by
  have h := C.sign a a
  have hzero : (C.compare a a).sign = 0 := by omega
  exact Int.sign_eq_zero_iff_zero.mp hzero

variable {C} in
/-- One of two keys is not behind the other. -/
theorem compare_swap {a b : α} (h : ¬ C.compare a b ≤ 0) : C.compare b a ≤ 0 := by
  have hpos : (C.compare a b).sign = 1 := Int.sign_eq_one_of_pos (by omega)
  have hneg : (C.compare b a).sign = -1 := by rw [C.sign, hpos]
  have := Int.neg_of_sign_eq_neg_one hneg
  omega

variable {C} in
/-- Keys of which neither is behind the other compare equal. -/
theorem compare_eq_zero {a b : α} (h : C.compare a b ≤ 0) (h' : C.compare b a ≤ 0) :
    C.compare a b = 0 := by
  by_contra hne
  have hneg : (C.compare a b).sign = -1 := Int.sign_eq_neg_one_of_neg (by omega)
  have hpos : (C.compare b a).sign = 1 := by rw [C.sign, hneg]; rfl
  have := Int.pos_of_sign_eq_one hpos
  omega

variable {C} in
theorem compare_comm {a b : α} (h : C.compare a b = 0) : C.compare b a = 0 := by
  have hsign := C.sign a b
  rw [h] at hsign
  exact Int.sign_eq_zero_iff_zero.mp (by simpa using hsign)

section keys

variable {κ : Type} [LinearOrder κ]

/-- The comparison of two keys of a linear order. -/
def keyCompare (a b : κ) : Int := if a < b then -1 else if b < a then 1 else 0

theorem keyCompare_le_iff (a b : κ) : keyCompare a b ≤ 0 ↔ a ≤ b := by
  unfold keyCompare
  rcases lt_trichotomy a b with h | h | h
  · simp [h, h.le]
  · simp [h]
  · simp [h, not_lt_of_gt h]

theorem keyCompare_sign (a b : κ) : (keyCompare b a).sign = -(keyCompare a b).sign := by
  unfold keyCompare
  rcases lt_trichotomy a b with h | h | h
  · simp [h, not_lt_of_gt h]
  · simp [h]
  · simp [h, not_lt_of_gt h]

theorem keyCompare_trans {a b c : κ} (hab : keyCompare a b ≤ 0) (hbc : keyCompare b c ≤ 0) :
    keyCompare a c ≤ 0 := by
  rw [keyCompare_le_iff] at hab hbc ⊢
  exact hab.trans hbc

/-- The comparison of anything by keys of a linear order. -/
def ofKey (key : α → κ) : Comparator α where
  compare a b := keyCompare (key a) (key b)
  sign a b := keyCompare_sign (key a) (key b)
  trans _ _ _ := keyCompare_trans

end keys

variable (key : β → α)

/-- Whether an element may stand before another. -/
def le (a b : β) : Bool := C.compare (key a) (key b) ≤ 0

theorem le_iff (a b : β) : C.le key a b = true ↔ C.compare (key a) (key b) ≤ 0 := by simp [le]

theorem le_trans (a b c : β) (hab : C.le key a b = true) (hbc : C.le key b c = true) :
    C.le key a c = true := by
  rw [le_iff] at hab hbc ⊢
  exact C.trans _ _ _ hab hbc

theorem le_total (a b : β) : (C.le key a b || C.le key b a) = true := by
  by_cases h : C.compare (key a) (key b) ≤ 0
  · simp [le, h]
  · simp [le, compare_swap h]

/-- The stable sort of a list by the comparison of its elements' keys. -/
def sortBy (elements : List β) : List β := elements.mergeSort (C.le key)

theorem sortBy_perm (elements : List β) : (C.sortBy key elements).Perm elements :=
  List.mergeSort_perm _ _

theorem sortBy_sorted (elements : List β) :
    (C.sortBy key elements).Pairwise fun a b => C.compare (key a) (key b) ≤ 0 :=
  (List.pairwise_mergeSort (C.le_trans key) (C.le_total key) elements).imp
    fun h => (C.le_iff key _ _).mp h

/-- Where equal comparisons mean equal elements, the order of the list does not matter. -/
theorem sortBy_eq_of_perm {xs ys : List β} (hperm : xs.Perm ys)
    (hsep : ∀ a ∈ xs, ∀ b ∈ xs, C.compare (key a) (key b) = 0 → a = b) :
    C.sortBy key xs = C.sortBy key ys := by
  refine List.Perm.eq_of_pairwise ?_ (C.sortBy_sorted key xs) (C.sortBy_sorted key ys)
    ((C.sortBy_perm key xs).trans (hperm.trans (C.sortBy_perm key ys).symm))
  intro a b ha hb hab hba
  have hax := (C.sortBy_perm key xs).mem_iff.mp ha
  have hbx := hperm.mem_iff.mpr ((C.sortBy_perm key ys).mem_iff.mp hb)
  exact hsep a hax b hbx (compare_eq_zero hab hba)

/-- Of two elements that compare equal, the first stays first. -/
theorem pair_sublist_sortBy {a b : β} {elements : List β}
    (htie : C.compare (key a) (key b) = 0) (h : [a, b].Sublist elements) :
    [a, b].Sublist (C.sortBy key elements) :=
  List.pair_sublist_mergeSort (C.le_trans key) (C.le_total key)
    ((C.le_iff key a b).mpr htie.le) h

/-- In a list without repetitions two elements stand in one order. -/
theorem not_pair_sublist_swap {a b : β} {elements : List β} (hnodup : elements.Nodup)
    (hab : [a, b].Sublist elements) : ¬ [b, a].Sublist elements := by
  induction elements with
  | nil => simp at hab
  | cons c rest ih =>
    obtain ⟨hc, hrest⟩ := List.nodup_cons.mp hnodup
    intro hba
    rcases List.sublist_cons_iff.mp hab with hfront | ⟨r, hr, hfront⟩
    · rcases List.sublist_cons_iff.mp hba with hback | ⟨r', hr', hback⟩
      · exact ih hrest hfront hback
      · obtain ⟨rfl, rfl⟩ := List.cons.inj hr'
        exact hc (hfront.subset (by simp))
    · obtain ⟨rfl, rfl⟩ := List.cons.inj hr
      rcases List.sublist_cons_iff.mp hba with hback | ⟨r', hr', hback⟩
      · exact hc (hback.subset (by simp))
      · obtain ⟨rfl, rfl⟩ := List.cons.inj hr'
        exact hc (hback.subset (by simp))

/-- Of two different elements of a list that compare equal, either can come first once it is
sorted. -/
theorem exists_perms_of_tie {a b : β} {elements : List β} (hnodup : elements.Nodup)
    (ha : a ∈ elements) (hb : b ∈ elements) (hne : a ≠ b)
    (htie : C.compare (key a) (key b) = 0) :
    ∃ xs ys, elements.Perm xs ∧ elements.Perm ys ∧ C.sortBy key xs ≠ C.sortBy key ys := by
  classical
  have hb' : b ∈ elements.erase a := (List.mem_erase_of_ne hne.symm).mpr hb
  let rest := (elements.erase a).erase b
  have hrest : elements.Perm (a :: b :: rest) :=
    (List.perm_cons_erase ha).trans ((List.perm_cons_erase hb').cons a)
  have hswap : elements.Perm (b :: a :: rest) := hrest.trans (List.Perm.swap b a rest)
  refine ⟨a :: b :: rest, b :: a :: rest, hrest, hswap, fun hsame => ?_⟩
  have hab := C.pair_sublist_sortBy key htie
    (List.Sublist.cons_cons a (List.Sublist.cons_cons b (List.nil_sublist rest)))
  have hba := C.pair_sublist_sortBy key (compare_comm htie)
    (List.Sublist.cons_cons b (List.Sublist.cons_cons a (List.nil_sublist rest)))
  rw [hsame] at hab
  have hsorted : (C.sortBy key (b :: a :: rest)).Nodup :=
    ((C.sortBy_perm key _).nodup_iff).mpr (hswap.nodup_iff.mp hnodup)
  exact not_pair_sublist_swap hsorted hab hba

/-- **The order of a list does not matter to its sort exactly when no two of its elements compare
equal.** -/
theorem sortBy_perm_invariant_iff {elements : List β} (hnodup : elements.Nodup) :
    (∀ xs, elements.Perm xs → C.sortBy key xs = C.sortBy key elements) ↔
      ∀ a ∈ elements, ∀ b ∈ elements, C.compare (key a) (key b) = 0 → a = b := by
  constructor
  · intro h a ha b hb htie
    by_contra hne
    obtain ⟨xs, ys, hxs, hys, hdiffer⟩ := C.exists_perms_of_tie key hnodup ha hb hne htie
    exact hdiffer ((h xs hxs).trans (h ys hys).symm)
  · intro h xs hperm
    exact (C.sortBy_eq_of_perm key hperm h).symm

end Comparator

end Xygo.Computation
