import Xygo.Computation.Linked

/-!
# Chains whose marks determine the past

A linked list where the mark of a record determines what the record fits after, as the hash of a
record does that is taken over a reference to the one before it. The marks of such a list are all
different, so no other arrangement of its records is linked but a prefix of it.
-/

set_option autoImplicit false

namespace Xygo.Computation

section

variable {α σ : Type} {fits : Option σ → α → Prop} {mark : α → σ}

/-- Records with one mark fit after one mark only. -/
def Determines (fits : Option σ → α → Prop) (mark : α → σ) : Prop :=
  ∀ p q a b, fits p a → fits q b → mark a = mark b → p = q

/-- The first record fits what the list was started from. -/
theorem Linked.fits_zero {previous : Option σ} {l : List α} (h : Linked fits mark previous l)
    (hl : 0 < l.length) : fits previous l[0] := by
  cases l with
  | nil => cases hl
  | cons a l => exact h.1

/-- A later record fits after the one before it. -/
theorem Linked.fits_succ {previous : Option σ} {l : List α} (h : Linked fits mark previous l)
    {i : ℕ} (hi : i + 1 < l.length) : fits (some (mark l[i])) l[i + 1] := by
  induction l generalizing previous i with
  | nil => cases hi
  | cons a l ih =>
    cases i with
    | zero => exact Linked.fits_zero h.2 (Nat.lt_of_succ_lt_succ hi)
    | succ i => exact ih h.2 (Nat.lt_of_succ_lt_succ hi)

/-- **The marks of a chain from its start are all different.** -/
theorem Linked.place_unique (hmark : Determines fits mark) {l : List α}
    (h : Linked fits mark none l) {i j : ℕ} (hi : i < l.length) (hj : j < l.length)
    (heq : mark l[i] = mark l[j]) : i = j := by
  induction i generalizing j with
  | zero =>
    cases j with
    | zero => rfl
    | succ j => cases hmark _ _ _ _ (h.fits_zero hi) (h.fits_succ hj) heq
  | succ i ih =>
    cases j with
    | zero => cases hmark _ _ _ _ (h.fits_succ hi) (h.fits_zero hj) heq
    | succ j =>
      have hbefore := hmark _ _ _ _ (h.fits_succ hi) (h.fits_succ hj) heq
      exact congrArg Nat.succ (ih (Nat.lt_of_succ_lt hi) (Nat.lt_of_succ_lt hj)
        (Option.some.inj hbefore))

/-- **Whatever is linked of the records of a chain is a prefix of it.** -/
theorem Linked.prefix_of_subset (hmark : Determines fits mark) {l k : List α}
    (hl : Linked fits mark none l) (hk : Linked fits mark none k) (hsub : k ⊆ l) : k <+: l := by
  have hplace : ∀ i (hi : i < k.length), ∃ hil : i < l.length, k[i] = l[i] := by
    intro i hi
    obtain ⟨j, hj, hget⟩ := List.getElem_of_mem (hsub (List.getElem_mem hi))
    have hsame : mark k[i] = mark l[j] := congrArg mark hget.symm
    induction i generalizing j with
    | zero =>
      cases j with
      | zero => exact ⟨hj, hget.symm⟩
      | succ j => cases hmark _ _ _ _ (hk.fits_zero hi) (hl.fits_succ hj) hsame
    | succ i ih =>
      have hi' := Nat.lt_of_succ_lt hi
      obtain ⟨j', hj', hget'⟩ := List.getElem_of_mem (hsub (List.getElem_mem hi'))
      obtain ⟨hil, hbefore⟩ := ih hi' j' hj' hget' (congrArg mark hget'.symm)
      cases j with
      | zero => cases hmark _ _ _ _ (hk.fits_succ hi) (hl.fits_zero hj) hsame
      | succ j =>
        have hmarks := Option.some.inj (hmark _ _ _ _ (hk.fits_succ hi) (hl.fits_succ hj) hsame)
        rw [hbefore] at hmarks
        obtain rfl := hl.place_unique hmark hil (Nat.lt_of_succ_lt hj) hmarks
        exact ⟨hj, hget.symm⟩
  have hlength : k.length ≤ l.length := by
    apply Nat.le_of_not_lt
    intro hlt
    obtain ⟨hil, -⟩ := hplace l.length hlt
    omega
  exact List.prefix_iff_getElem.mpr ⟨hlength, fun i hi => (hplace i hi).2⟩

/-- A chain in another order is not linked. -/
theorem Linked.not_of_perm (hmark : Determines fits mark) {l k : List α}
    (hl : Linked fits mark none l) (hperm : k.Perm l) (hne : k ≠ l) :
    ¬ Linked fits mark none k := by
  intro hk
  exact hne ((hl.prefix_of_subset hmark hk hperm.subset).eq_of_length hperm.length_eq)

/-- A chain without one of its records, other than the last one, is not linked. -/
theorem Linked.not_of_eraseIdx (hmark : Determines fits mark) {l : List α}
    (hl : Linked fits mark none l) {i : ℕ} (hi : i + 1 < l.length) :
    ¬ Linked fits mark none (l.eraseIdx i) := by
  intro hk
  have hlength : (l.eraseIdx i).length = l.length - 1 :=
    List.length_eraseIdx_of_lt (Nat.lt_of_succ_lt hi)
  have hbegins := hl.prefix_of_subset hmark hk List.eraseIdx_subset
  obtain ⟨_, hget⟩ := List.prefix_iff_getElem.mp hbegins
  -- The next record has moved to the place of the one that is gone.
  have hplace : i < (l.eraseIdx i).length := by omega
  have hmoved : l[i + 1] = l[i] := by
    rw [← hget i hplace, List.getElem_eraseIdx_of_ge hplace (Nat.le_refl i)]
  have hsame := hl.place_unique hmark hi (Nat.lt_of_succ_lt hi) (congrArg mark hmoved)
  omega

end

end Xygo.Computation
