import Mathlib.Data.List.Infix

/-!
# Lower case, and parts of separated texts

The default lower-case conversion of Unicode: a character is mapped on its own, but a capital sigma
is final where a cased letter is before it and none behind it, case-ignorable characters passed
over. A character that is neither cased nor case-ignorable and is its own lower case ends every such
search, so that a text is converted on both sides of it alone (`lower_append_cons`). What has no
separator in it is a part of a text exactly when it is a part of one side (`infix_append_cons_iff`).
-/

set_option autoImplicit false

namespace Xygo.Computation

/-- The properties of characters the conversion asks for. -/
structure CaseTable where
  mapping : Char → List Char
  cased : Char → Bool
  caseIgnorable : Char → Bool

namespace CaseTable

variable (T : CaseTable)

/-- Whether a cased letter comes first, up to case-ignorable characters. -/
def reachesCased : List Char → Bool
  | [] => false
  | c :: cs => T.cased c || (T.caseIgnorable c && reachesCased cs)

/-- The lower case of a character between the characters before it, the nearest first, and those
behind it. -/
def lowerChar (before : List Char) (c : Char) (behind : List Char) : List Char :=
  if c = 'Σ' then
    if T.reachesCased before && !T.reachesCased behind then ['ς'] else ['σ']
  else T.mapping c

/-- The lower case of what is behind some characters. -/
def lowerBehind : List Char → List Char → List Char
  | _, [] => []
  | before, c :: cs => T.lowerChar before c cs ++ lowerBehind (c :: before) cs

/-- The lower case of a text. -/
def lower (text : List Char) : List Char := T.lowerBehind [] text

/-- A character the conversion stops at and leaves. -/
structure Stops (c : Char) : Prop where
  notSigma : c ≠ 'Σ'
  itself : T.mapping c = [c]
  notCased : T.cased c = false
  notIgnorable : T.caseIgnorable c = false

variable {T}

theorem reachesCased_stop {c : Char} (h : T.Stops c) (cs : List Char) :
    T.reachesCased (c :: cs) = false := by
  simp [reachesCased, h.notCased, h.notIgnorable]

/-- No search goes on behind a stop. -/
theorem reachesCased_append_stop {c : Char} (h : T.Stops c) (front back : List Char) :
    T.reachesCased (front ++ c :: back) = T.reachesCased front := by
  induction front with
  | nil => simpa [reachesCased] using reachesCased_stop h back
  | cons d front ih => rw [List.cons_append, reachesCased, reachesCased, ih]

/-- What is before a stop does not matter behind it. -/
theorem lowerBehind_before_stop {c : Char} (h : T.Stops c) (front back text : List Char) :
    T.lowerBehind (front ++ c :: back) text = T.lowerBehind front text := by
  induction text generalizing front with
  | nil => rfl
  | cons d text ih =>
    rw [lowerBehind, lowerBehind, ← List.cons_append, ih, lowerChar, lowerChar,
      reachesCased_append_stop h]

/-- A text is converted on both sides of a stop alone. -/
theorem lowerBehind_append_stop {c : Char} (h : T.Stops c) (before front back : List Char) :
    T.lowerBehind before (front ++ c :: back) =
      T.lowerBehind before front ++ c :: T.lower back := by
  induction front generalizing before with
  | nil =>
    have hback := lowerBehind_before_stop h [] before back
    simp only [List.nil_append] at hback
    simp only [List.nil_append, lowerBehind]
    rw [hback, lowerChar, if_neg h.notSigma, h.itself]
    rfl
  | cons d front ih =>
    rw [List.cons_append, lowerBehind, lowerBehind, ih, lowerChar, lowerChar,
      reachesCased_append_stop h, List.append_assoc]

/-- **Both sides of a stop are converted alone.** -/
theorem lower_append_cons {c : Char} (h : T.Stops c) (front back : List Char) :
    T.lower (front ++ c :: back) = T.lower front ++ c :: T.lower back :=
  lowerBehind_append_stop h [] front back

end CaseTable

/-! ### Parts of a separated text -/

/-- **What has no separator in it is part of a side.** -/
theorem infix_append_cons_iff {α : Type} {part front back : List α} {separator : α}
    (h : separator ∉ part) :
    part <:+: front ++ separator :: back ↔ part <:+: front ∨ part <:+: back := by
  constructor
  · rintro ⟨left, right, heq⟩
    rw [List.append_assoc, List.append_eq_append_iff] at heq
    rcases heq with ⟨rest, rfl, heq⟩ | ⟨rest, rfl, heq⟩
    · rcases List.append_eq_append_iff.mp heq with ⟨tail, rfl, -⟩ | ⟨tail, rfl, hrest⟩
      · exact Or.inl ⟨left, tail, by simp⟩
      · cases tail with
        | nil => exact Or.inl ⟨left, [], by simp⟩
        | cons c tail =>
          obtain ⟨rfl, -⟩ := List.cons.inj hrest
          exact absurd (by simp) h
    · cases rest with
      | nil =>
        cases part with
        | nil => exact Or.inl (List.nil_infix)
        | cons c part =>
          obtain ⟨rfl, -⟩ := List.cons.inj heq
          exact absurd (by simp) h
      | cons c rest =>
        obtain ⟨-, rfl⟩ := List.cons.inj heq
        exact Or.inr ⟨rest, right, by simp⟩
  · rintro (⟨left, right, rfl⟩ | ⟨left, right, rfl⟩)
    · exact ⟨left, right ++ separator :: back, by simp⟩
    · exact ⟨front ++ separator :: left, right, by simp⟩

end Xygo.Computation
