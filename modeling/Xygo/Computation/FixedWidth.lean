import Mathlib

/-!
# Texts of fixed width that sort as the values they write

Two texts of one length compare at the first place where they differ, so a text that is
made of fields of fixed width compares field by field. `Sorts a b lt eq` says that two
texts have one length and compare as the propositions `lt` and `eq` say; fields are put
together with `Sorts.append`, and `sorts_digits` is the field of a decimal number.

`lt_iff_block` is the same fact about numbers: two numbers compare by the block each of
them lies in, and inside one block by their offset.
-/

set_option autoImplicit false

namespace Xygo.Computation

/-- The texts `a` and `b` have one length and compare as `lt` and `eq` say. -/
structure Sorts (a b : List Char) (lt eq : Prop) : Prop where
  length : a.length = b.length
  lt_iff : a < b ↔ lt
  eq_iff : a = b ↔ eq

/-- Two appended texts whose first parts have one length compare by the first parts, and
by the second parts where the first are equal. -/
theorem append_lt_append_iff {a b x y : List Char} (h : a.length = b.length) :
    a ++ x < b ++ y ↔ a < b ∨ (a = b ∧ x < y) := by
  induction a generalizing b with
  | nil =>
    obtain rfl : b = [] := List.length_eq_zero_iff.mp h.symm
    simp
  | cons c a ih =>
    cases b with
    | nil => simp at h
    | cons d b =>
      have hlen : a.length = b.length := by simpa using h
      simp only [List.cons_append, List.cons_lt_cons_iff, ih hlen, List.cons.injEq]
      tauto

/-- A text that is the same on both sides. -/
theorem Sorts.same (a : List Char) : Sorts a a False True where
  length := rfl
  lt_iff := iff_of_false (List.lt_irrefl a) id
  eq_iff := iff_of_true rfl trivial

/-- One field after the other. -/
theorem Sorts.append {a b x y : List Char} {lt eq lt' eq' : Prop} (h : Sorts a b lt eq)
    (h' : Sorts x y lt' eq') : Sorts (a ++ x) (b ++ y) (lt ∨ (eq ∧ lt')) (eq ∧ eq') where
  length := by simp [h.length, h'.length]
  lt_iff := by rw [append_lt_append_iff h.length, h.lt_iff, h.eq_iff, h'.lt_iff]
  eq_iff := by
    rw [← h.eq_iff, ← h'.eq_iff]
    exact ⟨fun heq => List.append_inj heq h.length, fun ⟨ha, hx⟩ => by rw [ha, hx]⟩

/-- The last decimal digit of a number. -/
def digit (n : Nat) : Char := Char.ofNat (48 + n % 10)

/-- A number in `w` decimal digits, with leading zeros. -/
def digits : Nat → Nat → List Char
  | 0, _ => []
  | w + 1, n => digits w (n / 10) ++ [digit n]

/-- Digits compare as the numbers they write. -/
theorem digit_lt_iff (m n : Nat) : digit m < digit n ↔ m % 10 < n % 10 := by
  have key : ∀ a < 10, ∀ b < 10, Char.ofNat (48 + a) < Char.ofNat (48 + b) ↔ a < b := by decide
  exact key _ (Nat.mod_lt m (by decide)) _ (Nat.mod_lt n (by decide))

/-- Digits are equal as the numbers they write. -/
theorem digit_eq_iff (m n : Nat) : digit m = digit n ↔ m % 10 = n % 10 := by
  have key : ∀ a < 10, ∀ b < 10, Char.ofNat (48 + a) = Char.ofNat (48 + b) ↔ a = b := by decide
  exact key _ (Nat.mod_lt m (by decide)) _ (Nat.mod_lt n (by decide))

/-- **Numbers in `w` digits sort as numbers.** -/
theorem sorts_digits (w m n : Nat) (hm : m < 10 ^ w) (hn : n < 10 ^ w) :
    Sorts (digits w m) (digits w n) (m < n) (m = n) := by
  induction w generalizing m n with
  | zero =>
    obtain rfl : m = 0 := by simpa using hm
    obtain rfl : n = 0 := by simpa using hn
    simpa [digits] using Sorts.same []
  | succ w ih =>
    have hbeginning : Sorts (digits w (m / 10)) (digits w (n / 10)) (m / 10 < n / 10)
        (m / 10 = n / 10) := ih _ _ (by omega) (by omega)
    have hlast : Sorts [digit m] [digit n] (m % 10 < n % 10) (m % 10 = n % 10) := {
      length := rfl
      lt_iff := by rw [List.cons_lt_cons_iff]; simpa using digit_lt_iff m n
      eq_iff := by simpa using digit_eq_iff m n }
    obtain ⟨hlen, hlt, heq⟩ := hbeginning.append hlast
    refine ⟨hlen, hlt.trans ?_, heq.trans ?_⟩
    · constructor
      · intro h; omega
      · intro h; omega
    · constructor
      · intro h; omega
      · intro h; omega

/-- **Order by blocks.** The blocks `[start i, start (i + 1))` are in order; two numbers
compare by their blocks, and inside one block by their offsets. -/
theorem lt_iff_block {start : ℤ → ℤ} (mono : Monotone start) {x y i j : ℤ}
    (hx : start i ≤ x ∧ x < start (i + 1)) (hy : start j ≤ y ∧ y < start (j + 1)) :
    x < y ↔ i < j ∨ (i = j ∧ x - start i < y - start j) := by
  rcases lt_trichotomy i j with hij | rfl | hij
  · have hstart : start (i + 1) ≤ start j := mono (by omega)
    exact iff_of_true (by omega) (Or.inl hij)
  · constructor
    · intro h; exact Or.inr ⟨rfl, by omega⟩
    · rintro (h | ⟨-, h⟩) <;> omega
  · have hstart : start (j + 1) ≤ start i := mono (by omega)
    exact iff_of_false (by omega) (by omega)

/-- Two numbers are equal iff they lie in one block at one offset. -/
theorem eq_iff_block {start : ℤ → ℤ} (mono : Monotone start) {x y i j : ℤ}
    (hx : start i ≤ x ∧ x < start (i + 1)) (hy : start j ≤ y ∧ y < start (j + 1)) :
    x = y ↔ i = j ∧ x - start i = y - start j := by
  have hlt := lt_iff_block mono hx hy
  have hgt := lt_iff_block mono hy hx
  constructor
  · rintro rfl
    have hij : i = j := by
      rcases lt_trichotomy i j with h | h | h
      · exact absurd (hlt.mpr (Or.inl h)) (lt_irrefl x)
      · exact h
      · exact absurd (hgt.mpr (Or.inl h)) (lt_irrefl x)
    subst hij
    exact ⟨rfl, rfl⟩
  · rintro ⟨rfl, h⟩
    omega

/-- Two numbers compare by quotient, and for one quotient by remainder. -/
theorem lt_iff_div_mod (a b : ℤ) {k : ℤ} (hk : 0 < k) :
    a < b ↔ a / k < b / k ∨ (a / k = b / k ∧ a % k < b % k) := by
  have hmono : Monotone fun i : ℤ => k * i := fun i j h => Int.mul_le_mul_of_nonneg_left h hk.le
  have hblock (x : ℤ) : k * (x / k) ≤ x ∧ x < k * (x / k + 1) := by
    have hx := Int.mul_ediv_add_emod x k
    have hpos := Int.emod_nonneg x hk.ne'
    have hlt := Int.emod_lt_of_pos x hk
    rw [Int.mul_add]
    omega
  rw [lt_iff_block hmono (hblock a) (hblock b), Int.emod_def, Int.emod_def]

/-- Two numbers are equal iff their quotients and their remainders are. -/
theorem eq_iff_div_mod (a b k : ℤ) : a = b ↔ a / k = b / k ∧ a % k = b % k := by
  constructor
  · rintro rfl
    exact ⟨rfl, rfl⟩
  · rintro ⟨hdiv, hmod⟩
    rw [← Int.mul_ediv_add_emod a k, ← Int.mul_ediv_add_emod b k, hdiv, hmod]

end Xygo.Computation
