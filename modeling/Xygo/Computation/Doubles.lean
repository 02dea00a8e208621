import Mathlib

/-!
# Double-precision numbers

The values of the 64-bit binary format as exact rationals, with the infinities and the value
that is no number. A result of arithmetic is the exact one, rounded to the nearest value and, half
way between two, to the one with an even significand. The two zeros are one value here.

The rules the rest uses: an integer of at most 53 bits is a value of the format, so that its
rounding is itself (`ofRat_intCast`), and sums, products and counts of integers are exact up to
there (`add_intCast`, `mul_intCast`, `add_one`); rounding keeps the order of numbers
(`ofRat_mono`).
-/

set_option autoImplicit false

namespace Xygo.Computation

/-- A value of the format. -/
inductive Double
  | nan
  | infinity (negative : Bool)
  | finite (value : ℚ)
  deriving DecidableEq

namespace Double

/-- The nearest integer; of two, the even one. -/
def roundEven (q : ℚ) : ℤ :=
  let k := ⌊q⌋
  if q - k < 1 / 2 then k else if 1 / 2 < q - k then k + 1 else k + k % 2

/-- The exponent of the last place of a number: 53 bits from the first one, and no lower than the
subnormal numbers go. -/
def lastPlace (q : ℚ) : ℤ := max (Int.log 2 |q| - 52) (-1074)

/-- A number on the grid of its last place. -/
def onGrid (q : ℚ) : ℚ := roundEven (q / 2 ^ lastPlace q) * 2 ^ lastPlace q

/-- The value of the format for a number. -/
def ofRat (q : ℚ) : Double :=
  if 2 ^ 1024 ≤ |onGrid q| then infinity (q < 0) else finite (onGrid q)

/-- The sum of two values. -/
def add : Double → Double → Double
  | finite a, finite b => ofRat (a + b)
  | nan, _ | _, nan => nan
  | infinity a, infinity b => if a = b then infinity a else nan
  | infinity a, finite _ => infinity a
  | finite _, infinity b => infinity b

/-- The product of two values. -/
def mul : Double → Double → Double
  | finite a, finite b => ofRat (a * b)
  | nan, _ | _, nan => nan
  | infinity a, infinity b => infinity (a != b)
  | infinity a, finite b => if b = 0 then nan else infinity (a != decide (b < 0))
  | finite a, infinity b => if a = 0 then nan else infinity (b != decide (a < 0))

/-- A value with the other sign. -/
def neg : Double → Double
  | nan => nan
  | infinity a => infinity !a
  | finite a => finite (-a)

/-- The difference of two values. -/
def sub (a b : Double) : Double := add a (neg b)

/-- A power of two. -/
def twoPow (k : ℕ) : Double := ofRat (2 ^ k)

/-- The lesser of two values, if both are numbers. -/
def least : Double → Double → Double
  | nan, _ | _, nan => nan
  | infinity a, b => if a then infinity a else b
  | a, infinity b => if b then infinity b else a
  | finite a, finite b => finite (min a b)

/-- The greater of two values, if both are numbers. -/
def greatest : Double → Double → Double
  | nan, _ | _, nan => nan
  | infinity a, b => if a then b else infinity a
  | a, infinity b => if b then a else infinity b
  | finite a, finite b => finite (max a b)

/-- An integer is rounded to itself. -/
theorem roundEven_intCast (k : ℤ) : roundEven k = k := by
  simp [roundEven]

/-- A number that is a multiple of its last place is on the grid. -/
theorem onGrid_of_multiple {q : ℚ} {k : ℤ} (h : q = k * 2 ^ lastPlace q) : onGrid q = q := by
  have hpos : (2 : ℚ) ^ lastPlace q ≠ 0 := zpow_ne_zero _ (by norm_num)
  have hquotient : q / 2 ^ lastPlace q = k := by
    rw [div_eq_iff hpos]
    exact h
  rw [onGrid, hquotient, roundEven_intCast, ← h]

/-- The last place of an integer of at most 53 bits divides it. -/
theorem lastPlace_intCast {n : ℤ} (hn : n.natAbs ≤ 2 ^ 53) :
    lastPlace n ≤ 0 ∨ n.natAbs = 2 ^ 53 ∧ lastPlace n = 1 := by
  have habs : |(n : ℚ)| = (n.natAbs : ℚ) := by
    rw [← Int.cast_abs, Int.abs_eq_natAbs]
    rfl
  have hlog : Int.log 2 |(n : ℚ)| = (Nat.log 2 n.natAbs : ℤ) := by
    rw [habs, Int.log_natCast]
  unfold lastPlace
  rw [hlog]
  rcases Nat.lt_or_ge n.natAbs (2 ^ 53) with hlt | hge
  · left
    have hbits : Nat.log 2 n.natAbs < 53 := Nat.log_lt_of_lt_pow' (by norm_num) hlt
    omega
  · right
    have heq : n.natAbs = 2 ^ 53 := by omega
    have hbits : Nat.log 2 n.natAbs = 53 := by rw [heq, Nat.log_pow (by norm_num)]
    omega

/-- An integer of at most 53 bits is on the grid. -/
theorem onGrid_intCast {n : ℤ} (hn : n.natAbs ≤ 2 ^ 53) : onGrid n = n := by
  rcases lastPlace_intCast hn with hplace | ⟨heq, hplace⟩
  · refine onGrid_of_multiple (k := n * 2 ^ (-lastPlace n).toNat) ?_
    obtain ⟨k, hk⟩ := Int.exists_eq_neg_ofNat hplace
    rw [hk]
    push_cast
    simp
  · rcases Int.natAbs_eq_iff.mp heq with hn' | hn'
    · refine onGrid_of_multiple (k := 2 ^ 52) ?_
      rw [hplace, hn']
      norm_num
    · refine onGrid_of_multiple (k := -2 ^ 52) ?_
      rw [hplace, hn']
      norm_num

/-- **An integer of at most 53 bits is a value of the format.** -/
theorem ofRat_intCast {n : ℤ} (hn : n.natAbs ≤ 2 ^ 53) : ofRat n = finite n := by
  have habs : |(n : ℚ)| ≤ 2 ^ 53 := by
    rw [← Int.cast_abs, Int.abs_eq_natAbs]
    exact_mod_cast hn
  have hlt : (2 : ℚ) ^ 53 < 2 ^ 1024 := pow_lt_pow_right₀ (by norm_num) (by norm_num)
  rw [ofRat, onGrid_intCast hn, if_neg (not_le.mpr (lt_of_le_of_lt habs hlt))]

/-- A sum of integers is exact when it has at most 53 bits. -/
theorem add_intCast {m n : ℤ} (h : (m + n).natAbs ≤ 2 ^ 53) :
    add (finite m) (finite n) = finite (m + n : ℤ) := by
  have hsum : (m : ℚ) + n = ((m + n : ℤ) : ℚ) := by push_cast; rfl
  show ofRat ((m : ℚ) + n) = _
  rw [hsum, ofRat_intCast h]

/-- A difference of integers is exact when it has at most 53 bits. -/
theorem sub_intCast {m n : ℤ} (h : (m - n).natAbs ≤ 2 ^ 53) :
    sub (finite m) (finite n) = finite (m - n : ℤ) := by
  have hneg : neg (finite n) = finite (-n : ℤ) := by
    rw [neg, Int.cast_neg]
  rw [sub, hneg, add_intCast (by omega)]
  rfl

/-- A product of integers is exact when it has at most 53 bits. -/
theorem mul_intCast {m n : ℤ} (h : (m * n).natAbs ≤ 2 ^ 53) :
    mul (finite m) (finite n) = finite (m * n : ℤ) := by
  have hproduct : (m : ℚ) * n = ((m * n : ℤ) : ℚ) := by push_cast; rfl
  show ofRat ((m : ℚ) * n) = _
  rw [hproduct, ofRat_intCast h]

/-- The powers of two up to the 53rd are exact. -/
theorem twoPow_eq {k : ℕ} (h : k ≤ 53) : twoPow k = finite (2 ^ k : ℤ) := by
  have hpower : (2 : ℚ) ^ k = ((2 ^ k : ℤ) : ℚ) := by push_cast; rfl
  have hbits : ((2 : ℤ) ^ k).natAbs ≤ 2 ^ 53 := by
    rw [Int.natAbs_pow]
    exact Nat.pow_le_pow_right (by norm_num) h
  rw [twoPow, hpower, ofRat_intCast hbits]

/-- The lesser of two integers. -/
theorem least_intCast (m n : ℤ) : least (finite m) (finite n) = finite (min m n : ℤ) := by
  rw [least, Int.cast_min]

/-- Counting is exact below 2^53. -/
theorem add_one {n : ℤ} (hn : n.natAbs < 2 ^ 53) :
    add (finite n) (finite 1) = finite (n + 1 : ℤ) := by
  have h := add_intCast (m := n) (n := 1) (by omega)
  rwa [Int.cast_one] at h

/-! ### Rounding keeps the order -/

/-- A rounded number is one of the two integers around it. -/
theorem roundEven_bounds (q : ℚ) : ⌊q⌋ ≤ roundEven q ∧ roundEven q ≤ ⌊q⌋ + 1 := by
  unfold roundEven
  dsimp only
  split_ifs
  · omega
  · omega
  · omega

theorem roundEven_mono {q r : ℚ} (h : q ≤ r) : roundEven q ≤ roundEven r := by
  rcases (Int.floor_mono h).lt_or_eq with hlt | heq
  · have hq := (roundEven_bounds q).2
    have hr := (roundEven_bounds r).1
    omega
  · have hfraction : q - ⌊q⌋ ≤ r - ⌊q⌋ := by linarith
    unfold roundEven
    dsimp only
    rw [← heq]
    split_ifs
    · exact le_rfl
    · omega
    · omega
    · linarith
    · exact le_rfl
    · linarith
    · linarith
    · omega
    · exact le_rfl

/-- Rounding treats the two signs alike. -/
theorem roundEven_neg (q : ℚ) : roundEven (-q) = -roundEven q := by
  by_cases hint : (⌊q⌋ : ℚ) = q
  · rw [← hint, ← Int.cast_neg, roundEven_intCast, roundEven_intCast]
  · have hlower : (⌊q⌋ : ℚ) < q := lt_of_le_of_ne (Int.floor_le q) hint
    have hupper : q < ⌊q⌋ + 1 := Int.lt_floor_add_one q
    have hfloor : ⌊-q⌋ = -⌊q⌋ - 1 := by
      rw [Int.floor_eq_iff]
      push_cast
      constructor
      · linarith
      · linarith
    unfold roundEven
    dsimp only
    rw [hfloor]
    push_cast
    split_ifs
    · linarith
    · omega
    · linarith
    · omega
    · linarith
    · linarith
    · linarith
    · linarith
    · omega

theorem onGrid_neg (q : ℚ) : onGrid (-q) = -onGrid q := by
  have hplace : lastPlace (-q) = lastPlace q := by
    unfold lastPlace
    rw [abs_neg]
  unfold onGrid
  rw [hplace, neg_div, roundEven_neg]
  push_cast
  ring

theorem onGrid_zero : onGrid 0 = 0 := by
  unfold onGrid
  rw [zero_div, ← Int.cast_zero, roundEven_intCast]
  simp

/-- Numbers with one last place stay in order. -/
theorem onGrid_le_of_lastPlace {q r : ℚ} (h : q ≤ r) (hplace : lastPlace q = lastPlace r) :
    onGrid q ≤ onGrid r := by
  have hpos : (0 : ℚ) < 2 ^ lastPlace r := zpow_pos (by norm_num) _
  unfold onGrid
  rw [hplace]
  refine mul_le_mul_of_nonneg_right ?_ hpos.le
  exact_mod_cast roundEven_mono (div_le_div_of_nonneg_right h hpos.le)

/-- A power of two is a multiple of every lower one. -/
theorem zpow_eq_multiple {e k : ℤ} (h : k ≤ e) :
    (2 : ℚ) ^ e = ((2 ^ (e - k).toNat : ℤ) : ℚ) * 2 ^ k := by
  have hnat : ((e - k).toNat : ℤ) = e - k := Int.toNat_of_nonneg (by omega)
  push_cast
  rw [← zpow_natCast, hnat, ← zpow_add₀ (by norm_num)]
  congr 1
  omega

/-- A number up to a power of two on its grid is rounded to no more than that power. -/
theorem onGrid_le_zpow {q : ℚ} {e : ℤ} (h : q ≤ 2 ^ e) (hplace : lastPlace q ≤ e) :
    onGrid q ≤ 2 ^ e := by
  have hpos : (0 : ℚ) < 2 ^ lastPlace q := zpow_pos (by norm_num) _
  rw [zpow_eq_multiple hplace] at h ⊢
  have hround := roundEven_mono ((div_le_iff₀ hpos).mpr h)
  rw [roundEven_intCast] at hround
  exact mul_le_mul_of_nonneg_right (by exact_mod_cast hround) hpos.le

/-- A number from a power of two on its grid is rounded to no less than that power. -/
theorem zpow_le_onGrid {r : ℚ} {e : ℤ} (h : 2 ^ e ≤ r) (hplace : lastPlace r ≤ e) :
    2 ^ e ≤ onGrid r := by
  have hpos : (0 : ℚ) < 2 ^ lastPlace r := zpow_pos (by norm_num) _
  rw [zpow_eq_multiple hplace] at h ⊢
  have hround := roundEven_mono ((le_div_iff₀ hpos).mpr h)
  rw [roundEven_intCast] at hround
  exact mul_le_mul_of_nonneg_right (by exact_mod_cast hround) hpos.le

/-- Positive numbers stay in order: between two with different last places lies a power of two. -/
theorem onGrid_mono_of_pos {q r : ℚ} (hq : 0 < q) (h : q ≤ r) : onGrid q ≤ onGrid r := by
  have hr : 0 < r := hq.trans_le h
  have hlog : Int.log 2 q ≤ Int.log 2 r := Int.log_mono_right hq h
  have hplaceq : lastPlace q = max (Int.log 2 q - 52) (-1074) := by rw [lastPlace, abs_of_pos hq]
  have hplacer : lastPlace r = max (Int.log 2 r - 52) (-1074) := by rw [lastPlace, abs_of_pos hr]
  by_cases hplace : lastPlace q = lastPlace r
  · exact onGrid_le_of_lastPlace h hplace
  · have hlower : (2 : ℚ) ^ Int.log 2 r ≤ r := by
      exact_mod_cast Int.zpow_log_le_self (by norm_num) hr
    have hupper : q ≤ (2 : ℚ) ^ Int.log 2 r := by
      have hlt : q < (2 : ℚ) ^ (Int.log 2 q + 1) := by
        exact_mod_cast Int.lt_zpow_succ_log_self (by norm_num) q
      have hpower : (2 : ℚ) ^ (Int.log 2 q + 1) ≤ 2 ^ Int.log 2 r :=
        zpow_le_zpow_right₀ (by norm_num) (by omega)
      exact hlt.le.trans hpower
    calc onGrid q ≤ 2 ^ Int.log 2 r := onGrid_le_zpow hupper (by omega)
      _ ≤ onGrid r := zpow_le_onGrid hlower (by omega)

theorem onGrid_nonneg {q : ℚ} (h : 0 ≤ q) : 0 ≤ onGrid q := by
  have hpos : (0 : ℚ) < 2 ^ lastPlace q := zpow_pos (by norm_num) _
  have hround := roundEven_mono (div_nonneg h hpos.le)
  rw [← Int.cast_zero, roundEven_intCast] at hround
  exact mul_nonneg (by exact_mod_cast hround) hpos.le

theorem onGrid_mono {q r : ℚ} (h : q ≤ r) : onGrid q ≤ onGrid r := by
  have hodd : ∀ x, onGrid x = -onGrid (-x) := fun x => by rw [onGrid_neg, neg_neg]
  rcases lt_or_ge 0 q with hq | hq
  · exact onGrid_mono_of_pos hq h
  · rcases lt_or_ge r 0 with hr | hr
    · rw [hodd q, hodd r]
      exact neg_le_neg (onGrid_mono_of_pos (neg_pos.mpr hr) (neg_le_neg h))
    · calc onGrid q = -onGrid (-q) := hodd q
        _ ≤ 0 := neg_nonpos.mpr (onGrid_nonneg (neg_nonneg.mpr hq))
        _ ≤ onGrid r := onGrid_nonneg hr

/-- The order of the values: the value that is no number is in no order. -/
inductive Le : Double → Double → Prop
  | bottom (b : Double) : b ≠ nan → Le (infinity true) b
  | top (a : Double) : a ≠ nan → Le a (infinity false)
  | finite {a b : ℚ} : a ≤ b → Le (finite a) (finite b)

theorem Le.trans {a b c : Double} (hab : Le a b) (hbc : Le b c) : Le a c := by
  cases hab with
  | bottom b hb =>
    cases hbc with
    | bottom c hc => exact .bottom _ hc
    | top b hb => exact .top _ (by simp)
    | finite h => exact .bottom _ (by simp)
  | top a ha =>
    cases hbc with
    | top b hb => exact .top _ ha
  | finite h =>
    cases hbc with
    | top b hb => exact .top _ (by simp)
    | finite h' => exact .finite (h.trans h')

/-- **Rounding keeps the order of numbers.** -/
theorem ofRat_mono {q r : ℚ} (h : q ≤ r) : Le (ofRat q) (ofRat r) := by
  have hgrid := onGrid_mono h
  unfold ofRat
  split_ifs with hq hr hr
  · rcases lt_or_ge q 0 with hneg | hpos
    · simpa [hneg] using Le.bottom _ (by simp)
    · have hrpos : ¬ r < 0 := not_lt.mpr (hpos.trans h)
      simpa [hrpos] using Le.top _ (by simp)
  · rcases lt_or_ge q 0 with hneg | hpos
    · simpa [hneg] using Le.bottom _ (by simp)
    · rw [abs_of_nonneg (onGrid_nonneg hpos)] at hq
      rw [abs_of_nonneg (onGrid_nonneg (hpos.trans h))] at hr
      exact absurd (hq.trans hgrid) hr
  · rcases lt_or_ge r 0 with hneg | hpos
    · have hrgrid := onGrid_nonneg (neg_nonneg.mpr hneg.le)
      have hqgrid := onGrid_nonneg (neg_nonneg.mpr (h.trans hneg.le))
      rw [onGrid_neg] at hrgrid hqgrid
      rw [abs_of_nonpos (neg_nonneg.mp hqgrid)] at hq
      rw [abs_of_nonpos (neg_nonneg.mp hrgrid)] at hr
      exact absurd (hr.trans (neg_le_neg hgrid)) hq
    · have hrpos : ¬ r < 0 := not_lt.mpr hpos
      simpa [hrpos] using Le.top _ (by simp)
  · exact .finite hgrid

/-- So does the addition of a number. -/
theorem add_mono_left {a b t : ℚ} (h : a ≤ b) :
    Le (add (finite a) (finite t)) (add (finite b) (finite t)) :=
  ofRat_mono (add_le_add_left h t)

end Double

end Xygo.Computation
