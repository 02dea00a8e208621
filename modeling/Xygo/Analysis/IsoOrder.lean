import Xygo.Model.IsoTime

/-!
# Date texts sort as times

For years of four digits every field of a date text has a fixed width, so the texts
compare field by field, and so do the times: by year, month, day and time of day
(`textLe_iff`). Outside these years the text starts with a sign and the orders part.
-/

set_option autoImplicit false

namespace Xygo.Analysis

open Xygo.Computation Xygo.Model

/-- INTERNAL: a year begins after the years before it. -/
theorem monotone_dayFromYear : Monotone dayFromYear := by
  intro y z h
  unfold dayFromYear
  omega

/-- INTERNAL: a year has 365 or 366 days. -/
theorem inLeapYear_cases (y : Int) : inLeapYear y = 0 ∨ inLeapYear y = 1 := by
  unfold inLeapYear dayFromYear
  omega

/-- INTERNAL: a time lies in its year. -/
theorem yearFromTime_spec (t : Int) :
    dayFromYear (yearFromTime t) ≤ day t ∧ day t < dayFromYear (yearFromTime t + 1) := by
  unfold yearFromTime
  generalize hday : day t = d
  generalize hguess : 1970 + d * 400 / 146097 = guess
  dsimp only
  have hlow : dayFromYear (guess - 1) ≤ d := by
    unfold dayFromYear; omega
  have hhigh : d < dayFromYear (guess + 2) := by
    unfold dayFromYear; omega
  split
  · rename_i h
    exact ⟨h, by simpa [Int.add_assoc] using hhigh⟩
  · split
    · rename_i h
      exact ⟨hlow, by simpa using h⟩
    · omega

/-- INTERNAL: the months of a year follow each other, and none has more than 31 days. -/
theorem monthStart_succ {leap : Int} (h : leap = 0 ∨ leap = 1) (m : Int) :
    monthStart leap m ≤ monthStart leap (m + 1) ∧
      monthStart leap (m + 1) ≤ monthStart leap m + 31 := by
  have table : ∀ m ∈ List.range 12, ∀ leap ∈ [0, 1],
      monthStart leap (m : Int) ≤ monthStart leap (m + 1) ∧
        monthStart leap (m + 1) ≤ monthStart leap m + 31 := by decide
  rcases lt_or_ge m 0 with hneg | hpos
  · have hm : m.toNat = 0 := by omega
    have hm' : (m + 1).toNat = 0 := by omega
    simp only [monthStart, hm, hm', monthStarts, List.getD_cons_zero]
    omega
  · obtain ⟨k, rfl⟩ := Int.eq_ofNat_of_zero_le hpos
    rcases Nat.lt_or_ge k 12 with hk | hk
    · exact table k (List.mem_range.mpr hk) leap (by simpa using h)
    · have hlen : monthStarts.length = 12 := rfl
      have hk' : ((k : Int) + 1).toNat = k + 1 := by omega
      simp only [monthStart, hk', Int.toNat_natCast,
        List.getD_eq_getElem?_getD, List.getElem?_eq_none (show monthStarts.length ≤ k by omega),
        List.getElem?_eq_none (show monthStarts.length ≤ k + 1 by omega), Option.getD_none]
      omega

/-- INTERNAL: a month begins after the months before it. -/
theorem monotone_monthStart {leap : Int} (h : leap = 0 ∨ leap = 1) :
    Monotone (monthStart leap) :=
  monotone_int_of_le_succ fun m => (monthStart_succ h m).1

/-- INTERNAL: a day that comes before month `m + 1` lies in the last month begun. -/
theorem lastMonthBegun_spec {leap d : Int} (m : Nat) (hd : 0 ≤ d)
    (hm : d < monthStart leap (m + 1)) :
    lastMonthBegun leap d m ≤ m ∧ monthStart leap (lastMonthBegun leap d m) ≤ d ∧
      d < monthStart leap (lastMonthBegun leap d m + 1) := by
  induction m with
  | zero => exact ⟨Nat.le_refl 0, by simpa [monthStart, monthStarts, lastMonthBegun] using hd, hm⟩
  | succ m ih =>
    by_cases hbegun : monthStart leap (m + 1) ≤ d
    · simp only [lastMonthBegun, if_pos hbegun]
      exact ⟨Nat.le_refl _, by simpa using hbegun, by simpa using hm⟩
    · obtain ⟨hle, hspec⟩ := ih (by omega)
      simp only [lastMonthBegun, if_neg hbegun]
      exact ⟨by omega, hspec⟩

/-- INTERNAL: a time lies in its month. -/
theorem monthFromTime_spec (t : Int) :
    monthFromTime t ≤ 11 ∧
      monthStart (inLeapYear (yearFromTime t)) (monthFromTime t) ≤ dayWithinYear t ∧
      dayWithinYear t < monthStart (inLeapYear (yearFromTime t)) (monthFromTime t + 1) := by
  obtain ⟨hlow, hhigh⟩ := yearFromTime_spec t
  refine lastMonthBegun_spec 11 (by unfold dayWithinYear; omega) ?_
  have hyear : monthStart (inLeapYear (yearFromTime t)) ((11 : Nat) + 1) =
      365 + inLeapYear (yearFromTime t) := by
    simp [monthStart, monthStarts]
  rw [hyear]
  unfold dayWithinYear inLeapYear
  omega

/-- INTERNAL: the day of the month is between 1 and 31. -/
theorem dateFromTime_bounds (t : Int) : 1 ≤ dateFromTime t ∧ dateFromTime t ≤ 31 := by
  obtain ⟨-, hlow, hhigh⟩ := monthFromTime_spec t
  have hlen := (monthStart_succ (inLeapYear_cases (yearFromTime t)) (monthFromTime t)).2
  unfold dateFromTime
  omega

/-- INTERNAL: days compare by year, month and day of the month. -/
theorem day_lt_iff (a b : Int) :
    day a < day b ↔ yearFromTime a < yearFromTime b ∨ (yearFromTime a = yearFromTime b ∧
      (monthFromTime a < monthFromTime b ∨ (monthFromTime a = monthFromTime b ∧
        dateFromTime a < dateFromTime b))) := by
  rw [lt_iff_block monotone_dayFromYear (yearFromTime_spec a) (yearFromTime_spec b)]
  refine or_congr_right (and_congr_right fun hyear => ?_)
  have ha := monthFromTime_spec a
  have hb := monthFromTime_spec b
  have hmonth := lt_iff_block (monotone_monthStart (inLeapYear_cases (yearFromTime b)))
    (hyear ▸ ha.2) hb.2
  show dayWithinYear a < dayWithinYear b ↔ _
  rw [hmonth]
  unfold dateFromTime
  rw [hyear]
  omega

/-- INTERNAL: times compare by day and time of day. -/
theorem time_lt_iff (a b : Int) :
    a < b ↔ day a < day b ∨ (day a = day b ∧
      (hourFromTime a < hourFromTime b ∨ (hourFromTime a = hourFromTime b ∧
        (minFromTime a < minFromTime b ∨ (minFromTime a = minFromTime b ∧
          (secFromTime a < secFromTime b ∨ (secFromTime a = secFromTime b ∧
            msFromTime a < msFromTime b))))))) := by
  have hsec (t : Int) : t / 1000 / 60 = t / 60000 := by omega
  have hmin (t : Int) : t / 60000 / 60 = t / 3600000 := by omega
  have hhour (t : Int) : t / 3600000 / 24 = t / 86400000 := by omega
  unfold day msPerDay hourFromTime minFromTime secFromTime msFromTime
  rw [lt_iff_div_mod a b (k := 1000) (by decide),
    lt_iff_div_mod (a / 1000) (b / 1000) (k := 60) (by decide),
    eq_iff_div_mod (a / 1000) (b / 1000) 60, hsec, hsec,
    lt_iff_div_mod (a / 60000) (b / 60000) (k := 60) (by decide),
    eq_iff_div_mod (a / 60000) (b / 60000) 60, hmin, hmin,
    lt_iff_div_mod (a / 3600000) (b / 3600000) (k := 24) (by decide),
    eq_iff_div_mod (a / 3600000) (b / 3600000) 24, hhour, hhour]
  tauto

/-- INTERNAL: a field of a date text, a number in decimal digits. -/
theorem sorts_field (w : Nat) {a b : Int} (ha : 0 ≤ a ∧ a < 10 ^ w) (hb : 0 ≤ b ∧ b < 10 ^ w) :
    Sorts (digits w a.toNat) (digits w b.toNat) (a < b) (a = b) := by
  have hcast : ((10 ^ w : Nat) : Int) = 10 ^ w := by push_cast; rfl
  have h := sorts_digits w a.toNat b.toNat (by omega) (by omega)
  exact ⟨h.length, h.lt_iff.trans (by omega), h.eq_iff.trans (by omega)⟩

/-- **Date texts of four-digit years sort as times.** -/
theorem isoText_lt_iff {a b : Int} (ha : fourDigitYear a = true) (hb : fourDigitYear b = true) :
    isoText a < isoText b ↔ a < b := by
  simp only [fourDigitYear, Bool.and_eq_true, decide_eq_true_eq] at ha hb
  have hyear : Sorts (yearText (yearFromTime a)) (yearText (yearFromTime b))
      (yearFromTime a < yearFromTime b) (yearFromTime a = yearFromTime b) := by
    rw [yearText, if_pos ha, yearText, if_pos hb]
    exact sorts_field 4 (by omega) (by omega)
  have hmonth : Sorts (digits 2 (monthFromTime a + 1)) (digits 2 (monthFromTime b + 1))
      (monthFromTime a < monthFromTime b) (monthFromTime a = monthFromTime b) := by
    have hma := (monthFromTime_spec a).1
    have hmb := (monthFromTime_spec b).1
    have h := sorts_digits 2 (monthFromTime a + 1) (monthFromTime b + 1) (by omega) (by omega)
    exact ⟨h.length, h.lt_iff.trans (by omega), h.eq_iff.trans (by omega)⟩
  have hdate := sorts_field 2 (a := dateFromTime a) (b := dateFromTime b)
    (by have := dateFromTime_bounds a; omega) (by have := dateFromTime_bounds b; omega)
  have hhour := sorts_field 2 (a := hourFromTime a) (b := hourFromTime b)
    (by unfold hourFromTime; omega) (by unfold hourFromTime; omega)
  have hmin := sorts_field 2 (a := minFromTime a) (b := minFromTime b)
    (by unfold minFromTime; omega) (by unfold minFromTime; omega)
  have hsec := sorts_field 2 (a := secFromTime a) (b := secFromTime b)
    (by unfold secFromTime; omega) (by unfold secFromTime; omega)
  have hms := sorts_field 3 (a := msFromTime a) (b := msFromTime b)
    (by unfold msFromTime; omega) (by unfold msFromTime; omega)
  have htext := hyear.append ((Sorts.same ['-']).append (hmonth.append ((Sorts.same ['-']).append
    (hdate.append ((Sorts.same ['T']).append (hhour.append ((Sorts.same [':']).append
    (hmin.append ((Sorts.same [':']).append (hsec.append ((Sorts.same ['.']).append
    (hms.append (Sorts.same ['Z'])))))))))))))
  unfold isoText
  rw [String.lt_iff, String.toList_ofList, String.toList_ofList, htext.lt_iff,
    time_lt_iff a b, day_lt_iff a b]
  have hday : day a = day b ↔ yearFromTime a = yearFromTime b ∧
      monthFromTime a = monthFromTime b ∧ dateFromTime a = dateFromTime b := by
    have hab := day_lt_iff a b
    have hba := day_lt_iff b a
    constructor
    · intro h; omega
    · intro h; omega
  simp only [hday, false_or, true_and, and_false, or_false, and_or_left, or_assoc, and_assoc]

/-- Where years have four digits, the SQL stores compare times as numbers.
SOURCE: apps/api/src/reliability/outbox.js:341-345 -/
theorem textLe_iff {a b : Int} (ha : fourDigitYear a = true) (hb : fourDigitYear b = true) :
    textLe a b = true ↔ a ≤ b := by
  have hlt := isoText_lt_iff hb ha
  simp only [textLe, decide_eq_true_eq]
  show ¬ isoText b < isoText a ↔ a ≤ b
  rw [hlt, Int.not_lt]

end Xygo.Analysis
