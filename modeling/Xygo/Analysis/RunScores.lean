import Xygo.Model.Dashboards

/-!
# The scores of a review run

Precision and the rate of false positives count entries of the actual list, and so do the true
positives the recall is made of; the missing entries are counted in the expected list. Where entries
repeat, the two counts of what was found differ by a surplus, and the recall is a proper rate, equal
to one exactly where nothing is missing, as long as the surplus does not make up for what is missing
(`scores_proper_iff`). Without repetitions there is no surplus (`surplus_eq_zero`).
-/

set_option autoImplicit false

namespace Xygo.Analysis

open Xygo.Model

/-- A rate. -/
def IsRate (q : ℚ) : Prop := 0 ≤ q ∧ q ≤ 1

section

variable {α : Type} [DecidableEq α]

/-- What the scores of a review run must satisfy. -/
structure ProperScores (expected actual : List α) (scores : ReviewScores) : Prop where
  precision : IsRate scores.precision
  «recall» : IsRate scores.recall
  falsePositiveRate : IsRate scores.falsePositiveRate
  complement : actual ≠ [] → scores.precision + scores.falsePositiveRate = 1
  complete : expected ≠ [] → (scores.recall = 1 ↔ scores.falseNegatives = 0)

/-- The items both lists have, each once. -/
def foundItems (expected actual : List α) : List α := expected.dedup.filter (· ∈ actual)

/-- The entries of the expected list that the actual one does not have. -/
def missingEntries (expected actual : List α) : List α := expected.filter (· ∉ actual)

/-- How much more often the found items are in the actual list than in the expected one. -/
def surplus (expected actual : List α) : ℤ :=
  ((foundItems expected actual).map fun item =>
    (actual.count item : ℤ) - expected.count item).sum

/-! ## Two counts of what was found -/

/-- INTERNAL: the true positives are the entries of the actual list that are found items. -/
theorem truePositives_eq (expected actual : List α) :
    actual.countP (· ∈ expected) =
      ((foundItems expected actual).map fun item => actual.count item).sum := by
  have hperm : (actual.dedup.filter (· ∈ expected)).Perm (foundItems expected actual) := by
    unfold foundItems
    rw [List.perm_ext_iff_of_nodup (actual.nodup_dedup.filter _) (expected.nodup_dedup.filter _)]
    intro item
    simp [and_comm]
  rw [← List.sum_map_count_dedup_filter_eq_countP]
  exact (hperm.map _).sum_eq

/-- INTERNAL: the expected entries are those of found items and the missing ones. -/
theorem length_expected_eq (expected actual : List α) :
    expected.length = ((foundItems expected actual).map fun item => expected.count item).sum +
      (missingEntries expected actual).length := by
  have hfound : ((foundItems expected actual).map fun item => expected.count item).sum =
      expected.countP (· ∈ actual) :=
    List.sum_map_count_dedup_filter_eq_countP _ expected
  rw [hfound, missingEntries, ← List.countP_eq_length_filter]
  have hsplit := List.length_eq_countP_add_countP (· ∈ actual) (l := expected)
  simpa using hsplit

/-- INTERNAL: the true positives exceed the expected entries by the surplus without the missing. -/
theorem truePositives_sub_length (expected actual : List α) :
    (actual.countP (· ∈ expected) : ℤ) - expected.length =
      surplus expected actual - (missingEntries expected actual).length := by
  have hsum : surplus expected actual =
      (((foundItems expected actual).map fun item => actual.count item).sum : ℤ) -
        ((foundItems expected actual).map fun item => expected.count item).sum := by
    unfold surplus
    induction foundItems expected actual with
    | nil => rfl
    | cons item items ih =>
      simp only [List.map_cons, List.sum_cons, ih]
      push_cast
      ring
  rw [truePositives_eq, hsum]
  have hlength := length_expected_eq expected actual
  omega

/-- INTERNAL: the missing entries are the false negatives. -/
theorem falseNegatives_eq (expected actual : List α) :
    (evaluateReviewRun expected actual).falseNegatives =
      (missingEntries expected actual).length := by
  rw [missingEntries, ← List.countP_eq_length_filter]
  rfl

/-! ## Rates -/

/-- INTERNAL: a share of a list is a rate. -/
theorem isRate_div {part whole : ℕ} (h : part ≤ whole) :
    IsRate (if whole = 0 then 0 else (part : ℚ) / whole) := by
  split
  · exact ⟨le_refl 0, zero_le_one⟩
  · have hpositive : (0 : ℚ) < whole := by exact_mod_cast Nat.pos_of_ne_zero (by assumption)
    refine ⟨by positivity, ?_⟩
    rw [div_le_one hpositive]
    exact_mod_cast h

/-- INTERNAL: precision and the rate of false positives are complementary rates.
SOURCE: packages/ai-review/src/index.js:209-210, 214, 216 -/
theorem precision_complement (expected actual : List α) :
    IsRate (evaluateReviewRun expected actual).precision ∧
      IsRate (evaluateReviewRun expected actual).falsePositiveRate ∧
      (actual ≠ [] → (evaluateReviewRun expected actual).precision +
        (evaluateReviewRun expected actual).falsePositiveRate = 1) := by
  refine ⟨isRate_div List.countP_le_length, isRate_div List.countP_le_length, ?_⟩
  intro hne
  have hlength : actual.length ≠ 0 := fun h => hne (List.length_eq_zero_iff.mp h)
  have hpositive : (actual.length : ℚ) ≠ 0 := by exact_mod_cast hlength
  have hsplit : (actual.countP (· ∈ expected) : ℚ) + actual.countP (· ∉ expected) =
      actual.length := by
    have hcount := List.length_eq_countP_add_countP (· ∈ expected) (l := actual)
    rw [hcount]
    push_cast
    simp
  simp only [evaluateReviewRun, hlength, if_false]
  rw [← add_div, hsplit, div_self hpositive]

/-- INTERNAL: the recall is proper where the surplus does not make up for what is missing. -/
theorem recall_iff {expected : List α} (actual : List α) (hne : expected ≠ []) :
    (IsRate (evaluateReviewRun expected actual).recall ∧
        ((evaluateReviewRun expected actual).recall = 1 ↔
          (evaluateReviewRun expected actual).falseNegatives = 0)) ↔
      (missingEntries expected actual = [] → surplus expected actual = 0) ∧
        (missingEntries expected actual ≠ [] →
          surplus expected actual < (missingEntries expected actual).length) := by
  have hlength : expected.length ≠ 0 := fun h => hne (List.length_eq_zero_iff.mp h)
  have hpositive : (0 : ℚ) < expected.length := by exact_mod_cast Nat.pos_of_ne_zero hlength
  have hrecall : (evaluateReviewRun expected actual).recall =
      (actual.countP (· ∈ expected) : ℚ) / expected.length := by
    simp only [evaluateReviewRun, hlength, if_false]
  have hrate : IsRate (evaluateReviewRun expected actual).recall ↔
      actual.countP (· ∈ expected) ≤ expected.length := by
    rw [hrecall]
    constructor
    · rintro ⟨-, hle⟩
      rw [div_le_one hpositive] at hle
      exact_mod_cast hle
    · intro hle
      refine ⟨by positivity, ?_⟩
      rw [div_le_one hpositive]
      exact_mod_cast hle
  have hone : (evaluateReviewRun expected actual).recall = 1 ↔
      actual.countP (· ∈ expected) = expected.length := by
    rw [hrecall, div_eq_one_iff_eq hpositive.ne']
    exact Nat.cast_inj
  have hbalance := truePositives_sub_length expected actual
  rw [hrate, hone, falseNegatives_eq, List.length_eq_zero_iff]
  by_cases hmissing : missingEntries expected actual = []
  · simp only [hmissing, List.length_nil] at hbalance ⊢
    simp
    omega
  · have hsome : 0 < (missingEntries expected actual).length :=
      List.length_pos_iff.mpr hmissing
    simp only [hmissing, iff_false, ne_eq, not_false_eq_true, true_implies, false_implies,
      true_and]
    omega

/-- **Scores of a review run.** The scores are proper rates, precision and the rate of false
positives complement each other, and the recall is one exactly where nothing is missing, if and only
if the entries that repeat do not make up for what is missing: without a missing entry the found
items are in both lists equally often altogether, and with some the surplus is smaller than their
number.
SOURCE: packages/ai-review/src/index.js:205-219 -/
theorem scores_proper_iff (expected actual : List α) :
    ProperScores expected actual (evaluateReviewRun expected actual) ↔
      (missingEntries expected actual = [] → surplus expected actual = 0) ∧
        (missingEntries expected actual ≠ [] →
          surplus expected actual < (missingEntries expected actual).length) := by
  obtain ⟨hprecision, hfalse, hcomplement⟩ := precision_complement expected actual
  by_cases hne : expected = []
  · subst hne
    refine ⟨fun _ => ⟨fun _ => rfl, fun h => absurd rfl h⟩, fun _ => ?_⟩
    exact ⟨hprecision, ⟨le_refl 0, zero_le_one⟩, hfalse, hcomplement, fun h => absurd rfl h⟩
  · rw [← recall_iff actual hne]
    constructor
    · intro h
      exact ⟨h.recall, h.complete hne⟩
    · rintro ⟨hrecall, hcomplete⟩
      exact ⟨hprecision, hrecall, hfalse, hcomplement, fun _ => hcomplete⟩

/-- Lists without repetitions have no surplus. -/
theorem surplus_eq_zero {expected actual : List α} (hexpected : expected.Nodup)
    (hactual : actual.Nodup) : surplus expected actual = 0 := by
  apply List.sum_eq_zero
  intro x hx
  obtain ⟨item, hitem, rfl⟩ := List.mem_map.mp hx
  obtain ⟨hin, hfound⟩ := List.mem_filter.mp hitem
  rw [List.count_eq_one_of_mem hexpected (List.mem_dedup.mp hin),
    List.count_eq_one_of_mem hactual (of_decide_eq_true hfound)]
  rfl

end

/-- One expected finding that is reported twice has a recall of two. -/
theorem repeated_finding_recall :
    ¬ ProperScores ["a"] ["a", "a"] (evaluateReviewRun ["a"] ["a", "a"]) := by
  intro h
  have hle := h.recall.2
  revert hle
  decide +kernel

end Xygo.Analysis
