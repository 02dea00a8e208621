import Xygo.Model.Dashboards

/-!
# Counted statuses

The executive view counts the statuses of projects into an object literal. What a name holds after
the projects is what its own projects made of what an object literal holds of it (`read_tallied`):
a number for a name of its own, and a text, or nothing new, for a name of `Object.prototype`. So the
counts are right exactly where no project has such a status (`statuses_counted_iff`).
-/

set_option autoImplicit false

namespace Xygo.Analysis

open Xygo.Computation Xygo.Model

/-- The status of a project is a text, or it has none. -/
def HasTextStatus (project : Members) : Prop :=
  (Json.object project).member? "status" = none ∨
    (Json.object project).member? "status" = some .null ∨
    ∃ status, (Json.object project).member? "status" = some (.string status)

/-- The status a project is counted under. -/
def statusOf (project : Members) : String :=
  match (Json.object project).member? "status" with
  | some (.string status) => status
  | _ => "unknown"

/-- What an executive view must tell about the statuses of projects. -/
structure CountsStatuses (projects : List Members) (view : ExecutivePortfolioView) : Prop where
  total : view.totalProjects = projects.length
  each : ∀ status, view.projectStatuses.get status =
    if status ∈ projects.map statusOf then
      some (.number ((projects.map statusOf).count status)) else none
  sum : ∃ counts : List ℕ,
    view.projectStatuses.values = counts.map .number ∧ counts.sum = view.totalProjects

/-- The object of counts after some names. -/
def tallied (names : List String) : Tallies :=
  names.foldl (fun tallies name => tallies.write name (tallies.read name).plusOne) .empty

/-- What so many additions of one make of a value. -/
def Tally.plus (value : Tally) : ℕ → Tally
  | 0 => value
  | count + 1 => (Tally.plus value count).plusOne

theorem tallied_append (names : List String) (name : String) :
    tallied (names ++ [name]) =
      (tallied names).write name ((tallied names).read name).plusOne := by
  rw [tallied, List.foldl_append]
  rfl

/-! ## One name -/

theorem plus_number (start count : ℕ) :
    Tally.plus (.number start) count = .number (start + count) := by
  induction count with
  | zero => rfl
  | succ count ih => rw [Tally.plus, ih]; rfl

theorem plus_text (start : String) (count : ℕ) :
    ∃ text, Tally.plus (.text start) count = .text text := by
  induction count with
  | zero => exact ⟨start, rfl⟩
  | succ count ih =>
    obtain ⟨text, htext⟩ := ih
    exact ⟨text ++ "1", by rw [Tally.plus, htext]; rfl⟩

/-- INTERNAL: a name holds what its own projects made of what an object literal holds of it; the
name `__proto__` never becomes a member. By induction on the names. -/
theorem get_tallied (names : List String) (name : String) :
    (tallied names).get name =
      if name = "__proto__" ∨ name ∉ names then none
      else some (Tally.plus (Tallies.read .empty name) (names.count name)) := by
  induction names using List.reverseRecOn with
  | nil => simp [tallied]
  | append_singleton names last ih =>
    rw [tallied_append]
    unfold Tallies.write
    by_cases hproto : last = "__proto__"
    · rw [if_pos hproto, ih]
      by_cases hname : name = "__proto__"
      · simp [hname]
      · have hne : name ≠ last := fun h => hname (h.trans hproto)
        simp [hname, hne, List.count_append, Ne.symm hne]
    · rw [if_neg hproto, OrderedMap.get_set]
      by_cases hname : name = last
      · subst hname
        have hread : (tallied names).read name =
            Tally.plus (Tallies.read .empty name) (names.count name) := by
          unfold Tallies.read at ih ⊢
          rw [ih]
          by_cases hin : name ∈ names
          · simp [hproto, hin]
          · simp [hproto, hin, List.count_eq_zero_of_not_mem hin, Tally.plus]
        simp [hproto, hread, List.count_append, Tally.plus]
      · simp [hname, ih, List.count_append, Ne.symm hname]

/-- INTERNAL: a name an object literal does not have counts from zero. -/
theorem read_empty_own {name : String} (h : name ∉ prototypeNames) :
    Tallies.read .empty name = .number 0 := by
  simp only [prototypeNames, List.mem_cons, not_or] at h
  simp [Tallies.read, inheritedText, h.1, h.2]

/-- INTERNAL: one it has counts from a text. -/
theorem read_empty_inherited {name : String} (h : name ∈ prototypeNames) :
    ∃ text, Tallies.read .empty name = .text text := by
  simp only [prototypeNames, List.mem_cons] at h
  by_cases hproto : name = "__proto__"
  · exact ⟨_, by simp [Tallies.read, inheritedText, hproto]; rfl⟩
  · have hfunction : name ∈ prototypeFunctions := h.resolve_left hproto
    exact ⟨_, by simp [Tallies.read, inheritedText, hproto, hfunction]; rfl⟩

/-- INTERNAL: a name is counted as it should be exactly where no object literal has it.
SOURCE: packages/dashboards/src/index.js:4 -/
theorem get_tallied_iff {names : List String} {name : String} (hin : name ∈ names) :
    (tallied names).get name = some (.number (names.count name)) ↔ name ∉ prototypeNames := by
  rw [get_tallied]
  constructor
  · intro h hname
    obtain ⟨text, htext⟩ := read_empty_inherited hname
    obtain ⟨sum, hsum⟩ := plus_text text (names.count name)
    rw [htext, hsum] at h
    split at h
    · cases h
    · cases h
  · intro h
    have hproto : name ≠ "__proto__" := by
      rintro rfl
      exact h List.mem_cons_self
    rw [read_empty_own h, plus_number, if_neg (by simp [hproto, hin]), Nat.zero_add]

/-! ## All names -/

/-- INTERNAL: where every name is counted, the counts add up. -/
theorem sum_of_counted {tallies : Tallies} {names : List String}
    (h : ∀ name, tallies.get name =
      if name ∈ names then some (.number (names.count name)) else none) :
    ∃ counts : List ℕ, tallies.values = counts.map .number ∧ counts.sum = names.length := by
  have hvalue : ∀ entry ∈ tallies.entries,
      entry.1 ∈ names ∧ entry.2 = .number (names.count entry.1) := by
    intro entry hentry
    have hget := h entry.1
    rw [OrderedMap.get_eq_some.mpr hentry] at hget
    split at hget
    · exact ⟨by assumption, Option.some.inj hget⟩
    · cases hget
  have hkeys : tallies.keys.Perm names.dedup := by
    rw [List.perm_ext_iff_of_nodup tallies.nodup_keys names.nodup_dedup]
    intro name
    rw [List.mem_dedup]
    constructor
    · intro hname
      obtain ⟨entry, hentry, rfl⟩ := List.mem_map.mp hname
      exact (hvalue entry hentry).1
    · intro hname
      have hget := h name
      rw [if_pos hname, OrderedMap.get_eq_some] at hget
      exact List.mem_map.mpr ⟨_, hget, rfl⟩
  refine ⟨tallies.keys.map fun name => names.count name, ?_, ?_⟩
  · rw [OrderedMap.values, OrderedMap.keys, List.map_map, List.map_map]
    apply List.map_congr_left
    intro entry hentry
    exact (hvalue entry hentry).2
  · rw [(hkeys.map _).sum_eq]
    exact List.sum_map_count_dedup_eq_length names

/-- INTERNAL: the counted names of projects with text statuses.
SOURCE: packages/dashboards/src/index.js:1-7 -/
theorem groupCount_eq {projects : List Members} (h : ∀ project ∈ projects, HasTextStatus project) :
    groupCount projects "status" = .ok (tallied (projects.map statusOf)) := by
  unfold groupCount tallied
  generalize OrderedMap.empty = start
  induction projects generalizing start with
  | nil => rfl
  | cons project projects ih =>
    have hkey : groupKey project "status" = .ok (statusOf project) := by
      unfold groupKey statusOf Json.orElse
      obtain hnone | hnull | ⟨status, hstatus⟩ := h project List.mem_cons_self
      · rw [hnone]
        rfl
      · rw [hnull]
        rfl
      · rw [hstatus]
        rfl
    rw [List.foldlM_cons, hkey, List.map_cons, List.foldl_cons]
    exact ih (fun other hother => h other (List.mem_cons_of_mem _ hother)) _

/-- INTERNAL: the statuses and the total of the view.
SOURCE: packages/dashboards/src/index.js:38-41 -/
theorem buildExecutivePortfolioView_eq {input : PortfolioInput}
    (h : ∀ project ∈ input.projects.getD [], HasTextStatus project) :
    ∃ view, buildExecutivePortfolioView input = .ok view ∧
      view.totalProjects = (input.projects.getD []).length ∧
      view.projectStatuses = tallied ((input.projects.getD []).map statusOf) := by
  unfold buildExecutivePortfolioView
  rw [groupCount_eq h]
  exact ⟨_, rfl, rfl, rfl⟩

/-- **Counted statuses.** For projects whose statuses are texts or absent, the view reports for each
status the number of its projects, and the counts are numbers that add up to all projects, if and
only if no project has the name of a member of `Object.prototype` as its status.
SOURCE: packages/dashboards/src/index.js:1-7, 37-54 -/
theorem statuses_counted_iff (input : PortfolioInput)
    (h : ∀ project ∈ input.projects.getD [], HasTextStatus project) :
    (∃ view, buildExecutivePortfolioView input = .ok view ∧
        CountsStatuses (input.projects.getD []) view) ↔
      ∀ project ∈ input.projects.getD [], statusOf project ∉ prototypeNames := by
  obtain ⟨view, hview, htotal, hstatuses⟩ := buildExecutivePortfolioView_eq h
  constructor
  · rintro ⟨other, hother, hcounts⟩ project hproject
    obtain rfl : view = other := Except.ok.inj (hview.symm.trans hother)
    have hin : statusOf project ∈ (input.projects.getD []).map statusOf :=
      List.mem_map_of_mem hproject
    have heach := hcounts.each (statusOf project)
    rw [if_pos hin, hstatuses] at heach
    exact (get_tallied_iff hin).mp heach
  · intro hown
    have heach : ∀ status, view.projectStatuses.get status =
        if status ∈ (input.projects.getD []).map statusOf then
          some (.number (((input.projects.getD []).map statusOf).count status)) else none := by
      intro status
      rw [hstatuses]
      by_cases hin : status ∈ (input.projects.getD []).map statusOf
      · obtain ⟨project, hproject, rfl⟩ := List.mem_map.mp hin
        rw [if_pos hin]
        exact (get_tallied_iff hin).mpr (hown project hproject)
      · rw [if_neg hin, get_tallied, if_pos (Or.inr hin)]
    obtain ⟨counts, hvalues, hsum⟩ := sum_of_counted heach
    refine ⟨view, hview, htotal, heach, counts, hvalues, ?_⟩
    rw [hsum, List.length_map, htotal]

/-- Two drafts and a project without a status. -/
def plainPortfolio : PortfolioInput where
  tenantId := "tenant-a"
  projects := some [[("status", .string "draft")], [("status", .string "draft")], []]

theorem plainPortfolio_text :
    ∀ project ∈ plainPortfolio.projects.getD [], HasTextStatus project := by
  intro project hproject
  simp only [plainPortfolio, Option.getD_some, List.mem_cons, List.not_mem_nil, or_false]
    at hproject
  obtain rfl | rfl | rfl := hproject
  · exact Or.inr (Or.inr ⟨"draft", rfl⟩)
  · exact Or.inr (Or.inr ⟨"draft", rfl⟩)
  · exact Or.inl rfl

/-- Their statuses are counted. -/
theorem statuses_counted_plain : ∃ view, buildExecutivePortfolioView plainPortfolio = .ok view ∧
    CountsStatuses (plainPortfolio.projects.getD []) view :=
  (statuses_counted_iff plainPortfolio plainPortfolio_text).mpr (by decide +kernel)

/-- A project whose status is `constructor`. -/
def constructorPortfolio : PortfolioInput where
  tenantId := "tenant-a"
  projects := some [[("status", .string "constructor")]]

/-- Its count is the text of a function, followed by a one. -/
theorem constructor_status_counted_as_text :
    ¬ ∃ view, buildExecutivePortfolioView constructorPortfolio = .ok view ∧
      CountsStatuses (constructorPortfolio.projects.getD []) view := by
  rintro ⟨view, hview, hcounts⟩
  obtain ⟨counts, hvalues, -⟩ := hcounts.sum
  have htext : Tally.text "function Object() \x7b [native code] \x7d1" ∈
      view.projectStatuses.values := by
    obtain rfl := Except.ok.inj hview
    decide +kernel
  rw [hvalues] at htext
  obtain ⟨count, -, hcount⟩ := List.mem_map.mp htext
  cases hcount

end Xygo.Analysis
