import Mathlib
import Xygo.Model.RuntimeConfig

/-!
# Paths of the file system

What the modelled code calls of `node:path` on a POSIX system. An absolute path in normal form is
the list of its names from the root on; `path.resolve` and `path.join` work on texts and give such a
path, and `path.relative` gives a text.
-/

set_option autoImplicit false

namespace Xygo.Model

/-- An absolute path in normal form. -/
abbrev AbsolutePath : Type := List String

/-- A name a normal path may have. -/
def isName (name : String) : Bool :=
  name ≠ "" && name ≠ "." && name ≠ ".." && !name.toList.contains '/'

/-- Where a name of a text leads from a path. -/
def enterName (path : AbsolutePath) (name : String) : AbsolutePath :=
  if name = "" ∨ name = "." then path
  else if name = ".." then path.dropLast
  else path ++ [name]

/-- The names between the slashes of a text. -/
def namesOf (text : String) : List String := splitText (· = '/') text

/-- `path.join(root, text)`, without the slash it keeps at the end. -/
def joinPath (root : AbsolutePath) (text : String) : AbsolutePath :=
  (namesOf text).foldl enterName root

/-- `path.resolve(root, text)` -/
def resolvePath (root : AbsolutePath) (text : String) : AbsolutePath :=
  joinPath (if text.toList.head? = some '/' then [] else root) text

/-- The names that lead from one path to another. -/
def relativeNames : AbsolutePath → AbsolutePath → List String
  | own :: base, other :: target =>
    if own = other then relativeNames base target
    else ".." :: base.map (fun _ => "..") ++ other :: target
  | base, target => base.map (fun _ => "..") ++ target

/-- `path.relative(from, to)` -/
def relativePath (base target : AbsolutePath) : String :=
  "/".intercalate (relativeNames base target)

/-- The text of a path. -/
def AbsolutePath.text (path : AbsolutePath) : String :=
  if path = [] then "/" else String.join (path.map ("/" ++ ·))

/-- `path + suffix`, for a suffix without a slash. -/
def AbsolutePath.withSuffix (path : AbsolutePath) (suffix : String) : AbsolutePath :=
  path.dropLast ++ [path.getLastD "" ++ suffix]

/-! ### Names -/

/-- Proper names lead down. -/
theorem foldl_enterName {names : List String} (h : ∀ name ∈ names, isName name = true)
    (root : AbsolutePath) : names.foldl enterName root = root ++ names := by
  induction names generalizing root with
  | nil => simp
  | cons name names ih =>
    have hname := h name List.mem_cons_self
    simp only [isName, Bool.and_eq_true, decide_eq_true_eq] at hname
    have henter : enterName root name = root ++ [name] := by
      simp [enterName, hname.1.1.1, hname.1.1.2, hname.1.2]
    rw [List.foldl_cons, henter, ih fun other hother => h other (List.mem_cons_of_mem _ hother)]
    simp

/-- The names from a path to one below it. -/
theorem relativeNames_append (root names : AbsolutePath) :
    relativeNames root (root ++ names) = names := by
  induction root with
  | nil => cases names <;> simp [relativeNames]
  | cons name root ih => simpa [relativeNames] using ih

/-- The names of a text that begins with one. -/
theorem namesOf_cons {name rest : String} (h : '/' ∉ name.toList) :
    namesOf (name ++ "/" ++ rest) = name :: namesOf rest := by
  have hplain : ∀ c ∈ name.toList, decide (c = '/') = false := by
    intro c hc
    apply decide_eq_false
    rintro rfl
    exact h hc
  unfold namesOf splitText
  have hlist : (name ++ "/" ++ rest).toList = name.toList ++ '/' :: rest.toList := by simp
  rw [hlist, List.splitOnP_append_cons_of_forall_mem hplain '/' (by simp)]
  simp

/-- A text that begins with a slash begins with the empty name. -/
theorem namesOf_slash {text : String} (h : text.toList.head? = some '/') :
    (namesOf text).head? = some "" := by
  unfold namesOf splitText
  cases htext : text.toList with
  | nil =>
    rw [htext] at h
    cases h
  | cons c rest =>
    rw [htext] at h
    obtain rfl := Option.some.inj h
    simp [List.splitOnP_cons_eq_if_splitOnPPrepend]

/-- The only name of a text without a slash. -/
theorem namesOf_single {name : String} (h : '/' ∉ name.toList) : namesOf name = [name] := by
  have hplain : ∀ c ∈ name.toList, decide (c = '/') = false := by
    intro c hc
    apply decide_eq_false
    rintro rfl
    exact h hc
  unfold namesOf splitText
  rw [List.splitOnP_eq_singleton hplain]
  simp

/-- A name has no slash. -/
theorem slash_notMem_namesOf {text name : String} (h : name ∈ namesOf text) :
    '/' ∉ name.toList := by
  obtain ⟨part, hpart, rfl⟩ := List.mem_map.mp h
  rw [String.toList_ofList]
  clear h
  generalize text.toList = chars at hpart
  induction chars generalizing part with
  | nil =>
    rw [List.splitOnP_nil, List.mem_singleton] at hpart
    simp [hpart]
  | cons c rest ih =>
    rw [List.splitOnP_cons_eq_if_modifyHead] at hpart
    split at hpart
    · obtain rfl | hpart := List.mem_cons.mp hpart
      · simp
      · exact ih part hpart
    · rename_i hc
      cases hrest : rest.splitOnP (fun x => decide (x = '/')) with
      | nil => exact absurd hrest (List.splitOnP_ne_nil _ _)
      | cons first others =>
        rw [hrest, List.modifyHead_cons] at hpart
        obtain rfl | hpart := List.mem_cons.mp hpart
        · have hfirst := ih first (by simp [hrest])
          intro hslash
          obtain rfl | hslash := List.mem_cons.mp hslash
          · simp at hc
          · exact hfirst hslash
        · exact ih part (by simp [hrest, hpart])

/-- The names of two texts one after the other: the last of the first and the first of the second
become one. -/
theorem namesOf_append (text rest : String) :
    ∃ before last first after, namesOf text = before ++ [last] ∧ namesOf rest = first :: after ∧
      namesOf (text ++ rest) = before ++ (last ++ first) :: after := by
  have hchars : ∀ l m : List Char, ∃ before last first after,
      l.splitOnP (fun x => decide (x = '/')) = before ++ [last] ∧
      m.splitOnP (fun x => decide (x = '/')) = first :: after ∧
      (l ++ m).splitOnP (fun x => decide (x = '/')) = before ++ (last ++ first) :: after := by
    intro l m
    obtain ⟨first, after, hm⟩ := List.exists_cons_of_ne_nil
      (List.splitOnP_ne_nil (fun x => decide (x = '/')) m)
    induction l with
    | nil => exact ⟨[], [], first, after, by simp, hm, by simpa using hm⟩
    | cons c l ih =>
      obtain ⟨before, last, first', after', hl, hm', hlm⟩ := ih
      rw [List.cons_append, List.splitOnP_cons_eq_if_modifyHead,
        List.splitOnP_cons_eq_if_modifyHead, hl, hlm]
      by_cases hc : decide (c = '/') = true
      · exact ⟨[] :: before, last, first', after', by simp [hc], hm', by simp [hc]⟩
      · cases before with
        | nil => exact ⟨[], c :: last, first', after', by simp [hc], hm', by simp [hc]⟩
        | cons b before =>
          exact ⟨(c :: b) :: before, last, first', after', by simp [hc], hm', by simp [hc]⟩
  obtain ⟨before, last, first, after, hl, hm, hlm⟩ := hchars text.toList rest.toList
  refine ⟨before.map String.ofList, String.ofList last, String.ofList first,
    after.map String.ofList, ?_, ?_, ?_⟩
  · simp [namesOf, splitText, hl]
  · simp [namesOf, splitText, hm]
  · simp [namesOf, splitText, hlm]

end Xygo.Model
