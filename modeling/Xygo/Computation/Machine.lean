import Mathlib.Tactic.Common
import Mathlib.Data.List.Induction

/-!
# Machines, objects and their runs

Two ways a program takes one step after the other. A `Machine` moves between states
under labels, and a label that is not enabled has no step: the labels carry every choice
the environment and the scheduler make, so quantifying over label lists quantifies over
interleavings. An `Object` answers calls, one after the other, and every call has an
answer; a run records the answers beside the calls.

The rules proved here are the ones used to verify either: an invariant of all runs, an
invariant of the runs whose steps all meet a guard, and a simulation of one object by
another on the runs whose calls all meet a guard.
-/

set_option autoImplicit false

namespace Xygo.Computation

/-- A labelled transition system; `step s l = none` when `l` is not enabled in `s`. -/
structure Machine (σ ℓ : Type) where
  step : σ → ℓ → Option σ

namespace Machine

variable {σ ℓ : Type} (M : Machine σ ℓ)

/-- The state after a list of labels, if each of them is enabled in turn. -/
def run : σ → List ℓ → Option σ
  | s, [] => some s
  | s, l :: ls => (M.step s l).bind fun t => run t ls

/-- Each step of the run meets `guard`, a condition on the state before the step and
on the step's label. -/
def Meets (guard : σ → ℓ → Prop) : σ → List ℓ → Prop
  | _, [] => True
  | s, l :: ls => guard s l ∧ ∀ t, M.step s l = some t → Meets guard t ls

@[simp] theorem run_nil (s : σ) : M.run s [] = some s := rfl

@[simp] theorem run_cons (s : σ) (l : ℓ) (ls : List ℓ) :
    M.run s (l :: ls) = (M.step s l).bind fun t => M.run t ls := rfl

@[simp] theorem meets_nil (guard : σ → ℓ → Prop) (s : σ) : M.Meets guard s [] := trivial

@[simp] theorem meets_cons (guard : σ → ℓ → Prop) (s : σ) (l : ℓ) (ls : List ℓ) :
    M.Meets guard s (l :: ls) ↔ guard s l ∧ ∀ t, M.step s l = some t → M.Meets guard t ls :=
  Iff.rfl

/-- A run over an appended list is a run over the first part followed by one over the
second. -/
theorem run_append (s : σ) (ls ks : List ℓ) :
    M.run s (ls ++ ks) = (M.run s ls).bind fun t => M.run t ks := by
  induction ls generalizing s with
  | nil => rfl
  | cons l ls ih =>
    simp only [List.cons_append, run_cons]
    cases M.step s l with
    | none => rfl
    | some t => exact ih t

/-- The last step of a run that ends with the label `l`. -/
theorem run_concat {s u : σ} {ls : List ℓ} {l : ℓ} (h : M.run s (ls ++ [l]) = some u) :
    ∃ t, M.run s ls = some t ∧ M.step t l = some u := by
  rw [run_append] at h
  obtain ⟨t, ht, hu⟩ := Option.bind_eq_some_iff.mp h
  refine ⟨t, ht, ?_⟩
  simpa [run_cons] using hu

/-- A guard that is met along a run is met along its beginning. -/
theorem meets_of_append {guard : σ → ℓ → Prop} {s : σ} {ls ks : List ℓ}
    (h : M.Meets guard s (ls ++ ks)) : M.Meets guard s ls := by
  induction ls generalizing s with
  | nil => trivial
  | cons l ls ih => exact ⟨h.1, fun t ht => ih (h.2 t ht)⟩

/-- A guard that some labels meet in every state is met by every run under them. -/
theorem meets_of_forall {guard : σ → ℓ → Prop} {ls : List ℓ} (h : ∀ l ∈ ls, ∀ s, guard s l)
    (s : σ) : M.Meets guard s ls := by
  induction ls generalizing s with
  | nil => trivial
  | cons l ls ih =>
    exact ⟨h l List.mem_cons_self s, fun t _ => ih (fun k hk => h k (List.mem_cons_of_mem _ hk)) t⟩

/-- **The invariant rule under a guard.** What holds at the start and is kept by every
step that meets the guard holds at the end of every run whose steps all meet it. -/
theorem invariant_of_meets {guard : σ → ℓ → Prop} {I : σ → Prop}
    (keep : ∀ s l t, I s → guard s l → M.step s l = some t → I t)
    {s t : σ} {ls : List ℓ} (hs : I s) (hg : M.Meets guard s ls) (hr : M.run s ls = some t) :
    I t := by
  induction ls generalizing s with
  | nil =>
    obtain rfl : s = t := by simpa using hr
    exact hs
  | cons l ls ih =>
    obtain ⟨hl, hrest⟩ := hg
    obtain ⟨u, hu, hr'⟩ := Option.bind_eq_some_iff.mp hr
    exact ih (keep s l u hs hl hu) (hrest u hu) hr'

/-- **The invariant rule.** What holds at the start and is kept by every step holds at
the end of every run. -/
theorem invariant {I : σ → Prop} (keep : ∀ s l t, I s → M.step s l = some t → I t)
    {s t : σ} {ls : List ℓ} (hs : I s) (hr : M.run s ls = some t) : I t := by
  induction ls generalizing s with
  | nil =>
    obtain rfl : s = t := by simpa using hr
    exact hs
  | cons l ls ih =>
    obtain ⟨u, hu, hr'⟩ := Option.bind_eq_some_iff.mp hr
    exact ih (keep s l u hs hu) hr'

/-- **The guarantee rule under a guard.** What every step promises whose state satisfies the
invariant and which meets the guard is promised along every run whose steps all meet it. -/
theorem meets_of_meets {guard promise : σ → ℓ → Prop} {I : σ → Prop}
    (keep : ∀ s l t, I s → guard s l → M.step s l = some t → I t)
    (holds : ∀ s l, I s → guard s l → promise s l)
    {s : σ} {ls : List ℓ} (hs : I s) (hg : M.Meets guard s ls) : M.Meets promise s ls := by
  induction ls generalizing s with
  | nil => trivial
  | cons l ls ih =>
    obtain ⟨hl, hrest⟩ := hg
    exact ⟨holds s l hs hl, fun t ht => ih (keep s l t hs hl ht) (hrest t ht)⟩

/-- A guard is met along a run iff every prefix of the run ends in a state from which
the next step meets it. -/
theorem meets_iff_each {guard : σ → ℓ → Prop} {s : σ} {ls : List ℓ} :
    M.Meets guard s ls ↔
      ∀ before l after t, ls = before ++ l :: after → M.run s before = some t → guard t l := by
  induction ls generalizing s with
  | nil => simp
  | cons k ks ih =>
    constructor
    · rintro ⟨hk, hrest⟩ before l after t heq hrun
      cases before with
      | nil =>
        obtain ⟨rfl, rfl⟩ : k = l ∧ ks = after := by simpa using heq
        obtain rfl : s = t := by simpa using hrun
        exact hk
      | cons b before =>
        obtain ⟨rfl, rfl⟩ : k = b ∧ ks = before ++ l :: after := by simpa using heq
        obtain ⟨u, hu, hrun'⟩ := Option.bind_eq_some_iff.mp hrun
        exact ih.mp (hrest u hu) before l after t rfl hrun'
    · intro h
      refine ⟨h [] k ks s rfl rfl, fun u hu => ih.mpr ?_⟩
      intro before l after t heq hrun
      exact h (k :: before) l after t (by simp [heq]) (by simp [hu, hrun])

/-- **The exact condition of a property.** Where a step from a state of the invariant keeps the
property exactly when it meets the guard, and the guard asks nothing of a step that is not enabled,
the property holds in every state of a run exactly when each of its steps meets the guard. -/
theorem throughout_iff_meets {allowed : ℓ → Prop} {I P : σ → Prop} {guard : σ → ℓ → Prop}
    (keep : ∀ s l t, I s → allowed l → M.step s l = some t → I t)
    (exact : ∀ s l t, I s → P s → allowed l → M.step s l = some t → (P t ↔ guard s l))
    (idle : ∀ s l, M.step s l = none → guard s l) {s : σ} (hI : I s) (hP : P s) {ls : List ℓ}
    (h : ∀ l ∈ ls, allowed l) :
    (∀ before after t, ls = before ++ after → M.run s before = some t → P t) ↔
      M.Meets guard s ls := by
  induction ls generalizing s with
  | nil =>
    refine ⟨fun _ => trivial, fun _ before after t hsplit hrun => ?_⟩
    obtain ⟨rfl, -⟩ := List.nil_eq_append_iff.mp hsplit
    obtain rfl : s = t := by simpa using hrun
    exact hP
  | cons l ls ih =>
    have hl : allowed l := h l List.mem_cons_self
    have hls : ∀ k ∈ ls, allowed k := fun k hk => h k (List.mem_cons_of_mem _ hk)
    constructor
    · intro hall
      have hnext : ∀ t, M.step s l = some t → P t := fun t ht => hall [l] ls t rfl (by simp [ht])
      refine ⟨?_, fun t ht => (ih (keep s l t hI hl ht) (hnext t ht) hls).mp ?_⟩
      · cases hstep : M.step s l with
        | none => exact idle s l hstep
        | some t => exact (exact s l t hI hP hl hstep).mp (hnext t hstep)
      · intro before after u hsplit hrun
        exact hall (l :: before) after u (by rw [hsplit, List.cons_append]) (by simp [ht, hrun])
    · rintro ⟨hguard, hrest⟩ before after u hsplit hrun
      cases before with
      | nil =>
        obtain rfl : s = u := by simpa using hrun
        exact hP
      | cons k before =>
        obtain ⟨rfl, htail⟩ : l = k ∧ ls = before ++ after := by simpa using hsplit
        obtain ⟨t, ht, hrun'⟩ := Option.bind_eq_some_iff.mp hrun
        have hnext : P t := (exact s l t hI hP hl ht).mpr hguard
        exact (ih (keep s l t hI hl ht) hnext hls).mpr (hrest t ht) before after u htail hrun'

/-- Run a list of labels and test a guard at every step. -/
def check (test : σ → ℓ → Bool) : σ → List ℓ → Bool
  | _, [] => true
  | s, l :: ls =>
    test s l &&
      match M.step s l with
      | some t => check test t ls
      | none => true

/-- A run whose steps all pass a test meets the guard the test decides. -/
theorem meets_of_check {test : σ → ℓ → Bool} {guard : σ → ℓ → Prop}
    (sound : ∀ s l, test s l = true → guard s l) (s : σ) (ls : List ℓ)
    (h : M.check test s ls = true) : M.Meets guard s ls := by
  induction ls generalizing s with
  | nil => trivial
  | cons l ls ih =>
    simp only [check, Bool.and_eq_true] at h
    refine ⟨sound s l h.1, fun t ht => ih t ?_⟩
    simpa [ht] using h.2

end Machine

/-- An object: each call has an answer and leaves a state. -/
structure Object (σ κ α : Type) where
  call : κ → σ → α × σ

namespace Object

variable {σ τ κ α β : Type} (O : Object σ κ α)

/-- Make the calls in order; the answers come back beside their calls. -/
def run : σ → List κ → List (κ × α) × σ
  | s, [] => ([], s)
  | s, c :: cs =>
    let answer := O.call c s
    let rest := run answer.2 cs
    ((c, answer.1) :: rest.1, rest.2)

@[simp] theorem run_nil (s : σ) : O.run s [] = ([], s) := rfl

@[simp] theorem run_cons (s : σ) (c : κ) (cs : List κ) :
    O.run s (c :: cs) =
      ((c, (O.call c s).1) :: (O.run (O.call c s).2 cs).1, (O.run (O.call c s).2 cs).2) := rfl

/-- A run over an appended list is two runs, one after the other. -/
theorem run_append (s : σ) (cs ds : List κ) :
    O.run s (cs ++ ds) =
      ((O.run s cs).1 ++ (O.run (O.run s cs).2 ds).1, (O.run (O.run s cs).2 ds).2) := by
  induction cs generalizing s with
  | nil => rfl
  | cons c cs ih => simp [ih]

/-- **The history rule.** A relation between the log so far and the state that holds at
the start, and that every call keeps as it appends its own answer to the log, holds after
every run. -/
theorem history {I : List (κ × α) → σ → Prop} {s : σ} (start : I [] s)
    (keep : ∀ log t c, I log t → I (log ++ [(c, (O.call c t).1)]) (O.call c t).2)
    (cs : List κ) : I (O.run s cs).1 (O.run s cs).2 := by
  induction cs using List.reverseRecOn with
  | nil => exact start
  | append_singleton cs c ih =>
    rw [run_append]
    exact keep _ _ c ih

/-- Each call of the run meets `guard`, a condition on the state before the call. -/
def Meets (guard : σ → κ → Prop) : σ → List κ → Prop
  | _, [] => True
  | s, c :: cs => guard s c ∧ Meets guard (O.call c s).2 cs

/-- A guard that is weaker at every call is met by the run as well. -/
theorem meets_mono {guard weaker : σ → κ → Prop} (h : ∀ s c, guard s c → weaker s c) {s : σ}
    {cs : List κ} (hg : O.Meets guard s cs) : O.Meets weaker s cs := by
  induction cs generalizing s with
  | nil => trivial
  | cons c cs ih => exact ⟨h s c hg.1, ih hg.2⟩

/-- **The exact condition of an invariant.** Where a call from a state of the invariant keeps it
exactly when it meets the guard, the invariant holds all along a run exactly when each of its calls
meets the guard. -/
theorem throughout_iff_meets {I : σ → Prop} {guard : σ → κ → Prop}
    (keep : ∀ s c, I s → (I (O.call c s).2 ↔ guard s c)) {s : σ} (hs : I s) (cs : List κ) :
    (∀ before after, cs = before ++ after → I (O.run s before).2) ↔ O.Meets guard s cs := by
  induction cs generalizing s with
  | nil =>
    refine ⟨fun _ => trivial, fun _ before after hsplit => ?_⟩
    obtain ⟨rfl, -⟩ := List.nil_eq_append_iff.mp hsplit
    exact hs
  | cons c cs ih =>
    constructor
    · intro h
      have hnext : I (O.call c s).2 := h [c] cs rfl
      refine ⟨(keep s c hs).mp hnext, (ih hnext).mp ?_⟩
      intro before after hsplit
      exact h (c :: before) after (by rw [hsplit, List.cons_append])
    · rintro ⟨hguard, hrest⟩ before after hsplit
      have hnext : I (O.call c s).2 := (keep s c hs).mpr hguard
      cases before with
      | nil => exact hs
      | cons d before =>
        rw [List.cons_append, List.cons.injEq] at hsplit
        obtain ⟨rfl, htail⟩ := hsplit
        exact (ih hnext).mpr hrest before after htail

/-- **The guarantee rule under a guard.** What every call promises whose state satisfies the
invariant and which meets the guard is promised along every run whose calls all meet it. -/
theorem meets_of_meets {guard promise : σ → κ → Prop} {I : σ → Prop}
    (keep : ∀ s c, I s → guard s c → promise s c ∧ I (O.call c s).2) {s : σ} {cs : List κ}
    (hs : I s) (hg : O.Meets guard s cs) : O.Meets promise s cs := by
  induction cs generalizing s with
  | nil => trivial
  | cons c cs ih =>
    obtain ⟨hpromise, hnext⟩ := keep s c hs hg.1
    exact ⟨hpromise, ih hnext hg.2⟩

/-- What holds of every entry of the log of a run is a guard the run meets. -/
theorem meets_of_log {R : κ → α → Prop} {s : σ} {cs : List κ}
    (h : ∀ entry ∈ (O.run s cs).1, R entry.1 entry.2) :
    O.Meets (fun s c => R c (O.call c s).1) s cs := by
  induction cs generalizing s with
  | nil => trivial
  | cons c cs ih =>
    exact ⟨h _ List.mem_cons_self, ih fun entry hentry => h entry (List.mem_cons_of_mem _ hentry)⟩

/-- **The invariant rule under answers.** What holds at the start and is kept by every call whose
answer is of the kind `R` holds at the end of every run whose answers all are. -/
theorem invariant_of_answers {I : σ → Prop} {R : κ → α → Prop}
    (keep : ∀ s c, I s → R c (O.call c s).1 → I (O.call c s).2) {s : σ} (hs : I s) {cs : List κ}
    (h : ∀ entry ∈ (O.run s cs).1, R entry.1 entry.2) : I (O.run s cs).2 := by
  induction cs generalizing s with
  | nil => exact hs
  | cons c cs ih =>
    have hhead : R c (O.call c s).1 := h _ List.mem_cons_self
    exact ih (keep s c hs hhead) fun entry hentry => h entry (List.mem_cons_of_mem _ hentry)

theorem meets_true (s : σ) (cs : List κ) : O.Meets (fun _ _ => True) s cs := by
  induction cs generalizing s with
  | nil => trivial
  | cons c cs ih => exact ⟨trivial, ih _⟩

/-- **The settling rule.** Where every call from the start that meets the guard either changes
nothing and is no success, or reaches a state that calls do not leave, a run whose calls all meet
it has changed nothing and had no success, or it has reached such a state. -/
theorem settles {Done : σ → Prop} {R : α → Prop} {G : σ → κ → Prop} {start : σ}
    (once : ∀ c, G start c →
      (O.call c start).2 = start ∧ ¬ R (O.call c start).1 ∨ Done (O.call c start).2)
    (stays : ∀ s c, Done s → Done (O.call c s).2) {cs : List κ} (hg : O.Meets G start cs) :
    (O.run start cs).2 = start ∧ (∀ entry ∈ (O.run start cs).1, ¬ R entry.2) ∨
      Done (O.run start cs).2 := by
  have settled : ∀ s, Done s → ∀ ds : List κ, Done (O.run s ds).2 := by
    intro s hs ds
    induction ds generalizing s with
    | nil => exact hs
    | cons d ds ih => exact ih _ (stays s d hs)
  induction cs with
  | nil => exact Or.inl ⟨rfl, fun _ h => nomatch h⟩
  | cons c cs ih =>
    obtain ⟨hsame, hfailed⟩ | hdone := once c hg.1
    · rw [run_cons]
      have hrest := hg.2
      rw [hsame] at hrest ⊢
      obtain ⟨hend, hlog⟩ | hdone := ih hrest
      · refine Or.inl ⟨hend, ?_⟩
        intro entry hentry
        obtain rfl | hentry := List.mem_cons.mp hentry
        · exact hfailed
        · exact hlog entry hentry
      · exact Or.inr hdone
    · exact Or.inr (settled _ hdone cs)

/-- **The simulation rule.** If related states give related answers and stay related under
every call that meets the guard `G`, a run whose calls all meet it gives related answers and
ends in related states. -/
theorem simulation (P : Object τ κ β) {R : σ → τ → Prop} {A : κ → α → β → Prop}
    {G : σ → κ → Prop}
    (keep : ∀ s t c, R s t → G s c →
      A c (O.call c s).1 (P.call c t).1 ∧ R (O.call c s).2 (P.call c t).2)
    {s : σ} {t : τ} (cs : List κ) (hR : R s t) (hg : O.Meets G s cs) :
    List.Forall₂ (fun a b => a.1 = b.1 ∧ A a.1 a.2 b.2) (O.run s cs).1 (P.run t cs).1 ∧
      R (O.run s cs).2 (P.run t cs).2 := by
  induction cs generalizing s t with
  | nil => exact ⟨.nil, hR⟩
  | cons c cs ih =>
    obtain ⟨hA, hR'⟩ := keep s t c hR hg.1
    obtain ⟨hlog, hend⟩ := ih hR' hg.2
    exact ⟨.cons ⟨rfl, hA⟩ hlog, hend⟩

end Object

end Xygo.Computation
