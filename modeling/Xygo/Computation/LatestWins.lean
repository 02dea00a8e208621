import Mathlib

/-!
# Registers in which the latest event wins

A register carries the time of the event it last took. An event older than that is stale
and is dropped; any other is taken. The register that results from a list of events depends
on their order, since an event can be dropped because a later one came first: the rules
here say what does not depend on it.
-/

set_option autoImplicit false

namespace Xygo.Computation

/-- A register over states `σ`, events `ε` and times `τ`: taking an event stamps the state
with its time. -/
structure Register (σ ε τ : Type) [LinearOrder τ] where
  time : ε → τ
  stamp : σ → Option τ
  next : σ → ε → σ
  stamp_next : ∀ s e, stamp (next s e) = some (time e)

namespace Register

variable {σ ε τ : Type} [LinearOrder τ] (R : Register σ ε τ)

/-- The event is older than what the state was stamped with. -/
def stale (s : σ) (e : ε) : Bool := (R.stamp s).any fun t => R.time e < t

/-- Take an event unless it is stale. -/
def apply (s : σ) (e : ε) : σ := if R.stale s e then s else R.next s e

/-- The state after a list of events, in their order of arrival. -/
def run (s : σ) (es : List ε) : σ := es.foldl R.apply s

@[simp] theorem run_nil (s : σ) : R.run s [] = s := rfl

@[simp] theorem run_cons (s : σ) (e : ε) (es : List ε) :
    R.run s (e :: es) = R.run (R.apply s e) es := rfl

/-- Events in two parts arrive one part after the other. -/
theorem run_append (s : σ) (es fs : List ε) : R.run s (es ++ fs) = R.run (R.run s es) fs :=
  List.foldl_append

/-- An event that is taken. -/
theorem apply_of_fresh {s : σ} {e : ε} (h : R.stale s e = false) : R.apply s e = R.next s e := by
  simp [apply, h]

/-- An event that is dropped. -/
theorem apply_of_stale {s : σ} {e : ε} (h : R.stale s e = true) : R.apply s e = s := by
  simp [apply, h]

/-- An event older than the one just taken is stale. -/
theorem stale_next {s : σ} {e m : ε} (h : R.time e < R.time m) :
    R.stale (R.next s m) e = true := by
  simp [stale, R.stamp_next, h]

/-- What was stale stays stale. -/
theorem stale_apply {s : σ} {e : ε} (m : ε) (h : R.stale s e = true) :
    R.stale (R.apply s m) e = true := by
  cases hm : R.stale s m with
  | true => rwa [R.apply_of_stale hm]
  | false =>
    rw [R.apply_of_fresh hm]
    obtain ⟨t, ht, hlt⟩ : ∃ t, R.stamp s = some t ∧ decide (R.time e < t) = true := by
      simpa [stale, Option.any_eq_true] using h
    have hle : t ≤ R.time m := by
      simpa [stale, ht] using hm
    exact R.stale_next (lt_of_lt_of_le (of_decide_eq_true hlt) hle)

/-- Nothing changes when every event is stale. -/
theorem run_of_stale {s : σ} {es : List ε} (h : ∀ e ∈ es, R.stale s e = true) :
    R.run s es = s := by
  induction es with
  | nil => rfl
  | cons e es ih =>
    rw [run_cons, R.apply_of_stale (h e List.mem_cons_self)]
    exact ih fun x hx => h x (List.mem_cons_of_mem _ hx)

/-- The stamp after some events is the first one or the time of one of them. -/
theorem stamp_run (s : σ) (es : List ε) :
    R.stamp (R.run s es) = R.stamp s ∨ ∃ e ∈ es, R.stamp (R.run s es) = some (R.time e) := by
  induction es generalizing s with
  | nil => exact Or.inl rfl
  | cons e es ih =>
    obtain hsame | ⟨x, hx, htime⟩ := ih (R.apply s e)
    · cases he : R.stale s e with
      | true => exact Or.inl (by rw [run_cons, hsame, R.apply_of_stale he])
      | false =>
        refine Or.inr ⟨e, List.mem_cons_self, ?_⟩
        rw [run_cons, hsame, R.apply_of_fresh he, R.stamp_next]
    · exact Or.inr ⟨x, List.mem_cons_of_mem _ hx, htime⟩

/-- **The latest event is taken last.** When it is not stale at the start, the register ends in
the state it makes of what the events before it left. -/
theorem run_latest {s : σ} {before after : List ε} {m : ε} (hm : R.stale s m = false)
    (hbefore : ∀ e ∈ before, R.time e ≤ R.time m) (hafter : ∀ e ∈ after, R.time e < R.time m) :
    R.run s (before ++ m :: after) = R.next (R.run s before) m := by
  have hfresh : R.stale (R.run s before) m = false := by
    obtain hsame | ⟨e, he, htime⟩ := R.stamp_run s before
    · simpa [stale, hsame] using hm
    · simpa [stale, htime] using hbefore e he
  rw [run_append, run_cons, R.apply_of_fresh hfresh]
  exact R.run_of_stale fun e he => R.stale_next (hafter e he)

/-- The latest event may come first: what follows it is stale. -/
theorem run_latest_first {s : σ} {after : List ε} {m : ε} (hm : R.stale s m = false)
    (hafter : ∀ e ∈ after, R.time e < R.time m) : R.run s (m :: after) = R.next s m := by
  rw [run_cons, R.apply_of_fresh hm]
  exact R.run_of_stale fun e he => R.stale_next (hafter e he)

/-- Among some events one is the latest. -/
theorem exists_latest {es : List ε} (h : es ≠ []) : ∃ m ∈ es, ∀ e ∈ es, R.time e ≤ R.time m := by
  induction es with
  | nil => exact absurd rfl h
  | cons e es ih =>
    by_cases hnil : es = []
    · subst hnil
      exact ⟨e, List.mem_cons_self, by simp⟩
    · obtain ⟨m, hm, hmax⟩ := ih hnil
      rcases le_total (R.time e) (R.time m) with hle | hle
      · refine ⟨m, List.mem_cons_of_mem _ hm, fun x hx => ?_⟩
        rcases List.mem_cons.mp hx with rfl | hx
        · exact hle
        · exact hmax x hx
      · refine ⟨e, List.mem_cons_self, fun x hx => ?_⟩
        rcases List.mem_cons.mp hx with rfl | hx
        · exact le_refl _
        · exact (hmax x hx).trans hle

section Fields

variable {γ : Type} (field : σ → γ)

/-- **A field only some events write.** It keeps its value when every event that writes it and
is not stale at the start writes the value it has. -/
theorem field_run (writes : ε → Bool) (value : ε → γ)
    (hfield : ∀ s e, field (R.next s e) = if writes e then value e else field s)
    {s : σ} {es : List ε}
    (h : ∀ e ∈ es, R.stale s e = false → writes e = true → value e = field s) :
    field (R.run s es) = field s := by
  induction es generalizing s with
  | nil => rfl
  | cons e es ih =>
    have happly : field (R.apply s e) = field s := by
      cases he : R.stale s e with
      | true => rw [R.apply_of_stale he]
      | false =>
        rw [R.apply_of_fresh he, hfield]
        split
        · exact h e List.mem_cons_self he (by assumption)
        · rfl
    rw [run_cons, ih fun x hx hfresh hwrites => ?_, happly]
    rw [happly]
    refine h x (List.mem_cons_of_mem _ hx) ?_ hwrites
    cases hx' : R.stale s x with
    | true =>
      rw [R.stale_apply e hx'] at hfresh
      cases hfresh
    | false => rfl

/-- A field no event writes keeps its value. -/
theorem const_run (hfield : ∀ s e, field (R.next s e) = field s) (s : σ) (es : List ε) :
    field (R.run s es) = field s := by
  induction es generalizing s with
  | nil => rfl
  | cons e es ih =>
    rw [run_cons, ih]
    unfold apply
    split
    · rfl
    · exact hfield s e

end Fields

end Register

end Xygo.Computation
