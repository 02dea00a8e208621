import Xygo.Computation.Effect

/-!
# Two runs of one operation

`Agrees R m` says that `m` does not see the difference between stores that `R` relates: it answers
the same from both and leaves stores that `R` relates. It is kept by every way a `do` block is put
together, so a block agrees when its statements do.
-/

set_option autoImplicit false

namespace Xygo.Computation.Effect

variable {ε σ α β : Type} {R : σ → σ → Prop}

/-- From related stores `m` gives one answer and leaves related stores. -/
def Agrees (R : σ → σ → Prop) (m : Effect ε σ α) : Prop :=
  ∀ s t, R s t → (exec m s).1 = (exec m t).1 ∧ R (exec m s).2 (exec m t).2

namespace Agrees

/-- An operation, by its two runs. -/
theorem of_exec {m : Effect ε σ α}
    (h : ∀ s t, R s t → (exec m s).1 = (exec m t).1 ∧ R (exec m s).2 (exec m t).2) :
    Agrees R m := h

/-- The answers of two runs. -/
theorem answer {m : Effect ε σ α} (h : Agrees R m) {s t : σ} (hR : R s t) :
    (exec m s).1 = (exec m t).1 := (h s t hR).1

/-- The stores two runs leave. -/
theorem store {m : Effect ε σ α} (h : Agrees R m) {s t : σ} (hR : R s t) :
    R (exec m s).2 (exec m t).2 := (h s t hR).2

theorem pure (a : α) : Agrees R (Pure.pure a : Effect ε σ α) := fun _ _ h => ⟨rfl, h⟩

theorem throw (e : ε) : Agrees R (MonadExcept.throw e : Effect ε σ α) := fun _ _ h => ⟨rfl, h⟩

/-- A computation that only may throw does not look at the store. -/
theorem lift (m : Except ε α) : Agrees R (liftM m : Effect ε σ α) := fun _ _ h => ⟨rfl, h⟩

/-- A write that related stores both make. -/
theorem update {f : σ → σ} (h : ∀ s t, R s t → R (f s) (f t)) :
    Agrees R (modify f : Effect ε σ PUnit) := fun s t hR => ⟨rfl, h s t hR⟩

/-- Statements in order. -/
theorem bind {m : Effect ε σ β} {f : β → Effect ε σ α} (hm : Agrees R m)
    (hf : ∀ b, Agrees R (f b)) : Agrees R (m >>= f) := by
  intro s t hR
  obtain ⟨hanswer, hstore⟩ := hm s t hR
  rw [exec_bind, exec_bind]
  rcases hs : exec m s with ⟨e | b, u⟩ <;> rcases ht : exec m t with ⟨e' | b', v⟩ <;>
    rw [hs, ht] at hanswer hstore
  · obtain rfl := Except.error.inj hanswer
    exact ⟨rfl, hstore⟩
  · cases hanswer
  · cases hanswer
  · obtain rfl := Except.ok.inj hanswer
    exact hf b u v hstore

/-- A function of what an operation answers. -/
theorem map (f : β → α) {m : Effect ε σ β} (hm : Agrees R m) : Agrees R (f <$> m) := by
  intro s t hR
  obtain ⟨hanswer, hstore⟩ := hm s t hR
  rw [exec_map, exec_map]
  rcases hs : exec m s with ⟨e | b, u⟩ <;> rcases ht : exec m t with ⟨e' | b', v⟩ <;>
    rw [hs, ht] at hanswer hstore
  · obtain rfl := Except.error.inj hanswer
    exact ⟨rfl, hstore⟩
  · cases hanswer
  · cases hanswer
  · obtain rfl := Except.ok.inj hanswer
    exact ⟨rfl, hstore⟩

/-- A branch on what does not depend on the store. -/
theorem ite {c : Prop} [Decidable c] {m n : Effect ε σ α} (hm : c → Agrees R m)
    (hn : ¬ c → Agrees R n) : Agrees R (if c then m else n) := by
  split
  · rename_i h
    exact hm h
  · rename_i h
    exact hn h

end Agrees

attribute [irreducible] Agrees

end Xygo.Computation.Effect
