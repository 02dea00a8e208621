import Xygo.Computation.Effect

/-!
# Pre- and postconditions of fallible operations

`Triple P m Q X` says of an operation over a store: started where `P` holds it returns where
`Q` holds of what it returns, or it throws where `X` holds of what it throws. The rules below
follow the constructors of a `do` block. `Keeps I m` is the triple of an invariant, whatever
the operation answers.
-/

set_option autoImplicit false

namespace Xygo.Computation.Effect

variable {ε σ α β : Type}

/-- From every store where `P` holds, `m` returns with `Q` or throws with `X`. -/
def Triple (P : σ → Prop) (m : Effect ε σ α) (Q : α → σ → Prop) (X : ε → σ → Prop) : Prop :=
  ∀ s, P s →
    match exec m s with
    | (.ok a, t) => Q a t
    | (.error e, t) => X e t

namespace Triple

variable {P P' : σ → Prop} {Q Q' : α → σ → Prop} {R : β → σ → Prop} {X X' Y : ε → σ → Prop}

/-- What a run that returned satisfies. -/
theorem of_ok {m : Effect ε σ α} (h : Triple P m Q X) {s t : σ} {a : α} (hs : P s)
    (hrun : exec m s = (.ok a, t)) : Q a t := by
  have hm := h s hs
  rw [hrun] at hm
  exact hm

/-- What a run that threw satisfies. -/
theorem of_error {m : Effect ε σ α} (h : Triple P m Q X) {s t : σ} {e : ε} (hs : P s)
    (hrun : exec m s = (.error e, t)) : X e t := by
  have hm := h s hs
  rw [hrun] at hm
  exact hm

/-- The rule of consequence. -/
theorem weaken {m : Effect ε σ α} (h : Triple P m Q X) (hP : ∀ s, P' s → P s)
    (hQ : ∀ a s, Q a s → Q' a s) (hX : ∀ e s, X e s → X' e s) : Triple P' m Q' X' := by
  intro s hs
  have hm := h s (hP s hs)
  rcases hrun : exec m s with ⟨e | a, t⟩
  · rw [hrun] at hm
    exact hX e t hm
  · rw [hrun] at hm
    exact hQ a t hm

theorem pure {a : α} (h : ∀ s, P s → Q a s) : Triple P (Pure.pure a : Effect ε σ α) Q X :=
  fun s hs => h s hs

theorem throw {e : ε} (h : ∀ s, P s → X e s) : Triple P (MonadExcept.throw e : Effect ε σ α) Q X :=
  fun s hs => h s hs

theorem get {Q : σ → σ → Prop} (h : ∀ s, P s → Q s s) :
    Triple P (MonadState.get : Effect ε σ σ) Q X :=
  fun s hs => h s hs

theorem set {t : σ} {Q : PUnit → σ → Prop} (h : ∀ s, P s → Q PUnit.unit t) :
    Triple P (MonadStateOf.set t : Effect ε σ PUnit) Q X :=
  fun s hs => h s hs

theorem update {f : σ → σ} {Q : PUnit → σ → Prop} (h : ∀ s, P s → Q PUnit.unit (f s)) :
    Triple P (modify f : Effect ε σ PUnit) Q X :=
  fun s hs => h s hs

/-- A computation that only may throw leaves the store. -/
theorem lift {m : Except ε α} (hok : ∀ a s, m = .ok a → P s → Q a s)
    (herror : ∀ e s, m = .error e → P s → X e s) : Triple P (liftM m : Effect ε σ α) Q X := by
  intro s hs
  rw [exec_lift]
  cases m with
  | ok a => exact hok a s rfl hs
  | error e => exact herror e s rfl hs

/-- Statements in order. -/
theorem bind {m : Effect ε σ β} {f : β → Effect ε σ α} (hm : Triple P m R X)
    (hf : ∀ b, Triple (R b) (f b) Q X) : Triple P (m >>= f) Q X := by
  intro s hs
  have hfirst := hm s hs
  rw [exec_bind]
  rcases hrun : exec m s with ⟨e | b, t⟩
  · rw [hrun] at hfirst
    exact hfirst
  · rw [hrun] at hfirst
    exact hf b t hfirst

/-- A computation that only may throw, before the statements that use what it gives. -/
theorem bind_lift {m : Except ε β} {f : β → Effect ε σ α}
    (herror : ∀ e s, m = .error e → P s → X e s) (hf : ∀ b, m = .ok b → Triple P (f b) Q X) :
    Triple P (liftM m >>= f) Q X := by
  intro s hs
  rw [exec_bind, exec_lift]
  cases hm : m with
  | ok b => exact hf b hm s hs
  | error e => exact herror e s hm hs

/-- A fact about no store may be taken out of the precondition. -/
theorem assume {φ : Prop} {m : Effect ε σ α} (h : φ → Triple P m Q X) :
    Triple (fun s => φ ∧ P s) m Q X :=
  fun s hs => h hs.1 s hs.2

/-- A function of what an operation returns. -/
theorem map {m : Effect ε σ β} {f : β → α} (hm : Triple P m (fun b => Q (f b)) X) :
    Triple P (f <$> m) Q X := by
  intro s hs
  have hfirst := hm s hs
  rw [exec_map]
  rcases hrun : exec m s with ⟨e | b, t⟩
  · rw [hrun] at hfirst
    exact hfirst
  · rw [hrun] at hfirst
    exact hfirst

/-- A branch. -/
theorem ite {c : Prop} [Decidable c] {m n : Effect ε σ α} (hm : c → Triple P m Q X)
    (hn : ¬ c → Triple P n Q X) : Triple P (if c then m else n) Q X := by
  split
  · rename_i h
    exact hm h
  · rename_i h
    exact hn h

/-- An operation with a handler for what it throws. -/
theorem tryCatch {m : Effect ε σ α} {h : ε → Effect ε σ α} (hm : Triple P m Q Y)
    (hh : ∀ e, Triple (Y e) (h e) Q X) : Triple P (MonadExcept.tryCatch m h) Q X := by
  intro s hs
  have hfirst := hm s hs
  show match exec (MonadExcept.tryCatch m h) s with
    | (.ok a, t) => Q a t
    | (.error e, t) => X e t
  rw [exec_tryCatch]
  rcases hrun : exec m s with ⟨e | a, t⟩
  · rw [hrun] at hfirst
    exact hh e t hfirst
  · rw [hrun] at hfirst
    exact hfirst

/-- An operation over a part of a store, by what it does to the part. -/
theorem focus {τ : Type} {view : σ → τ} {put : σ → τ → σ} {m : Effect ε τ α} {P : τ → Prop}
    {Q : α → τ → Prop} {X : ε → τ → Prop} (hm : Triple P m Q X)
    (hview : ∀ s t, view (put s t) = t) :
    Triple (fun s => P (view s)) (Effect.focus view put m) (fun a s => Q a (view s))
      fun e s => X e (view s) := by
  intro s hs
  have hpart := hm (view s) hs
  rw [exec_focus]
  rcases hrun : exec m (view s) with ⟨e | a, t⟩
  · rw [hrun] at hpart
    simpa only [hview] using hpart
  · rw [hrun] at hpart
    simpa only [hview] using hpart

/-- A loop over a list, with an invariant of the items done. -/
theorem forM {γ : Type} {items : List γ} {body : γ → Effect ε σ PUnit} {I : List γ → σ → Prop}
    (hbody : ∀ done item rest, items = done ++ item :: rest →
      Triple (I done) (body item) (fun _ => I (done ++ [item])) X) :
    Triple (I []) (items.forM body) (fun _ => I items) X := by
  suffices h : ∀ done rest, items = done ++ rest →
      Triple (I done) (rest.forM body) (fun _ => I items) X from h [] items rfl
  intro done rest
  induction rest generalizing done with
  | nil =>
    intro hitems
    obtain rfl : items = done := by simpa using hitems
    exact pure fun s hs => hs
  | cons item rest ih =>
    intro hitems
    exact bind (hbody done item rest hitems) fun _ => ih (done ++ [item]) (by simp [hitems])

end Triple

/-- An invariant: it holds after the operation if it held before, whatever the answer. -/
abbrev Keeps (I : σ → Prop) (m : Effect ε σ α) : Prop := Triple I m (fun _ => I) fun _ => I

/-- The store after an operation whose postcondition is about the store only. -/
theorem Triple.store {P J : σ → Prop} {m : Effect ε σ α} (h : Triple P m (fun _ => J) fun _ => J)
    {s : σ} (hs : P s) : J (exec m s).2 := by
  have hm := h s hs
  rcases hrun : exec m s with ⟨e | a, t⟩ <;> rw [hrun] at hm <;> exact hm

/-- The store after an operation that keeps an invariant. -/
theorem Keeps.store {I : σ → Prop} {m : Effect ε σ α} (h : Keeps I m) {s : σ} (hs : I s) :
    I (exec m s).2 :=
  Triple.store h hs

/-- An operation over a part of a store keeps what does not depend on the part. -/
theorem Keeps.frame {τ : Type} {view : σ → τ} {put : σ → τ → σ} {m : Effect ε τ α} {I : σ → Prop}
    (hput : ∀ s t, I s → I (put s t)) : Keeps I (focus view put m) := by
  intro s hs
  rw [exec_focus]
  rcases exec m (view s) with ⟨e | a, t⟩ <;> exact hput s t hs

/-- Invariants that each are kept are kept together. -/
theorem Keeps.and {I J : σ → Prop} {m : Effect ε σ α} (hI : Keeps I m) (hJ : Keeps J m) :
    Keeps (fun s => I s ∧ J s) m := by
  intro s hs
  have h1 := hI s hs.1
  have h2 := hJ s hs.2
  rcases hrun : exec m s with ⟨e | a, t⟩ <;> rw [hrun] at h1 h2 <;> exact ⟨h1, h2⟩

/-- A triple, shown by running the operation. -/
theorem Triple.of_exec {P : σ → Prop} {m : Effect ε σ α} {Q : α → σ → Prop} {X : ε → σ → Prop}
    (h : ∀ s, P s →
      match exec m s with
      | (.ok a, t) => Q a t
      | (.error e, t) => X e t) : Triple P m Q X := h

/-- What a triple says of a run. -/
theorem Triple.holds {P : σ → Prop} {m : Effect ε σ α} {Q : α → σ → Prop} {X : ε → σ → Prop}
    (h : Triple P m Q X) (s : σ) (hs : P s) :
    match exec m s with
    | (.ok a, t) => Q a t
    | (.error e, t) => X e t := h s hs

-- A unifier that unfolds a triple runs the operation: from here on the rules are used instead.
attribute [irreducible] Triple

end Xygo.Computation.Effect
