import Mathlib.Tactic.Common

/-!
# Fallible operations over a mutable store

An `Effect ε σ α` reads and writes a store `σ`, and it either returns an `α` or throws
an `ε`. What it wrote before it threw stays written: the store is not rolled back.
`exec` runs an operation and shows both, the outcome and the store it leaves behind;
the simp set below runs any `do` block by its statements.
-/

set_option autoImplicit false

namespace Xygo.Computation

/-- An operation over a store `σ` that may throw an `ε`. -/
abbrev Effect (ε σ α : Type) : Type := ExceptT ε (StateM σ) α

namespace Effect

variable {ε σ α β : Type}

/-- Run an operation from a store: what it answers, and the store it leaves. -/
def exec (m : Effect ε σ α) (s : σ) : Except ε α × σ :=
  (ExceptT.run m).run s

/-- The answer and the store a computation without effects gives. -/
@[simp] theorem exec_pure (a : α) (s : σ) : exec (pure a : Effect ε σ α) s = (.ok a, s) := rfl

/-- A throw leaves the store as it is. -/
@[simp] theorem exec_throw (e : ε) (s : σ) :
    exec (throw e : Effect ε σ α) s = (.error e, s) := rfl

/-- Reading the store. -/
@[simp] theorem exec_get (s : σ) : exec (get : Effect ε σ σ) s = (.ok s, s) := rfl

/-- Overwriting the store. -/
@[simp] theorem exec_set (s t : σ) :
    exec (set t : Effect ε σ PUnit) s = (.ok PUnit.unit, t) := rfl

/-- Updating the store. -/
@[simp] theorem exec_modify (f : σ → σ) (s : σ) :
    exec (modify f : Effect ε σ PUnit) s = (.ok PUnit.unit, f s) := rfl

/-- A computation that only may throw leaves the store as it is. -/
@[simp] theorem exec_lift (m : Except ε α) (s : σ) :
    exec (liftM m : Effect ε σ α) s = (m, s) := rfl

/-- An operation over a part of a store. -/
def focus {τ : Type} (view : σ → τ) (put : σ → τ → σ) (m : Effect ε τ α) : Effect ε σ α := do
  let s ← get
  set (put s (exec m (view s)).2)
  liftM (exec m (view s)).1

@[simp] theorem exec_focus {τ : Type} (view : σ → τ) (put : σ → τ → σ) (m : Effect ε τ α) (s : σ) :
    exec (focus view put m) s = ((exec m (view s)).1, put s (exec m (view s)).2) := rfl

/-- Statements run in order; the first throw ends the block with the store reached. -/
@[simp] theorem exec_bind (m : Effect ε σ α) (f : α → Effect ε σ β) (s : σ) :
    exec (m >>= f) s =
      match exec m s with
      | (.ok a, t) => exec (f a) t
      | (.error e, t) => (.error e, t) := by
  show (match (ExceptT.run m).run s with
    | (a, t) => (ExceptT.run (match a with
        | .ok a => f a
        | .error e => (ExceptT.mk (pure (.error e)) : Effect ε σ β))).run t) = _
  unfold exec
  rcases (ExceptT.run m).run s with ⟨_ | _, t⟩ <;> rfl

/-- A continuation that writes nothing leaves the store of the statement before it. -/
theorem store_bind (m : Effect ε σ α) {f : α → Effect ε σ β}
    (hf : ∀ a t, (exec (f a) t).2 = t) (s : σ) : (exec (m >>= f) s).2 = (exec m s).2 := by
  rw [exec_bind]
  rcases exec m s with ⟨_ | a, t⟩
  · rfl
  · exact hf a t

/-- A branch of a block is the branch of its run. -/
@[simp] theorem exec_ite (c : Prop) [Decidable c] (m n : Effect ε σ α) (s : σ) :
    exec (if c then m else n) s = if c then exec m s else exec n s := by
  split <;> rfl

/-- A function applied to what an operation answers. -/
@[simp] theorem exec_map (f : α → β) (m : Effect ε σ α) (s : σ) :
    exec (f <$> m) s =
      match exec m s with
      | (.ok a, t) => (.ok (f a), t)
      | (.error e, t) => (.error e, t) := by
  rw [map_eq_pure_bind, exec_bind]
  rcases exec m s with ⟨_ | _, t⟩ <;> rfl

/-- A function of what an operation answers leaves its store. -/
theorem store_map (f : α → β) (m : Effect ε σ α) (s : σ) : (exec (f <$> m) s).2 = (exec m s).2 := by
  rw [exec_map]
  rcases exec m s with ⟨_ | a, t⟩ <;> rfl

/-- `m` and then, when it throws, `h` on the error it threw and the store it left. -/
theorem exec_tryCatch (m : Effect ε σ α) (h : ε → Effect ε σ α) (s : σ) :
    exec (tryCatch m h) s =
      match exec m s with
      | (.ok a, t) => (.ok a, t)
      | (.error e, t) => exec (h e) t := by
  show ((ExceptT.run (ExceptT.tryCatch m h)).run s) = _
  unfold exec ExceptT.tryCatch
  show (match (ExceptT.run m).run s with
    | (a, t) => (ExceptT.run (match a with
        | .ok a => (ExceptT.mk (pure (.ok a)) : Effect ε σ α)
        | .error e => h e)).run t) = _
  rcases (ExceptT.run m).run s with ⟨_ | _, t⟩ <;> rfl

end Effect

/-- A block of fallible statements returns exactly when its first statement returns and the
rest returns on what that gave. -/
theorem bind_eq_ok {ε α β : Type} {x : Except ε α} {f : α → Except ε β} {b : β} :
    (x >>= f) = .ok b ↔ ∃ a, x = .ok a ∧ f a = .ok b := by
  cases x with
  | error e => simp [bind, Except.bind]
  | ok a => simp [bind, Except.bind]

/-- A function of a fallible value returns exactly when the value does. -/
theorem map_eq_ok {ε α β : Type} {x : Except ε α} {f : α → β} {b : β} :
    f <$> x = .ok b ↔ ∃ a, x = .ok a ∧ f a = b := by
  cases x with
  | error e => simp [Functor.map, Except.map]
  | ok a => simp [Functor.map, Except.map]

end Xygo.Computation
