import Xygo.Computation.Effect

/-!
# Statements inside a transaction

A connection works on tables of its own file. `BEGIN` keeps the tables as they are, `COMMIT`
forgets them, and `ROLLBACK` puts them back. An operation that runs its statements between
`BEGIN` and `COMMIT` and rolls back on every throw changes nothing when it throws: this needs
only that no statement of its body ends the transaction before it throws. Without transactions
an operation changes nothing when it throws if it reads first and writes last.
-/

set_option autoImplicit false

namespace Xygo.Computation

namespace Effect

variable {ε σ α β : Type}

/-- An operation that leaves the store as it is. -/
def ReadsOnly (m : Effect ε σ α) : Prop := ∀ s, (exec m s).2 = s

/-- An operation that leaves the store as it is where it throws. -/
def ThrowsClean (m : Effect ε σ α) : Prop := ∀ s e t, exec m s = (.error e, t) → t = s

theorem readsOnly_get : ReadsOnly (get : Effect ε σ σ) := fun _ => rfl

theorem readsOnly_lift (m : Except ε α) : ReadsOnly (liftM m : Effect ε σ α) := fun _ => rfl

theorem ReadsOnly.throwsClean {m : Effect ε σ α} (h : ReadsOnly m) : ThrowsClean m := by
  intro s e t hexec
  rw [← h s, hexec]

theorem throwsClean_pure (a : α) : ThrowsClean (pure a : Effect ε σ α) := by
  intro s e t h
  cases h

theorem throwsClean_throw (e : ε) : ThrowsClean (throw e : Effect ε σ α) := by
  intro s e' t h
  exact (Prod.mk.inj h).2.symm

/-- Writing and returning does not throw. -/
theorem throwsClean_set (t : σ) (a : α) : ThrowsClean (do set t; return a : Effect ε σ α) := by
  intro s e u h
  cases h

/-- **Reads first, writes last.** -/
theorem ReadsOnly.bind {m : Effect ε σ α} {f : α → Effect ε σ β} (hm : ReadsOnly m)
    (hf : ∀ a, ThrowsClean (f a)) : ThrowsClean (m >>= f) := by
  intro s e t h
  rw [exec_bind] at h
  have hsame := hm s
  cases hexec : exec m s with
  | mk result u =>
    rw [hexec] at h hsame
    obtain rfl : u = s := hsame
    cases result with
    | error thrown => exact (Prod.mk.inj h).2.symm
    | ok a => exact hf a u e t h

theorem ThrowsClean.map {m : Effect ε σ α} (h : ThrowsClean m) (f : α → β) :
    ThrowsClean (f <$> m) := by
  intro s e t hexec
  rw [exec_map] at hexec
  cases hm : exec m s with
  | mk result u =>
    rw [hm] at hexec
    cases result with
    | ok a => cases hexec
    | error thrown =>
      obtain ⟨-, rfl⟩ := Prod.mk.inj hexec
      exact h s thrown u hm

end Effect

/-- The tables of a connection, and how they were when the open transaction began. -/
structure Transactional (σ : Type) where
  tables : σ
  began : Option σ := none

namespace Transactional

variable {ε σ α β : Type}

/-- `BEGIN`; a transaction that is already open makes it throw. -/
def begin (nested : ε) : Effect ε (Transactional σ) Unit := do
  let s ← get
  if s.began.isSome then throw nested
  set { s with began := some s.tables }

/-- `COMMIT` -/
def commit : Effect ε (Transactional σ) Unit :=
  modify fun s => { s with began := none }

/-- `ROLLBACK` -/
def rollback : Effect ε (Transactional σ) Unit :=
  modify fun s => ⟨s.began.getD s.tables, none⟩

/-- Statements on the tables. -/
def statements (m : Effect ε σ α) : Effect ε (Transactional σ) α :=
  Effect.focus tables (fun s t => { s with tables := t }) m

/-- A body between `BEGIN` and its own `COMMIT`, rolled back where it throws. -/
def transaction (nested : ε) (body : Effect ε (Transactional σ) α) : Effect ε (Transactional σ) α := do
  begin nested
  tryCatch body fun error => do
    rollback
    throw error

/-- A body that throws only inside the transaction it was started in. -/
def ThrowsInside (body : Effect ε (Transactional σ) α) : Prop :=
  ∀ s e t, Effect.exec body s = (.error e, t) → t.began = s.began

theorem throwsInside_pure (a : α) : ThrowsInside (pure a : Effect ε (Transactional σ) α) := by
  intro s e t h
  cases h

/-- After statements the transaction is the one before them. -/
theorem throwsInside_bind_statements (m : Effect ε σ α) {f : α → Effect ε (Transactional σ) β}
    (hf : ∀ a, ThrowsInside (f a)) : ThrowsInside (statements m >>= f) := by
  intro s e t h
  unfold statements at h
  rw [Effect.exec_bind, Effect.exec_focus] at h
  cases hm : (Effect.exec m s.tables).1 with
  | error thrown =>
    rw [hm] at h
    obtain ⟨-, rfl⟩ := Prod.mk.inj h
    rfl
  | ok a =>
    rw [hm] at h
    exact hf a ⟨(Effect.exec m s.tables).2, s.began⟩ e t h

/-- What only ends the transaction and returns does not throw. -/
theorem throwsInside_end (f : Transactional σ → Transactional σ) (a : α) :
    ThrowsInside (do modify f; return a : Effect ε (Transactional σ) α) := by
  intro s e t h
  cases h

/-- **A transaction that throws changes nothing**, if its body throws only inside it. -/
theorem transaction_restores {nested e : ε} {body : Effect ε (Transactional σ) α} {s t : Transactional σ}
    (hbody : ThrowsInside body) (hclosed : s.began = none)
    (h : Effect.exec (transaction nested body) s = (.error e, t)) : t = s := by
  unfold transaction begin at h
  simp only [Effect.exec_bind, Effect.exec_get, hclosed, Option.isSome_none, Bool.false_eq_true,
    if_false, Effect.exec_set, Effect.exec_tryCatch] at h
  cases hrun : Effect.exec body { s with began := some s.tables } with
  | mk result u =>
    rw [hrun] at h
    cases result with
    | ok a => cases h
    | error thrown =>
      have hbegan : u.began = some s.tables := hbody _ _ _ hrun
      simp only [rollback, Effect.exec_modify, Effect.exec_throw, hbegan, Option.getD_some] at h
      obtain ⟨-, rfl⟩ := Prod.mk.inj h
      cases s
      cases hclosed
      rfl

end Transactional

end Xygo.Computation
