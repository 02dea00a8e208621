import Xygo.Computation.Triple

/-!
# Calls that may fail, and transactions

A `Faulty` store carries, beside its contents, what happens to the next calls made on it: a
call goes through, or it fails before it has any effect, or it takes effect and its answer is
lost. Quantifying over the list of these outcomes quantifies over every pattern of failures.
A transaction runs its body and then commits; when the body throws or the commit fails, the
contents are what they were when it began.
-/

set_option autoImplicit false

namespace Xygo.Computation

/-- How a call fails: before it has an effect, or after. -/
inductive Fault (ε : Type)
  | before (error : ε)
  | after (error : ε)

/-- A store, with the fault, if any, of each call to come; the calls after those all go
through. -/
structure Faulty (ε σ : Type) where
  store : σ
  faults : List (Option (Fault ε)) := []

namespace Faulty

variable {ε σ α β : Type}

/-- The fault of the next call. -/
def next (s : Faulty ε σ) : Option (Fault ε) := s.faults.head?.join

/-- What the caller sees of an answer. -/
def seen : Option (Fault ε) → Except ε α → Except ε α
  | none, answer => answer
  | some (.before e), _ => .error e
  | some (.after e), .ok _ => .error e
  | some (.after _), .error e => .error e

/-- What the call leaves of its effect. -/
def effected : Option (Fault ε) → σ → σ → σ
  | some (.before _), unchanged, _ => unchanged
  | _, _, changed => changed

/-- One call on the store. -/
def call (op : Effect ε σ α) : Effect ε (Faulty ε σ) α := do
  let s ← get
  let run := Effect.exec op s.store
  set ({ store := effected s.next s.store run.2, faults := s.faults.tail } : Faulty ε σ)
  liftM (seen s.next run.1)

/-- What a call answers, and the store it leaves. -/
@[simp] theorem exec_call (op : Effect ε σ α) (s : Faulty ε σ) :
    Effect.exec (call op) s =
      (seen s.next (Effect.exec op s.store).1,
        { store := effected s.next s.store (Effect.exec op s.store).2, faults := s.faults.tail }) :=
  rfl

/-- An answer is seen when the call met no fault. -/
theorem seen_eq_ok {fault : Option (Fault ε)} {answer : Except ε α} {a : α} :
    seen fault answer = .ok a ↔ fault = none ∧ answer = .ok a := by
  constructor
  · intro h
    unfold seen at h
    cases fault with
    | none => exact ⟨rfl, h⟩
    | some fault =>
      cases fault with
      | before e => cases h
      | after e => cases answer <;> cases h
  · rintro ⟨rfl, rfl⟩
    rfl

/-- A call of an operation that only reads leaves the store, whatever fails. -/
theorem exec_call_read {op : Effect ε σ α} {s : Faulty ε σ} {answer : Except ε α}
    (h : Effect.exec op s.store = (answer, s.store)) :
    Effect.exec (call op) s = (seen s.next answer, { s with faults := s.faults.tail }) := by
  rw [exec_call, h]
  unfold effected
  split <;> rfl

/-- A call that returned met no fault, and did what its operation does. -/
theorem call_ok {op : Effect ε σ α} {s t : Faulty ε σ} {a : α}
    (h : Effect.exec (call op) s = (.ok a, t)) : Effect.exec op s.store = (.ok a, t.store) := by
  rw [exec_call] at h
  obtain ⟨hseen, rfl⟩ := Prod.mk.inj h
  obtain ⟨hnext, hanswer⟩ := seen_eq_ok.mp hseen
  refine Prod.ext hanswer ?_
  rw [hnext]
  rfl

/-- A call leaves the store as it was, or as its operation leaves it. -/
theorem store_call (op : Effect ε σ α) (s : Faulty ε σ) :
    (Effect.exec (call op) s).2.store = s.store ∨
      (Effect.exec (call op) s).2.store = (Effect.exec op s.store).2 := by
  rw [exec_call]
  unfold effected
  split
  · exact Or.inl rfl
  · exact Or.inr rfl

/-- A call of an operation: returned, it satisfies the operation's postcondition; thrown, it
leaves the store as it was, or as the operation leaves it. -/
theorem triple_call {op : Effect ε σ α} {P : σ → Prop} {Q : α → σ → Prop} {X : ε → σ → Prop}
    (h : Effect.Triple P op Q X) :
    Effect.Triple (fun s : Faulty ε σ => P s.store) (call op) (fun a t => Q a t.store)
      fun _ t => P t.store ∨ (∃ a, Q a t.store) ∨ ∃ e, X e t.store := by
  refine Effect.Triple.of_exec ?_
  intro s hs
  rcases hrun : Effect.exec (call op) s with ⟨e | a, t⟩
  · have hstore := store_call op s
    rw [hrun] at hstore
    have hop := h.holds s.store hs
    obtain hsame | hchanged := hstore
    · exact Or.inl (hsame ▸ hs)
    · right
      rcases hexec : Effect.exec op s.store with ⟨e' | a', u⟩
      · rw [hexec] at hop hchanged
        exact Or.inr ⟨e', by rw [hchanged]; exact hop⟩
      · rw [hexec] at hop hchanged
        exact Or.inl ⟨a', by rw [hchanged]; exact hop⟩
  · have hop := h.of_ok hs (call_ok hrun)
    exact hop

/-- A call of an operation, where nothing is asked of a call that throws. -/
theorem triple_call_ok {op : Effect ε σ α} {P : σ → Prop} {Q : α → σ → Prop} {X : ε → σ → Prop}
    (h : Effect.Triple P op Q X) :
    Effect.Triple (fun s : Faulty ε σ => P s.store) (call op) (fun a t => Q a t.store)
      fun _ _ => True :=
  (triple_call h).weaken (fun _ hs => hs) (fun _ _ hs => hs) fun _ _ _ => trivial

/-- A call of an operation that keeps an invariant keeps it, whatever fails. -/
theorem keeps_call {op : Effect ε σ α} {I : σ → Prop} (h : Effect.Keeps I op) :
    Effect.Keeps (fun s : Faulty ε σ => I s.store) (call op) := by
  refine (triple_call h).weaken (fun _ hs => hs) (fun _ _ hs => hs) ?_
  rintro e t (hs | ⟨-, hs⟩ | ⟨-, hs⟩) <;> exact hs

/-- A transaction: `BEGIN` and `COMMIT` are calls, and so is every statement of the body. When
one of them fails, nothing of it is stored. -/
def atomic (body : Effect ε (Faulty ε σ) α) : Effect ε (Faulty ε σ) α := do
  let s ← get
  tryCatch
    (do
      call (pure ())
      let a ← body
      call (pure ())
      return a)
    fun e => do
      modify fun t => { t with store := s.store }
      throw e

/-- **A transaction commits all of its body, or leaves the store as it was.** -/
theorem triple_atomic {body : Effect ε (Faulty ε σ) α} {P : σ → Prop} {Q : α → σ → Prop}
    (h : Effect.Triple (fun s : Faulty ε σ => P s.store) body (fun a t => Q a t.store)
      fun _ _ => True) (start : σ) :
    Effect.Triple (fun s : Faulty ε σ => P s.store ∧ s.store = start) (atomic body)
      (fun a t => Q a t.store) fun _ t => t.store = start := by
  refine Effect.Triple.of_exec ?_
  rintro s ⟨hP, rfl⟩
  have hempty : ∀ I : σ → Prop, Effect.Keeps (fun t : Faulty ε σ => I t.store)
      (call (pure () : Effect ε σ Unit)) := fun I =>
    keeps_call (Effect.Triple.pure fun _ ht => ht)
  have hrun : Effect.Triple (fun t : Faulty ε σ => P t.store)
      (do
        call (pure ())
        let a ← body
        call (pure ())
        return a : Effect ε (Faulty ε σ) α)
      (fun a t => Q a t.store) fun _ _ => True := by
    refine Effect.Triple.bind ((hempty P).weaken (fun _ ht => ht) (fun _ _ ht => ht)
      fun _ _ _ => trivial) fun _ => Effect.Triple.bind h fun a => ?_
    exact Effect.Triple.bind ((hempty (Q a)).weaken (fun _ ht => ht) (fun _ _ ht => ht)
      fun _ _ _ => trivial) fun _ => Effect.Triple.pure fun _ ht => ht
  have hbody := hrun.holds s hP
  unfold atomic
  simp only [Effect.exec_bind, Effect.exec_get, Effect.exec_tryCatch]
  rcases hexec : Effect.exec (do
      call (pure ())
      let a ← body
      call (pure ())
      return a : Effect ε (Faulty ε σ) α) s with ⟨e | a, t⟩
  · simp only [Effect.exec_bind] at hexec
    simp only [hexec]
    rfl
  · rw [hexec] at hbody
    simp only [Effect.exec_bind] at hexec
    simp only [hexec]
    exact hbody

/-! ## Calls that all go through -/

/-- The next `n` calls go through. -/
def Clear (n : Nat) (s : Faulty ε σ) : Prop := ∀ i < n, (s.faults[i]?).join = none

theorem clear_nil (n : Nat) (store : σ) : Clear n (⟨store, []⟩ : Faulty ε σ) := by
  intro i _
  simp

theorem next_of_clear {n : Nat} {s : Faulty ε σ} (h : Clear (n + 1) s) : s.next = none := by
  have h0 := h 0 (Nat.succ_pos n)
  rwa [← List.head?_eq_getElem?] at h0

/-- A call that goes through does what its operation does. -/
theorem exec_call_clear {n : Nat} {s : Faulty ε σ} (h : Clear (n + 1) s) (op : Effect ε σ α) :
    Effect.exec (call op) s = ((Effect.exec op s.store).1,
      { store := (Effect.exec op s.store).2, faults := s.faults.tail }) := by
  rw [exec_call, next_of_clear h]
  rfl

/-- The calls after it. -/
theorem Clear.tail {n : Nat} {s : Faulty ε σ} (h : Clear (n + 1) s) (store : σ) :
    Clear n { store := store, faults := s.faults.tail } := by
  intro i hi
  have hnext := h (i + 1) (Nat.succ_lt_succ hi)
  simpa using hnext

@[simp] theorem exec_call_nil (op : Effect ε σ α) (store : σ) :
    Effect.exec (call op) (⟨store, []⟩ : Faulty ε σ) =
      ((Effect.exec op store).1, ⟨(Effect.exec op store).2, []⟩) :=
  exec_call_clear (clear_nil 1 store) op

/-- A transaction whose statements all go through does what its body does. -/
theorem exec_atomic_ok {body : Effect ε (Faulty ε σ) α} {store store' : σ} {a : α}
    (h : Effect.exec body ⟨store, []⟩ = (.ok a, ⟨store', []⟩)) :
    Effect.exec (atomic body) ⟨store, []⟩ = (.ok a, ⟨store', []⟩) := by
  unfold atomic
  simp only [Effect.exec_bind, Effect.exec_get, Effect.exec_tryCatch, exec_call_nil,
    Effect.exec_pure, h]

/-- A transaction whose body throws, throws. -/
theorem exec_atomic_error {body : Effect ε (Faulty ε σ) α} {store : σ} {e : ε}
    {t : Faulty ε σ} (h : Effect.exec body ⟨store, []⟩ = (.error e, t)) :
    Effect.exec (atomic body) ⟨store, []⟩ = (.error e, { t with store := store }) := by
  unfold atomic
  simp only [Effect.exec_bind, Effect.exec_get, Effect.exec_tryCatch, exec_call_nil,
    Effect.exec_pure, h]
  rfl

end Faulty

end Xygo.Computation
