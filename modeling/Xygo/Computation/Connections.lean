import Xygo.Computation.Machine

/-!
# Connections to a database with one writer at a time

A client answers a call by running statements one after the other, each on the database as
it is when the statement runs. A statement reads, writes, begins a transaction or commits
it. While one connection has a transaction open, it works on a draft of its own, the others
see what is committed, and no other connection can write. A statement may also throw, at
any time, which ends its call and rolls its transaction back.

`assertion_rule` is the proof rule for such systems: an assertion beside every statement a
client is about to run, kept by the client's own statements and by whatever the statements
of the other connections make visible. What a commit makes visible may depend on the other
connections' statements through a guard.
-/

set_option autoImplicit false

namespace Xygo.Computation

/-- What a statement does: it reads, it writes and commits at once, or it begins a
transaction, writes in it, or commits it. -/
inductive Access
  | read
  | write
  | begin
  | draft
  | commit
  deriving DecidableEq, Repr

/-- A client: what it runs first for a call, and after each statement either the next one,
with the client's local values in it, or the answer to the call. -/
structure Client (D P κ α : Type) where
  start : κ → P ⊕ α
  access : P → Access
  run : P → D → D × (P ⊕ α)
  thrown : P → α

/-- The committed database, the draft of the connection with an open transaction, the
statement each connection is to run next, and the answers given so far. -/
structure Connected (ι D P α : Type) where
  committed : D
  draft : Option (ι × D)
  running : ι → Option P
  answers : List (ι × α)

/-- A connection gets a call, runs its next statement, or that statement throws. -/
inductive ConnectionStep (ι κ : Type)
  | call (i : ι) (c : κ)
  | exec (i : ι)
  | throws (i : ι)

variable {ι D P κ α : Type} [DecidableEq ι]

namespace Connected

/-- No call, no transaction. -/
def initial (d : D) : Connected ι D P α := ⟨d, none, fun _ => none, []⟩

/-- The database as a connection sees it: its own draft, or what is committed. -/
def view (s : Connected ι D P α) (i : ι) : D :=
  match s.draft with
  | some (j, d) => if j = i then d else s.committed
  | none => s.committed

/-- The draft once the call of a connection has ended. -/
def draftWithout (s : Connected ι D P α) (i : ι) : Option (ι × D) :=
  match s.draft with
  | some (j, d) => if j = i then none else some (j, d)
  | none => none

/-- Go on with the next statement of a connection, or give the answer to its call. -/
def resume (s : Connected ι D P α) (i : ι) : P ⊕ α → Connected ι D P α
  | .inl p => { s with running := fun j => if j = i then some p else s.running j }
  | .inr a =>
    { s with
      running := fun j => if j = i then none else s.running j
      draft := s.draftWithout i
      answers := s.answers ++ [(i, a)] }

/-- The next statement of a connection runs, unless another connection's transaction keeps
it waiting. -/
def exec (client : Client D P κ α) (s : Connected ι D P α) (i : ι) (p : P) :
    Option (Connected ι D P α) :=
  match client.access p with
  | .read => some (s.resume i (client.run p (s.view i)).2)
  | .write =>
    match s.draft with
    | none =>
      let result := client.run p s.committed
      some ({ s with committed := result.1 }.resume i result.2)
    | some _ => none
  | .begin =>
    match s.draft with
    | none => some ({ s with draft := some (i, s.committed) }.resume i (client.run p s.committed).2)
    | some _ => none
  | .draft =>
    match s.draft with
    | none => none
    | some (j, d) =>
      if j = i then
        let result := client.run p d
        some ({ s with draft := some (i, result.1) }.resume i result.2)
      else none
  | .commit =>
    match s.draft with
    | none => none
    | some (j, d) =>
      if j = i then
        some ({ s with committed := d, draft := none }.resume i (client.run p d).2)
      else none

end Connected

/-- The connections of a family of clients. -/
def connections (client : ι → Client D P κ α) :
    Machine (Connected ι D P α) (ConnectionStep ι κ) where
  step s
    | .call i c =>
      match s.running i with
      | none => some (s.resume i ((client i).start c))
      | some _ => none
    | .exec i =>
      match s.running i with
      | none => none
      | some p => s.exec (client i) i p
    | .throws i =>
      match s.running i with
      | none => none
      | some p => some (s.resume i (.inr ((client i).thrown p)))

/-- A statement to run satisfies `A`, an answer satisfies `B`. -/
def After (A : P → Prop) (B : α → Prop) : P ⊕ α → Prop
  | .inl p => A p
  | .inr a => B a

/-- Assertions about statements and answers: `A i p d v` may be said when connection `i` is
to run `p`, the committed database is `d` and `i` sees `v`; `B i a` when it answered `a`.
`Allows p q` is the guard under which a commit `p` may happen while another connection is
to run `q`. -/
structure Asserted (client : ι → Client D P κ α) (A : ι → P → D → D → Prop) (B : ι → α → Prop)
    (Allows : P → P → Prop) : Prop where
  start : ∀ i c d v, After (A i · d v) (B i) ((client i).start c)
  thrown : ∀ i p, B i ((client i).thrown p)
  read : ∀ i p d v, (client i).access p = .read → A i p d v →
    After (A i · d v) (B i) ((client i).run p v).2
  write : ∀ i p d, (client i).access p = .write → A i p d d →
    After (A i · ((client i).run p d).1 ((client i).run p d).1) (B i) ((client i).run p d).2
  begin : ∀ i p d, (client i).access p = .begin → A i p d d →
    After (A i · d d) (B i) ((client i).run p d).2
  draft : ∀ i p d v, (client i).access p = .draft → A i p d v →
    After (A i · d ((client i).run p v).1) (B i) ((client i).run p v).2
  commit : ∀ i p d v, (client i).access p = .commit → A i p d v →
    After (A i · v v) (B i) ((client i).run p v).2
  afterWrite : ∀ i p d, (client i).access p = .write → A i p d d →
    ∀ j q, j ≠ i → A j q d d → A j q ((client i).run p d).1 ((client i).run p d).1
  afterCommit : ∀ i p d v, (client i).access p = .commit → A i p d v →
    ∀ j q, j ≠ i → Allows p q → A j q d d → A j q v v

/-- Every commit happens while the other connections are to run statements that allow it. -/
def CommitsAllowed (client : ι → Client D P κ α) (Allows : P → P → Prop)
    (s : Connected ι D P α) : ConnectionStep ι κ → Prop
  | .exec i => ∀ p, s.running i = some p → (client i).access p = .commit →
      ∀ j q, j ≠ i → s.running j = some q → Allows p q
  | _ => True

/-- The assertions hold of a state. -/
structure Holds (A : ι → P → D → D → Prop) (B : ι → α → Prop) (s : Connected ι D P α) : Prop where
  running : ∀ i p, s.running i = some p → A i p s.committed (s.view i)
  answered : ∀ i a, (i, a) ∈ s.answers → B i a

variable {client : ι → Client D P κ α} {A : ι → P → D → D → Prop} {B : ι → α → Prop}
  {Allows : P → P → Prop} {s t : Connected ι D P α}

/-- Only the connection that has a draft sees it. -/
theorem view_of_draft_other {i j : ι} {d : D} (h : s.draft = some (i, d)) (hne : j ≠ i) :
    s.view j = s.committed := by
  simp [Connected.view, h, Ne.symm hne]

/-- Without a draft everyone sees what is committed. -/
theorem view_of_draft_none (h : s.draft = none) (i : ι) : s.view i = s.committed := by
  simp [Connected.view, h]

/-- Going on keeps the assertions, if what the connection goes on with satisfies its own
and the others' hold of the databases that they see. -/
theorem Holds.resume {i : ι} {o : P ⊕ α} (answered : ∀ j a, (j, a) ∈ s.answers → B j a)
    (own : After (A i · s.committed (s.view i)) (B i) o)
    (others : ∀ j q, j ≠ i → s.running j = some q → A j q s.committed (s.view j)) :
    Holds A B (s.resume i o) := by
  cases o with
  | inl p =>
    refine ⟨fun j q hq => ?_, answered⟩
    by_cases hj : j = i
    · subst hj
      obtain rfl : p = q := by simpa [Connected.resume] using hq
      exact own
    · exact others j q hj (by simpa [Connected.resume, hj] using hq)
  | inr a =>
    refine ⟨fun j q hq => ?_, fun j b hb => ?_⟩
    · have hj : j ≠ i := by
        rintro rfl
        simp [Connected.resume] at hq
      have hview : (s.resume i (.inr a)).view j = s.view j := by
        cases hdraft : s.draft with
        | none => simp [Connected.view, Connected.resume, Connected.draftWithout, hdraft]
        | some owned =>
          obtain ⟨k, d⟩ := owned
          by_cases hk : k = i
          · subst hk
            simp [Connected.view, Connected.resume, Connected.draftWithout, hdraft, Ne.symm hj]
          · simp [Connected.view, Connected.resume, Connected.draftWithout, hdraft, hk]
      rw [hview]
      exact others j q hj (by simpa [Connected.resume, hj] using hq)
    · rcases List.mem_append.mp hb with hold | hnew
      · exact answered j b hold
      · obtain ⟨rfl, rfl⟩ : j = i ∧ b = a := by simpa using hnew
        exact own

/-- Running a statement keeps the assertions. -/
theorem Holds.exec (sound : Asserted client A B Allows) (h : Holds A B s) {i : ι} {p : P}
    (hp : s.running i = some p)
    (allowed : (client i).access p = .commit →
      ∀ j q, j ≠ i → s.running j = some q → Allows p q)
    (step : s.exec (client i) i p = some t) : Holds A B t := by
  have hown := h.running i p hp
  cases hacc : (client i).access p with
  | read =>
    simp only [Connected.exec, hacc] at step
    obtain rfl := Option.some.inj step
    exact Holds.resume h.answered (sound.read i p _ _ hacc hown) fun j q _ hq => h.running j q hq
  | write =>
    cases hdraft : s.draft with
    | none =>
      simp only [Connected.exec, hacc, hdraft] at step
      obtain rfl := Option.some.inj step
      rw [view_of_draft_none hdraft] at hown
      refine Holds.resume h.answered ?_ fun j q hj hq => ?_
      · rw [view_of_draft_none (by rfl)]
        exact sound.write i p _ hacc hown
      · have hother := h.running j q hq
        rw [view_of_draft_none hdraft] at hother
        rw [view_of_draft_none (by rfl)]
        exact sound.afterWrite i p _ hacc hown j q hj hother
    | some owned => simp [Connected.exec, hacc, hdraft] at step
  | begin =>
    cases hdraft : s.draft with
    | none =>
      simp only [Connected.exec, hacc, hdraft] at step
      obtain rfl := Option.some.inj step
      rw [view_of_draft_none hdraft] at hown
      refine Holds.resume h.answered ?_ fun j q hj hq => ?_
      · have hview' : Connected.view { s with draft := some (i, s.committed) } i =
            s.committed := by simp [Connected.view]
        rw [hview']
        exact sound.begin i p _ hacc hown
      · have hother := h.running j q hq
        rw [view_of_draft_none hdraft] at hother
        rw [view_of_draft_other (by rfl) hj]
        exact hother
    | some owned => simp [Connected.exec, hacc, hdraft] at step
  | draft =>
    cases hdraft : s.draft with
    | none => simp [Connected.exec, hacc, hdraft] at step
    | some owned =>
      obtain ⟨k, d⟩ := owned
      simp only [Connected.exec, hacc, hdraft] at step
      split at step
      · rename_i hk
        subst hk
        obtain rfl := Option.some.inj step
        have hview : s.view k = d := by simp [Connected.view, hdraft]
        rw [hview] at hown
        refine Holds.resume h.answered ?_ fun j q hj hq => ?_
        · have hview' : Connected.view { s with draft := some (k, ((client k).run p d).1) } k =
              ((client k).run p d).1 := by simp [Connected.view]
          rw [hview']
          exact sound.draft k p _ d hacc hown
        · have hother := h.running j q hq
          rw [view_of_draft_other hdraft hj] at hother
          rw [view_of_draft_other (by rfl) hj]
          exact hother
      · cases step
  | commit =>
    cases hdraft : s.draft with
    | none => simp [Connected.exec, hacc, hdraft] at step
    | some owned =>
      obtain ⟨k, d⟩ := owned
      simp only [Connected.exec, hacc, hdraft] at step
      split at step
      · rename_i hk
        subst hk
        obtain rfl := Option.some.inj step
        have hview : s.view k = d := by simp [Connected.view, hdraft]
        rw [hview] at hown
        refine Holds.resume h.answered ?_ fun j q hj hq => ?_
        · rw [view_of_draft_none (by rfl)]
          exact sound.commit k p _ d hacc hown
        · have hother := h.running j q hq
          rw [view_of_draft_other hdraft hj] at hother
          rw [view_of_draft_none (by rfl)]
          exact sound.afterCommit k p _ d hacc hown j q hj (allowed hacc j q hj hq) hother
      · cases step

/-- **The assertion rule.** Sound assertions hold in every state of every run whose commits
are all allowed. -/
theorem assertion_rule (sound : Asserted client A B Allows) {d : D}
    {ls : List (ConnectionStep ι κ)}
    (allowed : (connections client).Meets (CommitsAllowed client Allows) (.initial d) ls)
    (hrun : (connections client).run (.initial d) ls = some t) : Holds A B t := by
  have keep (s : Connected ι D P α) (l : ConnectionStep ι κ) (t : Connected ι D P α)
      (h : Holds A B s) (hguard : CommitsAllowed client Allows s l)
      (step : (connections client).step s l = some t) : Holds A B t := by
    cases l with
    | call i c =>
      simp only [connections] at step
      split at step
      · obtain rfl := Option.some.inj step
        exact Holds.resume h.answered (sound.start i c _ _) fun j q _ hq => h.running j q hq
      · cases step
    | exec i =>
      simp only [connections] at step
      split at step
      · cases step
      · rename_i p hp
        exact h.exec sound hp (fun hacc => hguard p hp hacc) step
    | throws i =>
      simp only [connections] at step
      split at step
      · cases step
      · obtain rfl := Option.some.inj step
        exact Holds.resume h.answered (sound.thrown i _) fun j q _ hq => h.running j q hq
  have start : Holds A B (Connected.initial d) := {
    running := fun i p hp => by simp [Connected.initial] at hp
    answered := fun i a ha => by simp [Connected.initial] at ha }
  exact (connections client).invariant_of_meets keep start allowed hrun

end Xygo.Computation
