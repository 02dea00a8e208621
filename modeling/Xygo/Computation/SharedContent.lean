import Xygo.Computation.Machine

/-!
# Calls that read a shared content whole and rewrite it whole

Several parties work on one content. A call reads all of it, and either it is answered there and
then or it replaces all of it in a second step, later: between the two the others may read and
write, and what they write then is lost. A party may also stop before its second step.

Whatever the parties do, the content is the one a serial run of some of the answered calls leaves,
with the answers they got: so what every serial run keeps, every interleaving keeps. No call is
lost in a run in which nothing changes between the two steps of a call.
-/

set_option autoImplicit false

namespace Xygo.Computation

/-- Calls on a content: the answer, and the content that replaces the one read, if any. -/
structure Rewriter (σ κ α : Type) where
  call : κ → σ → α × Option σ

namespace Rewriter

variable {ι σ κ α : Type} [DecidableEq ι] (O : Rewriter σ κ α)

/-- A call that has read and is yet to write. -/
structure Unwritten (σ κ α : Type) where
  request : κ
  answer : α
  seen : σ
  next : σ

/-- The content, the call each party is in, and the answered calls. -/
structure Shared (ι σ κ α : Type) where
  content : σ
  unwritten : ι → Option (Unwritten σ κ α)
  log : List (κ × α)

/-- A party reads the content for a call, writes the next one, or stops before it does. -/
inductive Turn (ι κ : Type)
  | reads (i : ι) (c : κ)
  | writes (i : ι)
  | stops (i : ι)

/-- No party is in a call. -/
def Shared.initial (s : σ) : Shared ι σ κ α := ⟨s, fun _ => none, []⟩

/-- The parties, one turn after the other. -/
def parties : Machine (Shared ι σ κ α) (Turn ι κ) where
  step s
    | .reads i c =>
      match s.unwritten i with
      | some _ => none
      | none =>
        match (O.call c s.content).2 with
        | none => some { s with log := s.log ++ [(c, (O.call c s.content).1)] }
        | some next =>
          some { s with
            unwritten := Function.update s.unwritten i
              (some ⟨c, (O.call c s.content).1, s.content, next⟩) }
    | .writes i =>
      (s.unwritten i).map fun w =>
        { content := w.next
          unwritten := Function.update s.unwritten i none
          log := s.log ++ [(w.request, w.answer)] }
    | .stops i =>
      (s.unwritten i).map fun _ =>
        { s with unwritten := Function.update s.unwritten i none }

/-- The calls made one after the other by one party that never stops. -/
def serial : Object σ κ α where
  call c s := ((O.call c s).1, (O.call c s).2.getD s)

/-- What a turn may do: answer a call that writes nothing, read, write, or stop. -/
theorem step_cases {s t : Shared ι σ κ α} {turn : Turn ι κ}
    (h : (O.parties).step s turn = some t) :
    (∃ i c, turn = .reads i c ∧ (O.call c s.content).2 = none ∧
      t = { s with log := s.log ++ [(c, (O.call c s.content).1)] }) ∨
    (∃ i c next, turn = .reads i c ∧ (O.call c s.content).2 = some next ∧
      t = { s with
        unwritten := Function.update s.unwritten i
          (some ⟨c, (O.call c s.content).1, s.content, next⟩) }) ∨
    (∃ i w, turn = .writes i ∧ s.unwritten i = some w ∧
      t = { content := w.next
            unwritten := Function.update s.unwritten i none
            log := s.log ++ [(w.request, w.answer)] }) ∨
    (∃ i, turn = .stops i ∧ t = { s with unwritten := Function.update s.unwritten i none }) := by
  cases turn with
  | reads i c =>
    simp only [parties] at h
    split at h
    · cases h
    · split at h
      · exact .inl ⟨i, c, rfl, by assumption, (Option.some.inj h).symm⟩
      · exact .inr (.inl ⟨i, c, _, rfl, by assumption, (Option.some.inj h).symm⟩)
  | writes i =>
    obtain ⟨w, hw, rfl⟩ := Option.map_eq_some_iff.mp h
    exact .inr (.inr (.inl ⟨i, w, rfl, hw, rfl⟩))
  | stops i =>
    obtain ⟨w, -, rfl⟩ := Option.map_eq_some_iff.mp h
    exact .inr (.inr (.inr ⟨i, rfl, rfl⟩))

/-- What holds of each call yet to be written still holds when one party's is set. -/
theorem forall_update {R : Unwritten σ κ α → Prop} {unwritten : ι → Option (Unwritten σ κ α)}
    (h : ∀ i w, unwritten i = some w → R w) (i : ι) {next : Option (Unwritten σ κ α)}
    (hnext : ∀ w, next = some w → R w) (j : ι) (w : Unwritten σ κ α)
    (hw : Function.update unwritten i next j = some w) : R w := by
  rcases eq_or_ne j i with rfl | hne
  · rw [Function.update_self] at hw
    exact hnext w hw
  · rw [Function.update_of_ne hne] at hw
    exact h j w hw

/-- A content that a serial run of some of the calls of a log leaves, with the log's answers. -/
def Serializes (start : σ) (log : List (κ × α)) (content : σ) : Prop :=
  ∃ ran, ran.Sublist log ∧ O.serial.run start (ran.map Prod.fst) = (ran, content)

namespace Serializes

variable {O} {start content next : σ} {log : List (κ × α)} {c : κ} {answer : α}

/-- A longer log has the calls of a shorter one. -/
theorem mono (h : O.Serializes start log content) (more : List (κ × α)) :
    O.Serializes start (log ++ more) content := by
  obtain ⟨ran, hsub, hrun⟩ := h
  exact ⟨ran, hsub.trans (List.sublist_append_left log more), hrun⟩

/-- One more call, made on what the run has left. -/
theorem concat {seen : σ} (h : O.Serializes start log seen)
    (hcall : O.call c seen = (answer, some next)) :
    O.Serializes start (log ++ [(c, answer)]) next := by
  obtain ⟨ran, hsub, hrun⟩ := h
  refine ⟨ran ++ [(c, answer)], hsub.append_right _, ?_⟩
  have hlast : O.serial.call c seen = (answer, next) := by simp [serial, hcall]
  rw [List.map_append, Object.run_append, hrun]
  simp [hlast]

end Serializes

/-- What every turn keeps: the content and all that is yet to be written come from serial runs. -/
structure Serial (start : σ) (s : Shared ι σ κ α) : Prop where
  content : O.Serializes start s.log s.content
  unwritten : ∀ i w, s.unwritten i = some w →
    O.Serializes start s.log w.seen ∧ O.call w.request w.seen = (w.answer, some w.next)

variable {O} {start : σ}

omit [DecidableEq ι] in
theorem Serial.initial : O.Serial start (Shared.initial start : Shared ι σ κ α) where
  content := ⟨[], List.Sublist.refl [], rfl⟩
  unwritten _ _ h := by cases h

/-- **Step.** A turn keeps it. -/
theorem Serial.step {s t : Shared ι σ κ α} {turn : Turn ι κ} (h : O.Serial start s)
    (hstep : (O.parties).step s turn = some t) : O.Serial start t := by
  obtain ⟨i, c, -, -, rfl⟩ | ⟨i, c, next, -, hnext, rfl⟩ | ⟨i, w, -, hw, rfl⟩ | ⟨i, -, rfl⟩ :=
    O.step_cases hstep
  · refine ⟨h.content.mono _, fun j w hw => ?_⟩
    obtain ⟨hseen, hcall⟩ := h.unwritten j w hw
    exact ⟨hseen.mono _, hcall⟩
  · refine ⟨h.content, forall_update h.unwritten i ?_⟩
    rintro w ⟨⟩
    exact ⟨h.content, Prod.ext rfl hnext⟩
  · obtain ⟨hseen, hcall⟩ := h.unwritten i w hw
    refine ⟨hseen.concat hcall, forall_update (fun j v hv => ?_) i (by simp)⟩
    obtain ⟨hother, hothercall⟩ := h.unwritten j v hv
    exact ⟨hother.mono _, hothercall⟩
  · exact ⟨h.content, forall_update h.unwritten i (by simp)⟩

/-- **Every interleaving leaves what a serial run of some of the answered calls leaves.** -/
theorem serializes_of_run {turns : List (Turn ι κ)} {t : Shared ι σ κ α}
    (hrun : (O.parties).run (Shared.initial start) turns = some t) :
    O.Serializes start t.log t.content :=
  ((O.parties).invariant (fun _ _ _ h hstep => Serial.step h hstep) Serial.initial hrun).content

/-- What was answered, and what is yet to be written, are calls of one kind. -/
structure CallsOf (Q : κ → Prop) (s : Shared ι σ κ α) : Prop where
  log : ∀ e ∈ s.log, Q e.1
  unwritten : ∀ i w, s.unwritten i = some w → Q w.request

/-- A turn keeps it that makes no call of another kind. -/
theorem CallsOf.step {Q : κ → Prop} {s t : Shared ι σ κ α} {turn : Turn ι κ} (h : CallsOf Q s)
    (hturn : ∀ i c, turn = .reads i c → Q c) (hstep : (O.parties).step s turn = some t) :
    CallsOf Q t := by
  have happend (c : κ) (answer : α) (hc : Q c) : ∀ e ∈ s.log ++ [(c, answer)], Q e.1 := by
    intro e he
    obtain hmem | hlast := List.mem_append.mp he
    · exact h.log e hmem
    · obtain rfl := List.mem_singleton.mp hlast
      exact hc
  obtain ⟨i, c, rfl, -, rfl⟩ | ⟨i, c, next, rfl, -, rfl⟩ | ⟨i, w, -, hw, rfl⟩ | ⟨i, -, rfl⟩ :=
    O.step_cases hstep
  · exact ⟨happend c _ (hturn i c rfl), h.unwritten⟩
  · refine ⟨h.log, forall_update h.unwritten i ?_⟩
    rintro w ⟨⟩
    exact hturn i c rfl
  · exact ⟨happend _ _ (h.unwritten i w hw), forall_update h.unwritten i (by simp)⟩
  · exact ⟨h.log, forall_update h.unwritten i (by simp)⟩

/-- All that is answered was called. -/
theorem callsOf_run {Q : κ → Prop} {turns : List (Turn ι κ)} {t : Shared ι σ κ α}
    (hturns : ∀ i c, .reads i c ∈ turns → Q c)
    (hrun : (O.parties).run (Shared.initial start) turns = some t) : ∀ e ∈ t.log, Q e.1 := by
  have hmeets : (O.parties).Meets (fun _ turn => ∀ i c, turn = .reads i c → Q c)
      (Shared.initial start) turns := by
    apply Machine.meets_of_forall
    rintro turn hmem s i c rfl
    exact hturns i c hmem
  have hstart : CallsOf Q (Shared.initial start : Shared ι σ κ α) :=
    ⟨fun _ he => absurd he List.not_mem_nil, fun _ _ h => by cases h⟩
  exact ((O.parties).invariant_of_meets (fun _ _ _ h hturn hstep => h.step hturn hstep)
    hstart hmeets hrun).log

/-- What a party writes was made from the content it replaces. -/
def Current (s : Shared ι σ κ α) (turn : Turn ι κ) : Prop :=
  ∀ i, turn = .writes i → ∀ w, s.unwritten i = some w → w.seen = s.content

/-- What every turn keeps that writes on what it has read: nothing answered is lost. -/
structure Lossless (O : Rewriter σ κ α) (start : σ) (s : Shared ι σ κ α) : Prop where
  content : O.serial.run start (s.log.map Prod.fst) = (s.log, s.content)
  unwritten : ∀ i w, s.unwritten i = some w →
    O.call w.request w.seen = (w.answer, some w.next)

omit [DecidableEq ι] in
theorem Lossless.initial : Lossless O start (Shared.initial start : Shared ι σ κ α) where
  content := rfl
  unwritten _ _ h := by cases h

/-- A serial run with one more call. -/
theorem run_concat {log : List (κ × α)} {content : σ} (c : κ)
    (h : O.serial.run start (log.map Prod.fst) = (log, content)) :
    O.serial.run start ((log ++ [(c, (O.call c content).1)]).map Prod.fst) =
      (log ++ [(c, (O.call c content).1)], (O.call c content).2.getD content) := by
  rw [List.map_append, Object.run_append, h]
  rfl

/-- **Step.** A turn that writes on what it has read keeps it. -/
theorem Lossless.step {s t : Shared ι σ κ α} {turn : Turn ι κ} (h : Lossless O start s)
    (hcurrent : Current s turn) (hstep : (O.parties).step s turn = some t) :
    Lossless O start t := by
  obtain ⟨i, c, -, hnone, rfl⟩ | ⟨i, c, next, -, hnext, rfl⟩ | ⟨i, w, rfl, hw, rfl⟩ |
    ⟨i, -, rfl⟩ := O.step_cases hstep
  · refine ⟨?_, h.unwritten⟩
    have hrun := run_concat c h.content
    rw [hnone] at hrun
    exact hrun
  · refine ⟨h.content, forall_update h.unwritten i ?_⟩
    rintro w ⟨⟩
    exact Prod.ext rfl hnext
  · refine ⟨?_, forall_update h.unwritten i (by simp)⟩
    have hseen : w.seen = s.content := hcurrent i rfl w hw
    have hcall := h.unwritten i w hw
    rw [hseen] at hcall
    have hrun := run_concat w.request h.content
    rw [hcall] at hrun
    exact hrun
  · exact ⟨h.content, forall_update h.unwritten i (by simp)⟩

/-- **No lost update.** Where every write is made on the content that was read for it, the
interleaving is the serial run of all the answered calls, with their answers. -/
theorem serial_of_current {turns : List (Turn ι κ)} {t : Shared ι σ κ α}
    (hcurrent : (O.parties).Meets Current (Shared.initial start) turns)
    (hrun : (O.parties).run (Shared.initial start) turns = some t) :
    O.serial.run start (t.log.map Prod.fst) = (t.log, t.content) :=
  ((O.parties).invariant_of_meets (fun _ _ _ h hg hstep => Lossless.step h hg hstep)
    Lossless.initial hcurrent hrun).content

end Rewriter

end Xygo.Computation
