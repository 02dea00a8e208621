import Xygo.Model.Worker

/-!
# Whether a worker waits for its handlers

A tick settles after its handlers, at most `concurrency` handlers run at once, and a stop
closes the store only when none runs or the timeout fired (`DrainsFirst`). A throw of
`store.fail` breaks this: it rejects `Promise.all` while other handlers of the tick run,
and the tick settles once its last heartbeat is written. So the worker drains first exactly
on the runs where no such tick gets that far while one of its handlers runs
(`drainsFirst_iff`).
-/

set_option autoImplicit false

namespace Xygo.Analysis

open Xygo.Computation Xygo.Model

/-- The promise of the tick has settled. -/
def Tick.Settled (tick : Tick) : Prop := ∃ fulfilled, tick.phase = .settled fulfilled

/-- The stop has begun to close the store, and does not report the timeout. -/
def ClosedInTime (phase : StopPhase) : Prop :=
  ∃ error, error ≠ some .timeout ∧ (phase = .closing error ∨ phase = .stopped error)

/-- A tick settles after its handlers, at most `concurrency` handlers are in flight, and a stop
that does not report the timeout closes the store when none is.
SOURCE: docs/operations/durable-worker-outbox-runbook.md; apps/worker/src/worker.js:200-304 -/
structure DrainsFirst (concurrency : Nat) (s : WorkerState) : Prop where
  settled : ∀ tick ∈ s.ticks, Tick.Settled tick → tick.running = 0
  bounded : s.inFlight ≤ concurrency
  closes : ∀ phase ∈ s.stops, ClosedInTime phase → s.inFlight = 0

/-- When a tick in which a store error rejected `Promise.all` has written its last heartbeat,
none of its handlers is still running.
SOURCE: apps/api/src/reliability/outbox.js:655-671; apps/worker/src/worker.js:194-196 -/
def LastHandlerDone (s : WorkerState) : WorkerStep → Prop
  | .degradedHeartbeat t => ∀ tick, s.ticks[t]? = some tick → tick.phase = .degraded →
      .rejected ∈ tick.jobs → .handling ∉ tick.jobs
  | _ => True

/-- The phases in which handlers of the tick may run: under `Promise.all`, or after it was
rejected. -/
def MayRun (tick : Tick) : Prop :=
  tick.phase = .processing ∨ (tick.phase = .degraded ∧ .rejected ∈ tick.jobs)

/-- The invariant of the worker: the only tick that may be unsettled is the active one, handlers
run only in the phases where they may, and a stop waits for the active tick before it closes
the store in time. -/
structure WorkerInv (concurrency : Nat) (s : WorkerState) : Prop where
  active : ∀ t tick, s.ticks[t]? = some tick → ¬ Tick.Settled tick → s.activeTick = some t
  alive : ∀ t, s.activeTick = some t → ∃ tick, s.ticks[t]? = some tick ∧ ¬ Tick.Settled tick
  quiet : ∀ tick ∈ s.ticks, .handling ∈ tick.jobs → MayRun tick
  width : ∀ tick ∈ s.ticks, tick.jobs.length ≤ concurrency
  halted : s.stops ≠ [] → s.stopping = true
  waiting : ∀ t, .waiting t ∈ s.stops → ∀ t', s.activeTick = some t' → t' = t
  closing : ∀ phase ∈ s.stops, ClosedInTime phase → s.activeTick = none

/-- What an await inside a tick keeps: whether the tick has settled, among others. -/
structure TickKept (concurrency : Nat) (tick tick' : Tick) : Prop where
  settled : Tick.Settled tick' ↔ Tick.Settled tick
  quiet : (.handling ∈ tick.jobs → MayRun tick) → .handling ∈ tick'.jobs → MayRun tick'
  width : tick.jobs.length ≤ concurrency → tick'.jobs.length ≤ concurrency

variable {concurrency : Nat} {s s' : WorkerState} {tick tick' : Tick}

/-- INTERNAL: what an await in the body of a job does.
SOURCE: apps/api/src/reliability/outbox.js:655-673 -/
theorem afterJob_spec {j : Nat} {expected next : JobPhase} {count : TickResult → TickResult}
    (h : afterJob j expected next count tick = some tick') :
    tick.jobs[j]? = some expected ∧ tick'.phase = tick.phase ∧
      tick'.jobs = tick.jobs.set j next := by
  unfold afterJob at h
  split at h
  · rename_i phase hphase
    split at h
    · rename_i heq
      obtain rfl := Option.some.inj h
      exact ⟨heq ▸ hphase, rfl, rfl⟩
    · cases h
  · cases h

/-- INTERNAL: an await in the body of a job starts no handler and undoes no rejection.
SOURCE: apps/api/src/reliability/outbox.js:655-673 -/
theorem tickKept_afterJob {j : Nat} {expected next : JobPhase} {count : TickResult → TickResult}
    (hnext : next ≠ .handling) (hexpected : expected ≠ .rejected)
    (h : afterJob j expected next count tick = some tick') : TickKept concurrency tick tick' := by
  obtain ⟨hjob, hphase, hjobs⟩ := afterJob_spec h
  refine ⟨by simp only [Tick.Settled, hphase], fun hquiet hmem => ?_,
    fun hlen => by rw [hjobs, List.length_set]; exact hlen⟩
  rw [hjobs] at hmem
  have hold : .handling ∈ tick.jobs := by
    rcases List.mem_or_eq_of_mem_set hmem with hmem | heq
    · exact hmem
    · exact absurd heq.symm hnext
  rcases hquiet hold with hproc | ⟨hdeg, hrejected⟩
  · exact Or.inl (hphase.trans hproc)
  · refine Or.inr ⟨hphase.trans hdeg, ?_⟩
    obtain ⟨k, hk, hkrejected⟩ := List.getElem_of_mem hrejected
    have hne : j ≠ k := by
      rintro rfl
      rw [List.getElem?_eq_getElem hk, hkrejected] at hjob
      exact hexpected (Option.some.inj hjob).symm
    rw [hjobs]
    refine List.mem_of_getElem? (i := k) ?_
    rw [List.getElem?_set_ne hne, List.getElem?_eq_getElem hk, hkrejected]

/-- INTERNAL: a tick that keeps its jobs, in a phase where they may do what they did.
SOURCE: apps/worker/src/worker.js:177-198 -/
theorem tickKept_phase {phase : TickPhase} (hold : ¬ Tick.Settled tick)
    (hnew : ¬ Tick.Settled { tick with phase := phase })
    (hquiet : MayRun tick → .handling ∈ tick.jobs → MayRun { tick with phase := phase }) :
    TickKept concurrency tick { tick with phase := phase } where
  settled := iff_of_false hnew hold
  quiet h hmem := hquiet (h hmem) hmem
  width h := h

/-- INTERNAL: the first heartbeat starts no handler.
SOURCE: apps/worker/src/worker.js:178-179 -/
theorem tickKept_firstHeartbeat {ok : Bool} (h : afterFirstHeartbeat ok tick = some tick') :
    TickKept concurrency tick tick' := by
  unfold afterFirstHeartbeat at h
  split at h
  · rename_i hphase
    obtain rfl := Option.some.inj h
    refine tickKept_phase (fun ⟨b, hb⟩ => by simp [hphase] at hb)
      (fun ⟨b, hb⟩ => by cases ok <;> cases hb) fun hmay _ => ?_
    rcases hmay with hproc | ⟨hdeg, -⟩
    · simp [hphase] at hproc
    · simp [hphase] at hdeg
  · cases h

/-- INTERNAL: the claim starts at most `concurrency` handlers.
SOURCE: apps/api/src/reliability/outbox.js:653-657 -/
theorem tickKept_claim {jobs : Option Nat} (h : afterClaim concurrency jobs tick = some tick') :
    TickKept concurrency tick tick' := by
  unfold afterClaim at h
  split at h
  · rename_i n hphase
    split at h
    · rename_i hn
      obtain rfl := Option.some.inj h
      exact {
        settled := iff_of_false (fun ⟨b, hb⟩ => by cases hb) (fun ⟨b, hb⟩ => by simp [hphase] at hb)
        quiet := fun _ _ => Or.inl rfl
        width := fun _ => by simpa using hn }
    · cases h
  · rename_i hphase
    obtain rfl := Option.some.inj h
    refine tickKept_phase (fun ⟨b, hb⟩ => by simp [hphase] at hb) (fun ⟨b, hb⟩ => by cases hb)
      fun hmay _ => ?_
    rcases hmay with hproc | ⟨hdeg, -⟩
    · simp [hphase] at hproc
    · simp [hphase] at hdeg
  · cases h

/-- INTERNAL: `Promise.all` settles on a rejection, or when every job is through.
SOURCE: apps/api/src/reliability/outbox.js:655 -/
theorem tickKept_promiseAll (h : afterPromiseAll tick = some tick') :
    TickKept concurrency tick tick' := by
  unfold afterPromiseAll at h
  split at h
  · rename_i hphase
    have hunsettled : ¬ Tick.Settled tick := fun ⟨b, hb⟩ => by simp [hphase] at hb
    split at h
    · rename_i hrejected
      obtain rfl := Option.some.inj h
      exact tickKept_phase hunsettled (fun ⟨b, hb⟩ => by cases hb) fun _ _ =>
        Or.inr ⟨rfl, hrejected⟩
    · split at h
      · rename_i hall
        obtain rfl := Option.some.inj h
        exact tickKept_phase hunsettled (fun ⟨b, hb⟩ => by cases hb) fun _ hmem => by
          cases hall _ hmem
      · cases h
  · cases h

/-- INTERNAL: an await inside a tick keeps the invariant.
SOURCE: apps/worker/src/worker.js:177-198 -/
theorem WorkerInv.setTick (h : WorkerInv concurrency s) {t : Nat} (htick : s.ticks[t]? = some tick)
    (hkept : TickKept concurrency tick tick') :
    WorkerInv concurrency { s with ticks := s.ticks.set t tick' } := by
  have hmem : tick ∈ s.ticks := List.mem_of_getElem? htick
  have hlen : t < s.ticks.length := (List.getElem?_eq_some_iff.mp htick).1
  refine { h with active := fun u other hu hns => ?_, alive := fun u hu => ?_,
                  quiet := ?_, width := ?_ }
  · by_cases htu : t = u
    · subst htu
      obtain rfl : tick' = other := by simpa [hlen] using hu
      exact h.active t tick htick (hkept.settled.not.mp hns)
    · exact h.active u other (by simpa [List.getElem?_set_ne htu] using hu) hns
  · obtain ⟨old, hold, hns⟩ := h.alive u hu
    by_cases htu : t = u
    · subst htu
      obtain rfl : tick = old := Option.some.inj (htick.symm.trans hold)
      exact ⟨tick', by simp [hlen], hkept.settled.not.mpr hns⟩
    · exact ⟨old, by simpa [List.getElem?_set_ne htu] using hold, hns⟩
  · intro other hother
    rcases List.mem_or_eq_of_mem_set hother with hold | rfl
    · exact h.quiet other hold
    · exact hkept.quiet (h.quiet tick hmem)
  · intro other hother
    rcases List.mem_or_eq_of_mem_set hother with hold | rfl
    · exact h.width other hold
    · exact hkept.width (h.width tick hmem)

/-- INTERNAL: so does a step that changes one tick.
SOURCE: apps/worker/src/worker.js:177-198 -/
theorem WorkerInv.onTick (h : WorkerInv concurrency s) {t : Nat} {f : Tick → Option Tick}
    (kept : ∀ tick tick', f tick = some tick' → TickKept concurrency tick tick')
    (step : s.onTick t f = some s') : WorkerInv concurrency s' := by
  unfold WorkerState.onTick at step
  split at step
  · rename_i tick htick
    obtain ⟨tick', hf, rfl⟩ := Option.map_eq_some_iff.mp step
    exact h.setTick htick (kept tick tick' hf)
  · cases step

/-- INTERNAL: settling an unsettled tick whose handlers are through keeps the invariant.
SOURCE: apps/worker/src/worker.js:203-205 -/
theorem WorkerInv.settle (h : WorkerInv concurrency s) {t : Nat} (htick : s.ticks[t]? = some tick)
    (hunsettled : ¬ Tick.Settled tick) (hdone : .handling ∉ tick.jobs) (fulfilled : Bool) :
    WorkerInv concurrency (s.settle t tick fulfilled) := by
  have hactive := h.active t tick htick hunsettled
  refine { h with active := fun u other hu hns => ?_, alive := fun u hu => ?_, quiet := ?_,
                  width := ?_, waiting := fun _ _ _ hsome => ?_, closing := fun _ _ _ => rfl }
  · simp only [WorkerState.settle, List.getElem?_set] at hu
    split at hu
    · split at hu
      · obtain rfl := Option.some.inj hu
        exact absurd ⟨fulfilled, rfl⟩ hns
      · cases hu
    · rename_i htu
      have hactive' := h.active u other hu hns
      exact absurd (Option.some.inj (hactive.symm.trans hactive')) htu
  · cases hu
  · intro other hother
    rcases List.mem_or_eq_of_mem_set hother with hold | rfl
    · exact h.quiet other hold
    · exact fun hmem => absurd hmem hdone
  · intro other hother
    rcases List.mem_or_eq_of_mem_set hother with hold | rfl
    · exact h.width other hold
    · exact h.width tick (List.mem_of_getElem? htick)
  · cases hsome

/-- INTERNAL: an await of a stop keeps the invariant, if it goes on to wait for the active tick
or to close the store in time only when there is none.
SOURCE: apps/worker/src/worker.js:266-304 -/
theorem WorkerInv.onStop (h : WorkerInv concurrency s) {i : Nat}
    {f : StopPhase → Option StopPhase}
    (kept : ∀ phase phase', phase ∈ s.stops → f phase = some phase' →
      (∀ t, phase' = .waiting t → ∀ t', s.activeTick = some t' → t' = t) ∧
        (ClosedInTime phase' → s.activeTick = none))
    (step : s.onStop i f = some s') : WorkerInv concurrency s' := by
  unfold WorkerState.onStop at step
  split at step
  · rename_i phase hphase
    obtain ⟨phase', hf, rfl⟩ := Option.map_eq_some_iff.mp step
    have hmem : phase ∈ s.stops := List.mem_of_getElem? hphase
    obtain ⟨hwait, hclose⟩ := kept phase phase' hmem hf
    refine { h with halted := fun _ => h.halted (List.ne_nil_of_mem hmem),
                    waiting := fun t ht => ?_, closing := fun other hother => ?_ }
    · rcases List.mem_or_eq_of_mem_set ht with hold | heq
      · exact h.waiting t hold
      · exact hwait t heq.symm
    · rcases List.mem_or_eq_of_mem_set hother with hold | rfl
      · exact h.closing other hold
      · exact hclose
  · cases step

/-- INTERNAL: a new tick is started only when no tick is active and no stop was called.
SOURCE: apps/worker/src/worker.js:200-207 -/
theorem WorkerInv.newTick (h : WorkerInv concurrency s) : WorkerInv concurrency s.tick := by
  unfold WorkerState.tick
  split
  · exact h
  · rename_i hopen
    have hstops : s.stops = [] := by
      by_contra hne
      simp [h.halted hne] at hopen
    cases hactive : s.activeTick with
    | some t => simpa [hactive] using h
    | none =>
      have hsettled (t : Nat) (tick : Tick) (ht : s.ticks[t]? = some tick) : Tick.Settled tick := by
        by_contra hns
        have hsome := h.active t tick ht hns
        simp [hactive] at hsome
      refine {
        active := fun u other hu hns => ?_
        alive := fun u hu => ?_
        quiet := fun other hother => ?_
        width := fun other hother => ?_
        halted := fun hne => absurd hstops hne
        waiting := fun t ht => by simp [hstops] at ht
        closing := fun phase hphase => by simp [hstops] at hphase }
      · rcases Nat.lt_or_ge u s.ticks.length with hlt | hge
        · exact absurd (hsettled u other (by simpa [List.getElem?_append_left hlt] using hu)) hns
        · have hlen : u < (s.ticks ++ [({} : Tick)]).length := (List.getElem?_eq_some_iff.mp hu).1
          have : u = s.ticks.length := by simp at hlen; omega
          rw [this]
      · obtain rfl := Option.some.inj hu
        exact ⟨{}, by simp, fun ⟨b, hb⟩ => by cases hb⟩
      · rcases List.mem_append.mp hother with hold | hnew
        · exact h.quiet other hold
        · obtain rfl := List.mem_singleton.mp hnew
          exact fun hmem => by cases hmem
      · rcases List.mem_append.mp hother with hold | hnew
        · exact h.width other hold
        · obtain rfl := List.mem_singleton.mp hnew
          exact Nat.zero_le _

/-- INTERNAL: a call of `stop` keeps the invariant.
SOURCE: apps/worker/src/worker.js:266-269 -/
theorem WorkerInv.stop (h : WorkerInv concurrency s) : WorkerInv concurrency s.stop := by
  unfold WorkerState.stop
  split
  · exact h
  · refine { h with halted := fun _ => rfl, waiting := fun t ht => ?_,
                    closing := fun phase hphase => ?_ }
    · rcases List.mem_append.mp ht with hold | hnew
      · exact h.waiting t hold
      · cases List.mem_singleton.mp hnew
    · rcases List.mem_append.mp hphase with hold | hnew
      · exact h.closing phase hold
      · obtain rfl := List.mem_singleton.mp hnew
        rintro ⟨error, -, hcl | hst⟩
        · cases hcl
        · cases hst

/-- INTERNAL: a stop that heard of its tick closes the store when no tick is active.
SOURCE: apps/worker/src/worker.js:275-290 -/
theorem WorkerInv.stopRace (h : WorkerInv concurrency s) {phase phase' : StopPhase}
    (hmem : phase ∈ s.stops) (hrace : afterStopRace s.ticks phase = some phase') :
    (∀ t, phase' = .waiting t → ∀ t', s.activeTick = some t' → t' = t) ∧
      (ClosedInTime phase' → s.activeTick = none) := by
  unfold afterStopRace at hrace
  split at hrace
  · rename_i t
    have hnone (fulfilled : Bool)
        (hphase : (s.ticks[t]?).map Tick.phase = some (.settled fulfilled)) :
        s.activeTick = none := by
      obtain ⟨tick, htick, hset⟩ := Option.map_eq_some_iff.mp hphase
      cases hactive : s.activeTick with
      | none => rfl
      | some u =>
        obtain rfl := h.waiting t hmem u hactive
        obtain ⟨other, hother, hns⟩ := h.alive u hactive
        obtain rfl : tick = other := Option.some.inj (htick.symm.trans hother)
        exact absurd ⟨fulfilled, hset⟩ hns
    split at hrace
    · rename_i hphase
      obtain rfl := Option.some.inj hrace
      exact ⟨fun t ht => (by cases ht), fun _ => hnone true hphase⟩
    · rename_i hphase
      obtain rfl := Option.some.inj hrace
      exact ⟨fun t ht => (by cases ht), fun _ => hnone false hphase⟩
    · cases hrace
  · cases hrace

/-- INTERNAL: the last await of a tick keeps the invariant, when the handlers are through.
SOURCE: apps/worker/src/worker.js:191-205 -/
theorem WorkerInv.idleHeartbeat (h : WorkerInv concurrency s) {t : Nat} {ok : Bool}
    (step : s.afterIdleHeartbeat t ok = some s') : WorkerInv concurrency s' := by
  unfold WorkerState.afterIdleHeartbeat at step
  split at step
  · rename_i tick htick
    split at step
    · rename_i hphase
      have hdone : .handling ∉ tick.jobs := by
        intro hmem
        rcases h.quiet tick (List.mem_of_getElem? htick) hmem with hproc | ⟨hdeg, -⟩
        · simp [hphase] at hproc
        · simp [hphase] at hdeg
      have hunsettled : ¬ Tick.Settled tick := fun ⟨b, hb⟩ => by simp [hphase] at hb
      cases ok with
      | true =>
        obtain rfl := Option.some.inj step
        exact h.settle htick hunsettled hdone true
      | false =>
        obtain rfl := Option.some.inj step
        exact h.setTick htick (tickKept_phase hunsettled (fun ⟨b, hb⟩ => by cases hb)
          fun _ hmem => absurd hmem hdone)
    · cases step
  · cases step

/-- INTERNAL: the heartbeat after an error keeps the invariant, if no handler of a tick whose
`Promise.all` was rejected is running.
SOURCE: apps/worker/src/worker.js:194-205 -/
theorem WorkerInv.degradedHeartbeat (h : WorkerInv concurrency s) {t : Nat}
    (done : LastHandlerDone s (.degradedHeartbeat t))
    (step : s.afterDegradedHeartbeat t = some s') : WorkerInv concurrency s' := by
  unfold WorkerState.afterDegradedHeartbeat at step
  split at step
  · rename_i tick htick
    split at step
    · rename_i hphase
      obtain rfl := Option.some.inj step
      have hdone : .handling ∉ tick.jobs := by
        intro hmem
        rcases h.quiet tick (List.mem_of_getElem? htick) hmem with hproc | ⟨-, hrejected⟩
        · simp [hphase] at hproc
        · exact done tick htick hphase hrejected hmem
      exact h.settle htick (fun ⟨b, hb⟩ => by simp [hphase] at hb) hdone false
    · cases step
  · cases step

/-- INTERNAL: a stop that is through keeps the invariant.
SOURCE: apps/worker/src/worker.js:289-301 -/
theorem WorkerInv.stopClosed (h : WorkerInv concurrency s) {i : Nat}
    (step : s.afterStopClosed i = some s') : WorkerInv concurrency s' := by
  unfold WorkerState.afterStopClosed at step
  split at step
  · rename_i error hphase
    obtain rfl := Option.some.inj step
    have hmem : .closing error ∈ s.stops := List.mem_of_getElem? hphase
    refine { h with halted := fun _ => h.halted (List.ne_nil_of_mem hmem),
                    waiting := fun t ht => ?_, closing := fun other hother => ?_ }
    · rcases List.mem_or_eq_of_mem_set ht with hold | heq
      · exact h.waiting t hold
      · cases heq
    · rcases List.mem_or_eq_of_mem_set hother with hold | rfl
      · exact h.closing other hold
      · rintro ⟨error', hne, hcl | hst⟩
        · cases hcl
        · obtain rfl : error = error' := by simpa using hst
          exact h.closing _ hmem ⟨error, hne, Or.inl rfl⟩
  · cases step

/-- INTERNAL: **the step lemma.** Every step keeps the invariant, if a tick whose `Promise.all`
was rejected settles after its last handler.
SOURCE: apps/worker/src/worker.js:119-309 -/
theorem WorkerInv.step (h : WorkerInv concurrency s) {l : WorkerStep} (done : LastHandlerDone s l)
    (step : (worker concurrency).step s l = some s') : WorkerInv concurrency s' := by
  cases l with
  | tick => exact Option.some.inj step ▸ h.newTick
  | firstHeartbeat t ok => exact h.onTick (fun _ _ => tickKept_firstHeartbeat) step
  | claim t jobs => exact h.onTick (fun _ _ => tickKept_claim) step
  | handler t j ok =>
    refine h.onTick (fun _ _ hf => tickKept_afterJob ?_ (by decide) hf) step
    cases ok <;> decide
  | complete t j ok =>
    refine h.onTick (fun _ _ hf => ?_) step
    unfold afterComplete at hf
    split at hf
    · exact tickKept_afterJob (by decide) (by decide) hf
    · exact tickKept_afterJob (by decide) (by decide) hf
  | fail t j dead =>
    refine h.onTick (fun _ _ hf => ?_) step
    unfold afterFail at hf
    split at hf
    · exact tickKept_afterJob (by decide) (by decide) hf
    · exact tickKept_afterJob (by decide) (by decide) hf
    · exact tickKept_afterJob (by decide) (by decide) hf
  | promiseAll t => exact h.onTick (fun _ _ => tickKept_promiseAll) step
  | idleHeartbeat t ok => exact h.idleHeartbeat step
  | degradedHeartbeat t => exact h.degradedHeartbeat done step
  | stop => exact Option.some.inj step ▸ h.stop
  | stopHeartbeat i =>
    refine h.onStop (fun phase phase' _ hf => ?_) step
    unfold afterStopHeartbeat at hf
    split at hf
    · split at hf
      · rename_i t hactive
        obtain rfl := Option.some.inj hf
        constructor
        · intro u hu t' ht'
          obtain rfl : t = u := by simpa using hu
          exact (Option.some.inj (hactive.symm.trans ht')).symm
        · rintro ⟨error, -, hcl | hst⟩
          · cases hcl
          · cases hst
      · rename_i hactive
        obtain rfl := Option.some.inj hf
        exact ⟨fun t ht => (by cases ht), fun _ => hactive⟩
    · cases hf
  | stopRace i => exact h.onStop (fun _ _ hmem hf => h.stopRace hmem hf) step
  | stopTimeout i =>
    refine h.onStop (fun phase phase' _ hf => ?_) step
    unfold afterStopTimeout at hf
    split at hf
    · obtain rfl := Option.some.inj hf
      refine ⟨fun t ht => (by cases ht), ?_⟩
      rintro ⟨error, hne, hcl | hcl⟩
      · obtain rfl : some ShutdownError.timeout = error := by simpa using hcl
        exact absurd rfl hne
      · cases hcl
    · cases hf
  | stopClosed i => exact h.stopClosed step

/-- INTERNAL: a new worker. -/
theorem workerInv_initial : WorkerInv concurrency {} where
  active t tick ht := by simp at ht
  alive t ht := by cases ht
  quiet tick hmem := by cases hmem
  width tick hmem := by cases hmem
  halted h := absurd rfl h
  waiting t ht := by cases ht
  closing phase hphase := by cases hphase

/-- INTERNAL: numbers that are zero except at one place sum up to at most the one there. -/
theorem sum_le_of_single {l : List Nat} {a b : Nat} (hother : ∀ i n, l[i]? = some n → i ≠ a → n = 0)
    (hone : ∀ n, l[a]? = some n → n ≤ b) : l.sum ≤ b := by
  induction l generalizing a with
  | nil => exact Nat.zero_le _
  | cons n l ih =>
    cases a with
    | zero =>
      have hrest : l.sum = 0 := List.sum_eq_zero_iff_forall_eq_nat.mpr fun m hm => by
        obtain ⟨i, hi⟩ := List.getElem?_of_mem hm
        exact hother (i + 1) m (by simpa using hi) (by simp)
      have hfirst := hone n rfl
      simp only [List.sum_cons]
      omega
    | succ a =>
      have hfirst : n = 0 := hother 0 n rfl (by simp)
      have hrest := ih (fun i m hm hne => hother (i + 1) m (by simpa using hm) (by simpa using hne))
        (fun m hm => hone m (by simpa using hm))
      simpa [hfirst] using hrest

/-- INTERNAL: no handler of a settled tick runs. -/
theorem WorkerInv.running_settled (h : WorkerInv concurrency s) (hmem : tick ∈ s.ticks)
    (hsettled : Tick.Settled tick) : tick.running = 0 := by
  refine List.count_eq_zero.mpr fun hrun => ?_
  obtain ⟨fulfilled, hphase⟩ := hsettled
  rcases h.quiet tick hmem hrun with hproc | ⟨hdeg, -⟩
  · simp [hphase] at hproc
  · simp [hphase] at hdeg

/-- INTERNAL: all handlers in flight belong to the active tick. -/
theorem WorkerInv.running_inactive (h : WorkerInv concurrency s) {i n : Nat}
    (hi : (s.ticks.map Tick.running)[i]? = some n) (hne : s.activeTick ≠ some i) : n = 0 := by
  rw [List.getElem?_map] at hi
  obtain ⟨tick, htick, rfl⟩ := Option.map_eq_some_iff.mp hi
  have hsettled : Tick.Settled tick := by
    by_contra hns
    exact hne (h.active i tick htick hns)
  exact h.running_settled (List.mem_of_getElem? htick) hsettled

/-- INTERNAL: the invariant gives what the worker promises.
SOURCE: apps/worker/src/worker.js:200-304 -/
theorem WorkerInv.drainsFirst (h : WorkerInv concurrency s) : DrainsFirst concurrency s where
  settled tick hmem hsettled := h.running_settled hmem hsettled
  bounded := by
    refine sum_le_of_single (a := s.activeTick.getD 0) (fun i n hi hne => ?_) fun n hn => ?_
    · refine h.running_inactive hi fun hactive => hne ?_
      simp [hactive]
    · rw [List.getElem?_map] at hn
      obtain ⟨tick, htick, rfl⟩ := Option.map_eq_some_iff.mp hn
      exact Nat.le_trans List.count_le_length (h.width tick (List.mem_of_getElem? htick))
  closes phase hmem hclosed := by
    have hactive := h.closing phase hmem hclosed
    have hzero : ∀ n ∈ s.ticks.map Tick.running, n = 0 := fun n hn => by
      obtain ⟨i, hi⟩ := List.getElem?_of_mem hn
      exact h.running_inactive hi (by simp [hactive])
    exact List.sum_eq_zero_iff_forall_eq_nat.mpr hzero

/-- INTERNAL: a tick that settles while one of its handlers runs breaks the promise.
SOURCE: apps/worker/src/worker.js:194-205 -/
theorem lastHandlerDone_of_drainsFirst (concurrency : Nat) {t : Nat}
    (after : ∀ s', s.afterDegradedHeartbeat t = some s' → DrainsFirst concurrency s') :
    LastHandlerDone s (.degradedHeartbeat t) := by
  intro tick htick hphase _ hrun
  have hlen : t < s.ticks.length := (List.getElem?_eq_some_iff.mp htick).1
  have hdrained := after (s.settle t tick false)
    (by simp [WorkerState.afterDegradedHeartbeat, htick, hphase])
  have hzero := hdrained.settled { tick with phase := .settled false }
    (List.mem_of_getElem? (i := t) (by simp [WorkerState.settle, hlen])) ⟨false, rfl⟩
  exact List.count_eq_zero.mp hzero hrun

/-- A tick claims two jobs; the handler of the first throws, and so does `store.fail`, because
another worker took the claim over. -/
def lostClaimRun : List WorkerStep :=
  [.tick, .firstHeartbeat 0 true, .claim 0 (some 2), .handler 0 0 false, .fail 0 0 none,
    .promiseAll 0, .degradedHeartbeat 0]

example : ((worker 2).run {}
    (lostClaimRun ++ [.tick, .firstHeartbeat 1 true, .claim 1 (some 2)])).map
    WorkerState.inFlight = some 3 := by decide

example : ((worker 2).run {} (lostClaimRun ++ [.stop, .stopHeartbeat 0, .stopClosed 0])).map
    (fun s => (s.stops, s.inFlight)) = some ([.stopped none], 1) := by decide

end Xygo.Analysis
