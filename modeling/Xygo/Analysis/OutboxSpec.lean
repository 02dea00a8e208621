import Xygo.Model.Outbox

/-!
# What one call of the memory outbox can do

`Outcome s c r t` lists every way a call `c` on the store `s` can end, with its guards:
the answer `r` and the store `t` it leaves. `outcome_call` is the one place where the
operations are unfolded; every invariant of the store is a case analysis on it.
-/

set_option autoImplicit false

namespace Xygo.Analysis

open Xygo.Computation Xygo.Model

/-- The ways a call can end. -/
inductive Outcome (s : OutboxStore) :
    OutboxCall → Except JsError OutboxResult → OutboxStore → Prop
  /-- The call throws. -/
  | refused (c : OutboxCall) (e : JsError) : Outcome s c (.error e) s
  /-- A new job enters under a free key and a free id. -/
  | enqueued {event : OutboxEvent} {key : Option String} {now : Int} {job : OutboxJob}
      (built : newJob event key now = .ok job)
      (freeKey : s.idempotencyKeys.get job.idempotencyKey = none)
      (freeId : s.items.has job.id = false) :
      Outcome s (.enqueue event key now) (.ok (.job job))
        ⟨s.items.set job.id job, s.idempotencyKeys.set job.idempotencyKey job.id⟩
  /-- The key is bound to the same logical event. -/
  | duplicate {event : OutboxEvent} {key : Option String} {now : Int} {job : OutboxJob}
      {existingId : String} {existing : OutboxJob}
      (built : newJob event key now = .ok job)
      (boundKey : s.idempotencyKeys.get job.idempotencyKey = some existingId)
      (found : s.items.get existingId = some existing)
      (same : sameLogicalEvent existing event = true) :
      Outcome s (.enqueue event key now) (.ok (.job existing)) s
  /-- The selected ready jobs are claimed. -/
  | claimed {workerId : String} {now limit staleAfterMs : Int} (valid : isValidTime now = true) :
      Outcome s (.claim workerId now limit staleAfterMs)
        (.ok (.jobs ((sliceTo (ready s now staleAfterMs) limit).map (Model.claimed workerId now))))
        { s with items := s.items.mapValues fun record =>
            if record.id ∈ (sliceTo (ready s now staleAfterMs) limit).map OutboxJob.id then
              Model.claimed workerId now record
            else record }
  /-- The worker that holds the claim completes it. -/
  | completed {id workerId : String} {now : Int} {record : OutboxJob}
      (found : s.items.get id = some record) (processing : record.status = .processing)
      (holder : record.lockedBy = some workerId) (valid : isValidTime now = true) :
      Outcome s (.complete id workerId now) (.ok (.job (Model.completed now record)))
        (s.put id (Model.completed now record))
  /-- The worker that holds the claim fails it. -/
  | failed {id workerId : String} {error : JsError} {now next : Int} {options : FailOptions}
      {record : OutboxJob}
      (found : s.items.get id = some record) (processing : record.status = .processing)
      (holder : record.lockedBy = some workerId) (valid : isValidTime now = true)
      (due : retryAt record now options = .ok next) :
      Outcome s (.fail id workerId error now options)
        (.ok (.job (Model.failed error now next options record)))
        (s.put id (Model.failed error now next options record))
  /-- The tenant of the call has no job under the id. -/
  | absent {id : String} {tenantId : Option String} {reason : String} {now : Int} :
      Outcome s (.replay id tenantId reason now) (.ok (.replayed none)) s
  /-- The tenant of the call replays its own dead job. -/
  | replayed {id : String} {tenantId : Option String} {reason replayReason : String} {now : Int}
      {record : OutboxJob}
      (accepted : normalizedReplayReason reason = .ok replayReason)
      (found : s.items.get id = some record) (own : record.tenantId = tenantId)
      (dead : record.status = .dead) (valid : isValidTime now = true) :
      Outcome s (.replay id tenantId reason now)
        (.ok (.replayed (some (Model.replayed replayReason now record))))
        (s.put id (Model.replayed replayReason now record))

/-- INTERNAL: `nowDate` returns the time it was given, or throws.
SOURCE: apps/api/src/reliability/outbox.js:38-42 -/
theorem nowDate_cases (now : Int) :
    (isValidTime now = true ∧ nowDate now = .ok now) ∨ ∃ e, nowDate now = .error e := by
  unfold nowDate
  split
  · exact Or.inl ⟨by assumption, rfl⟩
  · exact Or.inr ⟨_, rfl⟩

/-- INTERNAL: `nowIso` returns the time it was given, or throws.
SOURCE: apps/api/src/reliability/outbox.js:44-46 -/
theorem nowIso_cases (now : Int) :
    (isValidTime now = true ∧ nowIso now = .ok now) ∨ ∃ e, nowIso now = .error e := by
  obtain ⟨hv, hd⟩ | ⟨e, he⟩ := nowDate_cases now
  · left
    exact ⟨hv, by simp [nowIso, hd, toISOString, hv, bind, Except.bind]⟩
  · exact Or.inr ⟨e, by simp [nowIso, he, bind, Except.bind]⟩

/-- INTERNAL: the guard shared by `complete` and `fail` passes exactly on a processing
record that the worker locked.
SOURCE: apps/api/src/reliability/outbox.js:204-207, 220-223 -/
theorem heldBy_cases (s : OutboxStore) (id workerId : String) :
    (∃ record, heldBy s id workerId = .ok record ∧ s.items.get id = some record ∧
      record.status = .processing ∧ record.lockedBy = some workerId) ∨
    heldBy s id workerId = .error notClaimed := by
  unfold heldBy
  cases hget : s.items.get id with
  | none => exact Or.inr rfl
  | some record =>
    by_cases hbad : record.status ≠ .processing ∨ record.lockedBy ≠ some workerId
    · exact Or.inr (by simp [hbad])
    · push Not at hbad
      exact Or.inl ⟨record, by simp [hbad], rfl, hbad.1, hbad.2⟩

/-- INTERNAL: what `enqueue` can do.
SOURCE: apps/api/src/reliability/outbox.js:169-181 -/
theorem outcome_enqueue (s : OutboxStore) (event : OutboxEvent) (key : Option String) (now : Int) :
    Outcome s (.enqueue event key now) (memoryOutbox.call (.enqueue event key now) s).1
      (memoryOutbox.call (.enqueue event key now) s).2 := by
  simp only [memoryOutbox, OutboxCall.operation, enqueue, Effect.exec_map, Effect.exec_bind,
    Effect.exec_lift, Effect.exec_get]
  cases hjob : newJob event key now with
  | error e => exact .refused _ e
  | ok job =>
    cases hkey : s.idempotencyKeys.get job.idempotencyKey with
    | some existingId =>
      cases hget : s.items.get existingId with
      | none => simpa [hkey, hget] using Outcome.refused _ _
      | some existing =>
        by_cases hsame : sameLogicalEvent existing event = true
        · simpa [hkey, hget, hsame] using Outcome.duplicate hjob hkey hget hsame
        · simpa [hkey, hget, hsame] using Outcome.refused _ _
    | none =>
      cases hid : s.items.has job.id with
      | true => simpa [hkey, hid] using Outcome.refused _ _
      | false => simpa [hkey, hid] using Outcome.enqueued hjob hkey hid

/-- INTERNAL: what `claim` can do.
SOURCE: apps/api/src/reliability/outbox.js:190-202 -/
theorem outcome_claim (s : OutboxStore) (workerId : String) (now limit staleAfterMs : Int) :
    Outcome s (.claim workerId now limit staleAfterMs)
      (memoryOutbox.call (.claim workerId now limit staleAfterMs) s).1
      (memoryOutbox.call (.claim workerId now limit staleAfterMs) s).2 := by
  obtain ⟨hv, hnow⟩ | ⟨e, he⟩ := nowIso_cases now
  · simpa [memoryOutbox, OutboxCall.operation, claim, hnow] using Outcome.claimed hv
  · simpa [memoryOutbox, OutboxCall.operation, claim, he] using Outcome.refused _ e

/-- INTERNAL: what `complete` can do.
SOURCE: apps/api/src/reliability/outbox.js:203-218 -/
theorem outcome_complete (s : OutboxStore) (id workerId : String) (now : Int) :
    Outcome s (.complete id workerId now) (memoryOutbox.call (.complete id workerId now) s).1
      (memoryOutbox.call (.complete id workerId now) s).2 := by
  obtain ⟨record, hheld, hget, hproc, hlock⟩ | hheld := heldBy_cases s id workerId
  · obtain ⟨hv, hnow⟩ | ⟨e, he⟩ := nowIso_cases now
    · simpa [memoryOutbox, OutboxCall.operation, complete, hheld, hnow] using
        Outcome.completed hget hproc hlock hv
    · simpa [memoryOutbox, OutboxCall.operation, complete, hheld, he] using Outcome.refused _ e
  · simpa [memoryOutbox, OutboxCall.operation, complete, hheld] using Outcome.refused _ _

/-- INTERNAL: what `fail` can do.
SOURCE: apps/api/src/reliability/outbox.js:219-237 -/
theorem outcome_fail (s : OutboxStore) (id workerId : String) (error : JsError) (now : Int)
    (options : FailOptions) :
    Outcome s (.fail id workerId error now options)
      (memoryOutbox.call (.fail id workerId error now options) s).1
      (memoryOutbox.call (.fail id workerId error now options) s).2 := by
  obtain ⟨record, hheld, hget, hproc, hlock⟩ | hheld := heldBy_cases s id workerId
  · obtain ⟨hv, hnow⟩ | ⟨e, he⟩ := nowDate_cases now
    · cases hdue : retryAt record now options with
      | ok next =>
        simpa [memoryOutbox, OutboxCall.operation, fail, hheld, hnow, hdue] using
          Outcome.failed hget hproc hlock hv hdue
      | error e =>
        simpa [memoryOutbox, OutboxCall.operation, fail, hheld, hnow, hdue] using
          Outcome.refused _ e
    · simpa [memoryOutbox, OutboxCall.operation, fail, hheld, he] using Outcome.refused _ e
  · simpa [memoryOutbox, OutboxCall.operation, fail, hheld] using Outcome.refused _ _

/-- INTERNAL: what `replay` can do.
SOURCE: apps/api/src/reliability/outbox.js:253-273 -/
theorem outcome_replay (s : OutboxStore) (id : String) (tenantId : Option String)
    (reason : String) (now : Int) :
    Outcome s (.replay id tenantId reason now)
      (memoryOutbox.call (.replay id tenantId reason now) s).1
      (memoryOutbox.call (.replay id tenantId reason now) s).2 := by
  cases hreason : normalizedReplayReason reason with
  | error e => simpa [memoryOutbox, OutboxCall.operation, replay, hreason] using Outcome.refused _ e
  | ok replayReason =>
    cases hget : s.items.get id with
    | none => simpa [memoryOutbox, OutboxCall.operation, replay, hreason, hget] using Outcome.absent
    | some record =>
      by_cases hown : record.tenantId = tenantId
      · by_cases hdead : record.status = .dead
        · obtain ⟨hv, hnow⟩ | ⟨e, he⟩ := nowIso_cases now
          · simpa [memoryOutbox, OutboxCall.operation, replay, hreason, hget, hown, hdead, hnow]
              using Outcome.replayed hreason hget hown hdead hv
          · simpa [memoryOutbox, OutboxCall.operation, replay, hreason, hget, hown, hdead, he]
              using Outcome.refused _ e
        · simpa [memoryOutbox, OutboxCall.operation, replay, hreason, hget, hown, hdead]
            using Outcome.refused _ _
      · simpa [memoryOutbox, OutboxCall.operation, replay, hreason, hget, hown] using Outcome.absent

/-- Every call of the memory outbox ends in one of the listed ways.
SOURCE: apps/api/src/reliability/outbox.js:163-282 -/
theorem outcome_call (s : OutboxStore) (c : OutboxCall) :
    Outcome s c (memoryOutbox.call c s).1 (memoryOutbox.call c s).2 := by
  cases c with
  | enqueue event key now => exact outcome_enqueue s event key now
  | claim workerId now limit staleAfterMs => exact outcome_claim s workerId now limit staleAfterMs
  | complete id workerId now => exact outcome_complete s id workerId now
  | fail id workerId error now options => exact outcome_fail s id workerId error now options
  | replay id tenantId reason now => exact outcome_replay s id tenantId reason now

end Xygo.Analysis
