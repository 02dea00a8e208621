import Mathlib
import Xygo.Computation.Machine

/-!
# The worker loop

`createWorker` of `apps/worker/src/worker.js` with `processOutboxOnce`: ticks that claim
jobs and run their handlers side by side under one `Promise.all`, and `stop`, which waits
for the active tick. Every await is a step of its own, and its outcome is part of the step:
what the handlers, the store and the heartbeat repository do, and in which order, is up to
the environment.
-/

set_option autoImplicit false

namespace Xygo.Model

open Xygo.Computation

/-- Where a job is in the body of `Promise.all`: its handler runs, `store.complete` or
`store.fail` has been called, or its promise is fulfilled or rejected.
SOURCE: apps/api/src/reliability/outbox.js:655-673 -/
inductive JobPhase
  | handling
  | completing
  | failing
  | fulfilled
  | rejected
  deriving DecidableEq, Repr

/-- The counts a tick returns.
SOURCE: apps/api/src/reliability/outbox.js:652 -/
structure TickResult where
  processed : Nat := 0
  retried : Nat := 0
  dead : Nat := 0
  deriving DecidableEq, Repr

/-- The await a tick is at: its first heartbeat, the claim, `Promise.all`, the heartbeat after
it, or the one after an error; or its promise has settled, fulfilled or not.
SOURCE: apps/worker/src/worker.js:177-198 -/
inductive TickPhase
  | starting
  | claiming
  | processing
  | idle
  | degraded
  | settled (fulfilled : Bool)
  deriving DecidableEq, Repr

/-- A tick with the jobs it claimed. -/
structure Tick where
  phase : TickPhase := .starting
  jobs : List JobPhase := []
  result : TickResult := {}
  deriving DecidableEq, Repr

/-- The `shutdownError` of a `stop`.
SOURCE: apps/worker/src/worker.js:272-286 -/
inductive ShutdownError
  | tickFailed
  | timeout
  deriving DecidableEq, Repr

/-- The await a `stop` is at: its heartbeat, the race of the active tick with the timeout, or
the closing of the store; or it has returned, or thrown its error.
SOURCE: apps/worker/src/worker.js:266-304 -/
inductive StopPhase
  | heartbeat
  | waiting (tick : Nat)
  | closing (error : Option ShutdownError)
  | stopped (error : Option ShutdownError)
  deriving DecidableEq, Repr

/-- The variables `createWorker` closes over, the ticks started so far and the calls of
`stop`.
SOURCE: apps/worker/src/worker.js:161-164 -/
structure WorkerState where
  stopping : Bool := false
  closed : Bool := false
  activeTick : Option Nat := none
  ticks : List Tick := []
  stops : List StopPhase := []

/-- A call on the worker, or the outcome of an await of tick `t`, of its job `j` or of the
stop `i`. A claim and a failure that is recorded say what the store returned, and `none` is a
throw of the store. -/
inductive WorkerStep
  | tick
  | firstHeartbeat (t : Nat) (ok : Bool)
  | claim (t : Nat) (jobs : Option Nat)
  | handler (t j : Nat) (ok : Bool)
  | complete (t j : Nat) (ok : Bool)
  | fail (t j : Nat) (dead : Option Bool)
  | promiseAll (t : Nat)
  | idleHeartbeat (t : Nat) (ok : Bool)
  | degradedHeartbeat (t : Nat)
  | stop
  | stopHeartbeat (i : Nat)
  | stopRace (i : Nat)
  | stopTimeout (i : Nat)
  | stopClosed (i : Nat)

/-- The outcome of the first heartbeat: an error is caught like every error of a tick.
SOURCE: apps/worker/src/worker.js:178-179, 194 -/
def afterFirstHeartbeat (ok : Bool) (tick : Tick) : Option Tick :=
  match tick.phase with
  | .starting => some { tick with phase := if ok then .claiming else .degraded }
  | _ => none

/-- The outcome of the claim: a store returns at most as many jobs as it was asked for, and
all their handlers are started.
SOURCE: apps/api/src/reliability/outbox.js:653-657 -/
def afterClaim (concurrency : Nat) (jobs : Option Nat) (tick : Tick) : Option Tick :=
  match tick.phase, jobs with
  | .claiming, some n =>
    if n ≤ concurrency then
      some { tick with phase := .processing, jobs := List.replicate n .handling }
    else none
  | .claiming, none => some { tick with phase := .degraded }
  | _, _ => none

/-- The outcome of an await in the body of a job. -/
def afterJob (j : Nat) (expected next : JobPhase) (count : TickResult → TickResult)
    (tick : Tick) : Option Tick :=
  match tick.jobs[j]? with
  | some phase =>
    if phase = expected then
      some { tick with jobs := tick.jobs.set j next, result := count tick.result }
    else none
  | none => none

/-- A handler returned or threw.
SOURCE: apps/api/src/reliability/outbox.js:657-660 -/
def afterHandler (j : Nat) (ok : Bool) : Tick → Option Tick :=
  afterJob j .handling (if ok then .completing else .failing) id

/-- `store.complete` returned or threw; a throw is caught like one of the handler.
SOURCE: apps/api/src/reliability/outbox.js:658-660 -/
def afterComplete (j : Nat) (ok : Bool) : Tick → Option Tick :=
  if ok then afterJob j .completing .fulfilled fun r => { r with processed := r.processed + 1 }
  else afterJob j .completing .failing id

/-- `store.fail` returned or threw; a throw rejects the promise of the job.
SOURCE: apps/api/src/reliability/outbox.js:661-672 -/
def afterFail (j : Nat) : Option Bool → Tick → Option Tick
  | some true => afterJob j .failing .fulfilled fun r => { r with dead := r.dead + 1 }
  | some false => afterJob j .failing .fulfilled fun r => { r with retried := r.retried + 1 }
  | none => afterJob j .failing .rejected id

/-- `Promise.all`: rejected as soon as one promise is, fulfilled once all are.
SOURCE: apps/api/src/reliability/outbox.js:655 -/
def afterPromiseAll (tick : Tick) : Option Tick :=
  match tick.phase with
  | .processing =>
    if .rejected ∈ tick.jobs then some { tick with phase := .degraded }
    else if ∀ phase ∈ tick.jobs, phase = .fulfilled then some { tick with phase := .idle }
    else none
  | _ => none

/-- Change the tick `t`. -/
def WorkerState.onTick (s : WorkerState) (t : Nat) (f : Tick → Option Tick) : Option WorkerState :=
  match s.ticks[t]? with
  | some tick => (f tick).map fun tick' => { s with ticks := s.ticks.set t tick' }
  | none => none

/-- The promise of a tick settles, and its `finally` frees `activeTick`.
SOURCE: apps/worker/src/worker.js:203-205 -/
def WorkerState.settle (s : WorkerState) (t : Nat) (tick : Tick) (fulfilled : Bool) : WorkerState :=
  { s with
    activeTick := none
    ticks := s.ticks.set t { tick with phase := .settled fulfilled } }

/-- The heartbeat after `Promise.all` was fulfilled.
SOURCE: apps/worker/src/worker.js:191-195 -/
def WorkerState.afterIdleHeartbeat (s : WorkerState) (t : Nat) (ok : Bool) : Option WorkerState :=
  match s.ticks[t]? with
  | some tick =>
    if tick.phase = .idle then
      some (if ok then s.settle t tick true
        else { s with ticks := s.ticks.set t { tick with phase := .degraded } })
    else none
  | none => none

/-- The heartbeat after an error, whose own errors are swallowed.
SOURCE: apps/worker/src/worker.js:194-197 -/
def WorkerState.afterDegradedHeartbeat (s : WorkerState) (t : Nat) : Option WorkerState :=
  match s.ticks[t]? with
  | some tick => if tick.phase = .degraded then some (s.settle t tick false) else none
  | none => none

/-- `tick`: nothing once the worker stops, the active tick if there is one, else a new one.
SOURCE: apps/worker/src/worker.js:200-207 -/
def WorkerState.tick (s : WorkerState) : WorkerState :=
  if s.stopping || s.closed then s
  else
    match s.activeTick with
    | some _ => s
    | none => { s with activeTick := some s.ticks.length, ticks := s.ticks ++ [{}] }

/-- `stop`, up to its heartbeat.
SOURCE: apps/worker/src/worker.js:266-269 -/
def WorkerState.stop (s : WorkerState) : WorkerState :=
  if s.closed then s else { s with stopping := true, stops := s.stops ++ [.heartbeat] }

/-- Change the stop `i`. -/
def WorkerState.onStop (s : WorkerState) (i : Nat) (f : StopPhase → Option StopPhase) :
    Option WorkerState :=
  match s.stops[i]? with
  | some phase => (f phase).map fun phase' => { s with stops := s.stops.set i phase' }
  | none => none

/-- After its heartbeat a stop races the active tick, or closes the store if there is none.
SOURCE: apps/worker/src/worker.js:269-275, 289-290 -/
def afterStopHeartbeat (activeTick : Option Nat) : StopPhase → Option StopPhase
  | .heartbeat =>
    match activeTick with
    | some t => some (.waiting t)
    | none => some (.closing none)
  | _ => none

/-- The tick a stop waits for settled before the timeout.
SOURCE: apps/worker/src/worker.js:275-290 -/
def afterStopRace (ticks : List Tick) : StopPhase → Option StopPhase
  | .waiting t =>
    match (ticks[t]?).map Tick.phase with
    | some (.settled true) => some (.closing none)
    | some (.settled false) => some (.closing (some .tickFailed))
    | _ => none
  | _ => none

/-- The timeout of a stop fires first.
SOURCE: apps/worker/src/worker.js:277-290 -/
def afterStopTimeout : StopPhase → Option StopPhase
  | .waiting _ => some (.closing (some .timeout))
  | _ => none

/-- The store is closed, and the stop returns or throws its error.
SOURCE: apps/worker/src/worker.js:289-301 -/
def WorkerState.afterStopClosed (s : WorkerState) (i : Nat) : Option WorkerState :=
  match s.stops[i]? with
  | some (.closing error) => some { s with closed := true, stops := s.stops.set i (.stopped error) }
  | _ => none

/-- The worker `createWorker` returns, with its `concurrency`.
SOURCE: apps/worker/src/worker.js:119-309 -/
def worker (concurrency : Nat) : Machine WorkerState WorkerStep where
  step s
    | .tick => some s.tick
    | .firstHeartbeat t ok => s.onTick t (afterFirstHeartbeat ok)
    | .claim t jobs => s.onTick t (afterClaim concurrency jobs)
    | .handler t j ok => s.onTick t (afterHandler j ok)
    | .complete t j ok => s.onTick t (afterComplete j ok)
    | .fail t j dead => s.onTick t (afterFail j dead)
    | .promiseAll t => s.onTick t afterPromiseAll
    | .idleHeartbeat t ok => s.afterIdleHeartbeat t ok
    | .degradedHeartbeat t => s.afterDegradedHeartbeat t
    | .stop => some s.stop
    | .stopHeartbeat i => s.onStop i (afterStopHeartbeat s.activeTick)
    | .stopRace i => s.onStop i (afterStopRace s.ticks)
    | .stopTimeout i => s.onStop i afterStopTimeout
    | .stopClosed i => s.afterStopClosed i

/-- The handlers of a tick that are running. -/
def Tick.running (tick : Tick) : Nat := tick.jobs.count .handling

/-- The handlers of the worker that are running. -/
def WorkerState.inFlight (s : WorkerState) : Nat := (s.ticks.map Tick.running).sum

end Xygo.Model
