import Xygo.Model.Outbox

/-!
# Workers over the memory outbox

`processOutboxOnce` of `apps/api/src/reliability/outbox.js`, run by any number of workers
at once. A worker holds a copy of every job it claimed; its handler returns or throws, and
then it calls the store again with that copy in hand. Each call of the store is one step,
so that the calls of all workers interleave, and a worker that crashes drops its copies
without another call.
-/

set_option autoImplicit false

namespace Xygo.Model

open Xygo.Computation

/-- The options of `processOutboxOnce` a worker may choose for itself.
SOURCE: apps/api/src/reliability/outbox.js:641-651 -/
structure WorkerSettings where
  concurrency : Int := 1
  staleAfterMs : Int := 60000
  baseBackoffMs : Int := 1000
  maxBackoffMs : Int := 900000
  deriving DecidableEq, Repr

/-- Where a claimed job is in the body of `Promise.all`: its handler runs, or an error was
caught and `store.fail` is to be called.
SOURCE: apps/api/src/reliability/outbox.js:655-661 -/
inductive TaskPhase
  | handling
  | failing (error : JsError)

/-- A claimed job in the hands of a worker: the copy `store.claim` returned, and the `now`
of its `processOutboxOnce`.
SOURCE: apps/api/src/reliability/outbox.js:653-655 -/
structure Task where
  workerId : String
  now : Int
  settings : WorkerSettings
  job : OutboxJob
  phase : TaskPhase

/-- The options of the call of `store.fail`: an error that is not retryable makes the
attempts of the copy the maximum.
SOURCE: apps/api/src/reliability/outbox.js:661-669 -/
def Task.failOptions (maxAttempts : Nat) (task : Task) (error : JsError) : FailOptions where
  maxAttempts := if error.retryable = some false then task.job.attempts else maxAttempts
  baseBackoffMs := task.settings.baseBackoffMs
  maxBackoffMs := task.settings.maxBackoffMs

/-- The store all workers share, the jobs in their hands, and the calls made so far beside
their answers. -/
structure WorkersState where
  store : OutboxStore
  tasks : List Task
  calls : List (OutboxCall × Except JsError OutboxResult)

namespace WorkersState

/-- Nothing enqueued, no worker at work. -/
def initial : WorkersState := ⟨.empty, [], []⟩

/-- Call the store. -/
def perform (s : WorkersState) (c : OutboxCall) : Except JsError OutboxResult × WorkersState :=
  let answer := memoryOutbox.call c s.store
  (answer.1, { s with store := answer.2, calls := s.calls ++ [(c, answer.1)] })

end WorkersState

/-- A step of the producers, the operators or the workers. An index names a job in the
hands of a worker. -/
inductive WorkersStep
  | enqueue (event : OutboxEvent) (idempotencyKey : Option String) (now : Int)
  | replay (id : String) (tenantId : Option String) (reason : String) (now : Int)
  | processOnce (workerId : String) (now : Int) (settings : WorkerSettings)
  | handlerReturns (index : Nat)
  | handlerThrows (index : Nat) (error : JsError)
  | fail (index : Nat)
  | crash (index : Nat)

/-- The claim that starts a `processOutboxOnce`.
SOURCE: apps/api/src/reliability/outbox.js:653 -/
def claimTasks (s : WorkersState) (workerId : String) (now : Int) (settings : WorkerSettings) :
    WorkersState :=
  match s.perform (.claim workerId now settings.concurrency settings.staleAfterMs) with
  | (.ok (.jobs jobs), t) =>
    { t with tasks := t.tasks ++ jobs.map fun job => ⟨workerId, now, settings, job, .handling⟩ }
  | (_, t) => t

/-- A handler returned: the job is completed, and a throw of the store is caught like one
of the handler.
SOURCE: apps/api/src/reliability/outbox.js:656-660 -/
def completeTask (s : WorkersState) (index : Nat) (task : Task) : WorkersState :=
  match s.perform (.complete task.job.id task.workerId task.now) with
  | (.ok _, t) => { t with tasks := t.tasks.eraseIdx index }
  | (.error error, t) => { t with tasks := t.tasks.set index { task with phase := .failing error } }

/-- The call of `store.fail` on a caught error. The job leaves the worker's hands whether
the call returns or throws.
SOURCE: apps/api/src/reliability/outbox.js:660-673 -/
def failTask (maxAttempts : Nat) (s : WorkersState) (index : Nat) (task : Task)
    (error : JsError) : WorkersState :=
  let t := (s.perform (.fail task.job.id task.workerId error task.now
    (task.failOptions maxAttempts error))).2
  { t with tasks := t.tasks.eraseIdx index }

/-- Workers that share a memory store and one `maxAttempts`.
SOURCE: apps/api/src/reliability/outbox.js:641-676 -/
def workers (maxAttempts : Nat) : Machine WorkersState WorkersStep where
  step s
    | .enqueue event idempotencyKey now => some (s.perform (.enqueue event idempotencyKey now)).2
    | .replay id tenantId reason now => some (s.perform (.replay id tenantId reason now)).2
    | .processOnce workerId now settings => some (claimTasks s workerId now settings)
    | .handlerReturns index =>
      match s.tasks[index]? with
      | some task =>
        match task.phase with
        | .handling => some (completeTask s index task)
        | .failing _ => none
      | none => none
    | .handlerThrows index error =>
      match s.tasks[index]? with
      | some task =>
        match task.phase with
        | .handling =>
          some { s with tasks := s.tasks.set index { task with phase := .failing error } }
        | .failing _ => none
      | none => none
    | .fail index =>
      match s.tasks[index]? with
      | some task =>
        match task.phase with
        | .handling => none
        | .failing error => some (failTask maxAttempts s index task error)
      | none => none
    | .crash index =>
      if index < s.tasks.length then some { s with tasks := s.tasks.eraseIdx index } else none

end Xygo.Model
