import Xygo.Computation.Doubles
import Xygo.Model.Outbox
import Xygo.Model.RuntimeConfig

/-!
# The numbers a worker runs with

`workerRuntimeOptionsFromEnvironment` of `packages/production-config/src/index.js`, and the delay
`backoffMs` of the outbox stores in the arithmetic the engine does it in.
-/

set_option autoImplicit false

namespace Xygo.Model

open Xygo.Computation

/-- What `workerRuntimeOptionsFromEnvironment` returns.
SOURCE: packages/production-config/src/index.js:391-400 -/
structure WorkerRuntimeOptions where
  intervalMs : Nat
  maxAttempts : Nat
  baseBackoffMs : Nat
  maxBackoffMs : Nat
  concurrency : Nat
  staleAfterMs : Nat
  shutdownTimeoutMs : Nat
  maxDeadJobs : Nat
  deriving DecidableEq, Repr

/-- One number of the configuration. The text is a run of digits, so that a value above the
greatest safe integer is no safe integer after its rounding either.
SOURCE: packages/production-config/src/index.js:381-386 -/
def workerSetting (env : ProcessEnv) (name : String) (fallback minimum maximum : Nat) :
    Except JsError Nat :=
  let raw := (normalizedString (env name)).getD (toString fallback)
  let value := digitsValue raw
  if !isDigits raw || maxSafeInteger < value || value < minimum || maximum < value then
    .error (newError ("Worker configuration error: " ++ name ++ " must be an integer between " ++
      toString minimum ++ " and " ++ toString maximum ++ "."))
  else .ok value

/-- `workerRuntimeOptionsFromEnvironment`, over the entries of `WORKER_NUMERIC_LIMITS` in order.
SOURCE: packages/production-config/src/index.js:15-24, 368-401 -/
def workerRuntimeOptionsFromEnvironment (env : ProcessEnv) :
    Except JsError WorkerRuntimeOptions := do
  let intervalMs ← workerSetting env "XYGO_WORKER_INTERVAL_MS" 1000 100 60000
  let maxAttempts ← workerSetting env "XYGO_WORKER_MAX_ATTEMPTS" 5 1 20
  let baseBackoffMs ← workerSetting env "XYGO_WORKER_BASE_BACKOFF_MS" 1000 100 900000
  let maxBackoffMs ← workerSetting env "XYGO_WORKER_MAX_BACKOFF_MS" 900000 100 86400000
  let concurrency ← workerSetting env "XYGO_WORKER_CONCURRENCY" 4 1 64
  let staleAfterMs ← workerSetting env "XYGO_WORKER_STALE_AFTER_MS" 60000 1000 3600000
  let shutdownTimeoutMs ← workerSetting env "XYGO_WORKER_SHUTDOWN_TIMEOUT_MS" 30000 1000 120000
  let maxDeadJobs ← workerSetting env "XYGO_WORKER_MAX_DEAD_JOBS" 0 0 100000
  if maxBackoffMs < baseBackoffMs then
    throw (newError ("Worker configuration error: XYGO_WORKER_MAX_BACKOFF_MS must be greater " ++
      "than or equal to XYGO_WORKER_BASE_BACKOFF_MS."))
  return {
    intervalMs := intervalMs
    maxAttempts := maxAttempts
    baseBackoffMs := baseBackoffMs
    maxBackoffMs := maxBackoffMs
    concurrency := concurrency
    staleAfterMs := staleAfterMs
    shutdownTimeoutMs := shutdownTimeoutMs
    maxDeadJobs := maxDeadJobs }

/-- The options the worker fails a job with.
SOURCE: apps/worker/src/worker.js:139-148, 178-190 -/
def WorkerRuntimeOptions.failOptions (options : WorkerRuntimeOptions) : FailOptions where
  maxAttempts := options.maxAttempts
  baseBackoffMs := options.baseBackoffMs
  maxBackoffMs := options.maxBackoffMs

/-- `backoffMs` in double-precision numbers; `2 ** k` of a small natural `k` is the power.
SOURCE: apps/api/src/reliability/outbox.js:117-119 -/
def backoffNumber (attempts : Nat) (baseBackoffMs maxBackoffMs : Int) : Double :=
  Double.least (.finite maxBackoffMs)
    (Double.mul (.finite baseBackoffMs) (Double.twoPow (attempts - 1)))

/-- A number that is accepted lies between its bounds.
SOURCE: packages/production-config/src/index.js:383-385 -/
theorem workerSetting_bounds {env : ProcessEnv} {name : String} {fallback minimum maximum : Nat}
    {value : Nat} (h : workerSetting env name fallback minimum maximum = .ok value) :
    minimum ≤ value ∧ value ≤ maximum := by
  unfold workerSetting at h
  dsimp only at h
  split at h
  · cases h
  · rename_i haccepted
    simp only [Bool.or_eq_true, decide_eq_true_eq, not_or, not_lt] at haccepted
    obtain rfl := Except.ok.inj h
    exact ⟨haccepted.1.2, haccepted.2⟩

/-- An accepted configuration allows at most 20 attempts, and its delays are at most a day, the
base no longer than the greatest.
SOURCE: packages/production-config/src/index.js:16-19, 388-390 -/
theorem workerRuntimeOptions_bounds {env : ProcessEnv} {options : WorkerRuntimeOptions}
    (h : workerRuntimeOptionsFromEnvironment env = .ok options) :
    options.maxAttempts ≤ 20 ∧ options.baseBackoffMs ≤ 900000 ∧
      options.baseBackoffMs ≤ options.maxBackoffMs ∧ options.maxBackoffMs ≤ 86400000 := by
  unfold workerRuntimeOptionsFromEnvironment at h
  obtain ⟨_, -, h⟩ := bind_eq_ok.mp h
  obtain ⟨maxAttempts, hattempts, h⟩ := bind_eq_ok.mp h
  obtain ⟨baseBackoffMs, hbase, h⟩ := bind_eq_ok.mp h
  obtain ⟨maxBackoffMs, hmax, h⟩ := bind_eq_ok.mp h
  obtain ⟨_, -, h⟩ := bind_eq_ok.mp h
  obtain ⟨_, -, h⟩ := bind_eq_ok.mp h
  obtain ⟨_, -, h⟩ := bind_eq_ok.mp h
  obtain ⟨_, -, h⟩ := bind_eq_ok.mp h
  split at h
  · cases h
  · rename_i hle
    obtain rfl := Except.ok.inj h
    exact ⟨(workerSetting_bounds hattempts).2, (workerSetting_bounds hbase).2, not_lt.mp hle,
      (workerSetting_bounds hmax).2⟩

end Xygo.Model
