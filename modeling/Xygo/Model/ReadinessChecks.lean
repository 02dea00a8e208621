import Xygo.Computation.Grouped
import Xygo.Model.EmailDelivery
import Xygo.Model.Outbox
import Xygo.Model.Principals
import Xygo.Model.RuntimeConfig

/-!
# The checks of `/ready` on the outbox and the emails

`healthFromRecords` and the Postgres `checkReadiness` of `apps/api/src/reliability/outbox.js`, and
`summarizeEmailDeliveryHealth` of `packages/email-delivery/src/index.js` with the Postgres
`checkEmailDeliveryReadiness` of `apps/api/src/repositories/postgres.js`. The first of each pair
goes over the records one by one; the second asks the database for an aggregate of each status.

A time option that is left out is the reading of the clock, and a threshold that is left out its
default. The option `now` is given as its number of milliseconds, which is no number where it is
an invalid date. The times of the records are dates.
-/

set_option autoImplicit false

namespace Xygo.Model

open Xygo.Computation

/-! ### What the database makes of its parameters and results -/

/-- What a query fails with. -/
inductive QueryError
  | invalidTimestamp
  | timestampOutOfRange
  | integerOutOfRange
  deriving DecidableEq, Repr

/-- The integer part of a number. -/
def truncate (value : ℚ) : Int := if 0 ≤ value then ⌊value⌋ else ⌈value⌉

/-- `new Date(value).getTime()`: there is none for an invalid date. -/
def dateTime : Double → Option Int
  | .finite value => if |value| ≤ maxTime then some (truncate value) else none
  | _ => none

/-- The first moment a timestamp of Postgres can hold: 4714-11-24 BC. -/
def minTimestamp : Int := -210866803200000

/-- The parameter `new Date(value)` of a query, as a timestamp. -/
def timestampParameter (value : Double) : Except QueryError Int :=
  match dateTime value with
  | none => .error .invalidTimestamp
  | some time => if time < minTimestamp then .error .timestampOutOfRange else .ok time

/-- `count::int` -/
def toInteger (count : ℕ) : Except QueryError ℕ :=
  if count < 2 ^ 31 then .ok count else .error .integerOutOfRange

/-- What a readiness check rejects with: a failed query, a thrown error, or an error that carries
the health it is about. -/
inductive ReadinessFailure (Health : Type)
  | query (error : QueryError)
  | thrown (error : JsError)
  | unhealthy (error : JsError) (health : Health)

/-! ### The outbox -/

/-- The options of the check. -/
structure OutboxReadinessOptions where
  now : Option Double := none
  staleAfterMs : Option Double := none
  maxDeadJobs : Option Double := none
  maxBacklog : Option Double := none
  oldestPendingMs : Option Double := none
  requireHealthy : Bool := false

/-- The health of the outbox. -/
structure OutboxHealth where
  ready : Bool
  counts : JobStatus → ℕ
  stale : ℕ
  backlog : ℕ
  oldestPendingAgeMs : Double

/-- `healthError`
SOURCE: apps/api/src/reliability/outbox.js:156-161 -/
def healthError (health : OutboxHealth) : JsError :=
  { message := "Outbox is unhealthy: " ++ toString health.stale ++ " stale processing job(s), " ++
      toString (health.counts .dead) ++ " dead job(s)."
    code := some "outbox_unhealthy" }

/-- The statuses whose jobs are still to be done. -/
def isBacklogged (status : JobStatus) : Bool := status ∈ [.pending, .failed, .processing]

/-- `staleBefore`: the moment from which a claim is stale, as a number. -/
def OutboxReadinessOptions.staleBefore (options : OutboxReadinessOptions) (clock : Double) :
    Double :=
  (options.now.getD clock).sub (options.staleAfterMs.getD (.finite 60000))

/-- The health from what was gathered of the records: the two checks end with the same
expressions.
SOURCE: apps/api/src/reliability/outbox.js:145-153, 583-596 -/
def outboxHealth (options : OutboxReadinessOptions) (clock : Double) (counts : JobStatus → ℕ)
    (stale : ℕ) (oldestCreatedAt : Option Int) : OutboxHealth :=
  let backlog := counts .pending + counts .failed + counts .processing
  let oldestPendingAgeMs := match oldestCreatedAt with
    | none => .finite 0
    | some createdAt =>
      Double.greatest (.finite 0) ((options.now.getD clock).sub (.finite createdAt))
  { ready := stale = 0 &&
      Double.atMost (.finite (counts .dead)) (options.maxDeadJobs.getD (.finite 0)) &&
      Double.atMost (.finite backlog) (options.maxBacklog.getD (.finite maxSafeInteger)) &&
      Double.atMost oldestPendingAgeMs (options.oldestPendingMs.getD (.finite maxSafeInteger))
    counts := counts
    stale := stale
    backlog := backlog
    oldestPendingAgeMs := oldestPendingAgeMs }

/-- The variables of the loop over the records. -/
structure OutboxTally where
  counts : JobStatus → ℕ := fun _ => 0
  stale : ℕ := 0
  oldestCreatedAt : Option Int := none

/-- Whether the claim on a job is stale. -/
def isStaleClaim (staleBefore : Double) (record : OutboxJob) : Bool :=
  record.status = .processing &&
    record.lockedAt.any fun (lockedAt : Int) => Double.atMost (.finite lockedAt) staleBefore

/-- One round of the loop.
SOURCE: apps/api/src/reliability/outbox.js:136-144 -/
def OutboxTally.add (staleBefore : Double) (tally : OutboxTally) (record : OutboxJob) :
    OutboxTally :=
  { counts := Function.update tally.counts record.status (tally.counts record.status + 1)
    stale := if isStaleClaim staleBefore record then tally.stale + 1 else tally.stale
    oldestCreatedAt :=
      if isBacklogged record.status then
        match tally.oldestCreatedAt with
        | none => some record.createdAt
        | some oldest => some (min oldest record.createdAt)
      else tally.oldestCreatedAt }

/-- `healthFromRecords`
SOURCE: apps/api/src/reliability/outbox.js:125-154 -/
def healthFromRecords (records : List OutboxJob) (options : OutboxReadinessOptions)
    (clock : Double) : OutboxHealth :=
  let tally := records.foldl (OutboxTally.add (options.staleBefore clock)) {}
  outboxHealth options clock tally.counts tally.stale tally.oldestCreatedAt

/-- The answer of a check: an unhealthy outbox is an error where health is required. -/
def requireOutboxHealth (options : OutboxReadinessOptions) (health : OutboxHealth) :
    Except (ReadinessFailure OutboxHealth) OutboxHealth :=
  if options.requireHealthy && !health.ready then .error (.unhealthy (healthError health) health)
  else .ok health

/-- `checkReadiness` of the memory and the SQLite store.
SOURCE: apps/api/src/reliability/outbox.js:274-278, 401-411 -/
def checkReadiness (records : List OutboxJob) (options : OutboxReadinessOptions) (clock : Double) :
    Except (ReadinessFailure OutboxHealth) OutboxHealth :=
  requireOutboxHealth options (healthFromRecords records options clock)

/-- A row of the result: a status, with the aggregates of its jobs. -/
structure OutboxGroup where
  status : JobStatus
  count : ℕ
  stale : ℕ
  oldestCreatedAt : Option Int

/-- Whether a row counts as stale in the query. -/
def isLockedBefore (staleBefore : Int) (row : OutboxJob) : Bool :=
  row.status = .processing && row.lockedAt.any fun lockedAt => lockedAt ≤ staleBefore

/-- The row of the result for the jobs of a status.
SOURCE: apps/api/src/reliability/outbox.js:564-567 -/
def outboxGroup (staleBefore : Int) (rows : List OutboxJob) (status : JobStatus) :
    Except QueryError OutboxGroup := do
  let members := group OutboxJob.status rows status
  let count ← toInteger members.length
  let stale ← toInteger (countFiltered (isLockedBefore staleBefore) members)
  return {
    status := status
    count := count
    stale := stale
    oldestCreatedAt :=
      minFiltered (fun row => isBacklogged row.status) OutboxJob.createdAt members }

/-- The query of the check, with its groups in the order the database answers in. -/
def queryOutboxHealth (staleBefore : Double) (rows : List OutboxJob)
    (groups : Grouping OutboxJob.status rows) : Except QueryError (List OutboxGroup) := do
  let staleBefore ← timestampParameter staleBefore
  groups.keys.mapM (outboxGroup staleBefore rows)

/-- One round of the loop over the result.
SOURCE: apps/api/src/reliability/outbox.js:574-582 -/
def OutboxTally.addGroup (tally : OutboxTally) (row : OutboxGroup) : OutboxTally :=
  { counts := Function.update tally.counts row.status row.count
    stale := tally.stale + row.stale
    oldestCreatedAt :=
      match row.oldestCreatedAt with
      | none => tally.oldestCreatedAt
      | some createdAt =>
        match tally.oldestCreatedAt with
        | none => some createdAt
        | some oldest => some (min oldest createdAt) }

/-- `checkReadiness` of the Postgres store. The clock is read before the query and after it.
SOURCE: apps/api/src/reliability/outbox.js:561-599 -/
def postgresCheckReadiness (rows : List OutboxJob) (groups : Grouping OutboxJob.status rows)
    (options : OutboxReadinessOptions) (clock clockAfter : Double) :
    Except (ReadinessFailure OutboxHealth) OutboxHealth := do
  let result ←
    (queryOutboxHealth (options.staleBefore clock) rows groups).mapError ReadinessFailure.query
  let tally := result.foldl OutboxTally.addGroup {}
  requireOutboxHealth options
    (outboxHealth options clockAfter tally.counts tally.stale tally.oldestCreatedAt)

/-! ### The emails -/

/-- The options of the check. -/
structure EmailReadinessOptions where
  now : Option Double := none
  staleAfterMs : Option Double := none
  maxFailed : Option Double := none
  requireHealthy : Bool := false

/-- The health of the emails. -/
structure EmailHealth where
  ready : Bool
  counts : EmailDeliveryStatus → ℕ
  failures : ℕ
  stale : ℕ
  backlog : ℕ

/-- `now - staleAfterMs` -/
def EmailReadinessOptions.staleBefore (options : EmailReadinessOptions) (clock : Double) :
    Double :=
  (options.now.getD clock).sub (options.staleAfterMs.getD (.finite 900000))

/-- The statuses whose emails are still on their way. -/
def isUndelivered (status : EmailDeliveryStatus) : Bool :=
  status ∈ [.queued, .sending, .delayed, .failed]

/-- The error of emails whose health is required. -/
def emailUnhealthy : JsError :=
  { message := "Email delivery health exceeded configured thresholds."
    code := some "email_delivery_unhealthy" }

/-- The answer of a check from what was gathered of the deliveries: the two checks end with the
same statements.
SOURCE: packages/email-delivery/src/index.js:561-576
SOURCE: apps/api/src/repositories/postgres.js:909-923 -/
def emailAnswer (options : EmailReadinessOptions) (counts : EmailDeliveryStatus → ℕ)
    (stale : ℕ) : Except (ReadinessFailure EmailHealth) EmailHealth :=
  let failures := counts .failed + counts .bounced + counts .complained
  let health : EmailHealth :=
    { ready := stale = 0 && Double.atMost (.finite failures) (options.maxFailed.getD (.finite 0))
      counts := counts
      failures := failures
      stale := stale
      backlog := counts .queued + counts .sending + counts .delayed + counts .failed }
  if options.requireHealthy && !health.ready then .error (.unhealthy emailUnhealthy health)
  else .ok health

/-- The variables of the loop over the deliveries. -/
structure EmailTally where
  counts : EmailDeliveryStatus → ℕ := fun _ => 0
  stale : ℕ := 0

/-- Whether an email has been on its way for too long. -/
def isStaleDelivery (staleBefore : Double) (delivery : EmailDelivery) : Bool :=
  isUndelivered delivery.status && Double.atMost (.finite delivery.updatedAt) staleBefore

section

variable (P : Platform)

/-- One round of the loop.
SOURCE: packages/email-delivery/src/index.js:553-560 -/
def EmailTally.add (staleBefore : Double) (tally : EmailTally) (delivery : EmailDelivery) :
    Except JsError EmailTally := do
  let _ ← assertEmailDelivery P delivery
  return {
    counts := Function.update tally.counts delivery.status (tally.counts delivery.status + 1)
    stale := if isStaleDelivery staleBefore delivery then tally.stale + 1 else tally.stale }

/-- `summarizeEmailDeliveryHealth`
SOURCE: packages/email-delivery/src/index.js:545-577 -/
def summarizeEmailDeliveryHealth (deliveries : List EmailDelivery)
    (options : EmailReadinessOptions) (clock : Double) :
    Except (ReadinessFailure EmailHealth) EmailHealth := do
  let tally ← (deliveries.foldlM (EmailTally.add P (options.staleBefore clock)) {}).mapError
    ReadinessFailure.thrown
  emailAnswer options tally.counts tally.stale

end

/-- A row of the result: a status, with the aggregates of its deliveries. -/
structure EmailGroup where
  status : EmailDeliveryStatus
  count : ℕ
  stale : ℕ

/-- Whether a row counts as stale in the query. -/
def isUpdatedBefore (staleBefore : Int) (row : EmailDelivery) : Bool :=
  isUndelivered row.status && row.updatedAt ≤ staleBefore

/-- The row of the result for the deliveries of a status.
SOURCE: apps/api/src/repositories/postgres.js:895-897 -/
def emailGroup (staleBefore : Int) (rows : List EmailDelivery) (status : EmailDeliveryStatus) :
    Except QueryError EmailGroup := do
  let members := group EmailDelivery.status rows status
  let count ← toInteger members.length
  let stale ← toInteger (countFiltered (isUpdatedBefore staleBefore) members)
  return { status := status, count := count, stale := stale }

/-- The query of the check, with its groups in the order the database answers in. -/
def queryEmailHealth (staleBefore : Double) (rows : List EmailDelivery)
    (groups : Grouping EmailDelivery.status rows) : Except QueryError (List EmailGroup) := do
  let staleBefore ← timestampParameter staleBefore
  groups.keys.mapM (emailGroup staleBefore rows)

/-- One round of the loop over the result.
SOURCE: apps/api/src/repositories/postgres.js:904-908 -/
def EmailTally.addGroup (tally : EmailTally) (row : EmailGroup) : EmailTally :=
  { counts := Function.update tally.counts row.status row.count
    stale := tally.stale + row.stale }

/-- `checkEmailDeliveryReadiness` of the Postgres repository.
SOURCE: apps/api/src/repositories/postgres.js:890-924 -/
def postgresCheckEmailDeliveryReadiness (rows : List EmailDelivery)
    (groups : Grouping EmailDelivery.status rows) (options : EmailReadinessOptions)
    (clock : Double) : Except (ReadinessFailure EmailHealth) EmailHealth := do
  let result ←
    (queryEmailHealth (options.staleBefore clock) rows groups).mapError ReadinessFailure.query
  let tally := result.foldl EmailTally.addGroup {}
  emailAnswer options tally.counts tally.stale

end Xygo.Model
