import Xygo.Computation.Faults
import Xygo.Model.EmailQueue
import Xygo.Model.Service

/-!
# One email delivery and the worker that sends it

`processOutboxOnce` with the email handler and the local sink, over the outbox, the repository
and the file of the sink, one await at a time. The call behind an await can fail before it has
an effect or after, its caller then catches the error; and the process can die between two
awaits, and nothing is caught. The runs of a worker follow one another: a job is claimed again
when the run before it has ended or died.
-/

set_option autoImplicit false

namespace Xygo.Model

open Xygo.Computation

/-- The local sink of a process: the list it keeps, and the file, if it has one.
SOURCE: packages/email-delivery/src/index.js:386-401 -/
structure Sink where
  memory : List SinkMessage := []
  file : Option (List SinkMessage) := none

/-- The sink of the next process: it reads the file.
SOURCE: packages/email-delivery/src/index.js:386-389, 401 -/
def Sink.reopened (sink : Sink) : Sink := { sink with memory := sink.file.getD [] }

/-- `send` with the file: a new message is pushed, and then the list is written, which can fail.
SOURCE: packages/email-delivery/src/index.js:391-421 -/
def Sink.send (P : Platform) (delivery : EmailDelivery) (idempotencyKey : String) (now : Int)
    (writeError : Option JsError) : Effect JsError Sink String := do
  let sink ← get
  let run := Effect.exec (sinkSend P delivery idempotencyKey now) sink.memory
  let id ← run.1
  if sink.memory.any fun item => item.idempotencyKey = idempotencyKey then return id
  set { sink with memory := run.2 }
  match sink.file, writeError with
  | some _, some error => throw error
  | some _, none =>
    set { memory := run.2, file := some run.2 : Sink }
    return id
  | none, _ => return id

/-- Where the worker is with its job: it has claimed it, read the delivery, read the suppression
list, saved the delivery as sending, has the provider's answer, is in the `catch` block of the
handler; the handler has returned, or thrown.
SOURCE: apps/worker/src/worker.js:35-117; apps/api/src/reliability/outbox.js:654-673 -/
inductive DeliveryPhase
  | idle
  | claimed (job : OutboxJob)
  | loaded (job : OutboxJob) (delivery : EmailDelivery)
  | checked (job : OutboxJob) (delivery : EmailDelivery) (suppression : Option EmailSuppression)
  | saved (job : OutboxJob) (sending : EmailDelivery)
  | sent (job : OutboxJob) (sending : EmailDelivery) (providerMessageId : String)
  | caught (job : OutboxJob) (sending : EmailDelivery) (error : JsError)
  | handled (job : OutboxJob)
  | threw (job : OutboxJob) (error : JsError)

/-- The stores, the keys the provider was called with, and the worker. -/
structure DeliveryState where
  outbox : OutboxStore
  repository : MemoryRepository
  sink : Sink := {}
  calls : List String := []
  workerId : String := ""
  phase : DeliveryPhase := .idle

/-- What happens next: the call the worker waits for ends, with a fault or without; the process
dies; an operator replays a dead job. -/
inductive DeliveryStep
  | claim (workerId : String) (now limit staleAfterMs : Int) (fault : Option (Fault JsError))
  | load (fault : Option (Fault JsError))
  | checkSuppression (fault : Option (Fault JsError))
  | store (now : Int) (fault : Option (Fault JsError))
  | send (now : Int) (writeError : Option JsError) (fault : Option (Fault JsError))
  | accept (now : Int) (fault : Option (Fault JsError))
  | recover (now : Int) (fault : Option (Fault JsError))
  | complete (now : Int) (fault : Option (Fault JsError))
  | fail (now : Int) (options : FailOptions) (fault : Option (Fault JsError))
  | crash
  | replay (id : String) (tenantId : Option String) (reason : String) (now : Int)

/-- The outcome of a call that may meet a fault, and the store it leaves. -/
def faulty {σ α : Type} (fault : Option (Fault JsError)) (op : Effect JsError σ α) (s : σ) :
    Except JsError α × σ :=
  (Faulty.seen fault (Effect.exec op s).1, Faulty.effected fault s (Effect.exec op s).2)

/-- What the handler gets.
SOURCE: apps/api/src/reliability/outbox.js:656 -/
def OutboxJob.handlerEvent (job : OutboxJob) : HandlerEvent where
  event := job.event
  attempt := job.attempts
  idempotencyKey := job.idempotencyKey

section

variable (E : Environment)

/-- `store.claim`, and the job it gives. An error ends the call of `processOutboxOnce`.
SOURCE: apps/api/src/reliability/outbox.js:652-655 -/
def claimStep (workerId : String) (now limit staleAfterMs : Int) (fault : Option (Fault JsError))
    (s : DeliveryState) : DeliveryState :=
  let result := faulty fault (claim workerId now limit staleAfterMs) s.outbox
  let phase : DeliveryPhase :=
    match result.1 with
    | .ok (job :: _) => .claimed job
    | _ => .idle
  { s with outbox := result.2, workerId := workerId, phase := phase }

/-- The start of the handler, and the delivery it reads.
SOURCE: apps/worker/src/worker.js:36-50 -/
def loadStep (job : OutboxJob) (fault : Option (Fault JsError)) (r : MemoryRepository) : DeliveryPhase :=
  if job.event.eventType ≠ "email.delivery.requested" then .handled job
  else
    match Faulty.seen fault (.ok (r.getEmailDeliveryById job.event.aggregateId)) with
    | .error error => .threw job error
    | .ok none => .threw job deliveryNotResolved
    | .ok (some delivery) =>
      if some delivery.tenantId ≠ job.event.tenantId then .threw job deliveryNotResolved
      else if delivery.status.isSettled then .handled job
      else .loaded job delivery

/-- The suppression list is read.
SOURCE: apps/worker/src/worker.js:52 -/
def checkStep (job : OutboxJob) (delivery : EmailDelivery) (fault : Option (Fault JsError))
    (r : MemoryRepository) : DeliveryPhase :=
  match Faulty.seen fault
      (getEmailSuppression E.platform r delivery.tenantId delivery.recipientEmail) with
  | .ok suppression => .checked job delivery suppression
  | .error error => .threw job error

/-- The delivery is finalized as suppressed, or saved as sending.
SOURCE: apps/worker/src/worker.js:53-76 -/
def storeStep (job : OutboxJob) (delivery : EmailDelivery) (suppression : Option EmailSuppression)
    (now : Int) (fault : Option (Fault JsError)) (r : MemoryRepository) :
    DeliveryPhase × MemoryRepository :=
  match suppression with
  | some suppression =>
    match markEmailDeliverySuppressed E.platform delivery suppression job.attempts now with
    | .error error => (.threw job error, r)
    | .ok suppressed =>
      let result := faulty fault (finalizeEmailDelivery suppressed (workerEvidence E suppressed
        "email.delivery.suppressed" ("suppression-" ++ suppression.id))) r
      match result.1 with
      | .ok _ => (.handled job, result.2)
      | .error error => (.threw job error, result.2)
  | none =>
    match markEmailDeliverySending E.platform delivery job.attempts now with
    | .error error => (.threw job error, r)
    | .ok sending =>
      let result := faulty fault (saveEmailDelivery sending) r
      match result.1 with
      | .ok _ => (.saved job sending, result.2)
      | .error error => (.threw job error, result.2)

/-- The provider is called.
SOURCE: apps/worker/src/worker.js:78 -/
def sendStep (job : OutboxJob) (sending : EmailDelivery) (now : Int) (writeError : Option JsError)
    (fault : Option (Fault JsError)) (sink : Sink) : DeliveryPhase × Sink :=
  let result := faulty fault
    (Sink.send E.platform sending job.idempotencyKey now writeError) sink
  match result.1 with
  | .ok id => (.sent job sending id, result.2)
  | .error error => (.caught job sending error, result.2)

/-- The delivery is finalized as accepted; an error is caught.
SOURCE: apps/worker/src/worker.js:79-101 -/
def acceptStep (job : OutboxJob) (sending : EmailDelivery) (providerMessageId : String) (now : Int)
    (fault : Option (Fault JsError)) (r : MemoryRepository) : DeliveryPhase × MemoryRepository :=
  match markEmailDeliveryAccepted E.platform sending E.provider providerMessageId now with
  | .error error => (.caught job sending error, r)
  | .ok accepted =>
    let result := faulty fault (finalizeEmailDelivery accepted
      (workerEvidence E accepted "email.delivery.accepted" "accepted")) r
    match result.1 with
    | .ok _ => (.handled job, result.2)
    | .error error => (.caught job sending error, result.2)

/-- The `catch` block: the delivery is finalized as failed, and the error thrown again.
SOURCE: apps/worker/src/worker.js:101-115 -/
def recoverStep (job : OutboxJob) (sending : EmailDelivery) (error : JsError) (now : Int)
    (fault : Option (Fault JsError)) (r : MemoryRepository) : DeliveryPhase × MemoryRepository :=
  match markEmailDeliveryFailed E.platform sending error job.attempts now with
  | .error markError => (.threw job markError, r)
  | .ok failed =>
    let result := faulty fault (finalizeEmailDelivery failed (workerEvidence E failed
      "email.delivery.failed" ("attempt-" ++ toString failed.attempts ++ "-failed"))) r
    match result.1 with
    | .ok _ => (.threw job error, result.2)
    | .error storeError => (.threw job storeError, result.2)

/-- `store.complete`; an error goes to `store.fail`.
SOURCE: apps/api/src/reliability/outbox.js:657-659 -/
def completeStep (job : OutboxJob) (now : Int) (fault : Option (Fault JsError))
    (s : DeliveryState) : DeliveryState :=
  let result := faulty fault (complete job.id s.workerId now) s.outbox
  match result.1 with
  | .ok _ => { s with outbox := result.2, phase := .idle }
  | .error error => { s with outbox := result.2, phase := .threw job error }

/-- `store.fail`; an error without a retry makes this attempt the last.
SOURCE: apps/api/src/reliability/outbox.js:660-671 -/
def failStep (job : OutboxJob) (error : JsError) (now : Int) (options : FailOptions)
    (fault : Option (Fault JsError)) (s : DeliveryState) : DeliveryState :=
  let maxAttempts : Int :=
    if error.retryable = some false then job.attempts else options.maxAttempts
  let result := faulty fault
    (fail job.id s.workerId error now { options with maxAttempts := maxAttempts }) s.outbox
  { s with outbox := result.2, phase := .idle }

/-- The worker, its process and its operator. -/
def deliveryWorker : Machine DeliveryState DeliveryStep where
  step s l :=
    match l, s.phase with
    | .claim workerId now limit staleAfterMs fault, .idle =>
      some (claimStep workerId now limit staleAfterMs fault s)
    | .load fault, .claimed job => some { s with phase := loadStep job fault s.repository }
    | .checkSuppression fault, .loaded job delivery =>
      some { s with phase := checkStep E job delivery fault s.repository }
    | .store now fault, .checked job delivery suppression =>
      let next := storeStep E job delivery suppression now fault s.repository
      some { s with phase := next.1, repository := next.2 }
    | .send now writeError fault, .saved job sending =>
      let next := sendStep E job sending now writeError fault s.sink
      some { s with
        phase := next.1
        sink := next.2
        calls := s.calls ++ [job.idempotencyKey] }
    | .accept now fault, .sent job sending id =>
      let next := acceptStep E job sending id now fault s.repository
      some { s with phase := next.1, repository := next.2 }
    | .recover now fault, .caught job sending error =>
      let next := recoverStep E job sending error now fault s.repository
      some { s with phase := next.1, repository := next.2 }
    | .complete now fault, .handled job => some (completeStep job now fault s)
    | .fail now options fault, .threw job error => some (failStep job error now options fault s)
    | .crash, _ => some { s with sink := s.sink.reopened, phase := .idle }
    | .replay id tenantId reason now, _ =>
      some { s with outbox := (Effect.exec (replay id tenantId reason now) s.outbox).2 }
    | _, _ => none

end

end Xygo.Model
