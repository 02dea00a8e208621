import Xygo.Model.EmailQueue
import Xygo.Model.Service

/-!
# Queueing beside the workers and the webhooks

The service of one repository, with the runs of `queueEmailDelivery`: each makes a delivery by
`createEmailDelivery` of the package, stores it, and appends its audit event. The job that asks
a worker to send the delivery is delivered by a step of the worker.
-/

set_option autoImplicit false

namespace Xygo.Model

open Xygo.Computation

/-- A step of the service, or one of `queueEmailDelivery`: the storing of a delivery, or that of
its audit event. -/
inductive MailStep
  | enqueue (input : EmailDeliveryInput) (id : String) (now : Int)
  | append (event : AuditEvent)
  | service (step : ServiceStep)

section

variable (E : Environment) (parseUrl : String → Option ParsedUrl)

/-- A delivery is made, checked and stored.
SOURCE: packages/email-delivery/src/index.js:167-204, 251-254 -/
def enqueueDelivery (input : EmailDeliveryInput) (id : String) (now : Int) :
    RepositoryM CreatedDelivery := do
  let delivery ← Email.createEmailDelivery parseUrl E.platform input id now
  let _ ← assertEmailDelivery E.platform delivery
  createEmailDelivery delivery

/-- The service with its queue. -/
def mailService : Machine Service MailStep where
  step s
    | .enqueue input id now => some { s with
        repository := (Effect.exec (enqueueDelivery E parseUrl input id now) s.repository).2 }
    | .append event =>
      some { s with repository := (Effect.exec (appendAuditEvent event) s.repository).2 }
    | .service step => (service E).step s step

end

end Xygo.Model
