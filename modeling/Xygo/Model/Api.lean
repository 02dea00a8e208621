import Xygo.Model.Authorization
import Xygo.Model.Input

/-!
# Requests and answers of the API

What the routes of `apps/api/src/handlers.js` share: the principal of a request, the parsed body,
the gate of `authorize`, and the answers.
-/

set_option autoImplicit false

namespace Xygo.Model

/-- The identity a request is made under.
SOURCE: apps/api/src/auth/principal.js:5-7 -/
structure Principal where
  userId : Option String := none
  tenantId : Option String
  organizationRole : Option String := none
  projectRole : Option String := none
  deriving DecidableEq, Repr

/-- The answer of a route that does not give what was asked for.
SOURCE: apps/api/src/handlers.js:68-98 -/
structure Refusal where
  status : Nat
  error : String
  message : String
  deriving DecidableEq, Repr

/-- What a route answers: a body under a status, or why not. -/
inductive Response (β : Type)
  | answered (status : Nat) (body : β)
  | refused (refusal : Refusal)

/-- The status of an answer. -/
def Response.status {β : Type} : Response β → Nat
  | answered status _ => status
  | refused refusal => refusal.status

/-- Whether a status is one of success.
SOURCE: apps/api/src/handlers.js:43 -/
def Response.succeeded {β : Type} (response : Response β) : Bool :=
  200 ≤ response.status && response.status < 300

/-- `badRequest`
SOURCE: apps/api/src/handlers.js:68-74 -/
def badRequest {β : Type} (message : String) : Response β :=
  .refused ⟨400, "bad_request", message⟩

/-- `notFound`
SOURCE: apps/api/src/handlers.js:76-82 -/
def notFound {β : Type} (message : String) : Response β := .refused ⟨404, "not_found", message⟩

/-- `forbidden`
SOURCE: apps/api/src/handlers.js:84-90 -/
def forbidden {β : Type} (message : String) : Response β := .refused ⟨403, "forbidden", message⟩

/-- The answer to an error no route has caught.
SOURCE: apps/api/src/handlers.js:657-661 -/
def internalError {β : Type} : Response β :=
  .refused ⟨500, "internal_error", "Staged runtime failed to process the request."⟩

/-- The answer to a body that is no JSON.
SOURCE: apps/api/src/handlers.js:653-655 -/
def malformedBody {β : Type} : Response β := badRequest "Malformed JSON request body."

/-- `authorize`: the refusal, unless the principal may act.
SOURCE: apps/api/src/handlers.js:231-250 -/
def authorize (principal : Principal) (tenantId resource action : String) : Option Refusal :=
  let denied := fun message => some (⟨403, "forbidden", message⟩ : Refusal)
  match principal.tenantId with
  | none => denied "Tenant access denied."
  | some own =>
    if own = "" || own ≠ tenantId then denied "Tenant access denied."
    else
      let decision := canPerform
        { resource := resource
          action := action
          tenantId := own
          resourceTenantId := tenantId
          organizationRole := principal.organizationRole
          projectRole := principal.projectRole }
      if decision ≠ .allowed then denied ("Authorization denied: " ++ decision.text ++ ".")
      else none

/-- `ensureObjectBody`
SOURCE: apps/api/src/handlers.js:586-591 -/
def ensureObjectBody : Json → Option String
  | .null | .object _ => none
  | _ => some "Request body must be a JSON object."

end Xygo.Model
