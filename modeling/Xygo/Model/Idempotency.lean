import Xygo.Computation.Machine
import Xygo.Model.FieldReportRoutes
import Xygo.Model.RequestListener

/-!
# Responses kept for idempotency keys

A POST on a collection of a tenant that carries an idempotency key looks its response up first, and
keeps what it computed where that succeeded (`withIdempotency`). The two calls of the store come at
different times, and those of other requests may come between.
-/

set_option autoImplicit false

namespace Xygo.Model

open Xygo.Computation

/-- The segments of `collectionResources`.
SOURCE: apps/api/src/handlers.js:309-584 -/
def collectionSegments : List String :=
  ["projects", "issues", "rfis", "permits", "review-sessions", "ai-review-runs", "ai-findings",
    "platform-blueprints", "field-reports"]

/-- The tenant in whose collection a POST creates, by its pathname.
SOURCE: apps/api/src/handlers.js:701-707, 976-997 -/
def createTenantOf (pathname : String) : Option String :=
  match splitPath pathname with
  | ["v1", "tenants", tenantId, segment] =>
    if segment ∈ collectionSegments then some tenantId else none
  | _ => none

/-- A POST that reaches `withIdempotency` with a key. -/
structure CreateRequest where
  tenantId : String
  pathname : String
  routed : createTenantOf pathname = some tenantId
  clientKey : String
  usable : clientKey ≠ ""

/-- The storage key of a request.
SOURCE: apps/api/src/handlers.js:36 -/
def CreateRequest.storageKey (request : CreateRequest) : String :=
  FieldReports.idempotencyKeyFor request.tenantId request.pathname request.clientKey

/-- An entry of the store, for responses of any kind.
SOURCE: apps/api/src/reliability/idempotency.js:6 -/
structure KeptResponse (α : Type) where
  response : α
  expiresAt : Int

/-- The entries of `createIdempotencyStore`. -/
abbrev ResponseStore (α : Type) : Type := OrderedMap String (KeptResponse α)

namespace ResponseStore

variable {α : Type}

/-- `get`
SOURCE: apps/api/src/reliability/idempotency.js:8-18 -/
def lookup (store : ResponseStore α) (key : String) (now : Int) : Option α × ResponseStore α :=
  match store.get key with
  | none => (none, store)
  | some entry =>
    if now ≥ entry.expiresAt then (none, store.erase key) else (some entry.response, store)

/-- `set`
SOURCE: apps/api/src/reliability/idempotency.js:20-22 -/
def keep (store : ResponseStore α) (key : String) (response : α) (now : Int) : ResponseStore α :=
  store.set key ⟨response, now + FieldReports.ttlMs⟩

end ResponseStore

/-- What requests do at the store: they look a response up, and they finish with the one they
computed. -/
inductive CreateCall (α : Type)
  | lookup (request : CreateRequest) (now : Int)
  | finish (request : CreateRequest) (response : α) (now : Int)

/-- The store under its requests; a lookup answers the response that is replayed.
SOURCE: apps/api/src/handlers.js:32-46 -/
def replayStore {α : Type} (succeeded : α → Bool) :
    Object (ResponseStore α) (CreateCall α) (Option α) where
  call
    | .lookup request now, store => store.lookup request.storageKey now
    | .finish request response now, store =>
      (none, if succeeded response then store.keep request.storageKey response now else store)

end Xygo.Model
