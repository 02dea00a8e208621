import Xygo.Model.RequestListener

/-!
# The requests in flight

The counter of `createServer` over all requests of a server: the listener raises it for every
request, and the `finish` event of a response lowers it. That event comes when a response that was
ended has been handed over; what else can happen to a connection, that its client goes away, that an
event stream is closed or that the server destroys it, only closes it.
-/

set_option autoImplicit false

namespace Xygo.Model

open Xygo.Computation

/-- A request the listener was called with, what has become of it, whether its response has finished
and whether its connection is closed. -/
structure ServedRequest where
  request : DeliveredRequest
  exchange : Exchange
  finished : Bool
  closed : Bool

/-- The counter and the requests, in the order they came. -/
structure ServerLoad where
  inFlight : Int := 0
  requests : List ServedRequest := []

/-- Whether a listener threw, which ends the process. -/
def ServerLoad.crashed (s : ServerLoad) : Bool :=
  s.requests.any fun r =>
    match r.exchange.phase with
    | .threw _ => true
    | _ => false

/-- What happens to a server and its connections. -/
inductive LoadEvent
  | started (moment : ServerMoment) (request : DeliveredRequest)
  | stepped (index : Nat) (event : ExchangeEvent)
  | finished (index : Nat)
  | closed (index : Nat)

/-- What an event does while the process runs.
SOURCE: apps/api/src/server.js:166-184 -/
def serverLoadStep (S : ApiServer) (s : ServerLoad) : LoadEvent → Option ServerLoad
  | .started moment request =>
    some {
      inFlight := s.inFlight + 1
      requests := s.requests ++ [⟨request, listened S moment request, false, false⟩] }
  | .stepped index event => do
    let r ← s.requests[index]?
    let exchange ← (requestExchange S r.request).step r.exchange event
    some { s with requests := s.requests.set index { r with exchange := exchange } }
  | .finished index => do
    let r ← s.requests[index]?
    if r.exchange.response.ended && !r.finished then
      some {
        inFlight := s.inFlight - 1
        requests := s.requests.set index { r with finished := true } }
    else none
  | .closed index => do
    let r ← s.requests[index]?
    if r.closed then none
    else some { s with requests := s.requests.set index { r with closed := true } }

/-- The server under the events of its connections. -/
def serverLoad (S : ApiServer) : Machine ServerLoad LoadEvent where
  step s event := if s.crashed then none else serverLoadStep S s event

end Xygo.Model
