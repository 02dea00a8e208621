import Mathlib.Logic.Function.Basic
import Xygo.Model.WebSession

/-!
# Runs of the session manager

A sequential run makes one call after the other. In an interleaved run a call is at one of its
awaits, and any call may go on: what stands between two awaits runs as one step, since the
memory store does its work before its promise is awaited.
-/

set_option autoImplicit false

namespace Xygo.Model

open Xygo.Computation

/-- A call of the manager; `cookies` is the cookie header. -/
inductive AuthCall
  | login (returnTo : String)
  | callback (query : CallbackQuery) (cookies : Option String)
  | session (cookies : Option String)
  | renew (cookies : Option String)
  | accessToken (cookies : Option String)
  | logout (cookies : Option String)
  | cleanup

/-- Where a call in flight is: what it knows, and so what it does next. -/
inductive Flight
  | login (returnTo : String)
  | callback (id : String) (transaction : LoginTransaction) (query : CallbackQuery)
  | exchanging (id : String) (transaction : LoginTransaction)
  | session (id : String) (session : UserSession)
  | renew (id : String) (session : UserSession)

/-- A call of a sequential run: when it starts and finishes, what it reads of the clock between,
and what the token endpoint answers it. -/
structure TimedCall where
  call : AuthCall
  start : Int
  finish : Int
  clock : Readings
  response : TokenResponse

/-- A step of an interleaved run: a call begins, under a number, or goes on. -/
inductive FlightStep
  | begin (n : Nat) (call : AuthCall) (clock : Readings)
  | resume (n : Nat) (response : TokenResponse) (current : Int)

/-- The manager with its calls in flight; `loggedOut` lists the sessions that were logged out. -/
structure WebFlights where
  web : WebState
  flights : Nat → Option Flight := fun _ => none
  loggedOut : List String := []

namespace SessionManager

variable (M : SessionManager)

/-- A call that is not interleaved with others. -/
def call (c : AuthCall) (response : TokenResponse) (clock : Readings) : WebM AuthAnswer :=
  match c with
  | .login returnTo => M.beginLogin returnTo clock
  | .callback query cookies => M.completeCallback query cookies response clock
  | .session cookies => M.session cookies clock
  | .renew cookies => M.renew cookies response clock
  | .accessToken cookies => M.accessToken cookies clock
  | .logout cookies => M.logout cookies
  | .cleanup => .cleaned <$> SessionStore.cleanup clock

/-- The manager whose calls do not overlap. -/
def object : Object WebState TimedCall (Except JsError AuthAnswer) where
  call c s := Effect.exec (M.call c.call c.response c.clock) s

/-- A call up to its first await that another call can use: it answers, or it is in flight.
SOURCE: apps/web/src/auth-session.js:89-190 -/
def begin (c : AuthCall) (clock : Readings) : WebM (AuthAnswer ⊕ Flight) :=
  match c with
  | .login returnTo => do
    let _ ← SessionStore.cleanup clock
    return .inr (.login returnTo)
  | .callback query cookies => do
    let found ← M.readTransaction cookies clock
    match found with
    | none => return .inl refusedCallback
    | some (id, transaction) => return .inr (.callback id transaction query)
  | .session cookies => do
    let found ← M.readSession cookies clock
    match found with
    | none => return .inl (.unauthenticated none)
    | some (id, session) => return .inr (.session id session)
  | .renew cookies => do
    let found ← M.readSession cookies clock
    match found with
    | none => return .inl notRenewable
    | some (id, session) =>
      if session.refreshToken.truthy then return .inr (.renew id session)
      else return .inl notRenewable
  | .accessToken cookies => .inl <$> M.accessToken cookies clock
  | .logout cookies => .inl <$> M.logout cookies
  | .cleanup => (fun deleted => .inl (.cleaned deleted)) <$> SessionStore.cleanup clock

/-- What a call in flight does next.
SOURCE: apps/web/src/auth-session.js:91-174 -/
def resume (flight : Flight) (response : TokenResponse) (current : Int) :
    WebM (AuthAnswer ⊕ Flight) :=
  match flight with
  | .login returnTo => .inl <$> M.startTransaction returnTo current
  | .callback id transaction query =>
    if query.answers transaction then do
      SessionStore.delete id
      return .inr (.exchanging id transaction)
    else return .inl refusedCallback
  | .exchanging _ transaction => .inl <$> M.openSession transaction response current
  | .session id session => .inl <$> M.touchSession id session current
  | .renew id session => .inl <$> M.renewSession id session response current

/-- A call from where it is to its answer, with no step of another call between; no call has more
than two parts after its first. -/
def follow (response : TokenResponse) (current : Int) :
    Nat → AuthAnswer ⊕ Flight → WebM (AuthAnswer ⊕ Flight)
  | n + 1, .inr flight => do
    let next ← M.resume flight response current
    follow response current n next
  | _, reached => pure reached

/-- The session a call logs out. -/
def logsOut (c : AuthCall) : List String :=
  match c with
  | .logout cookies =>
    match M.verifySigned (cookieValue cookies M.cookieName) with
    | .ok (some id) => [id]
    | _ => []
  | _ => []

/-- The state after a part of the call `n`: its answer ends the call. -/
def landed (s : WebFlights) (n : Nat) (ended : List String)
    (outcome : Except JsError (AuthAnswer ⊕ Flight) × WebState) :
    WebFlights × Option (Except JsError AuthAnswer) :=
  match outcome with
  | (.ok (.inr flight), web) =>
    ({ s with web := web, flights := Function.update s.flights n (some flight) }, none)
  | (.ok (.inl answer), web) =>
    ({ web := web
       flights := Function.update s.flights n none
       loggedOut := s.loggedOut ++ ended }, some (.ok answer))
  | (.error error, web) =>
    ({ web := web
       flights := Function.update s.flights n none
       loggedOut := s.loggedOut ++ ended }, some (.error error))

/-- A step, and the answer it gives if it ends its call. -/
def advance (s : WebFlights) :
    FlightStep → Option (WebFlights × Option (Except JsError AuthAnswer))
  | .begin n c clock =>
    match s.flights n with
    | none => some (landed s n (M.logsOut c) (Effect.exec (M.begin c clock) s.web))
    | some _ => none
  | .resume n response current =>
    match s.flights n with
    | none => none
    | some flight => some (landed s n [] (Effect.exec (M.resume flight response current) s.web))

/-- The manager whose calls are interleaved at their awaits. -/
def machine : Machine WebFlights FlightStep where
  step s l := (M.advance s l).map Prod.fst

end SessionManager

end Xygo.Model
