import Xygo.Computation.Effect
import Xygo.Computation.OrderedMap
import Xygo.Computation.Machine
import Xygo.Model.Input
import Xygo.Model.RuntimeConfig

/-!
# The sessions of the web server

The signed handles, the login transactions and the user sessions of
`apps/web/src/auth-session.js` over the memory store of `apps/web/src/session-store.js`.

A call reads the clock several times; its readings are named by the place that reads them. What
the token endpoint answers is given to the call that asks it. `SessionManager.object` is the
manager whose calls do not overlap, `SessionManager.machine` the one whose calls are interleaved
at their awaits.
-/

set_option autoImplicit false

namespace Xygo.Model

open Xygo.Computation

/-- A login that waits for its callback. -/
structure LoginTransaction where
  state : String
  nonce : String
  verifier : String
  returnTo : String
  idleExpiresAt : Int
  absoluteExpiresAt : Int

/-- A session of a user. A refresh token that is `null` is none; the token endpoint may give a
fraction of a second, so the expiry of the access token is a rational number of milliseconds. -/
structure UserSession where
  accessToken : String
  refreshToken : Json
  accessTokenExpiresAt : Rat
  createdAt : Int
  idleExpiresAt : Int
  absoluteExpiresAt : Int

/-- A record of the store; the source tells the two kinds apart by `kind`. -/
inductive SessionRecord
  | loginTransaction (transaction : LoginTransaction)
  | userSession (session : UserSession)

namespace SessionRecord

def idleExpiresAt : SessionRecord → Int
  | loginTransaction transaction => transaction.idleExpiresAt
  | userSession session => session.idleExpiresAt

def absoluteExpiresAt : SessionRecord → Int
  | loginTransaction transaction => transaction.absoluteExpiresAt
  | userSession session => session.absoluteExpiresAt

end SessionRecord

/-- The memory store, and how many texts were drawn at random so far. -/
structure WebState where
  rows : OrderedMap String SessionRecord := .empty
  draws : Nat := 0

/-- What a call reads of the clock: two readings for each record a sweep looks at, two for the
record it gets, and the current time. -/
structure Readings where
  sweep : String → Int × Int
  idle : Int
  absolute : Int
  current : Int

abbrev WebM (α : Type) : Type := Effect JsError WebState α

namespace SessionStore

/-- Whether a record is over at two readings of the clock.
SOURCE: apps/web/src/session-store.js:30, 40 -/
def isOver (record : SessionRecord) (idle absolute : Int) : Bool :=
  record.idleExpiresAt ≤ idle || record.absoluteExpiresAt ≤ absolute

/-- `set`
SOURCE: apps/web/src/session-store.js:27 -/
def set (id : String) (record : SessionRecord) : WebM Unit :=
  modify fun s => { s with rows := s.rows.set id record }

/-- `delete`
SOURCE: apps/web/src/session-store.js:36 -/
def delete (id : String) : WebM Unit := modify fun s => { s with rows := s.rows.erase id }

/-- `if (id) await store.delete(id)`
SOURCE: apps/web/src/auth-session.js:178 -/
def deleteFound : Option String → WebM Unit
  | none => pure ()
  | some id => delete id

/-- `get`: a record that is over is dropped.
SOURCE: apps/web/src/session-store.js:28-35 -/
def get (id : String) (clock : Readings) : WebM (Option SessionRecord) := do
  let s ← MonadState.get
  match s.rows.get id with
  | none => return none
  | some record =>
    if isOver record clock.idle clock.absolute then
      delete id
      return none
    else return some record

/-- `cleanup`
SOURCE: apps/web/src/session-store.js:37-46 -/
def cleanup (clock : Readings) : WebM Nat := do
  let s ← MonadState.get
  let stays := fun id record => !isOver record (clock.sweep id).1 (clock.sweep id).2
  let rows := s.rows.filter stays
  MonadState.set { s with rows := rows }
  return s.rows.entries.length - rows.entries.length

end SessionStore

/-- What `createWebAuthSessionManager` is configured with, and what it calls of `node:crypto`, of
`URL` and of `Number`: `sign` is the HMAC and `challenge` the digest, both in base64url;
`random n size` is the text of the `n`-th draw, of `size` bytes; `number` is `none` where
`Number` gives no finite number. -/
structure SessionManager where
  platform : Platform
  sign : String → String → String
  challenge : String → String
  random : Nat → Nat → String
  number : Option Json → Option Rat
  validUrl : String → Bool
  clientId : String
  redirectUri : String
  postLogoutRedirectUri : String
  authorizationEndpoint : String
  endSessionEndpoint : String
  audience : String
  scopes : List String
  secret : String
  cookieName : String
  idleTtlMs : Nat
  absoluteTtlMs : Nat
  transactionTtlMs : Nat
  tokenClockToleranceSec : Nat
  requireRefreshToken : Bool

/-- The parameters of a redirection to an endpoint. -/
structure Redirection where
  endpoint : String
  parameters : List (String × String)

/-- What a call answers; `cleanup` and `accessToken` answer no response. -/
inductive AuthAnswer
  | redirected (target : Redirection) (setCookie : String)
  | invalidCallback (setCookie : String)
  | signedIn (location : String) (setCookies : List String)
  | unauthenticated (code : Option String)
  | authenticated (accessToken : String) (expiresAt : Int)
  | token (accessToken : Option String)
  | cleaned (deleted : Nat)

/-- The HTTP status of a response. -/
def AuthAnswer.status : AuthAnswer → Option Nat
  | redirected _ _ | signedIn _ _ => some 302
  | invalidCallback _ => some 400
  | unauthenticated _ => some 401
  | authenticated _ _ => some 200
  | token _ | cleaned _ => none

/-- An answer that treats the caller as a signed-in user. -/
def AuthAnswer.isAuthenticated : AuthAnswer → Bool
  | authenticated _ _ => true
  | token accessToken => accessToken.isSome
  | _ => false

/-- The cookie of a login transaction. -/
def authCookie : String := "__Host-xygo-auth"

/-- `cookieValue`
SOURCE: apps/web/src/auth-session.js:13-20 -/
def cookieValue (cookies : Option String) (name : String) : Option String :=
  (splitText (· = ';') (cookies.getD "")).findSome? fun cookie =>
    match splitText (· = '=') (trim cookie) with
    | key :: parts => if key = name then some ("=".intercalate parts) else none
    | [] => none

/-- `cookie`
SOURCE: apps/web/src/auth-session.js:41-43 -/
def cookie (name value : String) (maxAge : Nat) : String :=
  name ++ "=" ++ value ++ "; Path=/; Max-Age=" ++ toString maxAge ++
    "; Secure; HttpOnly; SameSite=Lax"

/-- `clearCookie`
SOURCE: apps/web/src/auth-session.js:45-47 -/
def clearCookie (name : String) : String :=
  name ++ "=; Path=/; Max-Age=0; Secure; HttpOnly; SameSite=Lax"

/-- The parts of a text before and after its last dot.
SOURCE: apps/web/src/auth-session.js:32-35 -/
def splitAtLastDot (value : String) : Option (String × String) :=
  let reversed := value.toList.reverse
  match reversed.dropWhile (· ≠ '.') with
  | [] => none
  | _ :: id =>
    some (String.ofList id.reverse, String.ofList (reversed.takeWhile (· ≠ '.')).reverse)

/-- `required`
SOURCE: apps/web/src/auth-session.js:8-11 -/
def required (value : Option Json) (label : String) : Except JsError String :=
  match value with
  | some (.string text) =>
    if trim text = "" then .error (newError (label ++ " is required.")) else .ok (trim text)
  | _ => .error (newError (label ++ " is required."))

/-- `payload.key`: `null` has no members. -/
def payloadMember (payload : Json) (key : String) : Except JsError (Option Json) :=
  match payload with
  | .null => .error (newError ("Cannot read properties of null (reading " ++ key ++ ")"))
  | _ => .ok (payload.member? key)

/-- What the request to the token endpoint comes to: it fails or times out, or it is answered.
A body that is no JSON counts as an empty object. -/
inductive TokenResponse
  | failed (error : JsError)
  | answered (status : Nat) (payload : Json)

/-- `exchange`, given what the token endpoint answers.
SOURCE: apps/web/src/auth-session.js:76-86 -/
def exchange : TokenResponse → Except JsError Json
  | .failed error => .error error
  | .answered status payload =>
    if 200 ≤ status && status ≤ 299 then .ok payload
    else .error (newError ("OIDC token exchange failed with HTTP " ++ toString status ++ "."))

/-- `new Date(time).toISOString()`: a date holds the whole milliseconds, toward zero. -/
def isoOfTime (time : Rat) : Except JsError Int :=
  if -(maxTime : Rat) ≤ time ∧ time ≤ (maxTime : Rat) then .ok (time.num.tdiv time.den)
  else .error (newError "Invalid time value")

/-- The paths `beginLogin` returns to.
SOURCE: apps/web/src/auth-session.js:91 -/
def safeReturnTo (returnTo : String) : String :=
  let allowed := fun c : Char => c.isAlphanum || c = '/' || c = '_' || c = '-'
  if returnTo.startsWith "/" && (returnTo.toList.drop 1).all allowed && !returnTo.startsWith "//"
  then returnTo
  else "/control-room"

/-- What `completeCallback` reads of the query of its URL. -/
structure CallbackQuery where
  state : Option String
  code : Option String
  error : Option String

/-- A query that answers the transaction, with a code and no error.
SOURCE: apps/web/src/auth-session.js:119 -/
def CallbackQuery.answers (query : CallbackQuery) (transaction : LoginTransaction) : Bool :=
  query.state.any (· ≠ "") && query.state = some transaction.state && query.code.any (· ≠ "") &&
    !query.error.any (· ≠ "")

namespace SessionManager

variable (M : SessionManager)

/-- `signedValue`
SOURCE: apps/web/src/auth-session.js:22-28 -/
def signedValue (value : String) : String := value ++ "." ++ M.sign value M.secret

/-- `verifySigned`: `timingSafeEqual` throws on texts of different sizes in UTF-8.
SOURCE: apps/web/src/auth-session.js:30-39 -/
def verifySigned (value : Option String) : Except JsError (Option String) :=
  match splitAtLastDot (value.getD "") with
  | none => .ok none
  | some (id, signature) =>
    let expected := M.sign id M.secret
    if id = "" then .ok none
    else if utf16Length signature ≠ utf16Length expected then .ok none
    else if signature.utf8ByteSize ≠ expected.utf8ByteSize then
      .error (newError "Input buffers must have the same byte length")
    else if signature = expected then .ok (some id)
    else .ok none

/-- `base64url(randomBytes(size))` -/
def draw (size : Nat) : WebM String := do
  let s ← get
  set { s with draws := s.draws + 1 }
  return M.random s.draws size

/-- `tokenExpiry`
SOURCE: apps/web/src/auth-session.js:49-58 -/
def tokenExpiry (payload : Json) (now : Int) : Except JsError Rat :=
  match M.number (payload.member? "expires_in") with
  | some expiresIn => do
    if expiresIn < 60 ∨ 86400 < expiresIn then
      throw (newError "OIDC token response expires_in must be between 60 and 86400 seconds.")
    let tokenType ← (payload.orElse "token_type" (.string "")).toText
    if M.platform.toLowerCase tokenType ≠ "bearer" || !payload.hasTruthy "access_token" then
      throw (newError "OIDC token response must contain a Bearer access token.")
    return now + max 1 (expiresIn - M.tokenClockToleranceSec) * 1000
  | none =>
    .error (newError "OIDC token response expires_in must be between 60 and 86400 seconds.")

/-- The record a verified cookie names.
SOURCE: apps/web/src/auth-session.js:71-72, 115-116 -/
def lookup (cookies : Option String) (name : String) (clock : Readings) :
    WebM (Option (String × SessionRecord)) := do
  let id ← M.verifySigned (cookieValue cookies name)
  match id with
  | none => return none
  | some id =>
    let record ← SessionStore.get id clock
    return record.map fun record => (id, record)

/-- `readSession`
SOURCE: apps/web/src/auth-session.js:70-74 -/
def readSession (cookies : Option String) (clock : Readings) :
    WebM (Option (String × UserSession)) := do
  let found ← M.lookup cookies M.cookieName clock
  match found with
  | some (id, .userSession session) => return some (id, session)
  | _ => return none

/-- The transaction a callback reads.
SOURCE: apps/web/src/auth-session.js:115-117 -/
def readTransaction (cookies : Option String) (clock : Readings) :
    WebM (Option (String × LoginTransaction)) := do
  let found ← M.lookup cookies authCookie clock
  match found with
  | some (id, .loginTransaction transaction) => return some (id, transaction)
  | _ => return none

/-- `new URL(endpoint)` with its parameters. -/
def redirectTo (endpoint : String) (parameters : List (String × String)) :
    Except JsError Redirection :=
  if M.validUrl endpoint then .ok ⟨endpoint, parameters⟩ else .error (newError "Invalid URL")

/-- `beginLogin` after its sweep.
SOURCE: apps/web/src/auth-session.js:91-113 -/
def startTransaction (returnTo : String) (current : Int) : WebM AuthAnswer := do
  let id ← M.draw 24
  let state ← M.draw 32
  let nonce ← M.draw 32
  let verifier ← M.draw 48
  let expiresAt := current + M.transactionTtlMs
  SessionStore.set id (.loginTransaction
    { state := state
      nonce := nonce
      verifier := verifier
      returnTo := safeReturnTo returnTo
      idleExpiresAt := expiresAt
      absoluteExpiresAt := expiresAt })
  let target ← M.redirectTo M.authorizationEndpoint
    [("client_id", M.clientId), ("redirect_uri", M.redirectUri), ("response_type", "code"),
      ("scope", " ".intercalate M.scopes), ("audience", M.audience), ("state", state),
      ("nonce", nonce), ("code_challenge", M.challenge verifier),
      ("code_challenge_method", "S256")]
  return .redirected target (cookie authCookie (M.signedValue id) (M.transactionTtlMs / 1000))

/-- `beginLogin`
SOURCE: apps/web/src/auth-session.js:89-113 -/
def beginLogin (returnTo : String) (clock : Readings) : WebM AuthAnswer := do
  let _ ← SessionStore.cleanup clock
  M.startTransaction returnTo clock.current

/-- The answer to a callback that is not accepted. -/
def refusedCallback : AuthAnswer := .invalidCallback (clearCookie authCookie)

/-- The refresh token a configuration may require.
SOURCE: apps/web/src/auth-session.js:131 -/
def checkRefreshToken (payload : Json) : Except JsError Unit :=
  if M.requireRefreshToken then do
    let refreshToken ← payloadMember payload "refresh_token"
    if refreshToken.any Json.truthy then return ()
    else throw (newError "OIDC token response must contain a refresh token.")
  else return ()

/-- `completeCallback` after it dropped the transaction.
SOURCE: apps/web/src/auth-session.js:123-150 -/
def openSession (transaction : LoginTransaction) (response : TokenResponse) (current : Int) :
    WebM AuthAnswer := do
  let payload ← exchange response
  M.checkRefreshToken payload
  let id ← M.draw 32
  let given ← payloadMember payload "access_token"
  let accessToken ← required given "OIDC access token"
  let accessTokenExpiresAt ← M.tokenExpiry payload current
  SessionStore.set id (.userSession
    { accessToken := accessToken
      refreshToken := payload.orElse "refresh_token" .null
      accessTokenExpiresAt := accessTokenExpiresAt
      createdAt := current
      idleExpiresAt := current + M.idleTtlMs
      absoluteExpiresAt := current + M.absoluteTtlMs })
  return .signedIn transaction.returnTo
    [clearCookie authCookie, cookie M.cookieName (M.signedValue id) (M.absoluteTtlMs / 1000)]

/-- `completeCallback`
SOURCE: apps/web/src/auth-session.js:114-151 -/
def completeCallback (query : CallbackQuery) (cookies : Option String) (response : TokenResponse)
    (clock : Readings) : WebM AuthAnswer := do
  let found ← M.readTransaction cookies clock
  match found with
  | none => return refusedCallback
  | some (id, transaction) =>
    if query.answers transaction then
      SessionStore.delete id
      M.openSession transaction response clock.current
    else return refusedCallback

/-- `session` after it read its record.
SOURCE: apps/web/src/auth-session.js:155-158 -/
def touchSession (id : String) (session : UserSession) (current : Int) : WebM AuthAnswer := do
  SessionStore.set id (.userSession
    { session with idleExpiresAt := min (current + M.idleTtlMs) session.absoluteExpiresAt })
  let expiresAt ← isoOfTime session.accessTokenExpiresAt
  return .authenticated session.accessToken expiresAt

/-- `session`
SOURCE: apps/web/src/auth-session.js:152-159 -/
def session (cookies : Option String) (clock : Readings) : WebM AuthAnswer := do
  let found ← M.readSession cookies clock
  match found with
  | none => return .unauthenticated none
  | some (id, session) => M.touchSession id session clock.current

/-- `renew` after it read its record.
SOURCE: apps/web/src/auth-session.js:163-174 -/
def renewSession (id : String) (session : UserSession) (response : TokenResponse) (current : Int) :
    WebM AuthAnswer := do
  let payload ← exchange response
  let given ← payloadMember payload "access_token"
  let accessToken ← required given "OIDC access token"
  let accessTokenExpiresAt ← M.tokenExpiry payload current
  SessionStore.set id (.userSession
    { session with
      accessToken := accessToken
      refreshToken := payload.orElse "refresh_token" session.refreshToken
      accessTokenExpiresAt := accessTokenExpiresAt
      idleExpiresAt := min (current + M.idleTtlMs) session.absoluteExpiresAt })
  let expiresAt ← isoOfTime accessTokenExpiresAt
  return .authenticated accessToken expiresAt

/-- The answer of `renew` to a caller without a session that can be renewed. -/
def notRenewable : AuthAnswer := .unauthenticated (some "session_not_renewable")

/-- `renew`
SOURCE: apps/web/src/auth-session.js:160-175 -/
def renew (cookies : Option String) (response : TokenResponse) (clock : Readings) :
    WebM AuthAnswer := do
  let found ← M.readSession cookies clock
  match found with
  | none => return notRenewable
  | some (id, session) =>
    if session.refreshToken.truthy then M.renewSession id session response clock.current
    else return notRenewable

/-- `logout`
SOURCE: apps/web/src/auth-session.js:176-183 -/
def logout (cookies : Option String) : WebM AuthAnswer := do
  let id ← M.verifySigned (cookieValue cookies M.cookieName)
  SessionStore.deleteFound id
  let target ← M.redirectTo M.endSessionEndpoint
    [("client_id", M.clientId), ("post_logout_redirect_uri", M.postLogoutRedirectUri)]
  return .redirected target (clearCookie M.cookieName)

/-- `accessToken`
SOURCE: apps/web/src/auth-session.js:187-190 -/
def accessToken (cookies : Option String) (clock : Readings) : WebM AuthAnswer := do
  let found ← M.readSession cookies clock
  return .token (found.map fun found => found.2.accessToken)

end SessionManager

end Xygo.Model
