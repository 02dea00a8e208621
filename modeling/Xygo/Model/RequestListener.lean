import Xygo.Model.Principals
import Xygo.Model.Realtime

/-!
# The request listener of the API server

`createServer` of `apps/api/src/server.js` and the entry of `apps/api/src/handlers.js`. The
listener runs once for a request: it answers at once, or it leaves promises, a timer and the
handlers of the request body behind, and what they do when they are called comes as events
(`requestExchange`). What the routes behind the entry answer is given with the event; so is what
the checks of `/ready` and the webhook handler come to. The metrics and the log are left out.

`new URL` is a parameter: it takes a reference and a base, and it may throw.
-/

set_option autoImplicit false

namespace Xygo.Model

open Xygo.Computation

/-! ### Headers and the response -/

/-- The characters a header value may have: the others make `setHeader` throw, and no parser
delivers them. -/
def isFieldChar (c : Char) : Bool :=
  c.toNat = 0x09 || (0x20 ≤ c.toNat && c.toNat ≤ 0x7E) || (0x80 ≤ c.toNat && c.toNat ≤ 0xFF)

/-- A header value that can be sent. -/
def validHeaderValue (value : String) : Bool := value.toList.all isFieldChar

/-- The value of a header field, as the parser delivers it. -/
abbrev FieldValue : Type := { value : String // validHeaderValue value = true }

/-- The members of an object that holds headers. -/
abbrev HeaderFields : Type := List (String × String)

/-- `{ ...base, ...extra }` -/
def spreadHeaders (base extra : HeaderFields) : HeaderFields :=
  base.map (fun field => (field.1, (extra.lookup field.1).getD field.2)) ++
    extra.filter fun field => (base.lookup field.1).isNone

/-- `SECURITY_HEADERS`
SOURCE: apps/api/src/http/headers.js:4-11 -/
def securityHeaders : HeaderFields :=
  [("x-content-type-options", "nosniff"), ("x-frame-options", "DENY"),
    ("referrer-policy", "no-referrer"),
    ("content-security-policy", "default-src 'none'; frame-ancestors 'none'"),
    ("strict-transport-security", "max-age=63072000; includeSubDomains"),
    ("cache-control", "no-store")]

/-- `CORS_HEADERS`
SOURCE: apps/api/src/http/headers.js:13-17 -/
def corsHeaders : HeaderFields :=
  [("access-control-allow-origin", "*"),
    ("access-control-allow-headers",
      "authorization,content-type,x-staged-tenant-id,x-staged-user-id"),
    ("access-control-allow-methods", "GET,POST,OPTIONS")]

/-- `baseResponseHeaders`
SOURCE: apps/api/src/http/headers.js:22-24 -/
def baseResponseHeaders (extra : HeaderFields) : HeaderFields :=
  spreadHeaders (securityHeaders ++ corsHeaders ++ [("x-xygo-staged-mode", "true")]) extra

/-- What a response carries. -/
inductive ResponseBody
  | json (value : Json)
  | text (value : String)
  | buffer (bytes : List UInt8)

/-- The response of a request. The head is kept back until something is written or the response
ends. -/
structure ServerResponse where
  headers : HeaderFields := []
  head : Option (Nat × HeaderFields) := none
  written : List ResponseBody := []
  ended : Bool := false

namespace ServerResponse

/-- `res.headersSent` -/
def headersSent (res : ServerResponse) : Bool := res.head.isSome

/-- Whether the client gets a response: a head that is not kept back. -/
def answered (res : ServerResponse) : Bool := res.head.isSome && (res.ended || !res.written.isEmpty)

end ServerResponse

/-- What is done to a response; a method that refuses throws. -/
abbrev ResponseM : Type → Type := Effect JsError ServerResponse

/-- `res.setHeader` -/
def setHeader (name value : String) : ResponseM Unit := do
  if !validHeaderValue value then
    throw { message := "Invalid character in header content", code := some "ERR_INVALID_CHAR" }
  modify fun res => { res with headers := spreadHeaders res.headers [(name, value)] }

/-- `res.writeHead` -/
def writeHead (status : Nat) (headers : HeaderFields) : ResponseM Unit := do
  let res ← get
  if res.headersSent then
    throw { message := "Cannot write headers after they are sent to the client"
            code := some "ERR_HTTP_HEADERS_SENT" }
  if status < 100 ∨ 999 < status then
    throw { message := "Invalid status code", code := some "ERR_HTTP_INVALID_STATUS_CODE" }
  if !headers.all fun field => validHeaderValue field.2 then
    throw { message := "Invalid character in header content", code := some "ERR_INVALID_CHAR" }
  set { res with head := some (status, spreadHeaders res.headers headers) }

/-- `res.write` -/
def writeBody (body : ResponseBody) : ResponseM Unit :=
  modify fun res => { res with written := res.written ++ [body] }

/-- `res.end` -/
def endWith (body : Option ResponseBody) : ResponseM Unit :=
  modify fun res => { res with written := res.written ++ body.toList, ended := true }

/-- `sendJson`
SOURCE: apps/api/src/server.js:25-31 -/
def sendJson (status : Nat) (body : Json) (extraHeaders : HeaderFields) : ResponseM Unit := do
  let res ← get
  if res.headersSent then return ()
  writeHead status
    (baseResponseHeaders (spreadHeaders [("content-type", "application/json")] extraHeaders))
  endWith (some (.json body))

/-- The body of an answer that reports an error. -/
def errorBody (error message : String) : Json :=
  .object [("error", .string error), ("message", .string message), ("staged", .bool true)]

/-- `authErrorResponse`
SOURCE: apps/api/src/server.js:43-45 -/
def authErrorResponse (code message : String) : ResponseM Unit :=
  sendJson 401 (.object [("error", .string "unauthorized"), ("message", .string message),
    ("code", .string code), ("staged", .bool true)]) []

/-- The answer to what a chain of promises rejects with.
SOURCE: apps/api/src/server.js:231-237, 329-335 -/
def sendFailure (message : String) : RequestFailure → ResponseM Unit
  | .authError code text => authErrorResponse code text
  | .other _ => sendJson 500 (errorBody "internal_error" message) []

/-! ### The entry of the routes -/

/-- What the listener reads of a URL. -/
structure Url where
  pathname : String
  searchParams : SearchParams

/-- `new URL(input, base)`; `none` where it throws. -/
abbrev UrlConstructor : Type := String → String → Option Url

/-- A request body: the bytes of a file, or a text. -/
inductive RequestBody
  | bytes (value : List UInt8)
  | text (value : String)

/-- What `handleApiRequest` is called with. -/
structure ApiRequest where
  method : String
  path : String
  headers : Headers
  body : Option RequestBody := none
  principal : Option RequestPrincipal := none
  authConfig : AuthConfig

/-- What it answers. -/
structure ApiResult where
  status : Nat
  headers : HeaderFields
  body : ResponseBody

/-- What a route throws; a `SyntaxError` is answered as a bad request. -/
inductive RouteFailure
  | syntaxError
  | other (error : JsError)

/-- The routes behind the entry, given the tenant, the parts of the path and the principal. -/
abbrev Routes : Type :=
  ApiRequest → Url → String → List String → RequestPrincipal → Except RouteFailure ApiResult

/-- `json`
SOURCE: apps/api/src/handlers.js:50-56 -/
def jsonResult (status : Nat) (body : Json) : ApiResult where
  status := status
  headers := baseResponseHeaders [("content-type", "application/json")]
  body := .json body

/-- `splitPath`: the empty parts go, with them those the slashes at the ends make.
SOURCE: apps/api/src/handlers.js:110-112 -/
def splitPath (pathname : String) : List String := (splitText (· = '/') pathname).filter (· ≠ "")

/-- The methods that are enabled.
SOURCE: apps/api/src/handlers.js:678 -/
def enabledMethods : List String := ["GET", "POST", "PUT", "DELETE"]

/-- `json(200, { status: "ok", staged: true })` -/
def healthBody : Json := .object [("status", .string "ok"), ("staged", .bool true)]

/-- The result of a route, or the answer to what it throws.
SOURCE: apps/api/src/handlers.js:651-661 -/
def resultOf : Except RouteFailure ApiResult → ApiResult
  | .ok result => result
  | .error .syntaxError => jsonResult 400 (errorBody "bad_request" "Malformed JSON request body.")
  | .error (.other _) =>
    jsonResult 500
      (errorBody "internal_error" "Staged runtime failed to process the request.")

namespace ApiRequest

variable (newUrl : UrlConstructor) (routes : Routes) (request : ApiRequest)

/-- The principal a request is answered under.
SOURCE: apps/api/src/handlers.js:718-719 -/
def effectivePrincipal : Option RequestPrincipal :=
  request.principal.or
    (if request.authConfig.mode = .oidc then none
      else some (resolveStagedPrincipal request.headers none))

/-- `routeApiRequest`, up to where the routes of a tenant begin.
SOURCE: apps/api/src/handlers.js:664-727 -/
def routeApiRequest : Except RouteFailure ApiResult :=
  if request.method ∉ enabledMethods then
    .ok (jsonResult 405 (errorBody "method_not_allowed" "HTTP method is not enabled."))
  else
    match newUrl request.path "http://internal" with
    | none => .error (.other (newError "Invalid URL"))
    | some url =>
      if url.pathname = "/health" then .ok (jsonResult 200 healthBody)
      else
        match splitPath url.pathname with
        | "v1" :: "tenants" :: tenantId :: rest =>
          match request.effectivePrincipal with
          | none => .ok (jsonResult 401 (errorBody "unauthorized" "Authentication required."))
          | some principal =>
            routes request url tenantId ("v1" :: "tenants" :: tenantId :: rest) principal
        | _ => .ok (jsonResult 404 (errorBody "not_found" "Not found."))

/-- `handleApiRequest`
SOURCE: apps/api/src/handlers.js:648-662 -/
def handleApiRequest : ApiResult := resultOf (request.routeApiRequest newUrl routes)

end ApiRequest

/-- `sendResult`
SOURCE: apps/api/src/server.js:33-41 -/
def sendResult (result : ApiResult) : ResponseM Unit :=
  match result.body with
  | .buffer bytes => do
    let res ← get
    if res.headersSent then return ()
    writeHead result.status result.headers
    endWith (some (.buffer bytes))
  | .json value => sendJson result.status value result.headers
  | .text value => sendJson result.status (.string value) result.headers

/-! ### The rate limiter -/

/-- A bucket of the limiter. -/
structure RateBucket where
  count : Nat
  resetAt : Double

/-- The limiter: its settings and its buckets, with the text `String` makes of a number. -/
structure RateLimiter where
  windowMs : Double
  max : Double
  numberText : Double → FieldValue
  buckets : String → Option RateBucket := fun _ => none

/-- What `check` answers. -/
structure RateDecision where
  allowed : Bool
  remaining : Double
  limit : Double
  retryAfterSec : Double

namespace RateLimiter

/-- `Math.max(0, value)` -/
def atLeastZero : Double → Double
  | .finite value => .finite (if value < 0 then 0 else value)
  | .infinity true => .finite 0
  | value => value

/-- `Math.ceil(value / 1000)` -/
def ceilSeconds : Double → Double
  | .finite value =>
    match Double.ofRat (value / 1000) with
    | .finite seconds => .finite ⌈seconds⌉
    | other => other
  | value => value

/-- The bucket of a key at a time: a new one where there is none, or where its window is over.
SOURCE: apps/api/src/http/rate-limit.js:8-13 -/
def bucketAt (limiter : RateLimiter) (key : String) (now : Int) : RateBucket :=
  let fresh : RateBucket := { count := 0, resetAt := Double.add (.finite now) limiter.windowMs }
  match limiter.buckets key with
  | none => fresh
  | some bucket => if Double.atMost bucket.resetAt (.finite now) then fresh else bucket

/-- `check`
SOURCE: apps/api/src/http/rate-limit.js:7-21 -/
def check (limiter : RateLimiter) (key : String) (now : Int) : RateDecision × RateLimiter :=
  let bucket := limiter.bucketAt key now
  let count := bucket.count + 1
  ({ allowed := Double.atMost (.finite count) limiter.max
     remaining := atLeastZero (limiter.max.add (.finite (-count)))
     limit := limiter.max
     retryAfterSec := ceilSeconds (bucket.resetAt.add (.finite (-now))) },
    { limiter with
      buckets := fun other =>
        if other = key then some { bucket with count := count } else limiter.buckets other })

end RateLimiter

/-! ### The listener -/

/-- A request as the HTTP parser delivers it. -/
structure DeliveredRequest where
  method : String
  url : Option String
  fields : String → Option FieldValue := fun _ => none
  remoteAddress : Option String := none

namespace DeliveredRequest

variable (request : DeliveredRequest)

/-- `req.headers` -/
def headers : Headers := fun name => (request.fields name).map Subtype.val

/-- `req.url ?? "/"` -/
def target : String := request.url.getD "/"

/-- `rateLimitKey`
SOURCE: apps/api/src/server.js:47-49 -/
def rateLimitKey : String :=
  (((request.headers "x-staged-tenant-id").or (request.headers "authorization")).or
    request.remoteAddress).getD "anonymous"

end DeliveredRequest

/-- What a server is made with, and what it calls. -/
structure ApiServer where
  platform : Platform
  crypto : TokenCrypto
  newUrl : UrlConstructor
  decodeUtf8 : List UInt8 → String
  authConfig : AuthConfig
  maxBodyBytes : Double
  maxFileBytes : Double
  emailTransport : Option String
  renderMetrics : String

/-- The state a server is in when a request comes: whether it is draining, its limiter, the time,
and the identifier it would draw for the request. -/
structure ServerMoment where
  shuttingDown : Bool
  limiter : RateLimiter
  now : Int
  randomUUID : FieldValue

/-- What an exchange waits for: the promise of a readiness check, the principal of a stream, the
body of the request beside the timer, and the promises behind the body. It is finished when nothing
is awaited; `gone` is where the connection broke before the body was there. -/
inductive ExchangePhase
  | readiness
  | metrics
  | streamPrincipal (tenantId : String)
  | body
  | webhook
  | principal (body : Option RequestBody)
  | api (body : Option RequestBody) (principal : RequestPrincipal)
  | finished
  | gone
  | threw (error : JsError)

/-- Whether nothing is awaited any more. -/
def ExchangePhase.settled : ExchangePhase → Bool
  | finished | gone | threw _ => true
  | _ => false

/-- The request in progress. -/
structure Exchange where
  response : ServerResponse := {}
  phase : ExchangePhase := .finished
  limiter : RateLimiter
  received : Nat := 0
  chunks : List (List UInt8) := []

/-- What the listener and its handlers do. -/
abbrev ListenerM : Type → Type := Effect JsError Exchange

/-- An operation on the response of the exchange. -/
def respond {α : Type} (m : ResponseM α) : ListenerM α :=
  Effect.focus Exchange.response (fun exchange response => { exchange with response := response }) m

/-- Wait for something. -/
def await (phase : ExchangePhase) : ListenerM Unit :=
  modify fun exchange => { exchange with phase := phase }

/-- The answer to a request over the limit.
SOURCE: apps/api/src/server.js:211-215 -/
def refuseRate (limiter : RateLimiter) (decision : RateDecision) : ResponseM Unit :=
  let text := fun value => (limiter.numberText value).val
  sendJson 429 (errorBody "rate_limited" "Too many requests.")
    [("retry-after", text decision.retryAfterSec), ("x-ratelimit-limit", text decision.limit),
      ("x-ratelimit-remaining", text decision.remaining)]

/-- `rateLimiter.check(rateLimitKey(req))`: whether the request is refused.
SOURCE: apps/api/src/server.js:208-217 -/
def rateLimited (request : DeliveredRequest) (now : Int) : ListenerM Bool := do
  let exchange ← get
  let (decision, limiter) := exchange.limiter.check request.rateLimitKey now
  set { exchange with limiter := limiter }
  if decision.allowed then return false
  else
    respond (refuseRate limiter decision)
    return true

/-- The tenant of `GET /v1/tenants/:tenant/events/stream`.
SOURCE: apps/api/src/server.js:219-224 -/
def streamTenant (method path : String) : Option String :=
  match splitPath path with
  | "v1" :: "tenants" :: tenantId :: "events" :: "stream" :: _ =>
    if method = "GET" then some tenantId else none
  | _ => none

/-- The listener once the target is parsed.
SOURCE: apps/api/src/server.js:183-341 -/
def dispatch (moment : ServerMoment) (request : DeliveredRequest) (path : String) :
    ListenerM Unit := do
  if request.method = "GET" ∧ path = "/health" then respond (sendJson 200 healthBody [])
  else if request.method = "GET" ∧ path = "/ready" then await .readiness
  else if request.method = "GET" ∧ path = "/metrics" then await .metrics
  else if moment.shuttingDown then
    respond (sendJson 503 (errorBody "shutting_down" "Server is draining.") [])
  else
    let refused ← rateLimited request moment.now
    if refused then return ()
    match streamTenant request.method path with
    | some tenantId => await (.streamPrincipal tenantId)
    | none => await .body

/-- The request listener.
SOURCE: apps/api/src/server.js:166-341 -/
def requestListener (S : ApiServer) (moment : ServerMoment) (request : DeliveredRequest) :
    ListenerM Unit := do
  respond (setHeader "x-request-id"
    ((request.fields "x-request-id").getD moment.randomUUID).val)
  if request.method = "OPTIONS" then
    respond (writeHead 204 corsHeaders)
    respond (endWith none)
  else
    -- Nothing catches what the constructor throws.
    match S.newUrl request.target "http://127.0.0.1" with
    | none => throw { message := "Invalid URL", code := some "ERR_INVALID_URL" }
    | some url => dispatch moment request url.pathname

/-- The exchange the listener leaves. -/
def listened (S : ApiServer) (moment : ServerMoment) (request : DeliveredRequest) : Exchange :=
  match Effect.exec (requestListener S moment request) { limiter := moment.limiter } with
  | (.ok _, exchange) => exchange
  | (.error error, exchange) => { exchange with phase := .threw error }

/-! ### What comes after the listener -/

/-- What the promises of an exchange see of the repository when they settle. -/
structure RepositoryView where
  identities : Option IdentityRepository
  jwks : Except RequestFailure Json
  now : Int
  lists : TenantLists

/-- What happens next. -/
inductive ExchangeEvent
  | readinessSettled (outcome : Except JsError (List (String × Json)))
  | principalSettled (view : RepositoryView)
  | data (chunk : List UInt8)
  | bodyEnd
  | timeout
  | requestError
  | webhookSettled (outcome : Except JsError (Nat × Json))
  | routed (routes : Routes)

section

variable (S : ApiServer) (request : DeliveredRequest)

/-- `url.pathname` and `url.searchParams` of the request; nothing runs where the target has none. -/
def pathOf : String := ((S.newUrl request.target "http://127.0.0.1").map Url.pathname).getD ""

/-- `/^\/v1\/tenants\/[^/]+\/files\/[^/]+\/content$/.test(path)` of a `PUT`.
SOURCE: apps/api/src/server.js:282, 299 -/
def isFileContent : Bool :=
  request.method = "PUT" &&
    match splitText (· = '/') (pathOf S request) with
    | ["", "v1", "tenants", tenantId, "files", fileId, "content"] => tenantId ≠ "" && fileId ≠ ""
    | _ => false

/-- The principal of the request, as its promise settles. -/
def settledPrincipal (view : RepositoryView) (allowQueryAuth : Bool) :
    Except RequestFailure RequestPrincipal :=
  resolvePrincipal S.crypto S.authConfig view.identities
    { headers := request.headers
      searchParams :=
        if allowQueryAuth then
          (S.newUrl request.target "http://127.0.0.1").map Url.searchParams
        else none
      allowQueryAuth := allowQueryAuth
      now := view.now
      jwks := view.jwks }

/-- Whether a principal is one of the tenant.
SOURCE: apps/api/src/server.js:237 -/
def ofTenant? (principal : RequestPrincipal) (tenantId : String) : Bool :=
  principal.tenantId.any fun own => own ≠ "" && own = tenantId

/-- The members of a snapshot, as `JSON.stringify` writes them: a count that is `undefined` is left
out. -/
def EventSnapshot.toJson (snapshot : EventSnapshot) : Json :=
  let counts :=
    [("projects", snapshot.projects), ("issues", snapshot.issues), ("rfis", snapshot.rfis),
      ("permitPackages", snapshot.permitPackages), ("reviewSessions", snapshot.reviewSessions),
      ("aiReviewRuns", snapshot.aiReviewRuns), ("aiFindings", snapshot.aiFindings)]
  .object ([("tenantId", .string snapshot.tenantId)] ++
    counts.filterMap (fun count =>
      count.2.map fun n => (count.1, Json.number (toString n))) ++
    [("staged", .bool snapshot.staged)])

/-- `formatSseEvent`
SOURCE: apps/api/src/realtime.js:21-23 -/
def formatSseEvent (event : String) (data : Json) : String :=
  "event: " ++ event ++ "\ndata: " ++ stringify data ++ "\n\n"

/-- The `then` of a stream, given its principal; what it throws goes to the `catch`.
SOURCE: apps/api/src/server.js:236-247 -/
def openStream (view : RepositoryView) (tenantId : String) (principal : RequestPrincipal) :
    ResponseM Unit := do
  if !ofTenant? principal tenantId then
    sendJson 403 (errorBody "forbidden" "Tenant access denied.") []
  else
    writeHead 200 (baseResponseHeaders
      [("content-type", "text/event-stream"), ("cache-control", "no-cache"),
        ("connection", "keep-alive")])
    let snapshot ← liftM (buildTenantEventSnapshot tenantId view.lists)
    writeBody (.text (formatSseEvent "snapshot" snapshot.toJson))

/-- The answer of a settled readiness check.
SOURCE: apps/api/src/server.js:188-196 -/
def answerReadiness : Except JsError (List (String × Json)) → ResponseM Unit
  | .ok readiness =>
    sendJson 200
      (.object (readiness.filter (fun member => member.1 ≠ "staged") ++ [("staged", .bool true)])) []
  | .error error =>
    sendJson 503 (.object [("ready", .bool false),
      ("reason", .string (error.code.getD "dependency_not_ready")), ("staged", .bool true)]) []

/-- The `finally` of a metrics request. -/
def answerMetrics : ResponseM Unit := do
  writeHead 200 (baseResponseHeaders [("content-type", "text/plain; version=0.0.4")])
  endWith (some (.text S.renderMetrics))

/-- The answer of the webhook handler, once its promise settles.
SOURCE: apps/api/src/server.js:316-320 -/
def answerWebhook : Except JsError (Nat × Json) → ResponseM Unit
  | .ok answer =>
    tryCatch (sendJson answer.1 answer.2 []) fun _ =>
      sendJson 500 (errorBody "internal_error" "Email webhook processing failed.") []
  | .error _ => sendJson 500 (errorBody "internal_error" "Email webhook processing failed.") []

/-- The handler of `end` on a webhook request.
SOURCE: apps/api/src/server.js:303-321 -/
def receiveWebhook : ListenerM Unit := do
  if S.platform.toLowerCase (S.emailTransport.getD "sink") ≠ "resend" then
    respond (sendJson 404 (errorBody "not_found" "Email webhook is not configured.") [])
    await .finished
  else await .webhook

/-- The body of a request that has ended.
SOURCE: apps/api/src/server.js:299-301 -/
def bodyOf (exchange : Exchange) : Option RequestBody :=
  if isFileContent S request then some (.bytes exchange.chunks.flatten)
  else if exchange.chunks = [] then none
  else some (.text (S.decodeUtf8 exchange.chunks.flatten))

/-- The handler of `data`.
SOURCE: apps/api/src/server.js:276-292 -/
def receiveData (chunk : List UInt8) : ListenerM Unit := do
  let exchange ← get
  let received := exchange.received + chunk.length
  let limit := if isFileContent S request then S.maxFileBytes else S.maxBodyBytes
  let exceeds := limit ≠ .nan && !Double.atMost (.finite received) limit
  set { exchange with
    received := received
    chunks := if exceeds then exchange.chunks else exchange.chunks ++ [chunk] }
  if exceeds then
    respond (sendJson 413 (errorBody "payload_too_large" "Request body exceeds limit.") [])
    await .finished

/-- The handler of `end`.
SOURCE: apps/api/src/server.js:294-338 -/
def receiveEnd : ListenerM Unit := do
  let exchange ← get
  if request.method = "POST" ∧ pathOf S request = "/webhooks/email" then receiveWebhook S
  else await (.principal (bodyOf S request exchange))

/-- `handleApiRequest(…).then(sendResult)` -/
def answerApi (routes : Routes) (body : Option RequestBody) (principal : RequestPrincipal) :
    ResponseM Unit :=
  sendResult (ApiRequest.handleApiRequest S.newUrl routes
    { method := request.method
      path := request.target
      headers := request.headers
      body := body
      principal := some principal
      authConfig := S.authConfig })

/-- The message of a request that failed. -/
def failedMessage : String := "Staged runtime failed to process the request."

/-- A step of the `then` of a chain, with its `catch`. -/
def caught (message : String) (m : ResponseM Unit) : ResponseM Unit :=
  tryCatch m fun error => sendFailure message (.other error)

/-- The chain of a stream, from the outcome of `resolvePrincipal`.
SOURCE: apps/api/src/server.js:228-254 -/
def answerStream (view : RepositoryView) (tenantId : String) :
    Except RequestFailure RequestPrincipal → ResponseM Unit
  | .ok principal => caught "Stream setup failed." (openStream view tenantId principal)
  | .error failure => sendFailure "Stream setup failed." failure

/-- The chain of a request to the routes, from the outcome of `resolvePrincipal`.
SOURCE: apps/api/src/server.js:323-337 -/
def enterApi (body : Option RequestBody) :
    Except RequestFailure RequestPrincipal → ListenerM Unit
  | .ok principal => await (.api body principal)
  | .error failure => do
    respond (sendFailure failedMessage failure)
    await .finished

/-- What an event does to the exchange that waits for it. -/
def handleEvent : ExchangePhase → ExchangeEvent → Option (ListenerM Unit)
  | .readiness, .readinessSettled outcome => some do
    respond (answerReadiness outcome)
    await .finished
  | .metrics, .readinessSettled _ => some do
    respond (answerMetrics S)
    await .finished
  | .streamPrincipal tenantId, .principalSettled view => some do
    respond (answerStream view tenantId (settledPrincipal S request view true))
    await .finished
  | .body, .data chunk => some (receiveData S request chunk)
  | .body, .bodyEnd => some (receiveEnd S request)
  | .body, .timeout => some do
    respond (sendJson 408 (errorBody "request_timeout" "Request timed out.") [])
    await .finished
  | .body, .requestError => some (await .gone)
  | .webhook, .webhookSettled outcome => some do
    respond (answerWebhook outcome)
    await .finished
  | .principal body, .principalSettled view =>
    some (enterApi body (settledPrincipal S request view false))
  | .api body principal, .routed routes => some do
    respond (caught failedMessage (answerApi S request routes body principal))
    await .finished
  | _, _ => none

/-- The exchange after its listener: an event that nothing waits for does not happen. What a handler
throws would end the process. -/
def requestExchange : Machine Exchange ExchangeEvent where
  step exchange event := do
    let handler ← handleEvent S request exchange.phase event
    match Effect.exec handler exchange with
    | (.ok _, next) => some next
    | (.error error, next) => some { next with phase := .threw error }

end

end Xygo.Model
