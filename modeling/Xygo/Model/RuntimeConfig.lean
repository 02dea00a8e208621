import Xygo.Computation.Effect
import Xygo.Model.Js

/-!
# The configuration a process reads from its environment

The gate of the production checks (`packages/production-config/src/index.js`), the auth
configuration of the API (`apps/api/src/auth/config.js`) and the configuration of the web server
(`apps/web/src/runtime-config.js`). Each decides for itself whether the process is a production
one.
-/

set_option autoImplicit false

namespace Xygo.Model

open Xygo.Computation

/-- A value of an environment. `process.env` holds texts; the loaders take any object, and one of
them has a case for flags. -/
inductive EnvValue
  | text (value : String)
  | flag (value : Bool)
  deriving DecidableEq, Repr

/-- `String(value)` -/
def EnvValue.toText : EnvValue → String
  | text value => value
  | flag true => "true"
  | flag false => "false"

/-- An environment; a name that is not set is `none`. -/
abbrev ProcessEnv : Type := String → Option EnvValue

/-- `normalizedString`: the trimmed text, unless it is empty or no text.
SOURCE: packages/production-config/src/index.js:238-240; apps/api/src/auth/config.js:14-16;
apps/web/src/runtime-config.js:10-12 -/
def normalizedString : Option EnvValue → Option String
  | some (.text value) => if trim value = "" then none else some (trim value)
  | _ => none

/-- `String(value ?? "").trim().toLowerCase()` -/
def normalizedText (P : Platform) (value : Option EnvValue) : String :=
  P.toLowerCase (trim ((value.map EnvValue.toText).getD ""))

/-- `isProductionEnvironment`
SOURCE: packages/production-config/src/index.js:524-526 -/
def isProductionEnvironment (P : Platform) (env : ProcessEnv) : Bool :=
  (normalizedString (env "NODE_ENV")).map P.toLowerCase = some "production" ||
    normalizedString (env "STAGED_MODE") = some "false"

/-- `new AuthError(code, message)` -/
def authError (code message : String) : JsError := { message := message, code := some code }

/-- `parseStagedMode`
SOURCE: apps/api/src/auth/config.js:18-25 -/
def parseStagedMode (P : Platform) : Option EnvValue → Except JsError Bool
  | none => .ok true
  | some (.flag value) => .ok value
  | some (.text value) =>
    let normalized := P.toLowerCase (trim value)
    if normalized = "true" || normalized = "1" then .ok true
    else if normalized = "false" || normalized = "0" then .ok false
    else .error (authError "config_error" "STAGED_MODE must be true or false.")

/-- `value.replace(/\/$/, "")` -/
def dropFinalSlash (value : String) : String :=
  if value.toList.getLast? = some '/' then String.ofList value.toList.dropLast else value

/-- The parts of a text between the characters that satisfy `separator`. -/
def splitText (separator : Char → Bool) (value : String) : List String :=
  (value.toList.splitOnP separator).map String.ofList

/-- The two trust models of the API. -/
inductive AuthMode
  | staged
  | oidc
  deriving DecidableEq, Repr

/-- The OIDC part of the auth configuration. The clock tolerance is `Number` of the value kept
here, or 60 without one. -/
structure OidcConfig where
  provider : Option String
  issuer : Option String
  audience : Option String
  jwksUri : Option String
  jwksUriExplicit : Bool
  allowedAlgorithms : List String
  clockToleranceSec : Option EnvValue

/-- What `loadAuthConfig` returns. -/
structure AuthConfig where
  mode : AuthMode
  stagedModeEnabled : Bool
  productionMode : Bool
  oidc : Option OidcConfig

/-- The OIDC part `loadAuthConfig` reads.
SOURCE: apps/api/src/auth/config.js:66-79 -/
def loadOidcConfig (env : ProcessEnv) : OidcConfig :=
  let issuer := normalizedString (env "XYGO_OIDC_ISSUER")
  let configuredJwksUri := normalizedString (env "XYGO_OIDC_JWKS_URI")
  let configuredAlgorithms := (normalizedString (env "XYGO_OIDC_ALLOWED_ALGORITHMS")).getD "RS256"
  { provider := normalizedString (env "XYGO_OIDC_PROVIDER")
    issuer := issuer
    audience := normalizedString (env "XYGO_OIDC_AUDIENCE")
    jwksUri := configuredJwksUri.or
      (issuer.map fun issuer => dropFinalSlash issuer ++ "/.well-known/jwks.json")
    jwksUriExplicit := configuredJwksUri.isSome
    allowedAlgorithms :=
      ((splitText (· = ',') configuredAlgorithms).map trim).filter fun value => value ≠ ""
    clockToleranceSec := env "XYGO_OIDC_CLOCK_TOLERANCE_SEC" }

/-- `env.XYGO_AUTH_MODE ?? "staged"`, when it is a known mode.
SOURCE: apps/api/src/auth/config.js:49-53 -/
def authMode (env : ProcessEnv) : Except JsError AuthMode :=
  match env "XYGO_AUTH_MODE" with
  | none => .ok .staged
  | some (.text "staged") => .ok .staged
  | some (.text "oidc") => .ok .oidc
  | some value =>
    .error (newError ("Unknown XYGO_AUTH_MODE: " ++ value.toText ++
      " (expected \"staged\" or \"oidc\")."))

/-- `loadAuthConfig`
SOURCE: apps/api/src/auth/config.js:48-82 -/
def loadAuthConfig (P : Platform) (env : ProcessEnv) : Except JsError AuthConfig := do
  let mode ← authMode env
  let stagedModeEnabled ← parseStagedMode P (env "STAGED_MODE")
  let productionMode := normalizedText P (env "NODE_ENV") = "production" || !stagedModeEnabled
  return {
    mode := mode
    stagedModeEnabled := stagedModeEnabled
    productionMode := productionMode
    oidc := if mode = .oidc then some (loadOidcConfig env) else none }

/-- `stagedModeEnabled`
SOURCE: apps/web/src/runtime-config.js:14-20 -/
def stagedModeEnabled (P : Platform) (value : Option EnvValue) : Except JsError Bool :=
  match value with
  | none => .ok true
  | some value =>
    let normalized := P.toLowerCase (trim value.toText)
    if normalized = "true" || normalized = "1" then .ok true
    else if normalized = "false" || normalized = "0" then .ok false
    else .error (newError "STAGED_MODE must be true or false.")

/-- The digits `/^\d+$/` matches. -/
def isDigits (value : String) : Bool :=
  value ≠ "" && value.toList.all fun c => '0' ≤ c && c ≤ '9'

/-- The number a text of digits denotes. -/
def digitsValue (value : String) : Nat :=
  value.toList.foldl (fun total c => 10 * total + (c.toNat - '0'.toNat)) 0

/-- `Number.MAX_SAFE_INTEGER` -/
def maxSafeInteger : Nat := 9007199254740991

/-- `integerSetting`
SOURCE: apps/web/src/runtime-config.js:34-41 -/
def integerSetting (value : Option EnvValue) (fallback minimum maximum : Nat) (label : String) :
    Except JsError Nat :=
  let raw :=
    if value = none ∨ value = some (.text "") then toString fallback
    else (value.map EnvValue.toText).getD ""
  let parsed := digitsValue raw
  if !isDigits raw || maxSafeInteger < parsed || parsed < minimum || maximum < parsed then
    .error (newError (label ++ " must be an integer between " ++ toString minimum ++ " and " ++
      toString maximum ++ "."))
  else .ok parsed

/-- The OIDC part of the web configuration. -/
structure WebOidcConfig where
  provider : Option String
  issuer : Option String
  audience : Option String
  clientId : Option String
  authorizationEndpoint : Option String
  tokenEndpoint : Option String
  endSessionEndpoint : Option String
  scopes : List String
  responseType : String := "code"
  pkceMethod : String := "S256"
  redirectUri : String
  postLogoutRedirectUri : String
  accessTokenStorage : String := "memory"

/-- The session part of the web configuration. -/
structure WebSessionConfig where
  secret : Option String
  encryptionSecret : Option String
  storeBackend : String
  postgresUrl : Option String
  cookieName : String
  allowedOrigin : String
  idleTtlMs : Nat
  absoluteTtlMs : Nat
  transactionTtlMs : Nat
  tokenRequestTimeoutMs : Nat
  tokenClockToleranceSec : Nat
  renewBeforeSec : Nat
  requireRefreshToken : Bool

/-- What `loadWebRuntimeConfig` returns; the two last parts are those of the mode `oidc`. -/
structure WebRuntimeConfig where
  productionMode : Bool
  environment : String
  release : String
  appUrl : String
  apiBaseUrl : String
  monitoringEndpoint : Option String
  mode : String
  oidc : Option WebOidcConfig
  session : Option WebSessionConfig

/-- The OIDC part `loadWebRuntimeConfig` reads.
SOURCE: apps/web/src/runtime-config.js:61-80 -/
def loadWebOidcConfig (env : ProcessEnv) (appUrl : String) : WebOidcConfig where
  provider := normalizedString (env "XYGO_OIDC_PROVIDER")
  issuer := normalizedString (env "XYGO_OIDC_ISSUER")
  audience := normalizedString (env "XYGO_OIDC_AUDIENCE")
  clientId := normalizedString (env "XYGO_WEB_OIDC_CLIENT_ID")
  authorizationEndpoint := normalizedString (env "XYGO_WEB_OIDC_AUTHORIZATION_ENDPOINT")
  tokenEndpoint := normalizedString (env "XYGO_WEB_OIDC_TOKEN_ENDPOINT")
  endSessionEndpoint := normalizedString (env "XYGO_WEB_OIDC_END_SESSION_ENDPOINT")
  scopes :=
    (splitText isWhitespace
      ((normalizedString (env "XYGO_WEB_OIDC_SCOPES")).getD "openid profile email")).filter
        fun value => value ≠ ""
  redirectUri := dropFinalSlash appUrl ++ "/auth/callback"
  postLogoutRedirectUri := dropFinalSlash appUrl ++ "/"

/-- The session part `loadWebRuntimeConfig` reads; `origin` is `new URL(url).origin`.
SOURCE: apps/web/src/runtime-config.js:81-95 -/
def loadWebSessionConfig (P : Platform) (origin : String → Except JsError String)
    (env : ProcessEnv) (appUrl : String) : Except JsError WebSessionConfig := do
  let allowedOrigin ←
    match normalizedString (env "XYGO_WEB_ALLOWED_ORIGIN") with
    | some allowed => pure allowed
    | none => origin appUrl
  let idleSec ← integerSetting (env "XYGO_WEB_SESSION_IDLE_SEC") 1800 300 86400
    "XYGO_WEB_SESSION_IDLE_SEC"
  let absoluteSec ← integerSetting (env "XYGO_WEB_SESSION_ABSOLUTE_SEC") 28800 900 86400
    "XYGO_WEB_SESSION_ABSOLUTE_SEC"
  let transactionSec ← integerSetting (env "XYGO_WEB_AUTH_TRANSACTION_TTL_SEC") 300 60 900
    "XYGO_WEB_AUTH_TRANSACTION_TTL_SEC"
  let tokenRequestTimeoutMs ← integerSetting (env "XYGO_WEB_TOKEN_REQUEST_TIMEOUT_MS") 10000 1000
    30000 "XYGO_WEB_TOKEN_REQUEST_TIMEOUT_MS"
  let tokenClockToleranceSec ← integerSetting (env "XYGO_WEB_TOKEN_CLOCK_TOLERANCE_SEC") 30 0 120
    "XYGO_WEB_TOKEN_CLOCK_TOLERANCE_SEC"
  let renewBeforeSec ← integerSetting (env "XYGO_WEB_TOKEN_RENEW_BEFORE_SEC") 120 30 600
    "XYGO_WEB_TOKEN_RENEW_BEFORE_SEC"
  return {
    secret := normalizedString (env "XYGO_WEB_SESSION_SECRET")
    encryptionSecret := normalizedString (env "XYGO_WEB_SESSION_ENCRYPTION_KEY")
    storeBackend := (normalizedString (env "XYGO_WEB_SESSION_STORE")).getD "memory"
    postgresUrl :=
      (normalizedString (env "XYGO_WEB_SESSION_PG_URL")).or (normalizedString (env "XYGO_API_PG_URL"))
    cookieName :=
      (normalizedString (env "XYGO_WEB_SESSION_COOKIE_NAME")).getD "__Host-xygo-session"
    allowedOrigin := allowedOrigin
    idleTtlMs := idleSec * 1000
    absoluteTtlMs := absoluteSec * 1000
    transactionTtlMs := transactionSec * 1000
    tokenRequestTimeoutMs := tokenRequestTimeoutMs
    tokenClockToleranceSec := tokenClockToleranceSec
    renewBeforeSec := renewBeforeSec
    requireRefreshToken :=
      P.toLowerCase (((env "XYGO_WEB_REQUIRE_REFRESH_TOKEN").map EnvValue.toText).getD "false") =
        "true" }

/-- The production decision of the web server; a production `NODE_ENV` leaves `STAGED_MODE`
unread.
SOURCE: apps/web/src/runtime-config.js:45 -/
def webProductionMode (P : Platform) (env : ProcessEnv) : Except JsError Bool :=
  if normalizedText P (env "NODE_ENV") = "production" then .ok true
  else (fun enabled => !enabled) <$> stagedModeEnabled P (env "STAGED_MODE")

/-- `loadWebRuntimeConfig`
SOURCE: apps/web/src/runtime-config.js:43-99 -/
def loadWebRuntimeConfig (P : Platform) (origin : String → Except JsError String)
    (env : ProcessEnv) : Except JsError WebRuntimeConfig := do
  let mode := (normalizedString (env "XYGO_AUTH_MODE")).getD "staged"
  let productionMode ← webProductionMode P env
  let appUrl := (normalizedString (env "XYGO_WEB_APP_URL")).getD "http://127.0.0.1:4173"
  let config : WebRuntimeConfig :=
    { productionMode := productionMode
      environment := (normalizedString (env "XYGO_DEPLOY_ENVIRONMENT")).getD "local"
      release := (normalizedString (env "XYGO_RELEASE")).getD "development"
      appUrl := appUrl
      apiBaseUrl := (normalizedString (env "XYGO_WEB_API_BASE_URL")).getD "http://127.0.0.1:3000"
      monitoringEndpoint := normalizedString (env "XYGO_WEB_MONITORING_ENDPOINT")
      mode := mode
      oidc := none
      session := none }
  if mode = "oidc" then
    let session ← loadWebSessionConfig P origin env appUrl
    return { config with oidc := some (loadWebOidcConfig env appUrl), session := some session }
  else return config

end Xygo.Model
