import Xygo.Model.Api
import Xygo.Model.Pagination
import Xygo.Model.PostgresSchema
import Xygo.Model.RuntimeConfig

/-!
# The principal of a request

`apps/api/src/auth`: the staged identity of a request, the verification of a bearer token, and the
authorization the repository keeps for the subject of a token. The digest and the keys of
`node:crypto`, and what a segment of a token decodes to, are left open.
-/

set_option autoImplicit false

namespace Xygo.Model

open Xygo.Computation

/-- The header fields of a request, and the parameters of its query. -/
abbrev Headers : Type := String → Option String

abbrev SearchParams : Type := String → Option String

/-- What the code of a request throws; the server tells an `AuthError` from the others.
SOURCE: apps/api/src/auth/jwt.js:8-14 -/
inductive RequestFailure
  | authError (code message : String)
  | other (error : JsError)
  deriving DecidableEq, Repr

/-- The identity of a request, with how it was come by.
SOURCE: apps/api/src/auth/principal.js:5-7 -/
structure RequestPrincipal extends Principal where
  authenticated : Bool
  staged : Bool
  deriving DecidableEq, Repr

/-- `resolveStagedPrincipal`
SOURCE: apps/api/src/auth/principal.js:12-29 -/
def resolveStagedPrincipal (headers : Headers) (searchParams : Option SearchParams) :
    RequestPrincipal where
  userId := some (((headers "x-staged-user-id").or (headers "X-Staged-User-Id")).getD
    "synthetic-user")
  tenantId := ((headers "x-staged-tenant-id").or (headers "X-Staged-Tenant-Id")).or
    (searchParams.bind fun params => params "stagedTenantId")
  organizationRole := some "company_admin"
  projectRole := none
  authenticated := false
  staged := true

/-- What follows `/^Bearer\s+/i` at the start of a header. -/
def afterBearer (header : String) : Option String :=
  let scheme := header.toList.take 6
  let rest := header.toList.drop 6
  if scheme.map Char.toLower = "bearer".toList ∧ rest.head?.any isWhitespace then
    some (String.ofList (rest.dropWhile isWhitespace))
  else none

/-- `extractBearer`
SOURCE: apps/api/src/auth/principal.js:31-37 -/
def extractBearer (headers : Headers) : Option String :=
  (((headers "authorization").or (headers "Authorization")).bind afterBearer).map trim

/-! ### Tokens -/

/-- What `ALG_TO_HASH[alg]` is, where it is anything: a digest, or what an object inherits. -/
inductive HashAlgorithm
  | rsaSha256
  | rsaSha384
  | rsaSha512
  | inherited (name : String)
  deriving DecidableEq, Repr

/-- The names every object inherits. -/
def inheritedNames : List String :=
  ["__defineGetter__", "__defineSetter__", "__lookupGetter__", "__lookupSetter__", "__proto__",
    "constructor", "hasOwnProperty", "isPrototypeOf", "propertyIsEnumerable", "toLocaleString",
    "toString", "valueOf"]

/-- `ALG_TO_HASH`
SOURCE: apps/api/src/auth/jwt.js:16-20 -/
def algToHash : String → Option HashAlgorithm
  | "RS256" => some .rsaSha256
  | "RS384" => some .rsaSha384
  | "RS512" => some .rsaSha512
  | name => if name ∈ inheritedNames then some (.inherited name) else none

/-- What the verification of a token calls: `decode` is `JSON.parse` of the text a base64url segment
stands for, `importable` whether `createPublicKey` takes a key, and `verify` what `crypto.verify`
answers for a digest, the signed text, a key and a signature, or `none` where it throws. -/
structure TokenCrypto where
  decode : String → Option Json
  importable : Json → Bool
  verify : HashAlgorithm → String → Json → String → Option Bool

/-- What a token is verified against. -/
structure JwtSettings where
  keys : Json
  issuer : Option String
  audience : Option String
  allowedAlgorithms : List String
  now : Int
  clockToleranceSec : Double

/-- `throw new AuthError(code, message)` -/
def throwAuth {α : Type} (code message : String) : Except RequestFailure α :=
  .error (.authError code message)

/-- `decodeSegment`
SOURCE: apps/api/src/auth/jwt.js:22-33 -/
def decodeSegment (C : TokenCrypto) (segment label : String) : Except RequestFailure Json :=
  match C.decode segment with
  | none => throwAuth "malformed_token" ("Could not decode JWT " ++ label ++ ".")
  | some (.object members) => .ok (.object members)
  | some _ => throwAuth "malformed_token" ("JWT " ++ label ++ " must be a JSON object.")

/-- `String(value)` of a member that may be absent. -/
def memberText : Option Json → Except RequestFailure String
  | none => .ok "undefined"
  | some value => value.toText.mapError .other

/-- Whether a member is the text. -/
def memberIs (value : Option Json) (text : String) : Bool := value.any (Json.isText · text)

/-- `asAudienceSet(aud).has(audience)`
SOURCE: apps/api/src/auth/jwt.js:35-40 -/
def audienceIncludes (aud : Option Json) (audience : String) : Bool :=
  match aud with
  | some (.array items) => items.any (Json.isText · audience)
  | some value => value.truthy && value.isText audience
  | none => false

/-- A member that is a finite number. -/
def finiteNumber? : Option Json → Option ℚ
  | some (.number text) =>
    match toNumber (some text) with
    | .finite value => some value
    | _ => none
  | _ => none

/-- `a <= b` -/
def Double.atMost : Double → Double → Bool
  | .nan, _ | _, .nan => false
  | .infinity negative, b => negative || b = .infinity false
  | .finite _, .infinity negative => !negative
  | .finite a, .finite b => a ≤ b

/-- Whether the settings can verify a token.
SOURCE: apps/api/src/auth/jwt.js:53-66 -/
def checkSettings (settings : JwtSettings) : Except RequestFailure (String × String × List Json) :=
  match settings.issuer.filter (· ≠ ""), settings.audience.filter (· ≠ "") with
  | some issuer, some audience =>
    match settings.keys with
    | .array keys =>
      if settings.allowedAlgorithms = [] then
        throwAuth "verification_config"
          "JWT verification requires at least one allowed algorithm."
      else
        match settings.clockToleranceSec with
        | .finite tolerance =>
          if tolerance < 0 then
            throwAuth "verification_config" "JWT verification time settings are invalid."
          else .ok (issuer, audience, keys)
        | _ => throwAuth "verification_config" "JWT verification time settings are invalid."
    | _ => throwAuth "verification_config" "JWT verification requires a JWKS key array."
  | _, _ => throwAuth "verification_config" "JWT verification requires an issuer and audience."

/-- The digest and the key id of a header.
SOURCE: apps/api/src/auth/jwt.js:72-82 -/
def readHeader (settings : JwtSettings) (header : Json) :
    Except RequestFailure (HashAlgorithm × String) := do
  let alg ← memberText (header.member? "alg")
  match algToHash alg with
  | none => throwAuth "unsupported_alg" ("Unsupported or missing JWT alg: " ++ alg ++ ".")
  | some hashAlg =>
    if !settings.allowedAlgorithms.any (memberIs (header.member? "alg")) then
      throwAuth "disallowed_alg" ("JWT alg is not allowed for this issuer: " ++ alg ++ ".")
    else
      match header.member? "kid" with
      | some (.string kid) =>
        if trim kid = "" then throwAuth "missing_key_id" "JWT header is missing a key id (kid)."
        else .ok (hashAlg, kid)
      | _ => throwAuth "missing_key_id" "JWT header is missing a key id (kid)."

/-- Whether a key may sign: an RSA key whose use, where it names one, is to sign.
SOURCE: apps/api/src/auth/jwt.js:92-94 -/
def isSigningKey (jwk : Json) : Bool :=
  memberIs (jwk.member? "kty") "RSA" &&
    (!jwk.hasTruthy "use" || memberIs (jwk.member? "use") "sig")

/-- Whether the operations a key names, if it names any, include verification.
SOURCE: apps/api/src/auth/jwt.js:98-100 -/
def allowsVerify : Option Json → Bool
  | some (.array operations) => operations.any (Json.isText · "verify")
  | _ => true

/-- The key a header names.
SOURCE: apps/api/src/auth/jwt.js:84-107 -/
def selectKey (C : TokenCrypto) (keys : List Json) (alg : Option Json) (kid : String) :
    Except RequestFailure Json :=
  match keys.filter fun key => memberIs (key.member? "kid") kid with
  | [] => throwAuth "unknown_key" ("No JWKS key matches kid: " ++ kid ++ ".")
  | _ :: _ :: _ => throwAuth "ambiguous_key" ("Multiple JWKS keys match kid: " ++ kid ++ ".")
  | [jwk] =>
    if !isSigningKey jwk then throwAuth "invalid_key" "JWKS key is not an RSA signing key."
    else if jwk.hasTruthy "alg" && !(jwk.member? "alg").any (fun own =>
        match own with
        | .string name => memberIs alg name
        | _ => false) then
      throwAuth "key_alg_mismatch" "JWT algorithm does not match the JWKS key algorithm."
    else if !allowsVerify (jwk.member? "key_ops") then
      throwAuth "invalid_key" "JWKS key is not authorized for signature verification."
    else if !C.importable jwk then
      throwAuth "invalid_key" "JWKS key could not be imported."
    else .ok jwk

/-- The signature of a token.
SOURCE: apps/api/src/auth/jwt.js:109-119 -/
def checkSignature (C : TokenCrypto) (hashAlg : HashAlgorithm) (signingInput : String) (jwk : Json)
    (signature : String) : Except RequestFailure Unit :=
  match C.verify hashAlg signingInput jwk signature with
  | none => throwAuth "invalid_key" "JWKS key could not verify this signature."
  | some false => throwAuth "bad_signature" "JWT signature verification failed."
  | some true => .ok ()

/-- The `nbf` claim of a token.
SOURCE: apps/api/src/auth/jwt.js:137-144 -/
def checkNotBefore (settings : JwtSettings) (payload : Json) : Except RequestFailure Unit :=
  if (payload.member? "nbf").isNone then .ok ()
  else
    match finiteNumber? (payload.member? "nbf") with
    | none => throwAuth "invalid_not_before" "Token not-before claim (nbf) must be numeric."
    | some nbf =>
      let nowSec : Double := .finite (settings.now / 1000 : Int)
      if !Double.atMost (.finite nbf) (nowSec.add settings.clockToleranceSec) then
        throwAuth "token_not_yet_valid" "Token is not yet valid."
      else .ok ()

/-- The claims of a token whose signature is valid.
SOURCE: apps/api/src/auth/jwt.js:121-144 -/
def checkClaims (settings : JwtSettings) (issuer audience : String) (payload : Json) :
    Except RequestFailure Unit := do
  if !memberIs (payload.member? "iss") issuer then
    let iss ← memberText (payload.member? "iss")
    throwAuth "issuer_mismatch" ("Unexpected token issuer: " ++ iss ++ ".")
  else if !audienceIncludes (payload.member? "aud") audience then
    throwAuth "audience_mismatch" "Token audience does not include this service."
  else
    match finiteNumber? (payload.member? "exp") with
    | none => throwAuth "invalid_expiration" "Token requires a numeric expiration claim (exp)."
    | some exp =>
      let nowSec : Double := .finite (settings.now / 1000 : Int)
      if Double.atMost ((Double.finite exp).add settings.clockToleranceSec) nowSec then
        throwAuth "token_expired" "Token has expired."
      else checkNotBefore settings payload

/-- `verifyJwt`: the claims of the token.
SOURCE: apps/api/src/auth/jwt.js:45-147 -/
def verifyJwt (C : TokenCrypto) (settings : JwtSettings) (token : String) :
    Except RequestFailure Json :=
  match splitText (· = '.') token with
  | [headerB64, payloadB64, signatureB64] => do
    let (issuer, audience, keys) ← checkSettings settings
    let header ← decodeSegment C headerB64 "header"
    let payload ← decodeSegment C payloadB64 "payload"
    let (hashAlg, kid) ← readHeader settings header
    let jwk ← selectKey C keys (header.member? "alg") kid
    checkSignature C hashAlg (headerB64 ++ "." ++ payloadB64) jwk signatureB64
    checkClaims settings issuer audience payload
    return payload
  | _ => throwAuth "malformed_token" "Expected a compact JWS with three segments."

/-! ### Canonical authorizations -/

/-- A row of `oidc_identities`, the record its `payload` holds.
SOURCE: apps/api/src/repositories/postgres.js:471-481 -/
structure OidcIdentity where
  id : String
  tenantId : String
  userId : String
  issuer : String
  subject : String
  bindingSource : String := "managed-idp-admin"
  boundAt : Int
  staged : Bool := true
  deriving DecidableEq, Repr

/-- A row of `tenants`. -/
structure TenantRow where
  id : String
  name : Option String := none
  status : String := "active"
  deriving DecidableEq, Repr

/-- The tables the authorization of an identity is read from. -/
structure AuthorizationTables where
  oidcIdentities : List OidcIdentity
  users : List User
  tenants : List TenantRow
  roleAssignments : List RoleAssignment

/-- What `resolveOidcAuthorization` answers. -/
inductive OidcAuthorization
  | notFound
  | ambiguous
  | active (userId tenantId organizationRole : String)
  deriving DecidableEq, Repr

/-- A repository with canonical identities, and the error its query fails with for an issuer and a
subject, if it does. -/
structure IdentityRepository where
  tables : AuthorizationTables
  fails : String → String → Option JsError := fun _ _ => none

namespace IdentityRepository

/-- The rows of the join.
SOURCE: apps/api/src/repositories/postgres.js:567-575 -/
def authorizationRows (tables : AuthorizationTables) (issuer subject : String) :
    List (String × String × String) := do
  let i ← tables.oidcIdentities.filter fun i => i.issuer = issuer ∧ i.subject = subject
  let _ ← tables.users.filter fun u =>
    u.id = i.userId ∧ u.tenantId = i.tenantId ∧ u.status = "active"
  let _ ← tables.tenants.filter fun t => t.id = i.tenantId ∧ t.status = "active"
  let r ← tables.roleAssignments.filter fun r => r.userId = i.userId ∧ r.tenantId = i.tenantId
  return (i.userId, i.tenantId, r.role)

/-- `resolveOidcAuthorization`
SOURCE: apps/api/src/repositories/postgres.js:566-586 -/
def resolveOidcAuthorization (repository : IdentityRepository) (issuer subject : String) :
    Except RequestFailure OidcAuthorization :=
  match repository.fails issuer subject with
  | some error => .error (.other error)
  | none =>
    match authorizationRows repository.tables issuer subject with
    | [] => .ok .notFound
    | [(userId, tenantId, role)] => .ok (.active userId tenantId role)
    | _ => .ok .ambiguous

end IdentityRepository

/-! ### `resolvePrincipal` -/

/-- What the principal of a request is resolved from: its header fields and its query, whether the
query counts, the time, and the key set the provider gives. -/
structure PrincipalRequest where
  headers : Headers
  searchParams : Option SearchParams := none
  allowQueryAuth : Bool := false
  now : Int
  jwks : Except RequestFailure Json

/-- `PAID_CLIENT_ROLES`
SOURCE: apps/api/src/auth/principal.js:3 -/
def paidClientRoles : List String := ["xygo_admin", "client_owner", "client_staff", "client_viewer"]

/-- `Number(env.XYGO_OIDC_CLOCK_TOLERANCE_SEC ?? 60)`
SOURCE: apps/api/src/auth/config.js:78 -/
def clockTolerance : Option EnvValue → Double
  | none => .finite 60
  | some (.text value) => toNumber (some value)
  | some (.flag value) => .finite (if value then 1 else 0)

/-- The OIDC configuration is not there. -/
def noOidcConfig : RequestFailure :=
  .other (newError "Cannot read properties of null (reading 'issuer')")

/-- The claims of the bearer token of a request.
SOURCE: apps/api/src/auth/principal.js:51-64 -/
def verifiedClaims (C : TokenCrypto) (oidc : Option OidcConfig) (request : PrincipalRequest) :
    Except RequestFailure Json := do
  match (extractBearer request.headers).filter (· ≠ "") with
  | none => throwAuth "missing_token" "Authorization bearer token is required."
  | some token =>
    let keys ← request.jwks
    match oidc with
    | none => throw noOidcConfig
    | some oidc =>
      verifyJwt C
        { keys := keys
          issuer := oidc.issuer
          audience := oidc.audience
          allowedAlgorithms := oidc.allowedAlgorithms
          now := request.now
          clockToleranceSec := clockTolerance oidc.clockToleranceSec } token

/-- The subject of the claims, trimmed.
SOURCE: apps/api/src/auth/principal.js:66-69 -/
def subjectOf (claims : Json) : Except RequestFailure String :=
  let subject :=
    match claims.member? "sub" with
    | some (.string sub) => trim sub
    | _ => ""
  if subject = "" then
    throwAuth "missing_subject" "Token is missing the OIDC subject claim (sub)."
  else .ok subject

/-- The principal of a canonical authorization.
SOURCE: apps/api/src/auth/principal.js:80-102 -/
def principalOf : OidcAuthorization → Except RequestFailure RequestPrincipal
  | .ambiguous =>
    throwAuth "identity_ambiguous" "OIDC identity resolved to multiple authorization records."
  | .notFound =>
    throwAuth "identity_not_provisioned"
      "OIDC identity is not active in the canonical repository."
  | .active userId tenantId organizationRole =>
    if userId = "" ∨ tenantId = "" ∨ organizationRole ∉ paidClientRoles then
      throwAuth "identity_invalid"
        "OIDC identity has an invalid canonical authorization assignment."
    else .ok {
      userId := some userId
      tenantId := some tenantId
      organizationRole := some organizationRole
      projectRole := none
      authenticated := true
      staged := false }

/-- The principal verified claims stand for; only the Postgres repository resolves authorizations.
SOURCE: apps/api/src/auth/principal.js:66-102 -/
def canonicalPrincipal (oidc : Option OidcConfig) (repository : Option IdentityRepository)
    (claims : Json) : Except RequestFailure RequestPrincipal := do
  let subject ← subjectOf claims
  match repository with
  | none =>
    throwAuth "config_error" "OIDC mode requires canonical PostgreSQL identity resolution."
  | some repository =>
    let issuer := (oidc.bind OidcConfig.issuer).getD ""
    let authorization ← repository.resolveOidcAuthorization issuer subject
    principalOf authorization

/-- `resolveOidcPrincipal`
SOURCE: apps/api/src/auth/principal.js:42-103 -/
def resolveOidcPrincipal (C : TokenCrypto) (oidc : Option OidcConfig)
    (repository : Option IdentityRepository) (request : PrincipalRequest) :
    Except RequestFailure RequestPrincipal := do
  let claims ← verifiedClaims C oidc request
  canonicalPrincipal oidc repository claims

/-- `resolvePrincipal`
SOURCE: apps/api/src/auth/principal.js:106-118 -/
def resolvePrincipal (C : TokenCrypto) (config : AuthConfig)
    (repository : Option IdentityRepository) (request : PrincipalRequest) :
    Except RequestFailure RequestPrincipal :=
  match config.mode with
  | .oidc => resolveOidcPrincipal C config.oidc repository request
  | .staged =>
    .ok (resolveStagedPrincipal request.headers
      (if request.allowQueryAuth then request.searchParams else none))

end Xygo.Model
