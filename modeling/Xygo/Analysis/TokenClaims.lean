import Xygo.Model.RequestListener

/-!
# What a token and a header decide

In OIDC mode the principal of a request is a function of the subject its verified token carries and
of the repository (`resolvePrincipal_of_subject`): no other claim, no header and no parameter of the
query takes part. A request without a principal gets its answer from its method and its path alone
(`handleApiRequest_without_principal`), 401 wherever its path names a tenant.
-/

set_option autoImplicit false

namespace Xygo.Analysis

open Xygo.Computation Xygo.Model

/-! ### Two requests with one subject -/

/-- A token that passes every check verifies. -/
theorem verifyJwt_of_checks {C : TokenCrypto} {settings : JwtSettings}
    {token headerB64 payloadB64 signatureB64 issuer audience kid : String} {keys : List Json}
    {header payload jwk : Json} {hashAlg : HashAlgorithm}
    (hsplit : splitText (· = '.') token = [headerB64, payloadB64, signatureB64])
    (hsettings : checkSettings settings = .ok (issuer, audience, keys))
    (hheader : decodeSegment C headerB64 "header" = .ok header)
    (hpayload : decodeSegment C payloadB64 "payload" = .ok payload)
    (hread : readHeader settings header = .ok (hashAlg, kid))
    (hkey : selectKey C keys (header.member? "alg") kid = .ok jwk)
    (hsignature :
      checkSignature C hashAlg (headerB64 ++ "." ++ payloadB64) jwk signatureB64 = .ok ())
    (hclaims : checkClaims settings issuer audience payload = .ok ()) :
    verifyJwt C settings token = .ok payload := by
  unfold verifyJwt
  rw [hsplit]
  dsimp only
  rw [hsettings]
  refine bind_eq_ok.mpr ⟨_, rfl, ?_⟩
  refine bind_eq_ok.mpr ⟨header, hheader, ?_⟩
  refine bind_eq_ok.mpr ⟨payload, hpayload, ?_⟩
  refine bind_eq_ok.mpr ⟨(hashAlg, kid), hread, ?_⟩
  refine bind_eq_ok.mpr ⟨jwk, hkey, ?_⟩
  refine bind_eq_ok.mpr ⟨(), hsignature, ?_⟩
  exact bind_eq_ok.mpr ⟨(), hclaims, rfl⟩

/-- The subject is read from one claim. -/
theorem subjectOf_congr {claims others : Json} (h : claims.member? "sub" = others.member? "sub") :
    subjectOf claims = subjectOf others := by
  unfold subjectOf
  rw [h]

/-- Verified claims stand for the principal of their subject. -/
theorem canonicalPrincipal_congr (oidc : Option OidcConfig)
    (repository : Option IdentityRepository) {claims others : Json}
    (h : claims.member? "sub" = others.member? "sub") :
    canonicalPrincipal oidc repository claims = canonicalPrincipal oidc repository others := by
  unfold canonicalPrincipal
  rw [subjectOf_congr h]

/-- In OIDC mode a request whose token verifies is resolved from its claims. -/
theorem resolvePrincipal_of_verified {C : TokenCrypto} {config : AuthConfig}
    {repository : Option IdentityRepository} {request : PrincipalRequest} {claims : Json}
    (hmode : config.mode = .oidc) (hclaims : verifiedClaims C config.oidc request = .ok claims) :
    resolvePrincipal C config repository request =
      canonicalPrincipal config.oidc repository claims := by
  unfold resolvePrincipal
  rw [hmode]
  show resolveOidcPrincipal C config.oidc repository request = _
  unfold resolveOidcPrincipal
  rw [hclaims]
  rfl

/-- Two verified tokens with one subject stand for one principal, or fail alike. -/
theorem resolvePrincipal_of_subject {C : TokenCrypto} {config : AuthConfig}
    {repository : Option IdentityRepository} {first second : PrincipalRequest}
    {claims others : Json} (hmode : config.mode = .oidc)
    (hfirst : verifiedClaims C config.oidc first = .ok claims)
    (hsecond : verifiedClaims C config.oidc second = .ok others)
    (hsub : claims.member? "sub" = others.member? "sub") :
    resolvePrincipal C config repository first = resolvePrincipal C config repository second := by
  calc resolvePrincipal C config repository first
      = canonicalPrincipal config.oidc repository claims :=
        resolvePrincipal_of_verified hmode hfirst
    _ = canonicalPrincipal config.oidc repository others :=
        canonicalPrincipal_congr config.oidc repository hsub
    _ = resolvePrincipal C config repository second :=
        (resolvePrincipal_of_verified hmode hsecond).symm

/-! ### Requests without a principal -/

/-- Whether a path names a tenant. -/
def namesTenant (pathname : String) : Bool :=
  match splitPath pathname with
  | "v1" :: "tenants" :: _ :: _ => true
  | _ => false

/-- The answer to a request nobody is known to make. -/
def authenticationRequired : ApiResult :=
  jsonResult 401 (errorBody "unauthorized" "Authentication required.")

/-- A request of OIDC mode for which no principal was resolved. -/
structure Unidentified (request : ApiRequest) : Prop where
  mode : request.authConfig.mode = .oidc
  principal : request.principal = none

/-- No header makes a principal of one. -/
theorem Unidentified.effectivePrincipal {request : ApiRequest} (h : Unidentified request) :
    request.effectivePrincipal = none := by
  unfold ApiRequest.effectivePrincipal
  rw [h.principal, if_pos h.mode]
  rfl

/-- What is answered at a parsed target without a principal. -/
def targetAnswer (url : Url) : ApiResult :=
  if url.pathname = "/health" then jsonResult 200 healthBody
  else if namesTenant url.pathname then authenticationRequired
  else jsonResult 404 (errorBody "not_found" "Not found.")

/-- The answer to a request without a principal, by its method and its path. -/
def unidentifiedAnswer (newUrl : UrlConstructor) (method path : String) :
    Except RouteFailure ApiResult :=
  if method ∉ enabledMethods then
    .ok (jsonResult 405 (errorBody "method_not_allowed" "HTTP method is not enabled."))
  else
    match newUrl path "http://internal" with
    | none => .error (.other (newError "Invalid URL"))
    | some url => .ok (targetAnswer url)

theorem namesTenant_iff {pathname : String} : namesTenant pathname = true ↔
    ∃ tenantId rest, splitPath pathname = "v1" :: "tenants" :: tenantId :: rest := by
  unfold namesTenant
  split <;> simp_all

/-- The routes are not reached without a principal. -/
theorem routeApiRequest_without_principal {newUrl : UrlConstructor} {routes : Routes}
    {request : ApiRequest} (h : Unidentified request) :
    request.routeApiRequest newUrl routes =
      unidentifiedAnswer newUrl request.method request.path := by
  unfold ApiRequest.routeApiRequest unidentifiedAnswer
  rw [h.effectivePrincipal]
  by_cases hmethod : request.method ∉ enabledMethods
  · rw [if_pos hmethod, if_pos hmethod]
  · rw [if_neg hmethod, if_neg hmethod]
    cases newUrl request.path "http://internal" with
    | none => rfl
    | some url =>
      dsimp only
      unfold targetAnswer
      by_cases hhealth : url.pathname = "/health"
      · rw [if_pos hhealth, if_pos hhealth]
      · rw [if_neg hhealth, if_neg hhealth]
        split
        · rename_i tenantId rest hparts
          rw [if_pos (namesTenant_iff.mpr ⟨tenantId, rest, hparts⟩)]
          rfl
        · rename_i hparts
          rw [if_neg]
          intro hnames
          obtain ⟨tenantId, rest, heq⟩ := namesTenant_iff.mp hnames
          exact hparts tenantId rest heq

/-- `/health` names no tenant. -/
theorem namesTenant_health : namesTenant "/health" = false := by decide +kernel

/-- A target that names a tenant asks for a principal. -/
theorem targetAnswer_of_tenant {url : Url} (h : namesTenant url.pathname = true) :
    targetAnswer url = authenticationRequired := by
  unfold targetAnswer
  have hhealth : url.pathname ≠ "/health" := by
    intro heq
    rw [heq, namesTenant_health] at h
    cases h
  rw [if_neg hhealth, if_pos h]

/-- Two requests without a principal that agree in method and path are answered alike. -/
theorem handleApiRequest_without_principal {newUrl : UrlConstructor} {routes others : Routes}
    {first second : ApiRequest} (hfirst : Unidentified first) (hsecond : Unidentified second)
    (hmethod : first.method = second.method) (hpath : first.path = second.path) :
    first.handleApiRequest newUrl routes = second.handleApiRequest newUrl others := by
  unfold ApiRequest.handleApiRequest
  rw [routeApiRequest_without_principal hfirst, routeApiRequest_without_principal hsecond, hmethod,
    hpath]

/-- A request without a principal whose path names a tenant is refused. -/
theorem handleApiRequest_unauthorized {newUrl : UrlConstructor} {routes : Routes}
    {request : ApiRequest} {url : Url} (h : Unidentified request)
    (hmethod : request.method ∈ enabledMethods)
    (hurl : newUrl request.path "http://internal" = some url)
    (htenant : namesTenant url.pathname = true) :
    request.handleApiRequest newUrl routes = authenticationRequired := by
  have hroute : request.routeApiRequest newUrl routes = .ok (targetAnswer url) := by
    rw [routeApiRequest_without_principal h]
    unfold unidentifiedAnswer
    rw [if_neg (not_not.mpr hmethod), hurl]
  unfold ApiRequest.handleApiRequest
  rw [hroute, targetAnswer_of_tenant htenant]
  rfl

/-- **Identity comes from the subject alone.** In OIDC mode two requests whose tokens verify and
carry one subject have one principal, or one error, at one state of the repository, whatever else
they carry. A request with no resolved principal is answered 401 where its method is enabled and
its path names a tenant, and wherever its answer does not depend on its headers or its body. -/
theorem identity_from_subject (C : TokenCrypto) (config : AuthConfig)
    (repository : Option IdentityRepository) (newUrl : UrlConstructor)
    (hmode : config.mode = .oidc) :
    (∀ first second claims others, verifiedClaims C config.oidc first = .ok claims →
      verifiedClaims C config.oidc second = .ok others →
      claims.member? "sub" = others.member? "sub" →
      resolvePrincipal C config repository first = resolvePrincipal C config repository second) ∧
    (∀ (routes : Routes) (request : ApiRequest) (url : Url), request.authConfig = config →
      request.principal = none → request.method ∈ enabledMethods →
      newUrl request.path "http://internal" = some url → namesTenant url.pathname = true →
      request.handleApiRequest newUrl routes = authenticationRequired) ∧
    ∀ (routes others : Routes) (first second : ApiRequest), first.authConfig = config →
      second.authConfig = config → first.principal = none → second.principal = none →
      first.method = second.method → first.path = second.path →
      first.handleApiRequest newUrl routes = second.handleApiRequest newUrl others := by
  refine ⟨?_, ?_, ?_⟩
  · intro first second claims others hfirst hsecond hsub
    exact resolvePrincipal_of_subject hmode hfirst hsecond hsub
  · intro routes request url hconfig hprincipal hmethod hurl htenant
    exact handleApiRequest_unauthorized ⟨hconfig ▸ hmode, hprincipal⟩ hmethod hurl htenant
  · intro routes others first second hfirst hsecond hnone hnone' hmethod hpath
    exact handleApiRequest_without_principal ⟨hfirst ▸ hmode, hnone⟩ ⟨hsecond ▸ hmode, hnone'⟩
      hmethod hpath

/-! ### Two tokens of one subject, and a public path -/

/-- The members of the claims every verified token needs. -/
def commonClaims : List (String × Json) :=
  [("iss", .string "https://idp.example.com"), ("aud", .string "xygo"), ("exp", .number "120"),
    ("sub", .string "auth0|7")]

/-- The same claims, with an organization and roles. -/
def richerClaims : List (String × Json) :=
  commonClaims ++ [("org_id", .string "other-org"), ("roles", .array [.string "xygo_admin"])]

/-- The key of a provider. -/
def letterKey : Json := .object [("kty", .string "RSA"), ("kid", .string "k1")]

/-- A provider whose segments and signatures are single letters. -/
def letterCrypto : TokenCrypto where
  decode segment :=
    if segment = "h" then some (.object [("alg", .string "RS256"), ("kid", .string "k1")])
    else if segment = "p" then some (.object commonClaims)
    else if segment = "q" then some (.object richerClaims)
    else none
  importable _ := true
  verify _ _ _ signature := some (signature = "s")

/-- The configuration of the provider. -/
def letterOidc : OidcConfig where
  provider := some "auth0"
  issuer := some "https://idp.example.com"
  audience := some "xygo"
  jwksUri := some "https://idp.example.com/.well-known/jwks.json"
  jwksUriExplicit := true
  allowedAlgorithms := ["RS256"]
  clockToleranceSec := none

def letterConfig : AuthConfig where
  mode := .oidc
  stagedModeEnabled := false
  productionMode := true
  oidc := some letterOidc

/-- A request with a bearer token, and a staged header. -/
def bearerRequest (token stagedTenant : String) : PrincipalRequest where
  headers name :=
    if name = "authorization" then some ("Bearer " ++ token)
    else if name = "x-staged-tenant-id" then some stagedTenant
    else none
  now := 0
  jwks := .ok (.array [letterKey])

/-- What its token is verified against. -/
def letterSettings : JwtSettings where
  keys := .array [letterKey]
  issuer := some "https://idp.example.com"
  audience := some "xygo"
  allowedAlgorithms := ["RS256"]
  now := 0
  clockToleranceSec := .finite 60

theorem selectKey_letter :
    selectKey letterCrypto [letterKey] (some (.string "RS256")) "k1" = .ok letterKey := by
  simp [selectKey, letterKey, memberIs, Json.member?, List.lookup, Json.isText, isSigningKey,
    Json.hasTruthy, allowsVerify, letterCrypto]

/-- A token of the provider. -/
theorem verified_letter {token segment : String} {claims : Json}
    (hsplit : splitText (· = '.') token = ["h", segment, "s"])
    (hpayload : decodeSegment letterCrypto segment "payload" = .ok claims)
    (hclaims :
      checkClaims letterSettings "https://idp.example.com" "xygo" claims = .ok ()) :
    verifyJwt letterCrypto letterSettings token = .ok claims := by
  have hread : readHeader letterSettings
      (.object [("alg", .string "RS256"), ("kid", .string "k1")]) = .ok (.rsaSha256, "k1") := by
    decide +kernel
  exact verifyJwt_of_checks hsplit rfl rfl hpayload hread selectKey_letter rfl hclaims

/-- The claims of such a request. -/
theorem verifiedClaims_letter {token stagedTenant : String} {claims : Json}
    (htoken : (extractBearer (bearerRequest token stagedTenant).headers).filter (· ≠ "") =
      some token)
    (hclaims : verifyJwt letterCrypto letterSettings token = .ok claims) :
    verifiedClaims letterCrypto letterConfig.oidc (bearerRequest token stagedTenant) =
      .ok claims := by
  unfold verifiedClaims
  rw [htoken]
  exact hclaims

/-- A constructor that takes a path as it is. -/
def plainUrl : UrlConstructor := fun input _ =>
  some { pathname := input, searchParams := fun _ => none }

/-- A request for a path of the API. -/
def unidentifiedGet (path stagedTenant : String) : ApiRequest where
  method := "GET"
  path := path
  headers := (bearerRequest "" stagedTenant).headers
  authConfig := letterConfig

/-- Two tokens that differ in their organization and roles, and requests without a principal. -/
theorem identity_from_subject_letters :
    resolvePrincipal letterCrypto letterConfig none (bearerRequest "h.p.s" "tenant-a") =
        resolvePrincipal letterCrypto letterConfig none (bearerRequest "h.q.s" "tenant-b") ∧
      (unidentifiedGet "/v1/tenants/t/projects" "t").handleApiRequest plainUrl
          (fun _ _ _ _ _ => .error .syntaxError) = authenticationRequired ∧
      (unidentifiedGet "/v1" "t").handleApiRequest plainUrl
          (fun _ _ _ _ _ => .error .syntaxError) =
        (unidentifiedGet "/v1" "other").handleApiRequest plainUrl
          (fun _ _ _ _ _ => .error .syntaxError) := by
  obtain ⟨hsame, hrefused, halike⟩ :=
    identity_from_subject letterCrypto letterConfig none plainUrl rfl
  refine ⟨?_, ?_, ?_⟩
  · have hp : splitText (· = '.') "h.p.s" = ["h", "p", "s"] := by decide +kernel
    have hq : splitText (· = '.') "h.q.s" = ["h", "q", "s"] := by decide +kernel
    have hcommon : verifyJwt letterCrypto letterSettings "h.p.s" = .ok (.object commonClaims) :=
      verified_letter hp rfl (by decide +kernel)
    have hricher : verifyJwt letterCrypto letterSettings "h.q.s" = .ok (.object richerClaims) :=
      verified_letter hq rfl (by decide +kernel)
    exact hsame _ _ _ _ (verifiedClaims_letter (by decide +kernel) hcommon)
      (verifiedClaims_letter (by decide +kernel) hricher) rfl
  · exact hrefused _ _ _ rfl rfl (by decide) rfl (by decide +kernel)
  · exact halike _ _ _ _ rfl rfl rfl rfl rfl rfl

/-- `GET /health` needs no principal. -/
theorem health_needs_no_principal :
    ¬ ∀ request : ApiRequest, request.authConfig.mode = .oidc → request.principal = none →
      (request.handleApiRequest plainUrl fun _ _ _ _ _ => .error .syntaxError).status = 401 := by
  intro h
  have hhealth := h (unidentifiedGet "/health" "t") rfl rfl
  have hstatus : ((unidentifiedGet "/health" "t").handleApiRequest plainUrl
      fun _ _ _ _ _ => .error .syntaxError).status = 200 := by decide +kernel
  omega

end Xygo.Analysis
