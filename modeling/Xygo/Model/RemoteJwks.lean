import Xygo.Model.Principals
import Xygo.Computation.Machine

/-!
# The remote key set of an issuer

`createRemoteJwks` in `apps/api/src/auth/jwks.js`: the keys of the issuer's endpoint, fetched and
kept for ten minutes, and the requests whose principals are resolved with them. A request waits for
the endpoint where the kept keys are too old; meanwhile the issuer may publish other keys, and other
requests may be made.
-/

set_option autoImplicit false

namespace Xygo.Model

open Xygo.Computation

/-- What comes of a call of the endpoint. -/
inductive JwksResponse
  | unreachable (message : String)
  | failed (status : Nat)
  | notJson
  | body (value : Json)

/-- The keys kept, and the time of the request they were fetched for. -/
structure JwksCache where
  keys : Option (List Json) := none
  fetchedAt : Int := 0

/-- `Array.isArray(body?.keys) ? body.keys : []` -/
def bodyKeys (body : Json) : List Json :=
  match body.member? "keys" with
  | some (.array keys) => keys
  | _ => []

/-- `cacheTtlMs` -/
def cacheTtlMs : Int := 10 * 60 * 1000

/-- The keys that are kept and young enough.
SOURCE: apps/api/src/auth/jwks.js:51-53 -/
def JwksCache.fresh (cache : JwksCache) (now : Int) (forceRefresh : Bool) :
    Option (List Json) :=
  cache.keys.filter fun _ => !forceRefresh && now - cache.fetchedAt < cacheTtlMs

/-- `refresh`: the keys of a response, and the cache it leaves.
SOURCE: apps/api/src/auth/jwks.js:22-47 -/
def JwksCache.refresh (cache : JwksCache) (now : Int) :
    JwksResponse → Except RequestFailure (List Json) × JwksCache
  | .unreachable message =>
    (throwAuth "jwks_unavailable" ("Could not reach JWKS endpoint: " ++ message), cache)
  | .failed status =>
    (throwAuth "jwks_unavailable" ("JWKS endpoint returned " ++ toString status ++ "."), cache)
  | .notJson => (throwAuth "jwks_invalid" "JWKS endpoint did not return valid JSON.", cache)
  | .body value =>
    match bodyKeys value with
    | [] => (throwAuth "jwks_empty" "JWKS endpoint returned no keys.", cache)
    | keys => (.ok keys, { keys := some keys, fetchedAt := now })

/-- An issuer and an API that resolves principals with its keys. -/
structure JwksState where
  published : Json
  cache : JwksCache := {}
  waiting : List PrincipalRequest := []

/-- What happens: the issuer publishes a key set; a request arrives; the endpoint answers the call
of a waiting request, with what is published at the time or with another response. -/
inductive JwksEvent
  | publish (document : Json)
  | arrive (repository : IdentityRepository) (request : PrincipalRequest)
  | answer (repository : IdentityRepository) (index : Nat) (other : Option JwksResponse)

/-- The principal of a request, with the keys it is given. -/
def resolveWith (C : TokenCrypto) (oidc : OidcConfig) (repository : IdentityRepository)
    (request : PrincipalRequest) (keys : Except RequestFailure (List Json)) :
    Except RequestFailure RequestPrincipal :=
  resolveOidcPrincipal C (some oidc) (some repository) { request with jwks := .array <$> keys }

/-- `resolveOidcPrincipal` with the remote keys: a request without a token fails before it asks for
keys, one that finds young keys is resolved with these, and any other waits for the endpoint.
SOURCE: apps/api/src/auth/principal.js:51-64, apps/api/src/auth/jwks.js:49-55 -/
def remoteJwks (C : TokenCrypto) (oidc : OidcConfig) :
    Object JwksState JwksEvent (Option (Except RequestFailure RequestPrincipal)) where
  call
    | .publish document, s => (none, { s with published := document })
    | .arrive repository request, s =>
      match (extractBearer request.headers).filter (· ≠ "") with
      | none =>
        (some (throwAuth "missing_token" "Authorization bearer token is required."), s)
      | some _ =>
        match s.cache.fresh request.now false with
        | some keys => (some (resolveWith C oidc repository request (.ok keys)), s)
        | none => (none, { s with waiting := s.waiting ++ [request] })
    | .answer repository index other, s =>
      match s.waiting[index]? with
      | none => (none, s)
      | some request =>
        let response := other.getD (.body s.published)
        let (keys, cache) := s.cache.refresh request.now response
        (some (resolveWith C oidc repository request keys),
          { s with cache := cache, waiting := s.waiting.eraseIdx index })

end Xygo.Model
