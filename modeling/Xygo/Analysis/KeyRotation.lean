import Xygo.Model.RemoteJwks
import Xygo.Analysis.TokenSubjects

/-!
# Tokens of rotated keys

A token signed by a key the issuer publishes is accepted when the keys are fetched. When they are
those kept, it is accepted exactly if the kept set has a key of its id under which it verifies too
(`rotated_keys_accepted_iff`): a token of a key published since the last fetch is refused until
the kept keys are ten minutes old.
-/

set_option autoImplicit false

namespace Xygo.Analysis

open Xygo.Computation Xygo.Model

/-- What a token of the configuration is verified against. -/
def verificationSettings (oidc : OidcConfig) (keys : List Json) (now : Int) : JwtSettings where
  keys := .array keys
  issuer := oidc.issuer
  audience := oidc.audience
  allowedAlgorithms := oidc.allowedAlgorithms
  now := now
  clockToleranceSec := clockTolerance oidc.clockToleranceSec

/-- A request with a genuine token of one of the keys, in its time and of an active identity. -/
structure Entitled (C : TokenCrypto) (oidc : OidcConfig) (repository : IdentityRepository)
    (keys : List Json) (request : PrincipalRequest) (token : String) (t : TokenParts)
    (principal : RequestPrincipal) : Prop where
  bears : (extractBearer request.headers).filter (· ≠ "") = some token
  genuine : Genuine C (verificationSettings oidc keys request.now) token t
  window : InWindow (clockTolerance oidc.clockToleranceSec) t.payload (wholeSecond request.now)
  identity : canonicalPrincipal (some oidc) (some repository) t.payload = .ok principal

/-- One key of a set has the id of a token, fits its algorithm and verifies its signature. -/
def SignedUnder (C : TokenCrypto) (keys : List Json) (t : TokenParts) : Prop :=
  ∃ jwk, keys.filter (fun key => memberIs (key.member? "kid") t.kid) = [jwk] ∧
    VerifyingKey C t.alg jwk ∧
    C.verify t.hashAlg (t.headerB64 ++ "." ++ t.payloadB64) jwk t.signatureB64 = some true

/-- The principal of a request that bears a token. -/
theorem resolveWith_ok_iff {C : TokenCrypto} {oidc : OidcConfig} {repository : IdentityRepository}
    {request : PrincipalRequest} {keys : List Json} {token : String} {principal : RequestPrincipal}
    (htoken : (extractBearer request.headers).filter (· ≠ "") = some token) :
    resolveWith C oidc repository request (.ok keys) = .ok principal ↔
      ∃ claims, verifyJwt C (verificationSettings oidc keys request.now) token = .ok claims ∧
        canonicalPrincipal (some oidc) (some repository) claims = .ok principal := by
  have hclaims : verifiedClaims C (some oidc) { request with jwks := .ok (.array keys) } =
      verifyJwt C (verificationSettings oidc keys request.now) token := by
    unfold verifiedClaims
    rw [htoken]
    rfl
  show resolveOidcPrincipal C (some oidc) (some repository)
    { request with jwks := .ok (.array keys) } = .ok principal ↔ _
  unfold resolveOidcPrincipal
  rw [hclaims, bind_eq_ok]

/-- What a genuine token is made of does not depend on the keys. -/
structure SameParts (t u : TokenParts) : Prop where
  headerB64 : t.headerB64 = u.headerB64
  payloadB64 : t.payloadB64 = u.payloadB64
  signatureB64 : t.signatureB64 = u.signatureB64
  payload : t.payload = u.payload
  alg : t.alg = u.alg
  hashAlg : t.hashAlg = u.hashAlg
  kid : t.kid = u.kid

theorem Genuine.sameParts {C : TokenCrypto} {settings others : JwtSettings} {token : String}
    {t u : TokenParts} (ht : Genuine C settings token t) (hu : Genuine C others token u) :
    SameParts t u := by
  have hsegments := ht.segments.symm.trans hu.segments
  simp only [List.cons.injEq, and_true] at hsegments
  obtain ⟨hheader, hpayload, hsignature⟩ := hsegments
  have hdecoded : t.header = u.header :=
    Option.some.inj (ht.header.1.symm.trans (hheader ▸ hu.header.1))
  have halg : t.alg = u.alg := Json.string.inj
    (Option.some.inj (ht.names.algorithm.symm.trans (hdecoded ▸ hu.names.algorithm)))
  exact
    { headerB64 := hheader
      payloadB64 := hpayload
      signatureB64 := hsignature
      payload := Option.some.inj (ht.payload.1.symm.trans (hpayload ▸ hu.payload.1))
      alg := halg
      hashAlg := Option.some.inj (ht.names.supported.symm.trans (halg ▸ hu.names.supported))
      kid := Json.string.inj
        (Option.some.inj (ht.names.keyId.symm.trans (hdecoded ▸ hu.names.keyId))) }

/-- A genuine token of one key set is genuine for another it is signed under. -/
theorem Genuine.under {C : TokenCrypto} {oidc : OidcConfig} {keys others : List Json} {now : Int}
    {token : String} {t : TokenParts} {jwk : Json}
    (h : Genuine C (verificationSettings oidc keys now) token t)
    (honly : others.filter (fun key => memberIs (key.member? "kid") t.kid) = [jwk])
    (hkey : VerifyingKey C t.alg jwk)
    (hsignature : C.verify t.hashAlg (t.headerB64 ++ "." ++ t.payloadB64) jwk t.signatureB64 =
      some true) :
    Genuine C (verificationSettings oidc others now) token
      { t with keys := others, jwk := jwk } := by
  obtain ⟨hsegments, ⟨hissuer, haudience, -, halgorithms, htolerance⟩, hheader, hpayload,
    ⟨halg, hsupported, hallowed, hkid, hblank⟩, -, -, -, hclaims⟩ := h
  exact ⟨hsegments, ⟨hissuer, haudience, rfl, halgorithms, htolerance⟩, hheader, hpayload,
    ⟨halg, hsupported, hallowed, hkid, hblank⟩, honly, hkey, hsignature, hclaims⟩

/-- **With which keys a request is accepted**: one entitled under some keys is accepted under
others exactly when its token is signed under these as well. -/
theorem accepted_iff_signed {C : TokenCrypto} {oidc : OidcConfig}
    {repository : IdentityRepository} {published keys : List Json} {request : PrincipalRequest}
    {token : String} {t : TokenParts} {principal : RequestPrincipal}
    (h : Entitled C oidc repository published request token t principal) :
    resolveWith C oidc repository request (.ok keys) = .ok principal ↔ SignedUnder C keys t := by
  rw [resolveWith_ok_iff h.bears]
  constructor
  · rintro ⟨claims, hverified, -⟩
    obtain ⟨u, hu, -, -⟩ := verifyJwt_eq_ok_iff.mp hverified
    have hsame := h.genuine.sameParts hu
    have hkeys : u.keys = keys := Json.array.inj hu.usable.keys.symm
    refine ⟨u.jwk, ?_, ?_, ?_⟩
    · rw [hsame.kid, ← hkeys]
      exact hu.onlyKey
    · rw [hsame.alg]
      exact hu.key
    · rw [hsame.hashAlg, hsame.headerB64, hsame.payloadB64, hsame.signatureB64]
      exact hu.signature
  · rintro ⟨jwk, honly, hkey, hsignature⟩
    refine ⟨t.payload, verifyJwt_eq_ok_iff.mpr ?_, h.identity⟩
    exact ⟨_, h.genuine.under honly hkey hsignature, rfl, h.window⟩

/-- A request is accepted under the keys it is entitled under. -/
theorem Entitled.signedUnder {C : TokenCrypto} {oidc : OidcConfig}
    {repository : IdentityRepository} {published : List Json} {request : PrincipalRequest}
    {token : String} {t : TokenParts} {principal : RequestPrincipal}
    (h : Entitled C oidc repository published request token t principal) :
    SignedUnder C published t := by
  have hkeys : t.keys = published := Json.array.inj h.genuine.usable.keys.symm
  exact ⟨t.jwk, hkeys ▸ h.genuine.onlyKey, h.genuine.key, h.genuine.signature⟩

/-! ### The calls -/

/-- Whether a call that settles a request, while the endpoint is reachable, accepts it if it is
entitled under the keys published at the time. -/
def AcceptsEntitled (C : TokenCrypto) (oidc : OidcConfig) (s : JwksState) : JwksEvent → Prop
  | .publish _ => True
  | .arrive repository request =>
    s.cache.fresh request.now false ≠ none → ∀ token t principal,
      Entitled C oidc repository (bodyKeys s.published) request token t principal →
      ((remoteJwks C oidc).call (.arrive repository request) s).1 = some (.ok principal)
  | .answer repository index other =>
    other = none → ∀ request token t principal, s.waiting[index]? = some request →
      Entitled C oidc repository (bodyKeys s.published) request token t principal →
      ((remoteJwks C oidc).call (.answer repository index other) s).1 = some (.ok principal)

/-- Whether the kept keys, where they answer a request entitled under the published ones, include
a key its token is signed under. -/
def KeptSigns (C : TokenCrypto) (oidc : OidcConfig) (s : JwksState) : JwksEvent → Prop
  | .arrive repository request =>
    ∀ keys token t principal, s.cache.fresh request.now false = some keys →
      Entitled C oidc repository (bodyKeys s.published) request token t principal →
      SignedUnder C keys t
  | _ => True

/-- A set with a key is a set that is fetched. -/
theorem refresh_published {cache : JwksCache} {now : Int} {document : Json}
    (h : bodyKeys document ≠ []) :
    (cache.refresh now (.body document)).1 = .ok (bodyKeys document) := by
  unfold JwksCache.refresh
  dsimp only
  split
  · exact absurd ‹_› h
  · rfl

/-- A request the endpoint answers is accepted. -/
theorem acceptsEntitled_answer (C : TokenCrypto) (oidc : OidcConfig) (s : JwksState)
    (repository : IdentityRepository) (index : Nat) (other : Option JwksResponse) :
    AcceptsEntitled C oidc s (.answer repository index other) := by
  rintro rfl request token t principal hwaiting hentitled
  have hsigned := hentitled.signedUnder
  have hnonempty : bodyKeys s.published ≠ [] := by
    intro hempty
    obtain ⟨jwk, honly, -, -⟩ := hsigned
    rw [hempty] at honly
    cases honly
  have haccepted := (accepted_iff_signed hentitled).mpr hsigned
  show ((remoteJwks C oidc).call (.answer repository index none) s).1 = _
  unfold remoteJwks
  dsimp only
  rw [hwaiting]
  dsimp only [Option.getD_none]
  rw [refresh_published hnonempty, haccepted]

/-- A request the kept keys answer is accepted exactly when its token is signed under them. -/
theorem acceptsEntitled_arrive_iff (C : TokenCrypto) (oidc : OidcConfig) (s : JwksState)
    (repository : IdentityRepository) (request : PrincipalRequest) :
    AcceptsEntitled C oidc s (.arrive repository request) ↔
      KeptSigns C oidc s (.arrive repository request) := by
  have hcall : ∀ keys token, s.cache.fresh request.now false = some keys →
      (extractBearer request.headers).filter (· ≠ "") = some token →
      ((remoteJwks C oidc).call (.arrive repository request) s).1 =
        some (resolveWith C oidc repository request (.ok keys)) := by
    intro keys token hfresh htoken
    unfold remoteJwks
    dsimp only
    rw [htoken]
    dsimp only
    rw [hfresh]
  constructor
  · intro h keys token t principal hfresh hentitled
    have haccepted := h (by rw [hfresh]; simp) token t principal hentitled
    rw [hcall keys token hfresh hentitled.bears] at haccepted
    exact (accepted_iff_signed hentitled).mp (Option.some.inj haccepted)
  · intro h hfresh token t principal hentitled
    obtain ⟨keys, hkeys⟩ := Option.ne_none_iff_exists'.mp hfresh
    rw [hcall keys token hkeys hentitled.bears,
      (accepted_iff_signed hentitled).mpr (h keys token t principal hkeys hentitled)]

theorem acceptsEntitled_iff (C : TokenCrypto) (oidc : OidcConfig) (s : JwksState) (event : JwksEvent) :
    AcceptsEntitled C oidc s event ↔ KeptSigns C oidc s event := by
  cases event with
  | publish document => exact Iff.rfl
  | arrive repository request => exact acceptsEntitled_arrive_iff C oidc s repository request
  | answer repository index other =>
    exact iff_of_true (acceptsEntitled_answer C oidc s repository index other) trivial

/-- **Rotated keys.** In a run of an issuer and an API, every request entitled under the keys
published at the time is accepted, exactly when every such request that the kept keys answer is
signed under the kept keys. -/
theorem rotated_keys_accepted_iff (C : TokenCrypto) (oidc : OidcConfig) (s : JwksState)
    (events : List JwksEvent) :
    (remoteJwks C oidc).Meets (AcceptsEntitled C oidc) s events ↔
      (remoteJwks C oidc).Meets (KeptSigns C oidc) s events := by
  constructor
  · exact (remoteJwks C oidc).meets_mono fun s event => (acceptsEntitled_iff C oidc s event).mp
  · exact (remoteJwks C oidc).meets_mono fun s event => (acceptsEntitled_iff C oidc s event).mpr

/-! ### A token of a new key -/

set_option maxRecDepth 4000 in
theorem secondHeader_isSegment : IsSegment secondHeader := by
  simp [IsSegment, secondHeader, isWhitespace]

set_option maxRecDepth 4000 in
/-- The token the second key has signed. -/
theorem rotated_sample : SampleToken .rotated "k2" "u1" where
  header := secondHeader_isSegment
  payload := plainPayload_isSegment
  signature := by simp [IsSegment, SignedToken.rotated, isWhitespace]
  decodedHeader := rfl
  decodedPayload := rfl
  key := ⟨_, rfl⟩
  signed := .tail _ (.tail _ (.head _))

/-- A request with that token. -/
def rotatedRequest : PrincipalRequest := signedRequest SignedToken.rotated.text []

theorem rotatedRequest_bears :
    (extractBearer rotatedRequest.headers).filter (· ≠ "") = some SignedToken.rotated.text := by
  have hbearer : extractBearer rotatedRequest.headers = some SignedToken.rotated.text :=
    extractBearer_visible rfl rotated_sample.visible
  rw [hbearer]
  simp [SignedToken.text]

/-- It is entitled where the second key is published beside the first. -/
theorem rotated_entitled : ∃ t, t.kid = "k2" ∧
    Entitled sampleCrypto sampleOidc boundRepository [firstKey, secondKey] rotatedRequest
      SignedToken.rotated.text t boundPrincipal := by
  have hverified : verifyJwt sampleCrypto (sampleSettings [firstKey, secondKey])
      SignedToken.rotated.text = .ok (claimsOf "u1") :=
    rotated_sample.verifyJwt (by decide +kernel) rfl (by decide +kernel)
  obtain ⟨t, ht, hpayload, hwindow⟩ := verifyJwt_eq_ok_iff.mp hverified
  have hsegments := ht.segments.symm.trans (splitText_segments rotated_sample.header
    rotated_sample.payload rotated_sample.signature)
  have hheader : t.header = headerOf "k2" := by
    have hdecoded := ht.header.1
    rw [(List.cons.inj hsegments).1] at hdecoded
    exact (Option.some.inj hdecoded).symm
  have hkid : t.kid = "k2" := by
    have hnamed := ht.names.keyId
    rw [hheader] at hnamed
    exact (Json.string.inj (Option.some.inj hnamed)).symm
  refine ⟨t, hkid, rotatedRequest_bears, ht, ?_, ?_⟩
  · rw [hpayload]
    exact hwindow
  · rw [hpayload]
    decide +kernel

/-- The document of a key set. -/
def keyDocument (keys : List Json) : Json := .object [("keys", .array keys)]

/-- The first key is fetched for a request; the second is published; a token it has signed comes. -/
def rotation : List JwksEvent :=
  [.publish (keyDocument [firstKey]), .arrive boundRepository (signedRequest "x" []),
    .answer boundRepository 0 none, .publish (keyDocument [firstKey, secondKey]),
    .arrive boundRepository rotatedRequest]

/-- A token of a key published a moment ago is refused. -/
theorem rotated_key_refused :
    ¬ (remoteJwks sampleCrypto sampleOidc).Meets (AcceptsEntitled sampleCrypto sampleOidc)
      { published := keyDocument [firstKey] } rotation := by
  intro h
  obtain ⟨-, -, -, -, haccepts, -⟩ := h
  rw [acceptsEntitled_iff] at haccepts
  obtain ⟨t, hkid, hentitled⟩ := rotated_entitled
  obtain ⟨jwk, honly, -, -⟩ := haccepts [firstKey] _ t boundPrincipal rfl hentitled
  rw [hkid] at honly
  cases honly

end Xygo.Analysis
