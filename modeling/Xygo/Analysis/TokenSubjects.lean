import Xygo.Analysis.TokenVerification

/-!
# The subject of a token and its binding

A principal is resolved through the binding of the token's subject with its surrounding whitespace
removed, the form in which subjects are bound. Where bindings are one-to-one, two tokens stand for
one user exactly when their subjects agree in that form (`subjects_resolve_apart`).
-/

set_option autoImplicit false

namespace Xygo.Analysis

open Xygo.Computation Xygo.Model

/-- Under one issuer a subject has one user, and a user one subject. -/
def OneToOne (identities : List OidcIdentity) : Prop :=
  ∀ i ∈ identities, ∀ j ∈ identities, i.issuer = j.issuer →
    (i.subject = j.subject ↔ i.userId = j.userId)

/-- A request whose token verifies with a subject, and the principal it resolves to. -/
structure Resolves (C : TokenCrypto) (oidc : Option OidcConfig) (repository : IdentityRepository)
    (request : PrincipalRequest) (sub : String) (principal : RequestPrincipal) : Prop where
  verified : ∃ claims, verifiedClaims C oidc request = .ok claims ∧
    claims.member? "sub" = some (.string sub)
  resolved : resolveOidcPrincipal C oidc (some repository) request = .ok principal

/-- A binding of the issuer whose subject is the text, and whose user is the principal's. -/
def BoundTo (repository : IdentityRepository) (oidc : Option OidcConfig) (subject : String)
    (principal : RequestPrincipal) : Prop :=
  ∃ i ∈ repository.tables.oidcIdentities, i.issuer = (oidc.bind OidcConfig.issuer).getD "" ∧
    i.subject = subject ∧ principal.userId = some i.userId ∧ principal.tenantId = some i.tenantId

/-! ### The binding behind a principal -/

theorem subjectOf_ok {claims : Json} {subject : String} (h : subjectOf claims = .ok subject) :
    ∃ sub, claims.member? "sub" = some (.string sub) ∧ trim sub = subject := by
  unfold subjectOf at h
  dsimp only at h
  split at h
  · split at h
    · cases h
    · exact ⟨_, ‹_›, by cases h; rfl⟩
  · rw [if_pos rfl] at h
    cases h

/-- A row of the join comes from a binding of the subject. -/
theorem mem_authorizationRows {tables : AuthorizationTables}
    {issuer subject userId tenantId role : String}
    (h : (userId, tenantId, role) ∈
      IdentityRepository.authorizationRows tables issuer subject) :
    ∃ i ∈ tables.oidcIdentities, i.issuer = issuer ∧ i.subject = subject ∧ userId = i.userId ∧
      tenantId = i.tenantId := by
  unfold IdentityRepository.authorizationRows at h
  simp only [List.bind_eq_flatMap, List.pure_def, List.mem_flatMap, List.mem_filter,
    List.mem_singleton, Prod.mk.injEq, decide_eq_true_eq] at h
  obtain ⟨i, ⟨hi, hissuer, hsubject⟩, -, -, -, -, -, -, huser, htenant, -⟩ := h
  exact ⟨i, hi, hissuer, hsubject, huser, htenant⟩

/-- An active authorization is that of a binding of the subject. -/
theorem resolveOidcAuthorization_active {repository : IdentityRepository}
    {issuer subject userId tenantId role : String}
    (h : repository.resolveOidcAuthorization issuer subject =
      .ok (.active userId tenantId role)) :
    ∃ i ∈ repository.tables.oidcIdentities, i.issuer = issuer ∧ i.subject = subject ∧
      userId = i.userId ∧ tenantId = i.tenantId := by
  unfold IdentityRepository.resolveOidcAuthorization at h
  split at h
  · cases h
  · split at h
    · cases h
    · rename_i hrows
      cases h
      exact mem_authorizationRows (hrows ▸ List.mem_singleton_self _)
    · cases h

/-- A principal comes from an active authorization. -/
theorem principalOf_ok {authorization : OidcAuthorization} {principal : RequestPrincipal}
    (h : principalOf authorization = .ok principal) :
    ∃ userId tenantId role, authorization = .active userId tenantId role ∧
      principal.userId = some userId ∧ principal.tenantId = some tenantId := by
  cases authorization with
  | ambiguous => cases h
  | notFound => cases h
  | active userId tenantId role =>
    dsimp only [principalOf] at h
    split at h
    · cases h
    · cases h
      exact ⟨userId, tenantId, role, rfl, rfl, rfl⟩

/-- Claims stand for the principal their trimmed subject is bound to. -/
theorem canonicalPrincipal_ok {oidc : Option OidcConfig} {repository : IdentityRepository}
    {claims : Json} {principal : RequestPrincipal}
    (h : canonicalPrincipal oidc (some repository) claims = .ok principal) :
    ∃ sub, claims.member? "sub" = some (.string sub) ∧
      BoundTo repository oidc (trim sub) principal := by
  unfold canonicalPrincipal at h
  obtain ⟨subject, hsubject, h⟩ := bind_eq_ok.mp h
  obtain ⟨authorization, hauthorization, h⟩ := bind_eq_ok.mp h
  obtain ⟨userId, tenantId, role, rfl, huser, htenant⟩ := principalOf_ok h
  obtain ⟨i, hi, hissuer, hbound, rfl, rfl⟩ := resolveOidcAuthorization_active hauthorization
  obtain ⟨sub, hsub, rfl⟩ := subjectOf_ok hsubject
  exact ⟨sub, hsub, i, hi, hissuer, hbound, huser, htenant⟩

/-- What a request resolves to is the principal of its verified claims. -/
theorem resolveOidcPrincipal_ok {C : TokenCrypto} {oidc : Option OidcConfig}
    {repository : Option IdentityRepository} {request : PrincipalRequest}
    {principal : RequestPrincipal}
    (h : resolveOidcPrincipal C oidc repository request = .ok principal) :
    ∃ claims, verifiedClaims C oidc request = .ok claims ∧
      canonicalPrincipal oidc repository claims = .ok principal :=
  bind_eq_ok.mp h

/-- Every principal is that of a subject. -/
theorem exists_resolves {C : TokenCrypto} {oidc : Option OidcConfig}
    {repository : IdentityRepository} {request : PrincipalRequest} {principal : RequestPrincipal}
    (h : resolveOidcPrincipal C oidc (some repository) request = .ok principal) :
    ∃ sub, Resolves C oidc repository request sub principal := by
  obtain ⟨claims, hclaims, hprincipal⟩ := resolveOidcPrincipal_ok h
  obtain ⟨sub, hsub, -⟩ := canonicalPrincipal_ok hprincipal
  exact ⟨sub, ⟨claims, hclaims, hsub⟩, h⟩

section Resolves

variable {C : TokenCrypto} {oidc : Option OidcConfig} {repository : IdentityRepository}
  {first second : PrincipalRequest} {sub other : String} {p q : RequestPrincipal}

theorem Resolves.canonicalPrincipal (h : Resolves C oidc repository first sub p) :
    ∃ claims, claims.member? "sub" = some (.string sub) ∧
      canonicalPrincipal oidc (some repository) claims = .ok p := by
  obtain ⟨⟨claims, hclaims, hsub⟩, hresolved⟩ := h
  obtain ⟨verified, hverified, hprincipal⟩ := resolveOidcPrincipal_ok hresolved
  have hsame : claims = verified := Except.ok.inj (hclaims.symm.trans hverified)
  exact ⟨claims, hsub, hsame ▸ hprincipal⟩

/-- The identity looked up is the binding of the trimmed subject. -/
theorem Resolves.boundTo (h : Resolves C oidc repository first sub p) :
    BoundTo repository oidc (trim sub) p := by
  obtain ⟨claims, hsub, hprincipal⟩ := h.canonicalPrincipal
  obtain ⟨found, hfound, hbound⟩ := canonicalPrincipal_ok hprincipal
  have hsame : sub = found := Json.string.inj (Option.some.inj (hsub.symm.trans hfound))
  exact hsame ▸ hbound

/-- Subjects that agree when trimmed stand for one principal. -/
theorem Resolves.eq_of_trim (hp : Resolves C oidc repository first sub p)
    (hq : Resolves C oidc repository second other q) (h : trim sub = trim other) : p = q := by
  obtain ⟨claims, hsub, hclaims⟩ := hp.canonicalPrincipal
  obtain ⟨others, hother, hothers⟩ := hq.canonicalPrincipal
  have hsame : subjectOf claims = subjectOf others := by
    unfold subjectOf
    rw [hsub, hother]
    dsimp only
    rw [h]
  unfold Model.canonicalPrincipal at hclaims hothers
  rw [hsame] at hclaims
  exact Except.ok.inj (hclaims.symm.trans hothers)

/-- Where bindings are one-to-one, subjects that differ when trimmed stand for two users. -/
theorem Resolves.trim_of_user (hone : OneToOne repository.tables.oidcIdentities)
    (hp : Resolves C oidc repository first sub p) (hq : Resolves C oidc repository second other q)
    (h : p.userId = q.userId) : trim sub = trim other := by
  obtain ⟨i, hi, hissuer, hsubject, huser, -⟩ := hp.boundTo
  obtain ⟨j, hj, hissuer', hsubject', huser', -⟩ := hq.boundTo
  have hsame : i.userId = j.userId := Option.some.inj (huser.symm.trans (h.trans huser'))
  calc trim sub = i.subject := hsubject.symm
    _ = j.subject := (hone i hi j hj (hissuer.trans hissuer'.symm)).mpr hsame
    _ = trim other := hsubject'

end Resolves

/-- **Trimmed subjects resolve apart.** Two tokens verified under one configuration, at any times
and against any key sets: each resolves through a binding whose subject is the token's with its
surrounding whitespace removed, and where bindings are one-to-one both resolve to one user exactly
when their subjects agree in that form. -/
theorem subjects_resolve_apart (C : TokenCrypto) (oidc : Option OidcConfig)
    (repository : IdentityRepository) (hone : OneToOne repository.tables.oidcIdentities)
    (first second : PrincipalRequest) (sub other : String) (p q : RequestPrincipal)
    (hp : Resolves C oidc repository first sub p)
    (hq : Resolves C oidc repository second other q) :
    BoundTo repository oidc (trim sub) p ∧ BoundTo repository oidc (trim other) q ∧
      (p.userId = q.userId ↔ trim sub = trim other) := by
  refine ⟨hp.boundTo, hq.boundTo, ?_, ?_⟩
  · exact Resolves.trim_of_user hone hp hq
  · intro h
    rw [hp.eq_of_trim hq h]

/-! ### A subject with a space before it -/

/-- A tenant with one user, bound to one subject. -/
def boundRepository : IdentityRepository where
  tables :=
    { oidcIdentities := [
        { id := "oidc-1"
          tenantId := "tenant-a"
          userId := "user-a"
          issuer := "https://idp.io"
          subject := "u1"
          boundAt := 0 }]
      users := [{ id := "user-a", tenantId := "tenant-a", email := "a@example.com" }]
      tenants := [{ id := "tenant-a" }]
      roleAssignments := [
        { id := "role-a", tenantId := "tenant-a", userId := "user-a", role := "client_owner" }] }

theorem boundRepository_oneToOne : OneToOne boundRepository.tables.oidcIdentities := by
  intro i hi j hj _
  rw [List.mem_singleton.mp hi, List.mem_singleton.mp hj]
  simp

/-- The principal of its user. -/
def boundPrincipal : RequestPrincipal where
  userId := some "user-a"
  tenantId := some "tenant-a"
  organizationRole := some "client_owner"
  projectRole := none
  authenticated := true
  staged := false

/-- The configuration of the tokens' provider. -/
def sampleOidc : OidcConfig where
  provider := some "auth0"
  issuer := some "https://idp.io"
  audience := some "xygo"
  jwksUri := some "https://idp.io/.well-known/jwks.json"
  jwksUriExplicit := true
  allowedAlgorithms := ["RS256"]
  clockToleranceSec := none

/-- A request with a token, and the key set of its provider. -/
def signedRequest (token : String) (keys : List Json) : PrincipalRequest where
  headers name := if name = "authorization" then some ("Bearer " ++ token) else none
  now := 0
  jwks := .ok (.array keys)

/-- The claims of a request whose token verifies. -/
theorem verifiedClaims_signed {t : SignedToken} {kid sub : String} {keys : List Json}
    (ht : SampleToken t kid sub) (hne : t.text ≠ "")
    (hclaims : verifyJwt sampleCrypto (sampleSettings keys) t.text = .ok (claimsOf sub)) :
    verifiedClaims sampleCrypto (some sampleOidc) (signedRequest t.text keys) =
      .ok (claimsOf sub) := by
  have htoken : (extractBearer (signedRequest t.text keys).headers).filter (· ≠ "") =
      some t.text := by
    rw [extractBearer_visible rfl ht.visible]
    simp [hne]
  unfold verifiedClaims
  rw [htoken]
  exact hclaims

/-- A token of the bound subject resolves to its user. -/
theorem resolves_signed {token sub : String} {keys : List Json}
    (hverified : verifiedClaims sampleCrypto (some sampleOidc) (signedRequest token keys) =
      .ok (claimsOf sub))
    (htrim : trim sub = "u1") :
    Resolves sampleCrypto (some sampleOidc) boundRepository (signedRequest token keys) sub
      boundPrincipal := by
  have hsub : (claimsOf sub).member? "sub" = some (.string sub) := rfl
  refine ⟨⟨claimsOf sub, hverified, hsub⟩, ?_⟩
  refine bind_eq_ok.mpr ⟨claimsOf sub, hverified, ?_⟩
  refine bind_eq_ok.mpr ⟨"u1", ?_, by decide +kernel⟩
  unfold subjectOf
  rw [hsub]
  dsimp only
  rw [htrim]
  rfl

set_option maxRecDepth 4000 in
/-- The token of the subject with a space before it. -/
theorem spaced_sample : SampleToken .spaced "k1" " u1" where
  header := firstHeader_isSegment
  payload := by simp [IsSegment, SignedToken.spaced, spacedPayload, isWhitespace]
  signature := by simp [IsSegment, SignedToken.spaced, isWhitespace]
  decodedHeader := rfl
  decodedPayload := rfl
  key := ⟨_, rfl⟩
  signed := .tail _ (.head _)

theorem selectKey_first :
    selectKey sampleCrypto [firstKey] (some (.string "RS256")) "k1" = .ok firstKey := rfl

theorem resolves_plain : Resolves sampleCrypto (some sampleOidc) boundRepository
    (signedRequest SignedToken.plain.text [firstKey]) "u1" boundPrincipal :=
  resolves_signed (verifiedClaims_signed plain_sample (by simp [SignedToken.text])
    (plain_sample.verifyJwt (by decide +kernel) selectKey_first (by decide +kernel)))
    (by decide +kernel)

theorem resolves_spaced : Resolves sampleCrypto (some sampleOidc) boundRepository
    (signedRequest SignedToken.spaced.text [firstKey]) " u1" boundPrincipal :=
  resolves_signed (verifiedClaims_signed spaced_sample (by simp [SignedToken.text])
    (spaced_sample.verifyJwt (by decide +kernel) selectKey_first (by decide +kernel)))
    (by decide +kernel)

/-- Two tokens of one user. -/
theorem subjects_resolve_apart_spaced :
    BoundTo boundRepository (some sampleOidc) (trim "u1") boundPrincipal ∧
      BoundTo boundRepository (some sampleOidc) (trim " u1") boundPrincipal ∧
      (boundPrincipal.userId = boundPrincipal.userId ↔ trim "u1" = trim " u1") :=
  subjects_resolve_apart sampleCrypto (some sampleOidc) boundRepository boundRepository_oneToOne
    (signedRequest SignedToken.plain.text [firstKey])
    (signedRequest SignedToken.spaced.text [firstKey]) "u1" " u1" boundPrincipal boundPrincipal
    resolves_plain resolves_spaced

/-- Different subjects may stand for one user. -/
theorem spaced_subject_same_user :
    ¬ ∀ (C : TokenCrypto) (oidc : Option OidcConfig) (repository : IdentityRepository)
      (first second : PrincipalRequest) (sub other : String) (p q : RequestPrincipal),
      OneToOne repository.tables.oidcIdentities → Resolves C oidc repository first sub p →
      Resolves C oidc repository second other q → sub ≠ other → p.userId ≠ q.userId := by
  intro h
  exact h sampleCrypto (some sampleOidc) boundRepository
    (signedRequest SignedToken.plain.text [firstKey])
    (signedRequest SignedToken.spaced.text [firstKey]) "u1" " u1" boundPrincipal boundPrincipal
    boundRepository_oneToOne resolves_plain resolves_spaced (by decide) rfl

end Xygo.Analysis
