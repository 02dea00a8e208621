import Xygo.Analysis.TokenClaims

/-!
# What `verifyJwt` accepts, and when

`verifyJwt` returns the payload of a token exactly when the token is genuine, signed over its first
two segments with the one key its header names, and the clock is within the time its claims give it
(`verifyJwt_eq_ok_iff`). The clocks that accept a token make one interval. An error is an
`AuthError` unless the text of a header's `alg`, or of the `iss` of a signed payload, cannot be
formed (`verification_documented_iff`).
-/

set_option autoImplicit false

namespace Xygo.Analysis

open Xygo.Computation Xygo.Model

/-! ### One function at a time -/

theorem memberIs_iff {value : Option Json} {text : String} :
    memberIs value text = true ↔ value = some (.string text) := by
  cases value with
  | none => simp [memberIs]
  | some value => cases value <;> simp [memberIs, Json.isText]

theorem decodeSegment_eq_ok_iff {C : TokenCrypto} {segment label : String} {value : Json} :
    decodeSegment C segment label = .ok value ↔
      C.decode segment = some value ∧ ∃ members, value = .object members := by
  unfold decodeSegment throwAuth
  split
  · simp_all
  · rename_i members hdecode
    rw [hdecode]
    constructor
    · rintro h
      cases h
      exact ⟨rfl, members, rfl⟩
    · rintro ⟨h, -⟩
      rw [Option.some.inj h]
  · rename_i other hnot hdecode
    rw [hdecode]
    constructor
    · intro h
      cases h
    · rintro ⟨h, members, rfl⟩
      exact (hnot members (Option.some.inj h)).elim

/-- Settings a token can be verified with: an issuer and an audience, a list of keys, an algorithm
at least, and a tolerance that is a number. -/
structure Usable (settings : JwtSettings) (issuer audience : String) (keys : List Json) : Prop where
  issuer : settings.issuer = some issuer ∧ issuer ≠ ""
  audience : settings.audience = some audience ∧ audience ≠ ""
  keys : settings.keys = .array keys
  algorithms : settings.allowedAlgorithms ≠ []
  tolerance : ∃ tolerance, settings.clockToleranceSec = .finite tolerance ∧ 0 ≤ tolerance

theorem checkSettings_eq_ok_iff {settings : JwtSettings} {issuer audience : String}
    {keys : List Json} :
    checkSettings settings = .ok (issuer, audience, keys) ↔
      Usable settings issuer audience keys := by
  constructor
  · intro h
    unfold checkSettings throwAuth at h
    split at h
    · rename_i own named hissuer haudience
      obtain ⟨hissuer, hown⟩ := Option.filter_eq_some_iff.mp hissuer
      obtain ⟨haudience, hnamed⟩ := Option.filter_eq_some_iff.mp haudience
      split at h
      · rename_i list hkeys
        split at h
        · cases h
        · split at h
          · rename_i halgorithms _ tolerance htolerance
            split at h
            · cases h
            · cases h
              exact ⟨⟨hissuer, by simpa using hown⟩, ⟨haudience, by simpa using hnamed⟩, hkeys,
                halgorithms, tolerance, htolerance, not_lt.mp ‹_›⟩
          · cases h
      · cases h
    · cases h
  · rintro ⟨⟨hissuer, hown⟩, ⟨haudience, hnamed⟩, hkeys, halgorithms, tolerance, htolerance, hpos⟩
    have hown' : settings.issuer.filter (· ≠ "") = some issuer := by
      simp [hissuer, hown]
    have hnamed' : settings.audience.filter (· ≠ "") = some audience := by
      simp [haudience, hnamed]
    unfold checkSettings
    rw [hown', hnamed', hkeys, htolerance]
    dsimp only
    rw [if_neg halgorithms, if_neg (not_lt.mpr hpos)]

/-- A header that names an allowed algorithm and a key. -/
structure Names (settings : JwtSettings) (header : Json) (alg kid : String)
    (hashAlg : HashAlgorithm) : Prop where
  algorithm : header.member? "alg" = some (.string alg)
  supported : algToHash alg = some hashAlg
  allowed : alg ∈ settings.allowedAlgorithms
  keyId : header.member? "kid" = some (.string kid)
  notBlank : trim kid ≠ ""

theorem readHeader_eq_ok_iff {settings : JwtSettings} {header : Json} {hashAlg : HashAlgorithm}
    {kid : String} :
    readHeader settings header = .ok (hashAlg, kid) ↔
      ∃ alg, Names settings header alg kid hashAlg := by
  constructor
  · intro h
    unfold readHeader throwAuth at h
    obtain ⟨text, htext, h⟩ := bind_eq_ok.mp h
    split at h
    · cases h
    · rename_i own hown
      split at h
      · cases h
      · rename_i hallowed
        simp only [Bool.not_eq_true', Bool.not_eq_false, List.any_eq_true] at hallowed
        obtain ⟨alg, hmem, halg⟩ := hallowed
        rw [memberIs_iff] at halg
        have hsame : text = alg := by
          rw [halg] at htext
          exact (Except.ok.inj htext).symm
        subst hsame
        split at h
        · rename_i name hname
          split at h
          · cases h
          · cases h
            exact ⟨text, halg, hown, hmem, hname, ‹_›⟩
        · cases h
  · rintro ⟨alg, halg, hsupported, hallowed, hkid, hblank⟩
    have hany : settings.allowedAlgorithms.any (memberIs (some (.string alg))) = true :=
      List.any_eq_true.mpr ⟨alg, hallowed, memberIs_iff.mpr rfl⟩
    unfold readHeader
    rw [halg]
    refine bind_eq_ok.mpr ⟨alg, rfl, ?_⟩
    rw [hsupported]
    dsimp only
    rw [hany, hkid]
    dsimp only
    rw [if_neg hblank]
    rfl

/-- A key that may verify a signature of the algorithm. -/
structure VerifyingKey (C : TokenCrypto) (alg : String) (jwk : Json) : Prop where
  rsa : jwk.member? "kty" = some (.string "RSA")
  use : jwk.hasTruthy "use" = true → jwk.member? "use" = some (.string "sig")
  algorithm : jwk.hasTruthy "alg" = true → jwk.member? "alg" = some (.string alg)
  operations : ∀ operations, jwk.member? "key_ops" = some (.array operations) →
    .string "verify" ∈ operations
  importable : C.importable jwk = true

theorem any_isText_iff {items : List Json} {text : String} :
    items.any (Json.isText · text) = true ↔ .string text ∈ items := by
  rw [List.any_eq_true]
  constructor
  · rintro ⟨item, hitem, htext⟩
    have hsame : item = .string text := by
      cases item <;> simp_all [Json.isText]
    exact hsame ▸ hitem
  · intro h
    exact ⟨_, h, by simp [Json.isText]⟩

theorem isSigningKey_iff {jwk : Json} :
    isSigningKey jwk = true ↔ jwk.member? "kty" = some (.string "RSA") ∧
      (jwk.hasTruthy "use" = true → jwk.member? "use" = some (.string "sig")) := by
  unfold isSigningKey
  rw [Bool.and_eq_true, Bool.or_eq_true, memberIs_iff, memberIs_iff]
  cases jwk.hasTruthy "use" <;> simp

theorem allowsVerify_iff {value : Option Json} :
    allowsVerify value = true ↔
      ∀ operations, value = some (.array operations) → .string "verify" ∈ operations := by
  unfold allowsVerify
  split
  · rw [any_isText_iff]
    simp
  · rename_i hnot
    simp only [true_iff]
    intro operations h
    exact (hnot operations h).elim

/-- A member that passes a test of one text is that text. -/
theorem any_eq_text_iff {value : Option Json} {text : String} {test : Json → Bool}
    (htest : ∀ own, test own = true ↔ own = .string text) :
    value.any test = true ↔ value = some (.string text) := by
  cases value with
  | none => simp
  | some own => simp [htest own]

theorem selectKey_eq_ok_iff {C : TokenCrypto} {keys : List Json} {alg kid : String} {jwk : Json} :
    selectKey C keys (some (.string alg)) kid = .ok jwk ↔
      keys.filter (fun key => memberIs (key.member? "kid") kid) = [jwk] ∧
        VerifyingKey C alg jwk := by
  constructor
  · intro h
    unfold selectKey throwAuth at h
    split at h
    · cases h
    · cases h
    · rename_i own hown
      split at h
      · cases h
      · rename_i hsigning
        split at h
        · cases h
        · rename_i halgorithm
          split at h
          · cases h
          · rename_i hoperations
            split at h
            · cases h
            · rename_i himportable
              cases h
              obtain ⟨hrsa, huse⟩ := isSigningKey_iff.mp (by simpa using hsigning)
              refine ⟨hown, hrsa, huse, ?_, ?_, by simpa using himportable⟩
              · intro htruthy
                rw [htruthy, Bool.true_and, Bool.not_eq_true', Bool.not_eq_false] at halgorithm
                refine (any_eq_text_iff ?_).mp halgorithm
                intro named
                cases named with
                | string name =>
                  simp only [memberIs_iff, Option.some.injEq, Json.string.injEq]
                  exact eq_comm
                | _ => simp
              · exact allowsVerify_iff.mp (by simpa using hoperations)
  · rintro ⟨hown, hrsa, huse, halgorithm, hoperations, himportable⟩
    have hsigning : isSigningKey jwk = true := isSigningKey_iff.mpr ⟨hrsa, huse⟩
    have hverify : allowsVerify (jwk.member? "key_ops") = true := allowsVerify_iff.mpr hoperations
    unfold selectKey
    rw [hown]
    dsimp only
    rw [hsigning, hverify, himportable]
    cases htruthy : jwk.hasTruthy "alg" with
    | false => rfl
    | true =>
      rw [halgorithm htruthy]
      simp [memberIs_iff]

theorem checkSignature_eq_ok_iff {C : TokenCrypto} {hashAlg : HashAlgorithm} {input : String}
    {jwk : Json} {signature : String} :
    checkSignature C hashAlg input jwk signature = .ok () ↔
      C.verify hashAlg input jwk signature = some true := by
  unfold checkSignature throwAuth
  split <;> simp_all

/-! ### The time of a token -/

/-- The whole second of a clock. -/
def wholeSecond (now : Int) : Int := now / 1000

/-- The seconds a payload may be used in: from its `nbf` less the tolerance, if it has one, to
before its `exp` and the tolerance. The sums are those of doubles. -/
structure InWindow (tolerance : Double) (payload : Json) (second : Int) : Prop where
  begun : ∀ nbf, finiteNumber? (payload.member? "nbf") = some nbf →
    Double.Le (.finite nbf) ((Double.finite second).add tolerance)
  ended : ∀ exp, finiteNumber? (payload.member? "exp") = some exp →
    ¬ Double.Le ((Double.finite exp).add tolerance) (.finite second)

theorem atMost_iff {a b : Double} : Double.atMost a b = true ↔ Double.Le a b := by
  constructor
  · intro h
    cases a with
    | nan => cases h
    | infinity negative =>
      cases b with
      | nan => cases h
      | infinity other =>
        cases negative with
        | true => exact .bottom _ (by simp)
        | false =>
          cases other with
          | true => cases h
          | false => exact .top _ (by simp)
      | finite value =>
        cases negative with
        | true => exact .bottom _ (by simp)
        | false => cases h
    | finite value =>
      cases b with
      | nan => cases h
      | infinity other =>
        cases other with
        | true => cases h
        | false => exact .top _ (by simp)
      | finite other => exact .finite (of_decide_eq_true h)
  · rintro (⟨b, hb⟩ | ⟨a, ha⟩ | h)
    · cases b <;> simp_all [Double.atMost]
    · cases a <;> simp_all [Double.atMost]
    · exact decide_eq_true h

/-- Between two seconds of a token lie only seconds of the token. -/
theorem InWindow.between {tolerance : ℚ} {payload : Json} {a b c : Int}
    (ha : InWindow (.finite tolerance) payload a) (hc : InWindow (.finite tolerance) payload c)
    (hab : a ≤ b) (hbc : b ≤ c) : InWindow (.finite tolerance) payload b := by
  refine ⟨?_, ?_⟩
  · intro nbf hnbf
    exact (ha.begun nbf hnbf).trans (Double.add_mono_left (by exact_mod_cast hab))
  · intro exp hexp hle
    exact hc.ended exp hexp (hle.trans (.finite (by exact_mod_cast hbc)))

/-- Where a payload and the tolerance are whole numbers of at most 53 bits, so are the ends. -/
theorem inWindow_whole_iff {payload : Json} {exp tolerance second : Int} {nbf : Option Int}
    (hexp : finiteNumber? (payload.member? "exp") = some (exp : ℚ))
    (hnbf : finiteNumber? (payload.member? "nbf") = nbf.map Int.cast)
    (hend : (exp + tolerance).natAbs ≤ 2 ^ 53) (hsecond : (second + tolerance).natAbs ≤ 2 ^ 53) :
    InWindow (.finite tolerance) payload second ↔
      (∀ n ∈ nbf, n - tolerance ≤ second) ∧ second < exp + tolerance := by
  have hend' : (Double.finite exp).add (.finite tolerance) = .finite (exp + tolerance : ℤ) :=
    Double.add_intCast hend
  have hsecond' : (Double.finite second).add (.finite tolerance) =
      .finite (second + tolerance : ℤ) := Double.add_intCast hsecond
  constructor
  · rintro ⟨hbegun, hended⟩
    refine ⟨?_, ?_⟩
    · intro n hn
      have hle := hbegun n (by rw [hnbf, Option.mem_def.mp hn]; rfl)
      rw [hsecond'] at hle
      cases hle with
      | finite h =>
        have hint : n ≤ second + tolerance := by exact_mod_cast h
        omega
    · have hlt := hended exp hexp
      rw [hend'] at hlt
      by_contra hge
      exact hlt (.finite (by exact_mod_cast not_lt.mp hge))
  · rintro ⟨hbegun, hended⟩
    refine ⟨?_, ?_⟩
    · intro value hvalue
      rw [hnbf] at hvalue
      obtain ⟨n, hn, rfl⟩ := Option.map_eq_some_iff.mp hvalue
      rw [hsecond']
      have hint := hbegun n hn
      exact .finite (by exact_mod_cast (by omega : n ≤ second + tolerance))
    · intro value hvalue hle
      rw [hexp] at hvalue
      cases hvalue
      rw [hend'] at hle
      cases hle with
      | finite h =>
        have hint : exp + tolerance ≤ second := by exact_mod_cast h
        omega

/-! ### The claims of a token -/

/-- A payload meant for the issuer and the audience, with numbers where it gives times. -/
structure Claims (payload : Json) (issuer audience : String) : Prop where
  issuer : payload.member? "iss" = some (.string issuer)
  audience : payload.member? "aud" = some (.string audience) ∨
    ∃ items, payload.member? "aud" = some (.array items) ∧ .string audience ∈ items
  expires : ∃ exp, finiteNumber? (payload.member? "exp") = some exp
  notBefore : payload.member? "nbf" = none ∨
    ∃ nbf, finiteNumber? (payload.member? "nbf") = some nbf

theorem audienceIncludes_iff {aud : Option Json} {audience : String} (h : audience ≠ "") :
    audienceIncludes aud audience = true ↔ aud = some (.string audience) ∨
      ∃ items, aud = some (.array items) ∧ .string audience ∈ items := by
  unfold audienceIncludes
  split
  · rw [any_isText_iff]
    simp
  · rename_i value hnot
    cases value with
    | array items => exact (hnot items rfl).elim
    | string own =>
      simp only [Json.truthy, Json.isText, ne_eq, decide_not, Bool.and_eq_true, Bool.not_eq_true',
        decide_eq_false_iff_not, decide_eq_true_eq, Option.some.injEq, Json.string.injEq,
        reduceCtorEq, false_and, exists_const, or_false, and_iff_right_iff_imp]
      rintro rfl
      exact h
    | _ => simp [Json.isText]
  · simp

theorem checkNotBefore_eq_ok_iff {settings : JwtSettings} {payload : Json} :
    checkNotBefore settings payload = .ok () ↔
      (payload.member? "nbf" = none ∨
        ∃ nbf, finiteNumber? (payload.member? "nbf") = some nbf) ∧
      ∀ nbf, finiteNumber? (payload.member? "nbf") = some nbf →
        Double.Le (.finite nbf)
          ((Double.finite (wholeSecond settings.now)).add settings.clockToleranceSec) := by
  unfold checkNotBefore throwAuth
  by_cases hnone : payload.member? "nbf" = none
  · simp [hnone, finiteNumber?]
  · rw [if_neg (by simpa using hnone)]
    cases hnbf : finiteNumber? (payload.member? "nbf") with
    | none => simp [hnone]
    | some nbf =>
      simp only [← atMost_iff, wholeSecond, Option.some.injEq, exists_eq', or_true, true_and,
        forall_eq']
      cases Double.atMost (.finite nbf)
        ((Double.finite (settings.now / 1000 : Int)).add settings.clockToleranceSec) <;> simp

theorem checkClaims_eq_ok_iff {settings : JwtSettings} {issuer audience : String} {payload : Json}
    (haudience : audience ≠ "") :
    checkClaims settings issuer audience payload = .ok () ↔
      Claims payload issuer audience ∧
        InWindow settings.clockToleranceSec payload (wholeSecond settings.now) := by
  constructor
  · intro h
    unfold checkClaims throwAuth at h
    split at h
    · obtain ⟨_, -, h⟩ := bind_eq_ok.mp h
      cases h
    · rename_i hiss
      split at h
      · cases h
      · rename_i haud
        split at h
        · cases h
        · rename_i exp hexp
          dsimp only at h
          split at h
          · cases h
          · rename_i hended
            obtain ⟨hnbf, hbegun⟩ := checkNotBefore_eq_ok_iff.mp h
            refine ⟨⟨memberIs_iff.mp (by simpa using hiss), ?_, ⟨exp, hexp⟩, hnbf⟩, hbegun, ?_⟩
            · exact (audienceIncludes_iff haudience).mp (by simpa using haud)
            · intro value hvalue hle
              rw [hexp] at hvalue
              cases hvalue
              exact hended (atMost_iff.mpr hle)
  · rintro ⟨⟨hiss, haud, ⟨exp, hexp⟩, hnbf⟩, hbegun, hended⟩
    have haud' : audienceIncludes (payload.member? "aud") audience = true :=
      (audienceIncludes_iff haudience).mpr haud
    have hended' : ¬ Double.atMost ((Double.finite exp).add settings.clockToleranceSec)
        (.finite (settings.now / 1000 : Int)) = true :=
      fun h => hended exp hexp (atMost_iff.mp h)
    unfold checkClaims
    rw [memberIs_iff.mpr hiss, haud', hexp]
    dsimp only
    rw [if_neg hended']
    exact checkNotBefore_eq_ok_iff.mpr ⟨hnbf, hbegun⟩

/-! ### What is accepted -/

/-- The segments of a token, what they decode to, and what its header names. -/
structure TokenParts where
  headerB64 : String
  payloadB64 : String
  signatureB64 : String
  header : Json
  payload : Json
  alg : String
  hashAlg : HashAlgorithm
  kid : String
  keys : List Json
  jwk : Json
  issuer : String
  audience : String

/-- A genuine token: one key of the set has the id its header names, that key may verify the
header's algorithm, which is allowed, the signature is valid over the first two segments as they
are, and the payload is meant for the issuer and the audience. -/
structure Genuine (C : TokenCrypto) (settings : JwtSettings) (token : String) (t : TokenParts) :
    Prop where
  segments : splitText (· = '.') token = [t.headerB64, t.payloadB64, t.signatureB64]
  usable : Usable settings t.issuer t.audience t.keys
  header : C.decode t.headerB64 = some t.header ∧ ∃ members, t.header = .object members
  payload : C.decode t.payloadB64 = some t.payload ∧ ∃ members, t.payload = .object members
  names : Names settings t.header t.alg t.kid t.hashAlg
  onlyKey : t.keys.filter (fun key => memberIs (key.member? "kid") t.kid) = [t.jwk]
  key : VerifyingKey C t.alg t.jwk
  signature : C.verify t.hashAlg (t.headerB64 ++ "." ++ t.payloadB64) t.jwk t.signatureB64 =
    some true
  claims : Claims t.payload t.issuer t.audience

/-- A token is accepted exactly when it is genuine and the clock is in its time. -/
theorem verifyJwt_eq_ok_iff {C : TokenCrypto} {settings : JwtSettings} {token : String}
    {payload : Json} :
    verifyJwt C settings token = .ok payload ↔
      ∃ t, Genuine C settings token t ∧ t.payload = payload ∧
        InWindow settings.clockToleranceSec payload (wholeSecond settings.now) := by
  constructor
  · intro h
    unfold verifyJwt throwAuth at h
    split at h
    · rename_i headerB64 payloadB64 signatureB64 hsegments
      obtain ⟨⟨issuer, audience, keys⟩, hsettings, h⟩ := bind_eq_ok.mp h
      obtain ⟨header, hheader, h⟩ := bind_eq_ok.mp h
      obtain ⟨claims, hpayload, h⟩ := bind_eq_ok.mp h
      obtain ⟨⟨hashAlg, kid⟩, hread, h⟩ := bind_eq_ok.mp h
      obtain ⟨jwk, hkey, h⟩ := bind_eq_ok.mp h
      obtain ⟨_, hsignature, h⟩ := bind_eq_ok.mp h
      obtain ⟨_, hclaims, h⟩ := bind_eq_ok.mp h
      cases h
      obtain ⟨alg, hnames⟩ := readHeader_eq_ok_iff.mp hread
      have husable := checkSettings_eq_ok_iff.mp hsettings
      have hselected := selectKey_eq_ok_iff.mp (hnames.algorithm ▸ hkey)
      have hchecked := (checkClaims_eq_ok_iff husable.audience.2).mp hclaims
      exact ⟨⟨headerB64, payloadB64, signatureB64, header, payload, alg, hashAlg, kid, keys, jwk,
          issuer, audience⟩,
        { segments := hsegments
          usable := husable
          header := decodeSegment_eq_ok_iff.mp hheader
          payload := decodeSegment_eq_ok_iff.mp hpayload
          names := hnames
          onlyKey := hselected.1
          key := hselected.2
          signature := checkSignature_eq_ok_iff.mp hsignature
          claims := hchecked.1 }, rfl, hchecked.2⟩
    · cases h
  · rintro ⟨t, ht, rfl, hwindow⟩
    have hkey : selectKey C t.keys (t.header.member? "alg") t.kid = .ok t.jwk := by
      rw [ht.names.algorithm]
      exact selectKey_eq_ok_iff.mpr ⟨ht.onlyKey, ht.key⟩
    exact verifyJwt_of_checks ht.segments (checkSettings_eq_ok_iff.mpr ht.usable)
      (decodeSegment_eq_ok_iff.mpr ht.header) (decodeSegment_eq_ok_iff.mpr ht.payload)
      (readHeader_eq_ok_iff.mpr ⟨t.alg, ht.names⟩) hkey
      (checkSignature_eq_ok_iff.mpr ht.signature)
      ((checkClaims_eq_ok_iff ht.usable.audience.2).mpr ⟨ht.claims, hwindow⟩)

/-! ### What is thrown -/

/-- A computation that throws nothing but an `AuthError`. -/
def AuthOnly {α : Type} (x : Except RequestFailure α) : Prop :=
  ∀ failure, x = .error failure → ∃ code message, failure = .authError code message

theorem authOnly_ok {α : Type} (a : α) : AuthOnly (.ok a : Except RequestFailure α) := by
  intro failure h
  cases h

theorem authOnly_throwAuth {α : Type} (code message : String) :
    AuthOnly (throwAuth code message : Except RequestFailure α) := by
  intro failure h
  cases h
  exact ⟨code, message, rfl⟩

/-- A block throws nothing else exactly when none of its statements does. -/
theorem authOnly_bind {α β : Type} {x : Except RequestFailure α}
    {f : α → Except RequestFailure β} :
    AuthOnly (x >>= f) ↔ AuthOnly x ∧ ∀ a, x = .ok a → AuthOnly (f a) := by
  cases x with
  | error failure =>
    constructor
    · intro h
      refine ⟨?_, ?_⟩
      · intro thrown hthrown
        exact h thrown (by cases hthrown; rfl)
      · intro a ha
        cases ha
    · intro h thrown hthrown
      exact h.1 thrown (by cases hthrown; rfl)
  | ok a =>
    constructor
    · intro h
      refine ⟨authOnly_ok a, ?_⟩
      intro b hb
      cases hb
      exact h
    · exact fun h => h.2 a rfl

theorem authOnly_ite {α : Type} {c : Prop} [Decidable c] {x y : Except RequestFailure α}
    (hx : AuthOnly x) (hy : ¬ c → AuthOnly y) : AuthOnly (if c then x else y) := by
  split
  · exact hx
  · exact hy ‹_›

/-- A member whose text can be formed: no object in it has a `toString` of its own. -/
def HasText (value : Option Json) : Prop := ∃ text, Model.memberText value = .ok text

theorem authOnly_memberText {value : Option Json} :
    AuthOnly (Model.memberText value) ↔ HasText value := by
  unfold HasText
  cases hvalue : Model.memberText value with
  | ok text => exact ⟨fun _ => ⟨text, rfl⟩, fun _ => authOnly_ok text⟩
  | error failure =>
    constructor
    · intro h
      obtain ⟨code, message, rfl⟩ := h failure rfl
      cases value with
      | none => cases hvalue
      | some own =>
        dsimp only [Model.memberText] at hvalue
        cases htext : own.toText with
        | ok text =>
          rw [htext] at hvalue
          cases hvalue
        | error error =>
          rw [htext] at hvalue
          cases hvalue
    · rintro ⟨text, htext⟩
      cases htext

theorem hasText_string (text : String) : HasText (some (.string text)) := ⟨text, rfl⟩

theorem authOnly_checkSettings (settings : JwtSettings) : AuthOnly (checkSettings settings) := by
  unfold checkSettings
  split
  · split
    · refine authOnly_ite (authOnly_throwAuth _ _) fun _ => ?_
      split
      · exact authOnly_ite (authOnly_throwAuth _ _) fun _ => authOnly_ok _
      · exact authOnly_throwAuth _ _
    · exact authOnly_throwAuth _ _
  · exact authOnly_throwAuth _ _

theorem authOnly_decodeSegment (C : TokenCrypto) (segment label : String) :
    AuthOnly (decodeSegment C segment label) := by
  unfold decodeSegment
  split
  · exact authOnly_throwAuth _ _
  · exact authOnly_ok _
  · exact authOnly_throwAuth _ _

/-- The header is read with no other error exactly when its `alg` has a text. -/
theorem authOnly_readHeader {settings : JwtSettings} {header : Json} :
    AuthOnly (readHeader settings header) ↔ HasText (header.member? "alg") := by
  unfold readHeader
  rw [authOnly_bind, authOnly_memberText, and_iff_left]
  intro alg _
  split
  · exact authOnly_throwAuth _ _
  · refine authOnly_ite (authOnly_throwAuth _ _) fun _ => ?_
    split
    · exact authOnly_ite (authOnly_throwAuth _ _) fun _ => authOnly_ok _
    · exact authOnly_throwAuth _ _

theorem authOnly_selectKey (C : TokenCrypto) (keys : List Json) (alg : Option Json)
    (kid : String) : AuthOnly (selectKey C keys alg kid) := by
  unfold selectKey
  split
  · exact authOnly_throwAuth _ _
  · exact authOnly_throwAuth _ _
  · refine authOnly_ite (authOnly_throwAuth _ _) fun _ => ?_
    refine authOnly_ite (authOnly_throwAuth _ _) fun _ => ?_
    refine authOnly_ite (authOnly_throwAuth _ _) fun _ => ?_
    exact authOnly_ite (authOnly_throwAuth _ _) fun _ => authOnly_ok _

theorem authOnly_checkSignature (C : TokenCrypto) (hashAlg : HashAlgorithm) (input : String)
    (jwk : Json) (signature : String) : AuthOnly (checkSignature C hashAlg input jwk signature) := by
  unfold checkSignature
  split
  · exact authOnly_throwAuth _ _
  · exact authOnly_throwAuth _ _
  · exact authOnly_ok _

theorem authOnly_checkNotBefore (settings : JwtSettings) (payload : Json) :
    AuthOnly (checkNotBefore settings payload) := by
  unfold checkNotBefore
  split
  · exact authOnly_ok _
  · split
    · exact authOnly_throwAuth _ _
    · exact authOnly_ite (authOnly_throwAuth _ _) fun _ => authOnly_ok _

/-- The claims are checked with no other error exactly when the `iss` has a text. -/
theorem authOnly_checkClaims {settings : JwtSettings} {issuer audience : String} {payload : Json} :
    AuthOnly (checkClaims settings issuer audience payload) ↔
      HasText (payload.member? "iss") := by
  unfold checkClaims
  cases hiss : memberIs (payload.member? "iss") issuer with
  | false =>
    rw [if_pos (by simp), authOnly_bind, authOnly_memberText, and_iff_left]
    intro iss _
    exact authOnly_throwAuth _ _
  | true =>
    rw [if_neg (by simp), memberIs_iff.mp hiss]
    refine iff_of_true ?_ (hasText_string issuer)
    refine authOnly_ite (authOnly_throwAuth _ _) fun _ => ?_
    split
    · exact authOnly_throwAuth _ _
    · exact authOnly_ite (authOnly_throwAuth _ _) fun _ => authOnly_checkNotBefore _ _

/-- Whether the texts `verifyJwt` forms of a token are there: that of the header's `alg`, and that
of the payload's `iss` where header, key and signature are in order. -/
def TextsThere (C : TokenCrypto) (settings : JwtSettings) (token : String) : Prop :=
  ∀ headerB64 payloadB64 signatureB64 issuer audience keys header payload,
    splitText (· = '.') token = [headerB64, payloadB64, signatureB64] →
    checkSettings settings = .ok (issuer, audience, keys) →
    decodeSegment C headerB64 "header" = .ok header →
    decodeSegment C payloadB64 "payload" = .ok payload →
    HasText (header.member? "alg") ∧
      ∀ hashAlg kid jwk, readHeader settings header = .ok (hashAlg, kid) →
        selectKey C keys (header.member? "alg") kid = .ok jwk →
        checkSignature C hashAlg (headerB64 ++ "." ++ payloadB64) jwk signatureB64 = .ok () →
        HasText (payload.member? "iss")

theorem authOnly_verifyJwt_iff {C : TokenCrypto} {settings : JwtSettings} {token : String} :
    AuthOnly (verifyJwt C settings token) ↔ TextsThere C settings token := by
  constructor
  · intro h headerB64 payloadB64 signatureB64 issuer audience keys header payload hsegments
      hsettings hheader hpayload
    unfold verifyJwt at h
    rw [hsegments] at h
    have hread := (authOnly_bind.mp h).2 _ hsettings
    have hread := (authOnly_bind.mp hread).2 _ hheader
    have hread := (authOnly_bind.mp hread).2 _ hpayload
    obtain ⟨halg, hrest⟩ := authOnly_bind.mp hread
    refine ⟨authOnly_readHeader.mp halg, ?_⟩
    intro hashAlg kid jwk hnames hkey hsignature
    have hclaims := (authOnly_bind.mp (hrest _ hnames)).2 _ hkey
    have hclaims := (authOnly_bind.mp hclaims).2 _ hsignature
    exact authOnly_checkClaims.mp (authOnly_bind.mp hclaims).1
  · intro h
    unfold verifyJwt
    split
    · rename_i headerB64 payloadB64 signatureB64 hsegments
      refine authOnly_bind.mpr ⟨authOnly_checkSettings settings, ?_⟩
      rintro ⟨issuer, audience, keys⟩ hsettings
      refine authOnly_bind.mpr ⟨authOnly_decodeSegment C _ _, ?_⟩
      intro header hheader
      refine authOnly_bind.mpr ⟨authOnly_decodeSegment C _ _, ?_⟩
      intro payload hpayload
      obtain ⟨halg, hiss⟩ := h _ _ _ _ _ _ _ _ hsegments hsettings hheader hpayload
      refine authOnly_bind.mpr ⟨authOnly_readHeader.mpr halg, ?_⟩
      rintro ⟨hashAlg, kid⟩ hread
      refine authOnly_bind.mpr ⟨authOnly_selectKey C _ _ _, ?_⟩
      intro jwk hkey
      refine authOnly_bind.mpr ⟨authOnly_checkSignature C _ _ _ _, ?_⟩
      intro _ hsignature
      refine authOnly_bind.mpr ⟨?_, fun _ _ => authOnly_ok payload⟩
      exact authOnly_checkClaims.mpr (hiss _ _ _ hread hkey hsignature)
    · exact authOnly_throwAuth _ _

/-! ### The whole of it -/

/-- The settings at another time. -/
def settingsAt (settings : JwtSettings) (now : Int) : JwtSettings := { settings with now := now }

/-- What is documented of `verifyJwt` for one token: only a genuine token is accepted; the clocks
that accept it are those of its time, and make one interval, from `nbf - tolerance` to before
`exp + tolerance` where these are whole numbers of at most 53 bits; and every error is an
`AuthError`. -/
structure Documented (C : TokenCrypto) (settings : JwtSettings) (token : String) : Prop where
  genuine : ∀ payload, verifyJwt C settings token = .ok payload →
    ∃ t, Genuine C settings token t ∧ t.payload = payload
  window : ∀ payload other, verifyJwt C (settingsAt settings other) token = .ok payload →
    ∀ now, verifyJwt C (settingsAt settings now) token = .ok payload ↔
      InWindow settings.clockToleranceSec payload (wholeSecond now)
  interval : ∀ payload a b c, a ≤ b → b ≤ c →
    verifyJwt C (settingsAt settings a) token = .ok payload →
    verifyJwt C (settingsAt settings c) token = .ok payload →
    verifyJwt C (settingsAt settings b) token = .ok payload
  wholeNumbers : ∀ payload other (exp tolerance : Int) (nbf : Option Int),
    verifyJwt C (settingsAt settings other) token = .ok payload →
    settings.clockToleranceSec = .finite tolerance →
    finiteNumber? (payload.member? "exp") = some (exp : ℚ) →
    finiteNumber? (payload.member? "nbf") = nbf.map Int.cast →
    (exp + tolerance).natAbs ≤ 2 ^ 53 →
    ∀ now, (wholeSecond now + tolerance).natAbs ≤ 2 ^ 53 →
      (verifyJwt C (settingsAt settings now) token = .ok payload ↔
        (∀ n ∈ nbf, n - tolerance ≤ wholeSecond now) ∧ wholeSecond now < exp + tolerance)
  authErrors : AuthOnly (verifyJwt C settings token)

/-- Nothing but the clock depends on the time. -/
theorem Genuine.at {C : TokenCrypto} {settings : JwtSettings} {token : String} {t : TokenParts}
    (h : Genuine C settings token t) (now : Int) :
    Genuine C (settingsAt settings now) token t := by
  obtain ⟨hsegments, ⟨hissuer, haudience, hkeys, halgorithms, htolerance⟩, hheader, hpayload,
    ⟨halg, hsupported, hallowed, hkid, hblank⟩, honly, hkey, hsignature, hclaims⟩ := h
  exact ⟨hsegments, ⟨hissuer, haudience, hkeys, halgorithms, htolerance⟩, hheader, hpayload,
    ⟨halg, hsupported, hallowed, hkid, hblank⟩, honly, hkey, hsignature, hclaims⟩

/-- A token accepted at one time is accepted exactly in its time. -/
theorem accepted_at_iff {C : TokenCrypto} {settings : JwtSettings} {token : String}
    {payload : Json} {other : Int}
    (h : verifyJwt C (settingsAt settings other) token = .ok payload) (now : Int) :
    verifyJwt C (settingsAt settings now) token = .ok payload ↔
      InWindow settings.clockToleranceSec payload (wholeSecond now) := by
  obtain ⟨t, ht, hpayload, -⟩ := verifyJwt_eq_ok_iff.mp h
  rw [verifyJwt_eq_ok_iff]
  constructor
  · rintro ⟨-, -, -, hwindow⟩
    exact hwindow
  · exact fun hwindow => ⟨t, ht.at now, hpayload, hwindow⟩

/-- **`verifyJwt` does what is documented** exactly for the tokens whose texts can be formed. -/
theorem verification_documented_iff (C : TokenCrypto) (settings : JwtSettings) (token : String) :
    Documented C settings token ↔ TextsThere C settings token := by
  constructor
  · exact fun h => authOnly_verifyJwt_iff.mp h.authErrors
  · intro h
    refine ⟨?_, ?_, ?_, ?_, authOnly_verifyJwt_iff.mpr h⟩
    · intro payload haccepted
      obtain ⟨t, ht, hpayload, -⟩ := verifyJwt_eq_ok_iff.mp haccepted
      exact ⟨t, ht, hpayload⟩
    · intro payload other haccepted
      exact accepted_at_iff haccepted
    · intro payload a b c hab hbc ha hc
      obtain ⟨t, ht, -, hafter⟩ := verifyJwt_eq_ok_iff.mp ha
      obtain ⟨tolerance, htolerance, -⟩ := ht.usable.tolerance
      have hbefore := (accepted_at_iff ha c).mp hc
      rw [accepted_at_iff ha b]
      change settings.clockToleranceSec = _ at htolerance
      change InWindow settings.clockToleranceSec payload (wholeSecond a) at hafter
      rw [htolerance] at hafter hbefore ⊢
      exact hafter.between hbefore (Int.ediv_le_ediv (by omega) hab)
        (Int.ediv_le_ediv (by omega) hbc)
    · intro payload other exp tolerance nbf haccepted htolerance hexp hnbf hend now hsecond
      rw [accepted_at_iff haccepted now, htolerance]
      exact inWindow_whole_iff hexp hnbf hend hsecond

/-! ### Signed tokens -/

/-- A text that can be a segment of a bearer token. -/
def IsSegment (text : String) : Prop :=
  text.toList.all (fun c => c ≠ '.' && !isWhitespace c) = true

theorem IsSegment.visible {text : String} (h : IsSegment text) :
    ∀ c ∈ text.toList, isWhitespace c = false := by
  intro c hc
  have hc := List.all_eq_true.mp h c hc
  rw [Bool.and_eq_true] at hc
  simpa using hc.2

theorem IsSegment.ne_dot {text : String} (h : IsSegment text) : ∀ c ∈ text.toList, ¬ c = '.' := by
  intro c hc
  have hc := List.all_eq_true.mp h c hc
  rw [Bool.and_eq_true] at hc
  simpa using hc.1

/-- Three segments make a token of these segments. -/
theorem splitText_segments {a b c : String} (ha : IsSegment a) (hb : IsSegment b)
    (hc : IsSegment c) : splitText (· = '.') (a ++ "." ++ b ++ "." ++ c) = [a, b, c] := by
  have hchars : (a ++ "." ++ b ++ "." ++ c).toList =
      a.toList ++ '.' :: (b.toList ++ '.' :: c.toList) := by
    simp [String.toList_append]
  unfold splitText
  rw [hchars, List.splitOnP_append_cons_of_forall_mem (by simpa using ha.ne_dot) '.' (by simp),
    List.splitOnP_append_cons_of_forall_mem (by simpa using hb.ne_dot) '.' (by simp),
    List.splitOnP_eq_singleton (by simpa using hc.ne_dot)]
  simp

theorem dropWhile_visible {l : List Char} (h : ∀ c ∈ l, isWhitespace c = false) :
    l.dropWhile isWhitespace = l := by
  cases l with
  | nil => rfl
  | cons c l => rw [List.dropWhile_cons, h c List.mem_cons_self]; rfl

/-- A text without whitespace is its own trimmed text. -/
theorem trim_visible {value : String} (h : ∀ c ∈ value.toList, isWhitespace c = false) :
    trim value = value := by
  unfold trim
  rw [dropWhile_visible h, dropWhile_visible fun c hc => h c (List.mem_reverse.mp hc),
    List.reverse_reverse, String.ofList_toList]

/-- A token without whitespace is what a header field bears. -/
theorem extractBearer_visible {token : String} {headers : Headers}
    (hheader : headers "authorization" = some ("Bearer " ++ token))
    (hvisible : ∀ c ∈ token.toList, isWhitespace c = false) :
    extractBearer headers = some token := by
  have hchars : ("Bearer " ++ token).toList = "Bearer".toList ++ ' ' :: token.toList := by
    simp [String.toList_append]
  have hscheme : ("Bearer".toList ++ ' ' :: token.toList).take 6 = "Bearer".toList := by simp
  have hrest : ("Bearer".toList ++ ' ' :: token.toList).drop 6 = ' ' :: token.toList := by simp
  have hblank : (' ' :: token.toList).dropWhile isWhitespace = token.toList := by
    rw [List.dropWhile_cons, if_pos (by decide)]
    exact dropWhile_visible hvisible
  have hafter : afterBearer ("Bearer " ++ token) = some token := by
    unfold afterBearer
    dsimp only
    rw [hchars, hscheme, hrest, hblank, if_pos ⟨by decide, rfl⟩, String.ofList_toList]
  unfold extractBearer
  rw [hheader, Option.some_or, Option.bind_some, hafter, Option.map_some, trim_visible hvisible]

/-- A public key with its modulus. -/
def rsaKey (kid modulus : String) : Json :=
  .object [("kty", .string "RSA"), ("kid", .string kid), ("n", .string modulus),
    ("e", .string "AQAB")]

def firstKey : Json := rsaKey "k1"
  "tAsDaQrfPqfan8esUfzY_r-mZV60I4SHqQf1LBh5N1kDad8-UVt_Zp9p1LYzESmcEySHFK3f6hUxyDdElMAv8Q"

def secondKey : Json := rsaKey "k2"
  "v4jG1EvUNMy6KmGgjBJem8nxSQuDMz7Bi5Gxok2XEd9vlOr9hGiJSTdc9mGzo5dY9k_2FYQZFGeM3Hfweob5kw"

def headerOf (kid : String) : Json := .object [("alg", .string "RS256"), ("kid", .string kid)]

def claimsOf (sub : String) : Json :=
  .object [("iss", .string "https://idp.io"), ("aud", .string "xygo"), ("exp", .number "9"),
    ("sub", .string sub)]

def firstHeader : String := "eyJhbGciOiJSUzI1NiIsImtpZCI6ImsxIn0"

def secondHeader : String := "eyJhbGciOiJSUzI1NiIsImtpZCI6ImsyIn0"

/-- `{"alg":{"toString":1},"kid":"k1"}` -/
def unprintableHeader : String := "eyJhbGciOnsidG9TdHJpbmciOjF9LCJraWQiOiJrMSJ9"

def plainPayload : String :=
  "eyJpc3MiOiJodHRwczovL2lkcC5pbyIsImF1ZCI6Inh5Z28iLCJleHAiOjksInN1YiI6InUxIn0"

/-- The claims of a subject with a space before it. -/
def spacedPayload : String :=
  "eyJpc3MiOiJodHRwczovL2lkcC5pbyIsImF1ZCI6Inh5Z28iLCJleHAiOjksInN1YiI6IiB1MSJ9"

/-- A token with its parts, and the key that has signed it with RS256. -/
structure SignedToken where
  key : Json
  header : String
  payload : String
  signature : String

namespace SignedToken

/-- The token. -/
def text (t : SignedToken) : String := t.header ++ "." ++ t.payload ++ "." ++ t.signature

def plain : SignedToken where
  key := firstKey
  header := firstHeader
  payload := plainPayload
  signature :=
    "nL94sxPVadt-ihqPqToUPQTnnKH4RxBrKAtEk4zHR-zUJbPUnFyLzK22v9-3d4XJwpkkYm77_vRpVaI8J0FhoA"

def spaced : SignedToken where
  key := firstKey
  header := firstHeader
  payload := spacedPayload
  signature :=
    "qlJq5GYk_CCe24pjaqPplxj65LQC_gKXo4mQY8EBCm6ctb_Qv7Ycnysyp-5yEISt3u_hi2HXKh53Wu_1Ool0wQ"

/-- The claims of the first token, signed by the second key. -/
def rotated : SignedToken where
  key := secondKey
  header := secondHeader
  payload := plainPayload
  signature :=
    "haJ6EpHruhP_JDAKbJ4h2ld6WUTsOGZ4kSc7CSmJaIoOB9pRwQ-WQrDqtX98cg2-eb8hQcfeADC4p28Hc__xUA"

end SignedToken

/-- Whether two keys name one modulus. -/
def sameModulus (a b : Json) : Bool :=
  match a.member? "n", b.member? "n" with
  | some (.string x), some (.string y) => x = y
  | _, _ => false

theorem sameModulus_rsaKey (kid modulus : String) :
    sameModulus (rsaKey kid modulus) (rsaKey kid modulus) = true := by
  simp [sameModulus, rsaKey, Json.member?, List.lookup]

/-- `JSON.parse` and `node:crypto` on these segments, keys and signatures. -/
def sampleCrypto : TokenCrypto where
  decode segment :=
    if segment = firstHeader then some (headerOf "k1")
    else if segment = secondHeader then some (headerOf "k2")
    else if segment = unprintableHeader then
      some (.object [("alg", .object [("toString", .number "1")]), ("kid", .string "k1")])
    else if segment = plainPayload then some (claimsOf "u1")
    else if segment = spacedPayload then some (claimsOf " u1")
    else none
  importable jwk := memberIs (jwk.member? "kty") "RSA"
  verify hashAlg input jwk signature :=
    some (hashAlg = .rsaSha256 && [SignedToken.plain, .spaced, .rotated].any fun t =>
      sameModulus t.key jwk && input = t.header ++ "." ++ t.payload && signature = t.signature)

/-- Settings with a key set, in the first second. -/
def sampleSettings (keys : List Json) : JwtSettings where
  keys := .array keys
  issuer := some "https://idp.io"
  audience := some "xygo"
  allowedAlgorithms := ["RS256"]
  now := 0
  clockToleranceSec := .finite 60

/-- What is known of a token above: its segments, and what they decode to. -/
structure SampleToken (t : SignedToken) (kid sub : String) : Prop where
  header : IsSegment t.header
  payload : IsSegment t.payload
  signature : IsSegment t.signature
  decodedHeader : decodeSegment sampleCrypto t.header "header" = .ok (headerOf kid)
  decodedPayload : decodeSegment sampleCrypto t.payload "payload" = .ok (claimsOf sub)
  key : ∃ modulus, t.key = rsaKey kid modulus
  signed : t ∈ [SignedToken.plain, .spaced, .rotated]

theorem SampleToken.visible {t : SignedToken} {kid sub : String}
    (h : SampleToken t kid sub) : ∀ c ∈ t.text.toList, isWhitespace c = false := by
  intro c hc
  unfold SignedToken.text at hc
  simp only [String.toList_append, List.mem_append] at hc
  rcases hc with (((hc | hc) | hc) | hc) | hc
  · exact h.header.visible c hc
  · rw [List.mem_singleton.mp hc]
    decide
  · exact h.payload.visible c hc
  · rw [List.mem_singleton.mp hc]
    decide
  · exact h.signature.visible c hc

/-- Its signature is valid under its key. -/
theorem SampleToken.checkSignature {t : SignedToken} {kid sub : String}
    (h : SampleToken t kid sub) :
    checkSignature sampleCrypto .rsaSha256 (t.header ++ "." ++ t.payload) t.key t.signature =
      .ok () := by
  refine checkSignature_eq_ok_iff.mpr ?_
  have hany : ([SignedToken.plain, .spaced, .rotated].any fun s =>
      sameModulus s.key t.key && t.header ++ "." ++ t.payload = s.header ++ "." ++ s.payload &&
        t.signature = s.signature) = true := by
    refine List.any_eq_true.mpr ⟨t, h.signed, ?_⟩
    obtain ⟨modulus, hkey⟩ := h.key
    rw [hkey, sameModulus_rsaKey]
    simp
  show some (_ && _) = _
  rw [hany]
  rfl

/-- It verifies against a set its key is in alone. -/
theorem SampleToken.verifyJwt {t : SignedToken} {kid sub : String} {keys : List Json}
    (h : SampleToken t kid sub)
    (hread : readHeader (sampleSettings keys) (headerOf kid) = .ok (.rsaSha256, kid))
    (hkey : selectKey sampleCrypto keys (some (.string "RS256")) kid = .ok t.key)
    (hclaims : checkClaims (sampleSettings keys) "https://idp.io" "xygo" (claimsOf sub) =
      .ok ()) :
    verifyJwt sampleCrypto (sampleSettings keys) t.text = .ok (claimsOf sub) :=
  @verifyJwt_of_checks _ (sampleSettings keys) _ _ _ _ _ _ _ keys _ _ _ _
    (splitText_segments h.header h.payload h.signature) rfl h.decodedHeader h.decodedPayload hread
    hkey h.checkSignature hclaims

set_option maxRecDepth 4000 in
theorem firstHeader_isSegment : IsSegment firstHeader := by
  simp [IsSegment, firstHeader, isWhitespace]

set_option maxRecDepth 4000 in
theorem plainPayload_isSegment : IsSegment plainPayload := by
  simp [IsSegment, plainPayload, isWhitespace]

set_option maxRecDepth 4000 in
theorem unprintableHeader_isSegment : IsSegment unprintableHeader := by
  simp [IsSegment, unprintableHeader, isWhitespace]

set_option maxRecDepth 4000 in
/-- The first token. -/
theorem plain_sample : SampleToken .plain "k1" "u1" where
  header := firstHeader_isSegment
  payload := plainPayload_isSegment
  signature := by simp [IsSegment, SignedToken.plain, isWhitespace]
  decodedHeader := rfl
  decodedPayload := rfl
  key := ⟨_, rfl⟩
  signed := .head _

/-- A token whose `alg` has no text is answered with another error. -/
theorem unprintable_algorithm :
    ¬ Documented sampleCrypto (sampleSettings [firstKey])
      (unprintableHeader ++ "." ++ plainPayload ++ "." ++ "") := by
  intro h
  have hthere := authOnly_verifyJwt_iff.mp h.authErrors
  have hsegments : splitText (· = '.') (unprintableHeader ++ "." ++ plainPayload ++ "." ++ "") =
      [unprintableHeader, plainPayload, ""] :=
    splitText_segments unprintableHeader_isSegment plainPayload_isSegment rfl
  obtain ⟨⟨text, htext⟩, -⟩ := hthere _ _ _ _ _ _ _ _ hsegments rfl rfl rfl
  cases htext

end Xygo.Analysis
