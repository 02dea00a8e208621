import Xygo.Model.RuntimeConfig

/-!
# The gate of the production checks against the loaded configurations

The loaders fold the case of `STAGED_MODE` and take `0` for `false`; the gate compares the
trimmed text with `false`. So they agree but for the other spellings of a disabled staged mode,
outside of a production `NODE_ENV`.
-/

set_option autoImplicit false

namespace Xygo.Analysis

open Xygo.Computation Xygo.Model

/-- On the characters of ASCII, `toLowerCase` moves the capital letters only. -/
structure AsciiLowercase (P : Platform) : Prop where
  ascii : ∀ value : String, (∀ c ∈ value.toList, c.toNat < 128) →
    P.toLowerCase value = String.ofList (value.toList.map Char.toLower)

/-- `NODE_ENV` asks for production. -/
def ProductionNodeEnv (P : Platform) (env : ProcessEnv) : Prop :=
  ∃ text, env "NODE_ENV" = some (.text text) ∧ P.toLowerCase (trim text) = "production"

/-- `STAGED_MODE` is switched off in another spelling than `false`: by the flag, by `0`, or by
`false` with capital letters. -/
def SpelledOtherwise (P : Platform) (env : ProcessEnv) : Prop :=
  env "STAGED_MODE" = some (.flag false) ∨
    ∃ text, env "STAGED_MODE" = some (.text text) ∧ trim text ≠ "false" ∧
      (P.toLowerCase (trim text) = "false" ∨ P.toLowerCase (trim text) = "0")

variable {P : Platform} (laws : AsciiLowercase P) (env : ProcessEnv)

section Spellings

include laws

theorem toLowerCase_empty : P.toLowerCase "" = "" :=
  (laws.ascii "" (by simp)).trans (by decide)

theorem toLowerCase_true : P.toLowerCase "true" = "true" :=
  (laws.ascii "true" (by simp)).trans (by decide)

theorem toLowerCase_false : P.toLowerCase "false" = "false" :=
  (laws.ascii "false" (by simp)).trans (by decide)

end Spellings

/-- INTERNAL: the loaders read a production `NODE_ENV` as the gate does.
SOURCE: apps/api/src/auth/config.js:56; apps/web/src/runtime-config.js:45 -/
theorem normalizedText_production (laws : AsciiLowercase P) :
    normalizedText P (env "NODE_ENV") = "production" ↔ ProductionNodeEnv P env := by
  unfold normalizedText ProductionNodeEnv
  have htrim : trim "true" = "true" ∧ trim "false" = "false" := by decide
  rcases henv : env "NODE_ENV" with _ | value
  · have hempty : trim "" = "" := by decide
    simp [hempty, toLowerCase_empty laws]
  · cases value with
    | text text => simp [EnvValue.toText]
    | flag value =>
      cases value
      · simp [EnvValue.toText, htrim, toLowerCase_false laws]
      · simp [EnvValue.toText, htrim, toLowerCase_true laws]

/-- INTERNAL: what the gate asks.
SOURCE: packages/production-config/src/index.js:524-526 -/
theorem isProductionEnvironment_iff (laws : AsciiLowercase P) :
    isProductionEnvironment P env = true ↔
      ProductionNodeEnv P env ∨ ∃ text, env "STAGED_MODE" = some (.text text) ∧
        trim text = "false" := by
  have hnode : (normalizedString (env "NODE_ENV")).map P.toLowerCase = some "production" ↔
      ProductionNodeEnv P env := by
    unfold ProductionNodeEnv
    rcases henv : env "NODE_ENV" with _ | value
    · simp [normalizedString]
    · cases value with
      | flag value => simp [normalizedString]
      | text text =>
        by_cases hempty : trim text = ""
        · simp [normalizedString, hempty, toLowerCase_empty laws]
        · simp [normalizedString, hempty]
  have hstaged : normalizedString (env "STAGED_MODE") = some "false" ↔
      ∃ text, env "STAGED_MODE" = some (.text text) ∧ trim text = "false" := by
    rcases henv : env "STAGED_MODE" with _ | value
    · simp [normalizedString]
    · cases value with
      | flag value => simp [normalizedString]
      | text text =>
        by_cases hempty : trim text = ""
        · simp [normalizedString, hempty]
        · simp [normalizedString, hempty]
  unfold isProductionEnvironment
  rw [Bool.or_eq_true, decide_eq_true_iff, decide_eq_true_iff, hnode, hstaged]

/-- `STAGED_MODE` switches the staged mode off. -/
def StagedOff (P : Platform) (env : ProcessEnv) : Prop :=
  (∃ text, env "STAGED_MODE" = some (.text text) ∧ trim text = "false") ∨ SpelledOtherwise P env

/-- INTERNAL: a flag that is parsed of a text. -/
theorem parsed_text {text : String} {enabled : Bool} {error : JsError}
    (h : (if P.toLowerCase (trim text) = "true" || P.toLowerCase (trim text) = "1" then .ok true
      else if P.toLowerCase (trim text) = "false" || P.toLowerCase (trim text) = "0" then .ok false
      else .error error : Except JsError Bool) = .ok enabled) :
    enabled = false ↔ P.toLowerCase (trim text) = "false" ∨ P.toLowerCase (trim text) = "0" := by
  split at h
  · rename_i htrue
    obtain rfl := Except.ok.inj h
    rw [Bool.or_eq_true, decide_eq_true_iff, decide_eq_true_iff] at htrue
    rcases htrue with htrue | htrue <;> simp [htrue]
  · split at h
    · rename_i hfalse
      obtain rfl := Except.ok.inj h
      simpa using hfalse
    · cases h

/-- INTERNAL: the spellings of a text that is read as `false`. -/
theorem stagedOff_text (laws : AsciiLowercase P) {text : String}
    (henv : env "STAGED_MODE" = some (.text text)) :
    StagedOff P env ↔ P.toLowerCase (trim text) = "false" ∨ P.toLowerCase (trim text) = "0" := by
  unfold StagedOff SpelledOtherwise
  rw [henv]
  by_cases hfalse : trim text = "false"
  · simp [hfalse, toLowerCase_false laws]
  · simp [hfalse]

/-- INTERNAL: the API's loader switches the staged mode off in every spelling.
SOURCE: apps/api/src/auth/config.js:18-25 -/
theorem parseStagedMode_off (laws : AsciiLowercase P) {enabled : Bool}
    (h : parseStagedMode P (env "STAGED_MODE") = .ok enabled) :
    enabled = false ↔ StagedOff P env := by
  rcases henv : env "STAGED_MODE" with _ | value
  · rw [henv] at h
    obtain rfl := Except.ok.inj h
    simp [StagedOff, SpelledOtherwise, henv]
  · rw [henv] at h
    cases value with
    | flag value =>
      obtain rfl := Except.ok.inj h
      simp [StagedOff, SpelledOtherwise, henv]
    | text text => exact (parsed_text h).trans (stagedOff_text env laws henv).symm

/-- INTERNAL: the web server's loader reads `STAGED_MODE` as the API's.
SOURCE: apps/web/src/runtime-config.js:14-20 -/
theorem stagedModeEnabled_off (laws : AsciiLowercase P) {enabled : Bool}
    (h : stagedModeEnabled P (env "STAGED_MODE") = .ok enabled) :
    enabled = false ↔ StagedOff P env := by
  rcases henv : env "STAGED_MODE" with _ | value
  · rw [henv] at h
    obtain rfl := Except.ok.inj h
    simp [StagedOff, SpelledOtherwise, henv]
  · rw [henv] at h
    have hparsed := parsed_text h
    cases value with
    | text text => exact hparsed.trans (stagedOff_text env laws henv).symm
    | flag value =>
      have htrim : trim "true" = "true" ∧ trim "false" = "false" := by decide
      rw [hparsed]
      cases value
      · simp [StagedOff, SpelledOtherwise, henv, EnvValue.toText, htrim, toLowerCase_false laws]
      · simp [StagedOff, SpelledOtherwise, henv, EnvValue.toText, htrim, toLowerCase_true laws]

/-- INTERNAL: what the API takes for production.
SOURCE: apps/api/src/auth/config.js:48-82 -/
theorem auth_productionMode (laws : AsciiLowercase P) {auth : AuthConfig}
    (h : loadAuthConfig P env = .ok auth) :
    auth.productionMode = true ↔ ProductionNodeEnv P env ∨ StagedOff P env := by
  unfold loadAuthConfig at h
  obtain ⟨mode, -, h⟩ := bind_eq_ok.mp h
  obtain ⟨enabled, henabled, h⟩ := bind_eq_ok.mp h
  obtain rfl := Except.ok.inj h
  show (decide (normalizedText P (env "NODE_ENV") = "production") || !enabled) = true ↔ _
  rw [Bool.or_eq_true, decide_eq_true_iff, normalizedText_production env laws,
    Bool.not_eq_true', parseStagedMode_off env laws henabled]

/-- INTERNAL: what the web server takes for production.
SOURCE: apps/web/src/runtime-config.js:43-99 -/
theorem web_productionMode (laws : AsciiLowercase P) {origin : String → Except JsError String}
    {web : WebRuntimeConfig} (h : loadWebRuntimeConfig P origin env = .ok web) :
    web.productionMode = true ↔ ProductionNodeEnv P env ∨ StagedOff P env := by
  have hmode : webProductionMode P env = .ok web.productionMode := by
    unfold loadWebRuntimeConfig at h
    obtain ⟨productionMode, hproduction, h⟩ := bind_eq_ok.mp h
    dsimp only at h
    split at h
    · obtain ⟨session, -, h⟩ := bind_eq_ok.mp h
      obtain rfl := Except.ok.inj h
      exact hproduction
    · obtain rfl := Except.ok.inj h
      exact hproduction
  unfold webProductionMode at hmode
  split at hmode
  · rename_i hnode
    have hnode := (normalizedText_production env laws).mp hnode
    rw [← Except.ok.inj hmode]
    exact ⟨fun _ => Or.inl hnode, fun _ => rfl⟩
  · rename_i hnode
    obtain ⟨enabled, henabled, hnot⟩ := map_eq_ok.mp hmode
    rw [normalizedText_production env laws] at hnode
    rw [← hnot, Bool.not_eq_true', stagedModeEnabled_off env laws henabled]
    exact ⟨Or.inr, fun h => h.resolve_left hnode⟩

/-- **The gate of the production checks agrees with both configurations exactly on the
environments that ask for production by `NODE_ENV` or do not switch the staged mode off in
another spelling than `false`.**
SOURCE: packages/production-config/src/index.js:524-526; apps/api/src/auth/config.js:48-82;
apps/web/src/runtime-config.js:43-99 -/
theorem production_gated (laws : AsciiLowercase P) {origin : String → Except JsError String}
    {auth : AuthConfig} {web : WebRuntimeConfig} (hauth : loadAuthConfig P env = .ok auth)
    (hweb : loadWebRuntimeConfig P origin env = .ok web) :
    isProductionEnvironment P env = auth.productionMode ∧
        isProductionEnvironment P env = web.productionMode ↔
      ProductionNodeEnv P env ∨ ¬ SpelledOtherwise P env := by
  have hagree : ∀ productionMode : Bool,
      (productionMode = true ↔ ProductionNodeEnv P env ∨ StagedOff P env) →
      (isProductionEnvironment P env = productionMode ↔
        ((ProductionNodeEnv P env ∨ ∃ text, env "STAGED_MODE" = some (.text text) ∧
          trim text = "false") ↔ ProductionNodeEnv P env ∨ StagedOff P env)) := by
    intro productionMode hmode
    rw [Bool.eq_iff_iff, hmode, isProductionEnvironment_iff env laws]
  rw [hagree _ (auth_productionMode env laws hauth), hagree _ (web_productionMode env laws hweb),
    and_self]
  have hdisjoint : (∃ text, env "STAGED_MODE" = some (.text text) ∧ trim text = "false") →
      ¬ SpelledOtherwise P env := by
    rintro ⟨text, henv, hfalse⟩ (hflag | ⟨other, hother, hne, -⟩)
    · rw [henv] at hflag
      cases hflag
    · rw [henv] at hother
      cases hother
      exact hne hfalse
  unfold StagedOff
  constructor
  · intro hagree
    by_cases hnode : ProductionNodeEnv P env
    · exact Or.inl hnode
    · refine Or.inr fun hspelled => ?_
      obtain hnode' | hfalse := hagree.mpr (Or.inr (Or.inr hspelled))
      · exact hnode hnode'
      · exact hdisjoint hfalse hspelled
  · rintro (hnode | hspelled)
    · exact ⟨fun _ => Or.inl hnode, fun _ => Or.inl hnode⟩
    · constructor
      · exact fun h => h.imp_right Or.inl
      · exact fun h => h.imp_right fun hoff => hoff.resolve_right hspelled

/-- A platform whose `toLowerCase` is that of ASCII. -/
def asciiPlatform : Platform where
  sha256 _ := ""
  hmacSha256 _ _ := ""
  toLowerCase value := String.ofList (value.toList.map Char.toLower)

theorem asciiPlatform_laws : AsciiLowercase asciiPlatform := ⟨fun _ _ => rfl⟩

/-- An environment with one setting. -/
def oneSetting (name value : String) : ProcessEnv := fun other =>
  if other = name then some (.text value) else none

/-- The origin of the default application URL. -/
def localOrigin (url : String) : Except JsError String := .ok url

/-- The gate and both configurations take `STAGED_MODE=false` for production. -/
theorem production_gated_false :
    ∃ auth web, loadAuthConfig asciiPlatform (oneSetting "STAGED_MODE" " false ") = .ok auth ∧
      loadWebRuntimeConfig asciiPlatform localOrigin (oneSetting "STAGED_MODE" " false ") =
        .ok web ∧ auth.productionMode = true ∧
      isProductionEnvironment asciiPlatform (oneSetting "STAGED_MODE" " false ") =
        auth.productionMode ∧
      isProductionEnvironment asciiPlatform (oneSetting "STAGED_MODE" " false ") =
        web.productionMode := by
  refine ⟨_, _, rfl, rfl, by decide, ?_⟩
  have hweb : loadWebRuntimeConfig asciiPlatform localOrigin (oneSetting "STAGED_MODE" " false ") =
    .ok _ := rfl
  refine (production_gated _ asciiPlatform_laws rfl hweb).mpr ?_
  refine Or.inr ?_
  rintro (hflag | ⟨text, htext, hne, -⟩)
  · cases hflag
  · cases htext
    exact hne (by decide)

/-- **`STAGED_MODE=0` is production for the API and the web server, and passes the gate
unchecked.**
SOURCE: packages/production-config/src/index.js:524-526; apps/api/src/auth/config.js:23 -/
theorem ungated_zero :
    ¬ ∀ (P : Platform) (origin : String → Except JsError String) (env : ProcessEnv)
      (auth : AuthConfig) (web : WebRuntimeConfig), AsciiLowercase P →
      loadAuthConfig P env = .ok auth → loadWebRuntimeConfig P origin env = .ok web →
      isProductionEnvironment P env = auth.productionMode ∧
        isProductionEnvironment P env = web.productionMode := by
  intro hall
  obtain ⟨hauth, -⟩ := hall asciiPlatform localOrigin (oneSetting "STAGED_MODE" "0") _ _
    asciiPlatform_laws rfl rfl
  revert hauth
  decide

end Xygo.Analysis
