import Xygo.Analysis.RecommendedModules
import Xygo.Model.Provisioning

/-!
# Provisioning is canonical

The order in which an input lists its users, the case of their e-mail addresses and the blanks
around them are not to matter: the records of a tenant are those of the normalised input, whose
users are sorted. The sort is by the locale's comparison, and what is made of a user is named by the
user's place. So the records are the same for every order of the users exactly when no two different
addresses of the input compare equal.
-/

set_option autoImplicit false

namespace Xygo.Analysis

open Xygo.Computation
open Xygo.Model
open Xygo.Model.Provisioning

/-! ### What an input asks for -/

/-- The text of a member, without the blanks around it. -/
def requestedText : Option Json → String
  | some (.string text) => trim text
  | _ => ""

/-- The text of a member that may be left out. -/
def requestedOptional : Option Json → Option String
  | some (.string text) => some (trim text)
  | _ => none

/-- What a user of an input asks for. -/
def requested (T : UnicodeTable) (user : Json) : NormalizedUser where
  email := T.toLowerCase (requestedText (user.member? "email"))
  displayName := requestedText (user.member? "displayName")
  role := requestedText (user.member? "role")
  oidcSubject := requestedOptional (user.member? "oidcSubject")

/-- The users an input lists. -/
def requestedUsers (input : Json) : List Json := toArray (input.member? "users")

theorem requiredString_eq_ok_iff {value : Option Json} {label text : String} :
    Provisioning.requiredString value label = .ok text ↔ requestedText value = text ∧ text ≠ "" := by
  rcases value with _ | ⟨_ | _ | _ | own | _ | _⟩
  case some.string =>
    unfold Provisioning.requiredString requestedText
    dsimp only
    by_cases hblank : trim own = ""
    · rw [if_pos hblank, hblank]
      constructor
      · intro h
        cases h
      · rintro ⟨rfl, h⟩
        exact absurd rfl h
    · rw [if_neg hblank, Except.ok.injEq]
      constructor
      · rintro rfl
        exact ⟨rfl, hblank⟩
      · exact And.left
  all_goals
    constructor
    · intro h
      cases h
    · rintro ⟨rfl, h⟩
      exact absurd rfl h

/-- A member that may be left out is absent or a text that is not blank. -/
def OptionalText : Option Json → Prop
  | none | some .null => True
  | some (.string text) => trim text ≠ ""
  | _ => False

theorem optionalString_eq_ok_iff {value : Option Json} {label : String} {text : Option String} :
    optionalString value label = .ok text ↔
      OptionalText value ∧ requestedOptional value = text := by
  unfold optionalString
  split
  · simp [OptionalText, requestedOptional]
  · simp [OptionalText, requestedOptional]
  · rename_i hnone hnull
    simp only [bind_eq_ok, requiredString_eq_ok_iff]
    rcases value with _ | ⟨_ | _ | _ | own | _ | _⟩
    · exact absurd rfl hnone
    · exact absurd rfl hnull
    case some.string =>
      constructor
      · rintro ⟨_, ⟨rfl, hblank⟩, h⟩
        exact ⟨hblank, Except.ok.inj h⟩
      · rintro ⟨hblank, rfl⟩
        exact ⟨_, ⟨rfl, hblank⟩, rfl⟩
    all_goals
      constructor
      · rintro ⟨_, ⟨rfl, hblank⟩, -⟩
        exact absurd rfl hblank
      · rintro ⟨h, -⟩
        exact absurd h id

/-- A user the normalisation accepts. -/
structure Acceptable (user : Json) : Prop where
  email : requestedText (user.member? "email") ≠ ""
  displayName : requestedText (user.member? "displayName") ≠ ""
  role : requestedText (user.member? "role") ∈ paidClientRoles
  oidcSubject : OptionalText (user.member? "oidcSubject")

theorem ne_empty_of_paidClientRole {role : String} (h : role ∈ paidClientRoles) : role ≠ "" := by
  rintro rfl
  simp [paidClientRoles] at h

theorem normalizeUser_eq_ok_iff {T : UnicodeTable} {user : Json} {index : Nat}
    {n : NormalizedUser} :
    normalizeUser T user index = .ok n ↔ Acceptable user ∧ requested T user = n := by
  unfold normalizeUser
  simp only [bind_eq_ok, requiredString_eq_ok_iff]
  constructor
  · rintro ⟨_, ⟨rfl, hemail⟩, _, ⟨rfl, hname⟩, _, ⟨rfl, hrole⟩, h⟩
    by_cases hpaid : requestedText (user.member? "role") ∉ paidClientRoles
    · rw [if_pos hpaid] at h
      cases h
    · rw [if_neg hpaid] at h
      obtain ⟨_, hoptional, h⟩ := bind_eq_ok.mp h
      obtain ⟨hsubject, rfl⟩ := optionalString_eq_ok_iff.mp hoptional
      exact ⟨⟨hemail, hname, by simpa using hpaid, hsubject⟩, Except.ok.inj h⟩
  · rintro ⟨h, rfl⟩
    refine ⟨_, ⟨rfl, h.email⟩, _, ⟨rfl, h.displayName⟩, _,
      ⟨rfl, ne_empty_of_paidClientRole h.role⟩, ?_⟩
    rw [if_neg (by simpa using h.role)]
    exact bind_eq_ok.mpr ⟨_, optionalString_eq_ok_iff.mpr ⟨h.oidcSubject, rfl⟩, rfl⟩

/-- What a user is made of does not depend on the user's place. -/
theorem normalizeFrom_eq_ok_iff {T : UnicodeTable} {index : Nat} {users : List Json}
    {normalized : List NormalizedUser} :
    normalizeFrom T index users = .ok normalized ↔
      (∀ user ∈ users, Acceptable user) ∧ users.map (requested T) = normalized := by
  induction users generalizing index normalized with
  | nil => simp [normalizeFrom]
  | cons user users ih =>
    simp only [normalizeFrom, bind_eq_ok, normalizeUser_eq_ok_iff, ih, List.forall_mem_cons,
      List.map_cons]
    constructor
    · rintro ⟨_, ⟨hfirst, rfl⟩, _, ⟨hrest, rfl⟩, h⟩
      exact ⟨⟨hfirst, hrest⟩, Except.ok.inj h⟩
    · rintro ⟨⟨hfirst, hrest⟩, rfl⟩
      exact ⟨_, ⟨hfirst, rfl⟩, _, ⟨hrest, rfl⟩, rfl⟩

/-- Users the normalisation accepts together. -/
structure AcceptableUsers (T : UnicodeTable) (users : List Json) : Prop where
  some : users ≠ []
  each : ∀ user ∈ users, Acceptable user
  owner : ∃ n ∈ users.map (requested T), n.role = "client_owner"
  emails : ((users.map (requested T)).map NormalizedUser.email).Nodup
  subjects : ((users.map (requested T)).filterMap NormalizedUser.oidcSubject).Nodup

theorem normalizeUsers_eq_ok_iff {T : UnicodeTable} {C : Comparator String}
    {value : Option Json} {sorted : List NormalizedUser} :
    normalizeUsers T C value = .ok sorted ↔
      AcceptableUsers T (toArray value) ∧
        C.sortBy NormalizedUser.email ((toArray value).map (requested T)) = sorted := by
  unfold normalizeUsers
  split
  · rename_i first rest
    simp only [bind_eq_ok, normalizeFrom_eq_ok_iff, toArray]
    constructor
    · rintro ⟨_, ⟨heach, rfl⟩, h⟩
      split at h
      · cases h
      · rename_i howner
        split at h
        · cases h
        · rename_i hemails
          split at h
          · cases h
          · rename_i hsubjects
            have howner' : ∃ n ∈ (first :: rest).map (requested T), n.role = "client_owner" := by
              simpa only [Bool.not_eq_true', Bool.not_eq_false, List.any_eq_true,
                decide_eq_true_eq] using howner
            exact ⟨⟨List.cons_ne_nil _ _, heach, howner', not_not.mp hemails,
              not_not.mp hsubjects⟩, Except.ok.inj h⟩
    · rintro ⟨h, rfl⟩
      refine ⟨_, ⟨h.each, rfl⟩, ?_⟩
      have howner : ((first :: rest).map (requested T)).any
          (fun user => user.role = "client_owner") = true := by
        simpa only [List.any_eq_true, decide_eq_true_eq] using h.owner
      rw [howner, if_neg (by simp), if_neg (not_not.mpr h.emails),
        if_neg (not_not.mpr h.subjects)]
  · rename_i hother
    constructor
    · intro h
      cases h
    · rintro ⟨h, -⟩
      refine absurd ?_ h.some
      unfold toArray
      split
      · rename_i items
        cases items with
        | nil => rfl
        | cons first rest => exact absurd rfl (hother first rest)
      · rfl

/-- What the normalised input has of its input. -/
theorem normalizeProvisioningInput_eq_ok {T : UnicodeTable} {C : Comparator String} {input : Json}
    {config : Config} (h : normalizeProvisioningInput T C input = .ok config) :
    normalizeUsers T C (input.member? "users") = .ok config.users ∧
      config.slug = requestedText (input.member? "slug") ∧
      config.oidcIssuer = requestedOptional (input.member? "oidcIssuer") := by
  unfold normalizeProvisioningInput at h
  split at h
  · cases h
  · obtain ⟨users, husers, h⟩ := bind_eq_ok.mp h
    obtain ⟨slug, hslug, h⟩ := bind_eq_ok.mp h
    obtain ⟨businessName, -, h⟩ := bind_eq_ok.mp h
    obtain ⟨projectName, -, h⟩ := bind_eq_ok.mp h
    obtain ⟨brandName, -, h⟩ := bind_eq_ok.mp h
    obtain ⟨oidcIssuer, hissuer, h⟩ := bind_eq_ok.mp h
    have hslug' : requestedText (input.member? "slug") = slug := by
      obtain ⟨text, htext, hslug⟩ := bind_eq_ok.mp hslug
      obtain ⟨rfl, -⟩ := requiredString_eq_ok_iff.mp htext
      split at hslug
      · cases hslug
      · exact Except.ok.inj hslug
    have hissuer' := (optionalString_eq_ok_iff.mp hissuer).2
    split at h
    · cases h
    · obtain rfl := Except.ok.inj h
      exact ⟨husers, hslug'.symm, hissuer'.symm⟩

/-- The normalised input depends on the users only through theirs. -/
theorem normalizeProvisioningInput_congr {T : UnicodeTable} {C : Comparator String}
    {input input' : Json} (hothers : ∀ key, key ≠ "users" → input'.member? key = input.member? key)
    (husers : normalizeUsers T C (input'.member? "users") =
      normalizeUsers T C (input.member? "users")) :
    normalizeProvisioningInput T C input' = normalizeProvisioningInput T C input := by
  have hstaged : input'.isTrue "staged" = input.isTrue "staged" := by
    rw [Json.isTrue, Json.isTrue, hothers "staged" (by decide)]
  have hbrand : brandOf input' = brandOf input := by
    rw [brandOf, brandOf, hothers "brandName" (by decide), hothers "businessName" (by decide)]
  have hcolor : input'.orElse "primaryColor" (.string "#17324d") =
      input.orElse "primaryColor" (.string "#17324d") := by
    rw [Json.orElse, Json.orElse, hothers "primaryColor" (by decide)]
  unfold normalizeProvisioningInput
  rw [hstaged, husers, hbrand, hcolor, hothers "slug" (by decide),
    hothers "businessName" (by decide), hothers "projectName" (by decide),
    hothers "oidcIssuer" (by decide)]

/-! ### The records -/

/-- The tenant that is made. -/
theorem createTenant_eq_ok {now : String} {config : Config} {tenant : StagedTenant}
    (h : createTenant now (tenantInput config now) = .ok tenant) :
    tenant = ⟨config.tenantId, config.businessName, true, .string "active", .string now⟩ := by
  obtain ⟨id, hid, h⟩ := bind_eq_ok.mp h
  obtain ⟨name, hname, h⟩ := bind_eq_ok.mp h
  have hid' : Json.string config.tenantId = .string id :=
    Option.some.inj (Json.requiredString_eq_ok hid).1
  have hname' : Json.string config.businessName = .string name :=
    Option.some.inj (Json.requiredString_eq_ok hname).1
  cases hid'
  cases hname'
  exact (Except.ok.inj h).symm

theorem createProject_eq_ok {config : Config} {project : Project}
    (h : createProject (projectInput config) = .ok project) :
    project.id = config.tenantId ++ "-project-1" ∧ project.tenantId = config.tenantId := by
  obtain ⟨id, hid, h⟩ := bind_eq_ok.mp h
  obtain ⟨tenantId, htenantId, h⟩ := bind_eq_ok.mp h
  obtain ⟨name, hname, h⟩ := bind_eq_ok.mp h
  have hid' : Json.string (config.tenantId ++ "-project-1") = .string id :=
    Option.some.inj (Json.requiredString_eq_ok hid).1
  have htenantId' : Json.string config.tenantId = .string tenantId :=
    Option.some.inj (Json.requiredString_eq_ok htenantId).1
  cases hid'
  cases htenantId'
  obtain rfl := Except.ok.inj h
  exact ⟨rfl, rfl⟩

theorem generatePlatformBlueprint_ids {T : UnicodeTable} {config : Config}
    {blueprint : PlatformBlueprint}
    (h : generatePlatformBlueprint T (blueprintInput config) = .ok blueprint) :
    blueprint.id = config.tenantId ++ "-blueprint-1" ∧ blueprint.tenantId = config.tenantId ∧
      blueprint.intake.tenantId = config.tenantId := by
  obtain ⟨intake, hintake, h⟩ := bind_eq_ok.mp h
  obtain ⟨modules, -, h⟩ := bind_eq_ok.mp h
  cases h
  have hof := createBlueprintIntake_eq_ok_iff.mp hintake
  have hid : Json.string (config.tenantId ++ "-blueprint-1") = .string intake.id :=
    Option.some.inj (Json.requiredString_eq_ok hof.id).1
  have htenant : Json.string config.tenantId = .string intake.tenantId :=
    Option.some.inj (Json.requiredString_eq_ok hof.tenantId).1
  exact ⟨(Json.string.inj hid).symm, (Json.string.inj htenant).symm,
    (Json.string.inj htenant).symm⟩

/-- The user made at a place. -/
def madeUser (tenantId : String) (user : NormalizedUser) (index : Nat) : StagedUser where
  id := tenantId ++ "-user-" ++ place index
  tenantId := tenantId
  email := user.email
  displayName := user.displayName
  staged := true
  status := .string "active"

theorem createUser_eq_ok {tenantId : String} {user : NormalizedUser} {index : Nat}
    {made : StagedUser} (h : createUser (userInput tenantId user index) = .ok made) :
    made = madeUser tenantId user index := by
  unfold createUser at h
  obtain ⟨id, hid, h⟩ := bind_eq_ok.mp h
  obtain ⟨tenant, htenant, h⟩ := bind_eq_ok.mp h
  obtain ⟨email, hemail, h⟩ := bind_eq_ok.mp h
  obtain ⟨displayName, hname, h⟩ := bind_eq_ok.mp h
  have hid' : Json.string (tenantId ++ "-user-" ++ place index) = .string id :=
    Option.some.inj (Json.requiredString_eq_ok hid).1
  have htenant' : Json.string tenantId = .string tenant :=
    Option.some.inj (Json.requiredString_eq_ok htenant).1
  have hemail' : Json.string user.email = .string email :=
    Option.some.inj (Json.requiredString_eq_ok hemail).1
  have hname' : Json.string user.displayName = .string displayName :=
    Option.some.inj (Json.requiredString_eq_ok hname).1
  cases hid'
  cases htenant'
  cases hemail'
  cases hname'
  exact (Except.ok.inj h).symm

/-- The users that are made, each at its place. -/
theorem createUsers_eq_ok {tenantId : String} {index : Nat} {users : List NormalizedUser}
    {made : List StagedUser} (h : createUsers tenantId index users = .ok made) :
    made = (users.zipIdx index).map fun p => madeUser tenantId p.1 p.2 := by
  induction users generalizing index made with
  | nil => exact (Except.ok.inj h).symm
  | cons user users ih =>
    obtain ⟨first, hfirst, h⟩ := bind_eq_ok.mp h
    obtain ⟨rest, hrest, h⟩ := bind_eq_ok.mp h
    obtain rfl := Except.ok.inj h
    rw [List.zipIdx_cons, List.map_cons, ← createUser_eq_ok hfirst, ← ih hrest]

/-- Each normalised user beside the user made of it, at its place. -/
theorem zip_madeUsers {tenantId : String} (users : List NormalizedUser) :
    (users.zip (users.zipIdx.map fun p => madeUser tenantId p.1 p.2)).zipIdx =
      users.zipIdx.map fun p => ((p.1, madeUser tenantId p.1 p.2), p.2) := by
  apply List.ext_getElem
  · simp
  · intro n hn hn'
    simp

/-- The ids of the records that are made once. -/
def soleIds (records : ProvisioningRecords) : List String :=
  [records.tenant.id, records.businessProfile.id, records.project.id, records.blueprint.id,
    records.portalConfiguration.id, records.portalData.id, records.provisioningEvent.id] ++
  records.portalData.updates.map PortalUpdate.id

/-- The tenants that the records made once name. -/
def soleTenants (records : ProvisioningRecords) : List String :=
  [records.businessProfile.tenantId, records.project.tenantId, records.blueprint.tenantId,
    records.blueprint.intake.tenantId, records.portalConfiguration.tenantId,
    records.portalData.tenantId, records.provisioningEvent.tenantId]

/-- What the ids of the records that are made once have behind the tenant's. -/
def soleSuffixes : List String :=
  ["", "-business-profile", "-project-1", "-blueprint-1", "-portal-config", "-portal-starter",
    "-provisioned", "-portal-update-1"]

/-- What the records of a normalised input are. -/
structure RecordsOf (P : Platform) (config : Config) (records : ProvisioningRecords) : Prop where
  config_eq : records.config = config
  provisioningKey : records.provisioningKey = P.sha256 (stringify config.json)
  soleIds : soleIds records = soleSuffixes.map (config.tenantId ++ ·)
  soleTenants : ∀ tenantId ∈ soleTenants records, tenantId = records.tenant.id
  tenant : records.tenant.id = config.tenantId
  users : records.users = config.users.zipIdx.map fun p => madeUser config.tenantId p.1 p.2
  roleAssignments : records.roleAssignments = config.users.zipIdx.map fun p =>
    roleAssignment config.tenantId p.2 p.1 (madeUser config.tenantId p.1 p.2)
  oidcIdentities : records.oidcIdentities = config.users.zipIdx.filterMap fun p =>
    oidcIdentity config.tenantId config.oidcIssuer p.2 p.1 (madeUser config.tenantId p.1 p.2)

theorem recordsOf_eq_ok {P : Platform} {T : UnicodeTable} {now : String} {config : Config}
    {records : ProvisioningRecords} (h : recordsOf P T now config = .ok records) :
    RecordsOf P config records := by
  obtain ⟨tenant, htenant, h⟩ := bind_eq_ok.mp h
  obtain ⟨users, husers, h⟩ := bind_eq_ok.mp h
  obtain ⟨project, hproject, h⟩ := bind_eq_ok.mp h
  obtain ⟨blueprint, hblueprint, h⟩ := bind_eq_ok.mp h
  obtain rfl := Except.ok.inj h
  obtain rfl := createUsers_eq_ok husers
  obtain rfl := createTenant_eq_ok htenant
  obtain ⟨hproject', hprojectTenant⟩ := createProject_eq_ok hproject
  obtain ⟨hblueprint', hblueprintTenant, hintakeTenant⟩ := generatePlatformBlueprint_ids hblueprint
  refine ⟨rfl, rfl, ?_, ?_, rfl, rfl, ?_, ?_⟩
  · simp only [soleIds, soleSuffixes, hproject', hblueprint', List.map_cons, List.map_nil,
      String.append_empty, List.cons_append, List.nil_append]
  · simp only [soleTenants, hprojectTenant, hblueprintTenant, hintakeTenant]
    simp
  · dsimp only
    rw [zip_madeUsers, List.map_map]
    rfl
  · dsimp only
    rw [zip_madeUsers, List.filterMap_map]
    rfl

/-! ### The places of the users -/

theorem place_injective : Function.Injective place := by
  intro i j h
  have := Nat.repr_inj.mp h
  omega

/-- A name that ends in a place is that of one place. -/
theorem append_place_inj {front : String} {i j : Nat} :
    front ++ place i = front ++ place j ↔ i = j := by
  rw [String.append_right_inj, place_injective.eq_iff]

/-- One place of a list is found once. -/
theorem zipIdx_filter_place {α : Type} (elements : List α) {k i : Nat}
    (hi : i < elements.length) :
    (elements.zipIdx k).filter (fun p => p.2 = k + i) = [(elements[i], k + i)] := by
  induction elements generalizing k i with
  | nil => simp at hi
  | cons first rest ih =>
    rw [List.zipIdx_cons, List.filter_cons]
    cases i with
    | zero =>
      have hrest : (rest.zipIdx (k + 1)).filter (fun p => p.2 = k + 0) = [] := by
        refine List.filter_eq_nil_iff.mpr fun p hp => ?_
        have := List.le_snd_of_mem_zipIdx hp
        simp only [decide_eq_true_eq]
        omega
      rw [hrest]
      simp
    | succ i =>
      have hrest := @ih (k + 1) i (by simpa using hi)
      rw [if_neg (by simp), show k + (i + 1) = k + 1 + i by omega, hrest]
      simp

/-- What some elements are mapped to, each named like its element, is named in the same order. -/
theorem map_filterMap_sublist {α β γ : Type} {f : α → Option β} {name : β → γ} {place : α → γ}
    (h : ∀ a b, f a = some b → name b = place a) (elements : List α) :
    ((elements.filterMap f).map name).Sublist (elements.map place) := by
  induction elements with
  | nil => simp
  | cons a rest ih =>
    rw [List.filterMap_cons, List.map_cons]
    split
    · exact List.Sublist.cons _ ih
    · rename_i b hb
      rw [List.map_cons, h a b hb]
      exact List.Sublist.cons_cons _ ih

/-- Selecting among what some elements are mapped to is selecting the elements first. -/
theorem filter_filterMap_of {α β : Type} {f : α → Option β} {p : β → Bool} {q : α → Bool}
    (h : ∀ a b, f a = some b → p b = q a) (elements : List α) :
    (elements.filterMap f).filter p = (elements.filter q).filterMap f := by
  induction elements with
  | nil => rfl
  | cons a rest ih =>
    rw [List.filterMap_cons, List.filter_cons]
    cases hf : f a with
    | none =>
      by_cases hq : q a = true
      · simp [hq, hf, ih]
      · simp [hq, ih]
    | some b =>
      by_cases hq : q a = true
      · simp [hq, hf, ih, h a b hf]
      · simp [hq, ih, h a b hf]

section places

variable {P : Platform} {config : Config} {records : ProvisioningRecords}
  (h : RecordsOf P config records)

include h

/-- The user at a place has the role asked for there and no other. -/
theorem RecordsOf.roles {i : Nat} (hi : i < config.users.length) :
    (records.roleAssignments.filter fun assignment =>
        assignment.userId = (madeUser config.tenantId config.users[i] i).id).map StagedRole.role =
      [config.users[i].role] := by
  have hplace : ∀ p : NormalizedUser × Nat,
      (decide ((roleAssignment config.tenantId p.2 p.1
        (madeUser config.tenantId p.1 p.2)).userId =
          (madeUser config.tenantId config.users[i] i).id)) = decide (p.2 = 0 + i) := by
    intro p
    rw [Nat.zero_add]
    exact decide_eq_decide.mpr append_place_inj
  rw [h.roleAssignments, List.filter_map]
  simp only [Function.comp_def, hplace]
  rw [zipIdx_filter_place config.users hi]
  rfl

/-- The user at a place is bound to the subject asked for there and to no other. -/
theorem RecordsOf.identities {i : Nat} (hi : i < config.users.length) :
    (records.oidcIdentities.filter fun identity =>
        identity.userId = (madeUser config.tenantId config.users[i] i).id).map
          (fun identity => (identity.issuer, identity.subject)) =
      config.users[i].oidcSubject.toList.map fun subject => (config.oidcIssuer, subject) := by
  rw [h.oidcIdentities, filter_filterMap_of (q := fun p => decide (p.2 = 0 + i)),
    zipIdx_filter_place config.users hi]
  · cases hsubject : config.users[i].oidcSubject with
    | none => simp [oidcIdentity, hsubject]
    | some subject => simp [oidcIdentity, hsubject]
  · intro p identity hp
    obtain ⟨subject, -, rfl⟩ := Option.map_eq_some_iff.mp hp
    rw [Nat.zero_add]
    exact decide_eq_decide.mpr append_place_inj

end places

/-! ### The ids of the records -/

/-- The ids of the records. -/
def recordIds (records : ProvisioningRecords) : List String :=
  soleIds records ++ records.users.map StagedUser.id ++
    records.roleAssignments.map StagedRole.id ++ records.oidcIdentities.map StagedIdentity.id

/-- The tenants the records name. -/
def recordTenants (records : ProvisioningRecords) : List String :=
  soleTenants records ++ records.users.map StagedUser.tenantId ++
    records.roleAssignments.map StagedRole.tenantId ++
    records.oidcIdentities.map StagedIdentity.tenantId

theorem nodup_soleSuffixes : soleSuffixes.Nodup := by decide +kernel

/-- The names of the places of a list. -/
def placeNames (front : String) (users : List NormalizedUser) : List String :=
  users.zipIdx.map fun p => front ++ place p.2

theorem nodup_placeNames (front : String) (users : List NormalizedUser) :
    (placeNames front users).Nodup := by
  have hnames : placeNames front users =
      (users.zipIdx.map Prod.snd).map (fun i => front ++ place i) := by
    rw [List.map_map]
    rfl
  rw [hnames, List.zipIdx_map_snd]
  exact List.Nodup.map (fun i j h => append_place_inj.mp h) List.nodup_range'

/-- What a name of a place begins with. -/
theorem take_placeName {front name : String} {users : List NormalizedUser} {n : Nat}
    (hfront : front.toList.length = n) (h : name ∈ placeNames front users) :
    name.toList.take n = front.toList := by
  obtain ⟨p, -, rfl⟩ := List.mem_map.mp h
  rw [String.toList_append, List.take_left' hfront]

/-- What the ids have behind the tenant's are different texts. -/
theorem nodup_suffixes (users : List NormalizedUser) :
    (soleSuffixes ++ placeNames "-user-" users ++ placeNames "-role-" users ++
      placeNames "-oidc-" users).Nodup := by
  have huser : ∀ name ∈ placeNames "-user-" users, name.toList.take 6 = "-user-".toList :=
    fun name h => take_placeName (by decide) h
  have hrole : ∀ name ∈ placeNames "-role-" users, name.toList.take 6 = "-role-".toList :=
    fun name h => take_placeName (by decide) h
  have hoidc : ∀ name ∈ placeNames "-oidc-" users, name.toList.take 6 = "-oidc-".toList :=
    fun name h => take_placeName (by decide) h
  have hsole : ∀ name ∈ soleSuffixes, name.toList.take 6 ≠ "-user-".toList ∧
      name.toList.take 6 ≠ "-role-".toList ∧ name.toList.take 6 ≠ "-oidc-".toList := by
    decide +kernel
  refine List.Nodup.append (List.Nodup.append (List.Nodup.append nodup_soleSuffixes
    (nodup_placeNames _ _) ?_) (nodup_placeNames _ _) ?_) (nodup_placeNames _ _) ?_
  · intro name hname hmem
    exact (hsole name hname).1 (huser name hmem)
  · intro name hname hmem
    rcases List.mem_append.mp hname with hname | hname
    · exact (hsole name hname).2.1 (hrole name hmem)
    · exact absurd ((huser name hname).symm.trans (hrole name hmem)) (by decide)
  · intro name hname hmem
    simp only [List.mem_append] at hname
    rcases hname with (hname | hname) | hname
    · exact (hsole name hname).2.2 (hoidc name hmem)
    · exact absurd ((huser name hname).symm.trans (hoidc name hmem)) (by decide)
    · exact absurd ((hrole name hname).symm.trans (hoidc name hmem)) (by decide)

/-- No two records have one id. -/
theorem RecordsOf.nodup_ids {P : Platform} {config : Config} {records : ProvisioningRecords}
    (h : RecordsOf P config records) : (recordIds records).Nodup := by
  have husers : records.users.map StagedUser.id =
      (placeNames "-user-" config.users).map (config.tenantId ++ ·) := by
    rw [h.users, placeNames, List.map_map, List.map_map]
    exact List.map_congr_left fun p _ => String.append_assoc
  have hroles : records.roleAssignments.map StagedRole.id =
      (placeNames "-role-" config.users).map (config.tenantId ++ ·) := by
    rw [h.roleAssignments, placeNames, List.map_map, List.map_map]
    exact List.map_congr_left fun p _ => String.append_assoc
  have hidentities : (records.oidcIdentities.map StagedIdentity.id).Sublist
      ((placeNames "-oidc-" config.users).map (config.tenantId ++ ·)) := by
    rw [h.oidcIdentities, placeNames, List.map_map]
    refine map_filterMap_sublist (fun p identity hp => ?_) config.users.zipIdx
    obtain ⟨subject, -, rfl⟩ := Option.map_eq_some_iff.mp hp
    exact String.append_assoc
  have hsub : (recordIds records).Sublist ((soleSuffixes ++ placeNames "-user-" config.users ++
      placeNames "-role-" config.users ++ placeNames "-oidc-" config.users).map
        (config.tenantId ++ ·)) := by
    rw [recordIds, h.soleIds, husers, hroles, List.map_append, List.map_append, List.map_append]
    exact (List.Sublist.refl _).append hidentities
  exact hsub.nodup (List.Nodup.map (fun a b hab => (String.append_right_inj _).mp hab)
    (nodup_suffixes config.users))

/-- Every record names the tenant. -/
theorem RecordsOf.tenants {P : Platform} {config : Config} {records : ProvisioningRecords}
    (h : RecordsOf P config records) :
    ∀ tenantId ∈ recordTenants records, tenantId = records.tenant.id := by
  intro tenantId hmem
  simp only [recordTenants, List.mem_append] at hmem
  rcases hmem with ((hmem | hmem) | hmem) | hmem
  · exact h.soleTenants tenantId hmem
  · rw [h.users, List.map_map] at hmem
    obtain ⟨p, -, rfl⟩ := List.mem_map.mp hmem
    exact h.tenant.symm
  · rw [h.roleAssignments, List.map_map] at hmem
    obtain ⟨p, -, rfl⟩ := List.mem_map.mp hmem
    exact h.tenant.symm
  · rw [h.oidcIdentities] at hmem
    obtain ⟨identity, hidentity, rfl⟩ := List.mem_map.mp hmem
    obtain ⟨p, -, hp⟩ := List.mem_filterMap.mp hidentity
    obtain ⟨subject, -, rfl⟩ := Option.map_eq_some_iff.mp hp
    exact h.tenant.symm

/-! ### The order of the users -/

/-- Two texts of one address: the same but for the case of letters and the blanks around it. -/
def SameAddress (T : UnicodeTable) (text text' : String) : Prop :=
  T.toLowerCase (trim text) = T.toLowerCase (trim text') ∧ (trim text = "" ↔ trim text' = "")

/-- Two entries for one user, with the same address. -/
structure SameUser (T : UnicodeTable) (user user' : Json) : Prop where
  others : ∀ key, key ≠ "email" → user'.member? key = user.member? key
  email : ∃ text text', user.member? "email" = some (.string text) ∧
    user'.member? "email" = some (.string text') ∧ SameAddress T text text'

/-- Two inputs with the same users in some order. -/
structure Reordered (T : UnicodeTable) (input input' : Json) : Prop where
  others : ∀ key, key ≠ "users" → input'.member? key = input.member? key
  users : ∃ moved, (requestedUsers input).Perm moved ∧
    List.Forall₂ (SameUser T) moved (requestedUsers input')

/-- What is asked for a user is in the records: one user with the address, with the role and no
other, bound to the subject and to no other. -/
def AsRequested (T : UnicodeTable) (input : Json) (records : ProvisioningRecords) (user : Json) : Prop :=
  ∃ made ∈ records.users, made.email = (requested T user).email ∧
    (∀ other ∈ records.users, other.email = made.email → other = made) ∧
    (records.roleAssignments.filter fun assignment => assignment.userId = made.id).map
        StagedRole.role = [(requested T user).role] ∧
    (records.oidcIdentities.filter fun identity => identity.userId = made.id).map
        (fun identity => (identity.issuer, identity.subject)) =
      (requested T user).oidcSubject.toList.map fun subject =>
        (requestedOptional (input.member? "oidcIssuer"), subject)

/-- What canonical provisioning promises of the records of an input. -/
structure Canonical (P : Platform) (T : UnicodeTable) (C : Comparator String) (input : Json)
    (records : ProvisioningRecords) : Prop where
  stable : ∀ input' now', Reordered T input input' → ∃ records',
    buildStagedTenantProvisioning P T C now' input' = .ok records' ∧
      records'.provisioningKey = records.provisioningKey ∧ records'.users = records.users ∧
      records'.roleAssignments = records.roleAssignments ∧
      records'.oidcIdentities = records.oidcIdentities
  emails : (records.users.map StagedUser.email).Perm
    ((requestedUsers input).map fun user => (requested T user).email)
  kept : ∀ user ∈ requestedUsers input, AsRequested T input records user
  ids : (recordIds records).Nodup
  tenant : ∀ tenantId ∈ recordTenants records, tenantId = records.tenant.id
  tenantId : records.tenant.id = "tenant-" ++ requestedText (input.member? "slug")

section order

variable {P : Platform} {T : UnicodeTable} {C : Comparator String}

/-- Entries for one user with the same address ask for the same. -/
theorem SameUser.requested_eq {user user' : Json} (h : SameUser T user user') :
    requested T user' = requested T user := by
  obtain ⟨text, text', htext, htext', hsame, -⟩ := h.email
  rw [requested, requested, htext, htext', h.others "displayName" (by decide),
    h.others "role" (by decide), h.others "oidcSubject" (by decide)]
  simp only [requestedText, hsame]

theorem SameUser.acceptable {user user' : Json} (h : SameUser T user user')
    (huser : Acceptable user) : Acceptable user' := by
  obtain ⟨text, text', htext, htext', -, hblank⟩ := h.email
  have hemail := huser.email
  rw [htext] at hemail
  refine ⟨?_, ?_, ?_, ?_⟩
  · rw [htext']
    exact fun h => hemail (hblank.mpr h)
  · rw [h.others "displayName" (by decide)]
    exact huser.displayName
  · rw [h.others "role" (by decide)]
    exact huser.role
  · rw [h.others "oidcSubject" (by decide)]
    exact huser.oidcSubject

theorem SameUser.refl {user : Json} (h : Acceptable user) : SameUser T user user := by
  refine ⟨fun _ _ => rfl, ?_⟩
  have hemail := h.email
  generalize user.member? "email" = value at hemail
  unfold requestedText at hemail
  split at hemail
  · rename_i text
    exact ⟨text, text, rfl, rfl, rfl, Iff.rfl⟩
  · exact absurd rfl hemail

/-- What users in another order ask for is what they ask for in another order. -/
theorem requested_perm {users moved users' : List Json} (hperm : users.Perm moved)
    (hsame : List.Forall₂ (SameUser T) moved users') :
    (users.map (requested T)).Perm (users'.map (requested T)) := by
  have heq : users'.map (requested T) = moved.map (requested T) := by
    clear hperm
    induction hsame with
    | nil => rfl
    | cons h _ ih => rw [List.map_cons, List.map_cons, h.requested_eq, ih]
  rw [heq]
  exact hperm.map _

/-- Users in another order are accepted like them. -/
theorem AcceptableUsers.reordered {users moved users' : List Json} (h : AcceptableUsers T users)
    (hperm : users.Perm moved) (hsame : List.Forall₂ (SameUser T) moved users') :
    AcceptableUsers T users' := by
  have hrequested := requested_perm hperm hsame
  refine ⟨?_, ?_, ?_, ?_, ?_⟩
  · rintro rfl
    exact h.some (List.perm_nil.mp (List.forall₂_nil_right_iff.mp hsame ▸ hperm))
  · intro user' huser'
    obtain ⟨i, hi, rfl⟩ := List.getElem_of_mem huser'
    have hi' : i < moved.length := hsame.length_eq ▸ hi
    exact (hsame.get hi' hi).acceptable
      (h.each _ (hperm.mem_iff.mpr (List.getElem_mem hi')))
  · obtain ⟨n, hn, howner⟩ := h.owner
    exact ⟨n, hrequested.mem_iff.mp hn, howner⟩
  · exact ((hrequested.map _).nodup_iff).mp h.emails
  · exact ((hrequested.filterMap _).nodup_iff).mp h.subjects

/-- The same records but for their times are made at every time. -/
theorem recordsOf_at {now : String} {config : Config} {records : ProvisioningRecords}
    (h : recordsOf P T now config = .ok records) (now' : String) :
    ∃ records', recordsOf P T now' config = .ok records' := by
  obtain ⟨tenant, htenant, h⟩ := bind_eq_ok.mp h
  obtain ⟨users, husers, h⟩ := bind_eq_ok.mp h
  obtain ⟨project, hproject, h⟩ := bind_eq_ok.mp h
  obtain ⟨blueprint, hblueprint, -⟩ := bind_eq_ok.mp h
  obtain ⟨id, hid, htenant⟩ := bind_eq_ok.mp htenant
  obtain ⟨name, hname, -⟩ := bind_eq_ok.mp htenant
  have htenant' : createTenant now' (tenantInput config now') =
      .ok ⟨id, name, true, .string "active", .string now'⟩ :=
    bind_eq_ok.mpr ⟨id, hid, bind_eq_ok.mpr ⟨name, hname, rfl⟩⟩
  exact ⟨_, bind_eq_ok.mpr ⟨_, htenant', bind_eq_ok.mpr ⟨_, husers, bind_eq_ok.mpr
    ⟨_, hproject, bind_eq_ok.mpr ⟨_, hblueprint, rfl⟩⟩⟩⟩⟩

/-- What is asked for each user is in the records. -/
theorem kept_of_records {input : Json} {config : Config} {records : ProvisioningRecords}
    (hconfig : normalizeProvisioningInput T C input = .ok config)
    (h : RecordsOf P config records) : ∀ user ∈ requestedUsers input, AsRequested T input records user := by
  intro user huser
  obtain ⟨husers, -, hissuer⟩ := normalizeProvisioningInput_eq_ok hconfig
  obtain ⟨haccept, hsorted⟩ := normalizeUsers_eq_ok_iff.mp husers
  have hperm := C.sortBy_perm NormalizedUser.email ((requestedUsers input).map (requested T))
  rw [requestedUsers, hsorted] at hperm
  obtain ⟨i, hi, hrequested⟩ :=
    List.getElem_of_mem (hperm.mem_iff.mpr (List.mem_map_of_mem huser))
  have hemails : (config.users.map NormalizedUser.email).Nodup :=
    ((hperm.map _).nodup_iff).mpr haccept.emails
  refine ⟨madeUser config.tenantId config.users[i] i, ?_, ?_, ?_, ?_, ?_⟩
  · rw [h.users]
    exact List.mem_map.mpr ⟨(config.users[i], i), List.mk_mem_zipIdx_iff_getElem?.mpr (by simp), rfl⟩
  · rw [← hrequested]
    rfl
  · intro other hother hsame
    rw [h.users] at hother
    obtain ⟨⟨n, j⟩, hmem, rfl⟩ := List.mem_map.mp hother
    obtain ⟨hj, rfl⟩ := List.getElem?_eq_some_iff.mp (List.mk_mem_zipIdx_iff_getElem?.mp hmem)
    have hj' : j < (config.users.map NormalizedUser.email).length := by simpa using hj
    have hi' : i < (config.users.map NormalizedUser.email).length := by simpa using hi
    have hget : (config.users.map NormalizedUser.email)[j] =
        (config.users.map NormalizedUser.email)[i] := by
      simpa [madeUser] using hsame
    obtain rfl := hemails.getElem_inj_iff.mp hget
    rfl
  · rw [h.roles hi, hrequested]
  · rw [h.identities hi, hrequested, hissuer]

end order

/-- No two different addresses an input asks for compare equal. -/
def Separated (T : UnicodeTable) (C : Comparator String) (input : Json) : Prop :=
  ∀ user ∈ requestedUsers input, ∀ other ∈ requestedUsers input,
    C.compare (requested T user).email (requested T other).email = 0 →
      (requested T user).email = (requested T other).email

/-- Users with different addresses are different, in the normalised input. -/
theorem eq_of_email {users : List NormalizedUser}
    (h : (users.map NormalizedUser.email).Nodup) {a b : NormalizedUser} (ha : a ∈ users)
    (hb : b ∈ users) (hemail : a.email = b.email) : a = b :=
  List.inj_on_of_nodup_map h ha hb hemail

/-- Separate addresses are sorted the same in every order. -/
theorem normalizeUsers_reordered {T : UnicodeTable} {C : Comparator String} {input input' : Json}
    {sorted : List NormalizedUser} (hsep : Separated T C input)
    (h : normalizeUsers T C (input.member? "users") = .ok sorted)
    (hreorder : Reordered T input input') :
    normalizeUsers T C (input'.member? "users") = .ok sorted := by
  obtain ⟨haccept, hsorted⟩ := normalizeUsers_eq_ok_iff.mp h
  obtain ⟨moved, hperm, hsame⟩ := hreorder.users
  refine normalizeUsers_eq_ok_iff.mpr ⟨haccept.reordered hperm hsame, ?_⟩
  rw [← hsorted]
  refine (C.sortBy_eq_of_perm _ (requested_perm hperm hsame) ?_).symm
  intro a ha b hb htie
  refine eq_of_email haccept.emails ha hb ?_
  obtain ⟨user, huser, rfl⟩ := List.mem_map.mp ha
  obtain ⟨other, hother, rfl⟩ := List.mem_map.mp hb
  exact hsep user huser other hother htie

/-- An input with other users. -/
def withUsers (input : Json) (users : List Json) : Json :=
  match input with
  | .object members => .object (("users", .array users) :: members)
  | _ => .object [("users", .array users)]

theorem requestedUsers_withUsers (input : Json) (users : List Json) :
    requestedUsers (withUsers input users) = users := by
  cases input <;> rfl

theorem member_withUsers (input : Json) (users : List Json) {key : String} (h : key ≠ "users") :
    (withUsers input users).member? key = input.member? key := by
  have hkey : (key == "users") = false := by simpa using h
  cases input <;> simp [withUsers, Json.member?, List.lookup, hkey]

/-- An order of what is asked for is that of the users in some order. -/
theorem exists_users_of_perm {T : UnicodeTable} {users : List Json} {xs : List NormalizedUser}
    (h : (users.map (requested T)).Perm xs) :
    ∃ users', users.Perm users' ∧ users'.map (requested T) = xs := by
  have hforall : List.Forall₂ (fun n user => requested T user = n) (users.map (requested T))
      users := by
    clear h
    induction users with
    | nil => exact List.Forall₂.nil
    | cons user users ih => exact List.Forall₂.cons rfl ih
  obtain ⟨users', hmap, hperm⟩ := List.perm_comp_forall₂ h.symm hforall
  refine ⟨users', hperm.symm, ?_⟩
  clear h hperm
  induction hmap with
  | nil => rfl
  | cons hfirst _ ih => rw [List.map_cons, hfirst, ih]

/-- Two orders of the same users with the same addresses in a row are one. -/
theorem eq_of_emails {users xs ys : List NormalizedUser}
    (hnodup : (users.map NormalizedUser.email).Nodup) (hxs : xs ⊆ users) (hys : ys ⊆ users)
    (h : xs.map NormalizedUser.email = ys.map NormalizedUser.email) : xs = ys := by
  have hlength : xs.length = ys.length := by simpa using congrArg List.length h
  refine List.ext_getElem hlength fun i hi hi' => ?_
  refine eq_of_email hnodup (hxs (List.getElem_mem hi)) (hys (List.getElem_mem hi')) ?_
  have hget := List.getElem_of_eq h (by simpa using hi)
  simpa using hget

/-- The addresses of the made users are those of the normalised input. -/
theorem RecordsOf.emails {P : Platform} {config : Config} {records : ProvisioningRecords}
    (h : RecordsOf P config records) :
    records.users.map StagedUser.email = config.users.map NormalizedUser.email := by
  rw [h.users, List.map_map]
  conv_rhs => rw [← List.zipIdx_map_fst 0 config.users, List.map_map]
  rfl

section canonical

variable {P : Platform} {T : UnicodeTable} {C : Comparator String} {now : String} {input : Json}
  {records : ProvisioningRecords}

/-- What an order of the users that is provisioned like them is sorted into. -/
theorem sortBy_of_stable (h : buildStagedTenantProvisioning P T C now input = .ok records)
    (hcanonical : Canonical P T C input records) {users' : List Json}
    (hmoved : (requestedUsers input).Perm users') :
    C.sortBy NormalizedUser.email (users'.map (requested T)) =
      C.sortBy NormalizedUser.email ((requestedUsers input).map (requested T)) := by
  obtain ⟨config, hconfig, hrecords⟩ := bind_eq_ok.mp h
  obtain ⟨husers, -⟩ := normalizeProvisioningInput_eq_ok hconfig
  obtain ⟨haccept, hsorted⟩ := normalizeUsers_eq_ok_iff.mp husers
  have hreorder : Reordered T input (withUsers input users') := by
    refine ⟨fun key hkey => member_withUsers input users' hkey, users', hmoved, ?_⟩
    rw [requestedUsers_withUsers]
    exact List.forall₂_same.mpr fun u hu =>
      SameUser.refl (haccept.each u (hmoved.mem_iff.mpr hu))
  obtain ⟨records', h', -, hsame, -⟩ := hcanonical.stable _ now hreorder
  obtain ⟨config', hconfig', hrecords'⟩ := bind_eq_ok.mp h'
  obtain ⟨husers', -⟩ := normalizeProvisioningInput_eq_ok hconfig'
  obtain ⟨-, hsorted'⟩ := normalizeUsers_eq_ok_iff.mp husers'
  rw [← requestedUsers, requestedUsers_withUsers] at hsorted'
  rw [← requestedUsers] at hsorted
  have hperm : config.users.Perm ((requestedUsers input).map (requested T)) :=
    hsorted ▸ C.sortBy_perm _ _
  have hperm' : config'.users.Perm (users'.map (requested T)) := hsorted' ▸ C.sortBy_perm _ _
  have hemails : config'.users.map NormalizedUser.email =
      config.users.map NormalizedUser.email := by
    rw [← (recordsOf_eq_ok hrecords').emails, hsame, (recordsOf_eq_ok hrecords).emails]
  have hsubset : config'.users ⊆ (requestedUsers input).map (requested T) :=
    fun n hn => (hmoved.map _).mem_iff.mpr (hperm'.mem_iff.mp hn)
  rw [hsorted', eq_of_emails haccept.emails hsubset hperm.subset hemails, hsorted]

/-- Canonical provisioning needs separate addresses: of two that compare equal either can come
first. -/
theorem Canonical.separated (h : buildStagedTenantProvisioning P T C now input = .ok records)
    (hcanonical : Canonical P T C input records) : Separated T C input := by
  intro user huser other hother htie
  obtain ⟨config, hconfig, -⟩ := bind_eq_ok.mp h
  obtain ⟨husers, -⟩ := normalizeProvisioningInput_eq_ok hconfig
  obtain ⟨haccept, -⟩ := normalizeUsers_eq_ok_iff.mp husers
  have hnodup : ((requestedUsers input).map (requested T)).Nodup := haccept.emails.of_map
  have hinvariant : ∀ xs, ((requestedUsers input).map (requested T)).Perm xs →
      C.sortBy NormalizedUser.email xs =
        C.sortBy NormalizedUser.email ((requestedUsers input).map (requested T)) := by
    intro xs hxs
    obtain ⟨users', hmoved, rfl⟩ := exists_users_of_perm hxs
    exact sortBy_of_stable h hcanonical hmoved
  have hsep := (C.sortBy_perm_invariant_iff _ hnodup).mp hinvariant
  rw [hsep _ (List.mem_map_of_mem huser) _ (List.mem_map_of_mem hother) htie]

/-- Separate addresses are provisioned canonically. -/
theorem Separated.canonical (h : buildStagedTenantProvisioning P T C now input = .ok records)
    (hsep : Separated T C input) : Canonical P T C input records := by
  obtain ⟨config, hconfig, hrecords⟩ := bind_eq_ok.mp h
  obtain ⟨husers, hslug, -⟩ := normalizeProvisioningInput_eq_ok hconfig
  obtain ⟨haccept, hsorted⟩ := normalizeUsers_eq_ok_iff.mp husers
  have hof := recordsOf_eq_ok hrecords
  have hperm : config.users.Perm ((requestedUsers input).map (requested T)) :=
    hsorted ▸ C.sortBy_perm _ _
  refine ⟨?_, ?_, kept_of_records hconfig hof, hof.nodup_ids, hof.tenants, ?_⟩
  · intro input' now' hreorder
    have husers' := normalizeUsers_reordered hsep husers hreorder
    have hconfig' : normalizeProvisioningInput T C input' = .ok config :=
      (normalizeProvisioningInput_congr hreorder.others (husers'.trans husers.symm)).trans hconfig
    obtain ⟨records', hrecords'⟩ := recordsOf_at hrecords now'
    have hof' := recordsOf_eq_ok hrecords'
    refine ⟨records', bind_eq_ok.mpr ⟨config, hconfig', hrecords'⟩, ?_, ?_, ?_, ?_⟩
    · rw [hof'.provisioningKey, hof.provisioningKey]
    · rw [hof'.users, hof.users]
    · rw [hof'.roleAssignments, hof.roleAssignments]
    · rw [hof'.oidcIdentities, hof.oidcIdentities]
  · have hemails := hperm.map NormalizedUser.email
    rw [List.map_map] at hemails
    exact hof.emails ▸ hemails
  · rw [hof.tenant, Config.tenantId, hslug]

end canonical

/-- **Provisioning is canonical for an input exactly when no two different addresses of it compare
equal.** -/
theorem provisioning_canonical_iff (P : Platform) (T : UnicodeTable) (C : Comparator String)
    (now : String) (input : Json) (records : ProvisioningRecords)
    (h : buildStagedTenantProvisioning P T C now input = .ok records) :
    Canonical P T C input records ↔ Separated T C input :=
  ⟨Canonical.separated h, Separated.canonical h⟩

/-- The characters of a text, an accented one as its letter and its accent. -/
def decomposed (text : String) : List Nat :=
  text.toList.flatMap fun c => if c.toNat = 0xE9 then [0x65, 0x301] else [c.toNat]

/-- The comparison of a locale: an accented letter is its letter and its accent. -/
def accents : Comparator String := Comparator.ofKey decomposed

/-- The address of the owner: one character is an accented letter. -/
def composedAddress : String := String.ofList [Char.ofNat 0xE9, '@', 'x']

/-- The address of another user: two characters are the accented letter. -/
def decomposedAddress : String := String.ofList ['e', Char.ofNat 0x301, '@', 'x']

/-- The entry of a user. -/
def userEntry (email displayName role : String) : Json :=
  .object [("email", .string email), ("displayName", .string displayName),
    ("role", .string role)]

/-- The input of a tenant. -/
def tenantEntry (users : List Json) : Json :=
  .object [("staged", .bool true), ("slug", .string "a"), ("businessName", .string "A"),
    ("projectName", .string "P"), ("users", .array users)]

/-- Two users with one address in two forms. -/
def twinUsers : List Json :=
  [userEntry composedAddress "O" "client_owner", userEntry decomposedAddress "S" "client_staff"]

/-- Two users with different addresses. -/
def pairUsers : List Json :=
  [userEntry "o@x" "O" "client_owner", userEntry "s@x" "S" "client_staff"]

/-- The normalised input of a tenant whose users are in order. -/
def sortedConfig (T : UnicodeTable) (users : List Json) : Config :=
  ⟨"a", "A", "P", "A", .string "#17324d", users.map (requested T), none⟩

/-- Users in order, without subjects, are normalised to what they ask for. -/
theorem normalizeProvisioningInput_sorted {T : UnicodeTable} {C : Comparator String}
    {users : List Json} (haccept : AcceptableUsers T users)
    (hsorted : (users.map (requested T)).Pairwise fun a b => C.compare a.email b.email ≤ 0)
    (hnone : (users.map (requested T)).any (fun user => user.oidcSubject.isSome) = false) :
    normalizeProvisioningInput T C (tenantEntry users) = .ok (sortedConfig T users) := by
  have hsort : C.sortBy NormalizedUser.email (users.map (requested T)) =
      users.map (requested T) :=
    List.mergeSort_of_pairwise (hsorted.imp fun h => (C.le_iff _ _ _).mpr h)
  have husers : normalizeUsers T C (some (.array users)) = .ok (users.map (requested T)) :=
    normalizeUsers_eq_ok_iff.mpr ⟨haccept, hsort⟩
  unfold normalizeProvisioningInput
  rw [show (tenantEntry users).member? "users" = some (.array users) from rfl, husers]
  show (if ((users.map (requested T)).any (fun user => user.oidcSubject.isSome) && true) = true
    then _ else _) = _
  rw [hnone]
  rfl

theorem acceptable_twinUsers : AcceptableUsers asciiTable twinUsers := by
  refine ⟨by decide, ?_, by decide +kernel, by decide +kernel, by decide +kernel⟩
  intro user huser
  fin_cases huser
  · exact ⟨by decide +kernel, by decide +kernel, by decide +kernel, trivial⟩
  · exact ⟨by decide +kernel, by decide +kernel, by decide +kernel, trivial⟩

theorem acceptable_pairUsers : AcceptableUsers asciiTable pairUsers := by
  refine ⟨by decide, ?_, by decide +kernel, by decide +kernel, by decide +kernel⟩
  intro user huser
  fin_cases huser
  · exact ⟨by decide +kernel, by decide +kernel, by decide +kernel, trivial⟩
  · exact ⟨by decide +kernel, by decide +kernel, by decide +kernel, trivial⟩

/-- A platform whose digest of a text is the text. -/
def textPlatform : Platform := ⟨id, fun _ text => text, id⟩

/-- **Two addresses of one text in two forms are provisioned in the order they are listed.** -/
theorem provisioning_order_kept : ∃ records,
    buildStagedTenantProvisioning textPlatform asciiTable accents "" (tenantEntry twinUsers) =
        .ok records ∧
      ¬ Canonical textPlatform asciiTable accents (tenantEntry twinUsers) records := by
  have hconfig : normalizeProvisioningInput asciiTable accents (tenantEntry twinUsers) =
      .ok (sortedConfig asciiTable twinUsers) :=
    normalizeProvisioningInput_sorted acceptable_twinUsers (by decide +kernel) (by decide +kernel)
  have hbuild : buildStagedTenantProvisioning textPlatform asciiTable accents ""
      (tenantEntry twinUsers) = _ := bind_eq_ok.mpr ⟨_, hconfig, rfl⟩
  refine ⟨_, hbuild, fun hcanonical => ?_⟩
  have howner : userEntry composedAddress "O" "client_owner" ∈ twinUsers := List.mem_cons_self
  have hstaff : userEntry decomposedAddress "S" "client_staff" ∈ twinUsers :=
    List.mem_cons_of_mem _ List.mem_cons_self
  have hsame := hcanonical.separated hbuild _ howner _ hstaff (by decide +kernel)
  exact absurd hsame (by decide +kernel)

theorem provisioning_canonical_pair : ∃ records,
    buildStagedTenantProvisioning textPlatform asciiTable accents "" (tenantEntry pairUsers) =
        .ok records ∧
      Canonical textPlatform asciiTable accents (tenantEntry pairUsers) records := by
  have hconfig : normalizeProvisioningInput asciiTable accents (tenantEntry pairUsers) =
      .ok (sortedConfig asciiTable pairUsers) :=
    normalizeProvisioningInput_sorted acceptable_pairUsers (by decide +kernel) (by decide +kernel)
  have hbuild : buildStagedTenantProvisioning textPlatform asciiTable accents ""
      (tenantEntry pairUsers) = _ := bind_eq_ok.mpr ⟨_, hconfig, rfl⟩
  refine ⟨_, hbuild, (provisioning_canonical_iff _ _ _ _ _ _ hbuild).mpr ?_⟩
  unfold Separated
  decide +kernel

end Xygo.Analysis
