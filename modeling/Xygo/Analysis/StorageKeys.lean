import Xygo.Analysis.PageTraversal
import Xygo.Model.FileStorage

/-!
# The keys of stored objects

A key is made of a tenant's text, with all foreign characters replaced, and of a UUID; the storage
checks a key with a pattern and resolves it. Every key that is made passes the pattern, an accepted
key leads strictly below the root and to no metadata file, and a key gives the digest of its tenant
and its id back (`storage_keys_sound`).
-/

set_option autoImplicit false

namespace Xygo.Analysis

open Xygo.Computation Xygo.Model Xygo.Model.FileStorage

/-- A digest of 32 bytes in hexadecimal. -/
structure IsHexDigest (text : String) : Prop where
  length : text.toList.length = 64
  digits : ∀ c ∈ text.toList, c.isDigit = true ∨ 'a' ≤ c ∧ c ≤ 'f'

/-- The 36 hexadecimal digits and dashes of a UUID. -/
structure IsUuid (text : String) : Prop where
  length : text.toList.length = 36
  digits : ∀ c ∈ text.toList, isIdChar c = true

/-- A path strictly below another one: proper names lead there. -/
def IsBelow (root path : AbsolutePath) : Prop :=
  ∃ names, names ≠ [] ∧ (∀ name ∈ names, isName name = true) ∧ path = root ++ names

/-! ## Characters -/

/-- INTERNAL: a character of a key's names is no slash and no dot. -/
theorem plain_of_isPrefixChar {c : Char} (h : isPrefixChar c = true) : c ≠ '/' ∧ c ≠ '.' := by
  constructor
  · rintro rfl
    exact absurd h (by decide)
  · rintro rfl
    exact absurd h (by decide)

theorem plain_of_isIdChar {c : Char} (h : isIdChar c = true) : c ≠ '/' ∧ c ≠ '.' := by
  constructor
  · rintro rfl
    exact absurd h (by decide)
  · rintro rfl
    exact absurd h (by decide)

theorem plain_of_isLower {c : Char} (h : c.isLower = true) : c ≠ '/' ∧ c ≠ '.' := by
  constructor
  · rintro rfl
    exact absurd h (by decide)
  · rintro rfl
    exact absurd h (by decide)

/-- INTERNAL: a text of plain characters is a name. -/
theorem isName_of_plain {text : String} (hne : text ≠ "")
    (h : ∀ c ∈ text.toList, c ≠ '/' ∧ c ≠ '.') : isName text = true ∧ '/' ∉ text.toList := by
  have hslash : '/' ∉ text.toList := fun hc => (h '/' hc).1 rfl
  have hdot : '.' ∉ text.toList := fun hc => (h '.' hc).2 rfl
  have hone : text ≠ "." := by
    rintro rfl
    exact hdot (by decide)
  have htwo : text ≠ ".." := by
    rintro rfl
    exact hdot (by decide)
  simp [isName, hne, hone, htwo, hslash]

/-- INTERNAL: what the replacement leaves are characters of a prefix.
SOURCE: packages/file-storage/src/index.js:171 -/
theorem isPrefixChar_of_mem_dashRuns {inRun : Bool} {text : List Char} {c : Char}
    (h : c ∈ dashRuns inRun text) : isPrefixChar c = true := by
  induction text generalizing inRun with
  | nil => cases h
  | cons d rest ih =>
    rw [dashRuns] at h
    split at h
    · rename_i hd
      obtain rfl | h := List.mem_cons.mp h
      · exact hd
      · exact ih h
    · split at h
      · exact ih h
      · obtain rfl | h := List.mem_cons.mp h
        · decide
        · exact ih h

theorem mem_of_mem_stripDashes {text : List Char} {c : Char} (h : c ∈ stripDashes text) :
    c ∈ text := by
  unfold stripDashes at h
  rw [List.mem_reverse] at h
  have hinner := (List.dropWhile_sublist _).mem h
  rw [List.mem_reverse] at hinner
  exact (List.dropWhile_sublist _).mem hinner

section

variable {P : Platform}

/-- INTERNAL: the digest of a tenant has twelve characters, all of a prefix.
SOURCE: packages/file-storage/src/index.js:172 -/
theorem tenantDigest_spec {tenantId : String} (h : IsHexDigest (P.sha256 tenantId)) :
    (tenantDigest P tenantId).toList.length = 12 ∧
      ∀ c ∈ (tenantDigest P tenantId).toList, isPrefixChar c = true := by
  unfold tenantDigest slicePrefix
  rw [String.toList_ofList]
  constructor
  · rw [List.length_take, h.length]
    rfl
  · intro c hc
    obtain hdigit | ⟨hlow, hhigh⟩ := h.digits c (List.mem_of_mem_take hc)
    · simp [isPrefixChar, hdigit]
    · have hlower : c.isLower = true := by
        rw [Char.isLower, Bool.and_eq_true, decide_eq_true_eq, decide_eq_true_eq]
        exact ⟨hlow, hhigh.trans (by decide)⟩
      simp [isPrefixChar, hlower]

/-- INTERNAL: the prefix of a tenant is not empty, and its characters are those of a prefix.
SOURCE: packages/file-storage/src/index.js:170-174 -/
theorem tenantPrefix_spec {tenantId : String} (h : IsHexDigest (P.sha256 tenantId)) :
    isOneOrMore isPrefixChar (tenantPrefix P tenantId) = true := by
  have hdigest := (tenantDigest_spec h).2
  have hreadable : ∀ c ∈ (stripDashes (dashRuns false (P.toLowerCase tenantId).toList)).take 48,
      isPrefixChar c = true := fun c hc =>
    isPrefixChar_of_mem_dashRuns (mem_of_mem_stripDashes (List.mem_of_mem_take hc))
  rw [isOneOrMore, Bool.and_eq_true]
  constructor
  · have hdash : '-' ∈ (tenantPrefix P tenantId).toList := by simp [tenantPrefix]
    apply decide_eq_true
    intro hempty
    rw [hempty] at hdash
    cases hdash
  · rw [List.all_eq_true]
    intro c hc
    have hdefault : "tenant".toList.all isPrefixChar = true := by decide
    have hjoint : "-".toList.all isPrefixChar = true := by decide
    rw [List.all_eq_true] at hdefault hjoint
    simp only [tenantPrefix, String.toList_append, String.toList_ofList, List.mem_append] at hc
    obtain (hc | hc) | hc := hc
    · split at hc
      · exact hdefault c hc
      · exact hreadable c hc
    · exact hjoint c hc
    · exact hdigest c hc

/-! ## Keys -/

/-- INTERNAL: the pattern of keys, name by name.
SOURCE: packages/file-storage/src/index.js:235 -/
theorem isStorageKey_iff {key : String} : isStorageKey key = true ↔
    ∃ tenant kind id, namesOf key = ["tenants", tenant, kind, id] ∧
      isOneOrMore isPrefixChar tenant = true ∧ isOneOrMore Char.isLower kind = true ∧
        isOneOrMore isIdChar id = true := by
  unfold isStorageKey
  split
  · rename_i root tenant kind id hnames
    simp only [Bool.and_eq_true, decide_eq_true_eq, hnames, List.cons.injEq, and_true]
    constructor
    · rintro ⟨⟨⟨rfl, htenant⟩, hkind⟩, hid⟩
      exact ⟨tenant, kind, id, ⟨rfl, rfl, rfl, rfl⟩, htenant, hkind, hid⟩
    · rintro ⟨_, _, _, ⟨rfl, rfl, rfl, rfl⟩, htenant, hkind, hid⟩
      exact ⟨⟨⟨rfl, htenant⟩, hkind⟩, hid⟩
  · rename_i hother
    constructor
    · intro h
      cases h
    · rintro ⟨tenant, kind, id, hnames, -⟩
      exact absurd hnames (hother "tenants" tenant kind id)

/-- INTERNAL: a text of one or more plain characters is a name. -/
theorem isName_of_oneOrMore {test : Char → Bool} {text : String}
    (hplain : ∀ c, test c = true → c ≠ '/' ∧ c ≠ '.') (h : isOneOrMore test text = true) :
    isName text = true ∧ '/' ∉ text.toList := by
  rw [isOneOrMore, Bool.and_eq_true, decide_eq_true_eq, List.all_eq_true] at h
  exact isName_of_plain h.1 fun c hc => hplain c (h.2 c hc)

/-- INTERNAL: the names of a key that is made.
SOURCE: packages/file-storage/src/index.js:208 -/
theorem namesOf_storageKeyOf {tenantId id : String} (h : IsHexDigest (P.sha256 tenantId))
    (hid : IsUuid id) :
    namesOf (storageKeyOf P tenantId id) = ["tenants", tenantPrefix P tenantId, "files", id] := by
  have hbeginning := (isName_of_oneOrMore (fun _ => plain_of_isPrefixChar) (tenantPrefix_spec h)).2
  have hslash : '/' ∉ id.toList := fun hc => (plain_of_isIdChar (hid.digits '/' hc)).1 rfl
  have htext : storageKeyOf P tenantId id =
      "tenants" ++ "/" ++ (tenantPrefix P tenantId ++ "/" ++ ("files" ++ "/" ++ id)) := by
    rw [← String.toList_inj]
    simp [storageKeyOf]
  rw [htext, namesOf_cons (by decide), namesOf_cons hbeginning, namesOf_cons (by decide),
    namesOf_single hslash]

/-- INTERNAL: a key that is made passes the pattern. -/
theorem isStorageKey_storageKeyOf {tenantId id : String} (h : IsHexDigest (P.sha256 tenantId))
    (hid : IsUuid id) : isStorageKey (storageKeyOf P tenantId id) = true := by
  refine isStorageKey_iff.mpr ⟨_, _, _, namesOf_storageKeyOf h hid, tenantPrefix_spec h,
    by decide, ?_⟩
  have hne : id ≠ "" := by
    rintro rfl
    exact absurd hid.length (by decide)
  rw [isOneOrMore, Bool.and_eq_true, decide_eq_true_eq, List.all_eq_true]
  exact ⟨hne, hid.digits⟩

/-- INTERNAL: a key gives the digest of its tenant and its id back. -/
theorem storageKeyOf_injective {tenantId other id otherId : String}
    (h : IsHexDigest (P.sha256 tenantId)) (hother : IsHexDigest (P.sha256 other))
    (hid : IsUuid id) (hotherId : IsUuid otherId)
    (heq : storageKeyOf P tenantId id = storageKeyOf P other otherId) :
    tenantDigest P tenantId = tenantDigest P other ∧ id = otherId := by
  have hnames := congrArg namesOf heq
  rw [namesOf_storageKeyOf h hid, namesOf_storageKeyOf hother hotherId] at hnames
  simp only [List.cons.injEq, true_and, and_true] at hnames
  obtain ⟨hbeginning, hids⟩ := hnames
  refine ⟨?_, hids⟩
  have hlists := congrArg String.toList hbeginning
  simp only [tenantPrefix, String.toList_append] at hlists
  have hlength : (tenantDigest P tenantId).toList.length =
      (tenantDigest P other).toList.length :=
    (tenantDigest_spec h).1.trans (tenantDigest_spec hother).1.symm
  exact String.toList_inj.mp (List.append_inj_right' hlists hlength)

end

/-! ## Paths -/

/-- INTERNAL: the names of an accepted key are proper.
SOURCE: packages/file-storage/src/index.js:235 -/
theorem names_of_isStorageKey {key : String} (h : isStorageKey key = true) :
    ∀ name ∈ namesOf key, isName name = true := by
  obtain ⟨tenant, kind, id, hnames, htenant, hkind, hid⟩ := isStorageKey_iff.mp h
  intro name hname
  rw [hnames] at hname
  simp only [List.mem_cons, List.not_mem_nil, or_false] at hname
  obtain rfl | rfl | rfl | rfl := hname
  · decide
  · exact (isName_of_oneOrMore (fun _ => plain_of_isPrefixChar) htenant).1
  · exact (isName_of_oneOrMore (fun _ => plain_of_isLower) hkind).1
  · exact (isName_of_oneOrMore (fun _ => plain_of_isIdChar) hid).1

/-- INTERNAL: an accepted key leads to its own names below the root, and its metadata file has the
last of them with the suffix.
SOURCE: packages/file-storage/src/index.js:234-240 -/
theorem localObjectPaths_eq (root : AbsolutePath) {key : String} (h : isStorageKey key = true) :
    localObjectPaths root key =
      .ok ⟨root ++ namesOf key, (root ++ namesOf key).withSuffix ".metadata.json"⟩ := by
  obtain ⟨tenant, kind, id, hnames, -⟩ := isStorageKey_iff.mp h
  have hhead : key.toList.head? ≠ some '/' := by
    intro hslash
    have hempty := namesOf_slash hslash
    rw [hnames] at hempty
    simp at hempty
  have hpath : resolvePath root key = root ++ namesOf key := by
    rw [resolvePath, if_neg hhead, joinPath, foldl_enterName (names_of_isStorageKey h)]
  have hrelative : relativePath root (root ++ namesOf key) =
      "tenants" ++ ("/" ++ "/".intercalate [tenant, kind, id]) := by
    rw [relativePath, relativeNames_append, hnames]
    rfl
  have hlist : (relativePath root (root ++ namesOf key)).toList =
      't' :: ("enants".toList ++ ("/" ++ "/".intercalate [tenant, kind, id]).toList) := by
    rw [hrelative]
    simp
  have hne : relativePath root (root ++ namesOf key) ≠ "" := by
    intro hempty
    rw [hempty] at hlist
    cases hlist
  have hdots : "..".toList.isPrefixOf (relativePath root (root ++ namesOf key)).toList = false := by
    rw [hlist]
    rfl
  have habsolute : (relativePath root (root ++ namesOf key)).toList.head? ≠ some '/' := by
    rw [hlist, List.head?_cons]
    simp
  have hinside : ¬(relativePath root (root ++ namesOf key) = "" ∨
      "..".toList.isPrefixOf (relativePath root (root ++ namesOf key)).toList = true ∨
      (relativePath root (root ++ namesOf key)).toList.head? = some '/') := by
    rw [hdots]
    simp only [hne, habsolute, Bool.false_eq_true, or_self, not_false_eq_true]
  unfold localObjectPaths
  rw [if_neg (by simp [h]), hpath, if_neg hinside]
  rfl

/-- INTERNAL: only such keys are accepted. -/
theorem isStorageKey_of_paths {root : AbsolutePath} {key : String} {paths : ObjectPaths}
    (h : localObjectPaths root key = .ok paths) : isStorageKey key = true := by
  by_contra hkey
  unfold localObjectPaths at h
  rw [if_pos (by simp [hkey])] at h
  cases h

/-- INTERNAL: no metadata file is the object of any key. -/
theorem metadataPath_ne_objectPath {root : AbsolutePath} {key other : String}
    {paths otherPaths : ObjectPaths} (h : localObjectPaths root key = .ok paths)
    (hother : localObjectPaths root other = .ok otherPaths) :
    paths.metadataPath ≠ otherPaths.objectPath := by
  obtain ⟨tenant, kind, id, hnames, -⟩ := isStorageKey_iff.mp (isStorageKey_of_paths h)
  obtain ⟨_, _, otherId, hotherNames, -, -, hotherId⟩ :=
    isStorageKey_iff.mp (isStorageKey_of_paths hother)
  rw [localObjectPaths_eq root (isStorageKey_of_paths h)] at h
  rw [localObjectPaths_eq root (isStorageKey_of_paths hother)] at hother
  rw [← Except.ok.inj h, ← Except.ok.inj hother]
  dsimp only
  rw [hnames, hotherNames]
  intro heq
  have hlast := congrArg (fun path : AbsolutePath => path.getLastD "") heq
  simp [AbsolutePath.withSuffix] at hlast
  have hdot : '.' ∈ otherId.toList := by
    rw [← hlast]
    simp
  rw [isOneOrMore, Bool.and_eq_true, List.all_eq_true] at hotherId
  exact (plain_of_isIdChar (hotherId.2 '.' hdot)).2 rfl

/-! ## Records -/

/-- INTERNAL: a required text is there, and its blanks are cut off.
SOURCE: packages/file-storage/src/index.js:34-37 -/
theorem requiredString_ok {value : Option Json} {label text : String}
    (h : FileStorage.requiredString value label = .ok text) :
    ∃ whole, value = some (.string whole) ∧ text = trim whole := by
  unfold FileStorage.requiredString at h
  split at h
  · split at h
    · cases h
    · exact ⟨_, rfl, (Except.ok.inj h).symm⟩
  · cases h

/-- INTERNAL: the tenant, the id and the key of a record.
SOURCE: packages/file-storage/src/index.js:192-218 -/
theorem createPendingFileRecord_ok {P : Platform} {input : Json} {configuration : Configuration}
    {now : Int} {id : String} {record : FileRecord}
    (h : createPendingFileRecord P input configuration now id = .ok record) :
    record.id = id ∧ record.storageKey = storageKeyOf P record.tenantId id ∧
      ∃ tenantId, input.member? "tenantId" = some (.string tenantId) ∧
        record.tenantId = trim tenantId := by
  unfold createPendingFileRecord at h
  obtain ⟨tenantId, htenant, h⟩ := bind_eq_ok.mp h
  obtain ⟨projectId, -, h⟩ := bind_eq_ok.mp h
  obtain ⟨createdBy, -, h⟩ := bind_eq_ok.mp h
  obtain ⟨normalized, -, h⟩ := bind_eq_ok.mp h
  dsimp only at h
  split at h
  · cases h
  · obtain rfl := Except.ok.inj h
    refine ⟨rfl, rfl, ?_⟩
    exact requiredString_ok htenant

/-- **Keys of stored objects.** Where the digest of a text is one of 64 hexadecimal digits, the key
of a record that is created with a UUID is accepted and leads strictly below the root, and its
metadata file is the object of no key. Two such records with one key have one id and, where equal
digests of their tenants mean equal tenants, one tenant. -/
theorem storage_keys_sound {P : Platform} (hsha : ∀ text, IsHexDigest (P.sha256 text))
    (root : AbsolutePath) {input : Json} {configuration : Configuration} {now : Int} {id : String}
    {record : FileRecord} (hid : IsUuid id)
    (h : createPendingFileRecord P input configuration now id = .ok record) :
    (∃ tenantId, input.member? "tenantId" = some (.string tenantId) ∧
      record.tenantId = trim tenantId) ∧
    (∃ paths, localObjectPaths root record.storageKey = .ok paths ∧
      IsBelow root paths.objectPath ∧
      ∀ key others, localObjectPaths root key = .ok others →
        paths.metadataPath ≠ others.objectPath) ∧
    ∀ otherInput otherConfiguration otherNow otherId other, IsUuid otherId →
      createPendingFileRecord P otherInput otherConfiguration otherNow otherId = .ok other →
      record.storageKey = other.storageKey →
        record.id = other.id ∧
        ((tenantDigest P record.tenantId = tenantDigest P other.tenantId →
          record.tenantId = other.tenantId) → record.tenantId = other.tenantId) := by
  obtain ⟨hrecordId, hkey, htenant⟩ := createPendingFileRecord_ok h
  have haccepted : isStorageKey record.storageKey = true := by
    rw [hkey]
    exact isStorageKey_storageKeyOf (hsha _) hid
  have hpaths := localObjectPaths_eq root haccepted
  refine ⟨htenant, ⟨_, hpaths, ?_, ?_⟩, ?_⟩
  · refine ⟨namesOf record.storageKey, ?_, names_of_isStorageKey haccepted, rfl⟩
    obtain ⟨tenant, kind, last, hnames, -⟩ := isStorageKey_iff.mp haccepted
    simp [hnames]
  · intro key others hothers
    exact metadataPath_ne_objectPath hpaths hothers
  · intro otherInput otherConfiguration otherNow otherId other hotherId hother heq
    obtain ⟨hotherRecordId, hotherKey, -⟩ := createPendingFileRecord_ok hother
    rw [hkey, hotherKey] at heq
    obtain ⟨hdigest, hids⟩ := storageKeyOf_injective (hsha _) (hsha _) hid hotherId heq
    refine ⟨?_, fun hapart => hapart hdigest⟩
    rw [hrecordId, hotherRecordId, hids]

/-- A platform whose digest is that of `tenant-a`. -/
def tenantPlatform : Platform :=
  ⟨fun _ => "80a707af7dc77ee1228f9127180f3964835e5beb4c4ab0d812f0fe7593579b3a", fun _ _ => "", id⟩

/-- The upload of a small text. -/
def smallUpload : Json :=
  .object [("tenantId", .string "tenant-a"), ("projectId", .string "project-a"),
    ("createdBy", .string "user-a"), ("mimeType", .string "text/plain"),
    ("sizeBytes", .number "12"), ("fileClass", .string "document"),
    ("originalFilename", .string "notes.txt")]

/-- Limits of uploads. -/
def plainLimits : Configuration := ⟨1024, 365, ["text/plain"]⟩

/-- The record of `smallUpload`. -/
def smallRecord : FileRecord where
  id := "aaaaaaaa-aaaa-4aaa-8aaa-aaaaaaaaaaaa"
  tenantId := "tenant-a"
  projectId := "project-a"
  fileClass := .document
  originalFilename := "notes.txt"
  mimeType := "text/plain"
  sizeBytes := 12
  storageKey := "tenants/tenant-a-80a707af7dc7/files/aaaaaaaa-aaaa-4aaa-8aaa-aaaaaaaaaaaa"
  createdBy := "user-a"
  createdAt := 0
  updatedAt := 0
  retentionUntil := 365 * 86400000

/-- `storage_keys_sound` for one record. -/
theorem storage_keys_sound_small :
    createPendingFileRecord tenantPlatform smallUpload plainLimits 0
      "aaaaaaaa-aaaa-4aaa-8aaa-aaaaaaaaaaaa" = .ok smallRecord ∧
    ∃ paths, localObjectPaths ["srv"] smallRecord.storageKey = .ok paths ∧
      IsBelow ["srv"] paths.objectPath := by
  have hsha : ∀ text, IsHexDigest (tenantPlatform.sha256 text) := by
    have hdigits : "80a707af7dc77ee1228f9127180f3964835e5beb4c4ab0d812f0fe7593579b3a".toList.all
        (fun c => c.isDigit || decide ('a' ≤ c ∧ c ≤ 'f')) = true := by decide
    have hlength :
        "80a707af7dc77ee1228f9127180f3964835e5beb4c4ab0d812f0fe7593579b3a".toList.length = 64 := by
      decide
    intro text
    refine ⟨hlength, fun c hc => ?_⟩
    simpa using List.all_eq_true.mp hdigits c hc
  have hid : IsUuid "aaaaaaaa-aaaa-4aaa-8aaa-aaaaaaaaaaaa" :=
    ⟨rfl, List.all_eq_true.mp (by decide)⟩
  have hrecord : createPendingFileRecord tenantPlatform smallUpload plainLimits 0
      "aaaaaaaa-aaaa-4aaa-8aaa-aaaaaaaaaaaa" = .ok smallRecord := by
    have hsize : memberNumber (smallUpload.member? "sizeBytes") = .ok (.finite 12) :=
      congrArg Except.ok (toNumber_toString (n := 12) (by decide))
    have hvalid : validateFileInput tenantPlatform smallUpload plainLimits =
        .ok ⟨"text/plain", 12, .document, "notes.txt"⟩ := by
      unfold validateFileInput
      rw [hsize]
      rfl
    have hkey : storageKeyOf tenantPlatform "tenant-a" "aaaaaaaa-aaaa-4aaa-8aaa-aaaaaaaaaaaa" =
        smallRecord.storageKey := by decide +kernel
    have htenant : FileStorage.requiredString (smallUpload.member? "tenantId") "File tenantId" =
        .ok "tenant-a" := rfl
    have hproject : FileStorage.requiredString (smallUpload.member? "projectId") "File projectId" =
        .ok "project-a" := rfl
    have hcreatedBy : FileStorage.requiredString (smallUpload.member? "createdBy")
        "File createdBy" = .ok "user-a" := rfl
    unfold createPendingFileRecord
    rw [hvalid, htenant, hproject, hcreatedBy]
    have htimes : (!isValidTime 0 ||
        !isValidTime (0 + (plainLimits.retentionDays : ℤ) * 86400000)) = false := by decide
    simp only [bind, Except.bind, hkey, htimes, Bool.false_eq_true, if_false]
    rfl
  obtain ⟨-, ⟨paths, hpaths, hbelow, -⟩, -⟩ := storage_keys_sound hsha ["srv"] hid hrecord
  exact ⟨hrecord, paths, hpaths, hbelow⟩

end Xygo.Analysis
