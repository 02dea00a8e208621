import Xygo.Analysis.StorageKeys

/-!
# The checksums of stored objects

An object and its metadata are two files, and `putObject` moves them to their places one after the
other. A call that fails between the two leaves the new object beside the metadata of the old one:
its caller sees a failure, and the next `headObject` reports the checksum of bytes that are gone.
Along every run of the storage, whatever calls of the file system fail, all calls keep what they
should exactly when no `putObject` fails there over other metadata (`checksums_kept_iff`).
-/

set_option autoImplicit false

namespace Xygo.Analysis

open Xygo.Computation Xygo.Model Xygo.Model.FileStorage

/-! ## Places -/

/-- The path of a temporary file. -/
def IsTemporary (path : AbsolutePath) : Prop := ∃ name, path.getLastD "" = name ++ ".tmp"

theorem isTemporary_withSuffix (path : AbsolutePath) (draw : String) :
    IsTemporary (path.withSuffix (LocalStorage.tempSuffix draw)) := by
  refine ⟨path.getLastD "" ++ ("." ++ draw), ?_⟩
  simp [AbsolutePath.withSuffix, LocalStorage.tempSuffix, String.append_assoc]

section

variable {root : AbsolutePath} {key other : String} {paths otherPaths : ObjectPaths}

/-- INTERNAL: the places of an accepted key.
SOURCE: packages/file-storage/src/index.js:234-240 -/
theorem paths_of_key (h : localObjectPaths root key = .ok paths) :
    ∃ directory id, paths.objectPath = directory ++ [id] ∧
      paths.metadataPath = directory ++ [id ++ ".metadata.json"] ∧
      isOneOrMore isIdChar id = true := by
  have hkey := isStorageKey_of_paths h
  obtain ⟨tenant, kind, id, hnames, -, -, hid⟩ := isStorageKey_iff.mp hkey
  rw [localObjectPaths_eq root hkey] at h
  refine ⟨root ++ ["tenants", tenant, kind], id, ?_, ?_, hid⟩
  · rw [← Except.ok.inj h, hnames]
    simp
  · rw [← Except.ok.inj h, hnames]
    simp [AbsolutePath.withSuffix]

/-- INTERNAL: no object and no metadata file is temporary. -/
theorem not_temporary (h : localObjectPaths root key = .ok paths) :
    ¬IsTemporary paths.objectPath ∧ ¬IsTemporary paths.metadataPath := by
  obtain ⟨directory, id, hobject, hmetadata, hid⟩ := paths_of_key h
  rw [isOneOrMore, Bool.and_eq_true, List.all_eq_true] at hid
  constructor
  · rintro ⟨name, hname⟩
    rw [hobject] at hname
    have hlast : id = name ++ ".tmp" := by simpa using hname
    have hdot : '.' ∈ id.toList := by simp [hlast]
    exact (plain_of_isIdChar (hid.2 '.' hdot)).2 rfl
  · rintro ⟨name, hname⟩
    rw [hmetadata] at hname
    have hlast : id ++ ".metadata.json" = name ++ ".tmp" := by simpa using hname
    have hend := congrArg (fun text : String => text.toList.getLast?) hlast
    simp at hend

/-- INTERNAL: the places of two keys are the same or have nothing in common. -/
theorem paths_apart (h : localObjectPaths root key = .ok paths)
    (hother : localObjectPaths root other = .ok otherPaths) :
    otherPaths = paths ∨
      otherPaths.objectPath ≠ paths.objectPath ∧ otherPaths.metadataPath ≠ paths.metadataPath := by
  obtain ⟨directory, id, hobject, hmetadata, -⟩ := paths_of_key h
  obtain ⟨otherDirectory, otherId, hotherObject, hotherMetadata, -⟩ := paths_of_key hother
  by_cases hsame : otherDirectory = directory ∧ otherId = id
  · left
    obtain ⟨rfl, rfl⟩ := hsame
    cases paths
    cases otherPaths
    simp_all
  · right
    rw [hobject, hmetadata, hotherObject, hotherMetadata]
    constructor
    · intro heq
      obtain ⟨hdirectory, hlast⟩ := List.append_inj' heq rfl
      exact hsame ⟨hdirectory, by simpa using hlast⟩
    · intro heq
      obtain ⟨hdirectory, hlast⟩ := List.append_inj' heq rfl
      exact hsame ⟨hdirectory, by simpa using hlast⟩

/-- INTERNAL: the two temporary files of a call are two. -/
theorem temps_ne (h : localObjectPaths root key = .ok paths) (draw : String) :
    paths.objectPath.withSuffix (LocalStorage.tempSuffix draw) ≠
      paths.metadataPath.withSuffix (LocalStorage.tempSuffix draw) := by
  obtain ⟨directory, id, hobject, hmetadata, -⟩ := paths_of_key h
  rw [hobject, hmetadata]
  intro heq
  have hlast := congrArg (fun path : AbsolutePath => (path.getLastD "").toList.length) heq
  simp [AbsolutePath.withSuffix] at hlast
  omega

end

/-! ## Calls of the file system -/

section

variable {path source target : AbsolutePath} {content : FileContent} {fault : FileFault}

@[simp] theorem exec_guarded_none (files : Files) :
    Effect.exec (guarded none) files = (.ok (), files) := rfl

@[simp] theorem exec_guarded_some (files : Files) :
    Effect.exec (guarded (some fault)) files = (.error fault.error, files) := rfl

@[simp] theorem exec_writeFile_none (files : Files) :
    Effect.exec (writeFile path content none) files =
      (.ok (), Function.update files path (some content)) := rfl

@[simp] theorem exec_writeFile_some (files : Files) :
    Effect.exec (writeFile path content (some fault)) files =
      (.error fault.error, Function.update files path (fault.left (files path))) := rfl

@[simp] theorem exec_rename_some (files : Files) :
    Effect.exec (rename source target (some fault)) files = (.error fault.error, files) := rfl

theorem exec_rename_none {files : Files} (h : files source = some content) :
    Effect.exec (rename source target none) files =
      (.ok (), Function.update (Function.update files source none) target (some content)) := by
  simp [rename, h]

/-- What a call throws, and what it leaves. -/
@[simp] theorem exec_attempt (call : Effect JsError Files Unit) (files : Files) :
    Effect.exec (attempt call) files =
      match Effect.exec call files with
      | (.ok _, after) => (.ok none, after)
      | (.error error, after) => (.ok (some error), after) := by
  unfold attempt
  rw [Effect.exec_tryCatch, Effect.exec_bind]
  rcases Effect.exec call files with ⟨_ | _, after⟩ <;> rfl

@[simp] theorem exec_rm_none (files : Files) :
    Effect.exec (rm path none) files = (.ok (), Function.update files path none) := rfl

@[simp] theorem exec_rm_some (files : Files) :
    Effect.exec (rm path (some fault)) files = (.error fault.error, files) := rfl

end

/-! ## What `putObject` leaves -/

/-- The files that are not temporary are the same. -/
def SameLasting (files after : Files) : Prop := ∀ path, ¬IsTemporary path → after path = files path

theorem SameLasting.refl (files : Files) : SameLasting files files := fun _ _ => rfl

theorem SameLasting.trans {files between after : Files} (h : SameLasting files between)
    (hnext : SameLasting between after) : SameLasting files after :=
  fun path hpath => (hnext path hpath).trans (h path hpath)

theorem sameLasting_update {path : AbsolutePath} (h : IsTemporary path) (files : Files)
    (content : Option FileContent) : SameLasting files (Function.update files path content) := by
  intro other hother
  rw [Function.update_of_ne]
  rintro rfl
  exact hother h

/-- What was written and moved away again. -/
theorem sameLasting_moved {temp path : AbsolutePath} (h : IsTemporary temp) {files between : Files}
    (hbetween : SameLasting files between) (content : Option FileContent) :
    SameLasting (Function.update files path content)
      (Function.update (Function.update between temp none) path content) := by
  intro other hother
  by_cases heq : other = path
  · subst heq
    simp
  · rw [Function.update_of_ne heq, Function.update_of_ne heq]
    exact (hbetween.trans (sameLasting_update h between none)) other hother

/-- INTERNAL: removing a temporary file, whatever happens. -/
theorem sameLasting_attempt_rm {path : AbsolutePath} (h : IsTemporary path)
    (fault : Option FileFault) (files : Files) :
    ∃ thrown after, Effect.exec (attempt (rm path fault)) files = (.ok thrown, after) ∧
      SameLasting files after := by
  cases fault with
  | none => exact ⟨none, _, by simp, sameLasting_update h files none⟩
  | some fault => exact ⟨some fault.error, files, by simp, SameLasting.refl files⟩

/-- The object of a key is written. -/
def withObject (files : Files) (paths : ObjectPaths) (buffer : List UInt8) : Files :=
  Function.update files paths.objectPath (some (.bytes buffer))

/-- The metadata of a key is written. -/
def withMetadata (files : Files) (paths : ObjectPaths) (metadata : ObjectMetadata) : Files :=
  Function.update files paths.metadataPath (some (.metadata metadata))

/-- INTERNAL: the `try` block, statement by statement. It fails before the first move, between the
two, or not at all.
SOURCE: packages/file-storage/src/index.js:277-290 -/
theorem publish_cases {root : AbsolutePath} {key : String} {paths : ObjectPaths}
    (h : localObjectPaths root key = .ok paths) (buffer : List UInt8) (metadata : ObjectMetadata)
    (draw : String) (faults : PutFaults) (files : Files) :
    ∃ answer after,
      Effect.exec (LocalStorage.publish paths buffer metadata draw faults) files =
        (answer, after) ∧
      (¬(faults.writeObject = none ∧ faults.writeMetadata = none ∧ faults.renameObject = none) ∧
          (∃ error, answer = .error error) ∧ SameLasting files after ∨
        (faults.writeObject = none ∧ faults.writeMetadata = none ∧ faults.renameObject = none) ∧
          (faults.renameMetadata ≠ none ∧ (∃ error, answer = .error error) ∧
              SameLasting (withObject files paths buffer) after ∨
            faults.renameMetadata = none ∧ answer = .ok () ∧
              SameLasting (withMetadata (withObject files paths buffer) paths metadata)
                after)) := by
  obtain ⟨hobject, hmetadata⟩ := not_temporary h
  have hobjectTemp := isTemporary_withSuffix paths.objectPath draw
  have hmetadataTemp := isTemporary_withSuffix paths.metadataPath draw
  have htemps := temps_ne h draw
  unfold LocalStorage.publish
  generalize paths.objectPath.withSuffix (LocalStorage.tempSuffix draw) = objectTemp at *
  generalize paths.metadataPath.withSuffix (LocalStorage.tempSuffix draw) = metadataTemp at *
  -- whatever was thrown, the handler leaves all lasting files
  have hhandler : ∀ (error : JsError) (between : Files), ∃ after,
      Effect.exec (do
        let _ ← attempt (rm objectTemp faults.rmObject)
        let _ ← attempt (rm metadataTemp faults.rmMetadata)
        throw error : Effect JsError Files Unit) between = (.error error, after) ∧
      SameLasting between after := by
    intro error between
    obtain ⟨thrown, first, hfirst, hsame⟩ :=
      sameLasting_attempt_rm hobjectTemp faults.rmObject between
    obtain ⟨thrown', second, hsecond, hsame'⟩ :=
      sameLasting_attempt_rm hmetadataTemp faults.rmMetadata first
    refine ⟨second, ?_, hsame.trans hsame'⟩
    rw [Effect.exec_bind, hfirst]
    dsimp only
    rw [Effect.exec_bind, hsecond]
    rfl
  have hmoved : metadataTemp ≠ paths.objectPath := by
    rintro rfl
    exact hobject hmetadataTemp
  rw [Effect.exec_tryCatch]
  cases hwriteObject : faults.writeObject with
  | some fault =>
    obtain ⟨after, hafter, hsame⟩ := hhandler fault.error
      (Function.update files objectTemp (fault.left (files objectTemp)))
    refine ⟨_, after, ?_, .inl ⟨by simp, ⟨fault.error, rfl⟩, ?_⟩⟩
    · rw [Effect.exec_bind, exec_writeFile_some]
      exact hafter
    · exact (sameLasting_update hobjectTemp files _).trans hsame
  | none =>
    rw [Effect.exec_bind, exec_writeFile_none]
    set written := Function.update files objectTemp (some (.bytes buffer)) with hwritten
    have hlasting : SameLasting files written := sameLasting_update hobjectTemp files _
    dsimp only
    cases hwriteMetadata : faults.writeMetadata with
    | some fault =>
      obtain ⟨after, hafter, hsame⟩ := hhandler fault.error
        (Function.update written metadataTemp (fault.left (written metadataTemp)))
      refine ⟨_, after, ?_, .inl ⟨by simp, ⟨fault.error, rfl⟩, ?_⟩⟩
      · rw [Effect.exec_bind, exec_writeFile_some]
        exact hafter
      · exact (hlasting.trans (sameLasting_update hmetadataTemp written _)).trans hsame
    | none =>
      rw [Effect.exec_bind, exec_writeFile_none]
      set both := Function.update written metadataTemp (some (.metadata metadata)) with hboth
      have hlastingBoth : SameLasting files both :=
        hlasting.trans (sameLasting_update hmetadataTemp written _)
      dsimp only
      cases hrenameObject : faults.renameObject with
      | some fault =>
        obtain ⟨after, hafter, hsame⟩ := hhandler fault.error both
        refine ⟨_, after, ?_, .inl ⟨by simp, ⟨fault.error, rfl⟩, hlastingBoth.trans hsame⟩⟩
        rw [Effect.exec_bind, exec_rename_some]
        exact hafter
      | none =>
        have hsource : both objectTemp = some (.bytes buffer) := by
          rw [hboth, Function.update_of_ne htemps, hwritten, Function.update_self]
        rw [Effect.exec_bind, exec_rename_none hsource]
        set moved := Function.update (Function.update both objectTemp none) paths.objectPath
          (some (.bytes buffer)) with hmovedEq
        have hlastingMoved : SameLasting (withObject files paths buffer) moved :=
          sameLasting_moved hobjectTemp hlastingBoth _
        dsimp only
        cases hrenameMetadata : faults.renameMetadata with
        | some fault =>
          obtain ⟨after, hafter, hsame⟩ := hhandler fault.error moved
          refine ⟨_, after, ?_, .inr ⟨by simp, .inl ⟨by simp, ⟨fault.error, rfl⟩,
            hlastingMoved.trans hsame⟩⟩⟩
          rw [exec_rename_some]
          exact hafter
        | none =>
          have hsource' : moved metadataTemp = some (.metadata metadata) := by
            rw [hmovedEq, Function.update_of_ne hmoved, Function.update_of_ne htemps.symm, hboth,
              Function.update_self]
          rw [exec_rename_none hsource']
          exact ⟨_, _, rfl, .inr ⟨by simp, .inr ⟨rfl, rfl,
            sameLasting_moved hmetadataTemp hlastingMoved _⟩⟩⟩

section

variable {S : LocalStorage}

/-- A call of `putObject` that is not refused before it writes.
SOURCE: packages/file-storage/src/index.js:267-272 -/
structure PutAccepted (S : LocalStorage) (record : FileRecord) (buffer : List UInt8)
    (contentType : Option Json) (faults : PutFaults) : Prop where
  length : buffer.length = record.sizeBytes
  mimeType : normalizedMimeType S.platform contentType = .ok record.mimeType
  key : isStorageKey record.storageKey = true
  mkdir : faults.mkdir = none

/-- A call of `putObject` that gets to the move of the metadata.
SOURCE: packages/file-storage/src/index.js:267-288 -/
structure ReachesSecondMove (S : LocalStorage) (record : FileRecord) (buffer : List UInt8)
    (contentType : Option Json) (faults : PutFaults) : Prop where
  accepted : PutAccepted S record buffer contentType faults
  writes : faults.writeObject = none ∧ faults.writeMetadata = none ∧ faults.renameObject = none

/-- INTERNAL: a refused call of `putObject` throws and writes nothing. -/
theorem putObject_refused {record : FileRecord} {buffer : List UInt8} {contentType : Option Json}
    {faults : PutFaults} (h : ¬PutAccepted S record buffer contentType faults) (draw : String)
    (files : Files) :
    ∃ error, Effect.exec (S.putObject record buffer contentType draw faults) files =
      (.error error, files) := by
  unfold LocalStorage.putObject
  by_cases hlength : buffer.length = record.sizeBytes
  · cases htype : normalizedMimeType S.platform contentType with
    | error error => exact ⟨error, by simp [hlength]⟩
    | ok mimeType =>
      by_cases hmime : mimeType = record.mimeType
      · subst hmime
        cases hpaths : localObjectPaths S.rootDirectory record.storageKey with
        | error error => exact ⟨error, by simp [hlength]⟩
        | ok paths =>
          cases hmkdir : faults.mkdir with
          | none => exact absurd ⟨hlength, htype, isStorageKey_of_paths hpaths, hmkdir⟩ h
          | some fault => exact ⟨fault.error, by simp [hlength]⟩
      · exact ⟨_, by simp [hlength, hmime]; rfl⟩
  · exact ⟨_, by simp [hlength]; rfl⟩

/-- INTERNAL: an accepted call of `putObject` is its `try` block. -/
theorem putObject_accepted {record : FileRecord} {buffer : List UInt8} {contentType : Option Json}
    {faults : PutFaults} (h : PutAccepted S record buffer contentType faults) {paths : ObjectPaths}
    (hpaths : localObjectPaths S.rootDirectory record.storageKey = .ok paths) (draw : String)
    (files : Files) :
    Effect.exec (S.putObject record buffer contentType draw faults) files =
      match Effect.exec (LocalStorage.publish paths buffer (S.metadataOf record buffer) draw faults)
        files with
      | (.ok _, after) => (.ok (S.metadataOf record buffer), after)
      | (.error error, after) => (.error error, after) := by
  unfold LocalStorage.putObject
  rw [hpaths, h.mimeType]
  simp only [ne_eq, h.length, h.mkdir, not_true_eq_false, if_false, Effect.exec_bind,
    Effect.exec_lift, Effect.exec_pure, exec_guarded_none]
  rcases Effect.exec (LocalStorage.publish paths buffer (S.metadataOf record buffer) draw faults)
    files with ⟨_ | _, after⟩ <;> rfl

/-- INTERNAL: what a call of `putObject` leaves.
SOURCE: packages/file-storage/src/index.js:267-292 -/
theorem putObject_cases (record : FileRecord) (buffer : List UInt8) (contentType : Option Json)
    (draw : String) (faults : PutFaults) (files : Files) :
    ∃ answer after,
      Effect.exec (S.putObject record buffer contentType draw faults) files = (answer, after) ∧
      (¬ReachesSecondMove S record buffer contentType faults ∧ (∃ error, answer = .error error) ∧
          SameLasting files after ∨
        ∃ paths, localObjectPaths S.rootDirectory record.storageKey = .ok paths ∧
          ReachesSecondMove S record buffer contentType faults ∧
          (faults.renameMetadata ≠ none ∧ (∃ error, answer = .error error) ∧
              SameLasting (withObject files paths buffer) after ∨
            faults.renameMetadata = none ∧ answer = .ok (S.metadataOf record buffer) ∧
              SameLasting (withMetadata (withObject files paths buffer) paths
                (S.metadataOf record buffer)) after)) := by
  by_cases haccepted : PutAccepted S record buffer contentType faults
  · have hpaths := localObjectPaths_eq S.rootDirectory haccepted.key
    rw [putObject_accepted haccepted hpaths]
    obtain ⟨answer, after, hpublish, hcases⟩ :=
      publish_cases hpaths buffer (S.metadataOf record buffer) draw faults files
    rw [hpublish]
    obtain ⟨hearly, ⟨error, rfl⟩, hsame⟩ | ⟨hwrites, hlate⟩ := hcases
    · exact ⟨_, after, rfl, .inl ⟨fun hreaches => hearly hreaches.writes, ⟨error, rfl⟩, hsame⟩⟩
    · obtain ⟨hfault, ⟨error, rfl⟩, hsame⟩ | ⟨hfault, rfl, hsame⟩ := hlate
      · exact ⟨_, after, rfl, .inr ⟨_, hpaths, ⟨haccepted, hwrites⟩,
          .inl ⟨hfault, ⟨error, rfl⟩, hsame⟩⟩⟩
      · exact ⟨_, after, rfl, .inr ⟨_, hpaths, ⟨haccepted, hwrites⟩, .inr ⟨hfault, rfl, hsame⟩⟩⟩
  · obtain ⟨error, hexec⟩ := putObject_refused haccepted draw files
    exact ⟨_, files, hexec, .inl ⟨fun hreaches => haccepted hreaches.accepted, ⟨error, rfl⟩,
      SameLasting.refl files⟩⟩

/-! ## What `headObject` and `getObject` read -/

/-- INTERNAL: what reading a file answers. -/
theorem exec_readFile (path : AbsolutePath) (fault : Option FileFault) (files : Files) :
    ∃ answer, Effect.exec (readFile path fault) files = (answer, files) ∧
      ∀ content, answer = .ok content → files path = some content := by
  unfold readFile
  cases fault with
  | some fault => exact ⟨.error fault.error, by simp, by simp⟩
  | none =>
    cases hcontent : files path with
    | none => exact ⟨_, by simp [hcontent]; rfl, by simp⟩
    | some content => exact ⟨.ok content, by simp [hcontent], by simp⟩

theorem exec_statSize (path : AbsolutePath) (fault : Option FileFault) (files : Files) :
    ∃ answer, Effect.exec (statSize path fault) files = (answer, files) ∧
      ∀ size, answer = .ok size →
        ∃ content, files path = some content ∧ size = content.toBytes.length := by
  unfold statSize
  cases fault with
  | some fault => exact ⟨.error fault.error, by simp, by simp⟩
  | none =>
    cases hcontent : files path with
    | none => exact ⟨_, by simp [hcontent]; rfl, by simp⟩
    | some content =>
      exact ⟨.ok content.toBytes.length, by simp [hcontent], fun _ h => ⟨content, rfl, by simp_all⟩⟩

/-- INTERNAL: what reading a metadata file answers.
SOURCE: packages/file-storage/src/index.js:242-249 -/
theorem exec_readLocalMetadata (path : AbsolutePath) (fault : Option FileFault) (files : Files) :
    ∃ answer, Effect.exec (S.readLocalMetadata path fault) files = (answer, files) ∧
      ∀ metadata, answer = .ok (some metadata) →
        ∃ content, files path = some content ∧
          (content = .metadata metadata ∨ ∃ body, content = .bytes body) := by
  unfold LocalStorage.readLocalMetadata
  obtain ⟨answer, hread, hcontent⟩ := exec_readFile path fault files
  rw [Effect.exec_tryCatch, Effect.exec_bind, hread]
  cases answer with
  | error error =>
    by_cases hcode : error.code = some "ENOENT"
    · exact ⟨.ok none, by simp [hcode], by simp⟩
    · exact ⟨.error error, by simp [hcode], by simp⟩
  | ok content =>
    cases content with
    | metadata written =>
      exact ⟨.ok (some written), rfl, fun metadata h => ⟨_, hcontent _ rfl, .inl (by simp_all)⟩⟩
    | bytes body =>
      dsimp only
      rw [Effect.exec_lift]
      cases S.parse body with
      | ok parsed =>
        exact ⟨.ok parsed, rfl, fun _ _ => ⟨_, hcontent _ rfl, .inr ⟨body, rfl⟩⟩⟩
      | error error =>
        by_cases hcode : error.code = some "ENOENT"
        · exact ⟨.ok none, by simp [hcode], by simp⟩
        · exact ⟨.error error, by simp [hcode], by simp⟩

/-- INTERNAL: what `headObject` reports.
SOURCE: packages/file-storage/src/index.js:293-304 -/
theorem exec_headObject (record : FileRecord) (faults : HeadFaults) (files : Files) :
    ∃ answer, Effect.exec (S.headObject record faults) files = (answer, files) ∧
      ∀ head, answer = .ok (some head) →
        ∃ paths content metadata object,
          localObjectPaths S.rootDirectory record.storageKey = .ok paths ∧
          files paths.metadataPath = some content ∧
          (content = .metadata metadata ∨ ∃ body, content = .bytes body) ∧
          files paths.objectPath = some object ∧
          head = { metadata with sizeBytes := object.toBytes.length } := by
  unfold LocalStorage.headObject
  cases hpaths : localObjectPaths S.rootDirectory record.storageKey with
  | error error => exact ⟨.error error, by simp, by simp⟩
  | ok paths =>
    obtain ⟨answer, hread, hmetadata⟩ :=
      exec_readLocalMetadata (S := S) paths.metadataPath faults.readMetadata files
    rw [Effect.exec_bind, Effect.exec_lift]
    dsimp only
    rw [Effect.exec_bind, hread]
    cases answer with
    | error error => exact ⟨.error error, rfl, by simp⟩
    | ok found =>
      cases found with
      | none => exact ⟨.ok none, rfl, by simp⟩
      | some metadata =>
        obtain ⟨content, hcontent, hkind⟩ := hmetadata metadata rfl
        obtain ⟨size, hstat, hsize⟩ := exec_statSize paths.objectPath faults.stat files
        dsimp only
        rw [Effect.exec_tryCatch, Effect.exec_bind, hstat]
        cases size with
        | error error =>
          by_cases hcode : error.code = some "ENOENT"
          · exact ⟨.ok none, by simp [hcode], by simp⟩
          · exact ⟨.error error, by simp [hcode], by simp⟩
        | ok size =>
          obtain ⟨object, hobject, hlength⟩ := hsize size rfl
          refine ⟨_, rfl, fun head h => ⟨paths, content, metadata, object, rfl, hcontent, hkind,
            hobject, ?_⟩⟩
          rw [← hlength]
          exact (Option.some.inj (Except.ok.inj h)).symm

/-- INTERNAL: what `getObject` reports.
SOURCE: packages/file-storage/src/index.js:305-310 -/
theorem exec_getObject (record : FileRecord) (faults : GetFaults) (files : Files) :
    ∃ answer, Effect.exec (S.getObject record faults) files = (answer, files) ∧
      ∀ object, answer = .ok (some object) →
        (Effect.exec (S.headObject record faults.head) files).1 = .ok (some object.head) ∧
        ∃ paths content, localObjectPaths S.rootDirectory record.storageKey = .ok paths ∧
          files paths.objectPath = some content ∧ object.body = content.toBytes := by
  unfold LocalStorage.getObject
  obtain ⟨answer, hhead, -⟩ := exec_headObject (S := S) record faults.head files
  rw [Effect.exec_bind, hhead]
  cases answer with
  | error error => exact ⟨.error error, rfl, by simp⟩
  | ok found =>
    cases found with
    | none => exact ⟨.ok none, rfl, by simp⟩
    | some head =>
      dsimp only
      rw [Effect.exec_bind, Effect.exec_lift]
      cases hpaths : localObjectPaths S.rootDirectory record.storageKey with
      | error error => exact ⟨.error error, rfl, by simp⟩
      | ok paths =>
        obtain ⟨answer, hread, hcontent⟩ := exec_readFile paths.objectPath faults.readObject files
        dsimp only
        rw [Effect.exec_bind, hread]
        cases answer with
        | error error => exact ⟨.error error, rfl, by simp⟩
        | ok content =>
          refine ⟨_, rfl, fun object h => ?_⟩
          obtain rfl := Option.some.inj (Except.ok.inj h)
          exact ⟨rfl, paths, content, rfl, hcontent content rfl, rfl⟩

/-! ## What is visible -/

/-- What `getObject` answers where no call of the file system fails. -/
def visible (S : LocalStorage) (files : Files) (record : FileRecord) :
    Except JsError (Option StoredObject) :=
  (Effect.exec (S.getObject record {}) files).1

@[simp] theorem noEntry_code (call : String) : (noEntry call).code = some "ENOENT" := rfl

theorem exec_readFile_none {path : AbsolutePath} {files : Files} (h : files path = none) :
    ∃ call, Effect.exec (readFile path none) files = (.error (noEntry call), files) := by
  unfold readFile
  exact ⟨_, by simp [h]; rfl⟩

theorem exec_readFile_some {path : AbsolutePath} {files : Files} {content : FileContent}
    (h : files path = some content) :
    Effect.exec (readFile path none) files = (.ok content, files) := by
  simp [readFile, h]

/-- INTERNAL: a refused key is refused again. -/
theorem visible_of_refused {record : FileRecord} {error : JsError}
    (hpaths : localObjectPaths S.rootDirectory record.storageKey = .error error) (files : Files) :
    visible S files record = .error error := by
  unfold visible LocalStorage.getObject LocalStorage.headObject
  simp [hpaths]

/-- INTERNAL: without metadata nothing is seen. -/
theorem visible_of_no_metadata {files : Files} {record : FileRecord} {paths : ObjectPaths}
    (hpaths : localObjectPaths S.rootDirectory record.storageKey = .ok paths)
    (h : files paths.metadataPath = none) : visible S files record = .ok none := by
  obtain ⟨call, hread⟩ := exec_readFile_none h
  have hmetadata : Effect.exec (S.readLocalMetadata paths.metadataPath none) files =
      (.ok none, files) := by
    unfold LocalStorage.readLocalMetadata
    rw [Effect.exec_tryCatch, Effect.exec_bind, hread]
    simp
  unfold visible LocalStorage.getObject LocalStorage.headObject
  simp only [Effect.exec_bind, Effect.exec_lift, hpaths, hmetadata, Effect.exec_pure]

/-- INTERNAL: metadata and object are seen together. -/
theorem visible_of_metadata {files : Files} {record : FileRecord} {paths : ObjectPaths}
    {metadata : ObjectMetadata}
    (hpaths : localObjectPaths S.rootDirectory record.storageKey = .ok paths)
    (h : files paths.metadataPath = some (.metadata metadata)) :
    visible S files record = .ok ((files paths.objectPath).map fun content =>
      ⟨{ metadata with sizeBytes := content.toBytes.length }, content.toBytes⟩) := by
  have hmetadata : Effect.exec (S.readLocalMetadata paths.metadataPath none) files =
      (.ok (some metadata), files) := by
    unfold LocalStorage.readLocalMetadata
    rw [Effect.exec_tryCatch, Effect.exec_bind, exec_readFile_some h]
    rfl
  unfold visible LocalStorage.getObject LocalStorage.headObject statSize
  simp only [Effect.exec_bind, Effect.exec_lift, hpaths, hmetadata, Effect.exec_tryCatch,
    exec_guarded_none, Effect.exec_get]
  cases hobject : files paths.objectPath with
  | none => simp
  | some content => simp [exec_readFile_some hobject]

/-! ## The invariant -/

/-- Objects are bytes, and metadata beside an object has the checksum of its bytes. -/
structure SoundFiles (S : LocalStorage) (files : Files) : Prop where
  objects : ∀ key paths content, localObjectPaths S.rootDirectory key = .ok paths →
    files paths.objectPath = some content → ∃ body, content = .bytes body
  metadata : ∀ key paths content, localObjectPaths S.rootDirectory key = .ok paths →
    files paths.metadataPath = some content → ∃ metadata, content = .metadata metadata ∧
      ∀ body, files paths.objectPath = some (.bytes body) → metadata.checksumSha256 = S.digest body

theorem sound_empty : SoundFiles S fun _ => none where
  objects := by simp
  metadata := by simp

/-- INTERNAL: files that go away leave sound files. -/
theorem sound_of_removed {files after : Files} (hsound : SoundFiles S files)
    (h : ∀ path, ¬IsTemporary path → after path = files path ∨ after path = none) :
    SoundFiles S after := by
  have hstill : ∀ path content, ¬IsTemporary path → after path = some content →
      files path = some content := by
    intro path content hpath hcontent
    obtain hsame | hgone := h path hpath
    · rw [← hsame, hcontent]
    · rw [hgone] at hcontent
      cases hcontent
  constructor
  · intro key paths content hpaths hcontent
    exact hsound.objects key paths content hpaths
      (hstill _ _ (not_temporary hpaths).1 hcontent)
  · intro key paths content hpaths hcontent
    obtain ⟨metadata, rfl, hchecksum⟩ := hsound.metadata key paths content hpaths
      (hstill _ _ (not_temporary hpaths).2 hcontent)
    exact ⟨metadata, rfl, fun body hbody =>
      hchecksum body (hstill _ _ (not_temporary hpaths).1 hbody)⟩

theorem sound_of_sameLasting {files after : Files} (hsound : SoundFiles S files)
    (h : SameLasting files after) : SoundFiles S after :=
  sound_of_removed hsound fun path hpath => .inl (h path hpath)

/-- INTERNAL: the same lasting files, the same view. -/
theorem visible_of_same {files after : Files} (hsound : SoundFiles S files) {record : FileRecord}
    (h : ∀ paths, localObjectPaths S.rootDirectory record.storageKey = .ok paths →
      after paths.objectPath = files paths.objectPath ∧
        after paths.metadataPath = files paths.metadataPath) :
    visible S after record = visible S files record := by
  cases hpaths : localObjectPaths S.rootDirectory record.storageKey with
  | error error => rw [visible_of_refused hpaths, visible_of_refused hpaths]
  | ok paths =>
    obtain ⟨hobject, hmetadata⟩ := h paths hpaths
    cases hcontent : files paths.metadataPath with
    | none =>
      rw [visible_of_no_metadata hpaths hcontent,
        visible_of_no_metadata hpaths (hmetadata.trans hcontent)]
    | some content =>
      obtain ⟨metadata, rfl, -⟩ := hsound.metadata _ paths content hpaths hcontent
      rw [visible_of_metadata hpaths hcontent,
        visible_of_metadata hpaths (hmetadata.trans hcontent), hobject]

/-- INTERNAL: another key's files are not written. -/
theorem withObject_other {key other : String} {paths otherPaths : ObjectPaths}
    (h : localObjectPaths S.rootDirectory key = .ok paths)
    (hother : localObjectPaths S.rootDirectory other = .ok otherPaths) (hne : otherPaths ≠ paths)
    (files : Files) (buffer : List UInt8) :
    withObject files paths buffer otherPaths.objectPath = files otherPaths.objectPath := by
  obtain rfl | ⟨hobject, -⟩ := paths_apart h hother
  · exact absurd rfl hne
  · exact Function.update_of_ne hobject _ _

theorem withObject_metadata {key other : String} {paths otherPaths : ObjectPaths}
    (h : localObjectPaths S.rootDirectory key = .ok paths)
    (hother : localObjectPaths S.rootDirectory other = .ok otherPaths)
    (files : Files) (buffer : List UInt8) :
    withObject files paths buffer otherPaths.metadataPath = files otherPaths.metadataPath :=
  Function.update_of_ne (metadataPath_ne_objectPath hother h) _ _

/-- INTERNAL: an object without metadata, or the same again, leaves sound files. -/
theorem sound_withObject {files : Files} (hsound : SoundFiles S files) {key : String}
    {paths : ObjectPaths} (h : localObjectPaths S.rootDirectory key = .ok paths)
    {buffer : List UInt8}
    (hfree : files paths.metadataPath = none ∨ files paths.objectPath = some (.bytes buffer)) :
    SoundFiles S (withObject files paths buffer) := by
  obtain hfree | hsame := hfree
  · constructor
    · intro other otherPaths content hother hcontent
      by_cases heq : otherPaths = paths
      · subst heq
        rw [withObject, Function.update_self] at hcontent
        exact ⟨buffer, (Option.some.inj hcontent).symm⟩
      · rw [withObject_other h hother heq] at hcontent
        exact hsound.objects other otherPaths content hother hcontent
    · intro other otherPaths content hother hcontent
      rw [withObject_metadata h hother] at hcontent
      have hne : otherPaths ≠ paths := by
        rintro rfl
        rw [hfree] at hcontent
        cases hcontent
      rw [withObject_other h hother hne]
      exact hsound.metadata other otherPaths content hother hcontent
  · rw [withObject, ← hsame, Function.update_eq_self]
    exact hsound

/-- INTERNAL: an object and its metadata leave sound files. -/
theorem sound_published {files : Files} (hsound : SoundFiles S files) {record : FileRecord}
    {paths : ObjectPaths}
    (h : localObjectPaths S.rootDirectory record.storageKey = .ok paths) (buffer : List UInt8) :
    SoundFiles S
      (withMetadata (withObject files paths buffer) paths (S.metadataOf record buffer)) := by
  have hobject : ∀ other otherPaths, localObjectPaths S.rootDirectory other = .ok otherPaths →
      withMetadata (withObject files paths buffer) paths (S.metadataOf record buffer)
        otherPaths.objectPath = withObject files paths buffer otherPaths.objectPath :=
    fun other otherPaths hother =>
      Function.update_of_ne (metadataPath_ne_objectPath h hother).symm _ _
  constructor
  · intro other otherPaths content hother hcontent
    rw [hobject other otherPaths hother] at hcontent
    by_cases heq : otherPaths = paths
    · subst heq
      rw [withObject, Function.update_self] at hcontent
      exact ⟨buffer, (Option.some.inj hcontent).symm⟩
    · rw [withObject_other h hother heq] at hcontent
      exact hsound.objects other otherPaths content hother hcontent
  · intro other otherPaths content hother hcontent
    rw [hobject other otherPaths hother]
    obtain rfl | ⟨-, hmetadata⟩ := paths_apart h hother
    · rw [withMetadata, Function.update_self] at hcontent
      refine ⟨_, (Option.some.inj hcontent).symm, fun body hbody => ?_⟩
      rw [withObject, Function.update_self] at hbody
      cases hbody
      rfl
    · have hne : otherPaths ≠ paths := by
        rintro rfl
        exact hmetadata rfl
      rw [withMetadata, Function.update_of_ne hmetadata, withObject_metadata h hother] at hcontent
      rw [withObject_other h hother hne]
      exact hsound.metadata other otherPaths content hother hcontent

/-! ## The calls -/

/-- The bytes stored for a record. -/
def StoredFor (S : LocalStorage) (files : Files) (record : FileRecord) (body : List UInt8) : Prop :=
  ∃ paths content, localObjectPaths S.rootDirectory record.storageKey = .ok paths ∧
    files paths.objectPath = some content ∧ content.toBytes = body

/-- What a call has to keep: what is reported has the checksum of the stored bytes, and a failure of
`putObject` leaves all that is visible. -/
def KeptCall (S : LocalStorage) (files : Files) : StorageCall → Prop
  | .putObject record buffer contentType draw faults =>
    (∃ error, (Effect.exec (S.putObject record buffer contentType draw faults) files).1 =
        .error error) →
      ∀ other, visible S (Effect.exec (S.putObject record buffer contentType draw faults) files).2
        other = visible S files other
  | .headObject record faults =>
    ∀ head, (Effect.exec (S.headObject record faults) files).1 = .ok (some head) →
      ∃ body, StoredFor S files record body ∧ head.checksumSha256 = S.digest body
  | .getObject record faults =>
    ∀ object, (Effect.exec (S.getObject record faults) files).1 = .ok (some object) →
      StoredFor S files record object.body ∧ object.head.checksumSha256 = S.digest object.body
  | .deleteObject _ _ => True

/-- A call that does not fail between the two moves of `putObject`, or only where the record has no
metadata yet or its object has the same bytes. -/
def SafeCall (S : LocalStorage) (files : Files) : StorageCall → Prop
  | .putObject record buffer contentType _ faults =>
    ReachesSecondMove S record buffer contentType faults → faults.renameMetadata ≠ none →
      ∀ paths, localObjectPaths S.rootDirectory record.storageKey = .ok paths →
        files paths.metadataPath = none ∨ files paths.objectPath = some (.bytes buffer)
  | _ => True

/-- INTERNAL: `headObject` reports the checksum of the stored bytes. -/
theorem headObject_kept {files : Files} (hsound : SoundFiles S files) (record : FileRecord)
    (faults : HeadFaults) : KeptCall S files (.headObject record faults) := by
  intro head h
  obtain ⟨answer, hexec, hreport⟩ := exec_headObject (S := S) record faults files
  rw [hexec] at h
  obtain ⟨paths, content, metadata, object, hpaths, hcontent, hkind, hobject, rfl⟩ := hreport head h
  obtain ⟨body, rfl⟩ := hsound.objects _ paths object hpaths hobject
  obtain ⟨written, rfl, hchecksum⟩ := hsound.metadata _ paths content hpaths hcontent
  refine ⟨body, ⟨paths, _, hpaths, hobject, rfl⟩, ?_⟩
  obtain hwritten | ⟨other, hother⟩ := hkind
  · cases hwritten
    exact hchecksum body hobject
  · cases hother

/-- INTERNAL: `getObject` reports the stored bytes and their checksum. -/
theorem getObject_kept {files : Files} (hsound : SoundFiles S files) (record : FileRecord)
    (faults : GetFaults) : KeptCall S files (.getObject record faults) := by
  intro object h
  obtain ⟨answer, hexec, hreport⟩ := exec_getObject (S := S) record faults files
  rw [hexec] at h
  obtain ⟨hhead, paths, content, hpaths, hcontent, hbody⟩ := hreport object h
  have hstored : StoredFor S files record object.body :=
    ⟨paths, content, hpaths, hcontent, hbody.symm⟩
  refine ⟨hstored, ?_⟩
  obtain ⟨body, ⟨otherPaths, otherContent, hother, hotherContent, rfl⟩, hchecksum⟩ :=
    headObject_kept hsound record faults.head object.head hhead
  rw [hpaths] at hother
  cases hother
  rw [hcontent] at hotherContent
  cases hotherContent
  rw [hchecksum, hbody]

/-- INTERNAL: a failed `putObject` leaves what is visible exactly when it is safe. -/
theorem putObject_kept_iff {files : Files} (hsound : SoundFiles S files) (record : FileRecord)
    (buffer : List UInt8) (contentType : Option Json) (draw : String) (faults : PutFaults) :
    KeptCall S files (.putObject record buffer contentType draw faults) ↔
      SafeCall S files (.putObject record buffer contentType draw faults) := by
  obtain ⟨answer, after, hexec, hcases⟩ :=
    putObject_cases (S := S) record buffer contentType draw faults files
  simp only [KeptCall, SafeCall, hexec]
  obtain ⟨hearly, -, hsame⟩ | ⟨paths, hpaths, hreaches, hlate⟩ := hcases
  · refine ⟨fun _ hreaches => absurd hreaches hearly, fun _ _ other => ?_⟩
    exact visible_of_same hsound fun otherPaths hother =>
      ⟨hsame _ (not_temporary hother).1, hsame _ (not_temporary hother).2⟩
  · obtain ⟨hfault, ⟨error, rfl⟩, hsame⟩ | ⟨hfault, rfl, -⟩ := hlate
    · have hobject : after paths.objectPath = some (.bytes buffer) := by
        rw [hsame _ (not_temporary hpaths).1, withObject, Function.update_self]
      have hmetadata : after paths.metadataPath = files paths.metadataPath := by
        rw [hsame _ (not_temporary hpaths).2, withObject_metadata hpaths hpaths]
      constructor
      · intro hkept _ _ otherPaths hother
        rw [hpaths] at hother
        cases hother
        have hview := hkept ⟨error, rfl⟩ record
        cases hcontent : files paths.metadataPath with
        | none => exact .inl rfl
        | some content =>
          right
          obtain ⟨metadata, rfl, -⟩ := hsound.metadata _ paths content hpaths hcontent
          rw [visible_of_metadata hpaths hcontent,
            visible_of_metadata hpaths (hmetadata.trans hcontent), hobject] at hview
          cases hold : files paths.objectPath with
          | none =>
            rw [hold] at hview
            cases hview
          | some old =>
            obtain ⟨body, rfl⟩ := hsound.objects _ paths old hpaths hold
            rw [hold] at hview
            have hbodies := congrArg StoredObject.body (Option.some.inj (Except.ok.inj hview))
            rw [show body = buffer from hbodies.symm]
      · intro hsafe _ other
        cases hother : localObjectPaths S.rootDirectory other.storageKey with
        | error error => rw [visible_of_refused hother, visible_of_refused hother]
        | ok otherPaths =>
          by_cases heq : otherPaths = paths
          · subst heq
            obtain hnone | hold := hsafe hreaches hfault _ hpaths
            · rw [visible_of_no_metadata hother hnone,
                visible_of_no_metadata hother (hmetadata.trans hnone)]
            · refine visible_of_same hsound fun again hagain => ?_
              rw [hother] at hagain
              cases hagain
              exact ⟨hobject.trans hold.symm, hmetadata⟩
          · refine visible_of_same hsound fun again hagain => ?_
            rw [hother] at hagain
            cases hagain
            rw [hsame _ (not_temporary hother).1, hsame _ (not_temporary hother).2]
            exact ⟨withObject_other hpaths hother heq files buffer,
              withObject_metadata hpaths hother files buffer⟩
    · refine ⟨fun _ _ hmoved => absurd hfault hmoved, ?_⟩
      rintro - ⟨error, herror⟩
      cases herror

/-- INTERNAL: `deleteObject` removes files only.
SOURCE: packages/file-storage/src/index.js:311-314 -/
theorem exec_deleteObject (record : FileRecord) (faults : DeleteFaults) (files : Files) :
    ∃ answer after, Effect.exec (S.deleteObject record faults) files = (answer, after) ∧
      ∀ path, after path = files path ∨ after path = none := by
  have hrm : ∀ (path : AbsolutePath) (fault : Option FileFault) (files : Files),
      ∃ thrown after, Effect.exec (attempt (rm path fault)) files = (.ok thrown, after) ∧
        ∀ other, after other = files other ∨ after other = none := by
    intro path fault files
    cases fault with
    | some fault => exact ⟨some fault.error, files, by simp, fun _ => .inl rfl⟩
    | none =>
      refine ⟨none, Function.update files path none, by simp, fun other => ?_⟩
      by_cases heq : other = path
      · exact .inr (by rw [heq, Function.update_self])
      · exact .inl (Function.update_of_ne heq _ _)
  unfold LocalStorage.deleteObject
  rw [Effect.exec_bind, Effect.exec_lift]
  cases localObjectPaths S.rootDirectory record.storageKey with
  | error error => exact ⟨_, files, rfl, fun _ => .inl rfl⟩
  | ok paths =>
    obtain ⟨thrown, between, hobject, hbetween⟩ := hrm paths.objectPath faults.rmObject files
    obtain ⟨thrown', after, hmetadata, hafter⟩ := hrm paths.metadataPath faults.rmMetadata between
    dsimp only
    rw [Effect.exec_bind, hobject]
    dsimp only
    rw [Effect.exec_bind, hmetadata]
    have hremoved : ∀ path, after path = files path ∨ after path = none := by
      intro path
      obtain hsame | hgone := hafter path
      · rw [hsame]
        exact hbetween path
      · exact .inr hgone
    dsimp only
    cases thrown.or thrown' with
    | some error => exact ⟨.error error, after, rfl, hremoved⟩
    | none => exact ⟨.ok (), after, rfl, hremoved⟩

/-- INTERNAL: a safe call leaves sound files. -/
theorem sound_of_safe {files : Files} (hsound : SoundFiles S files) {c : StorageCall}
    (h : SafeCall S files c) : SoundFiles S ((localStorage S).call c files).2 := by
  cases c with
  | putObject record buffer contentType draw faults =>
    have hstore :
        ((localStorage S).call (.putObject record buffer contentType draw faults) files).2 =
          (Effect.exec (S.putObject record buffer contentType draw faults) files).2 :=
      Effect.store_map _ _ _
    obtain ⟨answer, after, hexec, hcases⟩ :=
      putObject_cases (S := S) record buffer contentType draw faults files
    rw [hstore, hexec]
    obtain ⟨-, -, hsame⟩ | ⟨paths, hpaths, hreaches, hlate⟩ := hcases
    · exact sound_of_sameLasting hsound hsame
    · obtain ⟨hfault, -, hsame⟩ | ⟨-, -, hsame⟩ := hlate
      · exact sound_of_sameLasting
          (sound_withObject hsound hpaths (h hreaches hfault paths hpaths)) hsame
      · exact sound_of_sameLasting (sound_published hsound hpaths buffer) hsame
  | headObject record faults =>
    obtain ⟨answer, hexec, -⟩ := exec_headObject (S := S) record faults files
    have hstore : ((localStorage S).call (.headObject record faults) files).2 = files :=
      (Effect.store_map _ _ _).trans (by rw [hexec])
    rwa [hstore]
  | getObject record faults =>
    obtain ⟨answer, hexec, -⟩ := exec_getObject (S := S) record faults files
    have hstore : ((localStorage S).call (.getObject record faults) files).2 = files :=
      (Effect.store_map _ _ _).trans (by rw [hexec])
    rwa [hstore]
  | deleteObject record faults =>
    obtain ⟨answer, after, hexec, hafter⟩ := exec_deleteObject (S := S) record faults files
    have hstore : ((localStorage S).call (.deleteObject record faults) files).2 = after :=
      (Effect.store_map _ _ _).trans (by rw [hexec])
    rw [hstore]
    exact sound_of_removed hsound fun path _ => hafter path

/-- INTERNAL: a call from sound files keeps what it should exactly when it is safe. -/
theorem kept_iff_safe {files : Files} (hsound : SoundFiles S files) (c : StorageCall) :
    KeptCall S files c ↔ SafeCall S files c := by
  cases c with
  | putObject record buffer contentType draw faults =>
    exact putObject_kept_iff hsound record buffer contentType draw faults
  | headObject record faults =>
    exact ⟨fun _ => trivial, fun _ => headObject_kept hsound record faults⟩
  | getObject record faults =>
    exact ⟨fun _ => trivial, fun _ => getObject_kept hsound record faults⟩
  | deleteObject record faults => exact Iff.rfl

end

/-- **Checksums of stored objects.** From an empty storage, all calls of a run keep what they
should, whatever calls of the file system fail, exactly when each call is safe. -/
theorem checksums_kept_iff (S : LocalStorage) (cs : List StorageCall) :
    (localStorage S).Meets (KeptCall S) (fun _ => none) cs ↔
      (localStorage S).Meets (SafeCall S) (fun _ => none) cs := by
  constructor
  · intro h
    refine (localStorage S).meets_of_meets (fun files c hsound hkept => ?_)
      (sound_empty (S := S)) h
    have hsafe := (kept_iff_safe hsound c).mp hkept
    exact ⟨hsafe, sound_of_safe hsound hsafe⟩
  · intro h
    refine (localStorage S).meets_of_meets (fun files c hsound hsafe => ?_)
      (sound_empty (S := S)) h
    exact ⟨(kept_iff_safe hsound c).mpr hsafe, sound_of_safe hsound hsafe⟩

/-- A storage that knows the digests of `A` and of any other byte's as that of `B`. -/
def letterStorage : LocalStorage where
  platform := ⟨fun _ => "", fun _ _ => "", id⟩
  rootDirectory := ["srv"]
  digest body :=
    if body = [65] then "559aead08264d5795d3909718cdd05abd49572e84fe55590eef31a88a08fdffd"
    else "df7e70e5021544f4834bbee64a9e3789febc4be81470df629cad6ddb03320a5c"
  parse _ := .error (newError "Unexpected token in JSON")

/-- A file of one letter. -/
def letterRecord : FileRecord where
  id := "aa"
  tenantId := "t"
  projectId := "p"
  fileClass := .document
  originalFilename := "letter.txt"
  mimeType := "text/plain"
  sizeBytes := 1
  storageKey := "tenants/t-0/files/aa"
  createdBy := "u"
  createdAt := 0
  updatedAt := 0
  retentionUntil := 0

/-- The upload of a letter. -/
def putLetter (letter : UInt8) (faults : PutFaults) : StorageCall :=
  .putObject letterRecord [letter] (some (.string "text/plain")) "1.u" faults

/-- The move of the metadata fails. -/
def secondMoveFails : PutFaults where
  renameMetadata := some { error := newError "EIO: i/o error" }

/-- **A failed upload replaces the object.** The second upload fails; then its letter is there with
the checksum of the first one. -/
theorem failed_upload_replaces_object :
    (∃ metadata, ((localStorage letterStorage).run (fun _ => none)
          [putLetter 65 {}, putLetter 66 secondMoveFails, .getObject letterRecord {}]).1.map
            Prod.snd =
          [.ok (.stored metadata), .error (newError "EIO: i/o error"),
            .ok (.object (some ⟨metadata, [66]⟩))] ∧
        metadata.checksumSha256 ≠ letterStorage.digest [66]) ∧
    ¬(localStorage letterStorage).Meets (KeptCall letterStorage) (fun _ => none)
      [putLetter 65 {}, putLetter 66 secondMoveFails, .getObject letterRecord {}] := by
  refine ⟨⟨letterStorage.metadataOf letterRecord [65], rfl, by decide⟩, ?_⟩
  rintro ⟨-, -, hget, -⟩
  have hreport := hget ⟨letterStorage.metadataOf letterRecord [65], [66]⟩ rfl
  exact absurd hreport.2 (by decide)

end Xygo.Analysis
