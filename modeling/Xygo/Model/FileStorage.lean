import Xygo.Computation.Effect
import Xygo.Computation.Machine
import Xygo.Model.Json
import Xygo.Model.Pagination
import Xygo.Model.Paths
import Xygo.Model.Records

/-!
# File records and the local storage

`packages/file-storage`: the record of an upload with the key of its object, and the storage that
keeps objects and their metadata as files under a directory. Each call of the file system may fail;
what fails, and what a failed write leaves, comes with the call of the storage. A call of the
storage is made when the one before it has made all of its calls of the file system.
-/

set_option autoImplicit false

namespace Xygo.Model.FileStorage

open Xygo.Computation

/-! ### File records -/

/-- What the record of an upload reads of the configuration.
SOURCE: packages/file-storage/src/index.js:114-134 -/
structure Configuration where
  maxFileBytes : ℕ
  retentionDays : ℕ
  allowedMimeTypes : List String

/-- `requiredString`: the text without the blanks around it.
SOURCE: packages/file-storage/src/index.js:34-37 -/
def requiredString (value : Option Json) (label : String) : Except JsError String :=
  match value with
  | some (.string text) =>
    if trim text = "" then .error (newError (label ++ " is required.")) else .ok (trim text)
  | _ => .error (newError (label ++ " is required."))

/-- `Number(value)` of a member. -/
def memberNumber : Option Json → Except JsError Double
  | none => .ok .nan
  | some .null => .ok (.finite 0)
  | some (.bool value) => .ok (.finite (if value then 1 else 0))
  | some (.number text) => .ok (toNumber (some text))
  | some value => do
    let text ← value.toText
    return toNumber (some text)

/-- The file class of a text. -/
def fileClass? : Json → Option FileClass
  | .string "document" => some .document
  | .string "evidence" => some .evidence
  | .string "report_attachment" => some .reportAttachment
  | .string "report_photo" => some .reportPhoto
  | _ => none

/-- `path.basename(value)` -/
def basename (value : String) : String := ((namesOf value).filter (· ≠ "")).getLastD ""

/-- `safeFilename`
SOURCE: packages/file-storage/src/index.js:162-168 -/
def safeFilename (value : Option Json) : Except JsError String := do
  let filename := basename (← requiredString value "Original filename")
  if 255 < utf16Length filename ∨ filename.toList.any isControl ∨ filename = "." ∨
      filename = ".." then
    throw (newError "Original filename is invalid or too long.")
  return filename

/-- A character of `[a-z0-9_-]`. -/
def isPrefixChar (c : Char) : Bool := c.isLower || c.isDigit || c = '_' || c = '-'

/-- `text.replace(/[^a-z0-9_-]+/g, "-")`; the flag tells whether a run has begun. -/
def dashRuns : Bool → List Char → List Char
  | _, [] => []
  | inRun, c :: rest =>
    if isPrefixChar c then c :: dashRuns false rest
    else if inRun then dashRuns true rest
    else '-' :: dashRuns true rest

/-- `text.replace(/^-+|-+$/g, "")` -/
def stripDashes (text : List Char) : List Char :=
  ((text.dropWhile (· = '-')).reverse.dropWhile (· = '-')).reverse

section

variable (P : Platform)

/-- The digest in the name of a tenant's directory.
SOURCE: packages/file-storage/src/index.js:172 -/
def tenantDigest (tenantId : String) : String := slicePrefix (P.sha256 tenantId) 12

/-- `tenantPrefix`
SOURCE: packages/file-storage/src/index.js:170-174 -/
def tenantPrefix (tenantId : String) : String :=
  let readable := (stripDashes (dashRuns false (P.toLowerCase tenantId).toList)).take 48
  String.ofList (if readable = [] then "tenant".toList else readable) ++ "-" ++
    tenantDigest P tenantId

/-- `normalizedMimeType`
SOURCE: packages/file-storage/src/index.js:58-60 -/
def normalizedMimeType (value : Option Json) : Except JsError String := do
  let text := P.toLowerCase (← requiredString value "MIME type")
  return trim ((splitText (· = ';') text).headD "")

/-- What `validateFileInput` returns, with the class it has checked. -/
structure ValidFileInput where
  mimeType : String
  sizeBytes : ℕ
  fileClass : FileClass
  originalFilename : String

/-- A number of bytes a record may have: a safe integer within the limit.
SOURCE: packages/file-storage/src/index.js:182-184 -/
def validSize (maxFileBytes : ℕ) : Double → Option ℕ
  | .finite value =>
    if value.den = 1 ∧ 0 < value ∧ value < 2 ^ 53 ∧ value ≤ maxFileBytes then some value.num.toNat
    else none
  | _ => none

/-- `validateFileInput`
SOURCE: packages/file-storage/src/index.js:176-190 -/
def validateFileInput (input : Json) (configuration : Configuration) :
    Except JsError ValidFileInput := do
  let mimeType ← normalizedMimeType P (input.member? "mimeType")
  let size ← memberNumber (input.member? "sizeBytes")
  if mimeType ∉ configuration.allowedMimeTypes then
    throw (newError ("MIME type " ++ mimeType ++ " is not allowed."))
  match validSize configuration.maxFileBytes size with
  | none => throw (newError ("File size must be between 1 and " ++
      toString configuration.maxFileBytes ++ " bytes."))
  | some sizeBytes =>
    match (input.member? "fileClass").bind fileClass? with
    | none => throw (newError "File class is not allowed.")
    | some fileClass =>
      if fileClass = .reportPhoto ∧ !("image/".toList.isPrefixOf mimeType.toList) then
        throw (newError "Report photos must use an allowed image MIME type.")
      let originalFilename ← safeFilename (input.member? "originalFilename")
      return {
        mimeType := mimeType
        sizeBytes := sizeBytes
        fileClass := fileClass
        originalFilename := originalFilename }

/-- The key of the object of a file.
SOURCE: packages/file-storage/src/index.js:208 -/
def storageKeyOf (tenantId id : String) : String :=
  "tenants/" ++ tenantPrefix P tenantId ++ "/files/" ++ id

/-- `createPendingFileRecord`; the report of a file is a text where there is one.
SOURCE: packages/file-storage/src/index.js:192-218 -/
def createPendingFileRecord (input : Json) (configuration : Configuration) (now : Int)
    (id : String) : Except JsError FileRecord := do
  let tenantId ← requiredString (input.member? "tenantId") "File tenantId"
  let projectId ← requiredString (input.member? "projectId") "File projectId"
  let createdBy ← requiredString (input.member? "createdBy") "File createdBy"
  let normalized ← validateFileInput P input configuration
  let retentionUntil := now + configuration.retentionDays * 86400000
  if !isValidTime now || !isValidTime retentionUntil then throw (newError "Invalid time value")
  return {
    id := id
    tenantId := tenantId
    projectId := projectId
    fieldReportId :=
      match input.member? "fieldReportId" with
      | some (.string fieldReportId) => some fieldReportId
      | _ => none
    fileClass := normalized.fileClass
    originalFilename := normalized.originalFilename
    mimeType := normalized.mimeType
    sizeBytes := normalized.sizeBytes
    storageKey := storageKeyOf P tenantId id
    clientVisible := input.isTrue "clientVisible"
    createdBy := createdBy
    createdAt := now
    updatedAt := now
    retentionUntil := retentionUntil }

end

/-! ### Paths of objects -/

/-- A text of one or more characters of a class. -/
def isOneOrMore (test : Char → Bool) (text : String) : Bool :=
  text ≠ "" && text.toList.all test

/-- A character of `[a-f0-9-]`. -/
def isIdChar (c : Char) : Bool := c.isDigit || ('a' ≤ c && c ≤ 'f') || c = '-'

/-- `/^tenants\/[a-z0-9_-]+\/[a-z]+\/[a-f0-9-]+$/`: the classes have no slash.
SOURCE: packages/file-storage/src/index.js:235 -/
def isStorageKey (key : String) : Bool :=
  match namesOf key with
  | [root, tenant, kind, id] =>
    root = "tenants" && isOneOrMore isPrefixChar tenant && isOneOrMore Char.isLower kind &&
      isOneOrMore isIdChar id
  | _ => false

/-- The files of an object. -/
structure ObjectPaths where
  objectPath : AbsolutePath
  metadataPath : AbsolutePath
  deriving DecidableEq

/-- `localObjectPaths`
SOURCE: packages/file-storage/src/index.js:234-240 -/
def localObjectPaths (rootDirectory : AbsolutePath) (key : String) :
    Except JsError ObjectPaths := do
  if !isStorageKey key then throw (newError "Storage key is invalid.")
  let objectPath := resolvePath rootDirectory key
  let relative := relativePath rootDirectory objectPath
  if relative = "" ∨ "..".toList.isPrefixOf relative.toList ∨ relative.toList.head? = some '/' then
    throw (newError "Storage key escapes the local root.")
  return {
    objectPath := objectPath
    metadataPath := objectPath.withSuffix ".metadata.json" }

/-! ### Files -/

/-- What the metadata file of an object says.
SOURCE: packages/file-storage/src/index.js:279-284 -/
structure ObjectMetadata where
  tenantId : String
  contentType : String
  sizeBytes : ℕ
  checksumSha256 : String
  deriving DecidableEq

/-- The object `JSON.stringify` gets. -/
def ObjectMetadata.json (metadata : ObjectMetadata) : Json :=
  .object [("tenantId", .string metadata.tenantId), ("contentType", .string metadata.contentType),
    ("sizeBytes", .number (toString metadata.sizeBytes)),
    ("checksumSha256", .string metadata.checksumSha256)]

/-- What a file holds: bytes, or the text written for an object's metadata. -/
inductive FileContent
  | bytes (body : List UInt8)
  | metadata (written : ObjectMetadata)
  deriving DecidableEq

/-- The bytes of a file. -/
def FileContent.toBytes : FileContent → List UInt8
  | .bytes body => body
  | .metadata written => (stringify written.json).toUTF8.toList

/-- The files of a file system. -/
abbrev Files : Type := AbsolutePath → Option FileContent

/-- A call of the file system that fails, and what it leaves of the file where it is a write. -/
structure FileFault where
  error : JsError
  left : Option FileContent → Option FileContent := id

/-- A call that fails before it has an effect, or goes on. -/
def guarded : Option FileFault → Effect JsError Files Unit
  | none => pure ()
  | some fault => throw fault.error

/-- A file that is not there. -/
def noEntry (call : String) : JsError where
  message := "ENOENT: no such file or directory, " ++ call
  code := some "ENOENT"

/-- `fs.writeFile(path, content)` -/
def writeFile (path : AbsolutePath) (content : FileContent) :
    Option FileFault → Effect JsError Files Unit
  | none => modify fun files => Function.update files path (some content)
  | some fault => do
    modify fun files => Function.update files path (fault.left (files path))
    throw fault.error

/-- `fs.rename(source, target)` -/
def rename (source target : AbsolutePath) (fault : Option FileFault) :
    Effect JsError Files Unit := do
  guarded fault
  match (← get) source with
  | none => throw (noEntry ("rename '" ++ source.text ++ "' -> '" ++ target.text ++ "'"))
  | some content =>
    modify fun files => Function.update (Function.update files source none) target (some content)

/-- `fs.rm(path, { force: true })` -/
def rm (path : AbsolutePath) (fault : Option FileFault) : Effect JsError Files Unit := do
  guarded fault
  modify fun files => Function.update files path none

/-- `fs.readFile(path)` -/
def readFile (path : AbsolutePath) (fault : Option FileFault) :
    Effect JsError Files FileContent := do
  guarded fault
  match (← get) path with
  | none => throw (noEntry ("open '" ++ path.text ++ "'"))
  | some content => return content

/-- `(await fs.stat(path)).size` -/
def statSize (path : AbsolutePath) (fault : Option FileFault) : Effect JsError Files ℕ := do
  guarded fault
  match (← get) path with
  | none => throw (noEntry ("stat '" ++ path.text ++ "'"))
  | some content => return content.toBytes.length

/-- A call with what it threw, for `Promise.all` and `Promise.allSettled`. -/
def attempt (call : Effect JsError Files Unit) : Effect JsError Files (Option JsError) :=
  tryCatch (do call; return none) fun error => return some error

/-! ### The local storage -/

/-- What `createLocalStorage` closes over. `digest` is the SHA-256 of bytes in hexadecimal, `parse`
is `JSON.parse` of bytes the storage has not written as metadata, where a falsy value is absent.
SOURCE: packages/file-storage/src/index.js:251-252 -/
structure LocalStorage where
  platform : Platform
  rootDirectory : AbsolutePath
  digest : List UInt8 → String
  parse : List UInt8 → Except JsError (Option ObjectMetadata)

/-- The calls of `putObject` that fail. -/
structure PutFaults where
  mkdir : Option FileFault := none
  writeObject : Option FileFault := none
  writeMetadata : Option FileFault := none
  renameObject : Option FileFault := none
  renameMetadata : Option FileFault := none
  rmObject : Option FileFault := none
  rmMetadata : Option FileFault := none

/-- The calls of `headObject` that fail. -/
structure HeadFaults where
  readMetadata : Option FileFault := none
  stat : Option FileFault := none

/-- The calls of `getObject` that fail. -/
structure GetFaults where
  head : HeadFaults := {}
  readObject : Option FileFault := none

/-- The calls of `deleteObject` that fail. -/
structure DeleteFaults where
  rmObject : Option FileFault := none
  rmMetadata : Option FileFault := none

/-- What `getObject` answers. -/
structure StoredObject where
  head : ObjectMetadata
  body : List UInt8

namespace LocalStorage

variable (S : LocalStorage)

/-- The metadata of an object with given bytes.
SOURCE: packages/file-storage/src/index.js:276-284 -/
def metadataOf (record : FileRecord) (buffer : List UInt8) : ObjectMetadata where
  tenantId := record.tenantId
  contentType := record.mimeType
  sizeBytes := buffer.length
  checksumSha256 := S.digest buffer

/-- The end of the names of the temporary files of a call: a process id and a fresh UUID are drawn.
SOURCE: packages/file-storage/src/index.js:273 -/
def tempSuffix (draw : String) : String := "." ++ draw ++ ".tmp"

/-- The `try` block of `putObject`.
SOURCE: packages/file-storage/src/index.js:277-290 -/
def publish (paths : ObjectPaths) (buffer : List UInt8) (metadata : ObjectMetadata) (draw : String)
    (faults : PutFaults) : Effect JsError Files Unit :=
  let objectTemp := paths.objectPath.withSuffix (tempSuffix draw)
  let metadataTemp := paths.metadataPath.withSuffix (tempSuffix draw)
  tryCatch
    (do
      writeFile objectTemp (.bytes buffer) faults.writeObject
      writeFile metadataTemp (.metadata metadata) faults.writeMetadata
      rename objectTemp paths.objectPath faults.renameObject
      rename metadataTemp paths.metadataPath faults.renameMetadata)
    fun error => do
      let _ ← attempt (rm objectTemp faults.rmObject)
      let _ ← attempt (rm metadataTemp faults.rmMetadata)
      throw error

/-- `putObject`
SOURCE: packages/file-storage/src/index.js:267-292 -/
def putObject (record : FileRecord) (buffer : List UInt8) (contentType : Option Json)
    (draw : String) (faults : PutFaults) : Effect JsError Files ObjectMetadata := do
  if buffer.length ≠ record.sizeBytes then
    throw (newError "Uploaded content length does not match the declared file size.")
  if (← normalizedMimeType S.platform contentType) ≠ record.mimeType then
    throw (newError "Uploaded content type does not match the declared MIME type.")
  let paths ← localObjectPaths S.rootDirectory record.storageKey
  guarded faults.mkdir
  publish paths buffer (S.metadataOf record buffer) draw faults
  return S.metadataOf record buffer

/-- `readLocalMetadata`
SOURCE: packages/file-storage/src/index.js:242-249 -/
def readLocalMetadata (metadataPath : AbsolutePath) (fault : Option FileFault) :
    Effect JsError Files (Option ObjectMetadata) :=
  tryCatch
    (do
      match ← readFile metadataPath fault with
      | .metadata written => return some written
      | .bytes body => liftM (S.parse body))
    fun error => if error.code = some "ENOENT" then return none else throw error

/-- `headObject`
SOURCE: packages/file-storage/src/index.js:293-304 -/
def headObject (record : FileRecord) (faults : HeadFaults) :
    Effect JsError Files (Option ObjectMetadata) := do
  let paths ← localObjectPaths S.rootDirectory record.storageKey
  match ← S.readLocalMetadata paths.metadataPath faults.readMetadata with
  | none => return none
  | some metadata =>
    tryCatch
      (do
        let size ← statSize paths.objectPath faults.stat
        return some { metadata with sizeBytes := size })
      fun error => if error.code = some "ENOENT" then return none else throw error

/-- `getObject`
SOURCE: packages/file-storage/src/index.js:305-310 -/
def getObject (record : FileRecord) (faults : GetFaults) :
    Effect JsError Files (Option StoredObject) := do
  match ← S.headObject record faults.head with
  | none => return none
  | some head =>
    let paths ← localObjectPaths S.rootDirectory record.storageKey
    let content ← readFile paths.objectPath faults.readObject
    return some { head := head, body := content.toBytes }

/-- `deleteObject`: of two failures the first one is thrown.
SOURCE: packages/file-storage/src/index.js:311-314 -/
def deleteObject (record : FileRecord) (faults : DeleteFaults) : Effect JsError Files Unit := do
  let paths ← localObjectPaths S.rootDirectory record.storageKey
  let objectFailed ← attempt (rm paths.objectPath faults.rmObject)
  let metadataFailed ← attempt (rm paths.metadataPath faults.rmMetadata)
  match objectFailed.or metadataFailed with
  | some error => throw error
  | none => return ()

end LocalStorage

/-- A call of the storage, with the calls of the file system that fail in it. -/
inductive StorageCall
  | putObject (record : FileRecord) (buffer : List UInt8) (contentType : Option Json)
    (draw : String) (faults : PutFaults)
  | headObject (record : FileRecord) (faults : HeadFaults)
  | getObject (record : FileRecord) (faults : GetFaults)
  | deleteObject (record : FileRecord) (faults : DeleteFaults)

/-- What a call of the storage answers. -/
inductive StorageAnswer
  | stored (metadata : ObjectMetadata)
  | head (metadata : Option ObjectMetadata)
  | object (object : Option StoredObject)
  | deleted

/-- The operation of a call. -/
def StorageCall.operation (S : LocalStorage) :
    StorageCall → Effect JsError Files StorageAnswer
  | .putObject record buffer contentType draw faults =>
    .stored <$> S.putObject record buffer contentType draw faults
  | .headObject record faults => .head <$> S.headObject record faults
  | .getObject record faults => .object <$> S.getObject record faults
  | .deleteObject record faults => (fun _ => .deleted) <$> S.deleteObject record faults

/-- The storage as an object: its calls come one after the other. -/
def localStorage (S : LocalStorage) : Object Files StorageCall (Except JsError StorageAnswer) where
  call c files := Effect.exec (c.operation S) files

end Xygo.Model.FileStorage
