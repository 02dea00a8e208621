import Xygo.Model.AuditWriters
import Xygo.Model.FindingRoutes

/-!
# The routes of one record

The routes whose path names a record by its id: a blueprint, a field report with its draft and its
review, a file with its completion, its content, its download and its deletion, and the disposition
of a finding. They work on the memory repository, the outbox store and the file storage, which an
adapter reaches.
-/

set_option autoImplicit false

namespace Xygo.Model

open Xygo.Computation

/-- `unavailable`
SOURCE: apps/api/src/handlers.js:92-98 -/
def unavailable {β : Type} (error message : String) : Response β := .refused ⟨503, error, message⟩

/-- A body in another form. -/
def Response.map {β γ : Type} (f : β → γ) : Response β → Response γ
  | answered status body => .answered status (f body)
  | refused refusal => .refused refusal

/-- Whether `encodeURIComponent` leaves a character as it is. -/
def isUnreserved (c : Char) : Bool :=
  c.isAlphanum || c ∈ ['-', '_', '.', '!', '~', '*', '\'', '(', ')']

/-- The two digits of a byte. -/
def hexByte (byte : UInt8) : List Char :=
  let digits := (Nat.toDigits 16 byte.toNat).map Char.toUpper
  if digits.length < 2 then '0' :: digits else digits

/-- `encodeURIComponent(text)` -/
def encodeURIComponent (text : String) : String :=
  String.ofList (text.toList.flatMap fun c =>
    if isUnreserved c then [c]
    else (String.singleton c).toUTF8.toList.flatMap fun byte => '%' :: hexByte byte)

/-- What `publicFileMetadata` returns: a record without its storage key.
SOURCE: packages/file-storage/src/index.js:228-232 -/
structure PublicFile where
  id : String
  tenantId : String
  projectId : String
  fieldReportId : Option String
  fileClass : FileClass
  originalFilename : String
  mimeType : String
  sizeBytes : Nat
  status : FileStatus
  checksumSha256 : Option String
  clientVisible : Bool
  createdBy : String
  createdAt : Int
  updatedAt : Int
  retentionUntil : Int
  deletedAt : Option Int
  deriving DecidableEq, Repr

/-- `assertFileRecord`. Its status is one of the four by its type.
SOURCE: packages/file-storage/src/index.js:220-226 -/
def assertFileRecord (record : FileRecord) : Except JsError Unit := do
  if trim record.id = "" then throw (newError "File id is required.")
  if trim record.tenantId = "" then throw (newError "File tenantId is required.")
  if trim record.storageKey = "" then throw (newError "File storage key is required.")

/-- `publicFileMetadata`
SOURCE: packages/file-storage/src/index.js:228-232 -/
def publicFileMetadata (record : FileRecord) : Except JsError PublicFile := do
  assertFileRecord record
  return {
    id := record.id
    tenantId := record.tenantId
    projectId := record.projectId
    fieldReportId := record.fieldReportId
    fileClass := record.fileClass
    originalFilename := record.originalFilename
    mimeType := record.mimeType
    sizeBytes := record.sizeBytes
    status := record.status
    checksumSha256 := record.checksumSha256
    clientVisible := record.clientVisible
    createdBy := record.createdBy
    createdAt := record.createdAt
    updatedAt := record.updatedAt
    retentionUntil := record.retentionUntil
    deletedAt := record.deletedAt }

/-- Where a client downloads a file from.
SOURCE: packages/file-storage/src/index.js:263-265, 355-367 -/
structure DownloadTarget where
  mode : String
  method : String := "GET"
  url : Option String
  expiresIn : Option Nat
  headers : List (String × String) := []

/-- An object of the storage, with its bytes.
SOURCE: packages/file-storage/src/index.js:305-310 -/
structure StoredContent where
  tenantId : Option String
  body : List UInt8

/-- An adapter of the file storage. -/
structure StorageAdapter (Ω : Type) where
  driver : String
  headObject : FileRecord → Effect JsError Ω (Option StoredObject)
  putObject : FileRecord → List UInt8 → String → Effect JsError Ω Unit
  createDownloadTarget : FileRecord → Effect JsError Ω DownloadTarget
  getObject : FileRecord → Effect JsError Ω (Option StoredContent)
  deleteObject : FileRecord → Effect JsError Ω Unit

/-- `saveFileRecord`
SOURCE: apps/api/src/repositories/memory.js:263-267 -/
def MemoryRepository.saveFileRecord (fileRecord : FileRecord) : RepositoryM FileRecord := do
  let r ← get
  if !r.fileRecordStore.has fileRecord.id then throw fileNotFound
  set { r with fileRecordStore := r.fileRecordStore.put fileRecord }
  return fileRecord

namespace RecordRoutes

/-- The binary answer of a file, with its headers.
SOURCE: apps/api/src/handlers.js:914-919 -/
structure FileContent where
  body : List UInt8
  contentType : String
  contentLength : Nat
  contentDisposition : String
  cacheControl : String := "private, no-store"

/-- What an answer gives back. -/
inductive RecordBody
  | report (report : FieldReport)
  | blueprint (blueprint : PlatformBlueprint)
  | file (item : PublicFile)
  | download (item : PublicFile) (download : DownloadTarget)
  | content (content : FileContent)
  | item (item : Findings.Item)

/-- What the routes work on. -/
structure RecordStores (Ω : Type) where
  repository : MemoryRepository := {}
  outbox : OutboxStore := .empty
  storage : Ω

/-- An operation of a route. -/
abbrev RecordM (Ω : Type) : Type → Type := Effect JsError (RecordStores Ω)

/-- A route, less the id in its path. A JSON body is as `JSON.parse` reads it, or `none` where that
throws; a content has the text of its content type, if there is one, and its bytes, unless the body
is no buffer. -/
inductive RecordRoute
  | getBlueprint
  | getReport
  | draftReport
  | reviewReport (body : Option Json)
  | completeFile
  | putContent (contentType : Option String) (body : Option (List UInt8))
  | downloadFile
  | getContent
  | deleteFile
  | disposeFinding (body : Option Json)

/-- A request, with what is drawn for it and what the clock says where a file is marked as being
deleted, and afterwards. -/
structure RecordRequest where
  tenantId : PathPart
  recordId : PathPart
  principal : Principal
  route : RecordRoute
  signingKey : Option String := none
  auditDraw : AuditDraw
  outboxDraw : OutboxDraw
  deletingAt : Int := 0
  now : Int := 0

/-- The request on a field report, which makes a change of it. -/
def RecordRequest.onReport (request : RecordRequest) : ReportRequest where
  tenantId := request.tenantId
  principal := request.principal
  action := .draft request.recordId
  signingKey := request.signingKey
  auditDraw := request.auditDraw
  outboxDraw := request.outboxDraw
  enqueuedAt := request.now

/-- The request on a file. -/
def RecordRequest.onFile (request : RecordRequest) : FileRequest where
  tenantId := request.tenantId.text
  userId := request.principal.userId
  signingKey := request.signingKey
  auditDraw := request.auditDraw
  outboxDraw := request.outboxDraw
  now := request.now

/-- The request on a finding. -/
def RecordRequest.onFinding (request : RecordRequest) (body : Option Json) :
    Findings.FindingRequest where
  tenantId := request.tenantId
  principal := request.principal
  action := .dispose request.recordId body
  signingKey := request.signingKey
  auditDraw := request.auditDraw
  outboxDraw := request.outboxDraw

section

variable {Ω : Type}

/-- An operation of the routes of field reports. -/
def onReports {α : Type} (operation : ReportM α) : RecordM Ω α :=
  Effect.focus (fun s => { repository := s.repository, outbox := s.outbox })
    (fun s t => { s with repository := t.repository, outbox := t.outbox }) operation

/-- An operation of the routes of findings. -/
def onFindings {α : Type} (operation : Findings.FindingM α) : RecordM Ω α :=
  Effect.focus (fun s => { repository := s.repository, outbox := s.outbox })
    (fun s t => { s with repository := t.repository, outbox := t.outbox }) operation

/-- An operation of the repository and the outbox, no call of which fails. -/
def onMemory {α : Type} (operation : MemoryM α) : RecordM Ω α :=
  Effect.focus (fun s => { store := { repository := s.repository, outbox := s.outbox } })
    (fun s t => { s with repository := t.store.repository, outbox := t.store.outbox }) operation

/-- An operation of the file storage. -/
def onStorage {α : Type} (operation : Effect JsError Ω α) : RecordM Ω α :=
  Effect.focus RecordStores.storage (fun s t => { s with storage := t }) operation

/-- The record of the tenant that is stored, or the answer that there is none.
SOURCE: apps/api/src/handlers.js:858, 878, 925, 1027-1029, 1041-1043 -/
def inTenant {α : Type} (tenantOf : α → String) (tenantId : String) (stored : Option α)
    (message : String) : Except (Response RecordBody) α :=
  match stored.filter fun record => tenantOf record = tenantId with
  | none => .error (notFound message)
  | some record => .ok record

/-- What a principal may do, before the record is looked at. -/
def authorized (request : RecordRequest) (resource action : String) :
    Except (Response RecordBody) Unit :=
  match authorize request.principal request.tenantId.text resource action with
  | some denied => .error (.refused denied)
  | none => .ok ()

/-- The blueprint a request reads, or why not.
SOURCE: apps/api/src/handlers.js:1020-1029 -/
def findBlueprint (request : RecordRequest) (r : MemoryRepository) :
    Except (Response RecordBody) PlatformBlueprint := do
  authorized request "platform_blueprint" "read"
  inTenant PlatformBlueprint.tenantId request.tenantId.text
    (r.getPlatformBlueprintById request.recordId.text) "Platform blueprint not found."

/-- The report a request reads, or why not.
SOURCE: apps/api/src/handlers.js:1034-1043 -/
def findReport (request : RecordRequest) (r : MemoryRepository) :
    Except (Response RecordBody) FieldReport := do
  authorized request "field_report" "read"
  inTenant FieldReport.tenantId request.tenantId.text
    (r.getFieldReportById request.recordId.text) "Field report not found."

/-- The file a request changes, or why not.
SOURCE: apps/api/src/handlers.js:856-858, 876-878, 923-925 -/
def findFile (request : RecordRequest) (action : String) (r : MemoryRepository) :
    Except (Response RecordBody) FileRecord := do
  authorized request "file_record" action
  inTenant FileRecord.tenantId request.tenantId.text (r.getFileRecordById request.recordId.text)
    "File not found."

/-- `canReadFile`
SOURCE: apps/api/src/handlers.js:741-749 -/
def canReadFile (request : RecordRequest) (r : MemoryRepository) :
    Except (Response RecordBody) FileRecord := do
  let fileRecord ← inTenant FileRecord.tenantId request.tenantId.text
    (r.getFileRecordById request.recordId.text) "File not found."
  if fileRecord.status = .deleted then throw (notFound "File not found.")
  authorized request "file_record" "read"
  if request.principal.organizationRole = some "client_viewer" &&
      (fileRecord.status ≠ .ready || fileRecord.clientVisible ≠ true) then
    throw (notFound "File not found.")
  return fileRecord

/-- The file whose content or download a request reads, or why not.
SOURCE: apps/api/src/handlers.js:895-897, 907-909 -/
def findReady (request : RecordRequest) (r : MemoryRepository) :
    Except (Response RecordBody) FileRecord := do
  let fileRecord ← canReadFile request r
  if fileRecord.status ≠ .ready then throw (notFound "File is not available.")
  return fileRecord

/-- A route on what it has found: a refusal is its answer. -/
def withRecord {α : Type} (find : MemoryRepository → Except (Response RecordBody) α)
    (use : α → RecordM Ω (Response RecordBody)) : RecordM Ω (Response RecordBody) := do
  let s ← get
  match find s.repository with
  | .error refusal => return refusal
  | .ok record => use record

/-- A file, as a client sees it. -/
def answerFile (fileRecord : FileRecord) : RecordM Ω (Response RecordBody) := do
  let item ← publicFileMetadata fileRecord
  return .answered 200 (.file item)

/-- Where a client reads a file through the API.
SOURCE: apps/api/src/handlers.js:901 -/
def contentPath (tenantId fileId : String) : String :=
  "/v1/tenants/" ++ encodeURIComponent tenantId ++ "/files/" ++ encodeURIComponent fileId ++
    "/content"

section

variable (P : Platform) (storage : StorageAdapter Ω)

/-- The MIME type a content type names.
SOURCE: apps/api/src/handlers.js:884 -/
def mimeTypeOf (contentType : Option String) : String :=
  trim (String.ofList ((P.toLowerCase (contentType.getD "")).toList.takeWhile (· ≠ ';')))

/-- `completeFileUpload`
SOURCE: apps/api/src/handlers.js:764-796 -/
def completeUpload (request : RecordRequest) (fileRecord : FileRecord) :
    RecordM Ω (Response RecordBody) := do
  let object ← onStorage (storage.headObject fileRecord)
  let response ← onMemory (completeFileUpload P request.onFile fileRecord object)
  match response with
  | .refused refusal => return .refused refusal
  | .answered _ completed => answerFile completed

/-- `enqueueFileOutbox`, or the answer where it throws.
SOURCE: apps/api/src/handlers.js:757-763, 860-865, 927-932 -/
def enqueueAgain (request : RecordRequest) (fileRecord : FileRecord) (action message : String) :
    RecordM Ω (Response RecordBody) := do
  let failed ← tryCatch
    (do
      let event ← request.onFile.outboxEvent action fileRecord.id
      onMemory (enqueueMemory event (request.onFile.outboxKey action fileRecord.id) request.now)
      return false)
    fun _ => return true
  if failed then return unavailable "outbox_unavailable" message else answerFile fileRecord

/-- The completion of an upload.
SOURCE: apps/api/src/handlers.js:859-872 -/
def completeFile (request : RecordRequest) (fileRecord : FileRecord) :
    RecordM Ω (Response RecordBody) :=
  match fileRecord.status with
  | .ready => enqueueAgain request fileRecord "api.file.upload_completed"
    "File is ready but its durable outbox event is still pending; retry completion."
  | .pendingUpload =>
    tryCatch (completeUpload P storage request fileRecord) fun _ =>
      return unavailable "file_storage_unavailable"
        "File storage could not verify the uploaded object."
  | _ => return badRequest "File is not awaiting upload completion."

/-- The `try` block of an upload through the API.
SOURCE: apps/api/src/handlers.js:886-888 -/
def persistContent (request : RecordRequest) (fileRecord : FileRecord) (body : List UInt8)
    (contentType : String) : RecordM Ω (Response RecordBody) := do
  onStorage (storage.putObject fileRecord body contentType)
  completeUpload P storage request fileRecord

/-- The content of an upload.
SOURCE: apps/api/src/handlers.js:879-891 -/
def putContent (request : RecordRequest) (contentType : Option String) (body : Option (List UInt8))
    (fileRecord : FileRecord) : RecordM Ω (Response RecordBody) :=
  if fileRecord.status ≠ .pendingUpload then return badRequest "File is not awaiting content."
  else if storage.driver ≠ "local" then
    return badRequest "Direct API uploads are disabled for object storage."
  else
    match body with
    | none => return badRequest "File content must be sent as a binary request body."
    | some body =>
      if body.length ≠ fileRecord.sizeBytes then
        return badRequest "Uploaded content length does not match the declared file size."
      else if mimeTypeOf P contentType ≠ fileRecord.mimeType then
        return badRequest "Uploaded content type does not match the declared MIME type."
      else
        tryCatch (persistContent P storage request fileRecord body (mimeTypeOf P contentType))
          fun _ =>
            return unavailable "file_storage_unavailable"
              "File storage could not persist or verify the uploaded object."

/-- The download of a file.
SOURCE: apps/api/src/handlers.js:898-903 -/
def downloadFile (request : RecordRequest) (fileRecord : FileRecord) :
    RecordM Ω (Response RecordBody) := do
  let download ← onStorage (storage.createDownloadTarget fileRecord)
  let item ← publicFileMetadata fileRecord
  return .answered 200 (.download item
    (if download.mode = "authenticated_proxy" then
      { download with url := some (contentPath request.tenantId.text fileRecord.id) }
    else download))

/-- The content of a file.
SOURCE: apps/api/src/handlers.js:910-919 -/
def getContent (request : RecordRequest) (fileRecord : FileRecord) :
    RecordM Ω (Response RecordBody) :=
  if storage.driver ≠ "local" then
    return notFound "Direct file content is not served for object storage."
  else do
    let object ← onStorage (storage.getObject fileRecord)
    match object.filter fun object => object.tenantId = some request.tenantId.text with
    | none => return notFound "File content not found."
    | some object =>
      return .answered 200 (.content {
        body := object.body
        contentType := fileRecord.mimeType
        contentLength := object.body.length
        contentDisposition :=
          "attachment; filename*=UTF-8''" ++ encodeURIComponent fileRecord.originalFilename })

/-- A file is marked, and its object is deleted; where that fails, the mark is taken back.
SOURCE: apps/api/src/handlers.js:934-944 -/
def deleteObject (request : RecordRequest) (previous : FileRecord) : RecordM Ω Bool :=
  let deleting := { previous with status := .deleting, updatedAt := request.deletingAt }
  tryCatch
    (do
      if previous.status ≠ .deleting then
        let _ ← onMemory (onRepository (MemoryRepository.saveFileRecord deleting))
      onStorage (storage.deleteObject deleting)
      return true)
    fun _ => do
      if previous.status ≠ .deleting then
        let _ ← onMemory (onRepository (MemoryRepository.saveFileRecord previous))
      return false

/-- The last part of `DELETE`, and its answer.
SOURCE: apps/api/src/handlers.js:945-971 -/
def finishDeletion (request : RecordRequest) (previous : FileRecord) :
    RecordM Ω (Response RecordBody) := do
  let response ← onMemory (finalizeDeletion P request.onFile previous)
  match response with
  | .refused refusal => return .refused refusal
  | .answered _ deleted => answerFile deleted

/-- The deletion of a file.
SOURCE: apps/api/src/handlers.js:926-971 -/
def deleteFile (request : RecordRequest) (fileRecord : FileRecord) :
    RecordM Ω (Response RecordBody) :=
  if fileRecord.status = .deleted then
    enqueueAgain request fileRecord "api.file.deleted"
      "File is deleted but its durable outbox event is still pending; retry deletion."
  else do
    let objectDeleted ← deleteObject storage request fileRecord
    if objectDeleted then
      tryCatch (finishDeletion P request fileRecord) fun _ =>
        return unavailable "file_delete_finalization_pending"
          "Object deletion succeeded; retry DELETE to finalize metadata and audit evidence."
    else return unavailable "file_storage_unavailable" "File storage could not delete the object."

/-- A change of a field report.
SOURCE: apps/api/src/handlers.js:1048-1181 -/
def changeReport (request : RecordRequest) (change : FieldReports.Change) :
    RecordM Ω (Response RecordBody) := do
  let response ← onReports (FieldReports.changeRoute P request.onReport change)
  return response.map .report

/-- The route of a request.
SOURCE: apps/api/src/handlers.js:852-974, 1020-1249 -/
def route (request : RecordRequest) : RecordM Ω (Response RecordBody) :=
  match request.route with
  | .getBlueprint => withRecord (findBlueprint request) fun blueprint =>
    return .answered 200 (.blueprint blueprint)
  | .getReport => withRecord (findReport request) fun report =>
    return .answered 200 (.report report)
  | .draftReport => changeReport P request (FieldReports.draftChange request.recordId)
  | .reviewReport body =>
    changeReport P request (FieldReports.reviewChange request.principal request.recordId body)
  | .completeFile => withRecord (findFile request "update") (completeFile P storage request)
  | .putContent contentType body =>
    withRecord (findFile request "update") (putContent P storage request contentType body)
  | .downloadFile => withRecord (findReady request) (downloadFile storage request)
  | .getContent => withRecord (findReady request) (getContent storage request)
  | .deleteFile => withRecord (findFile request "delete") (deleteFile P storage request)
  | .disposeFinding body => do
    let response ← onFindings
      (Findings.dispositionRoute P (request.onFinding body) request.recordId body)
    return response.map .item

/-- The API as it answers one request after the other. -/
def api : Object (RecordStores Ω) RecordRequest (Except JsError (Response RecordBody)) where
  call request s := Effect.exec (handleApiRequest (route P storage request)) s

end

end

end RecordRoutes

end Xygo.Model
