import Xygo.Model.Communication
import Xygo.Model.FileStorage
import Xygo.Model.RecordRoutes

/-!
# The routes that change files

The upload intents, completions, uploads and deletions of `apps/api/src/handlers.js`, on the memory
repository with the outbox store beside it. Each call of the repository and of the outbox may fail,
as the request says; the storage adapter is a parameter, so that its calls may fail as well. A
request comes when the one before it is answered.
-/

set_option autoImplicit false

namespace Xygo.Model

open Xygo.Computation

/-- `createFileRecord`
SOURCE: apps/api/src/repositories/memory.js:258-262 -/
def MemoryRepository.createFileRecord (fileRecord : FileRecord) : RepositoryM FileRecord := do
  let r ← get
  if r.fileRecordStore.has fileRecord.id then throw (newError "File id already exists.")
  set { r with fileRecordStore := r.fileRecordStore.put fileRecord }
  return fileRecord

namespace FileRoutes

/-- Where a client uploads a file to.
SOURCE: packages/file-storage/src/index.js:260-262, 332-354 -/
structure UploadTarget where
  mode : String
  method : String := "PUT"
  url : Option String
  expiresIn : Option Nat
  headers : List (String × String) := []

/-- A storage adapter that uploads go to, with its configuration. -/
structure UploadStorage (Ω : Type) extends StorageAdapter Ω where
  configuration : FileStorage.Configuration
  createUploadTarget : FileRecord → Effect JsError Ω UploadTarget

/-- What an answer gives back. -/
inductive FileBody
  | file (item : PublicFile)
  | intent (item : PublicFile) (upload : UploadTarget)

/-- A route, with the id in its path. A JSON body is as `JSON.parse` reads it, or `none` where that
throws; a content has the text of its content type, if there is one, and its bytes, unless the body
is no buffer. -/
inductive FileAction
  | createIntent (body : Option Json)
  | complete (fileId : PathPart)
  | putContent (fileId : PathPart) (contentType : Option String) (body : Option (List UInt8))
  | delete (fileId : PathPart)

/-- A request, with what is drawn for it, what the clock says where a file is created, where it is
marked as being deleted and afterwards, and what fails of the calls it makes. -/
structure FileCall where
  tenantId : PathPart
  principal : Principal
  action : FileAction
  signingKey : Option String := none
  auditDraw : AuditDraw
  outboxDraw : OutboxDraw
  newFileId : String
  createdAt : Int := 0
  deletingAt : Int := 0
  now : Int := 0
  faults : List (Option (Fault JsError)) := []

/-- What the writers of evidence read of a request. -/
def FileCall.onFile (request : FileCall) : FileRequest where
  tenantId := request.tenantId.text
  userId := request.principal.userId
  signingKey := request.signingKey
  auditDraw := request.auditDraw
  outboxDraw := request.outboxDraw
  now := request.now

/-- What the routes work on. -/
structure FileStores (Ω : Type) where
  memory : MemoryStores := {}
  storage : Ω

/-- The stores, with the faults of the calls to come. -/
structure FaultyStores (Ω : Type) where
  memory : Faulty JsError MemoryStores
  storage : Ω

/-- An operation of a route. -/
abbrev FileM (Ω : Type) : Type → Type := Effect JsError (FaultyStores Ω)

section

variable {Ω : Type}

/-- An operation of the repository and the outbox. -/
def onMemory {α : Type} (operation : MemoryM α) : FileM Ω α :=
  Effect.focus FaultyStores.memory (fun s t => { s with memory := t }) operation

/-- An operation of the file storage. -/
def onStorage {α : Type} (operation : Effect JsError Ω α) : FileM Ω α :=
  Effect.focus FaultyStores.storage (fun s t => { s with storage := t }) operation

/-- A call of the repository that reads. -/
def readMemory {α : Type} (read : MemoryRepository → α) : FileM Ω α :=
  onMemory (Model.onRepository do
    let r ← get
    return read r)

/-- A file, as a client sees it. -/
def answerFile (fileRecord : FileRecord) : FileM Ω (Response FileBody) := do
  let item ← publicFileMetadata fileRecord
  return .answered 200 (.file item)

section

variable (P : Platform) (storage : UploadStorage Ω)

/-! ### Upload intents -/

/-- Who may publish a file that belongs to no approved report.
SOURCE: apps/api/src/handlers.js:828-830 -/
def mayPublish (principal : Principal) : Bool :=
  principal.organizationRole.any
    (· ∈ ["xygo_admin", "client_owner", "platform_admin", "company_admin"])

/-- Whether a class of files needs a report.
SOURCE: apps/api/src/handlers.js:824 -/
def needsReport (parsed : Json) : Bool :=
  (parsed.orElse "fileClass" .null).isText "report_photo" ||
    (parsed.orElse "fileClass" .null).isText "report_attachment"

/-- The report a request names.
SOURCE: apps/api/src/handlers.js:818-819 -/
def namedReport (parsed : Json) : FileM Ω (Option FieldReport) :=
  if parsed.hasTruthy "fieldReportId" then
    readMemory fun r =>
      match parsed.orElse "fieldReportId" .null with
      | .string fieldReportId => r.getFieldReportById fieldReportId
      | _ => none
  else return none

/-- Why a file of a project may not be uploaded, from the report the request names.
SOURCE: apps/api/src/handlers.js:820-833 -/
def intentRefusal (request : FileCall) (parsed : Json) (project : Project)
    (fieldReport : Option FieldReport) : Option (Response FileBody) :=
  if parsed.hasTruthy "fieldReportId" && !(fieldReport.any fun report =>
      report.tenantId = request.tenantId.text && report.projectId = project.id) then
    some (forbidden "File report must exist in the same tenant and project.")
  else if needsReport parsed && fieldReport.isNone then
    some (badRequest "Report files require fieldReportId.")
  else if parsed.isTrue "clientVisible" && !mayPublish request.principal &&
      !(fieldReport.any fun report => report.status = .approved && report.clientVisible) then
    some (forbidden ("Only an owner/admin or an approved report may publish a file to the client " ++
      "portal."))
  else none

/-- The `try` block of an upload intent.
SOURCE: apps/api/src/handlers.js:835-846 -/
def storeIntent (request : FileCall) (parsed : Json) : FileM Ω (Response FileBody) := do
  let fileRecord ← FileStorage.createPendingFileRecord P
    (spreadMembers parsed [("tenantId", .string request.tenantId.text),
      ("createdBy", .ofOption request.principal.userId)])
    storage.configuration request.createdAt request.newFileId
  let upload ← onStorage (storage.createUploadTarget fileRecord)
  let _ ← onMemory (Model.onRepository (MemoryRepository.createFileRecord fileRecord))
  let item ← publicFileMetadata fileRecord
  return .answered 201 (.intent item
    (if upload.mode = "authenticated_proxy" then
      { upload with url := some (RecordRoutes.contentPath request.tenantId.text fileRecord.id) }
    else upload))

/-- The file of an intent, once its project and its field report are read.
SOURCE: apps/api/src/handlers.js:820-849 -/
def checkedIntent (request : FileCall) (parsed : Json) (project : Project)
    (fieldReport : Option FieldReport) : FileM Ω (Response FileBody) :=
  match intentRefusal request parsed project fieldReport with
  | some refusal => return refusal
  | none =>
    tryCatch (storeIntent P storage request parsed) fun error =>
      return badRequest error.message

/-- The intent to upload a file.
SOURCE: apps/api/src/handlers.js:809-850 -/
def createIntent (request : FileCall) (body : Option Json) : FileM Ω (Response FileBody) :=
  match authorize request.principal request.tenantId.text "file_record" "create" with
  | some denied => return .refused denied
  | none =>
    match body with
    | none => return malformedBody
    | some parsed =>
      match ensureObjectBody parsed with
      | some message => return badRequest message
      | none => do
        let stored ← readMemory fun r => r.getProjectById (parsed.orElse "projectId" .null)
        match stored.filter fun project => project.tenantId = request.tenantId.text with
        | none => return forbidden "File project must exist in-tenant."
        | some project =>
          checkedIntent P storage request parsed project (← namedReport parsed)

/-! ### Uploads and completions -/

/-- `completeFileUpload`
SOURCE: apps/api/src/handlers.js:765-796 -/
def completeFileUpload (request : FileCall) (fileRecord : FileRecord) :
    FileM Ω (Response FileBody) := do
  let object ← onStorage (storage.headObject fileRecord)
  let response ← onMemory (Model.completeFileUpload P request.onFile fileRecord object)
  match response with
  | .refused refusal => return .refused refusal
  | .answered _ completed => answerFile completed

/-- `enqueueFileOutbox`
SOURCE: apps/api/src/handlers.js:757-763 -/
def enqueueFileOutbox (request : FileCall) (action fileId : String) : MemoryM Unit := do
  let event ← request.onFile.outboxEvent action fileId
  enqueueMemory event (request.onFile.outboxKey action fileId) request.now

/-- A retry of a request that changed the record, but may not have reached the outbox.
SOURCE: apps/api/src/handlers.js:859-866, 926-933 -/
def enqueueAgain (request : FileCall) (fileRecord : FileRecord) (action message : String) :
    FileM Ω (Response FileBody) := do
  let failed ← tryCatch
    (do
      onMemory (enqueueFileOutbox request action fileRecord.id)
      return false)
    fun _ => return true
  if failed then return unavailable "outbox_unavailable" message else answerFile fileRecord

/-- The completion of an upload.
SOURCE: apps/api/src/handlers.js:859-872 -/
def completeFile (request : FileCall) (fileRecord : FileRecord) : FileM Ω (Response FileBody) :=
  match fileRecord.status with
  | .ready => enqueueAgain request fileRecord "api.file.upload_completed"
    "File is ready but its durable outbox event is still pending; retry completion."
  | .pendingUpload =>
    tryCatch (completeFileUpload P storage request fileRecord) fun _ =>
      return unavailable "file_storage_unavailable"
        "File storage could not verify the uploaded object."
  | _ => return badRequest "File is not awaiting upload completion."

/-- The `try` block of an upload through the API.
SOURCE: apps/api/src/handlers.js:886-888 -/
def persistContent (request : FileCall) (fileRecord : FileRecord) (body : List UInt8)
    (contentType : String) : FileM Ω (Response FileBody) := do
  onStorage (storage.putObject fileRecord body contentType)
  completeFileUpload P storage request fileRecord

/-- The content of an upload.
SOURCE: apps/api/src/handlers.js:879-891 -/
def putContent (request : FileCall) (contentType : Option String) (body : Option (List UInt8))
    (fileRecord : FileRecord) : FileM Ω (Response FileBody) :=
  if fileRecord.status ≠ .pendingUpload then return badRequest "File is not awaiting content."
  else if storage.driver ≠ "local" then
    return badRequest "Direct API uploads are disabled for object storage."
  else
    match body with
    | none => return badRequest "File content must be sent as a binary request body."
    | some body =>
      if body.length ≠ fileRecord.sizeBytes then
        return badRequest "Uploaded content length does not match the declared file size."
      else if RecordRoutes.mimeTypeOf P contentType ≠ fileRecord.mimeType then
        return badRequest "Uploaded content type does not match the declared MIME type."
      else
        tryCatch (persistContent P storage request fileRecord body
          (RecordRoutes.mimeTypeOf P contentType)) fun _ =>
            return unavailable "file_storage_unavailable"
              "File storage could not persist or verify the uploaded object."

/-! ### Deletions -/

/-- `saveFileRecord`, as one call. -/
def saveFile (fileRecord : FileRecord) : FileM Ω Unit := do
  let _ ← onMemory (Model.onRepository (MemoryRepository.saveFileRecord fileRecord))

/-- A file is marked, and its object is deleted; where that fails, the mark is taken back, and a
failure of that is ignored.
SOURCE: apps/api/src/handlers.js:934-944 -/
def deleteObject (request : FileCall) (previous : FileRecord) : FileM Ω Bool :=
  let deleting := { previous with status := .deleting, updatedAt := request.deletingAt }
  tryCatch
    (do
      if previous.status ≠ .deleting then saveFile deleting
      onStorage (storage.deleteObject deleting)
      return true)
    fun _ => do
      if previous.status ≠ .deleting then tryCatch (saveFile previous) fun _ => return ()
      return false

/-- The last part of `DELETE`, and its answer.
SOURCE: apps/api/src/handlers.js:945-971 -/
def finishDeletion (request : FileCall) (previous : FileRecord) :
    FileM Ω (Response FileBody) := do
  let response ← onMemory (Model.finalizeDeletion P request.onFile previous)
  match response with
  | .refused refusal => return .refused refusal
  | .answered _ deleted => answerFile deleted

/-- The deletion of a file.
SOURCE: apps/api/src/handlers.js:926-971 -/
def deleteFile (request : FileCall) (fileRecord : FileRecord) : FileM Ω (Response FileBody) :=
  if fileRecord.status = .deleted then
    enqueueAgain request fileRecord "api.file.deleted"
      "File is deleted but its durable outbox event is still pending; retry deletion."
  else do
    let objectDeleted ← deleteObject storage request fileRecord
    if objectDeleted then
      tryCatch (finishDeletion P request fileRecord) fun _ =>
        return unavailable "file_delete_finalization_pending"
          "Object deletion succeeded; retry DELETE to finalize metadata and audit evidence."
    else return unavailable "file_storage_unavailable" "File storage could not delete the object."

/-! ### Requests -/

/-- A route on a file: it is read first, whoever asks for it.
SOURCE: apps/api/src/handlers.js:852-858, 876-878, 923-925 -/
def onStoredFile (request : FileCall) (fileId : PathPart) (action : String)
    (use : FileRecord → FileM Ω (Response FileBody)) : FileM Ω (Response FileBody) := do
  let stored ← readMemory fun r => r.getFileRecordById fileId.text
  match authorize request.principal request.tenantId.text "file_record" action with
  | some denied => return .refused denied
  | none =>
    match stored.filter fun fileRecord => fileRecord.tenantId = request.tenantId.text with
    | none => return notFound "File not found."
    | some fileRecord => use fileRecord

/-- The route of a request.
SOURCE: apps/api/src/handlers.js:809-972 -/
def route (request : FileCall) : FileM Ω (Response FileBody) :=
  match request.action with
  | .createIntent body => createIntent P storage request body
  | .complete fileId => onStoredFile request fileId "update" (completeFile P storage request)
  | .putContent fileId contentType body =>
    onStoredFile request fileId "update" (putContent P storage request contentType body)
  | .delete fileId => onStoredFile request fileId "delete" (deleteFile P storage request)

/-- The API as it answers one request after the other. -/
def api : Object (FileStores Ω) FileCall (Except JsError (Response FileBody)) where
  call request s :=
    let run := Effect.exec (handleApiRequest (route P storage request))
      ⟨⟨s.memory, request.faults⟩, s.storage⟩
    (run.1, ⟨run.2.memory.store, run.2.storage⟩)

end

end

end FileRoutes

end Xygo.Model
