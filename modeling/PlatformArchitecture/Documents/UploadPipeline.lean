import PlatformArchitecture.Documents.ZipInspection
import PlatformArchitecture.Foundations.Json
import PlatformArchitecture.Foundations.Program

/-!
# The upload pipeline

`UploadSecurityPipeline` authorizes uploads to quarantine, and approves an
upload by reading it once, checking what it has read and storing it under an
approved key.  Every call of the storage, the scanner, the queue and the
callbacks is a statement, which may fail.  What the callbacks and the scanner
answer is up to the environment; the state keeps what they have granted and
reported clean.
-/

namespace PlatformArchitecture.Documents

open PlatformArchitecture.Foundations

/-! ## Policy and descriptor -/

structure DocumentPolicy extends UploadPolicy where
  allowedExtensions : List String
  allowedMimeTypes : List String

structure DocumentUpload extends UploadDescriptor where
  tenantId : String
  workspaceId : Option String
  filename : String
  sizeBytes : ℚ

/-- The workspace of an upload; an empty id counts as none. -/
def DocumentUpload.workspace (d : DocumentUpload) : Option String :=
  d.workspaceId.filter (· ≠ "")

/-- `contentPolicy` is optional, and the storage may not presign uploads. -/
structure UploadPipeline where
  policy : DocumentPolicy
  presigns : Bool
  hasContentPolicy : Bool
  toLowerCase : String → String
  sha256 : Bytes → String

def magic : List (String × List Bytes) :=
  [("application/pdf", [[0x25, 0x50, 0x44, 0x46]]),
    ("image/png", [[0x89, 0x50, 0x4e, 0x47]]),
    ("image/jpeg", [[0xff, 0xd8, 0xff]]),
    ("application/zip",
      [[0x50, 0x4b, 0x03, 0x04], [0x50, 0x4b, 0x05, 0x06], [0x50, 0x4b, 0x07, 0x08]]),
    ("application/vnd.openxmlformats-officedocument.wordprocessingml.document",
      [[0x50, 0x4b, 0x03, 0x04], [0x50, 0x4b, 0x05, 0x06], [0x50, 0x4b, 0x07, 0x08]])]

/-- What `magic` finds under an inherited name has no `some`. -/
def matchesMagic (bytes : Bytes) (mime : String) : Except String Bool :=
  match magic.lookup mime with
  | some signatures => .ok (signatures.any fun signature => signature.isPrefixOf bytes)
  | none =>
      if mime ∈ inheritedProperties then .error "signatures.some is not a function"
      else .ok true

/-- The name from its last dot on, in lower case. -/
def ext (toLowerCase : String → String) (name : String) : String :=
  if '.' ∈ name.toList then
    toLowerCase
      (String.ofList ('.' :: (name.toList.reverse.takeWhile (· ≠ '.')).reverse))
  else
    ""

/-! ## Keys -/

/-- `[A-Za-z0-9._-]`. -/
def segmentChar (c : Char) : Bool :=
  c.isAlphanum || c ∈ ['.', '_', '-']

def safeSegment (value : String) : Except String String :=
  if value = "" ∨ value = "." ∨ value = ".." ∨ value.length > 200 ∨
      ¬ value.toList.all segmentChar then
    .error "INVALID_STORAGE_SEGMENT"
  else
    .ok value

/-- `workspaces/…/`, or nothing without a workspace. -/
def workspaceSegment (d : DocumentUpload) : Except String String :=
  match d.workspace with
  | none => .ok ""
  | some workspaceId => do
      let segment ← safeSegment workspaceId
      return "workspaces/" ++ segment ++ "/"

/-- The part of a key in front of the upload id. -/
def keyPrefix (area : String) (d : DocumentUpload) : Except String String := do
  let tenant ← safeSegment d.tenantId
  let workspace ← workspaceSegment d
  return area ++ "/tenants/" ++ tenant ++ "/" ++ workspace

/-- The key of an upload in an area of the storage. -/
def uploadKey (area : String) (d : DocumentUpload) (uploadId : String) :
    Except String String := do
  let start ← keyPrefix area d
  let upload ← safeSegment uploadId
  return start ++ upload

/-! ## Checks -/

namespace UploadPipeline

variable (pipeline : UploadPipeline)

def validateDescriptor (d : DocumentUpload) : Except String Unit := do
  let _ ← safeSegment d.tenantId
  let _ ← workspaceSegment d
  throwIf (d.sizeBytes ≤ 0 ∨ d.sizeBytes > pipeline.policy.maxBytes) "UPLOAD_SIZE_REJECTED"
  throwIf (ext pipeline.toLowerCase d.filename ∉ pipeline.policy.allowedExtensions)
    "UPLOAD_EXTENSION_REJECTED"
  throwIf (d.mimeType ∉ pipeline.policy.allowedMimeTypes) "UPLOAD_MIME_REJECTED"

/-- The checks on the bytes that were read. -/
def checkBytes (d : DocumentUpload) (bytes : Bytes) : Except String Unit := do
  throwIf ((bytes.length : ℚ) ≠ d.sizeBytes) "UPLOAD_SIZE_MISMATCH"
  let matched ← matchesMagic bytes d.mimeType
  throwIf (!matched) "UPLOAD_MAGIC_BYTES_REJECTED"
  checkArchive pipeline.policy.toUploadPolicy d.toUploadDescriptor bytes

end UploadPipeline

/-! ## Statements -/

structure ScanVerdict where
  clean : Bool
  signature : Option String

abbrev ObjectMetadata :=
  List (String × String)

structure StoredObject where
  bytes : Bytes
  metadata : ObjectMetadata

/-- The payload of a job of the queue `document-processing` and its options. -/
structure DocumentJob where
  uploadId : String
  tenantId : String
  workspaceId : Option String
  approvedKey : String
  filename : String
  mimeType : String
  sha256 : String
  idempotencyKey : String
  correlationId : String
  maxAttempts : Nat

inductive UploadStatement where
  | authorize (tenantId : String) (workspaceId : Option String)
  | signedUploadUrl (key : String) (expiresSeconds : Nat) (contentType : String)
      (metadata : ObjectMetadata)
  | get (key : String)
  | scan (bytes : Bytes)
  | contentPolicy (bytes : Bytes) (d : DocumentUpload)
  | put (key : String) (bytes : Bytes) (metadata : ObjectMetadata)
  | delete (key : String)
  | enqueue (job : DocumentJob)
  | clientWrite (key : String) (bytes : Bytes) (metadata : ObjectMetadata)

abbrev UploadStatement.Reply : UploadStatement → Type
  | authorize _ _ => Bool
  | signedUploadUrl _ _ _ _ => String
  | get _ => Bytes
  | scan _ => ScanVerdict
  | _ => Unit

/-- The objects and the jobs, with what was granted and reported clean so far. -/
structure UploadState where
  objects : String → Option StoredObject
  jobs : List DocumentJob
  granted : List (String × Option String)
  reportedClean : List Bytes

def emptyUploads : UploadState where
  objects _ := none
  jobs := []
  granted := []
  reportedClean := []

/-- What the environment answers to a statement, and whether the queue still
knows an earlier job of the same idempotency key. -/
structure UploadAnswers where
  authorized : Bool
  uploadUrl : String
  verdict : ScanVerdict
  contentAccepted : Except String Unit
  remembers : Bool

def setObject (key : String) (object : Option StoredObject) (state : UploadState) :
    UploadState :=
  { state with objects := Function.update state.objects key object }

@[simp]
theorem setObject_self (key : String) (object : Option StoredObject) (state : UploadState) :
    (setObject key object state).objects key = object :=
  Function.update_self key _ _

theorem setObject_of_ne {key other : String} (different : other ≠ key)
    (object : Option StoredObject) (state : UploadState) :
    (setObject key object state).objects other = state.objects other :=
  Function.update_of_ne different _ _

/-- The key is one that clients may write to. -/
def IsQuarantineKey (key : String) : Prop :=
  "quarantine/".toList <+: key.toList

instance (key : String) : Decidable (IsQuarantineKey key) :=
  inferInstanceAs (Decidable (_ <+: _))

def executeUpload (answers : UploadAnswers) (statement : UploadStatement)
    (state : UploadState) : Except String (statement.Reply × UploadState) :=
  match statement with
  | .authorize tenantId workspaceId =>
      .ok (answers.authorized,
        if answers.authorized then
          { state with granted := (tenantId, workspaceId) :: state.granted }
        else
          state)
  | .signedUploadUrl _ _ _ _ => .ok (answers.uploadUrl, state)
  | .get key =>
      match state.objects key with
      | none => .error "OBJECT_NOT_FOUND"
      | some object => .ok (object.bytes, state)
  | .scan bytes =>
      .ok (answers.verdict,
        if answers.verdict.clean then
          { state with reportedClean := bytes :: state.reportedClean }
        else
          state)
  | .contentPolicy _ _ =>
      match answers.contentAccepted with
      | .error error => .error error
      | .ok _ => .ok ((), state)
  | .put key bytes metadata => .ok ((), setObject key (some ⟨bytes, metadata⟩) state)
  | .delete key => .ok ((), setObject key none state)
  | .enqueue job =>
      if answers.remembers ∧
          ∃ earlier ∈ state.jobs, earlier.idempotencyKey = job.idempotencyKey then
        .ok ((), state)
      else
        .ok ((), { state with jobs := state.jobs ++ [job] })
  | .clientWrite key bytes metadata =>
      if IsQuarantineKey key then
        .ok ((), setObject key (some ⟨bytes, metadata⟩) state)
      else
        .error "ACCESS_DENIED"

def uploadDatabase (answers : UploadAnswers) :
    Database UploadState UploadStatement UploadStatement.Reply String where
  execute := executeUpload answers
  disconnected := "connection lost"

abbrev UploadProgram (Result : Type) :=
  Program UploadStatement UploadStatement.Reply String Result

abbrev awaitUpload (statement : UploadStatement) : UploadProgram statement.Reply :=
  Program.call statement

/-! ## Calls -/

structure AuthorizedUpload where
  uploadId : String
  quarantineKey : String
  uploadUrl : String
  expiresSeconds : Nat

structure ApprovedUpload where
  approvedKey : String
  sha256 : String

/-- `MALWARE_DETECTED`, with the signature if there is one. -/
def malwareDetected (verdict : ScanVerdict) : String :=
  "MALWARE_DETECTED" ++
    (((verdict.signature.filter (· ≠ "")).map fun signature => ":" ++ signature).getD "")

namespace UploadPipeline

variable (pipeline : UploadPipeline)

/-- `uploadId` is the random id. -/
def authorizeUpload (uploadId : String) (d : DocumentUpload) :
    UploadProgram AuthorizedUpload := do
  Program.check (pipeline.validateDescriptor d)
  let allowed ← awaitUpload (.authorize d.tenantId d.workspaceId)
  Program.check (throwIf (!allowed) "UPLOAD_ACCESS_DENIED")
  Program.check (throwIf (!pipeline.presigns) "PRESIGNED_UPLOAD_UNAVAILABLE")
  let start ← Program.check (keyPrefix "quarantine" d)
  let quarantineKey := start ++ uploadId
  let uploadUrl ← awaitUpload
    (.signedUploadUrl quarantineKey 300 d.mimeType
      [("tenantId", d.tenantId), ("workspaceId", d.workspaceId.getD ""),
        ("uploadId", uploadId), ("originalFilename", d.filename)])
  return { uploadId, quarantineKey, uploadUrl, expiresSeconds := 300 }

def documentJob (d : DocumentUpload) (uploadId approvedKey : String) (bytes : Bytes) :
    DocumentJob where
  uploadId
  tenantId := d.tenantId
  workspaceId := d.workspaceId
  approvedKey
  filename := d.filename
  mimeType := d.mimeType
  sha256 := pipeline.sha256 bytes
  idempotencyKey := "document:" ++ d.tenantId ++ ":" ++ uploadId
  correlationId := uploadId
  maxAttempts := 5

def approvedMetadata (d : DocumentUpload) (bytes : Bytes) : ObjectMetadata :=
  [("tenantId", d.tenantId), ("workspaceId", d.workspaceId.getD ""),
    ("sha256", pipeline.sha256 bytes), ("originalFilename", d.filename),
    ("mimeType", d.mimeType)]

/-! `inspectAndApprove`, from its last statement to its first. -/

def enqueueDocument (d : DocumentUpload) (uploadId approvedKey : String) (bytes : Bytes) :
    UploadProgram ApprovedUpload := do
  awaitUpload (.enqueue (pipeline.documentJob d uploadId approvedKey bytes))
  return ⟨approvedKey, pipeline.sha256 bytes⟩

def releaseQuarantine (d : DocumentUpload) (uploadId quarantineKey approvedKey : String)
    (bytes : Bytes) : UploadProgram ApprovedUpload := do
  awaitUpload (.delete quarantineKey)
  pipeline.enqueueDocument d uploadId approvedKey bytes

def storeApproved (d : DocumentUpload) (uploadId quarantineKey : String) (bytes : Bytes) :
    UploadProgram ApprovedUpload := do
  let approvedKey ← Program.check (uploadKey "approved" d uploadId)
  awaitUpload (.put approvedKey bytes (pipeline.approvedMetadata d bytes))
  pipeline.releaseQuarantine d uploadId quarantineKey approvedKey bytes

def applyContentPolicy (d : DocumentUpload) (uploadId quarantineKey : String)
    (bytes : Bytes) : UploadProgram ApprovedUpload := do
  if pipeline.hasContentPolicy then
    awaitUpload (.contentPolicy bytes d)
  pipeline.storeApproved d uploadId quarantineKey bytes

def scanBytes (d : DocumentUpload) (uploadId quarantineKey : String) (bytes : Bytes) :
    UploadProgram ApprovedUpload := do
  let malware ← awaitUpload (.scan bytes)
  Program.check (throwIf (!malware.clean) (malwareDetected malware))
  pipeline.applyContentPolicy d uploadId quarantineKey bytes

def readQuarantine (d : DocumentUpload) (uploadId quarantineKey : String) :
    UploadProgram ApprovedUpload := do
  let bytes ← awaitUpload (.get quarantineKey)
  Program.check (pipeline.checkBytes d bytes)
  pipeline.scanBytes d uploadId quarantineKey bytes

def authorizeInspection (d : DocumentUpload) (uploadId : String) :
    UploadProgram ApprovedUpload := do
  let allowed ← awaitUpload (.authorize d.tenantId d.workspaceId)
  Program.check (throwIf (!allowed) "UPLOAD_ACCESS_DENIED")
  let quarantineKey ← Program.check (uploadKey "quarantine" d uploadId)
  pipeline.readQuarantine d uploadId quarantineKey

def inspectAndApprove (d : DocumentUpload) (uploadId : String) :
    UploadProgram ApprovedUpload := do
  Program.check (pipeline.validateDescriptor d)
  pipeline.authorizeInspection d uploadId

end UploadPipeline

end PlatformArchitecture.Documents
