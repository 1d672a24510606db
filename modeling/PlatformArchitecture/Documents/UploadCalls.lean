import PlatformArchitecture.Documents.UploadKeys
import PlatformArchitecture.Foundations.Concurrent

/-!
# Concurrent uploads

Any number of calls of `authorizeUpload` and `inspectAndApprove` run together
with clients that write to quarantine keys.  A call of `inspectAndApprove` is
always at one of few points; each point has one statement, and its reply decides
the next point.
-/

namespace PlatformArchitecture.Documents

open PlatformArchitecture.Foundations

/-! ## Calls -/

inductive UploadCall where
  | authorizeUpload (uploadId : String) (d : DocumentUpload)
  | inspectAndApprove (d : DocumentUpload) (uploadId : String)
  | clientWrite (key : String) (bytes : Bytes) (metadata : ObjectMetadata)

inductive UploadResult where
  | authorized (upload : AuthorizedUpload)
  | approved (upload : ApprovedUpload)
  | written

def approving (program : UploadProgram ApprovedUpload) : UploadProgram UploadResult :=
  program >>= fun upload => .done (.approved upload)

def UploadCall.program (pipeline : UploadPipeline) : UploadCall → UploadProgram UploadResult
  | authorizeUpload uploadId d =>
      pipeline.authorizeUpload uploadId d >>= fun upload => .done (.authorized upload)
  | inspectAndApprove d uploadId => approving (pipeline.inspectAndApprove d uploadId)
  | clientWrite key bytes metadata =>
      awaitUpload (.clientWrite key bytes metadata) >>= fun _ => .done .written

abbrev UploadWorld (Pid : Type) :=
  World Pid UploadState UploadStatement UploadStatement.Reply String UploadResult

def uploadServer (Pid : Type) :
    Server Pid (Delivery × UploadAnswers) UploadState UploadStatement UploadStatement.Reply
      String where
  outcome _ choice statement state :=
    some ((uploadDatabase choice.2).attempt choice.1 statement state)
  disconnect _ state := state

def uploadStart {Pid : Type} (pipeline : UploadPipeline) (calls : Pid → UploadCall) :
    UploadWorld Pid :=
  World.start emptyUploads fun pid => (calls pid).program pipeline

/-! ## Points -/

/-- The statements outside of `inspectAndApprove`. -/
def UploadStatement.Quiet : UploadStatement → Prop
  | .authorize _ _ | .signedUploadUrl _ _ _ _ | .clientWrite _ _ _ => True
  | _ => False

/-- An upload that is being inspected: its descriptor is valid and it has keys. -/
structure InspectedUpload (pipeline : UploadPipeline) where
  d : DocumentUpload
  uploadId : String
  path : String
  validated : pipeline.validateDescriptor d = .ok ()
  located : uploadPath d uploadId = .ok path

namespace InspectedUpload

variable {pipeline : UploadPipeline} (upload : InspectedUpload pipeline)

def quarantineKey : String :=
  "quarantine" ++ upload.path

def approvedKey : String :=
  "approved" ++ upload.path

theorem uploadKey_eq_ok (area : String) :
    uploadKey area upload.d upload.uploadId = .ok (area ++ upload.path) := by
  rw [uploadKey_eq, upload.located]
  rfl

end InspectedUpload

/-- Where a call stands.  Calls other than `inspectAndApprove`, and calls that
have ended, are `outside`. -/
inductive UploadPoint (pipeline : UploadPipeline) where
  | asking (d : DocumentUpload) (uploadId : String)
      (validated : pipeline.validateDescriptor d = .ok ())
  | reading (upload : InspectedUpload pipeline)
  | scanning (upload : InspectedUpload pipeline) (bytes : Bytes)
  | consulting (upload : InspectedUpload pipeline) (bytes : Bytes)
  | storing (upload : InspectedUpload pipeline) (bytes : Bytes)
  | releasing (upload : InspectedUpload pipeline) (bytes : Bytes)
  | enqueueing (upload : InspectedUpload pipeline) (bytes : Bytes)
  | outside (program : UploadProgram UploadResult)
      (quiet : program.Issues UploadStatement.Quiet)

namespace UploadPoint

variable {pipeline : UploadPipeline}

/-- What a call has left to do. -/
def program : UploadPoint pipeline → UploadProgram UploadResult
  | asking d uploadId _ => approving (pipeline.authorizeInspection d uploadId)
  | reading upload =>
      approving (pipeline.readQuarantine upload.d upload.uploadId upload.quarantineKey)
  | scanning upload bytes =>
      approving (pipeline.scanBytes upload.d upload.uploadId upload.quarantineKey bytes)
  | consulting upload bytes =>
      approving (awaitUpload (.contentPolicy bytes upload.d) >>= fun _ =>
        pipeline.storeApproved upload.d upload.uploadId upload.quarantineKey bytes)
  | storing upload bytes =>
      approving (pipeline.storeApproved upload.d upload.uploadId upload.quarantineKey bytes)
  | releasing upload bytes =>
      approving (pipeline.releaseQuarantine upload.d upload.uploadId upload.quarantineKey
        upload.approvedKey bytes)
  | enqueueing upload bytes =>
      approving (pipeline.enqueueDocument upload.d upload.uploadId upload.approvedKey bytes)
  | outside program _ => program

/-- The statement of each point. -/
inductive At : UploadPoint pipeline → UploadStatement → Prop
  | authorize {d : DocumentUpload} {uploadId : String}
      {validated : pipeline.validateDescriptor d = .ok ()} :
      At (asking d uploadId validated) (.authorize d.tenantId d.workspaceId)
  | get {upload : InspectedUpload pipeline} : At (reading upload) (.get upload.quarantineKey)
  | scan {upload : InspectedUpload pipeline} {bytes : Bytes} :
      At (scanning upload bytes) (.scan bytes)
  | contentPolicy {upload : InspectedUpload pipeline} {bytes : Bytes} :
      At (consulting upload bytes) (.contentPolicy bytes upload.d)
  | put {upload : InspectedUpload pipeline} {bytes : Bytes} :
      At (storing upload bytes)
        (.put upload.approvedKey bytes (pipeline.approvedMetadata upload.d bytes))
  | delete {upload : InspectedUpload pipeline} {bytes : Bytes} :
      At (releasing upload bytes) (.delete upload.quarantineKey)
  | enqueue {upload : InspectedUpload pipeline} {bytes : Bytes} :
      At (enqueueing upload bytes)
        (.enqueue (pipeline.documentJob upload.d upload.uploadId upload.approvedKey bytes))
  | quiet {program : UploadProgram UploadResult}
      {quiet : program.Issues UploadStatement.Quiet} {op : UploadStatement}
      (isQuiet : op.Quiet) : At (outside program quiet) op

/-- Where the reply to its statement leads a call. -/
inductive Leads : UploadPoint pipeline → (op : UploadStatement) →
    Except String op.Reply → UploadPoint pipeline → Prop
  | granted (upload : InspectedUpload pipeline) :
      Leads (asking upload.d upload.uploadId upload.validated)
        (.authorize upload.d.tenantId upload.d.workspaceId) (.ok true) (reading upload)
  | read {upload : InspectedUpload pipeline} {bytes : Bytes}
      (passed : pipeline.checkBytes upload.d bytes = .ok ()) :
      Leads (reading upload) (.get upload.quarantineKey) (.ok bytes) (scanning upload bytes)
  | consults {upload : InspectedUpload pipeline} {bytes : Bytes} {verdict : ScanVerdict}
      (isClean : verdict.clean = true) :
      Leads (scanning upload bytes) (.scan bytes) (.ok verdict) (consulting upload bytes)
  | passes {upload : InspectedUpload pipeline} {bytes : Bytes} {verdict : ScanVerdict}
      (isClean : verdict.clean = true) :
      Leads (scanning upload bytes) (.scan bytes) (.ok verdict) (storing upload bytes)
  | accepted {upload : InspectedUpload pipeline} {bytes : Bytes} :
      Leads (consulting upload bytes) (.contentPolicy bytes upload.d) (.ok ())
        (storing upload bytes)
  | stored {upload : InspectedUpload pipeline} {bytes : Bytes} :
      Leads (storing upload bytes)
        (.put upload.approvedKey bytes (pipeline.approvedMetadata upload.d bytes)) (.ok ())
        (releasing upload bytes)
  | released {upload : InspectedUpload pipeline} {bytes : Bytes} :
      Leads (releasing upload bytes) (.delete upload.quarantineKey) (.ok ())
        (enqueueing upload bytes)
  | leaves {point : UploadPoint pipeline} {op : UploadStatement}
      {reply : Except String op.Reply} {program : UploadProgram UploadResult}
      {quiet : program.Issues UploadStatement.Quiet} :
      Leads point op reply (outside program quiet)

/-- A call whose next statement is known goes on at a point. -/
def Continues (point : UploadPoint pipeline) (op : UploadStatement)
    (next : Except String op.Reply → UploadProgram UploadResult) : Prop :=
  point.At op ∧ ∀ reply, ∃ after : UploadPoint pipeline,
    next reply = after.program ∧ point.Leads op reply after

/-- A call that fails. -/
theorem leaves_fail {point : UploadPoint pipeline} {op : UploadStatement}
    {reply : Except String op.Reply} (error : String) :
    ∃ after : UploadPoint pipeline,
      (.fail error : UploadProgram UploadResult) = after.program ∧ point.Leads op reply after :=
  ⟨outside (.fail error) True.intro, rfl, .leaves⟩

theorem storeApproved_eq (upload : InspectedUpload pipeline) (bytes : Bytes) :
    pipeline.storeApproved upload.d upload.uploadId upload.quarantineKey bytes =
      (awaitUpload (.put upload.approvedKey bytes (pipeline.approvedMetadata upload.d bytes)) >>=
        fun _ => pipeline.releaseQuarantine upload.d upload.uploadId upload.quarantineKey
          upload.approvedKey bytes) := by
  unfold UploadPipeline.storeApproved
  rw [upload.uploadKey_eq_ok "approved"]
  rfl

section Points

variable {op : UploadStatement} {next : Except String op.Reply → UploadProgram UploadResult}
  {upload : InspectedUpload pipeline} {bytes : Bytes}

theorem continues_asking {d : DocumentUpload} {uploadId : String}
    {validated : pipeline.validateDescriptor d = .ok ()}
    (current : .perform op next = (asking d uploadId validated).program) :
    (asking d uploadId validated).Continues op next := by
  cases current
  refine ⟨.authorize, ?_⟩
  intro reply
  match reply with
  | .error error => exact leaves_fail error
  | .ok false => exact leaves_fail "UPLOAD_ACCESS_DENIED"
  | .ok true =>
      cases isKey : uploadKey "quarantine" d uploadId with
      | error error => exact leaves_fail error
      | ok key =>
          obtain ⟨path, located, rfl⟩ := path_of_uploadKey isKey
          exact ⟨reading ⟨d, uploadId, path, validated, located⟩, rfl,
            .granted ⟨d, uploadId, path, validated, located⟩⟩

theorem continues_reading (current : .perform op next = (reading upload).program) :
    (reading upload).Continues op next := by
  cases current
  refine ⟨.get, ?_⟩
  intro reply
  cases reply with
  | error error => exact leaves_fail error
  | ok bytes =>
      dsimp only [Program.andThen]
      cases passed : pipeline.checkBytes upload.d bytes with
      | error error => exact leaves_fail error
      | ok checked => exact ⟨scanning upload bytes, rfl, .read passed⟩

theorem continues_scanning (current : .perform op next = (scanning upload bytes).program) :
    (scanning upload bytes).Continues op next := by
  cases current
  refine ⟨.scan, ?_⟩
  intro reply
  cases reply with
  | error error => exact leaves_fail error
  | ok verdict =>
      dsimp only [Program.andThen]
      cases isClean : verdict.clean with
      | false => exact leaves_fail (malwareDetected verdict)
      | true =>
          unfold UploadPipeline.applyContentPolicy
          cases consulted : pipeline.hasContentPolicy with
          | true => exact ⟨consulting upload bytes, rfl, .consults isClean⟩
          | false => exact ⟨storing upload bytes, rfl, .passes isClean⟩

theorem continues_consulting (current : .perform op next = (consulting upload bytes).program) :
    (consulting upload bytes).Continues op next := by
  cases current
  refine ⟨.contentPolicy, ?_⟩
  intro reply
  cases reply with
  | error error => exact leaves_fail error
  | ok accepted => exact ⟨storing upload bytes, rfl, .accepted⟩

theorem continues_storing (current : .perform op next = (storing upload bytes).program) :
    (storing upload bytes).Continues op next := by
  have stores : (storing upload bytes).program =
      approving (awaitUpload
          (.put upload.approvedKey bytes (pipeline.approvedMetadata upload.d bytes)) >>=
        fun _ => pipeline.releaseQuarantine upload.d upload.uploadId upload.quarantineKey
          upload.approvedKey bytes) :=
    congrArg approving (storeApproved_eq upload bytes)
  rw [stores] at current
  cases current
  refine ⟨.put, ?_⟩
  intro reply
  cases reply with
  | error error => exact leaves_fail error
  | ok stored => exact ⟨releasing upload bytes, rfl, .stored⟩

theorem continues_releasing (current : .perform op next = (releasing upload bytes).program) :
    (releasing upload bytes).Continues op next := by
  cases current
  refine ⟨.delete, ?_⟩
  intro reply
  cases reply with
  | error error => exact leaves_fail error
  | ok released => exact ⟨enqueueing upload bytes, rfl, .released⟩

theorem continues_enqueueing (current : .perform op next = (enqueueing upload bytes).program) :
    (enqueueing upload bytes).Continues op next := by
  cases current
  refine ⟨.enqueue, ?_⟩
  intro reply
  cases reply with
  | error error => exact leaves_fail error
  | ok enqueued =>
      exact ⟨outside (.done (.approved ⟨upload.approvedKey, pipeline.sha256 bytes⟩)) True.intro,
        rfl, .leaves⟩

theorem continues_outside {program : UploadProgram UploadResult}
    {quiet : program.Issues UploadStatement.Quiet}
    (current : .perform op next = (outside program quiet : UploadPoint pipeline).program) :
    (outside program quiet : UploadPoint pipeline).Continues op next := by
  cases current
  exact ⟨.quiet quiet.1, fun reply => ⟨outside (next reply) (quiet.2 reply), rfl, .leaves⟩⟩

/-- Every point has its statement, and every reply leads to a point. -/
theorem continues (point : UploadPoint pipeline) (current : .perform op next = point.program) :
    point.Continues op next := by
  cases point with
  | asking => exact continues_asking current
  | reading => exact continues_reading current
  | scanning => exact continues_scanning current
  | consulting => exact continues_consulting current
  | storing => exact continues_storing current
  | releasing => exact continues_releasing current
  | enqueueing => exact continues_enqueueing current
  | outside => exact continues_outside current

end Points

end UploadPoint

/-! ## Statements that write -/

namespace UploadPoint.At

variable {pipeline : UploadPipeline} {point : UploadPoint pipeline} {key : String}

theorem put_cases {bytes : Bytes} {metadata : ObjectMetadata}
    (isAt : point.At (.put key bytes metadata)) :
    ∃ upload, point = storing upload bytes ∧ key = upload.approvedKey := by
  cases isAt with
  | @put upload => exact ⟨upload, rfl, rfl⟩
  | quiet isQuiet => cases isQuiet

theorem delete_cases (isAt : point.At (.delete key)) :
    ∃ upload bytes, point = releasing upload bytes ∧ key = upload.quarantineKey := by
  cases isAt with
  | @delete upload bytes => exact ⟨upload, bytes, rfl, rfl⟩
  | quiet isQuiet => cases isQuiet

theorem enqueue_cases {job : DocumentJob} (isAt : point.At (.enqueue job)) :
    ∃ upload bytes, point = enqueueing upload bytes ∧
      job = pipeline.documentJob upload.d upload.uploadId upload.approvedKey bytes := by
  cases isAt with
  | @enqueue upload bytes => exact ⟨upload, bytes, rfl, rfl⟩
  | quiet isQuiet => cases isQuiet

/-- No call deletes an approved object. -/
theorem not_delete {op : UploadStatement} (isAt : point.At op) (path : String) :
    op ≠ .delete ("approved" ++ path) := by
  rintro rfl
  obtain ⟨upload, bytes, -, isKey⟩ := isAt.delete_cases
  exact approved_ne_quarantine path upload.path isKey

end UploadPoint.At

/-! ## Beginning -/

/-- The points at which a call may begin. -/
def UploadPoint.IsFirst {pipeline : UploadPipeline} : UploadPoint pipeline → Prop
  | asking _ _ _ | outside _ _ => True
  | _ => False

theorem authorizeUpload_quiet (pipeline : UploadPipeline) (uploadId : String)
    (d : DocumentUpload) :
    (pipeline.authorizeUpload uploadId d).Issues UploadStatement.Quiet := by
  refine Program.issues_bind (fun _ => ?_) (Program.issues_check _)
  refine Program.issues_bind (fun _ => ?_) (Program.issues_call True.intro)
  refine Program.issues_bind (fun _ => ?_) (Program.issues_check _)
  refine Program.issues_bind (fun _ => ?_) (Program.issues_check _)
  refine Program.issues_bind (fun _ => ?_) (Program.issues_check _)
  refine Program.issues_bind (fun _ => ?_) (Program.issues_call True.intro)
  exact True.intro

theorem UploadCall.starts (pipeline : UploadPipeline) (call : UploadCall) :
    ∃ point : UploadPoint pipeline, call.program pipeline = point.program ∧ point.IsFirst := by
  cases call with
  | authorizeUpload uploadId d =>
      refine ⟨.outside _ (Program.issues_bind ?_ (authorizeUpload_quiet pipeline uploadId d)),
        rfl, True.intro⟩
      intro upload
      exact True.intro
  | clientWrite key bytes metadata =>
      have quiet : UploadStatement.Quiet (.clientWrite key bytes metadata) := True.intro
      refine ⟨.outside _ (Program.issues_bind ?_ (Program.issues_call quiet)), rfl,
        True.intro⟩
      intro written
      exact True.intro
  | inspectAndApprove d uploadId =>
      dsimp only [UploadCall.program, UploadPipeline.inspectAndApprove]
      cases validated : pipeline.validateDescriptor d with
      | error error => exact ⟨.outside (.fail error) True.intro, rfl, True.intro⟩
      | ok checked => exact ⟨.asking d uploadId validated, rfl, True.intro⟩

/-- What holds at every first point holds of all calls at the start. -/
theorem points_uploadStart {Pid : Type} {pipeline : UploadPipeline} {calls : Pid → UploadCall}
    {holds : UploadPoint pipeline → Prop}
    (first : ∀ point : UploadPoint pipeline, point.IsFirst → holds point) :
    ∀ pid program, (uploadStart pipeline calls).programs pid = some program →
      ∃ point : UploadPoint pipeline, program = point.program ∧ holds point := by
  intro pid program running
  cases running
  obtain ⟨point, isProgram, isFirst⟩ := (calls pid).starts pipeline
  exact ⟨point, isProgram, first point isFirst⟩

/-! ## Changes -/

/-- What a statement can do to the state. -/
inductive UploadChange (state : UploadState) : UploadStatement → UploadState → Prop
  | unchanged {op : UploadStatement} : UploadChange state op state
  | granted {tenantId : String} {workspaceId : Option String} :
      UploadChange state (.authorize tenantId workspaceId)
        { state with granted := (tenantId, workspaceId) :: state.granted }
  | reported {bytes : Bytes} :
      UploadChange state (.scan bytes)
        { state with reportedClean := bytes :: state.reportedClean }
  | stored {key : String} {bytes : Bytes} {metadata : ObjectMetadata} :
      UploadChange state (.put key bytes metadata) (setObject key (some ⟨bytes, metadata⟩) state)
  | deleted {key : String} : UploadChange state (.delete key) (setObject key none state)
  | enqueued {job : DocumentJob} :
      UploadChange state (.enqueue job) { state with jobs := state.jobs ++ [job] }
  | written {key : String} {bytes : Bytes} {metadata : ObjectMetadata}
      (isQuarantine : IsQuarantineKey key) :
      UploadChange state (.clientWrite key bytes metadata)
        (setObject key (some ⟨bytes, metadata⟩) state)

theorem change_of_executed {answers : UploadAnswers} {op : UploadStatement}
    {state after : UploadState} {reply : op.Reply}
    (executed : executeUpload answers op state = .ok (reply, after)) :
    UploadChange state op after := by
  cases op with
  | authorize tenantId workspaceId =>
      cases executed
      split
      · exact .granted
      · exact .unchanged
  | signedUploadUrl key expiresSeconds contentType metadata =>
      cases executed
      exact .unchanged
  | get key =>
      dsimp only [executeUpload] at executed
      split at executed
      · cases executed
      · cases executed
        exact .unchanged
  | scan bytes =>
      cases executed
      split
      · exact .reported
      · exact .unchanged
  | contentPolicy bytes d =>
      dsimp only [executeUpload] at executed
      split at executed
      · cases executed
      · cases executed
        exact .unchanged
  | put key bytes metadata =>
      cases executed
      exact .stored
  | delete key =>
      cases executed
      exact .deleted
  | enqueue job =>
      dsimp only [executeUpload] at executed
      split at executed
      · cases executed
        exact .unchanged
      · cases executed
        exact .enqueued
  | clientWrite key bytes metadata =>
      dsimp only [executeUpload] at executed
      split at executed
      · next isQuarantine =>
        cases executed
        exact .written isQuarantine
      · cases executed

/-- No statement waits. -/
theorem uploadServer_answers {Pid : Type} (pid : Pid) (choice : Delivery × UploadAnswers)
    (op : UploadStatement) (state : UploadState) :
    ∃ reply after, (uploadServer Pid).outcome pid choice op state = some (reply, after) :=
  ⟨_, _, rfl⟩

/-- A statement of a call changes the state, and an answer tells of the change. -/
theorem change_of_outcome {Pid : Type} {pid : Pid} {choice : Delivery × UploadAnswers}
    {op : UploadStatement} {state after : UploadState} {reply : Except String op.Reply}
    (answered : (uploadServer Pid).outcome pid choice op state = some (reply, after)) :
    UploadChange state op after ∧
      ∀ value, reply = .ok value → executeUpload choice.2 op state = .ok (value, after) := by
  have attempted := Option.some.inj answered
  rcases (uploadDatabase choice.2).attempt_cases choice.1 op state with
    ⟨error, failed⟩ | ⟨value, state', executed, told | lost⟩
  · cases failed.symm.trans attempted
    exact ⟨.unchanged, fun _ isOk => nomatch isOk⟩
  · cases told.symm.trans attempted
    refine ⟨change_of_executed executed, ?_⟩
    intro _ isOk
    cases isOk
    exact executed
  · cases lost.symm.trans attempted
    exact ⟨change_of_executed executed, fun _ isOk => nomatch isOk⟩

end PlatformArchitecture.Documents
