import PlatformArchitecture.Documents.UploadCoverage

/-!
# Interrupted approvals

Between the delete and the enqueue of a call, its approved object has neither a
quarantine object nor a job, so a call that ends there loses the upload.  With
these states counted, uploads are recoverable exactly while no delete takes
effect; without them, exactly while every event meets `KeepsRecoverable`.
-/

namespace PlatformArchitecture.Documents

open PlatformArchitecture.Foundations

section Worlds

variable {Pid : Type}

/-- As `Recoverable`, also while a call is about to enqueue the job. -/
structure RecoverableAtOnce (pipeline : UploadPipeline) (world : UploadWorld Pid) : Prop where
  retained : ∀ d uploadId approvedKey quarantineKey,
    uploadKey "approved" d uploadId = .ok approvedKey →
    uploadKey "quarantine" d uploadId = .ok quarantineKey →
    (world.shared.objects approvedKey).isSome →
    ¬ HasJob world.shared approvedKey →
      (world.shared.objects quarantineKey).isSome
  hashed : ∀ job ∈ world.shared.jobs, ∃ object,
    world.shared.objects job.approvedKey = some object ∧
      job.sha256 = pipeline.sha256 object.bytes

theorem RecoverableAtOnce.recoverable {pipeline : UploadPipeline} {world : UploadWorld Pid}
    (atOnce : RecoverableAtOnce pipeline world) : Recoverable pipeline world where
  retained := by
    intro d uploadId approvedKey quarantineKey isApprovedKey isQuarantineKey isApproved noJob _
    exact atOnce.retained d uploadId approvedKey quarantineKey isApprovedKey isQuarantineKey
      isApproved noJob
  hashed := atOnce.hashed

/-- No delete takes effect. -/
def DeletesNothing (world : UploadWorld Pid) : Event Pid (Delivery × UploadAnswers) → Prop
  | .statement pid choice => ∀ key next,
      world.programs pid = some (.perform (.delete key) next) → choice.1 = .refused
  | _ => True

/-- What holds of a call while nothing has been deleted. -/
def UploadPoint.Undeleted {pipeline : UploadPipeline} (state : UploadState) :
    UploadPoint pipeline → Prop
  | scanning upload _ | consulting upload _ | storing upload _ =>
      (state.objects upload.quarantineKey).isSome
  | releasing upload _ => (state.objects upload.approvedKey).isSome
  | enqueueing _ _ => False
  | asking _ _ _ | reading _ | outside _ _ => True

/-- Nothing has been deleted, and so no job has been enqueued. -/
structure Unreleased (pipeline : UploadPipeline) (world : UploadWorld Pid) : Prop where
  points : ∀ pid program, world.programs pid = some program →
    ∃ point : UploadPoint pipeline, program = point.program ∧ point.Undeleted world.shared
  noJobs : world.shared.jobs = []
  retained : ∀ path, (world.shared.objects ("approved" ++ path)).isSome →
    (world.shared.objects ("quarantine" ++ path)).isSome

variable {pipeline : UploadPipeline} {world : UploadWorld Pid}

theorem Unreleased.recoverableAtOnce (unreleased : Unreleased pipeline world) :
    RecoverableAtOnce pipeline world where
  retained := by
    intro d uploadId approvedKey quarantineKey isApprovedKey isQuarantineKey isApproved _
    obtain ⟨path, isPath, rfl⟩ := path_of_uploadKey isApprovedKey
    obtain ⟨samePath, isSame, rfl⟩ := path_of_uploadKey isQuarantineKey
    cases isPath.symm.trans isSame
    exact unreleased.retained path isApproved
  hashed := by
    rw [unreleased.noJobs]
    exact fun _ isJob => nomatch isJob

theorem unreleased_start (pipeline : UploadPipeline) (calls : Pid → UploadCall) :
    Unreleased pipeline (uploadStart pipeline calls) where
  points := by
    apply points_uploadStart
    intro point isFirst
    cases point with
    | asking | outside => exact True.intro
    | reading | scanning | consulting | storing | releasing | enqueueing => cases isFirst
  noJobs := rfl
  retained := fun _ isApproved => nomatch isApproved

theorem UploadPoint.Undeleted.mono {before after : UploadState} {point : UploadPoint pipeline}
    (stays : ∀ key, (before.objects key).isSome → (after.objects key).isSome)
    (undeleted : point.Undeleted before) : point.Undeleted after := by
  cases point with
  | scanning | consulting | storing | releasing => exact stays _ undeleted
  | asking | reading | outside => exact True.intro
  | enqueueing => exact undeleted

section Statements

variable {pid : Pid} {choice : Delivery × UploadAnswers} {shared : UploadState}
  {op : UploadStatement} {next : Except String op.Reply → UploadProgram UploadResult}
  {reply : Except String op.Reply}

/-- A statement that deletes nothing takes no object away. -/
theorem objects_stay_of_refused
    (answered : (uploadServer Pid).outcome pid choice op world.shared = some (reply, shared))
    (refused : ∀ key, op = .delete key → choice.1 = .refused) (key : String)
    (isSome : (world.shared.objects key).isSome) : (shared.objects key).isSome := by
  by_cases isDelete : op = .delete key
  · have isRefused := refused key isDelete
    subst isDelete
    rcases delete_outcome answered with ⟨-, rfl, -⟩ | ⟨isAnswered, -⟩ | ⟨isLost, -⟩
    · exact isSome
    · cases isRefused.symm.trans isAnswered
    · cases isRefused.symm.trans isLost
  · exact (change_of_outcome answered).1.objects_stay isDelete isSome

theorem UploadPoint.Leads.undeleted {point following : UploadPoint pipeline}
    (leads : point.Leads op reply following)
    (answered : (uploadServer Pid).outcome pid choice op world.shared = some (reply, shared))
    (refused : ∀ key, op = .delete key → choice.1 = .refused)
    (undeleted : point.Undeleted world.shared) : following.Undeleted shared := by
  have stays := objects_stay_of_refused answered refused
  cases leads with
  | granted | leaves => exact True.intro
  | read passed => exact isSome_of_get ((change_of_outcome answered).2 _ rfl)
  | @consults upload | @passes upload | @accepted upload => exact stays _ undeleted
  | stored => exact isSome_of_put ((change_of_outcome answered).2 () rfl)
  | @released upload =>
      rcases delete_outcome answered with ⟨-, -, noAnswer⟩ | ⟨isAnswered, -⟩ | ⟨-, -, noAnswer⟩
      · cases noAnswer
      · cases (refused _ rfl).symm.trans isAnswered
      · cases noAnswer

theorem Unreleased.noJobs_statement (unreleased : Unreleased pipeline world)
    (running : world.programs pid = some (.perform op next))
    (change : UploadChange world.shared op shared) : shared.jobs = [] := by
  apply List.eq_nil_iff_forall_not_mem.mpr
  intro job isJob
  rcases change.jobs_cases isJob with wasJob | rfl
  · rw [unreleased.noJobs] at wasJob
    cases wasJob
  · obtain ⟨point, isProgram, undeleted⟩ := unreleased.points pid _ running
    obtain ⟨isAt, -⟩ := point.continues isProgram
    obtain ⟨upload, bytes, rfl, -⟩ := isAt.enqueue_cases
    exact undeleted

/-- A statement that deletes nothing keeps the invariant. -/
theorem Unreleased.statement [DecidableEq Pid] (unreleased : Unreleased pipeline world)
    (running : world.programs pid = some (.perform op next))
    (answered : (uploadServer Pid).outcome pid choice op world.shared = some (reply, shared))
    (refused : ∀ key, op = .delete key → choice.1 = .refused) :
    Unreleased pipeline (moved world pid shared (some (next reply))) := by
  obtain ⟨point, isProgram, undeleted⟩ := unreleased.points pid _ running
  obtain ⟨isAt, leads⟩ := point.continues isProgram
  obtain ⟨following, isNext, led⟩ := leads reply
  have change := (change_of_outcome answered).1
  have stays := objects_stay_of_refused answered refused
  refine ⟨?_, unreleased.noJobs_statement running change, ?_⟩
  · intro other program found
    rcases update_cases found with ⟨rfl, isRest⟩ | ⟨different, before⟩
    · cases isRest
      exact ⟨following, isNext, led.undeleted answered refused undeleted⟩
    · obtain ⟨otherPoint, isOther, otherUndeleted⟩ := unreleased.points other program before
      exact ⟨otherPoint, isOther, otherUndeleted.mono stays⟩
  · intro path isApproved
    rcases change.approved_cases isAt path with same | ⟨bytes, metadata, rfl, -⟩
    · exact stays _ (unreleased.retained path (same ▸ isApproved))
    · obtain ⟨upload, rfl, isKey⟩ := isAt.put_cases
      rw [areaKey_injective isKey]
      exact stays _ undeleted

end Statements

section Steps

variable [DecidableEq Pid] {event : Event Pid (Delivery × UploadAnswers)}

theorem Unreleased.step (unreleased : Unreleased pipeline world)
    (deletesNothing : DeletesNothing world event) :
    Unreleased pipeline (world.step (uploadServer Pid) event) := by
  cases event with
  | disconnect pid => exact unreleased
  | crash pid =>
      exact
        { unreleased with
          points := fun other program found =>
            unreleased.points other program (of_update_none found) }
  | statement pid choice =>
      apply World.statement_preserves unreleased
      intro op next reply shared running answered
      refine unreleased.statement running answered ?_
      rintro key rfl
      exact deletesNothing key next running

/-- A delete that takes effect leaves an approved object without anything. -/
theorem Unreleased.not_deleted (unreleased : Unreleased pipeline world)
    {upload : InspectedUpload pipeline} {pid : Pid}
    {rest : Option (UploadProgram UploadResult)}
    (isApproved : (world.shared.objects upload.approvedKey).isSome) :
    ¬ RecoverableAtOnce pipeline
      (moved world pid (setObject upload.quarantineKey none world.shared) rest) := by
  intro recoverable
  have sameObject : (setObject upload.quarantineKey none world.shared).objects
      upload.approvedKey = world.shared.objects upload.approvedKey :=
    setObject_of_ne (approved_ne_quarantine upload.path upload.path) none world.shared
  have noJob : ¬ HasJob (setObject upload.quarantineKey none world.shared)
      upload.approvedKey := by
    rintro ⟨job, isJob, -⟩
    have wasJob : job ∈ world.shared.jobs := isJob
    rw [unreleased.noJobs] at wasJob
    cases wasJob
  have quarantined : ((setObject upload.quarantineKey none world.shared).objects
      upload.quarantineKey).isSome :=
    recoverable.retained upload.d upload.uploadId _ _ (upload.uploadKey_eq_ok "approved")
      (upload.uploadKey_eq_ok "quarantine") (sameObject.symm ▸ isApproved) noJob
  rw [setObject_self] at quarantined
  cases quarantined

theorem Unreleased.necessary (unreleased : Unreleased pipeline world)
    (recoverable : RecoverableAtOnce pipeline (world.step (uploadServer Pid) event)) :
    DeletesNothing world event := by
  cases event with
  | disconnect pid | crash pid => exact True.intro
  | statement pid choice =>
      intro key next running
      obtain ⟨point, isProgram, isApproved⟩ := unreleased.points pid _ running
      obtain ⟨isAt, -⟩ := point.continues isProgram
      obtain ⟨upload, bytes, rfl, rfl⟩ := isAt.delete_cases
      obtain ⟨reply, after, answered⟩ :=
        uploadServer_answers pid choice (.delete upload.quarantineKey) world.shared
      rw [World.step_statement running answered] at recoverable
      rcases delete_outcome answered with ⟨isRefused, -⟩ | ⟨-, rfl, -⟩ | ⟨-, rfl, -⟩
      · exact isRefused
      · exact absurd recoverable (unreleased.not_deleted isApproved)
      · exact absurd recoverable (unreleased.not_deleted isApproved)

/-- Both conditions are exact: with the states in which a call is about to
enqueue its job, and without them. -/
theorem approvals_recoverable_iff (pipeline : UploadPipeline) (calls : Pid → UploadCall)
    (events : List (Event Pid (Delivery × UploadAnswers))) :
    ((∀ prior, prior <+: events →
          RecoverableAtOnce pipeline
            (run (World.step (uploadServer Pid)) (uploadStart pipeline calls) prior)) ↔
        EveryStep (World.step (uploadServer Pid)) DeletesNothing
          (uploadStart pipeline calls) events) ∧
      ((∀ prior, prior <+: events →
          Recoverable pipeline
            (run (World.step (uploadServer Pid)) (uploadStart pipeline calls) prior)) ↔
        EveryStep (World.step (uploadServer Pid)) (KeepsRecoverable pipeline)
          (uploadStart pipeline calls) events) := by
  constructor
  · exact everyState_iff_everyStep (fun _ _ unreleased nothing => unreleased.step nothing)
      (fun _ unreleased => unreleased.recoverableAtOnce)
      (fun _ _ unreleased recoverable => unreleased.necessary recoverable) events
      (unreleased_start pipeline calls)
  · exact recoverable_iff pipeline calls events

end Steps

end Worlds

/-! ## A refused enqueue -/

private def pdf : Bytes :=
  [0x25, 0x50, 0x44, 0x46]

private def invoice : DocumentUpload where
  mimeType := "application/pdf"
  archiveUncompressedBytes := none
  tenantId := "acme"
  workspaceId := none
  filename := "invoice.pdf"
  sizeBytes := 4

private def pdfPipeline : UploadPipeline where
  policy :=
    { maxBytes := 1024
      maxArchiveExpansionRatio := 20
      maxArchiveEntries := none
      maxArchiveUncompressedBytes := none
      allowedExtensions := [".pdf"]
      allowedMimeTypes := ["application/pdf"] }
  presigns := true
  hasContentPolicy := false
  toLowerCase name := name
  sha256 _ := "315d429b7714cedb6ad04ac31240145257692630457f3c88253c5beceac76027"

private def answers : UploadAnswers where
  authorized := true
  uploadUrl := ""
  verdict := ⟨true, none⟩
  contentAccepted := .ok ()
  remembers := true

/-- The client, an inspection and another one. -/
private def invoiceCalls (pid : Fin 3) : UploadCall :=
  match pid with
  | 0 => .clientWrite "quarantine/tenants/acme/r1" pdf []
  | _ => .inspectAndApprove invoice "r1"

private def answeredBy (pid : Fin 3) : Event (Fin 3) (Delivery × UploadAnswers) :=
  .statement pid (.answered, answers)

/-- Only the enqueue of the first inspection is refused. -/
private def invoiceEvents : List (Event (Fin 3) (Delivery × UploadAnswers)) :=
  [answeredBy 0, answeredBy 1, answeredBy 1, answeredBy 1, answeredBy 1, answeredBy 1,
    .statement 1 (.refused, answers), answeredBy 2, answeredBy 2]

private def invoiceWorld : UploadWorld (Fin 3) :=
  run (World.step (uploadServer (Fin 3))) (uploadStart pdfPipeline invoiceCalls) invoiceEvents

/-- The approved object has no job and no quarantine object, and the second
inspection finds nothing to read. -/
theorem refusedEnqueue_notRecoverable :
    ¬ Recoverable pdfPipeline invoiceWorld ∧
      ¬ RecoverableAtOnce pdfPipeline invoiceWorld ∧
      invoiceWorld.programs 2 = some (.fail "OBJECT_NOT_FOUND") := by
  have isApproved : (invoiceWorld.shared.objects "approved/tenants/acme/r1").isSome := by
    decide
  have isGone : invoiceWorld.shared.objects "quarantine/tenants/acme/r1" = none := by
    rfl
  have noJobs : invoiceWorld.shared.jobs = [] := by
    rfl
  have noJob : ¬ HasJob invoiceWorld.shared "approved/tenants/acme/r1" := by
    rintro ⟨job, isJob, -⟩
    rw [noJobs] at isJob
    cases isJob
  have noneAbout : ∀ pid, ¬ AboutToEnqueue invoiceWorld pid "approved/tenants/acme/r1" := by
    rintro pid ⟨job, next, running, -⟩
    match pid, running with
    | 0, running | 1, running | 2, running => cases running
  have isApprovedKey : uploadKey "approved" invoice "r1" = .ok "approved/tenants/acme/r1" := by
    decide
  have isQuarantineKey :
      uploadKey "quarantine" invoice "r1" = .ok "quarantine/tenants/acme/r1" := by
    decide
  have notRecoverable : ¬ Recoverable pdfPipeline invoiceWorld := by
    intro recoverable
    have quarantined := recoverable.retained invoice "r1" _ _ isApprovedKey isQuarantineKey
      isApproved noJob noneAbout
    rw [isGone] at quarantined
    cases quarantined
  exact ⟨notRecoverable, fun atOnce => notRecoverable atOnce.recoverable, rfl⟩

end PlatformArchitecture.Documents
