import PlatformArchitecture.Documents.UploadCalls

/-!
# What is stored under approved keys

Only `inspectAndApprove` writes below `approved/`, and it stores the bytes that
it has read, checked and scanned.  The invariant says what each point of a call
has already established; grants and scan verdicts are never taken back, so the
other calls and the clients do not disturb it.
-/

namespace PlatformArchitecture.Documents

open PlatformArchitecture.Foundations

/-- The key is in the area of approved uploads. -/
def IsApprovedKey (key : String) : Prop :=
  "approved/".toList <+: key.toList

theorem not_isQuarantineKey {key : String} (isApproved : IsApprovedKey key) :
    ¬ IsQuarantineKey key := by
  obtain ⟨rest, approvedChars⟩ := isApproved
  rintro ⟨others, quarantineChars⟩
  have sameHead : 'q' = 'a' := (List.cons.inj (quarantineChars.trans approvedChars.symm)).1
  revert sameHead
  decide

/-- What bytes under an approved key have gone through. -/
structure Inspected (pipeline : UploadPipeline) (state : UploadState) (d : DocumentUpload)
    (bytes : Bytes) : Prop where
  authorized : (d.tenantId, d.workspaceId) ∈ state.granted
  declaredSize : (bytes.length : ℚ) = d.sizeBytes
  bounded : d.sizeBytes ≤ pipeline.policy.maxBytes
  matchesType : matchesMagic bytes d.mimeType = .ok true
  withinLimits : d.mimeType ∈ archiveMimeTypes → ∃ archive,
    inspectZipArchive bytes = .ok archive ∧ ¬ pipeline.policy.rejects archive
  clean : bytes ∈ state.reportedClean

/-- Every object under an approved key has been inspected for that key. -/
def ApprovedInspected (pipeline : UploadPipeline) (state : UploadState) : Prop :=
  ∀ key object, IsApprovedKey key → state.objects key = some object →
    ∃ d uploadId, uploadKey "approved" d uploadId = .ok key ∧
      Inspected pipeline state d object.bytes

/-- Keys tell tenants, workspaces and uploads apart. -/
def KeysDistinct : Prop :=
  ∀ area d uploadId other otherId key,
    uploadKey area d uploadId = .ok key → uploadKey area other otherId = .ok key →
      (d.tenantId, d.workspace, uploadId) = (other.tenantId, other.workspace, otherId)

/-! ## Checks -/

section Checks

variable {pipeline : UploadPipeline} {d : DocumentUpload} {bytes : Bytes}

theorem bounded_of_validated (validated : pipeline.validateDescriptor d = .ok ()) :
    d.sizeBytes ≤ pipeline.policy.maxBytes := by
  obtain ⟨_, -, afterTenant⟩ := bind_eq_ok.mp validated
  obtain ⟨_, -, afterWorkspace⟩ := bind_eq_ok.mp afterTenant
  obtain ⟨_, sizeChecked, -⟩ := bind_eq_ok.mp afterWorkspace
  have notRejected := throwIf_eq_ok.mp sizeChecked
  exact not_lt.mp fun exceeds => notRejected (Or.inr exceeds)

theorem withinLimits_of_checkArchive {policy : UploadPolicy} {descriptor : UploadDescriptor}
    (checked : checkArchive policy descriptor bytes = .ok ())
    (isArchive : descriptor.mimeType ∈ archiveMimeTypes) :
    ∃ archive, inspectZipArchive bytes = .ok archive ∧ ¬ policy.rejects archive := by
  unfold checkArchive at checked
  rw [if_pos isArchive] at checked
  obtain ⟨archive, isInspected, afterInspection⟩ := bind_eq_ok.mp checked
  obtain ⟨_, accepted, -⟩ := bind_eq_ok.mp afterInspection
  exact ⟨archive, isInspected, throwIf_eq_ok.mp accepted⟩

/-- What the checks of a call say of the bytes it has read. -/
theorem inspected_of_checks {state : UploadState}
    (authorized : (d.tenantId, d.workspaceId) ∈ state.granted)
    (validated : pipeline.validateDescriptor d = .ok ())
    (checked : pipeline.checkBytes d bytes = .ok ())
    (clean : bytes ∈ state.reportedClean) : Inspected pipeline state d bytes := by
  obtain ⟨_, sizeChecked, afterSize⟩ := bind_eq_ok.mp checked
  obtain ⟨matched, isMatched, afterMagic⟩ := bind_eq_ok.mp afterSize
  obtain ⟨_, magicChecked, archiveChecked⟩ := bind_eq_ok.mp afterMagic
  have isTrue : matched = true := by
    have notRejected := throwIf_eq_ok.mp magicChecked
    simpa using notRejected
  exact
    { authorized
      declaredSize := not_not.mp (throwIf_eq_ok.mp sizeChecked)
      bounded := bounded_of_validated validated
      matchesType := isTrue ▸ isMatched
      withinLimits := withinLimits_of_checkArchive archiveChecked
      clean }

end Checks

/-! ## The invariant -/

/-- Grants and verdicts stay. -/
structure Remembers (before after : UploadState) : Prop where
  granted : before.granted ⊆ after.granted
  reportedClean : before.reportedClean ⊆ after.reportedClean

theorem UploadChange.remembers {op : UploadStatement} {before after : UploadState}
    (change : UploadChange before op after) : Remembers before after := by
  cases change with
  | unchanged | stored | deleted | enqueued | written =>
      exact ⟨List.Subset.refl _, List.Subset.refl _⟩
  | granted => exact ⟨List.subset_cons_self _ _, List.Subset.refl _⟩
  | reported => exact ⟨List.Subset.refl _, List.subset_cons_self _ _⟩

theorem granted_of_executed {answers : UploadAnswers} {before after : UploadState}
    {tenantId : String} {workspaceId : Option String}
    (executed : executeUpload answers (.authorize tenantId workspaceId) before =
      .ok (true, after)) : (tenantId, workspaceId) ∈ after.granted := by
  obtain ⟨isAuthorized, rfl⟩ := Prod.mk.inj (Except.ok.inj executed)
  rw [if_pos isAuthorized]
  exact List.mem_cons_self

theorem reported_of_executed {answers : UploadAnswers} {before after : UploadState}
    {bytes : Bytes} {verdict : ScanVerdict} (isClean : verdict.clean = true)
    (executed : executeUpload answers (.scan bytes) before = .ok (verdict, after)) :
    bytes ∈ after.reportedClean := by
  obtain ⟨rfl, rfl⟩ := Prod.mk.inj (Except.ok.inj executed)
  rw [if_pos isClean]
  exact List.mem_cons_self

theorem Inspected.mono {pipeline : UploadPipeline} {before after : UploadState}
    {d : DocumentUpload} {bytes : Bytes} (remembers : Remembers before after)
    (inspected : Inspected pipeline before d bytes) : Inspected pipeline after d bytes :=
  { inspected with
    authorized := remembers.granted inspected.authorized
    clean := remembers.reportedClean inspected.clean }

namespace UploadPoint

variable {pipeline : UploadPipeline}

/-- What a call has established by the time it reaches a point. -/
def Established (state : UploadState) : UploadPoint pipeline → Prop
  | reading upload => (upload.d.tenantId, upload.d.workspaceId) ∈ state.granted
  | scanning upload bytes =>
      (upload.d.tenantId, upload.d.workspaceId) ∈ state.granted ∧
        pipeline.checkBytes upload.d bytes = .ok ()
  | consulting upload bytes | storing upload bytes => Inspected pipeline state upload.d bytes
  | asking _ _ _ | releasing _ _ | enqueueing _ _ | outside _ _ => True

theorem Established.mono {before after : UploadState} {point : UploadPoint pipeline}
    (remembers : Remembers before after) (established : point.Established before) :
    point.Established after := by
  cases point with
  | reading upload => exact remembers.granted established
  | scanning upload bytes => exact ⟨remembers.granted established.1, established.2⟩
  | consulting upload bytes | storing upload bytes => exact Inspected.mono remembers established
  | asking | releasing | enqueueing | outside => exact True.intro

theorem IsFirst.established {point : UploadPoint pipeline} (isFirst : point.IsFirst)
    (state : UploadState) : point.Established state := by
  cases point with
  | asking | outside => exact True.intro
  | reading | scanning | consulting | storing | releasing | enqueueing => cases isFirst

/-- An answered statement establishes the next point. -/
theorem Leads.established {point following : UploadPoint pipeline} {op : UploadStatement}
    {answers : UploadAnswers} {before after : UploadState} {reply : Except String op.Reply}
    (leads : point.Leads op reply following) (remembers : Remembers before after)
    (executed : ∀ value, reply = .ok value →
      executeUpload answers op before = .ok (value, after))
    (established : point.Established before) : following.Established after := by
  cases leads with
  | granted upload => exact granted_of_executed (executed true rfl)
  | read passed => exact ⟨remembers.granted established, passed⟩
  | @consults upload bytes verdict isClean | @passes upload bytes verdict isClean =>
      obtain ⟨isGranted, checked⟩ := established
      exact inspected_of_checks (remembers.granted isGranted) upload.validated checked
        (reported_of_executed isClean (executed verdict rfl))
  | accepted => exact Inspected.mono remembers established
  | stored | released | leaves => exact True.intro

end UploadPoint

/-- A statement of a call keeps what is stored under approved keys inspected. -/
theorem ApprovedInspected.change {pipeline : UploadPipeline} {before after : UploadState}
    {point : UploadPoint pipeline} {op : UploadStatement} (isAt : point.At op)
    (established : point.Established before) (change : UploadChange before op after)
    (inspected : ApprovedInspected pipeline before) : ApprovedInspected pipeline after := by
  intro key object isApproved isStored
  have remembers := change.remembers
  have earlier (wasStored : before.objects key = some object) :
      ∃ d uploadId, uploadKey "approved" d uploadId = .ok key ∧
        Inspected pipeline after d object.bytes := by
    obtain ⟨d, uploadId, isKey, wasInspected⟩ := inspected key object isApproved wasStored
    exact ⟨d, uploadId, isKey, wasInspected.mono remembers⟩
  cases change with
  | unchanged | granted | reported | enqueued => exact earlier isStored
  | deleted =>
      rcases update_cases isStored with ⟨-, isNone⟩ | ⟨-, wasStored⟩
      · cases isNone
      · exact earlier wasStored
  | written isQuarantine =>
      rcases update_cases isStored with ⟨rfl, -⟩ | ⟨-, wasStored⟩
      · exact absurd isQuarantine (not_isQuarantineKey isApproved)
      · exact earlier wasStored
  | stored =>
      rcases update_cases isStored with ⟨rfl, isObject⟩ | ⟨-, wasStored⟩
      · cases isObject
        obtain ⟨upload, rfl, rfl⟩ := isAt.put_cases
        exact ⟨upload.d, upload.uploadId, upload.uploadKey_eq_ok "approved",
          Inspected.mono remembers established⟩
      · exact earlier wasStored

/-! ## Runs -/

section Runs

variable {Pid : Type}

/-- What holds of a call in every state that is reached. -/
def HasEstablished (pipeline : UploadPipeline) (_pid : Pid) (state : UploadState)
    (program : UploadProgram UploadResult) : Prop :=
  ∃ point : UploadPoint pipeline, program = point.program ∧ point.Established state

theorem inspected_start (pipeline : UploadPipeline) (calls : Pid → UploadCall) :
    (uploadStart pipeline calls).Consistent (ApprovedInspected pipeline)
      (HasEstablished pipeline) where
  shared := fun _ _ _ isStored => nomatch isStored
  points := points_uploadStart fun _ isFirst => isFirst.established _

variable [DecidableEq Pid]

theorem inspected_step (pipeline : UploadPipeline) (world : UploadWorld Pid)
    (event : Event Pid (Delivery × UploadAnswers))
    (consistent : world.Consistent (ApprovedInspected pipeline) (HasEstablished pipeline)) :
    (world.step (uploadServer Pid) event).Consistent (ApprovedInspected pipeline)
      (HasEstablished pipeline) := by
  refine @World.Consistent.step _ _ _ _ _ _ _ _ _ _ _ (fun _ _ => True) ?_ ?_ world event
    consistent True.intro
  · intro world pid choice op next reply shared consistent current _ answered
    obtain ⟨change, executed⟩ := change_of_outcome answered
    have remembers := change.remembers
    obtain ⟨point, isProgram, established⟩ := consistent.points pid _ current
    obtain ⟨isAt, leads⟩ := point.continues isProgram
    obtain ⟨following, isNext, led⟩ := leads reply
    refine ⟨consistent.shared.change isAt established change,
      ⟨following, isNext, led.established remembers executed established⟩, ?_⟩
    rintro other program - ⟨otherPoint, isOther, otherEstablished⟩
    exact ⟨otherPoint, isOther, otherEstablished.mono remembers⟩
  · intro pid state holds
    exact ⟨holds, fun _ _ kept => kept⟩

/-- In every interleaving of calls and client writes, whatever becomes of their
statements. -/
theorem approvedUploads_inspected (pipeline : UploadPipeline) (calls : Pid → UploadCall)
    (events : List (Event Pid (Delivery × UploadAnswers))) :
    ApprovedInspected pipeline
        (run (World.step (uploadServer Pid)) (uploadStart pipeline calls) events).shared ∧
      KeysDistinct := by
  constructor
  · have consistent := run_invariant_of_step (inspected_step pipeline) events
      (inspected_start pipeline calls)
    exact consistent.shared
  · intro area d uploadId other otherId key isKey isOther
    obtain ⟨sameTenant, sameWorkspace, sameUpload⟩ := uploadKey_injective isKey isOther
    rw [sameTenant, sameWorkspace, sameUpload]

end Runs

/-- A pdf of one tenant, in a workspace or in none. -/
def report (workspaceId : Option String) : DocumentUpload where
  mimeType := "application/pdf"
  archiveUncompressedBytes := none
  tenantId := "acme"
  workspaceId
  filename := "report.pdf"
  sizeBytes := 4

/-- An empty workspace id has the keys of no workspace. -/
theorem emptyWorkspace_sharesKeys :
    (report none).workspaceId ≠ (report (some "")).workspaceId ∧
      uploadKey "approved" (report none) "r1" = .ok "approved/tenants/acme/r1" ∧
      uploadKey "approved" (report (some "")) "r1" = .ok "approved/tenants/acme/r1" := by
  decide

end PlatformArchitecture.Documents
