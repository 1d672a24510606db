import PlatformArchitecture.Documents.UploadCalls

/-!
# Uploads that are left half finished

`inspectAndApprove` stores the approved object, deletes the quarantine object
and enqueues the job, in this order and each with a statement of its own.  A
call that fails in between can be made again as long as the quarantine object is
there.  A path is covered while it is there, or a job is or will be.
-/

namespace PlatformArchitecture.Documents

open PlatformArchitecture.Foundations

section Worlds

variable {Pid : Type}

/-! ## Recovery -/

/-- The next statement of a call enqueues the job of an approved key. -/
def AboutToEnqueue (world : UploadWorld Pid) (pid : Pid) (approvedKey : String) : Prop :=
  ∃ job next, world.programs pid = some (.perform (.enqueue job) next) ∧
    job.approvedKey = approvedKey

def HasJob (state : UploadState) (approvedKey : String) : Prop :=
  ∃ job ∈ state.jobs, job.approvedKey = approvedKey

/-- An approved object without a job, which no call is about to enqueue, still
has its quarantine object, and a job has the hash of what is stored under its
approved key. -/
structure Recoverable (pipeline : UploadPipeline) (world : UploadWorld Pid) : Prop where
  retained : ∀ d uploadId approvedKey quarantineKey,
    uploadKey "approved" d uploadId = .ok approvedKey →
    uploadKey "quarantine" d uploadId = .ok quarantineKey →
    (world.shared.objects approvedKey).isSome →
    ¬ HasJob world.shared approvedKey →
    (∀ pid, ¬ AboutToEnqueue world pid approvedKey) →
      (world.shared.objects quarantineKey).isSome
  hashed : ∀ job ∈ world.shared.jobs, ∃ object,
    world.shared.objects job.approvedKey = some object ∧
      job.sha256 = pipeline.sha256 object.bytes

/-! ## The condition -/

/-- The approved key has a job, or another call is about to enqueue one. -/
def JobElsewhere (world : UploadWorld Pid) (pid : Pid) (approvedKey : String) : Prop :=
  HasJob world.shared approvedKey ∨
    ∃ other, other ≠ pid ∧ AboutToEnqueue world other approvedKey

/-- A call can go without enqueueing its job. -/
def CanBeSpared (world : UploadWorld Pid) (pid : Pid) (path : String) : Prop :=
  (world.shared.objects ("quarantine" ++ path)).isSome ∨
    JobElsewhere world pid ("approved" ++ path)

/-- The queue drops a job whose idempotency key it still knows. -/
def Suppresses (answers : UploadAnswers) (state : UploadState) (job : DocumentJob) : Prop :=
  answers.remembers ∧ ∃ earlier ∈ state.jobs, earlier.idempotencyKey = job.idempotencyKey

/-- A put that takes effect does not change what an enqueued job is about, a
delete whose answer is lost is of an upload with another job, and a job that is
not added can be spared, while one that is added has the hash of what is stored. -/
def StatementKeeps (pipeline : UploadPipeline) (delivery : Delivery) (answers : UploadAnswers)
    (world : UploadWorld Pid) (pid : Pid) : UploadStatement → Prop
  | .put key bytes _ =>
      delivery ≠ .refused → ∀ job ∈ world.shared.jobs, job.approvedKey = key →
        job.sha256 = pipeline.sha256 bytes
  | .delete key =>
      delivery = .unacknowledged → ∀ path, key = "quarantine" ++ path →
        JobElsewhere world pid ("approved" ++ path)
  | .enqueue job =>
      (delivery = .refused ∨ Suppresses answers world.shared job →
        ∀ path, job.approvedKey = "approved" ++ path → CanBeSpared world pid path) ∧
      (delivery ≠ .refused → ¬ Suppresses answers world.shared job → ∃ object,
        world.shared.objects job.approvedKey = some object ∧
          job.sha256 = pipeline.sha256 object.bytes)
  | _ => True

/-- No call crashes while its job cannot be spared, and statements keep the rest. -/
def KeepsRecoverable (pipeline : UploadPipeline) (world : UploadWorld Pid) :
    Event Pid (Delivery × UploadAnswers) → Prop
  | .statement pid choice => ∀ op next, world.programs pid = some (.perform op next) →
      StatementKeeps pipeline choice.1 choice.2 world pid op
  | .crash pid => ∀ path, AboutToEnqueue world pid ("approved" ++ path) →
      CanBeSpared world pid path
  | .disconnect _ => True

/-! ## The invariant -/

/-- The quarantine object is there, or a job is or will be. -/
def Covered (world : UploadWorld Pid) (path : String) : Prop :=
  (world.shared.objects ("quarantine" ++ path)).isSome ∨
    HasJob world.shared ("approved" ++ path) ∨
    ∃ pid, AboutToEnqueue world pid ("approved" ++ path)

/-- What holds of a call at a point: what it has read can still be read or is
taken care of, until it has stored it. -/
def UploadPoint.Backed {pipeline : UploadPipeline} (world : UploadWorld Pid) :
    UploadPoint pipeline → Prop
  | scanning upload _ | consulting upload _ | storing upload _ => Covered world upload.path
  | releasing upload _ | enqueueing upload _ =>
      (world.shared.objects upload.approvedKey).isSome
  | asking _ _ _ | reading _ | outside _ _ => True

structure Tracked (pipeline : UploadPipeline) (world : UploadWorld Pid) : Prop where
  points : ∀ pid program, world.programs pid = some program →
    ∃ point : UploadPoint pipeline, program = point.program ∧ point.Backed world
  ours : ∀ job ∈ world.shared.jobs, ∃ path, job.approvedKey = "approved" ++ path
  recoverable : Recoverable pipeline world

variable {pipeline : UploadPipeline} {world : UploadWorld Pid}

theorem Recoverable.covered (recoverable : Recoverable pipeline world) {d : DocumentUpload}
    {uploadId path : String} (isPath : uploadPath d uploadId = .ok path)
    (isApproved : (world.shared.objects ("approved" ++ path)).isSome) : Covered world path := by
  by_cases hasJob : HasJob world.shared ("approved" ++ path)
  · exact Or.inr (Or.inl hasJob)
  · by_cases isAbout : ∃ pid, AboutToEnqueue world pid ("approved" ++ path)
    · exact Or.inr (Or.inr isAbout)
    · have isKey (area : String) : uploadKey area d uploadId = .ok (area ++ path) := by
        rw [uploadKey_eq, isPath]
        rfl
      exact Or.inl (recoverable.retained d uploadId _ _ (isKey "approved") (isKey "quarantine")
        isApproved hasJob (not_exists.mp isAbout))

theorem retained_of_covered
    (covered : ∀ d uploadId path, uploadPath d uploadId = .ok path →
      (world.shared.objects ("approved" ++ path)).isSome → Covered world path) :
    ∀ d uploadId approvedKey quarantineKey,
      uploadKey "approved" d uploadId = .ok approvedKey →
      uploadKey "quarantine" d uploadId = .ok quarantineKey →
      (world.shared.objects approvedKey).isSome →
      ¬ HasJob world.shared approvedKey →
      (∀ pid, ¬ AboutToEnqueue world pid approvedKey) →
        (world.shared.objects quarantineKey).isSome := by
  intro d uploadId approvedKey quarantineKey isApprovedKey isQuarantineKey isApproved noJob none
  obtain ⟨path, isPath, rfl⟩ := path_of_uploadKey isApprovedKey
  obtain ⟨samePath, isSame, rfl⟩ := path_of_uploadKey isQuarantineKey
  cases isPath.symm.trans isSame
  rcases covered d uploadId path isPath isApproved with quarantined | hasJob | ⟨pid, isAbout⟩
  · exact quarantined
  · exact absurd hasJob noJob
  · exact absurd isAbout (none pid)

/-- A call that is about to enqueue stands at its last point. -/
theorem Tracked.enqueueing (tracked : Tracked pipeline world) {pid : Pid} {job : DocumentJob}
    {next : Except String Unit → UploadProgram UploadResult}
    (running : world.programs pid = some (.perform (.enqueue job) next)) :
    ∃ (upload : InspectedUpload pipeline) (bytes : Bytes),
      .perform (.enqueue job) next = (UploadPoint.enqueueing upload bytes).program ∧
        (world.shared.objects upload.approvedKey).isSome := by
  obtain ⟨point, isProgram, backed⟩ := tracked.points pid _ running
  obtain ⟨isAt, -⟩ := point.continues isProgram
  obtain ⟨upload, bytes, rfl, -⟩ := isAt.enqueue_cases
  exact ⟨upload, bytes, isProgram, backed⟩

theorem Tracked.releasing (tracked : Tracked pipeline world) {pid : Pid} {key : String}
    {next : Except String Unit → UploadProgram UploadResult}
    (running : world.programs pid = some (.perform (.delete key) next)) :
    ∃ (upload : InspectedUpload pipeline) (bytes : Bytes),
      .perform (.delete key) next = (UploadPoint.releasing upload bytes).program ∧
        (world.shared.objects upload.approvedKey).isSome := by
  obtain ⟨point, isProgram, backed⟩ := tracked.points pid _ running
  obtain ⟨isAt, -⟩ := point.continues isProgram
  obtain ⟨upload, bytes, rfl, -⟩ := isAt.delete_cases
  exact ⟨upload, bytes, isProgram, backed⟩

theorem Tracked.storing (tracked : Tracked pipeline world) {pid : Pid} {key : String}
    {stored : Bytes} {metadata : ObjectMetadata}
    {next : Except String Unit → UploadProgram UploadResult}
    (running : world.programs pid = some (.perform (.put key stored metadata) next)) :
    ∃ (upload : InspectedUpload pipeline), key = upload.approvedKey ∧
      Covered world upload.path := by
  obtain ⟨point, isProgram, backed⟩ := tracked.points pid _ running
  obtain ⟨isAt, -⟩ := point.continues isProgram
  obtain ⟨upload, rfl, isKey⟩ := isAt.put_cases
  exact ⟨upload, isKey, backed⟩

/-! ## One call moves on -/

/-- A call has moved on, or has crashed. -/
abbrev moved [DecidableEq Pid] (world : UploadWorld Pid) (pid : Pid) (shared : UploadState)
    (rest : Option (UploadProgram UploadResult)) : UploadWorld Pid :=
  { shared, programs := Function.update world.programs pid rest }

section Moves

variable [DecidableEq Pid] {pid other : Pid} {shared : UploadState} {path key : String}
  {rest : Option (UploadProgram UploadResult)}

theorem AboutToEnqueue.stays (different : other ≠ pid)
    (isAbout : AboutToEnqueue world other key) :
    AboutToEnqueue (moved world pid shared rest) other key := by
  obtain ⟨job, next, running, isKey⟩ := isAbout
  exact ⟨job, next, (Function.update_of_ne different _ _).trans running, isKey⟩

theorem AboutToEnqueue.before (isAbout : AboutToEnqueue (moved world pid shared rest) other key)
    (notNow : ∀ job next, rest ≠ some (.perform (.enqueue job) next)) :
    other ≠ pid ∧ AboutToEnqueue world other key := by
  obtain ⟨job, next, running, isKey⟩ := isAbout
  rcases update_cases running with ⟨-, isRest⟩ | ⟨different, before⟩
  · exact absurd isRest (notNow job next)
  · exact ⟨different, job, next, before, isKey⟩

theorem HasJob.mono {before after : UploadState} (grows : before.jobs ⊆ after.jobs)
    (hasJob : HasJob before key) : HasJob after key := by
  obtain ⟨job, isJob, isKey⟩ := hasJob
  exact ⟨job, grows isJob, isKey⟩

theorem JobElsewhere.covered (elsewhere : JobElsewhere world pid ("approved" ++ path))
    (grows : world.shared.jobs ⊆ shared.jobs) :
    Covered (moved world pid shared rest) path := by
  rcases elsewhere with hasJob | ⟨other, different, isAbout⟩
  · exact Or.inr (Or.inl (hasJob.mono grows))
  · exact Or.inr (Or.inr ⟨other, isAbout.stays different⟩)

theorem CanBeSpared.covered (spared : CanBeSpared world pid path)
    (sameObjects : shared.objects = world.shared.objects)
    (grows : world.shared.jobs ⊆ shared.jobs) :
    Covered (moved world pid shared rest) path := by
  rcases spared with quarantined | elsewhere
  · exact Or.inl (sameObjects ▸ quarantined)
  · exact elsewhere.covered grows

/-- What covers a path is this call, or it stays. -/
theorem Covered.move (covered : Covered world path)
    (keeps : (world.shared.objects ("quarantine" ++ path)).isSome →
      Covered (moved world pid shared rest) path)
    (grows : world.shared.jobs ⊆ shared.jobs)
    (leaves : AboutToEnqueue world pid ("approved" ++ path) →
      Covered (moved world pid shared rest) path) :
    Covered (moved world pid shared rest) path := by
  rcases covered with quarantined | hasJob | ⟨other, isAbout⟩
  · exact keeps quarantined
  · exact Or.inr (Or.inl (hasJob.mono grows))
  · by_cases same : other = pid
    · subst same
      exact leaves isAbout
    · exact Or.inr (Or.inr ⟨other, isAbout.stays same⟩)

/-- A path that is only covered elsewhere, where the call enqueues nothing more. -/
theorem Covered.elsewhere (covered : Covered (moved world pid shared rest) path)
    (notNow : ∀ job next, rest ≠ some (.perform (.enqueue job) next))
    (sameJobs : shared.jobs = world.shared.jobs) :
    (shared.objects ("quarantine" ++ path)).isSome ∨
      JobElsewhere world pid ("approved" ++ path) := by
  rcases covered with quarantined | ⟨job, isJob, isKey⟩ | ⟨other, isAbout⟩
  · exact Or.inl quarantined
  · exact Or.inr (Or.inl ⟨job, sameJobs ▸ isJob, isKey⟩)
  · exact Or.inr (Or.inr ⟨other, isAbout.before notNow⟩)

end Moves

/-! ## Statements -/

theorem isSome_setObject {state : UploadState} {key other : String} (object : StoredObject)
    (isSome : (state.objects other).isSome) :
    ((setObject key (some object) state).objects other).isSome := by
  generalize found : (setObject key (some object) state).objects other = value
  rcases update_cases found with ⟨-, rfl⟩ | ⟨-, rfl⟩
  · rfl
  · exact isSome

section Statements

variable {op : UploadStatement} {before after : UploadState}

theorem UploadChange.jobs_subset (change : UploadChange before op after) :
    before.jobs ⊆ after.jobs := by
  cases change with
  | unchanged | granted | reported | stored | deleted | written => exact List.Subset.refl _
  | enqueued => exact List.subset_append_left _ _

/-- Only a delete takes an object away. -/
theorem UploadChange.objects_stay (change : UploadChange before op after) {key : String}
    (notDeleted : op ≠ .delete key) (isSome : (before.objects key).isSome) :
    (after.objects key).isSome := by
  cases change with
  | unchanged | granted | reported | enqueued => exact isSome
  | stored | written => exact isSome_setObject _ isSome
  | @deleted other =>
      have different : key ≠ other := fun same => notDeleted (same ▸ rfl)
      rw [setObject_of_ne different]
      exact isSome

theorem UploadChange.jobs_cases (change : UploadChange before op after) {job : DocumentJob}
    (isJob : job ∈ after.jobs) : job ∈ before.jobs ∨ op = .enqueue job := by
  cases change with
  | unchanged | granted | reported | stored | deleted | written => exact Or.inl isJob
  | enqueued =>
      rcases List.mem_append.mp isJob with wasJob | isNew
      · exact Or.inl wasJob
      · exact Or.inr (congrArg UploadStatement.enqueue (List.mem_singleton.mp isNew).symm)

/-- An approved object stays as it is unless a call stores another. -/
theorem UploadChange.approved_cases {point : UploadPoint pipeline} (isAt : point.At op)
    (change : UploadChange before op after) (path : String) :
    after.objects ("approved" ++ path) = before.objects ("approved" ++ path) ∨
      ∃ bytes metadata, op = .put ("approved" ++ path) bytes metadata ∧
        after.objects ("approved" ++ path) = some ⟨bytes, metadata⟩ := by
  cases change with
  | unchanged | granted | reported | enqueued => exact Or.inl rfl
  | @stored key bytes metadata =>
      by_cases same : "approved" ++ path = key
      · subst same
        exact Or.inr ⟨bytes, metadata, rfl, setObject_self _ _ _⟩
      · exact Or.inl (setObject_of_ne same _ _)
  | @deleted key =>
      have different : "approved" ++ path ≠ key :=
        fun same => isAt.not_delete path (same ▸ rfl)
      exact Or.inl (setObject_of_ne different _ _)
  | @written key bytes metadata isQuarantine =>
      have different : "approved" ++ path ≠ key := by
        intro same
        exact not_isQuarantineKey_approved path (same ▸ isQuarantine)
      exact Or.inl (setObject_of_ne different _ _)

end Statements

/-! ## Outcomes -/

section Outcomes

variable {pid : Pid} {choice : Delivery × UploadAnswers} {state after : UploadState}

theorem isSome_of_get {answers : UploadAnswers} {key : String} {bytes : Bytes}
    (executed : executeUpload answers (.get key) state = .ok (bytes, after)) :
    (after.objects key).isSome := by
  dsimp only [executeUpload] at executed
  split at executed
  · cases executed
  · next object isStored =>
    cases executed
    exact Option.isSome_of_eq_some isStored

theorem isSome_of_put {answers : UploadAnswers} {key : String} {bytes : Bytes}
    {metadata : ObjectMetadata}
    (executed : executeUpload answers (.put key bytes metadata) state = .ok ((), after)) :
    (after.objects key).isSome := by
  cases executed
  rw [setObject_self]
  rfl

theorem put_outcome {key : String} {bytes : Bytes} {metadata : ObjectMetadata}
    {reply : Except String Unit}
    (answered : (uploadServer Pid).outcome pid choice (.put key bytes metadata) state =
      some (reply, after)) :
    (choice.1 = .refused ∧ after = state) ∨
      (choice.1 ≠ .refused ∧ after = setObject key (some ⟨bytes, metadata⟩) state) := by
  obtain ⟨delivery, answers⟩ := choice
  cases delivery with
  | refused =>
      cases answered
      exact Or.inl ⟨rfl, rfl⟩
  | answered | unacknowledged =>
      cases answered
      exact Or.inr ⟨(fun isRefused => nomatch isRefused), rfl⟩

theorem delete_outcome {key : String} {reply : Except String Unit}
    (answered : (uploadServer Pid).outcome pid choice (.delete key) state =
      some (reply, after)) :
    (choice.1 = .refused ∧ after = state ∧ reply = .error "connection lost") ∨
      (choice.1 = .answered ∧ after = setObject key none state ∧ reply = .ok ()) ∨
      (choice.1 = .unacknowledged ∧ after = setObject key none state ∧
        reply = .error "connection lost") := by
  obtain ⟨delivery, answers⟩ := choice
  cases delivery with
  | refused =>
      cases answered
      exact Or.inl ⟨rfl, rfl, rfl⟩
  | answered =>
      cases answered
      exact Or.inr (Or.inl ⟨rfl, rfl, rfl⟩)
  | unacknowledged =>
      cases answered
      exact Or.inr (Or.inr ⟨rfl, rfl, rfl⟩)

theorem enqueue_outcome {job : DocumentJob} {reply : Except String Unit}
    (answered : (uploadServer Pid).outcome pid choice (.enqueue job) state =
      some (reply, after)) :
    ((choice.1 = .refused ∨ Suppresses choice.2 state job) ∧ after = state) ∨
      (choice.1 ≠ .refused ∧ ¬ Suppresses choice.2 state job ∧
        after = { state with jobs := state.jobs ++ [job] }) := by
  obtain ⟨delivery, answers⟩ := choice
  have attempted := congrArg Prod.snd (Option.some.inj answered)
  by_cases isRefused : delivery = .refused
  · subst isRefused
    exact Or.inl ⟨Or.inl rfl, attempted.symm⟩
  · by_cases suppresses : Suppresses answers state job
    · have executed : executeUpload answers (.enqueue job) state = .ok ((), state) :=
        if_pos suppresses
      exact Or.inl ⟨Or.inr suppresses,
        attempted.symm.trans (Database.attempt_executed executed isRefused)⟩
    · have executed : executeUpload answers (.enqueue job) state =
          .ok ((), { state with jobs := state.jobs ++ [job] }) := if_neg suppresses
      exact Or.inr ⟨isRefused, suppresses,
        attempted.symm.trans (Database.attempt_executed executed isRefused)⟩

theorem not_aboutToEnqueue {op : UploadStatement}
    {next : Except String op.Reply → UploadProgram UploadResult} {key : String}
    (running : world.programs pid = some (.perform op next))
    (notEnqueue : ∀ job, op ≠ .enqueue job) : ¬ AboutToEnqueue world pid key := by
  rintro ⟨job, others, isEnqueue, -⟩
  cases running.symm.trans isEnqueue
  exact notEnqueue job rfl

end Outcomes

/-! ## Points -/

section Points

variable {pid : Pid} {choice : Delivery × UploadAnswers} {shared : UploadState}

theorem UploadPoint.Backed.mono {before after : UploadWorld Pid} {point : UploadPoint pipeline}
    (covers : ∀ path, Covered before path → Covered after path)
    (stays : ∀ path, (before.shared.objects ("approved" ++ path)).isSome →
      (after.shared.objects ("approved" ++ path)).isSome)
    (backed : point.Backed before) : point.Backed after := by
  cases point with
  | scanning upload | consulting upload | storing upload => exact covers upload.path backed
  | releasing upload | enqueueing upload => exact stays upload.path backed
  | asking | reading | outside => exact True.intro

/-- An answered statement backs the next point. -/
theorem UploadPoint.Leads.backed {after : UploadWorld Pid} {point following : UploadPoint pipeline}
    {op : UploadStatement} {answers : UploadAnswers} {reply : Except String op.Reply}
    (leads : point.Leads op reply following)
    (covers : ∀ path, Covered world path → Covered after path)
    (stays : ∀ path, (world.shared.objects ("approved" ++ path)).isSome →
      (after.shared.objects ("approved" ++ path)).isSome)
    (executed : ∀ value, reply = .ok value →
      executeUpload answers op world.shared = .ok (value, after.shared))
    (backed : point.Backed world) : following.Backed after := by
  cases leads with
  | granted | leaves => exact True.intro
  | read passed => exact Or.inl (isSome_of_get (executed _ rfl))
  | @consults upload | @passes upload | @accepted upload => exact covers upload.path backed
  | stored => exact isSome_of_put (executed () rfl)
  | @released upload => exact stays upload.path backed

theorem Tracked.ours_statement (tracked : Tracked pipeline world) {op : UploadStatement}
    {next : Except String op.Reply → UploadProgram UploadResult}
    (running : world.programs pid = some (.perform op next))
    (change : UploadChange world.shared op shared) :
    ∀ job ∈ shared.jobs, ∃ path, job.approvedKey = "approved" ++ path := by
  intro job isJob
  rcases change.jobs_cases isJob with wasJob | rfl
  · exact tracked.ours job wasJob
  · obtain ⟨upload, bytes, isProgram, -⟩ := tracked.enqueueing running
    cases isProgram
    exact ⟨upload.path, rfl⟩

theorem Tracked.hashed_statement (tracked : Tracked pipeline world) {op : UploadStatement}
    {next : Except String op.Reply → UploadProgram UploadResult} {reply : Except String op.Reply}
    (running : world.programs pid = some (.perform op next))
    (answered : (uploadServer Pid).outcome pid choice op world.shared = some (reply, shared))
    (keeps : StatementKeeps pipeline choice.1 choice.2 world pid op) :
    ∀ job ∈ shared.jobs, ∃ object, shared.objects job.approvedKey = some object ∧
      job.sha256 = pipeline.sha256 object.bytes := by
  obtain ⟨point, isProgram, -⟩ := tracked.points pid _ running
  obtain ⟨isAt, -⟩ := point.continues isProgram
  obtain ⟨change, -⟩ := change_of_outcome answered
  intro job isJob
  rcases change.jobs_cases isJob with wasJob | rfl
  · obtain ⟨object, isStored, isHash⟩ := tracked.recoverable.hashed job wasJob
    obtain ⟨path, isKey⟩ := tracked.ours job wasJob
    rw [isKey] at isStored ⊢
    rcases change.approved_cases isAt path with same | ⟨bytes, metadata, rfl, isNew⟩
    · exact ⟨object, same.trans isStored, isHash⟩
    · rcases put_outcome answered with ⟨-, rfl⟩ | ⟨delivered, -⟩
      · exact ⟨object, isStored, isHash⟩
      · exact ⟨_, isNew, keeps delivered job wasJob isKey⟩
  · rcases enqueue_outcome answered with ⟨-, rfl⟩ | ⟨delivered, isKept, rfl⟩
    · exact tracked.recoverable.hashed job isJob
    · exact keeps.2 delivered isKept

end Points

/-! ## Covered paths -/

section Steps

variable [DecidableEq Pid] {pid : Pid} {choice : Delivery × UploadAnswers}
  {shared : UploadState} {path : String}

theorem Tracked.covered_delete (tracked : Tracked pipeline world) {key : String}
    {next : Except String Unit → UploadProgram UploadResult} {reply : Except String Unit}
    (running : world.programs pid = some (.perform (.delete key) next))
    (answered : (uploadServer Pid).outcome pid choice (.delete key) world.shared =
      some (reply, shared))
    (keeps : StatementKeeps pipeline choice.1 choice.2 world pid (.delete key))
    (covered : Covered world path) :
    Covered (moved world pid shared (some (next reply))) path := by
  have notAbout : ¬ AboutToEnqueue world pid ("approved" ++ path) :=
    not_aboutToEnqueue running fun job => by simp
  obtain ⟨upload, bytes, isProgram, -⟩ := tracked.releasing running
  cases isProgram
  refine covered.move ?_ (change_of_outcome answered).1.jobs_subset
    (fun isAbout => absurd isAbout notAbout)
  intro quarantined
  by_cases samePath : path = upload.path
  · subst samePath
    rcases delete_outcome answered with ⟨-, rfl, -⟩ | ⟨-, rfl, rfl⟩ | ⟨isLost, rfl, rfl⟩
    · exact Or.inl quarantined
    · exact Or.inr (Or.inr ⟨pid, _, _, Function.update_self pid _ _, rfl⟩)
    · exact (keeps isLost _ rfl).covered (List.Subset.refl _)
  · have notDeleted : UploadStatement.delete upload.quarantineKey ≠
        .delete ("quarantine" ++ path) :=
      fun isDelete => samePath (areaKey_injective (UploadStatement.delete.inj isDelete)).symm
    exact Or.inl ((change_of_outcome answered).1.objects_stay notDeleted quarantined)

theorem covered_enqueue {job : DocumentJob}
    {next : Except String Unit → UploadProgram UploadResult} {reply : Except String Unit}
    (running : world.programs pid = some (.perform (.enqueue job) next))
    (answered : (uploadServer Pid).outcome pid choice (.enqueue job) world.shared =
      some (reply, shared))
    (keeps : StatementKeeps pipeline choice.1 choice.2 world pid (.enqueue job))
    (covered : Covered world path) :
    Covered (moved world pid shared (some (next reply))) path := by
  obtain ⟨change, -⟩ := change_of_outcome answered
  refine covered.move ?_ change.jobs_subset ?_
  · intro quarantined
    exact Or.inl (change.objects_stay (fun isDelete => nomatch isDelete) quarantined)
  · rintro ⟨sameJob, others, isEnqueue, isKey⟩
    cases running.symm.trans isEnqueue
    rcases enqueue_outcome answered with ⟨isLost, rfl⟩ | ⟨-, -, rfl⟩
    · exact (keeps.1 isLost path isKey).covered rfl (List.Subset.refl _)
    · exact Or.inr (Or.inl ⟨job, List.mem_append_right _ List.mem_cons_self, isKey⟩)

theorem covered_other {op : UploadStatement}
    {next : Except String op.Reply → UploadProgram UploadResult} {reply : Except String op.Reply}
    (running : world.programs pid = some (.perform op next))
    (notDelete : ∀ key, op ≠ .delete key) (notEnqueue : ∀ job, op ≠ .enqueue job)
    (change : UploadChange world.shared op shared) (covered : Covered world path) :
    Covered (moved world pid shared (some (next reply))) path :=
  covered.move (fun quarantined => Or.inl (change.objects_stay (notDelete _) quarantined))
    change.jobs_subset
    (fun isAbout => absurd isAbout (not_aboutToEnqueue running notEnqueue))

/-- A statement that meets the condition keeps a path covered. -/
theorem Tracked.covered_statement (tracked : Tracked pipeline world) {op : UploadStatement}
    {next : Except String op.Reply → UploadProgram UploadResult} {reply : Except String op.Reply}
    (running : world.programs pid = some (.perform op next))
    (answered : (uploadServer Pid).outcome pid choice op world.shared = some (reply, shared))
    (keeps : StatementKeeps pipeline choice.1 choice.2 world pid op)
    (covered : Covered world path) :
    Covered (moved world pid shared (some (next reply))) path := by
  have change := (change_of_outcome answered).1
  cases op with
  | delete key => exact tracked.covered_delete running answered keeps covered
  | enqueue job => exact covered_enqueue running answered keeps covered
  | authorize | signedUploadUrl | get | scan | contentPolicy | put | clientWrite =>
      exact covered_other running (fun _ isDelete => nomatch isDelete)
        (fun _ isEnqueue => nomatch isEnqueue) change covered

/-- So does a crash. -/
theorem covered_crash
    (keeps : AboutToEnqueue world pid ("approved" ++ path) → CanBeSpared world pid path)
    (covered : Covered world path) :
    Covered (moved world pid world.shared none) path :=
  covered.move Or.inl (List.Subset.refl _)
    fun isAbout => (keeps isAbout).covered rfl (List.Subset.refl _)

/-! ## The step lemma -/

/-- A statement that meets the condition keeps the invariant. -/
theorem Tracked.statement (tracked : Tracked pipeline world) {op : UploadStatement}
    {next : Except String op.Reply → UploadProgram UploadResult} {reply : Except String op.Reply}
    (running : world.programs pid = some (.perform op next))
    (answered : (uploadServer Pid).outcome pid choice op world.shared = some (reply, shared))
    (keeps : StatementKeeps pipeline choice.1 choice.2 world pid op) :
    Tracked pipeline (moved world pid shared (some (next reply))) := by
  obtain ⟨point, isProgram, backed⟩ := tracked.points pid _ running
  obtain ⟨isAt, leads⟩ := point.continues isProgram
  obtain ⟨following, isNext, led⟩ := leads reply
  obtain ⟨change, executed⟩ := change_of_outcome answered
  have covers (path : String) (covered : Covered world path) :
      Covered (moved world pid shared (some (next reply))) path :=
    tracked.covered_statement running answered keeps covered
  have stays (path : String) (isApproved : (world.shared.objects ("approved" ++ path)).isSome) :
      (shared.objects ("approved" ++ path)).isSome :=
    change.objects_stay (isAt.not_delete path) isApproved
  refine ⟨?_, tracked.ours_statement running change, ?_,
    tracked.hashed_statement running answered keeps⟩
  · intro other program found
    rcases update_cases found with ⟨rfl, isRest⟩ | ⟨different, before⟩
    · cases isRest
      exact ⟨following, isNext, led.backed covers stays executed backed⟩
    · obtain ⟨otherPoint, isOther, otherBacked⟩ := tracked.points other program before
      exact ⟨otherPoint, isOther, otherBacked.mono covers stays⟩
  · apply retained_of_covered
    intro d uploadId path isPath isApproved
    rcases change.approved_cases isAt path with same | ⟨bytes, metadata, rfl, -⟩
    · exact covers path (tracked.recoverable.covered isPath (same ▸ isApproved))
    · obtain ⟨upload, isKey, covered⟩ := tracked.storing running
      rw [areaKey_injective isKey]
      exact covers upload.path covered

/-- So does a crash. -/
theorem Tracked.crash (tracked : Tracked pipeline world)
    (keeps : ∀ path, AboutToEnqueue world pid ("approved" ++ path) →
      CanBeSpared world pid path) :
    Tracked pipeline (moved world pid world.shared none) := by
  have covers (path : String) (covered : Covered world path) :
      Covered (moved world pid world.shared none) path :=
    covered_crash (keeps path) covered
  refine ⟨?_, tracked.ours, ?_, tracked.recoverable.hashed⟩
  · intro other program found
    obtain ⟨point, isProgram, backed⟩ := tracked.points other program (of_update_none found)
    exact ⟨point, isProgram, backed.mono covers fun _ isApproved => isApproved⟩
  · apply retained_of_covered
    intro d uploadId path isPath isApproved
    exact covers path (tracked.recoverable.covered isPath isApproved)

/-! ## The condition is necessary -/

theorem necessary_put {key : String} {bytes : Bytes} {metadata : ObjectMetadata}
    {reply : Except String Unit} {rest : Option (UploadProgram UploadResult)}
    (answered : (uploadServer Pid).outcome pid choice (.put key bytes metadata) world.shared =
      some (reply, shared))
    (recoverable : Recoverable pipeline (moved world pid shared rest)) :
    StatementKeeps pipeline choice.1 choice.2 world pid (.put key bytes metadata) := by
  intro delivered job isJob isKey
  rcases put_outcome answered with ⟨isRefused, -⟩ | ⟨-, rfl⟩
  · exact absurd isRefused delivered
  · obtain ⟨object, isStored, isHash⟩ := recoverable.hashed job isJob
    rw [isKey, setObject_self] at isStored
    cases isStored
    exact isHash

theorem Tracked.necessary_delete (tracked : Tracked pipeline world) {key : String}
    {next : Except String Unit → UploadProgram UploadResult} {reply : Except String Unit}
    (running : world.programs pid = some (.perform (.delete key) next))
    (answered : (uploadServer Pid).outcome pid choice (.delete key) world.shared =
      some (reply, shared))
    (recoverable : Recoverable pipeline (moved world pid shared (some (next reply)))) :
    StatementKeeps pipeline choice.1 choice.2 world pid (.delete key) := by
  intro isLost path isKey
  obtain ⟨upload, bytes, isProgram, isApproved⟩ := tracked.releasing running
  cases isProgram
  have samePath : upload.path = path := areaKey_injective isKey
  subst samePath
  rcases delete_outcome answered with ⟨isRefused, -⟩ | ⟨isAnswered, -⟩ | ⟨-, rfl, rfl⟩
  · cases isLost.symm.trans isRefused
  · cases isLost.symm.trans isAnswered
  · have isAt : (UploadPoint.releasing upload bytes).At (.delete upload.quarantineKey) := .delete
    have stays := (change_of_outcome answered).1.objects_stay (isAt.not_delete upload.path)
      isApproved
    have covered := recoverable.covered upload.located stays
    rcases covered.elsewhere (fun _ _ isEnqueue => nomatch isEnqueue) rfl with
      quarantined | elsewhere
    · have isGone := setObject_self upload.quarantineKey none world.shared
      cases (congrArg Option.isSome isGone).symm.trans quarantined
    · exact elsewhere

theorem Tracked.necessary_enqueue (tracked : Tracked pipeline world) {job : DocumentJob}
    {next : Except String Unit → UploadProgram UploadResult} {reply : Except String Unit}
    (running : world.programs pid = some (.perform (.enqueue job) next))
    (answered : (uploadServer Pid).outcome pid choice (.enqueue job) world.shared =
      some (reply, shared))
    (recoverable : Recoverable pipeline (moved world pid shared (some (next reply)))) :
    StatementKeeps pipeline choice.1 choice.2 world pid (.enqueue job) := by
  obtain ⟨upload, bytes, isProgram, isApproved⟩ := tracked.enqueueing running
  cases isProgram
  rcases enqueue_outcome answered with ⟨isLost, rfl⟩ | ⟨delivered, isKept, rfl⟩
  · refine ⟨?_, ?_⟩
    · intro _ path isKey
      have samePath : upload.path = path := areaKey_injective isKey
      subst samePath
      have covered := recoverable.covered upload.located isApproved
      refine covered.elsewhere ?_ rfl
      intro job others isEnqueue
      cases reply with
      | ok | error => cases isEnqueue
    · intro delivered isKept
      rcases isLost with isRefused | suppresses
      · exact absurd isRefused delivered
      · exact absurd suppresses isKept
  · refine ⟨?_, ?_⟩
    · rintro (isRefused | suppresses)
      · exact absurd isRefused delivered
      · exact absurd suppresses isKept
    · intro _ _
      exact recoverable.hashed _ (List.mem_append_right _ List.mem_cons_self)

end Steps

/-! ## Runs -/

section Runs

theorem tracked_start (pipeline : UploadPipeline) (calls : Pid → UploadCall) :
    Tracked pipeline (uploadStart pipeline calls) where
  points := by
    apply points_uploadStart
    intro point isFirst
    cases point with
    | asking | outside => exact True.intro
    | reading | scanning | consulting | storing | releasing | enqueueing => cases isFirst
  ours := fun _ isJob => nomatch isJob
  recoverable :=
    { retained := fun _ _ _ _ _ _ isApproved => nomatch isApproved
      hashed := fun _ isJob => nomatch isJob }

variable [DecidableEq Pid] {event : Event Pid (Delivery × UploadAnswers)}

/-- An event that meets the condition keeps the invariant. -/
theorem Tracked.step (tracked : Tracked pipeline world)
    (keeps : KeepsRecoverable pipeline world event) :
    Tracked pipeline (world.step (uploadServer Pid) event) := by
  cases event with
  | disconnect pid => exact tracked
  | crash pid => exact tracked.crash keeps
  | statement pid choice =>
      apply World.statement_preserves tracked
      intro op next reply shared running answered
      exact tracked.statement running answered (keeps op next running)

/-- An event that arrives at a recoverable world meets the condition. -/
theorem Tracked.necessary (tracked : Tracked pipeline world)
    (recoverable : Recoverable pipeline (world.step (uploadServer Pid) event)) :
    KeepsRecoverable pipeline world event := by
  cases event with
  | disconnect pid => exact True.intro
  | crash pid =>
      rintro path ⟨job, next, running, isKey⟩
      obtain ⟨upload, bytes, isProgram, isApproved⟩ := tracked.enqueueing running
      cases isProgram
      have samePath : upload.path = path := areaKey_injective isKey
      subst samePath
      have covered : Covered (moved world pid world.shared none) upload.path :=
        recoverable.covered upload.located isApproved
      exact covered.elsewhere (fun _ _ isEnqueue => nomatch isEnqueue) rfl
  | statement pid choice =>
      intro op next running
      obtain ⟨reply, after, answered⟩ := uploadServer_answers pid choice op world.shared
      rw [World.step_statement running answered] at recoverable
      cases op with
      | put key bytes metadata => exact necessary_put answered recoverable
      | delete key => exact tracked.necessary_delete running answered recoverable
      | enqueue job => exact tracked.necessary_enqueue running answered recoverable
      | authorize | signedUploadUrl | get | scan | contentPolicy | clientWrite =>
          exact True.intro

/-- The exact condition. -/
theorem recoverable_iff (pipeline : UploadPipeline) (calls : Pid → UploadCall)
    (events : List (Event Pid (Delivery × UploadAnswers))) :
    (∀ prior, prior <+: events →
        Recoverable pipeline
          (run (World.step (uploadServer Pid)) (uploadStart pipeline calls) prior)) ↔
      EveryStep (World.step (uploadServer Pid)) (KeepsRecoverable pipeline)
        (uploadStart pipeline calls) events :=
  everyState_iff_everyStep (fun _ _ tracked keeps => tracked.step keeps)
    (fun _ tracked => tracked.recoverable)
    (fun _ _ tracked recoverable => tracked.necessary recoverable) events
    (tracked_start pipeline calls)

end Runs

end Worlds

end PlatformArchitecture.Documents
