import PlatformArchitecture.Foundations.Run
import PlatformArchitecture.Services.JobQueue

/-!
# Runs and their jobs

`start` saves a queued run and then enqueues its job, so that a run can be left
without one.  Runs of calls in which every saved run is also enqueued under an
id of its own keep a job for each queued run.
-/

namespace PlatformArchitecture.Services

open PlatformArchitecture.Foundations
open PlatformArchitecture.Security

/-- A call of `start`, with what becomes of its three statements. -/
structure StartCall where
  context : TenantContext
  queue : TenantQueue
  input : StartInput
  runId : String
  createdAt : String
  getDefinition : Delivery
  saveRun : Delivery
  add : Delivery

namespace StartCall

variable (ids : JobIds) (state : ServiceState) (call : StartCall)

/-- What the call returns, and the state it leaves. -/
def outcome : Except String WorkflowRun × ServiceState :=
  (WorkflowService.start (call.queue.port ids call.context.toTenantScope) call.context call.input
    call.runId call.createdAt).run serviceDatabase [call.getDefinition, call.saveRun, call.add]
    state

def step : ServiceState :=
  (call.outcome ids state).2

def jobId : String :=
  stableJobId ids (call.queue.key call.context.toTenantScope (some call.input.idempotencyKey))
    call.queue.draw

/-- The definition that the call goes on with, if it comes to save its run. -/
def admittedDefinition : Except String WorkflowDefinition := do
  requirePermission call.context "workflow:execute"
  throwIf (call.getDefinition ≠ .answered) "connection lost"
  checkDefinition call.context (state.definitions call.context.tenantId call.input.workflowId)

/-- A run that is saved is acknowledged, its job is delivered, and the queue has
no job under the id yet. -/
def EnqueuesWhatItSaves : Prop :=
  (call.admittedDefinition state).isOk → call.saveRun ≠ .refused →
    call.saveRun = .answered ∧ call.add ≠ .refused ∧
      state.jobs "workflow-runs" (call.jobId ids) = none

end StartCall

/-- The queue has accepted a job that carries the run. -/
def HasJob (state : ServiceState) (runId : String) : Prop :=
  ∃ jobId job, state.jobs "workflow-runs" jobId = some job ∧ job.data.runId = some runId

def QueuedRunsHaveJobs (state : ServiceState) : Prop :=
  ∀ run ∈ state.runs, run.state = .queued → HasJob state run.runId

/-- What holds once a call has settled. -/
structure Settled (ids : JobIds) (state : ServiceState) (call : StartCall) : Prop where
  queued : QueuedRunsHaveJobs (call.step ids state)
  returned : ∀ run, (call.outcome ids state).1 = .ok run →
    run ∈ (call.step ids state).runs ∧ run.state = .queued ∧
      HasJob (call.step ids state) run.runId

section Steps

variable {ids : JobIds} {state : ServiceState} {call : StartCall}

/-- The state once the run is saved and its job is added. -/
def enqueued (ids : JobIds) (state : ServiceState) (call : StartCall)
    (definition : WorkflowDefinition) : ServiceState where
  definitions := state.definitions
  runs := state.runs ++
    [newRun call.context call.input definition call.runId call.createdAt]
  jobs := addJob state.jobs "workflow-runs" (call.jobId ids)
    (runJob call.queue call.context call.input call.runId call.createdAt definition)

/-- A call that does not save its run changes nothing; one that saves and
enqueues it returns that run, if it returns. -/
theorem outcome_cases (enqueues : call.EnqueuesWhatItSaves ids state) :
    (∃ error, call.outcome ids state = (.error error, state)) ∨
      ∃ definition, call.step ids state = enqueued ids state call definition ∧
        state.jobs "workflow-runs" (call.jobId ids) = none ∧
        ∀ run, (call.outcome ids state).1 = .ok run →
          run = newRun call.context call.input definition call.runId call.createdAt := by
  unfold StartCall.EnqueuesWhatItSaves StartCall.admittedDefinition at enqueues
  unfold StartCall.step StartCall.outcome
  cases permitted : requirePermission call.context "workflow:execute" with
  | error error =>
      rw [start_eq, permitted]
      exact Or.inl ⟨error, rfl⟩
  | ok passed =>
      rw [permitted, ok_bind] at enqueues
      cases read : call.getDefinition with
      | refused | unacknowledged =>
          rw [start_eq, permitted]
          exact Or.inl ⟨_, rfl⟩
      | answered =>
          rw [read, throwIf_of_not (by simp), ok_bind] at enqueues
          cases found : checkDefinition call.context
              (state.definitions call.context.tenantId call.input.workflowId) with
          | error error => exact Or.inl ⟨error, run_start_rejected permitted rfl found⟩
          | ok definition =>
              rw [run_start_found permitted rfl found]
              rw [found] at enqueues
              cases saved : call.saveRun with
              | refused => exact Or.inl ⟨_, run_saveAndEnqueue_refused rfl⟩
              | unacknowledged =>
                  rw [saved] at enqueues
                  exact absurd (enqueues rfl (by simp)).1 (by simp)
              | answered =>
                  rw [saved] at enqueues
                  obtain ⟨-, delivered, absent⟩ := enqueues rfl (by simp)
                  have ran := @run_saveAndEnqueue_delivered call.queue ids call.context
                    call.input call.runId call.createdAt [.answered, call.add] state definition
                    rfl delivered
                  rw [List.tail_cons, ran]
                  refine Or.inr ⟨definition, rfl, absent, ?_⟩
                  intro run returned
                  split at returned
                  · exact (Except.ok.inj returned).symm
                  · cases returned

theorem HasJob.kept {runId : String} (definition : WorkflowDefinition)
    (hasJob : HasJob state runId) : HasJob (enqueued ids state call definition) runId := by
  obtain ⟨jobId, job, isJob, carries⟩ := hasJob
  exact ⟨jobId, job, addJob_keeps isJob, carries⟩

/-- A run enqueued under a free id has its job. -/
theorem hasJob_newRun (definition : WorkflowDefinition)
    (absent : state.jobs "workflow-runs" (call.jobId ids) = none) :
    HasJob (enqueued ids state call definition) call.runId := by
  refine ⟨call.jobId ids, _, addJob_self_of_absent absent, ?_⟩
  exact call.queue.runId_envelope call.context.toTenantScope _

theorem exists_job_enqueued (definition : WorkflowDefinition)
    (absent : state.jobs "workflow-runs" (call.jobId ids) = none) :
    ∃ job, (enqueued ids state call definition).jobs "workflow-runs" (call.jobId ids) =
      some job :=
  ⟨_, addJob_self_of_absent absent⟩

/-- A run with a job had it before, or is the run of the call. -/
theorem HasJob.of_enqueued {definition : WorkflowDefinition} {runId : String}
    (hasJob : HasJob (enqueued ids state call definition) runId) :
    HasJob state runId ∨ runId = call.runId := by
  obtain ⟨jobId, job, isJob, carries⟩ := hasJob
  unfold enqueued at isJob
  dsimp only at isJob
  cases addJob_cases isJob with
  | inl held => exact Or.inl ⟨jobId, job, held, carries⟩
  | inr isAdded =>
      rw [isAdded.2.2] at carries
      have ownRun := call.queue.runId_envelope call.context.toTenantScope
        (runPayload call.input definition
          (newRun call.context call.input definition call.runId call.createdAt))
      exact Or.inr (Option.some.inj (carries.symm.trans ownRun))

/-- A run whose job id the queue already has stays without a job. -/
theorem not_hasJob_of_held {definition : WorkflowDefinition} {held : BullMqJob}
    (isHeld : state.jobs "workflow-runs" (call.jobId ids) = some held)
    (fresh : ¬ HasJob state call.runId) :
    ¬ HasJob (enqueued ids state call definition) call.runId := by
  intro hasJob
  obtain ⟨jobId, job, isJob, carries⟩ := hasJob
  unfold enqueued at isJob
  dsimp only at isJob
  rw [addJob_of_held isHeld] at isJob
  exact fresh ⟨jobId, job, isJob, carries⟩

/-- The step lemma: a call that enqueues what it saves settles well. -/
theorem settled_of_enqueues (queued : QueuedRunsHaveJobs state)
    (enqueues : call.EnqueuesWhatItSaves ids state) : Settled ids state call := by
  cases outcome_cases enqueues with
  | inl failed =>
      obtain ⟨error, isFailed⟩ := failed
      have unchanged : call.step ids state = state := congrArg Prod.snd isFailed
      constructor
      · rw [unchanged]
        exact queued
      · intro run returned
        rw [isFailed] at returned
        cases returned
  | inr saved =>
      obtain ⟨definition, isEnqueued, absent, isRun⟩ := saved
      constructor
      · rw [isEnqueued]
        intro run member isQueued
        cases List.mem_append.mp member with
        | inl old => exact (queued run old isQueued).kept definition
        | inr new =>
            rw [List.mem_singleton.mp new]
            exact hasJob_newRun definition absent
      · intro run returned
        rw [isRun run returned, isEnqueued]
        exact ⟨List.mem_append_right _ List.mem_cons_self, rfl, hasJob_newRun definition absent⟩

end Steps

/-- In every sequence of calls that enqueue what they save, each call settles
with a job for every queued run. -/
theorem settled_of_everyStep (ids : JobIds) (start : ServiceState) (calls : List StartCall)
    (queued : QueuedRunsHaveJobs start)
    (every : EveryStep (fun state call => StartCall.step ids state call)
      (fun state call => call.EnqueuesWhatItSaves ids state) start calls) :
    EveryStep (fun state call => StartCall.step ids state call)
      (fun state call => Settled ids state call) start calls := by
  refine everyStep_of_invariant ?_ ?_ queued every
  · intro state call holds enqueues
    exact (settled_of_enqueues holds enqueues).queued
  · intro state call holds enqueues
    exact settled_of_enqueues holds enqueues

/-! ## A repeated key -/

def dailyClose : WorkflowDefinition :=
  ⟨"workflow-1", "tenant-1", none, "Daily close", true, 3⟩

/-- A state with one definition. -/
def closeState : ServiceState where
  definitions _ _ := some dailyClose
  runs := []
  jobs _ _ := none

/-- A call with a key, all of whose statements are answered. -/
def closeCall (runId key : String) : StartCall where
  context :=
    { tenantId := "tenant-1"
      workspaceId := none
      userId := "user-1"
      roles := []
      permissions := ["workflow:execute"]
      sessionId := none
      mfa := false }
  queue := ⟨false, 0⟩
  input := ⟨"workflow-1", "corr-1", [], key⟩
  runId := runId
  createdAt := "2024-01-01T00:00:00.000Z"
  getDefinition := .answered
  saveRun := .answered
  add := .answered

/-- A call whose run is refused, one that brings its key again, and one with a key
of its own. -/
def closeCalls : List StartCall :=
  [{ closeCall "run-1" "order-1" with saveRun := .refused }, closeCall "run-2" "order-1",
    closeCall "run-3" "order-2"]

/-- The key of a call that saved nothing is still free. -/
theorem settled_closeCall :
    EveryStep (fun state call => StartCall.step orderIds state call)
      (fun state call => Settled orderIds state call) closeState closeCalls :=
  settled_of_everyStep orderIds closeState closeCalls
    (fun run member => by cases member)
    ⟨fun _ taken => absurd rfl taken, fun _ _ => ⟨rfl, by decide, rfl⟩,
      fun _ _ => ⟨rfl, by decide, by decide +kernel⟩, trivial⟩

/-- A second call with the key returns a run without a job. -/
theorem repeatedKeyWithoutJob :
    ¬ ∀ (ids : JobIds) (start : ServiceState) (calls : List StartCall),
      QueuedRunsHaveJobs start →
        EveryStep (fun state call => StartCall.step ids state call)
          (fun state call => Settled ids state call) start calls := by
  intro settled
  have every := settled orderIds closeState
    [closeCall "run-1" "order-1", closeCall "run-2" "order-1"] (fun run member => by cases member)
  obtain ⟨-, second, -⟩ := every
  have hasJob : HasJob
      (enqueued orderIds (enqueued orderIds closeState (closeCall "run-1" "order-1") dailyClose)
        (closeCall "run-2" "order-1") dailyClose) "run-2" :=
    (second.returned _ rfl).2.2
  have sameId : (closeCall "run-1" "order-1").jobId orderIds =
      (closeCall "run-2" "order-1").jobId orderIds := rfl
  obtain ⟨first, isFirst⟩ :=
    @exists_job_enqueued orderIds closeState (closeCall "run-1" "order-1") dailyClose rfl
  refine not_hasJob_of_held (sameId ▸ isFirst) ?_ hasJob
  intro carried
  have origin := @HasJob.of_enqueued orderIds closeState (closeCall "run-1" "order-1")
    dailyClose "run-2" carried
  cases origin with
  | inl inEmpty =>
      obtain ⟨jobId, job, isJob, -⟩ := inEmpty
      cases isJob
  | inr sameRun =>
      revert sameRun
      decide

end PlatformArchitecture.Services
