import Mathlib.Data.List.Induction
import PlatformArchitecture.Foundations.Run
import PlatformArchitecture.Services.JobQueue

/-!
# Jobs of different tenants in one queue

Calls of any number of tenants enqueue to queues behind one adapter.  A job is
kept apart from those of other tenants as long as no two tenants reach the
adapter with the same key on the same queue.
-/

namespace PlatformArchitecture.Services

open PlatformArchitecture.Foundations
open PlatformArchitecture.Security

inductive TenantRequest where
  | queueDelivery (request : NotificationRequest)
  | start (input : StartInput) (runId createdAt : String)

/-- A call of a tenant to a service with a queue of its own. -/
structure TenantCall where
  context : TenantContext
  queue : TenantQueue
  request : TenantRequest

namespace TenantCall

def queueName (call : TenantCall) : String :=
  match call.request with
  | .queueDelivery _ => "notifications"
  | .start _ _ _ => "workflow-runs"

def idempotencyKey (call : TenantCall) : String :=
  match call.request with
  | .queueDelivery request => request.idempotencyKey
  | .start input _ _ => input.idempotencyKey

/-- The key that reaches the adapter, unless it is empty. -/
def effectiveKey (call : TenantCall) : Option String :=
  (call.queue.key call.context.toTenantScope (some call.idempotencyKey)).filter (· ≠ "")

def jobId (ids : JobIds) (call : TenantCall) : String :=
  match call.effectiveKey with
  | some key => "idem-" ++ ids.sha256 key
  | none => ids.randomUUID call.queue.draw

/-- The checks of the service pass. -/
def Admitted (definitions : String → String → Option WorkflowDefinition)
    (call : TenantCall) : Prop :=
  match call.request with
  | .queueDelivery request => (checkNotification call.context request).isOk
  | .start input _ _ =>
      (requirePermission call.context "workflow:execute").isOk ∧
        (checkDefinition call.context
          (definitions call.context.tenantId input.workflowId)).isOk

/-- The state after the call when every statement is answered. -/
def execute (ids : JobIds) (state : ServiceState) (call : TenantCall) : ServiceState :=
  let port := call.queue.port ids call.context.toTenantScope
  match call.request with
  | .queueDelivery request =>
      ((NotificationService.queueDelivery port call.context request).run serviceDatabase []
        state).2
  | .start input runId createdAt =>
      ((WorkflowService.start port call.context input runId createdAt).run serviceDatabase []
        state).2

end TenantCall

/-- Calls in the order they are made; each draws its own random id. -/
structure TenantHistory where
  calls : List TenantCall
  distinctDraws : (calls.map fun call => call.queue.draw).Nodup

def afterCalls (ids : JobIds) (definitions : String → String → Option WorkflowDefinition)
    (calls : List TenantCall) : ServiceState :=
  run (TenantCall.execute ids) { definitions, runs := [], jobs := fun _ _ => none } calls

/-- The job under the id of a call was enqueued for its tenant. -/
def OwnJob (ids : JobIds) (state : ServiceState) (call : TenantCall) : Prop :=
  ∃ job, state.jobs call.queueName (call.jobId ids) = some job ∧
    job.data.tenantId = call.context.tenantId

/-- Two calls reach the adapter with one key on one queue. -/
def ShareKey (first second : TenantCall) : Prop :=
  first.queueName = second.queueName ∧
    ∃ key, first.effectiveKey = some key ∧ second.effectiveKey = some key

/-- No two tenants share a key. -/
def TenantKeysApart (definitions : String → String → Option WorkflowDefinition)
    (calls : List TenantCall) : Prop :=
  ∀ first ∈ calls, ∀ second ∈ calls, first.Admitted definitions → second.Admitted definitions →
    first.context.tenantId ≠ second.context.tenantId → ¬ ShareKey first second

/-! ## What a call adds -/

section Calls

variable (ids : JobIds) {call : TenantCall} {state : ServiceState}

theorem stableJobId_eq (call : TenantCall) :
    stableJobId ids (call.queue.key call.context.toTenantScope (some call.idempotencyKey))
      call.queue.draw = call.jobId ids := by
  unfold TenantCall.jobId TenantCall.effectiveKey stableJobId
  cases call.queue.key call.context.toTenantScope (some call.idempotencyKey) with
  | none => rfl
  | some key =>
      by_cases isEmpty : key = ""
      · subst isEmpty
        rfl
      · simp [Option.filter, isEmpty]

/-- An admitted call adds a job of its tenant under its id. -/
theorem execute_admitted (admitted : call.Admitted state.definitions) :
    (call.execute ids state).definitions = state.definitions ∧
      ∃ job, job.data.tenantId = call.context.tenantId ∧
        (call.execute ids state).jobs =
          addJob state.jobs call.queueName (call.jobId ids) job := by
  rw [← stableJobId_eq ids call]
  unfold TenantCall.Admitted at admitted
  unfold TenantCall.execute TenantCall.queueName TenantCall.idempotencyKey
  cases isRequest : call.request with
  | queueDelivery request =>
      rw [isRequest] at admitted
      dsimp only at admitted ⊢
      unfold NotificationService.queueDelivery
      cases checked : checkNotification call.context request with
      | error error =>
          rw [checked] at admitted
          cases admitted
      | ok passed =>
          rw [Program.check_ok, Program.done_bind, TenantQueue.port_eq _ _ _ (by decide)]
          refine ⟨rfl, _, ?_, rfl⟩
          exact call.queue.tenantId_envelope call.context.toTenantScope _ rfl
  | start input runId createdAt =>
      rw [isRequest] at admitted
      obtain ⟨permitted, available⟩ := admitted
      dsimp only
      cases checked : requirePermission call.context "workflow:execute" with
      | error error =>
          rw [checked] at permitted
          cases permitted
      | ok passed =>
          cases found : checkDefinition call.context
              (state.definitions call.context.tenantId input.workflowId) with
          | error error =>
              rw [found] at available
              cases available
          | ok definition =>
              rw [run_start_found checked rfl found, run_saveAndEnqueue_delivered rfl (by decide)]
              exact
                ⟨rfl, runJob call.queue call.context input runId createdAt definition,
                  call.queue.tenantId_envelope _ _ rfl, rfl⟩

/-- A refused call adds nothing. -/
theorem execute_refused (refused : ¬ call.Admitted state.definitions) :
    (call.execute ids state).definitions = state.definitions ∧
      (call.execute ids state).jobs = state.jobs := by
  unfold TenantCall.Admitted at refused
  unfold TenantCall.execute
  cases isRequest : call.request with
  | queueDelivery request =>
      rw [isRequest] at refused
      dsimp only at refused ⊢
      unfold NotificationService.queueDelivery
      cases checked : checkNotification call.context request with
      | error error => exact ⟨rfl, rfl⟩
      | ok passed =>
          rw [checked] at refused
          exact absurd rfl refused
  | start input runId createdAt =>
      rw [isRequest] at refused
      dsimp only at refused ⊢
      cases checked : requirePermission call.context "workflow:execute" with
      | error error =>
          rw [start_eq, checked]
          exact ⟨rfl, rfl⟩
      | ok passed =>
          cases found : checkDefinition call.context
              (state.definitions call.context.tenantId input.workflowId) with
          | error error =>
              rw [run_start_rejected checked rfl found]
              exact ⟨rfl, rfl⟩
          | ok definition =>
              rw [checked, found] at refused
              exact absurd ⟨rfl, rfl⟩ refused

variable {ids}

/-- Two calls with one job id share a key, or drew the same random id. -/
theorem jobId_inj {first second : TenantCall} (sameQueue : first.queueName = second.queueName)
    (sameId : first.jobId ids = second.jobId ids) :
    ShareKey first second ∨ first.queue.draw = second.queue.draw := by
  unfold TenantCall.jobId at sameId
  cases firstKey : first.effectiveKey with
  | none =>
      rw [firstKey] at sameId
      cases secondKey : second.effectiveKey with
      | none =>
          rw [secondKey] at sameId
          exact Or.inr (ids.randomUUID_injective sameId)
      | some key =>
          rw [secondKey] at sameId
          exact absurd sameId (ids.randomUUID_ne _ _)
  | some key =>
      rw [firstKey] at sameId
      cases secondKey : second.effectiveKey with
      | none =>
          rw [secondKey] at sameId
          exact absurd sameId.symm (ids.randomUUID_ne _ _)
      | some other =>
          rw [secondKey] at sameId
          have sameDigest := (String.append_right_inj _).mp sameId
          have sameKey := ids.sha256_injective sameDigest
          exact Or.inl ⟨sameQueue, key, firstKey, sameKey ▸ secondKey⟩

theorem jobId_of_shareKey {first second : TenantCall} (shared : ShareKey first second) :
    first.jobId ids = second.jobId ids := by
  obtain ⟨-, key, firstKey, secondKey⟩ := shared
  unfold TenantCall.jobId
  rw [firstKey, secondKey]

end Calls

/-! ## The queues after some calls -/

section Histories

variable {ids : JobIds} {definitions : String → String → Option WorkflowDefinition}
  {calls : List TenantCall}

/-- Every job was enqueued by an admitted call under its id, for its tenant. -/
def JobsEnqueued (ids : JobIds) (definitions : String → String → Option WorkflowDefinition)
    (calls : List TenantCall) (state : ServiceState) : Prop :=
  ∀ queue jobId job, state.jobs queue jobId = some job →
    ∃ call ∈ calls, call.Admitted definitions ∧ call.queueName = queue ∧
      call.jobId ids = jobId ∧ job.data.tenantId = call.context.tenantId

theorem afterCalls_append (call : TenantCall) :
    afterCalls ids definitions (calls ++ [call]) =
      call.execute ids (afterCalls ids definitions calls) := by
  unfold afterCalls run
  rw [List.foldl_append]
  rfl

theorem definitions_afterCalls (ids : JobIds)
    (definitions : String → String → Option WorkflowDefinition) (calls : List TenantCall) :
    (afterCalls ids definitions calls).definitions = definitions := by
  induction calls using List.reverseRecOn with
  | nil => rfl
  | append_singleton earlier call inductionHypothesis =>
      rw [afterCalls_append]
      by_cases admitted : call.Admitted (afterCalls ids definitions earlier).definitions
      · exact (execute_admitted ids admitted).1.trans inductionHypothesis
      · exact (execute_refused ids admitted).1.trans inductionHypothesis

theorem jobsEnqueued_afterCalls :
    JobsEnqueued ids definitions calls (afterCalls ids definitions calls) := by
  induction calls using List.reverseRecOn with
  | nil =>
      intro queue jobId job isJob
      cases isJob
  | append_singleton earlier call inductionHypothesis =>
      intro queue jobId job isJob
      have fromEarlier : (afterCalls ids definitions earlier).jobs queue jobId = some job →
          ∃ other ∈ earlier ++ [call], other.Admitted definitions ∧ other.queueName = queue ∧
            other.jobId ids = jobId ∧ job.data.tenantId = other.context.tenantId := by
        intro held
        obtain ⟨other, member, facts⟩ := inductionHypothesis queue jobId job held
        exact ⟨other, List.mem_append_left _ member, facts⟩
      rw [afterCalls_append] at isJob
      by_cases admitted : call.Admitted (afterCalls ids definitions earlier).definitions
      · obtain ⟨-, added, ownTenant, jobs⟩ := execute_admitted ids admitted
        rw [jobs] at isJob
        rw [definitions_afterCalls] at admitted
        cases addJob_cases isJob with
        | inl held => exact fromEarlier held
        | inr isAdded =>
            obtain ⟨sameQueue, sameId, isJob⟩ := isAdded
            exact ⟨call, by simp, admitted, sameQueue.symm, sameId.symm, isJob ▸ ownTenant⟩
      · rw [(execute_refused ids admitted).2] at isJob
        exact fromEarlier isJob

/-- With keys apart, every admitted call finds a job of its tenant under its
id. -/
theorem ownJob_afterCalls (distinct : (calls.map fun call => call.queue.draw).Nodup)
    (apart : TenantKeysApart definitions calls) :
    ∀ call ∈ calls, call.Admitted definitions →
      OwnJob ids (afterCalls ids definitions calls) call := by
  induction calls using List.reverseRecOn with
  | nil =>
      intro call member
      cases member
  | append_singleton earlier last inductionHypothesis =>
      rw [List.map_append, List.nodup_append] at distinct
      obtain ⟨earlierDistinct, -, fresh⟩ := distinct
      have earlierApart : TenantKeysApart definitions earlier :=
        fun first firstMember second secondMember =>
          apart first (List.mem_append_left _ firstMember) second
            (List.mem_append_left _ secondMember)
      have earlierOwn := inductionHypothesis earlierDistinct earlierApart
      rw [afterCalls_append]
      have sameDefinitions := definitions_afterCalls ids definitions earlier
      by_cases lastAdmitted : last.Admitted definitions
      · rw [← sameDefinitions] at lastAdmitted
        obtain ⟨-, added, ownTenant, jobs⟩ := execute_admitted ids lastAdmitted
        rw [sameDefinitions] at lastAdmitted
        intro call member admitted
        unfold OwnJob
        rw [jobs]
        cases List.mem_append.mp member with
        | inl isEarlier =>
            obtain ⟨job, isJob, own⟩ := earlierOwn call isEarlier admitted
            exact ⟨job, addJob_keeps isJob, own⟩
        | inr isLast =>
            rw [List.mem_singleton.mp isLast]
            cases held : (afterCalls ids definitions earlier).jobs last.queueName
                (last.jobId ids) with
            | none => exact ⟨added, addJob_self_of_absent held, ownTenant⟩
            | some job =>
                refine ⟨job, addJob_keeps held, ?_⟩
                obtain ⟨other, isOther, otherAdmitted, sameQueue, sameId, otherTenant⟩ :=
                  jobsEnqueued_afterCalls _ _ job held
                rw [otherTenant]
                by_contra differ
                cases jobId_inj sameQueue sameId with
                | inl shared =>
                    exact apart other (List.mem_append_left _ isOther) last (by simp)
                      otherAdmitted lastAdmitted differ shared
                | inr sameDraw =>
                    exact fresh _ (List.mem_map_of_mem isOther) _ (by simp) sameDraw
      · have unchanged : (last.execute ids (afterCalls ids definitions earlier)).jobs =
            (afterCalls ids definitions earlier).jobs := by
          rw [← sameDefinitions] at lastAdmitted
          exact (execute_refused ids lastAdmitted).2
        intro call member admitted
        unfold OwnJob
        rw [unchanged]
        cases List.mem_append.mp member with
        | inl isEarlier => exact earlierOwn call isEarlier admitted
        | inr isLast => exact absurd (List.mem_singleton.mp isLast ▸ admitted) lastAdmitted

/-- The jobs of all admitted calls are kept apart by tenant exactly when no two
tenants reach the adapter with one key on one queue. -/
theorem ownJobs_iff_tenantKeysApart (ids : JobIds)
    (definitions : String → String → Option WorkflowDefinition) (history : TenantHistory) :
    (∀ call ∈ history.calls, call.Admitted definitions →
        OwnJob ids (afterCalls ids definitions history.calls) call) ↔
      TenantKeysApart definitions history.calls := by
  constructor
  · intro ownJobs first firstMember second secondMember firstAdmitted secondAdmitted differ shared
    obtain ⟨job, isJob, firstTenant⟩ := ownJobs first firstMember firstAdmitted
    obtain ⟨other, isOther, secondTenant⟩ := ownJobs second secondMember secondAdmitted
    rw [shared.1, jobId_of_shareKey shared, isOther] at isJob
    cases isJob
    exact differ (firstTenant.symm.trans secondTenant)
  · intro apart
    exact ownJob_afterCalls history.distinctDraws apart

end Histories

/-- A notification to one address with the key `order-1`. -/
def orderNotification (tenantId : String) (draw : Nat) : TenantCall where
  context :=
    { tenantId
      workspaceId := none
      userId := "user-1"
      roles := []
      permissions := ["notification:send"]
      sessionId := none
      mfa := false }
  queue := ⟨false, draw⟩
  request := .queueDelivery ⟨.email, "ops@example.test", "order", [], "corr-1", "order-1"⟩

/-- The second of two tenants with one key is left without a job. -/
theorem secondTenantSuppressed :
    ¬ ∀ (ids : JobIds) (definitions : String → String → Option WorkflowDefinition)
      (history : TenantHistory), ∀ call ∈ history.calls, call.Admitted definitions →
        OwnJob ids (afterCalls ids definitions history.calls) call := by
  intro ownJobs
  have own := ownJobs orderIds (fun _ _ => none)
    ⟨[orderNotification "tenant-a" 0, orderNotification "tenant-b" 1], by decide⟩
  obtain ⟨job, isJob, firstTenant⟩ := own (orderNotification "tenant-a" 0) (by simp) rfl
  obtain ⟨other, isOther, secondTenant⟩ := own (orderNotification "tenant-b" 1) (by simp) rfl
  have sameJob : job = other := Option.some.inj (isJob.symm.trans isOther)
  rw [← sameJob, firstTenant] at secondTenant
  revert secondTenant
  decide

end PlatformArchitecture.Services
