import PlatformArchitecture.Foundations.Checks
import PlatformArchitecture.Foundations.Json
import PlatformArchitecture.Foundations.Program
import PlatformArchitecture.PolicyEngine.PlatformPolicy
import PlatformArchitecture.Security.TenantContext

/-!
# Services that enqueue jobs

`NotificationService` and `WorkflowService` write to a job queue: a
`BullMqJobQueueAdapter`, or one behind a `TenantScopedJobQueue`.  The adapter
makes the id of a job from its idempotency key, and BullMQ ignores a job whose
id the queue already has.
-/

namespace PlatformArchitecture.Services

open PlatformArchitecture.Foundations
open PlatformArchitecture.Security

/-! ## Jobs -/

inductive NotificationChannel where
  | email
  | webhook
  | whatsapp
  deriving DecidableEq

structure NotificationRequest where
  channel : NotificationChannel
  destination : String
  template : String
  templateVariables : List (String × String)
  correlationId : String
  idempotencyKey : String

structure WorkflowDefinition where
  workflowId : String
  tenantId : String
  workspaceId : Option String
  name : String
  enabled : Bool
  version : Int

inductive RunState where
  | queued
  | running
  | completed
  | failed
  deriving DecidableEq

structure WorkflowRun where
  runId : String
  workflowId : String
  tenantId : String
  workspaceId : Option String
  state : RunState
  correlationId : String
  createdAt : String

/-- The payloads that the services enqueue. -/
inductive JobPayload where
  | notification (tenantId : String) (workspaceId : Option String)
      (channel : NotificationChannel) (destination template : String)
      (templateVariables : List (String × String))
  | workflowRun (runId workflowId : String) (workflowVersion : Int) (tenantId : String)
      (workspaceId : Option String) (payload : JsObject)
  | envelope (tenantId : String) (workspaceId : Option String) (payload : JobPayload)

def JobPayload.tenantId : JobPayload → String
  | notification tenantId _ _ _ _ _ => tenantId
  | workflowRun _ _ _ tenantId _ _ => tenantId
  | envelope tenantId _ _ => tenantId

/-- The run that a job carries, in an envelope or not. -/
def JobPayload.runId : JobPayload → Option String
  | notification .. => none
  | workflowRun runId .. => some runId
  | envelope _ _ payload => payload.runId

structure JobOptions where
  idempotencyKey : Option String
  delayMs : Option Int
  maxAttempts : Option Int
  correlationId : Option String

structure BullMqJob where
  name : String
  data : JobPayload
  delay : Int
  attempts : Int

/-- The jobs of each queue by their id. -/
abbrev BullMqJobs :=
  String → String → Option BullMqJob

/-- `queue.add`: a job whose id the queue has is ignored. -/
def addJob (jobs : BullMqJobs) (queue jobId : String) (job : BullMqJob) : BullMqJobs :=
  match jobs queue jobId with
  | some _ => jobs
  | none => fun otherQueue otherId =>
      if otherQueue = queue ∧ otherId = jobId then some job else jobs otherQueue otherId

/-! ## Statements -/

/-- The calls that the services make on their repository and their queue. -/
inductive ServiceStatement where
  | getDefinition (tenantId workflowId : String)
  | saveRun (run : WorkflowRun)
  | add (queue jobId : String) (job : BullMqJob)

abbrev ServiceStatement.Reply : ServiceStatement → Type
  | .getDefinition _ _ => Option WorkflowDefinition
  | .saveRun _ => Unit
  | .add _ _ _ => String

structure ServiceState where
  definitions : String → String → Option WorkflowDefinition
  runs : List WorkflowRun
  jobs : BullMqJobs

def executeService : (statement : ServiceStatement) → ServiceState →
    statement.Reply × ServiceState
  | .getDefinition tenantId workflowId, state =>
      (state.definitions tenantId workflowId, state)
  | .saveRun run, state => ((), { state with runs := state.runs ++ [run] })
  | .add queue jobId job, state =>
      (jobId, { state with jobs := addJob state.jobs queue jobId job })

def serviceDatabase :
    Database ServiceState ServiceStatement ServiceStatement.Reply String where
  execute statement state := .ok (executeService statement state)
  disconnected := "connection lost"

abbrev ServiceProgram :=
  Program ServiceStatement ServiceStatement.Reply String

abbrev awaitService (statement : ServiceStatement) : ServiceProgram statement.Reply :=
  Program.call statement

/-! ## Queues -/

/-- Where job ids come from.  The digest is injective, and a random id is neither
drawn twice nor a digest. -/
structure JobIds where
  sha256 : String → String
  randomUUID : Nat → String
  sha256_injective : Function.Injective sha256
  randomUUID_injective : Function.Injective randomUUID
  randomUUID_ne : ∀ draw key, randomUUID draw ≠ "idem-" ++ sha256 key

/-- The digest of `order-1`. -/
def orderDigest : String :=
  "0bafe22156d2698c143b86040446d366ead863ba600d5c924f3d15c786ef4057"

theorem orderDigest_ne (key : String) : orderDigest ≠ "digest of " ++ key := by
  intro same
  have sameHead := congrArg (fun text => text.toList.head?) same
  simp [orderDigest, String.toList_append] at sameHead

/-- Ids with the digest of one key. -/
def orderIds : JobIds where
  sha256 key := if key = "order-1" then orderDigest else "digest of " ++ key
  randomUUID draw := String.ofList (List.replicate draw '0')
  sha256_injective := by
    intro first second same
    by_cases isFirst : first = "order-1"
    · by_cases isSecond : second = "order-1"
      · exact isFirst.trans isSecond.symm
      · simp only [if_pos isFirst, if_neg isSecond] at same
        exact absurd same (orderDigest_ne second)
    · by_cases isSecond : second = "order-1"
      · simp only [if_neg isFirst, if_pos isSecond] at same
        exact absurd same.symm (orderDigest_ne first)
      · simp only [if_neg isFirst, if_neg isSecond] at same
        exact (String.append_right_inj _).mp same
  randomUUID_injective := by
    intro first second same
    have sameLength := congrArg String.length same
    simpa using sameLength
  randomUUID_ne := by
    intro draw key same
    have sameHead := congrArg (fun text => text.toList.head?) same
    cases draw with
    | zero => simp [String.toList_append] at sameHead
    | succ draw => simp [String.toList_append, List.replicate_succ] at sameHead

/-- The id of a job: random without an idempotency key. -/
def stableJobId (ids : JobIds) (idempotencyKey : Option String) (draw : Nat) : String :=
  match idempotencyKey with
  | some key => if key = "" then ids.randomUUID draw else "idem-" ++ ids.sha256 key
  | none => ids.randomUUID draw

/-- `enqueue` of a `JobQueuePort`. -/
abbrev JobQueuePort :=
  String → JobPayload → JobOptions → ServiceProgram String

def BullMqJobQueueAdapter (ids : JobIds) (draw : Nat) : JobQueuePort :=
  fun queue payload options =>
    if queue = "" then
      throw "QUEUE_NAME_REQUIRED"
    else
      awaitService
        (.add queue (stableJobId ids options.idempotencyKey draw)
          { name := queue
            data := payload
            delay := max 0 (options.delayMs.getD 0)
            attempts := max 1 (options.maxAttempts.getD 5) })

def tenantQueueEnvelope (ctx : TenantScope) (payload : JobPayload) : JobPayload :=
  .envelope ctx.tenantId ctx.workspaceId payload

/-- The key that `TenantScopedJobQueue` passes on. -/
def scopedIdempotencyKey (ctx : TenantScope) : Option String → Option String
  | some key => if key = "" then none else some (tenantKey ctx ["job-idempotency", key])
  | none => none

def TenantScopedJobQueue (delegate : JobQueuePort) (ctx : TenantScope) : JobQueuePort :=
  fun queue payload options =>
    delegate queue (tenantQueueEnvelope ctx payload)
      { options with idempotencyKey := scopedIdempotencyKey ctx options.idempotencyKey }

/-! ## Services -/

/-- `requirePermission` for a permission alone. -/
def requirePermission (context : TenantContext) (permission : String) : Except String Unit :=
  throwIf (permission ∉ context.permissions ∧ "*" ∉ context.permissions) "FORBIDDEN"

/-- `!text.trim()`. -/
def isBlank (text : String) : Bool :=
  PolicyEngine.trim text.toList = []

/-- The checks of `queueDelivery`. -/
def checkNotification (context : TenantContext) (request : NotificationRequest) :
    Except String Unit := do
  requirePermission context "notification:send"
  throwIf
    (isBlank request.destination ∨ isBlank request.template ∨ request.correlationId = "" ∨
      request.idempotencyKey = "")
    "INVALID_NOTIFICATION_REQUEST"
  throwIf (100 < request.templateVariables.length) "NOTIFICATION_VARIABLE_LIMIT_EXCEEDED"

def NotificationService.queueDelivery (queue : JobQueuePort) (context : TenantContext)
    (request : NotificationRequest) : ServiceProgram String := do
  Program.check (checkNotification context request)
  queue "notifications"
    (.notification context.tenantId context.workspaceId request.channel request.destination
      request.template request.templateVariables)
    { idempotencyKey := some request.idempotencyKey
      delayMs := none
      maxAttempts := some 5
      correlationId := some request.correlationId }

structure StartInput where
  workflowId : String
  correlationId : String
  payload : JsObject
  idempotencyKey : String

/-- The checks of `start` on what the repository returns. -/
def checkDefinition (context : TenantContext) (definition : Option WorkflowDefinition) :
    Except String WorkflowDefinition := do
  match definition with
  | none => throw "WORKFLOW_UNAVAILABLE"
  | some definition =>
      throwIf (!definition.enabled) "WORKFLOW_UNAVAILABLE"
      let given (value : Option String) := value.getD "" ≠ ""
      throwIf
        (given context.workspaceId ∧ given definition.workspaceId ∧
          definition.workspaceId ≠ context.workspaceId)
        "CROSS_WORKSPACE_ACCESS_DENIED"
      return definition

/-- The run that `start` saves. -/
def newRun (context : TenantContext) (input : StartInput) (definition : WorkflowDefinition)
    (runId createdAt : String) : WorkflowRun where
  runId := runId
  workflowId := definition.workflowId
  tenantId := context.tenantId
  workspaceId := context.workspaceId
  state := .queued
  correlationId := input.correlationId
  createdAt := createdAt

def runPayload (input : StartInput) (definition : WorkflowDefinition) (run : WorkflowRun) :
    JobPayload :=
  .workflowRun run.runId run.workflowId definition.version run.tenantId run.workspaceId
    input.payload

def runOptions (input : StartInput) : JobOptions where
  idempotencyKey := some input.idempotencyKey
  delayMs := none
  maxAttempts := some 5
  correlationId := some input.correlationId

/-- `start`, with the run id it draws and the time of the call. -/
def WorkflowService.start (queue : JobQueuePort) (context : TenantContext) (input : StartInput)
    (runId createdAt : String) : ServiceProgram WorkflowRun := do
  Program.check (requirePermission context "workflow:execute")
  let found ← awaitService (.getDefinition context.tenantId input.workflowId)
  let definition ← Program.check (checkDefinition context found)
  let run := newRun context input definition runId createdAt
  awaitService (.saveRun run)
  let _jobId ← queue "workflow-runs" (runPayload input definition run) (runOptions input)
  return run

/-! ## A caller's queue -/

/-- The queue that a service of a tenant holds: the adapter itself, or the
adapter behind the wrapper of the tenant. -/
structure TenantQueue where
  isScoped : Bool
  draw : Nat

namespace TenantQueue

variable (queue : TenantQueue) (ids : JobIds) (ctx : TenantScope)

def port : JobQueuePort :=
  if queue.isScoped then TenantScopedJobQueue (BullMqJobQueueAdapter ids queue.draw) ctx
  else BullMqJobQueueAdapter ids queue.draw

/-- The key that reaches the adapter. -/
def key (idempotencyKey : Option String) : Option String :=
  if queue.isScoped then scopedIdempotencyKey ctx idempotencyKey else idempotencyKey

def envelope (payload : JobPayload) : JobPayload :=
  if queue.isScoped then tenantQueueEnvelope ctx payload else payload

/-- A job goes to the named queue under the id made from the key that reaches
the adapter. -/
theorem port_eq {name : String} (named : name ≠ "") (payload : JobPayload)
    (options : JobOptions) :
    queue.port ids ctx name payload options =
      awaitService
        (.add name (stableJobId ids (queue.key ctx options.idempotencyKey) queue.draw)
          { name
            data := queue.envelope ctx payload
            delay := max 0 (options.delayMs.getD 0)
            attempts := max 1 (options.maxAttempts.getD 5) }) := by
  unfold port key envelope TenantScopedJobQueue BullMqJobQueueAdapter
  cases queue.isScoped with
  | true =>
      simp only [if_true, if_neg named]
      rfl
  | false =>
      simp only [Bool.false_eq_true, if_false, if_neg named]
      rfl

theorem tenantId_envelope (payload : JobPayload) (own : payload.tenantId = ctx.tenantId) :
    (queue.envelope ctx payload).tenantId = ctx.tenantId := by
  unfold envelope
  split
  · rfl
  · exact own

theorem runId_envelope (payload : JobPayload) :
    (queue.envelope ctx payload).runId = payload.runId := by
  unfold envelope
  split
  · rfl
  · rfl

end TenantQueue

section Start

variable (queue : TenantQueue) (ids : JobIds) (context : TenantContext) (input : StartInput)
  (runId createdAt : String)

/-- The job of a run. -/
def runJob (definition : WorkflowDefinition) : BullMqJob where
  name := "workflow-runs"
  data := queue.envelope context.toTenantScope
    (runPayload input definition (newRun context input definition runId createdAt))
  delay := 0
  attempts := 5

/-- What is left of `start` once the definition is there. -/
def saveAndEnqueue (definition : WorkflowDefinition) : ServiceProgram WorkflowRun :=
  Program.branch (.saveRun (newRun context input definition runId createdAt))
    (fun _ =>
      Program.branch
        (.add "workflow-runs"
          (stableJobId ids (queue.key context.toTenantScope (some input.idempotencyKey))
            queue.draw)
          (runJob queue context input runId createdAt definition))
        (fun _ => Program.done (newRun context input definition runId createdAt))
        Program.fail)
    Program.fail

theorem start_eq :
    WorkflowService.start (queue.port ids context.toTenantScope) context input runId createdAt =
      Program.check (requirePermission context "workflow:execute") >>= fun _ =>
        Program.branch (.getDefinition context.tenantId input.workflowId)
          (fun found =>
            Program.check (checkDefinition context found) >>=
              saveAndEnqueue queue ids context input runId createdAt)
          Program.fail := by
  unfold WorkflowService.start
  congr 1
  funext _passed
  rw [Program.call_bind]
  congr 1
  funext found
  congr 1
  funext definition
  unfold saveAndEnqueue
  rw [Program.call_bind]
  congr 1
  funext _saved
  rw [TenantQueue.port_eq _ _ _ (by decide), Program.call_bind]
  rfl

variable {queue ids context input runId createdAt} {passed : Unit} {deliveries : List Delivery}
  {state : ServiceState} {definition : WorkflowDefinition}

/-- A definition that fails its checks ends the call before it writes. -/
theorem run_start_rejected {error : String}
    (permitted : requirePermission context "workflow:execute" = .ok passed)
    (answered : deliveries.headD .answered = .answered)
    (rejected : checkDefinition context
      (state.definitions context.tenantId input.workflowId) = .error error) :
    (WorkflowService.start (queue.port ids context.toTenantScope) context input runId
        createdAt).run serviceDatabase deliveries state = (.error error, state) := by
  rw [start_eq, permitted]
  simp only [Program.check_ok, Program.done_bind, Program.branch, Program.run, Database.attempt,
    serviceDatabase, executeService, answered, rejected, Program.check_error, Program.fail_bind]

theorem run_start_found
    (permitted : requirePermission context "workflow:execute" = .ok passed)
    (answered : deliveries.headD .answered = .answered)
    (found : checkDefinition context
      (state.definitions context.tenantId input.workflowId) = .ok definition) :
    (WorkflowService.start (queue.port ids context.toTenantScope) context input runId
        createdAt).run serviceDatabase deliveries state =
      (saveAndEnqueue queue ids context input runId createdAt definition).run serviceDatabase
        deliveries.tail state := by
  rw [start_eq, permitted]
  simp only [Program.check_ok, Program.done_bind, Program.branch, Program.run, Database.attempt,
    serviceDatabase, executeService, answered, found]

theorem run_saveAndEnqueue_refused (refused : deliveries.headD .answered = .refused) :
    (saveAndEnqueue queue ids context input runId createdAt definition).run serviceDatabase
      deliveries state = (.error "connection lost", state) := by
  simp only [saveAndEnqueue, Program.branch, Program.run, Database.attempt, serviceDatabase,
    refused]

/-- A job that reaches the queue is added, also when the caller does not learn
of it. -/
theorem run_saveAndEnqueue_delivered (saved : deliveries.headD .answered = .answered)
    (delivered : deliveries.tail.headD .answered ≠ .refused) :
    (saveAndEnqueue queue ids context input runId createdAt definition).run serviceDatabase
        deliveries state =
      (if deliveries.tail.headD .answered = .answered then
          .ok (newRun context input definition runId createdAt)
        else .error "connection lost",
        { definitions := state.definitions
          runs := state.runs ++ [newRun context input definition runId createdAt]
          jobs := addJob state.jobs "workflow-runs"
            (stableJobId ids (queue.key context.toTenantScope (some input.idempotencyKey))
              queue.draw)
            (runJob queue context input runId createdAt definition) }) := by
  simp only [saveAndEnqueue, Program.branch, Program.run, Database.attempt, serviceDatabase,
    executeService, saved]
  cases added : deliveries.tail.headD .answered with
  | refused => exact absurd added delivered
  | answered => rfl
  | unacknowledged => rfl

end Start

/-! ## Adding a job -/

section AddJob

variable {jobs : BullMqJobs} {queue jobId otherQueue otherId : String} {job : BullMqJob}

theorem addJob_of_held {held : BullMqJob} (isHeld : jobs queue jobId = some held) :
    addJob jobs queue jobId job = jobs := by
  unfold addJob
  rw [isHeld]

theorem addJob_of_absent (absent : jobs queue jobId = none) :
    addJob jobs queue jobId job otherQueue otherId =
      if otherQueue = queue ∧ otherId = jobId then some job else jobs otherQueue otherId := by
  unfold addJob
  rw [absent]

theorem addJob_self_of_absent (absent : jobs queue jobId = none) :
    addJob jobs queue jobId job queue jobId = some job := by
  rw [addJob_of_absent absent]
  exact if_pos ⟨rfl, rfl⟩

/-- Jobs stay in their queue. -/
theorem addJob_keeps {held : BullMqJob} (isHeld : jobs otherQueue otherId = some held) :
    addJob jobs queue jobId job otherQueue otherId = some held := by
  cases found : jobs queue jobId with
  | some other =>
      rw [addJob_of_held found]
      exact isHeld
  | none =>
      have different : ¬ (otherQueue = queue ∧ otherId = jobId) := by
        intro same
        rw [same.1, same.2, found] at isHeld
        cases isHeld
      rw [addJob_of_absent found, if_neg different]
      exact isHeld

/-- A job of a queue after an addition was there before, or is the added one. -/
theorem addJob_cases {found : BullMqJob}
    (isFound : addJob jobs queue jobId job otherQueue otherId = some found) :
    jobs otherQueue otherId = some found ∨
      (otherQueue = queue ∧ otherId = jobId ∧ found = job) := by
  cases held : jobs queue jobId with
  | some other =>
      rw [addJob_of_held held] at isFound
      exact Or.inl isFound
  | none =>
      rw [addJob_of_absent held] at isFound
      split at isFound
      · next same => exact Or.inr ⟨same.1, same.2, (Option.some.inj isFound).symm⟩
      · exact Or.inl isFound

end AddJob

end PlatformArchitecture.Services
