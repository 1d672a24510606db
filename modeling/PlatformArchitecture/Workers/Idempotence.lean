import PlatformArchitecture.Workers.Lifecycle

/-!
# Completing a job once

The lookup, the handler and the record are three steps, and other deliveries of
the same job come in between.  The handler completes once for each tenant and
key in the schedules in which a delivery that finds no record finds no other
delivery of its job under way either, nor one whose record was refused.
-/

namespace PlatformArchitecture.Workers

open PlatformArchitecture.Foundations

section Idempotence

variable {Runner Payload Pid : Type}

/-- Runners that all have the idempotency port. -/
structure IdempotentFleet (Runner : Type) extends Fleet Runner where
  idempotency : ∀ runner, (hooks runner).idempotency = true

/-- A delivery of a job to a runner. -/
structure JobDelivery (Runner Payload : Type) where
  runner : Runner
  random : Random
  job : JobEnvelope Payload

def JobDelivery.call (delivery : JobDelivery Runner Payload) : WorkerCall Runner Payload :=
  .run delivery.runner delivery.random delivery.job

/-- What a job is completed once for. -/
def JobDelivery.identity (delivery : JobDelivery Runner Payload) : String × String :=
  (delivery.job.tenantId, delivery.job.idempotencyKey)

def WorkerAnswer.Completes : WorkerAnswer → Prop
  | .job result => result.state = .completed
  | .stopRequested | .shutDown => False

/-- The handler completed at most once for each tenant and key, and no delivery
was answered as completed without that. -/
structure HandledOnce (deliveries : Pid → JobDelivery Runner Payload)
    (world : WorkerWorld Runner Payload Pid) : Prop where
  once : (world.shared.completed.map fun pid => (deliveries pid).identity).Nodup
  ownJob : ∀ pid answer, world.returned pid = some answer → answer.Completes →
    ∃ other ∈ world.shared.completed,
      (deliveries other).identity = (deliveries pid).identity

/-- Jobs with one record key are of one tenant. -/
def SeparateTenants (deliveries : Pid → JobDelivery Runner Payload) : Prop :=
  ∀ pid other, (deliveries pid).job.idemKey = (deliveries other).job.idemKey →
    (deliveries pid).job.tenantId = (deliveries other).job.tenantId

/-! ## Deliveries under way -/

/-- The handler or the record is next. -/
def atHandler (program : WorkerProgram Runner Payload WorkerAnswer) : Bool :=
  match program with
  | .perform (.handle _) _ | .perform (.putIfAbsent _ _ _) _ => true
  | _ => false

def underWay (world : WorkerWorld Runner Payload Pid) (pid : Pid) : Bool :=
  match world.programs pid with
  | some program => atHandler program
  | none => false

/-- The record that a program looks up next. -/
def lookupOf (program : WorkerProgram Runner Payload WorkerAnswer) : Option String :=
  match program with
  | .perform (.get idemKey) _ => some idemKey
  | _ => none

def nextLookup (world : WorkerWorld Runner Payload Pid) (pid : Pid) : Option String :=
  (world.programs pid).bind lookupOf

/-- A delivery that finds no record of its job finds no other delivery of it
under way, and none whose record was refused. -/
def FindsJobAlone (deliveries : Pid → JobDelivery Runner Payload)
    (world : WorkerWorld Runner Payload Pid) (next : Pid × WorkerChoice) : Prop :=
  ∀ idemKey ∈ nextLookup world next.1, next.2 = .succeeds →
    world.shared.records idemKey = none →
      ∀ other, other ≠ next.1 →
        (deliveries other).identity = (deliveries next.1).identity →
          underWay world other = false ∧ other ∉ world.shared.unrecorded

instance [Fintype Pid] [DecidableEq Pid] (deliveries : Pid → JobDelivery Runner Payload)
    (world : WorkerWorld Runner Payload Pid) (next : Pid × WorkerChoice) :
    Decidable (FindsJobAlone deliveries world next) :=
  inferInstanceAs (Decidable (∀ idemKey ∈ nextLookup world next.1, _))

/-! ## The points of a delivery -/

/-- The rest of the `try` block after the handler. -/
def afterHandler (hooks : WorkerHooks) (job : JobEnvelope Payload) :
    WorkerProgram Runner Payload JobResult :=
  Program.branch
    (.putIfAbsent job.idemKey job.jobId (hooks.idempotencyTtlSeconds.getD (.finite 86400)))
    (fun _ => Program.done ⟨.completed, job.attempt, none⟩) Program.fail

/-- The rest of the `try` block after a lookup that found nothing. -/
def afterLookup (hooks : WorkerHooks) (job : JobEnvelope Payload) :
    WorkerProgram Runner Payload JobResult :=
  Program.branch (.handle job) (fun _ => afterHandler hooks job) Program.fail

theorem complete_eq {hooks : WorkerHooks} (idempotency : hooks.idempotency = true)
    (job : JobEnvelope Payload) :
    (hooks.complete job : WorkerProgram Runner Payload JobResult) =
      Program.branch (.get job.idemKey)
        (fun found =>
          if found.isSome then Program.done ⟨.completed, job.attempt, none⟩
          else afterLookup hooks job)
        Program.fail := by
  have looksUp : (hooks.alreadyCompleted job : WorkerProgram Runner Payload Bool) =
      Program.branch (.get job.idemKey) (fun found => Program.done found.isSome)
        Program.fail := by
    unfold WorkerHooks.alreadyCompleted
    rw [if_pos idempotency]
    exact Program.call_bind _ _
  have records : (hooks.recordCompletion job : WorkerProgram Runner Payload Unit) =
      Program.branch
        (.putIfAbsent job.idemKey job.jobId (hooks.idempotencyTtlSeconds.getD (.finite 86400)))
        (fun _ => Program.done ()) Program.fail := by
    unfold WorkerHooks.recordCompletion
    rw [if_pos idempotency]
    exact Program.call_bind _ _
  unfold WorkerHooks.complete
  rw [looksUp, Program.branch_bind]
  congr 1
  funext found
  rw [Program.done_bind]
  by_cases completed : found.isSome = true
  · rw [if_pos completed, if_pos completed]
    rfl
  · rw [if_neg completed, if_neg completed, Program.call_bind, records]
    unfold afterLookup
    congr 1
    funext handled
    rw [Program.branch_bind]
    rfl

/-- The `try` block with its `catch` block. -/
def recovering (fleet : Fleet Runner) (delivery : JobDelivery Runner Payload)
    (rest : WorkerProgram Runner Payload JobResult) :
    WorkerProgram Runner Payload WorkerAnswer :=
  working delivery.runner
    (rest.orElse
      ((fleet.hooks delivery.runner).handleFailure fleet.arithmetic delivery.random delivery.job))

/-- The statements outside lookup, handler and record. -/
def WorkerStatement.Quiet : WorkerStatement Runner Payload → Prop
  | .get _ | .handle _ | .putIfAbsent _ _ _ => False
  | .accept _ | .onRetry _ _ | .onDeadLetter _ _ | .release _ | .requestStop _
  | .awaitIdle _ => True

/-- The job of a delivery has been completed. -/
def CompletedJob (deliveries : Pid → JobDelivery Runner Payload)
    (state : WorkerState Runner Pid) (pid : Pid) : Prop :=
  ∃ other ∈ state.completed, (deliveries other).identity = (deliveries pid).identity

inductive DeliveryPoint (fleet : Fleet Runner)
    (deliveries : Pid → JobDelivery Runner Payload) (pid : Pid)
    (state : WorkerState Runner Pid) :
    WorkerProgram Runner Payload WorkerAnswer → Prop
  | starting (fresh : pid ∉ state.completed) :
      DeliveryPoint fleet deliveries pid state ((deliveries pid).call.program fleet)
  | lookingUp (fresh : pid ∉ state.completed) :
      DeliveryPoint fleet deliveries pid state
        (recovering fleet (deliveries pid)
          ((fleet.hooks (deliveries pid).runner).complete (deliveries pid).job))
  | handling (fresh : pid ∉ state.completed) :
      DeliveryPoint fleet deliveries pid state
        (recovering fleet (deliveries pid)
          (afterLookup (fleet.hooks (deliveries pid).runner) (deliveries pid).job))
  | recording (mine : pid ∈ state.completed) :
      DeliveryPoint fleet deliveries pid state
        (recovering fleet (deliveries pid)
          (afterHandler (fleet.hooks (deliveries pid).runner) (deliveries pid).job))
  | settling {program : WorkerProgram Runner Payload WorkerAnswer}
      (issues : program.Issues WorkerStatement.Quiet)
      (returns : program.Returns fun answer =>
        answer.Completes → CompletedJob deliveries state pid) :
      DeliveryPoint fleet deliveries pid state program

section Points

variable {fleet : Fleet Runner} {deliveries : Pid → JobDelivery Runner Payload} {pid : Pid}
  {state : WorkerState Runner Pid}

theorem atHandler_of_quiet {program : WorkerProgram Runner Payload WorkerAnswer}
    (issues : program.Issues WorkerStatement.Quiet) : atHandler program = false := by
  cases program with
  | done result | fail error => rfl
  | perform statement next =>
      have quiet := issues.1
      cases statement with
      | get | handle | putIfAbsent => cases quiet
      | accept | onRetry | onDeadLetter | release | requestStop | awaitIdle => rfl

theorem working_quiet {runner : Runner} {rest : WorkerProgram Runner Payload JobResult}
    (issues : rest.Issues WorkerStatement.Quiet) :
    (working runner rest).Issues WorkerStatement.Quiet :=
  Program.issues_bind (fun _ => by trivial)
    (Program.issues_finallyDo (Program.issues_call (by trivial)) issues)

/-- What follows the `try` block is settling, when its result is right. -/
theorem settling_working {rest : WorkerProgram Runner Payload JobResult}
    (issues : rest.Issues WorkerStatement.Quiet)
    (returns : rest.Returns fun result =>
      result.state = .completed → CompletedJob deliveries state pid) :
    DeliveryPoint fleet deliveries pid state (working (deliveries pid).runner rest) := by
  apply DeliveryPoint.settling (working_quiet issues)
  refine Program.returns_bind ?_ (Program.returns_finallyDo _ returns)
  intro result allowed completes
  exact allowed completes

theorem handleFailure_quiet {hooks : WorkerHooks} {arithmetic : Arithmetic} {random : Random}
    {job : JobEnvelope Payload} (error : Thrown) :
    (hooks.handleFailure arithmetic random job error :
      WorkerProgram Runner Payload JobResult).Issues WorkerStatement.Quiet :=
  WorkerHooks.handleFailure_issues (fun _ _ => by trivial) fun _ _ => by trivial

/-- A failure is never answered as completed. -/
theorem settling_failed (error : Thrown) :
    DeliveryPoint fleet deliveries pid state
      (recovering fleet (deliveries pid) (Program.fail error)) := by
  apply settling_working (handleFailure_quiet error)
  refine Program.returns_bind ?_ (Program.returns_true _)
  intro _ _ completed
  dsimp only at completed
  split at completed <;> cases completed

theorem settling_completed {attempt : JsNumber} {errorCode : Option String}
    (completed : CompletedJob deliveries state pid) :
    DeliveryPoint fleet deliveries pid state
      (recovering fleet (deliveries pid) (Program.done ⟨.completed, attempt, errorCode⟩)) := by
  apply settling_working
  · trivial
  · intro _
    exact completed

theorem atHandler_failed (delivery : JobDelivery Runner Payload) (error : Thrown) :
    atHandler (recovering fleet delivery (Program.fail error)) = false :=
  atHandler_of_quiet (working_quiet (handleFailure_quiet error))

theorem atHandler_complete {delivery : JobDelivery Runner Payload}
    (idempotency : (fleet.hooks delivery.runner).idempotency = true) :
    atHandler (recovering fleet delivery
      ((fleet.hooks delivery.runner).complete delivery.job)) = false := by
  rw [complete_eq idempotency]
  rfl

variable [DecidableEq Runner] [DecidableEq Pid]

/-- What a statement of a delivery can do. -/
inductive DeliveryStep (deliveries : Pid → JobDelivery Runner Payload) (pid : Pid)
    (choice : WorkerChoice) (before after : WorkerState Runner Pid)
    (current rest : WorkerProgram Runner Payload WorkerAnswer) : Prop
  | quiet (records : after.records = before.records)
      (completed : after.completed = before.completed)
      (unrecorded : after.unrecorded = before.unrecorded)
      (settled : atHandler current = true → pid ∉ before.completed)
      (rests : atHandler rest = false)
  | foundNothing (unchanged : after = before)
      (looksUp : lookupOf current = some (deliveries pid).job.idemKey)
      (succeeds : choice = .succeeds)
      (noRecord : before.records (deliveries pid).job.idemKey = none)
      (fresh : pid ∉ before.completed)
      (handles : atHandler rest = true)
  | handled (completed : after = { before with completed := before.completed ++ [pid] })
      (wasHandling : atHandler current = true)
      (fresh : pid ∉ before.completed)
      (records : atHandler rest = true)
  | recorded (mine : pid ∈ before.completed)
      (stored : after = before.putIfAbsent (deliveries pid).job.idemKey (deliveries pid).job.jobId)
      (rests : atHandler rest = false)
  | refused (mine : pid ∈ before.completed)
      (stored : after = { before with unrecorded := before.unrecorded ++ [pid] })
      (rests : atHandler rest = false)

section Statements

variable {choice : WorkerChoice} {after : WorkerState Runner Pid}
  {statement : WorkerStatement Runner Payload}
  {next : Except Thrown (statement.Reply Runner Payload) →
    WorkerProgram Runner Payload WorkerAnswer}
  {reply : Except Thrown (statement.Reply Runner Payload)}

theorem quiet_frame (quiet : statement.Quiet)
    (outcome : workerOutcome fleet pid choice statement state = some (reply, after)) :
    after.records = state.records ∧ after.completed = state.completed ∧
      after.unrecorded = state.unrecorded := by
  cases statement with
  | get | handle | putIfAbsent => cases quiet
  | onRetry | onDeadLetter | release | requestStop =>
      cases outcome
      exact ⟨rfl, rfl, rfl⟩
  | accept runner =>
      by_cases room : state.canAccept fleet runner = true
      · simp only [workerOutcome, if_pos room] at outcome
        cases outcome
        exact ⟨rfl, rfl, rfl⟩
      · simp only [workerOutcome, if_neg room] at outcome
        cases outcome
        exact ⟨rfl, rfl, rfl⟩
  | awaitIdle runner =>
      by_cases idle : (state.runners runner).active = 0
      · simp only [workerOutcome, if_pos idle] at outcome
        cases outcome
        exact ⟨rfl, rfl, rfl⟩
      · cases choice <;> simp only [workerOutcome, if_neg idle] at outcome <;> cases outcome <;>
          exact ⟨rfl, rfl, rfl⟩

theorem starting_step
    (idempotency : (fleet.hooks (deliveries pid).runner).idempotency = true)
    (fresh : pid ∉ state.completed)
    (current : (deliveries pid).call.program fleet = .perform statement next)
    (outcome : workerOutcome fleet pid choice statement state = some (reply, after)) :
    DeliveryStep deliveries pid choice state after (.perform statement next) (next reply) ∧
      DeliveryPoint fleet deliveries pid after (next reply) := by
  unfold JobDelivery.call at current
  cases current
  obtain ⟨records, completed, unrecorded⟩ := quiet_frame (by trivial) outcome
  have stillFresh : pid ∉ after.completed := by
    rw [completed]
    exact fresh
  cases reply with
  | ok accepted =>
      exact ⟨.quiet records completed unrecorded (fun _ => fresh)
        (atHandler_complete idempotency), .lookingUp stillFresh⟩
  | error error =>
      refine ⟨.quiet records completed unrecorded (fun _ => fresh) rfl, .settling trivial ?_⟩
      trivial

/-- A lookup; `known` says that a record that is found is one of the job. -/
theorem lookingUp_step
    (idempotency : (fleet.hooks (deliveries pid).runner).idempotency = true)
    (known : state.records (deliveries pid).job.idemKey ≠ none →
      CompletedJob deliveries state pid)
    (fresh : pid ∉ state.completed)
    (current : recovering fleet (deliveries pid)
      ((fleet.hooks (deliveries pid).runner).complete (deliveries pid).job) =
        .perform statement next)
    (outcome : workerOutcome fleet pid choice statement state = some (reply, after)) :
    DeliveryStep deliveries pid choice state after (.perform statement next) (next reply) ∧
      DeliveryPoint fleet deliveries pid after (next reply) := by
  rw [complete_eq idempotency] at current
  cases current
  cases choice with
  | fails error | losesAnswer error =>
      cases outcome
      have point := @settling_failed _ _ _ fleet deliveries pid state error
      exact ⟨.quiet rfl rfl rfl (fun _ => fresh) (atHandler_failed _ error), point⟩
  | succeeds =>
      cases outcome
      cases found : state.records (deliveries pid).job.idemKey with
      | some jobId =>
          have completed : CompletedJob deliveries state pid :=
            known (by rw [found]; exact Option.some_ne_none jobId)
          exact ⟨.quiet rfl rfl rfl (fun _ => fresh) rfl, settling_completed completed⟩
      | none => exact ⟨.foundNothing rfl rfl rfl found fresh rfl, .handling fresh⟩

theorem handling_step (fresh : pid ∉ state.completed)
    (current : recovering fleet (deliveries pid)
      (afterLookup (fleet.hooks (deliveries pid).runner) (deliveries pid).job) =
        .perform statement next)
    (outcome : workerOutcome fleet pid choice statement state = some (reply, after)) :
    DeliveryStep deliveries pid choice state after (.perform statement next) (next reply) ∧
      DeliveryPoint fleet deliveries pid after (next reply) := by
  cases current
  cases choice with
  | fails error | losesAnswer error =>
      cases outcome
      have point := @settling_failed _ _ _ fleet deliveries pid state error
      exact ⟨.quiet rfl rfl rfl (fun _ => fresh) (atHandler_failed _ error), point⟩
  | succeeds =>
      cases outcome
      refine ⟨.handled rfl rfl fresh rfl, .recording ?_⟩
      exact List.mem_append_right _ (List.mem_singleton_self pid)

theorem recording_step (mine : pid ∈ state.completed)
    (current : recovering fleet (deliveries pid)
      (afterHandler (fleet.hooks (deliveries pid).runner) (deliveries pid).job) =
        .perform statement next)
    (outcome : workerOutcome fleet pid choice statement state = some (reply, after)) :
    DeliveryStep deliveries pid choice state after (.perform statement next) (next reply) ∧
      DeliveryPoint fleet deliveries pid after (next reply) := by
  cases current
  cases choice with
  | succeeds =>
      cases outcome
      refine ⟨.recorded mine rfl rfl, settling_completed ⟨pid, ?_, rfl⟩⟩
      rw [(WorkerState.putIfAbsent_completed _ _).1]
      exact mine
  | fails error =>
      cases outcome
      exact ⟨.refused mine rfl (atHandler_failed _ error), settling_failed error⟩
  | losesAnswer error =>
      cases outcome
      exact ⟨.recorded mine rfl (atHandler_failed _ error), settling_failed error⟩

theorem settling_step {program : WorkerProgram Runner Payload WorkerAnswer}
    (issues : program.Issues WorkerStatement.Quiet)
    (returns : program.Returns fun answer =>
      answer.Completes → CompletedJob deliveries state pid)
    (current : program = .perform statement next)
    (outcome : workerOutcome fleet pid choice statement state = some (reply, after)) :
    DeliveryStep deliveries pid choice state after (.perform statement next) (next reply) ∧
      DeliveryPoint fleet deliveries pid after (next reply) := by
  subst current
  obtain ⟨records, completed, unrecorded⟩ := quiet_frame issues.1 outcome
  have notHandling := atHandler_of_quiet issues
  refine ⟨.quiet records completed unrecorded ?_ (atHandler_of_quiet (issues.2 reply)),
    .settling (issues.2 reply) ?_⟩
  · intro handling
    rw [notHandling] at handling
    cases handling
  · apply Program.Returns.mono _ (returns reply)
    intro answer allowed completes
    obtain ⟨other, member, same⟩ := allowed completes
    refine ⟨other, ?_, same⟩
    rw [completed]
    exact member

end Statements

end Points

/-! ## The invariant -/

section Keys

variable {deliveries : Pid → JobDelivery Runner Payload} {pid other : Pid}

theorem idemKey_of_identity
    (same : (deliveries other).identity = (deliveries pid).identity) :
    (deliveries other).job.idemKey = (deliveries pid).job.idemKey := by
  obtain ⟨tenant, key⟩ := Prod.mk.inj same
  unfold JobEnvelope.idemKey
  rw [tenant, key]

theorem identity_of_idemKey (separate : SeparateTenants deliveries)
    (same : (deliveries other).job.idemKey = (deliveries pid).job.idemKey) :
    (deliveries other).identity = (deliveries pid).identity := by
  have tenant := separate other pid same
  unfold JobEnvelope.idemKey at same
  rw [tenant] at same
  have key := (String.append_right_inj _).mp same
  unfold JobDelivery.identity
  rw [tenant, key]

end Keys

/-- Deliveries of one job are never under way together, nor after it was
completed; a completed job has its record, unless the record was refused. -/
structure OnceSound (fleet : Fleet Runner) (deliveries : Pid → JobDelivery Runner Payload)
    (world : WorkerWorld Runner Payload Pid) : Prop where
  points : ∀ pid, ∃ program, world.programs pid = some program ∧
    DeliveryPoint fleet deliveries pid world.shared program
  once : (world.shared.completed.map fun pid => (deliveries pid).identity).Nodup
  recorded : ∀ idemKey, world.shared.records idemKey ≠ none →
    ∃ pid ∈ world.shared.completed, (deliveries pid).job.idemKey = idemKey
  accounted : ∀ pid ∈ world.shared.completed,
    world.shared.records (deliveries pid).job.idemKey ≠ none ∨
      pid ∈ world.shared.unrecorded ∨ underWay world pid = true
  alone : ∀ pid other, underWay world pid = true → underWay world other = true →
    (deliveries other).identity = (deliveries pid).identity → other = pid
  sole : ∀ pid, underWay world pid = true → ∀ other ∈ world.shared.completed,
    (deliveries other).identity = (deliveries pid).identity → other = pid

section Steps

variable {fleet : Fleet Runner} {deliveries : Pid → JobDelivery Runner Payload}
  {world : WorkerWorld Runner Payload Pid}

theorem OnceSound.start (fleet : Fleet Runner)
    (deliveries : Pid → JobDelivery Runner Payload) :
    OnceSound fleet deliveries
      (workerStart fleet (fun _ => none) fun pid => (deliveries pid).call) where
  points pid := ⟨_, rfl, .starting List.not_mem_nil⟩
  once := List.nodup_nil
  recorded idemKey found := absurd rfl found
  accounted pid completed := absurd completed List.not_mem_nil
  alone pid other handling := by
    cases handling
  sole pid handling := by
    cases handling

/-- The points of other deliveries only rely on completed jobs. -/
theorem DeliveryPoint.frame {pid : Pid} {before after : WorkerState Runner Pid}
    {program : WorkerProgram Runner Payload WorkerAnswer}
    (same : pid ∈ after.completed ↔ pid ∈ before.completed)
    (grows : ∀ other ∈ before.completed, other ∈ after.completed)
    (point : DeliveryPoint fleet deliveries pid before program) :
    DeliveryPoint fleet deliveries pid after program := by
  cases point with
  | starting fresh => exact .starting fun completed => fresh (same.mp completed)
  | lookingUp fresh => exact .lookingUp fun completed => fresh (same.mp completed)
  | handling fresh => exact .handling fun completed => fresh (same.mp completed)
  | recording mine => exact .recording (same.mpr mine)
  | settling issues returns =>
      refine .settling issues (Program.Returns.mono ?_ returns)
      intro answer allowed completes
      obtain ⟨other, member, ofJob⟩ := allowed completes
      exact ⟨other, grows other member, ofJob⟩

theorem OnceSound.completedJob {pid : Pid} (sound : OnceSound fleet deliveries world)
    (separate : SeparateTenants deliveries)
    (found : world.shared.records (deliveries pid).job.idemKey ≠ none) :
    CompletedJob deliveries world.shared pid := by
  obtain ⟨other, completed, sameKey⟩ := sound.recorded _ found
  exact ⟨other, completed, identity_of_idemKey separate sameKey⟩

variable [DecidableEq Pid]

theorem underWay_update {shared : WorkerState Runner Pid} {pid : Pid}
    {rest : WorkerProgram Runner Payload WorkerAnswer} (other : Pid) :
    underWay
        { shared, programs := Function.update world.programs pid (some rest) } other =
      if other = pid then atHandler rest else underWay world other := by
  unfold underWay
  by_cases same : other = pid
  · subst other
    simp
  · simp [same]

theorem underWay_rests {shared : WorkerState Runner Pid} {pid other : Pid}
    {rest : WorkerProgram Runner Payload WorkerAnswer} (rests : atHandler rest = false)
    (handling : underWay
      { shared, programs := Function.update world.programs pid (some rest) } other = true) :
    other ≠ pid ∧ underWay world other = true := by
  rw [underWay_update] at handling
  split at handling
  · rw [rests] at handling
    cases handling
  · next different => exact ⟨different, handling⟩

/-- A delivery that is no longer under way leaves the others alone. -/
theorem OnceSound.alone_rests {shared : WorkerState Runner Pid} {pid : Pid}
    {rest : WorkerProgram Runner Payload WorkerAnswer} (sound : OnceSound fleet deliveries world)
    (rests : atHandler rest = false) (first second : Pid)
    (handling : underWay
      { shared, programs := Function.update world.programs pid (some rest) } first = true)
    (alsoHandling : underWay
      { shared, programs := Function.update world.programs pid (some rest) } second = true)
    (sameJob : (deliveries second).identity = (deliveries first).identity) : second = first :=
  sound.alone first second (underWay_rests rests handling).2
    (underWay_rests rests alsoHandling).2 sameJob

theorem OnceSound.sole_rests {shared : WorkerState Runner Pid} {pid : Pid}
    {rest : WorkerProgram Runner Payload WorkerAnswer} (sound : OnceSound fleet deliveries world)
    (rests : atHandler rest = false) (completed : shared.completed = world.shared.completed)
    (first : Pid)
    (handling : underWay
      { shared, programs := Function.update world.programs pid (some rest) } first = true) :
    ∀ other ∈ shared.completed,
      (deliveries other).identity = (deliveries first).identity → other = first := by
  rw [completed]
  exact sound.sole first (underWay_rests rests handling).2

theorem OnceSound.points_update {pid : Pid} {shared : WorkerState Runner Pid}
    {rest : WorkerProgram Runner Payload WorkerAnswer}
    (sound : OnceSound fleet deliveries world)
    (own : DeliveryPoint fleet deliveries pid shared rest)
    (same : ∀ other, other ≠ pid →
      (other ∈ shared.completed ↔ other ∈ world.shared.completed))
    (grows : ∀ other ∈ world.shared.completed, other ∈ shared.completed) (other : Pid) :
    ∃ program, Function.update world.programs pid (some rest) other = some program ∧
      DeliveryPoint fleet deliveries other shared program := by
  by_cases self : other = pid
  · subst other
    exact ⟨rest, Function.update_self pid _ world.programs, own⟩
  · obtain ⟨program, current, point⟩ := sound.points other
    exact ⟨program, (Function.update_of_ne self _ world.programs).trans current,
      point.frame (same other self) grows⟩

section OneStatement

variable {pid : Pid} {shared : WorkerState Runner Pid}
  {rest : WorkerProgram Runner Payload WorkerAnswer}

/-- A delivery that is no longer under way, with nothing else changed. -/
theorem OnceSound.quiet (sound : OnceSound fleet deliveries world)
    (records : shared.records = world.shared.records)
    (completed : shared.completed = world.shared.completed)
    (unrecorded : shared.unrecorded = world.shared.unrecorded)
    (settled : underWay world pid = true → pid ∉ world.shared.completed)
    (rests : atHandler rest = false)
    (point : DeliveryPoint fleet deliveries pid shared rest) :
    OnceSound fleet deliveries
      { shared, programs := Function.update world.programs pid (some rest) } := by
  constructor
  · exact sound.points_update point (fun _ _ => by rw [completed]) fun _ member => by
      rw [completed]
      exact member
  · dsimp only
    rw [completed]
    exact sound.once
  · dsimp only
    rw [completed, records]
    exact sound.recorded
  · dsimp only
    rw [completed, records, unrecorded]
    intro other member
    rcases sound.accounted other member with stored | refused | handling
    · exact Or.inl stored
    · exact Or.inr (Or.inl refused)
    · have different : other ≠ pid := by
        rintro rfl
        exact settled handling member
      rw [underWay_update, if_neg different]
      exact Or.inr (Or.inr handling)
  · exact sound.alone_rests rests
  · exact sound.sole_rests rests completed

/-- A lookup that found nothing, when no other delivery of the job is under way
or was refused its record. -/
theorem OnceSound.foundNothing (sound : OnceSound fleet deliveries world)
    (alone : ∀ other, other ≠ pid →
      (deliveries other).identity = (deliveries pid).identity →
        underWay world other = false ∧ other ∉ world.shared.unrecorded)
    (noRecord : world.shared.records (deliveries pid).job.idemKey = none)
    (handles : atHandler rest = true)
    (point : DeliveryPoint fleet deliveries pid world.shared rest) :
    OnceSound fleet deliveries
      { shared := world.shared
        programs := Function.update world.programs pid (some rest) } := by
  have notHandling : ∀ other, other ≠ pid →
      (deliveries other).identity = (deliveries pid).identity →
        underWay world other = true → False := by
    intro other different same handling
    rw [(alone other different same).1] at handling
    cases handling
  constructor
  · exact sound.points_update point (fun _ _ => Iff.rfl) fun _ member => member
  · exact sound.once
  · exact sound.recorded
  · intro other member
    rw [underWay_update]
    rcases sound.accounted other member with stored | refused | handling
    · exact Or.inl stored
    · exact Or.inr (Or.inl refused)
    · right
      right
      split
      · exact handles
      · exact handling
  · intro first second handling alsoHandling same
    rw [underWay_update] at handling alsoHandling
    by_cases isFirst : first = pid
    · subst first
      by_contra different
      rw [if_neg different] at alsoHandling
      exact notHandling second different same alsoHandling
    · rw [if_neg isFirst] at handling
      by_cases isSecond : second = pid
      · subst second
        exact (notHandling first isFirst same.symm handling).elim
      · rw [if_neg isSecond] at alsoHandling
        exact sound.alone first second handling alsoHandling same
  · intro first handling other member same
    rw [underWay_update] at handling
    by_cases isFirst : first = pid
    · subst first
      by_contra different
      rcases sound.accounted other member with stored | refused | alsoHandling
      · rw [idemKey_of_identity same] at stored
        exact stored noRecord
      · exact (alone other different same).2 refused
      · exact notHandling other different same alsoHandling
    · rw [if_neg isFirst] at handling
      exact sound.sole first handling other member same

theorem OnceSound.handled (sound : OnceSound fleet deliveries world)
    (handling : underWay world pid = true) (fresh : pid ∉ world.shared.completed)
    (records : atHandler rest = true)
    (point : DeliveryPoint fleet deliveries pid
      { world.shared with completed := world.shared.completed ++ [pid] } rest) :
    OnceSound fleet deliveries
      { shared := { world.shared with completed := world.shared.completed ++ [pid] }
        programs := Function.update world.programs pid (some rest) } := by
  have same : ∀ other, underWay
      { shared := { world.shared with completed := world.shared.completed ++ [pid] }
        programs := Function.update world.programs pid (some rest) } other =
        underWay world other := by
    intro other
    rw [underWay_update]
    split
    · next self => rw [self, records, handling]
    · rfl
  constructor
  · refine sound.points_update point ?_ fun other member => List.mem_append_left _ member
    intro other different
    simp [different]
  · simp only [List.map_append, List.map_cons, List.map_nil]
    refine List.nodup_append.mpr ⟨sound.once, List.nodup_singleton _, ?_⟩
    intro first member second isOwn sameJob
    obtain ⟨other, completed, rfl⟩ := List.mem_map.mp member
    rw [List.mem_singleton.mp isOwn] at sameJob
    obtain rfl := sound.sole pid handling other completed sameJob
    exact fresh completed
  · intro idemKey found
    obtain ⟨other, member, sameKey⟩ := sound.recorded idemKey found
    exact ⟨other, List.mem_append_left _ member, sameKey⟩
  · intro other member
    rw [same]
    rcases List.mem_append.mp member with before | own
    · exact sound.accounted other before
    · rw [List.mem_singleton.mp own]
      exact Or.inr (Or.inr handling)
  · intro first second
    rw [same, same]
    exact sound.alone first second
  · intro first alsoHandling other member sameJob
    rw [same] at alsoHandling
    rcases List.mem_append.mp member with before | own
    · exact sound.sole first alsoHandling other before sameJob
    · rw [List.mem_singleton.mp own] at sameJob ⊢
      exact sound.alone first pid alsoHandling handling sameJob

theorem OnceSound.recordedJob (sound : OnceSound fleet deliveries world)
    (mine : pid ∈ world.shared.completed)
    (stored : shared =
      world.shared.putIfAbsent (deliveries pid).job.idemKey (deliveries pid).job.jobId)
    (rests : atHandler rest = false)
    (point : DeliveryPoint fleet deliveries pid shared rest) :
    OnceSound fleet deliveries
      { shared, programs := Function.update world.programs pid (some rest) } := by
  obtain ⟨completed, unrecorded⟩ :
      shared.completed = world.shared.completed ∧
        shared.unrecorded = world.shared.unrecorded := by
    rw [stored]
    exact WorkerState.putIfAbsent_completed _ _
  have absent : ∀ idemKey, shared.records idemKey = none ↔
      idemKey ≠ (deliveries pid).job.idemKey ∧ world.shared.records idemKey = none := by
    intro idemKey
    rw [stored]
    exact WorkerState.putIfAbsent_records _ _ idemKey
  constructor
  · exact sound.points_update point (fun _ _ => by rw [completed]) fun _ member => by
      rw [completed]
      exact member
  · dsimp only
    rw [completed]
    exact sound.once
  · intro idemKey found
    dsimp only at found ⊢
    rw [completed]
    by_cases own : idemKey = (deliveries pid).job.idemKey
    · exact ⟨pid, mine, own.symm⟩
    · exact sound.recorded idemKey fun before => found ((absent idemKey).mpr ⟨own, before⟩)
  · dsimp only
    rw [completed, unrecorded]
    intro other member
    by_cases self : other = pid
    · subst other
      exact Or.inl fun missing => ((absent _).mp missing).1 rfl
    · rcases sound.accounted other member with before | refused | handling
      · exact Or.inl fun missing => before ((absent _).mp missing).2
      · exact Or.inr (Or.inl refused)
      · rw [underWay_update, if_neg self]
        exact Or.inr (Or.inr handling)
  · exact sound.alone_rests rests
  · exact sound.sole_rests rests completed

theorem OnceSound.refused (sound : OnceSound fleet deliveries world)
    (rests : atHandler rest = false)
    (point : DeliveryPoint fleet deliveries pid
      { world.shared with unrecorded := world.shared.unrecorded ++ [pid] } rest) :
    OnceSound fleet deliveries
      { shared := { world.shared with unrecorded := world.shared.unrecorded ++ [pid] }
        programs := Function.update world.programs pid (some rest) } := by
  constructor
  · exact sound.points_update point (fun _ _ => Iff.rfl) fun _ member => member
  · exact sound.once
  · exact sound.recorded
  · intro other member
    by_cases self : other = pid
    · subst other
      exact Or.inr (Or.inl (List.mem_append_right _ (List.mem_singleton_self _)))
    · rw [underWay_update, if_neg self]
      rcases sound.accounted other member with stored | refused | handling
      · exact Or.inl stored
      · exact Or.inr (Or.inl (List.mem_append_left _ refused))
      · exact Or.inr (Or.inr handling)
  · exact sound.alone_rests rests
  · exact sound.sole_rests rests rfl

end OneStatement

variable [DecidableEq Runner]

theorem DeliveryPoint.step {pid : Pid} {choice : WorkerChoice}
    {state after : WorkerState Runner Pid} {statement : WorkerStatement Runner Payload}
    {next : Except Thrown (statement.Reply Runner Payload) →
      WorkerProgram Runner Payload WorkerAnswer}
    {reply : Except Thrown (statement.Reply Runner Payload)}
    {program : WorkerProgram Runner Payload WorkerAnswer}
    (idempotency : (fleet.hooks (deliveries pid).runner).idempotency = true)
    (known : state.records (deliveries pid).job.idemKey ≠ none →
      CompletedJob deliveries state pid)
    (point : DeliveryPoint fleet deliveries pid state program)
    (current : program = .perform statement next)
    (outcome : workerOutcome fleet pid choice statement state = some (reply, after)) :
    DeliveryStep deliveries pid choice state after (.perform statement next) (next reply) ∧
      DeliveryPoint fleet deliveries pid after (next reply) := by
  cases point with
  | starting fresh => exact starting_step idempotency fresh current outcome
  | lookingUp fresh => exact lookingUp_step idempotency known fresh current outcome
  | handling fresh => exact handling_step fresh current outcome
  | recording mine => exact recording_step mine current outcome
  | settling issues returns => exact settling_step issues returns current outcome

theorem OnceSound.step (idempotency : ∀ runner, (fleet.hooks runner).idempotency = true)
    (separate : SeparateTenants deliveries) (sound : OnceSound fleet deliveries world)
    {scheduled : Pid × WorkerChoice} (meets : FindsJobAlone deliveries world scheduled) :
    OnceSound fleet deliveries (workerStep fleet world scheduled) := by
  unfold workerStep
  apply World.statement_preserves sound
  intro statement next reply shared current outcome
  obtain ⟨program, found, point⟩ := sound.points scheduled.1
  obtain rfl := Option.some.inj (current.symm.trans found)
  have here : underWay world scheduled.1 = atHandler (.perform statement next) := by
    unfold underWay
    rw [current]
  obtain ⟨stepped, arrived⟩ :=
    point.step (idempotency _) (sound.completedJob separate) rfl outcome
  cases stepped with
  | quiet records completed unrecorded settled rests =>
      exact sound.quiet records completed unrecorded (fun handling => settled (here ▸ handling))
        rests arrived
  | foundNothing unchanged looksUp succeeds noRecord fresh handles =>
      subst unchanged
      have looksUpNext : nextLookup world scheduled.1 =
          some (deliveries scheduled.1).job.idemKey := by
        unfold nextLookup
        rw [current]
        exact looksUp
      exact sound.foundNothing (meets _ looksUpNext succeeds noRecord) noRecord handles arrived
  | handled completed wasHandling fresh records =>
      subst completed
      exact sound.handled (here.trans wasHandling) fresh records arrived
  | recorded mine stored rests => exact sound.recordedJob mine stored rests arrived
  | refused mine stored rests =>
      subst stored
      exact sound.refused rests arrived

end Steps

/-! ## Any deliveries in any order -/

section Runs

theorem OnceSound.handledOnce {fleet : Fleet Runner}
    {deliveries : Pid → JobDelivery Runner Payload} {world : WorkerWorld Runner Payload Pid}
    (sound : OnceSound fleet deliveries world) :
    HandledOnce deliveries world where
  once := sound.once
  ownJob := by
    intro pid answer returned completes
    obtain ⟨program, current, point⟩ := sound.points pid
    have ended := World.returned_eq_some.mp returned
    obtain rfl := Option.some.inj (current.symm.trans ended)
    generalize reached :
      (Program.done answer : WorkerProgram Runner Payload WorkerAnswer) = program at point
    cases point with
    | starting fresh | handling fresh | recording mine => cases reached
    | lookingUp fresh =>
        have running := congrArg Program.running reached
        unfold recovering at running
        rw [working_running] at running
        cases running
    | settling issues returns =>
        subst reached
        exact returns completes

variable [DecidableEq Runner] [DecidableEq Pid]

/-- In every schedule in which no delivery starts on a job that another one is
at, or failed to record, each job is completed once at most, and no delivery is
answered as completed for the job of another tenant. -/
theorem deliveries_handledOnce (fleet : IdempotentFleet Runner)
    (deliveries : Pid → JobDelivery Runner Payload) (separate : SeparateTenants deliveries)
    (schedule : List (Pid × WorkerChoice))
    (every : EveryStep (workerStep fleet.toFleet) (FindsJobAlone deliveries)
      (workerStart fleet.toFleet (fun _ => none) fun pid => (deliveries pid).call) schedule) :
    HandledOnce deliveries
      (run (workerStep fleet.toFleet)
        (workerStart fleet.toFleet (fun _ => none) fun pid => (deliveries pid).call)
        schedule) := by
  apply OnceSound.handledOnce
  exact run_invariant
    (fun _ _ sound meets => sound.step fleet.idempotency separate meets)
    (OnceSound.start fleet.toFleet deliveries) every

end Runs

/-! ## Two deliveries of one job -/

/-- A runner for ten jobs, with every hook. -/
def tenSlotFleet : IdempotentFleet Unit where
  concurrency _ := .finite 10
  hooks _ := ⟨true, none, true, true⟩
  arithmetic := .unrounded
  idempotency _ := rfl

def invoiceDelivery : JobDelivery Unit Unit where
  runner := ()
  random := .zero
  job := ⟨"job-1", "invoice", "tenant-1", none, (), .finite 0, .finite 2, "", "corr-1", "invoice-1"⟩

/-- Both deliveries look the key up before either has recorded it. -/
theorem concurrent_deliveries_handled_twice :
    ¬ HandledOnce (fun _ : Bool => invoiceDelivery)
      (run (workerStep tenSlotFleet.toFleet)
        (workerStart tenSlotFleet.toFleet (fun _ => none) fun _ => invoiceDelivery.call)
        [(true, .succeeds), (false, .succeeds), (true, .succeeds), (false, .succeeds),
          (true, .succeeds), (false, .succeeds)]) := by
  intro holds
  have twice := holds.once
  revert twice
  decide

/-- The second delivery is looked up after the first has recorded its key. -/
theorem deliveries_handledOnce_in_turn :
    HandledOnce (fun _ : Bool => invoiceDelivery)
      (run (workerStep tenSlotFleet.toFleet)
        (workerStart tenSlotFleet.toFleet (fun _ => none) fun _ => invoiceDelivery.call)
        [(true, .succeeds), (true, .succeeds), (true, .succeeds),
          (true, .losesAnswer .other), (false, .succeeds), (false, .succeeds)]) :=
  deliveries_handledOnce tenSlotFleet (fun _ => invoiceDelivery) (fun _ _ _ => rfl) _ (by decide)

end Idempotence

end PlatformArchitecture.Workers
