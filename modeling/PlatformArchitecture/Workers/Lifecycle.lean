import PlatformArchitecture.Workers.Fleet

/-!
# The active counter of a runner

A call of `run` that was accepted holds one unit of the counter until its
`finally` block, whatever the port, the handler and the hooks do before.  So
the counter is the number of accepted calls that have not settled, in every
state that any calls reach in any order.  A call is accepted while the counter
is below the limit, so that a limit of one and a half lets two calls in.
-/

namespace PlatformArchitecture.Workers

open PlatformArchitecture.Foundations

section Lifecycle

variable {Runner Payload Pid : Type}

/-- A call that has not settled. -/
def inFlight (world : WorkerWorld Runner Payload Pid) (pid : Pid) : Bool :=
  match world.programs pid with
  | some program => program.running
  | none => false

/-- The accepted calls on a runner that have not settled. -/
def inProgress (world : WorkerWorld Runner Payload Pid) (runner : Runner) : Finset Pid :=
  (world.shared.accepted runner).filter fun pid => inFlight world pid = true

/-- The runner that a call stops. -/
def WorkerCall.stops : WorkerCall Runner Payload → Option Runner
  | .run _ _ _ => none
  | .requestStop runner | .gracefulShutdown runner => some runner

/-- A call that stops the runner has nothing left to do before the flag is set. -/
def StopRequested (calls : Pid → WorkerCall Runner Payload)
    (world : WorkerWorld Runner Payload Pid) (runner : Runner) : Prop :=
  ∃ pid, (calls pid).stops = some runner ∧
    ∀ next, world.programs pid ≠ some (.perform (.requestStop runner) next)

/-- The number of calls that a limit lets in: none, or the last of them came
while the counter was below the limit. -/
def WithinConcurrency (concurrency : JsNumber) (active : Int) : Prop :=
  active = 0 ∨ JsNumber.finite (active - 1) < concurrency

/-- The counter is exact and within the limit, which it never exceeds where the
limit is a whole number, and a shutdown that has returned left nothing in
progress. -/
structure LifecycleHolds (fleet : Fleet Runner) (calls : Pid → WorkerCall Runner Payload)
    (world : WorkerWorld Runner Payload Pid) : Prop where
  active : ∀ runner,
    (world.shared.runners runner).active = (inProgress world runner).card
  bounded : ∀ runner,
    WithinConcurrency (fleet.concurrency runner) (world.shared.runners runner).active
  whole : ∀ runner (limit : Nat), fleet.concurrency runner = limit →
    (world.shared.runners runner).active ≤ limit
  shutDown : ∀ pid runner, calls pid = .gracefulShutdown runner →
    world.returned pid = some .shutDown → inProgress world runner = ∅

theorem WithinConcurrency.accept {concurrency : JsNumber} {active : Int}
    (room : JsNumber.finite active < concurrency) : WithinConcurrency concurrency (active + 1) := by
  refine Or.inr ?_
  rw [Int.cast_add, Int.cast_one, add_sub_cancel_right]
  exact room

theorem WithinConcurrency.release {concurrency : JsNumber} {active : Int}
    (within : WithinConcurrency concurrency active) (positive : 0 < active) :
    WithinConcurrency concurrency (active - 1) := by
  have below := within.resolve_left positive.ne'
  refine Or.inr (lt_trans (JsNumber.finite_lt_finite.mpr ?_) below)
  rw [Int.cast_sub, Int.cast_one]
  exact sub_one_lt _

/-- A whole limit is never exceeded. -/
theorem WithinConcurrency.le_of_whole {limit : Nat} {active : Int}
    (within : WithinConcurrency limit active) : active ≤ limit := by
  rcases within with none | below
  · omega
  · have ordered : (active : ℚ) - 1 < limit := JsNumber.finite_lt_finite.mp below
    have whole : active - 1 < limit := by exact_mod_cast ordered
    omega

/-! ## The points of a call -/

/-- The statements between the acceptance of a job and its release. -/
def WorkerStatement.Inner : WorkerStatement Runner Payload → Prop
  | .get _ | .handle _ | .putIfAbsent _ _ _ | .onRetry _ _ | .onDeadLetter _ _ => True
  | .accept _ | .release _ | .requestStop _ | .awaitIdle _ => False

/-- What is left of an accepted call. -/
def working (runner : Runner) (rest : WorkerProgram Runner Payload JobResult) :
    WorkerProgram Runner Payload WorkerAnswer := do
  let result ← rest.finallyDo (awaitWorker (.release runner))
  return .job result

def awaitingIdle (runner : Runner) : WorkerProgram Runner Payload WorkerAnswer := do
  awaitWorker (.awaitIdle runner)
  return .shutDown

/-- A call at a point of its program that the state supports. -/
inductive AtPoint (fleet : Fleet Runner) (pid : Pid) (state : WorkerState Runner Pid) :
    WorkerCall Runner Payload → WorkerProgram Runner Payload WorkerAnswer → Prop
  | waiting {call : WorkerCall Runner Payload}
      (outside : ∀ runner, pid ∉ state.accepted runner) :
      AtPoint fleet pid state call (call.program fleet)
  | working {runner : Runner} {random : Random} {job : JobEnvelope Payload}
      {rest : WorkerProgram Runner Payload JobResult}
      (issues : rest.Issues WorkerStatement.Inner)
      (accepted : ∀ other, pid ∈ state.accepted other ↔ other = runner) :
      AtPoint fleet pid state (.run runner random job) (working runner rest)
  | awaitingIdle {runner : Runner} (outside : ∀ other, pid ∉ state.accepted other)
      (stopping : (state.runners runner).stopping = true) :
      AtPoint fleet pid state (.gracefulShutdown runner) (awaitingIdle runner)
  | settled {call : WorkerCall Runner Payload}
      {program : WorkerProgram Runner Payload WorkerAnswer}
      (ended : program.running = false)
      (stopping : ∀ runner, call.stops = some runner → (state.runners runner).stopping = true)
      (idle : ∀ runner, call.stops = some runner → program = .done .shutDown →
        (state.runners runner).active = 0) :
      AtPoint fleet pid state call program

structure WorkersSound (fleet : Fleet Runner) (calls : Pid → WorkerCall Runner Payload)
    (world : WorkerWorld Runner Payload Pid) : Prop where
  points : ∀ pid, ∃ program, world.programs pid = some program ∧
    AtPoint fleet pid world.shared (calls pid) program
  active : ∀ runner,
    (world.shared.runners runner).active = (inProgress world runner).card
  bounded : ∀ runner,
    WithinConcurrency (fleet.concurrency runner) (world.shared.runners runner).active

/-! ## One statement of a call -/

/-- What a statement of a call at a point can do. -/
inductive CallStep [DecidableEq Runner] [DecidableEq Pid] (fleet : Fleet Runner) (pid : Pid)
    (call : WorkerCall Runner Payload) (before after : WorkerState Runner Pid)
    (rest : WorkerProgram Runner Payload WorkerAnswer) : Prop
  | accepted (runner : Runner) (room : before.canAccept fleet runner = true)
      (outside : ∀ other, pid ∉ before.accepted other)
      (moved : after = before.accept pid runner)
      (goesOn : rest.running = true)
      (point : AtPoint fleet pid after call rest)
  | released (runner : Runner) (holder : ∀ other, pid ∈ before.accepted other ↔ other = runner)
      (moved : after = before.release runner)
      (ended : rest.running = false)
      (point : AtPoint fleet pid after call rest)
  | stopped (runner : Runner) (outside : ∀ other, pid ∉ before.accepted other)
      (moved : after = before.requestStop runner)
      (point : AtPoint fleet pid after call rest)
  | kept (runners : after.runners = before.runners)
      (sameCalls : after.accepted = before.accepted)
      (counted : rest.running = true ∨ ∀ other, pid ∉ before.accepted other)
      (point : AtPoint fleet pid after call rest)

theorem working_running (runner : Runner) (rest : WorkerProgram Runner Payload JobResult) :
    (working runner rest).running = true := by
  cases rest with
  | done result | fail error | perform op next => rfl

theorem work_issues (hooks : WorkerHooks) (arithmetic : Arithmetic) (random : Random)
    (job : JobEnvelope Payload) :
    ((hooks.complete job).orElse (hooks.handleFailure arithmetic random job) :
      WorkerProgram Runner Payload JobResult).Issues WorkerStatement.Inner :=
  Program.issues_orElse
    (fun _ => WorkerHooks.handleFailure_issues (fun _ _ => trivial) fun _ _ => trivial)
    (WorkerHooks.complete_issues (fun _ => trivial) (fun _ => trivial) fun _ _ _ => trivial)

section Statements

variable [DecidableEq Runner] [DecidableEq Pid]

variable {fleet : Fleet Runner} {pid : Pid} {choice : WorkerChoice}
  {state after : WorkerState Runner Pid}

/-- No statement between acceptance and release touches the runners. -/
theorem inner_frame {statement : WorkerStatement Runner Payload}
    {reply : Except Thrown (statement.Reply Runner Payload)}
    (inner : statement.Inner)
    (outcome : workerOutcome fleet pid choice statement state = some (reply, after)) :
    after.runners = state.runners ∧ after.accepted = state.accepted := by
  cases statement with
  | accept | release | requestStop | awaitIdle => cases inner
  | get | handle | onRetry | onDeadLetter =>
      cases choice <;> cases outcome <;> exact ⟨rfl, rfl⟩
  | putIfAbsent idemKey jobId ttlSeconds =>
      cases choice with
      | succeeds | losesAnswer =>
          cases outcome
          exact WorkerState.putIfAbsent_frame idemKey jobId
      | fails error =>
          cases outcome
          exact ⟨rfl, rfl⟩

/-- The first statement of a call. -/
theorem waiting_step {call : WorkerCall Runner Payload}
    {statement : WorkerStatement Runner Payload}
    {next : Except Thrown (statement.Reply Runner Payload) →
      WorkerProgram Runner Payload WorkerAnswer}
    {reply : Except Thrown (statement.Reply Runner Payload)}
    (outside : ∀ runner, pid ∉ state.accepted runner)
    (current : call.program fleet = .perform statement next)
    (outcome : workerOutcome fleet pid choice statement state = some (reply, after)) :
    CallStep fleet pid call state after (next reply) := by
  cases call with
  | run runner random job =>
      cases current
      by_cases room : state.canAccept fleet (fleet.runner runner).id = true
      · simp only [workerOutcome, if_pos room] at outcome
        cases outcome
        refine .accepted runner room outside rfl
          (working_running runner ((fleet.hooks runner).complete job |>.orElse _)) ?_
        refine .working (work_issues _ _ random job) ?_
        intro other
        rw [WorkerState.mem_accept]
        constructor
        · rintro (⟨-, same⟩ | member)
          · exact same
          · exact absurd member (outside other)
        · intro same
          exact Or.inl ⟨rfl, same⟩
      · simp only [workerOutcome, if_neg room] at outcome
        cases outcome
        refine .kept rfl rfl (Or.inr outside) (.settled rfl ?_ ?_)
        · intro other stops
          cases stops
        · intro other stops
          cases stops
  | requestStop runner =>
      cases current
      cases outcome
      refine .stopped runner outside rfl (.settled rfl ?_ ?_)
      · intro other stops
        cases stops
        exact WorkerState.requestStop_stopping runner
      · intro other stops answer
        cases answer
  | gracefulShutdown runner =>
      cases current
      cases outcome
      refine .stopped runner outside rfl (.awaitingIdle outside ?_)
      exact WorkerState.requestStop_stopping runner

/-- The next statement of an accepted call. -/
theorem working_step {runner : Runner} {random : Random} {job : JobEnvelope Payload}
    {rest : WorkerProgram Runner Payload JobResult}
    {statement : WorkerStatement Runner Payload}
    {next : Except Thrown (statement.Reply Runner Payload) →
      WorkerProgram Runner Payload WorkerAnswer}
    {reply : Except Thrown (statement.Reply Runner Payload)}
    (issues : rest.Issues WorkerStatement.Inner)
    (accepted : ∀ other, pid ∈ state.accepted other ↔ other = runner)
    (current : working runner rest = .perform statement next)
    (outcome : workerOutcome fleet pid choice statement state = some (reply, after)) :
    CallStep fleet pid (.run runner random job) state after (next reply) := by
  have noStop : ∀ {program : WorkerProgram Runner Payload WorkerAnswer}
      {reached : WorkerState Runner Pid}, program.running = false →
        AtPoint fleet pid reached (.run runner random job) program := by
    intro program reached ended
    refine .settled ended ?_ ?_
    · intro other stops
      cases stops
    · intro other stops
      cases stops
  cases rest with
  | done result | fail error =>
      cases current
      cases outcome
      exact .released runner accepted rfl rfl (noStop rfl)
  | perform inner following =>
      cases current
      obtain ⟨runners, sameCalls⟩ := inner_frame issues.1 outcome
      refine .kept runners sameCalls (Or.inl (working_running runner _)) ?_
      refine .working (issues.2 reply) ?_
      intro other
      rw [sameCalls]
      exact accepted other

theorem awaitingIdle_step {runner : Runner}
    {statement : WorkerStatement Runner Payload}
    {next : Except Thrown (statement.Reply Runner Payload) →
      WorkerProgram Runner Payload WorkerAnswer}
    {reply : Except Thrown (statement.Reply Runner Payload)}
    (outside : ∀ other, pid ∉ state.accepted other)
    (stopping : (state.runners runner).stopping = true)
    (current : awaitingIdle runner = .perform statement next)
    (outcome : workerOutcome fleet pid choice statement state = some (reply, after)) :
    CallStep fleet pid (.gracefulShutdown runner) state after (next reply) := by
  cases current
  have stops : ∀ {reached : WorkerState Runner Pid}, reached.runners = state.runners →
      ∀ other, (WorkerCall.gracefulShutdown runner : WorkerCall Runner Payload).stops =
        some other → (reached.runners other).stopping = true := by
    intro reached same other stops
    cases stops
    rw [same]
    exact stopping
  by_cases idle : (state.runners runner).active = 0
  · simp only [workerOutcome, if_pos idle] at outcome
    cases outcome
    refine .kept rfl rfl (Or.inr outside) (.settled rfl (stops rfl) ?_)
    intro other stopped _answer
    cases stopped
    exact idle
  · cases choice with
    | succeeds =>
        simp only [workerOutcome, if_neg idle] at outcome
        cases outcome
    | fails error | losesAnswer error =>
        simp only [workerOutcome, if_neg idle] at outcome
        cases outcome
        refine .kept rfl rfl (Or.inr outside) (.settled rfl (stops rfl) ?_)
        intro other stopped answer
        cases answer

theorem AtPoint.step {call : WorkerCall Runner Payload}
    {statement : WorkerStatement Runner Payload}
    {next : Except Thrown (statement.Reply Runner Payload) →
      WorkerProgram Runner Payload WorkerAnswer}
    {reply : Except Thrown (statement.Reply Runner Payload)}
    {program : WorkerProgram Runner Payload WorkerAnswer}
    (point : AtPoint fleet pid state call program)
    (current : program = .perform statement next)
    (outcome : workerOutcome fleet pid choice statement state = some (reply, after)) :
    CallStep fleet pid call state after (next reply) := by
  cases point with
  | waiting outside => exact waiting_step outside current outcome
  | working issues accepted => exact working_step issues accepted current outcome
  | awaitingIdle outside stopping => exact awaitingIdle_step outside stopping current outcome
  | settled ended =>
      rw [current] at ended
      cases ended

theorem workerOutcome_stopping {runner : Runner} {statement : WorkerStatement Runner Payload}
    {reply : Except Thrown (statement.Reply Runner Payload)}
    (stopping : (state.runners runner).stopping = true)
    (outcome : workerOutcome fleet pid choice statement state = some (reply, after)) :
    (after.runners runner).stopping = true ∧ after.accepted runner = state.accepted runner := by
  cases statement with
  | get | handle | putIfAbsent | onRetry | onDeadLetter =>
      obtain ⟨runners, sameCalls⟩ := inner_frame (by trivial) outcome
      rw [runners, sameCalls]
      exact ⟨stopping, rfl⟩
  | accept other =>
      by_cases room : state.canAccept fleet other = true
      · have different : runner ≠ other := by
          rintro rfl
          simp [WorkerState.canAccept, stopping] at room
        simp only [workerOutcome, if_pos room] at outcome
        cases outcome
        simp [WorkerState.accept, WorkerState.setRunner, different, stopping]
      · simp only [workerOutcome, if_neg room] at outcome
        cases outcome
        exact ⟨stopping, rfl⟩
  | release other | requestStop other =>
      cases outcome
      by_cases same : runner = other
      · subst other
        simp [WorkerState.release, WorkerState.requestStop, WorkerState.setRunner, stopping]
      · simp [WorkerState.release, WorkerState.requestStop, WorkerState.setRunner, same, stopping]
  | awaitIdle other =>
      by_cases idle : (state.runners other).active = 0
      · simp only [workerOutcome, if_pos idle] at outcome
        cases outcome
        exact ⟨stopping, rfl⟩
      · cases choice <;> simp only [workerOutcome, if_neg idle] at outcome <;> cases outcome <;>
          exact ⟨stopping, rfl⟩

end Statements

/-! ## One step of the schedule -/

section Steps

variable {fleet : Fleet Runner} {calls : Pid → WorkerCall Runner Payload}
  {world : WorkerWorld Runner Payload Pid}

/-- A call whose next statement is known is in flight. -/
theorem inFlight_of_perform {pid : Pid} {statement : WorkerStatement Runner Payload}
    {next : Except Thrown (statement.Reply Runner Payload) →
      WorkerProgram Runner Payload WorkerAnswer}
    (current : world.programs pid = some (.perform statement next)) :
    inFlight world pid = true := by
  unfold inFlight
  rw [current]
  rfl

/-- The points of other calls only rely on what a step keeps. -/
theorem AtPoint.frame {pid : Pid} {before after : WorkerState Runner Pid}
    {call : WorkerCall Runner Payload} {program : WorkerProgram Runner Payload WorkerAnswer}
    (sameCalls : ∀ runner, pid ∈ after.accepted runner ↔ pid ∈ before.accepted runner)
    (stopping : ∀ runner, (before.runners runner).stopping = true →
      (after.runners runner).stopping = true)
    (idle : ∀ runner, (before.runners runner).stopping = true →
      (before.runners runner).active = 0 → (after.runners runner).active = 0)
    (point : AtPoint fleet pid before call program) : AtPoint fleet pid after call program := by
  cases point with
  | waiting outside =>
      exact .waiting fun runner accepted => outside runner ((sameCalls runner).mp accepted)
  | working issues accepted =>
      exact .working issues fun other => (sameCalls other).trans (accepted other)
  | awaitingIdle outside stopped =>
      exact .awaitingIdle (fun runner accepted => outside runner ((sameCalls runner).mp accepted))
        (stopping _ stopped)
  | settled ended stopped atRest =>
      exact .settled ended (fun runner stops => stopping runner (stopped runner stops))
        fun runner stops answer =>
          idle runner (stopped runner stops) (atRest runner stops answer)

theorem WorkersSound.start (fleet : Fleet Runner) (records : String → Option String)
    (calls : Pid → WorkerCall Runner Payload) :
    WorkersSound fleet calls (workerStart fleet records calls) where
  points pid := ⟨_, rfl, .waiting fun _ => Finset.notMem_empty pid⟩
  active _ := rfl
  bounded _ := Or.inl rfl

variable [DecidableEq Pid]

theorem inFlight_update {shared : WorkerState Runner Pid} {pid : Pid}
    {rest : WorkerProgram Runner Payload WorkerAnswer} (other : Pid) :
    inFlight
        { shared, programs := Function.update world.programs pid (some rest) } other =
      if other = pid then rest.running else inFlight world other := by
  unfold inFlight
  by_cases same : other = pid
  · subst other
    simp
  · simp [same]

/-- The calls at their points after a statement of one of them. -/
theorem WorkersSound.points_update {pid : Pid} {shared : WorkerState Runner Pid}
    {rest : WorkerProgram Runner Payload WorkerAnswer} (sound : WorkersSound fleet calls world)
    (own : AtPoint fleet pid shared (calls pid) rest)
    (others : ∀ other program, other ≠ pid →
      AtPoint fleet other world.shared (calls other) program →
        AtPoint fleet other shared (calls other) program)
    (other : Pid) :
    ∃ program, Function.update world.programs pid (some rest) other = some program ∧
      AtPoint fleet other shared (calls other) program := by
  by_cases same : other = pid
  · subst other
    exact ⟨rest, Function.update_self pid _ world.programs, own⟩
  · obtain ⟨program, current, point⟩ := sound.points other
    exact ⟨program, (Function.update_of_ne same _ world.programs).trans current,
      others other program same point⟩

section Counting

variable {pid : Pid} {shared : WorkerState Runner Pid}
  {rest : WorkerProgram Runner Payload WorkerAnswer}

/-- A call that goes on, or that was never accepted, does not change what is in
progress. -/
theorem inProgress_kept (running : inFlight world pid = true)
    (sameCalls : shared.accepted = world.shared.accepted)
    (counted : rest.running = true ∨ ∀ other, pid ∉ world.shared.accepted other)
    (runner : Runner) :
    inProgress { shared, programs := Function.update world.programs pid (some rest) } runner =
      inProgress world runner := by
  unfold inProgress
  rw [sameCalls]
  apply Finset.filter_congr
  intro other accepted
  rw [inFlight_update]
  by_cases same : other = pid
  · subst other
    rcases counted with goesOn | outside
    · rw [if_pos rfl, goesOn, running]
    · exact absurd accepted (outside runner)
  · rw [if_neg same]

variable [DecidableEq Runner]

theorem inProgress_accepted {runner : Runner} (goesOn : rest.running = true)
    (running : inFlight world pid = true) (moved : shared = world.shared.accept pid runner)
    (other : Runner) :
    inProgress { shared, programs := Function.update world.programs pid (some rest) } other =
      if other = runner then insert pid (inProgress world other) else inProgress world other := by
  have same : ∀ another, inFlight
      { shared, programs := Function.update world.programs pid (some rest) } another =
        inFlight world another := by
    intro another
    rw [inFlight_update]
    by_cases self : another = pid
    · subst another
      rw [if_pos rfl, goesOn, running]
    · rw [if_neg self]
  ext another
  by_cases here : other = runner
  · subst other
    simp only [inProgress, Finset.mem_filter, same]
    simp only [moved, WorkerState.mem_accept, if_true, Finset.mem_insert, Finset.mem_filter,
      and_true]
    constructor
    · rintro ⟨rfl | member, going⟩
      · exact Or.inl rfl
      · exact Or.inr ⟨member, going⟩
    · rintro (rfl | ⟨member, going⟩)
      · exact ⟨Or.inl rfl, running⟩
      · exact ⟨Or.inr member, going⟩
  · simp only [inProgress, Finset.mem_filter, same]
    rw [moved, WorkerState.mem_accept, if_neg here, Finset.mem_filter]
    simp only [here, and_false, false_or]

theorem inProgress_released {runner : Runner}
    (holder : ∀ other, pid ∈ world.shared.accepted other ↔ other = runner)
    (ended : rest.running = false) (moved : shared = world.shared.release runner)
    (other : Runner) :
    inProgress { shared, programs := Function.update world.programs pid (some rest) } other =
      if other = runner then (inProgress world other).erase pid else inProgress world other := by
  have sameCalls : shared.accepted = world.shared.accepted := by
    rw [moved]
    rfl
  ext another
  by_cases self : another = pid
  · subst another
    by_cases here : other = runner
    · simp [inProgress, inFlight_update, ended, here]
    · have notHeld : pid ∉ world.shared.accepted other := fun held => here ((holder other).mp held)
      simp [inProgress, here, sameCalls, notHeld]
  · by_cases here : other = runner
    · simp [inProgress, inFlight_update, sameCalls, here, self]
    · simp [inProgress, inFlight_update, sameCalls, here, self]

end Counting

section OneStatement

variable {pid : Pid} {shared : WorkerState Runner Pid}
  {rest : WorkerProgram Runner Payload WorkerAnswer}

theorem WorkersSound.kept (sound : WorkersSound fleet calls world)
    (running : inFlight world pid = true)
    (runners : shared.runners = world.shared.runners)
    (sameCalls : shared.accepted = world.shared.accepted)
    (counted : rest.running = true ∨ ∀ other, pid ∉ world.shared.accepted other)
    (point : AtPoint fleet pid shared (calls pid) rest) :
    WorkersSound fleet calls
      { shared, programs := Function.update world.programs pid (some rest) } := by
  constructor
  · refine sound.points_update point ?_
    intro other program different
    refine AtPoint.frame (fun _ => by rw [sameCalls]) ?_ ?_
    · intro another stopped
      rw [runners]
      exact stopped
    · intro another _stopped idle
      rw [runners]
      exact idle
  · intro other
    rw [inProgress_kept running sameCalls counted]
    exact (congrArg (fun all => (all other).active) runners).trans (sound.active other)
  · intro other
    dsimp only
    rw [runners]
    exact sound.bounded other

variable [DecidableEq Runner]

theorem WorkersSound.accepted {runner : Runner} (sound : WorkersSound fleet calls world)
    (running : inFlight world pid = true)
    (room : world.shared.canAccept fleet runner = true)
    (outside : ∀ other, pid ∉ world.shared.accepted other)
    (goesOn : rest.running = true)
    (point : AtPoint fleet pid (world.shared.accept pid runner) (calls pid) rest) :
    WorkersSound fleet calls
      { shared := world.shared.accept pid runner
        programs := Function.update world.programs pid (some rest) } := by
  unfold WorkerState.canAccept at room
  simp only [Bool.and_eq_true, Bool.not_eq_true', decide_eq_true_eq] at room
  obtain ⟨notStopping, free⟩ := room
  have onRunner : ((world.shared.accept pid runner).runners runner).active =
      (world.shared.runners runner).active + 1 := by
    simp [WorkerState.accept, WorkerState.setRunner]
  have onOthers : ∀ other, other ≠ runner →
      (world.shared.accept pid runner).runners other = world.shared.runners other :=
    fun other different => Function.update_of_ne different _ world.shared.runners
  constructor
  · refine sound.points_update point ?_
    intro other program different
    apply AtPoint.frame
    · intro another
      rw [WorkerState.mem_accept]
      exact or_iff_right fun self => different self.1
    · intro another stopped
      by_cases here : another = runner
      · subst another
        rw [notStopping] at stopped
        cases stopped
      · rw [onOthers another here]
        exact stopped
    · intro another stopped idle
      by_cases here : another = runner
      · subst another
        rw [notStopping] at stopped
        cases stopped
      · rw [onOthers another here]
        exact idle
  · intro other
    have counted := sound.active other
    rw [inProgress_accepted goesOn running rfl]
    by_cases here : other = runner
    · subst other
      have fresh : pid ∉ inProgress world runner :=
        fun member => outside runner (Finset.mem_filter.mp member).1
      rw [if_pos rfl, Finset.card_insert_of_notMem fresh, onRunner, counted, Nat.cast_succ]
    · rw [if_neg here, onOthers other here]
      exact counted
  · intro other
    by_cases here : other = runner
    · subst other
      rw [onRunner]
      exact .accept free
    · rw [onOthers other here]
      exact sound.bounded other

theorem WorkersSound.released {runner : Runner} (sound : WorkersSound fleet calls world)
    (running : inFlight world pid = true)
    (holder : ∀ other, pid ∈ world.shared.accepted other ↔ other = runner)
    (ended : rest.running = false)
    (point : AtPoint fleet pid (world.shared.release runner) (calls pid) rest) :
    WorkersSound fleet calls
      { shared := world.shared.release runner
        programs := Function.update world.programs pid (some rest) } := by
  have counts := sound.active runner
  have member : pid ∈ inProgress world runner :=
    Finset.mem_filter.mpr ⟨(holder runner).mpr rfl, running⟩
  have positive : 0 < (inProgress world runner).card := Finset.card_pos.mpr ⟨pid, member⟩
  have onRunner : ((world.shared.release runner).runners runner).active =
      (world.shared.runners runner).active - 1 := by
    simp [WorkerState.release, WorkerState.setRunner]
  have onOthers : ∀ other, other ≠ runner →
      (world.shared.release runner).runners other = world.shared.runners other :=
    fun other different => Function.update_of_ne different _ world.shared.runners
  constructor
  · refine sound.points_update point ?_
    intro other program different
    refine AtPoint.frame (fun _ => Iff.rfl) ?_ ?_
    · intro another stopped
      by_cases here : another = runner
      · subst another
        simpa [WorkerState.release, WorkerState.setRunner] using stopped
      · rw [onOthers another here]
        exact stopped
    · intro another stopped idle
      by_cases here : another = runner
      · subst another
        omega
      · rw [onOthers another here]
        exact idle
  · intro other
    rw [inProgress_released holder ended rfl]
    by_cases here : other = runner
    · subst other
      rw [if_pos rfl, onRunner, Finset.card_erase_of_mem member]
      omega
    · rw [if_neg here, onOthers other here]
      exact sound.active other
  · intro other
    have before := sound.bounded other
    by_cases here : other = runner
    · subst other
      rw [onRunner]
      exact before.release (by omega)
    · rw [onOthers other here]
      exact before

theorem WorkersSound.stopped {runner : Runner} (sound : WorkersSound fleet calls world)
    (running : inFlight world pid = true)
    (outside : ∀ other, pid ∉ world.shared.accepted other)
    (point : AtPoint fleet pid (world.shared.requestStop runner) (calls pid) rest) :
    WorkersSound fleet calls
      { shared := world.shared.requestStop runner
        programs := Function.update world.programs pid (some rest) } := by
  have sameActive : ∀ other, ((world.shared.requestStop runner).runners other).active =
      (world.shared.runners other).active := by
    intro other
    by_cases here : other = runner
    · subst other
      simp [WorkerState.requestStop, WorkerState.setRunner]
    · simp [WorkerState.requestStop, WorkerState.setRunner, here]
  have staysStopped : ∀ other, (world.shared.runners other).stopping = true →
      ((world.shared.requestStop runner).runners other).stopping = true := by
    intro other stopped
    by_cases here : other = runner
    · subst other
      exact WorkerState.requestStop_stopping runner
    · simpa [WorkerState.requestStop, WorkerState.setRunner, here] using stopped
  constructor
  · refine sound.points_update point ?_
    intro other program different
    refine AtPoint.frame (fun _ => Iff.rfl) staysStopped ?_
    intro another _stopped idle
    rw [sameActive]
    exact idle
  · intro other
    have sameCalls : (world.shared.requestStop runner).accepted = world.shared.accepted := rfl
    rw [inProgress_kept running sameCalls (Or.inr outside), sameActive]
    exact sound.active other
  · intro other
    rw [sameActive]
    exact sound.bounded other

end OneStatement

variable [DecidableEq Runner]

theorem WorkersSound.step (sound : WorkersSound fleet calls world)
    (scheduled : Pid × WorkerChoice) :
    WorkersSound fleet calls (workerStep fleet world scheduled) := by
  unfold workerStep
  apply World.statement_preserves sound
  intro statement next reply shared current outcome
  have running := inFlight_of_perform current
  obtain ⟨program, found, point⟩ := sound.points scheduled.1
  obtain rfl := Option.some.inj (current.symm.trans found)
  cases point.step rfl outcome with
  | accepted runner room outside stored goesOn arrived =>
      subst stored
      exact sound.accepted running room outside goesOn arrived
  | released runner holder stored ended arrived =>
      subst stored
      exact sound.released running holder ended arrived
  | stopped runner outside stored arrived =>
      subst stored
      exact sound.stopped running outside arrived
  | kept runners sameCalls counted arrived =>
      exact sound.kept running runners sameCalls counted arrived

/-- A stop flag stays set, and no call is accepted under it. -/
theorem workerStep_stopping {runner : Runner}
    (stopping : (world.shared.runners runner).stopping = true)
    (scheduled : Pid × WorkerChoice) :
    ((workerStep fleet world scheduled).shared.runners runner).stopping = true ∧
      (workerStep fleet world scheduled).shared.accepted runner =
        world.shared.accepted runner := by
  unfold workerStep
  rcases World.statement_cases (workerServer fleet) world scheduled.1 scheduled.2 with
    unchanged | ⟨statement, next, reply, shared, current, outcome, moved⟩
  · rw [unchanged]
    exact ⟨stopping, rfl⟩
  · rw [moved]
    exact workerOutcome_stopping stopping outcome

end Steps

/-! ## Any calls in any order -/

section Runs

variable {fleet : Fleet Runner} {calls : Pid → WorkerCall Runner Payload}
  {world : WorkerWorld Runner Payload Pid}

theorem WorkersSound.holds (sound : WorkersSound fleet calls world) :
    LifecycleHolds fleet calls world where
  active := sound.active
  bounded := sound.bounded
  whole := by
    intro runner limit isLimit
    have within := sound.bounded runner
    rw [isLimit] at within
    exact within.le_of_whole
  shutDown := by
    intro pid runner shutsDown answer
    obtain ⟨program, current, point⟩ := sound.points pid
    have returned := World.returned_eq_some.mp answer
    obtain rfl := Option.some.inj (current.symm.trans returned)
    rw [shutsDown] at point
    have counted := sound.active runner
    generalize reached :
        (Program.done .shutDown : WorkerProgram Runner Payload WorkerAnswer) = program at point
    cases point with
    | waiting outside => cases reached
    | awaitingIdle outside stopping => cases reached
    | settled ended stopping idle =>
        have none := idle runner rfl reached.symm
        rw [none] at counted
        exact Finset.card_eq_zero.mp (by omega)

theorem WorkersSound.stopping {runner : Runner} (sound : WorkersSound fleet calls world)
    (requested : StopRequested calls world runner) :
    (world.shared.runners runner).stopping = true := by
  obtain ⟨pid, stops, moved⟩ := requested
  obtain ⟨program, current, point⟩ := sound.points pid
  generalize called : calls pid = call at stops moved point
  cases point with
  | waiting outside =>
      cases call with
      | run called random job => cases stops
      | requestStop called | gracefulShutdown called =>
          cases stops
          exact absurd current (moved _)
  | working issues accepted => cases stops
  | awaitingIdle outside stopping =>
      cases stops
      exact stopping
  | settled ended stopping idle => exact stopping runner stops

variable [DecidableEq Runner] [DecidableEq Pid]

/-- In every state that any calls reach, the counter is exact and bounded, a
shutdown that returned left nothing in progress, and no call is accepted on a
runner after a stop request. -/
theorem workers_lifecycle (fleet : Fleet Runner) (records : String → Option String)
    (calls : Pid → WorkerCall Runner Payload) (schedule : List (Pid × WorkerChoice)) :
    let world := run (workerStep fleet) (workerStart fleet records calls) schedule
    LifecycleHolds fleet calls world ∧
      ∀ runner, StopRequested calls world runner → ∀ later,
        (run (workerStep fleet) world later).shared.accepted runner =
          world.shared.accepted runner := by
  intro world
  have sound : WorkersSound fleet calls world :=
    run_invariant_of_step (fun _ scheduled sound => sound.step scheduled) schedule
      (WorkersSound.start fleet records calls)
  refine ⟨sound.holds, ?_⟩
  intro runner requested later
  have stays := @run_invariant_of_step _ _ (workerStep fleet)
    (fun reached => (reached.shared.runners runner).stopping = true ∧
      reached.shared.accepted runner = world.shared.accepted runner)
    (fun reached scheduled holds => by
      obtain ⟨stopping, same⟩ := workerStep_stopping holds.1 scheduled
      exact ⟨stopping, same.trans holds.2⟩)
    world later ⟨sound.stopping requested, rfl⟩
  exact stays.2

end Runs

/-! ## A limit that is not whole -/

/-- A runner for one job and a half. -/
def halfSlotFleet : Fleet Unit where
  concurrency _ := .finite (3 / 2)
  hooks _ := ⟨false, none, false, false⟩
  arithmetic := .unrounded

def reportCall : WorkerCall Unit Unit :=
  .run () .zero
    ⟨"job-1", "report", "tenant-1", none, (), .finite 0, .finite 2, "", "corr-1", "report-1"⟩

/-- With one call in progress there is room for a second one. -/
theorem halfSlot_exceeded :
    ¬ JsNumber.finite
        ((run (workerStep halfSlotFleet)
          (workerStart halfSlotFleet (fun _ => none) fun _ : Bool => reportCall)
          [(true, .succeeds), (false, .succeeds)]).shared.runners ()).active ≤
      halfSlotFleet.concurrency () := by
  decide +kernel

end Lifecycle

end PlatformArchitecture.Workers
