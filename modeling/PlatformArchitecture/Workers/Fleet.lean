import Mathlib.Data.Finset.Card
import PlatformArchitecture.Workers.Runner

/-!
# Runners that share an idempotency port

Calls of `run`, `requestStop` and `gracefulShutdown` on any number of runners
go on side by side.  A runner keeps its counter and its stop flag in memory;
the handler, the port and the hooks answer or fail as the environment chooses.
Beside them the state keeps which calls were accepted, which handlers completed
and which records were refused.
-/

namespace PlatformArchitecture.Workers

open PlatformArchitecture.Foundations

structure RunnerState where
  stopping : Bool
  active : Int

def RunnerState.fresh : RunnerState := ⟨false, 0⟩

section Fleet

variable (Runner Payload Pid : Type)

/-- The runners of a deployment, as they were constructed. -/
structure Fleet where
  concurrency : Runner → JsNumber
  hooks : Runner → WorkerHooks
  arithmetic : Arithmetic

/-- The state of the runners, the records of the port, and what has happened. -/
structure WorkerState where
  runners : Runner → RunnerState
  records : String → Option String
  accepted : Runner → Finset Pid
  completed : List Pid
  unrecorded : List Pid

inductive WorkerCall where
  | run (runner : Runner) (random : Random) (job : JobEnvelope Payload)
  | requestStop (runner : Runner)
  | gracefulShutdown (runner : Runner)

end Fleet

inductive WorkerAnswer where
  | job (result : JobResult)
  | stopRequested
  | shutDown

/-- How the handler, the port or a hook answers.  A call that loses its answer
has taken effect. -/
inductive WorkerChoice where
  | succeeds
  | fails (error : Thrown)
  | losesAnswer (error : Thrown)
  deriving DecidableEq

/-- An answer without a value. -/
def WorkerChoice.verdict : WorkerChoice → Except Thrown Unit
  | .succeeds => .ok ()
  | .fails error | .losesAnswer error => .error error

section Model

variable {Runner Payload Pid : Type}

def Fleet.runner (fleet : Fleet Runner) (id : Runner) : WorkerRunner Runner :=
  ⟨id, fleet.concurrency id, fleet.hooks id, fleet.arithmetic⟩

def WorkerCall.program (fleet : Fleet Runner) :
    WorkerCall Runner Payload → WorkerProgram Runner Payload WorkerAnswer
  | .run runner random job => do
      let result ← (fleet.runner runner).run random job
      return .job result
  | .requestStop runner => do
      (fleet.runner runner).requestStop
      return .stopRequested
  | .gracefulShutdown runner => do
      (fleet.runner runner).gracefulShutdown
      return .shutDown

abbrev WorkerWorld (Runner Payload Pid : Type) :=
  World Pid (WorkerState Runner Pid) (WorkerStatement Runner Payload)
    (WorkerStatement.Reply Runner Payload) Thrown WorkerAnswer

namespace WorkerState

def putIfAbsent (idemKey jobId : String) (state : WorkerState Runner Pid) :
    WorkerState Runner Pid :=
  match state.records idemKey with
  | some _ => state
  | none => { state with records := Function.update state.records idemKey (some jobId) }

theorem putIfAbsent_frame {state : WorkerState Runner Pid} (idemKey jobId : String) :
    (state.putIfAbsent idemKey jobId).runners = state.runners ∧
      (state.putIfAbsent idemKey jobId).accepted = state.accepted := by
  unfold putIfAbsent
  cases state.records idemKey with
  | some found => exact ⟨rfl, rfl⟩
  | none => exact ⟨rfl, rfl⟩

theorem putIfAbsent_completed {state : WorkerState Runner Pid} (idemKey jobId : String) :
    (state.putIfAbsent idemKey jobId).completed = state.completed ∧
      (state.putIfAbsent idemKey jobId).unrecorded = state.unrecorded := by
  unfold putIfAbsent
  cases state.records idemKey with
  | some found => exact ⟨rfl, rfl⟩
  | none => exact ⟨rfl, rfl⟩

/-- The key has a record afterwards, and no other key is affected. -/
theorem putIfAbsent_records {state : WorkerState Runner Pid} (idemKey jobId other : String) :
    ((state.putIfAbsent idemKey jobId).records other = none ↔
      other ≠ idemKey ∧ state.records other = none) := by
  unfold putIfAbsent
  cases found : state.records idemKey with
  | some jobId =>
      constructor
      · intro absent
        refine ⟨?_, absent⟩
        rintro rfl
        rw [found] at absent
        cases absent
      · exact And.right
  | none =>
      by_cases same : other = idemKey
      · subst other
        simp
      · simp [same]

variable [DecidableEq Runner]

def canAccept (fleet : Fleet Runner) (runner : Runner) (state : WorkerState Runner Pid) : Bool :=
  !(state.runners runner).stopping &&
    decide (JsNumber.finite (state.runners runner).active < fleet.concurrency runner)

def setRunner (runner : Runner) (changed : RunnerState) (state : WorkerState Runner Pid) :
    WorkerState Runner Pid :=
  { state with runners := Function.update state.runners runner changed }

def release (runner : Runner) (state : WorkerState Runner Pid) : WorkerState Runner Pid :=
  state.setRunner runner
    { state.runners runner with active := (state.runners runner).active - 1 }

def requestStop (runner : Runner) (state : WorkerState Runner Pid) : WorkerState Runner Pid :=
  state.setRunner runner { state.runners runner with stopping := true }

theorem requestStop_stopping {state : WorkerState Runner Pid} (runner : Runner) :
    ((state.requestStop runner).runners runner).stopping = true :=
  congrArg RunnerState.stopping (Function.update_self runner _ state.runners)

variable [DecidableEq Pid]

def accept (pid : Pid) (runner : Runner) (state : WorkerState Runner Pid) :
    WorkerState Runner Pid :=
  { state.setRunner runner
      { state.runners runner with active := (state.runners runner).active + 1 } with
    accepted := Function.update state.accepted runner (insert pid (state.accepted runner)) }

theorem mem_accept {state : WorkerState Runner Pid} {pid other : Pid}
    {runner another : Runner} :
    other ∈ (state.accept pid runner).accepted another ↔
      (other = pid ∧ another = runner) ∨ other ∈ state.accepted another := by
  unfold accept
  by_cases same : another = runner
  · subst another
    simp
  · simp [same]

end WorkerState

section Server

variable [DecidableEq Runner] [DecidableEq Pid]

/-- What a statement of a call does.  `awaitIdle` waits while the runner is
busy, until the environment decides that the time is up. -/
def workerOutcome (fleet : Fleet Runner) (pid : Pid) (choice : WorkerChoice) :
    (statement : WorkerStatement Runner Payload) → WorkerState Runner Pid →
      Option (Except Thrown (statement.Reply Runner Payload) × WorkerState Runner Pid)
  | .accept runner, state =>
      if state.canAccept fleet runner then some (.ok (), state.accept pid runner)
      else some (.error workerNotAccepting, state)
  | .get idemKey, state =>
      match choice with
      | .succeeds => some (.ok (state.records idemKey), state)
      | .fails error | .losesAnswer error => some (.error error, state)
  | .handle _, state =>
      match choice with
      | .succeeds => some (.ok (), { state with completed := state.completed ++ [pid] })
      | .fails error | .losesAnswer error => some (.error error, state)
  | .putIfAbsent idemKey jobId _, state =>
      match choice with
      | .succeeds =>
          some (.ok (state.records idemKey).isNone, state.putIfAbsent idemKey jobId)
      | .fails error => some (.error error, { state with unrecorded := state.unrecorded ++ [pid] })
      | .losesAnswer error => some (.error error, state.putIfAbsent idemKey jobId)
  | .onRetry _ _, state | .onDeadLetter _ _, state => some (choice.verdict, state)
  | .release runner, state => some (.ok (), state.release runner)
  | .requestStop runner, state => some (.ok (), state.requestStop runner)
  | .awaitIdle runner, state =>
      if (state.runners runner).active = 0 then some (.ok (), state)
      else
        match choice with
        | .succeeds => none
        | .fails _ | .losesAnswer _ => some (.error workerShutdownTimeout, state)

def workerServer (fleet : Fleet Runner) :
    Server Pid WorkerChoice (WorkerState Runner Pid) (WorkerStatement Runner Payload)
      (WorkerStatement.Reply Runner Payload) Thrown where
  outcome := workerOutcome fleet
  disconnect _ state := state

/-- One step of a schedule. -/
def workerStep (fleet : Fleet Runner) (world : WorkerWorld Runner Payload Pid)
    (next : Pid × WorkerChoice) : WorkerWorld Runner Payload Pid :=
  world.step (workerServer fleet) (.statement next.1 next.2)

end Server

/-- New runners, over the records that the port holds. -/
def workerStart (fleet : Fleet Runner) (records : String → Option String)
    (calls : Pid → WorkerCall Runner Payload) : WorkerWorld Runner Payload Pid :=
  World.start
    { runners := fun _ => .fresh
      records
      accepted := fun _ => ∅
      completed := []
      unrecorded := [] }
    fun pid => (calls pid).program fleet

end Model

end PlatformArchitecture.Workers
