import Mathlib.Data.List.Induction
import PlatformArchitecture.Foundations.Json
import PlatformArchitecture.Foundations.Run

/-!
# State machines of tasks

A part of the states language: tasks that may catch their errors, choices on a
boolean of the input, and states that end the execution.  What a task returns
becomes the input of the next state, and so does the error that a task catches.
The environment decides how every task ends.  A catcher of `States.ALL` catches
every error but two.
-/

namespace PlatformArchitecture.Foundations

/-- How a task ends: an error has a name. -/
inductive TaskOutcome where
  | succeeded (output : Json)
  | failed (error : String)
  deriving DecidableEq

inductive MachineState (Name : Type) where
  | task (resource : String) (next : Name) (catchAll : Option Name)
  | choice (field : String) (booleanEquals : Bool) (next default : Name)
  | succeed
  | fail (error : String)

/-- The states that may follow one. -/
def MachineState.successors {Name : Type} : MachineState Name → List Name
  | .task _ next catchAll => next :: catchAll.toList
  | .choice _ _ next default => [next, default]
  | .succeed | .fail _ => []

structure StateMachine (Name : Type) where
  startAt : Name
  states : Name → MachineState Name

inductive ExecutionStatus (Name : Type) where
  | running (name : Name) (input : Json)
  | succeeded
  | failed (error : String)
  deriving DecidableEq

/-- An execution, with the states it has entered and their inputs. -/
structure Execution (Name : Type) where
  status : ExecutionStatus Name
  entered : List (Name × Json)
  deriving DecidableEq

/-- The states that an execution has entered. -/
def Execution.names {Name : Type} (execution : Execution Name) : List Name :=
  execution.entered.map Prod.fst

/-- What the next state reads after an error was caught. -/
def errorOutput (error : String) : Json :=
  .obj [("Error", .str error)]

namespace StateMachine

variable {Name : Type}

def runtimeError : String :=
  "States.Runtime"

def dataLimitExceeded : String :=
  "States.DataLimitExceeded"

/-- The errors that `States.ALL` does not catch. -/
def uncaughtErrors : List String :=
  [runtimeError, dataLimitExceeded]

/-- Enter a state; one that ends the execution does so at once. -/
def enter (machine : StateMachine Name) (execution : Execution Name) (name : Name)
    (input : Json) : Execution Name where
  status :=
    match machine.states name with
    | .succeed => .succeeded
    | .fail error => .failed error
    | .task _ _ _ | .choice _ _ _ _ => .running name input
  entered := execution.entered ++ [(name, input)]

@[simp]
theorem names_enter (machine : StateMachine Name) (execution : Execution Name) (name : Name)
    (input : Json) : (machine.enter execution name input).names = execution.names ++ [name] := by
  simp [Execution.names, enter]

/-- A state comes to its end; a choice does not ask how. -/
def leave (machine : StateMachine Name) (execution : Execution Name)
    (state : MachineState Name) (input : Json) (outcome : TaskOutcome) : Execution Name :=
  match state with
  | .task _ next catchAll =>
      match outcome, catchAll with
      | .succeeded output, _ => machine.enter execution next output
      | .failed error, some handler =>
          if error ∈ uncaughtErrors then { execution with status := .failed error }
          else machine.enter execution handler (errorOutput error)
      | .failed error, none => { execution with status := .failed error }
  | .choice field booleanEquals next default =>
      match input.property field with
      | none => { execution with status := .failed runtimeError }
      | some value =>
          machine.enter execution (if value = .bool booleanEquals then next else default) input
  | .succeed | .fail _ => execution

def step (machine : StateMachine Name) (execution : Execution Name) (outcome : TaskOutcome) :
    Execution Name :=
  match execution.status with
  | .running name input => machine.leave execution (machine.states name) input outcome
  | .succeeded | .failed _ => execution

def start (machine : StateMachine Name) (input : Json) : Execution Name :=
  machine.enter ⟨.succeeded, []⟩ machine.startAt input

/-- The execution after its tasks have ended as listed. -/
def execute (machine : StateMachine Name) (input : Json) (outcomes : List TaskOutcome) :
    Execution Name :=
  run machine.step (machine.start input) outcomes

def successors (machine : StateMachine Name) (name : Name) : List Name :=
  (machine.states name).successors

/-- The end of a state leaves the execution as it is, ends it there, or enters
a successor. -/
theorem leave_cases (machine : StateMachine Name) (execution : Execution Name)
    (state : MachineState Name) (input : Json) (outcome : TaskOutcome) :
    (machine.leave execution state input outcome = execution ∧
        state.successors = []) ∨
      (∃ error, machine.leave execution state input outcome =
        { execution with status := .failed error }) ∨
      ∃ next output, next ∈ state.successors ∧
        machine.leave execution state input outcome = machine.enter execution next output := by
  cases state with
  | succeed => exact Or.inl ⟨rfl, rfl⟩
  | fail error => exact Or.inl ⟨rfl, rfl⟩
  | task resource next catchAll =>
      cases outcome with
      | succeeded output => exact Or.inr (Or.inr ⟨next, output, List.mem_cons_self, rfl⟩)
      | failed error =>
          cases catchAll with
          | none => exact Or.inr (Or.inl ⟨error, rfl⟩)
          | some handler =>
              unfold leave
              dsimp only
              by_cases uncaught : error ∈ uncaughtErrors
              · rw [if_pos uncaught]
                exact Or.inr (Or.inl ⟨error, rfl⟩)
              · rw [if_neg uncaught]
                exact Or.inr (Or.inr ⟨handler, _, by simp [MachineState.successors], rfl⟩)
  | choice field booleanEquals next default =>
      unfold leave
      dsimp only
      cases input.property field with
      | none => exact Or.inr (Or.inl ⟨_, rfl⟩)
      | some value =>
          refine Or.inr (Or.inr ⟨_, _, ?_, rfl⟩)
          by_cases equal : value = .bool booleanEquals
          · simp [equal, MachineState.successors]
          · simp [equal, MachineState.successors]

/-- A step ends the execution where it is, leaves it as it is, or enters a
successor of the state that it is in. -/
theorem step_cases (machine : StateMachine Name) (execution : Execution Name)
    (outcome : TaskOutcome) :
    (machine.step execution outcome = execution ∧
        ∀ name input, execution.status = .running name input → machine.successors name = []) ∨
      (∃ error, machine.step execution outcome = { execution with status := .failed error }) ∨
      ∃ name input next output, execution.status = .running name input ∧
        next ∈ machine.successors name ∧
        machine.step execution outcome = machine.enter execution next output := by
  unfold step
  cases status : execution.status with
  | succeeded => exact Or.inl ⟨rfl, fun _ _ running => by cases running⟩
  | failed error => exact Or.inl ⟨rfl, fun _ _ running => by cases running⟩
  | running name input =>
      rcases machine.leave_cases execution (machine.states name) input outcome with
        ⟨unchanged, terminal⟩ | failed | ⟨next, output, leads, entered⟩
      · exact Or.inl ⟨unchanged, fun _ _ running => by cases running; exact terminal⟩
      · exact Or.inr (Or.inl failed)
      · exact Or.inr (Or.inr ⟨name, input, next, output, rfl, leads, entered⟩)

/-- An execution is never found in a state that ends it. -/
theorem enter_running {machine : StateMachine Name} {execution : Execution Name}
    {entered name : Name} {output input : Json}
    (running : (machine.enter execution entered output).status = .running name input) :
    entered = name ∧ machine.successors name ≠ [] := by
  unfold enter at running
  unfold successors MachineState.successors
  dsimp only at running
  split at running
  · cases running
  · cases running
  · next state =>
      cases running
      simp [state]
  · next state =>
      cases running
      simp [state]

/-- Where every state leads to states of a higher rank, an execution ends
before it has taken as many steps as there are ranks. -/
theorem ended_of_climbs {machine : StateMachine Name} {rank : Name → Nat} {bound : Nat}
    (climbs : ∀ name, ∀ next ∈ machine.successors name, rank name < rank next)
    (bounded : ∀ name, rank name < bound) {input : Json} {outcomes : List TaskOutcome}
    (enough : bound ≤ outcomes.length) (name : Name) (last : Json) :
    (machine.execute input outcomes).status ≠ .running name last := by
  have climbed : ∀ outcomes : List TaskOutcome, ∀ name last,
      (machine.execute input outcomes).status = .running name last →
        outcomes.length ≤ rank name ∧ machine.successors name ≠ [] := by
    intro outcomes
    induction outcomes using List.reverseRecOn with
    | nil => exact fun name last running => ⟨Nat.zero_le _, (enter_running running).2⟩
    | append_singleton prior outcome inductionHypothesis =>
        intro name last running
        have stepped : machine.execute input (prior ++ [outcome]) =
            machine.step (machine.execute input prior) outcome := run_append _ _ _ _
        rw [stepped] at running
        rcases machine.step_cases (machine.execute input prior) outcome with
          ⟨unchanged, terminal⟩ | ⟨error, failed⟩ |
            ⟨before, read, next, output, was, leads, entered⟩
        · rw [unchanged] at running
          exact absurd (terminal name last running) (inductionHypothesis name last running).2
        · rw [failed] at running
          cases running
        · have ranked := (inductionHypothesis before read was).1
          have higher := climbs before next leads
          rw [entered] at running
          obtain ⟨same, leadsOn⟩ := enter_running running
          rw [List.length_append, List.length_singleton, ← same]
          exact ⟨by omega, same ▸ leadsOn⟩
  intro running
  have reached := (climbed outcomes name last running).1
  have below := bounded name
  omega

end StateMachine

end PlatformArchitecture.Foundations
