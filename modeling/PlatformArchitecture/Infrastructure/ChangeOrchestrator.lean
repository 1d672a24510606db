import PlatformArchitecture.Foundations.StatesLanguage

/-!
# The change orchestrator

The state machine of `change-orchestrator.asl.json`.  The impact analysis and
the two tasks of the rollback catch nothing.  No task has a result path, so that
the choice reads what the impact analysis returned, and its default is to go on
without an approval.
-/

namespace PlatformArchitecture.Infrastructure

open PlatformArchitecture.Foundations

inductive ChangeState where
  | validateChange
  | impactAnalysis
  | approvalRequired
  | waitForApproval
  | applyAppConfig
  | runTerraformPlan
  | applyInfrastructure
  | deployApplication
  | smokeTests
  | cloudWatchHealthGate
  | rollback
  | verifyRollback
  | completeChange
  | rolledBack
  | failChange
  deriving DecidableEq

def changeStates : ChangeState → MachineState ChangeState
  | .validateChange => .task "$\x7bValidateChangeArn\x7d" .impactAnalysis (some .failChange)
  | .impactAnalysis => .task "$\x7bImpactAnalysisArn\x7d" .approvalRequired none
  | .approvalRequired => .choice "requiresApproval" true .waitForApproval .applyAppConfig
  | .waitForApproval => .task "$\x7bWaitForApprovalArn\x7d" .applyAppConfig (some .failChange)
  | .applyAppConfig => .task "$\x7bApplyAppConfigArn\x7d" .runTerraformPlan (some .rollback)
  | .runTerraformPlan => .task "$\x7bTerraformPlanArn\x7d" .applyInfrastructure (some .rollback)
  | .applyInfrastructure => .task "$\x7bTerraformApplyArn\x7d" .deployApplication (some .rollback)
  | .deployApplication => .task "$\x7bDeployApplicationArn\x7d" .smokeTests (some .rollback)
  | .smokeTests => .task "$\x7bSmokeTestsArn\x7d" .cloudWatchHealthGate (some .rollback)
  | .cloudWatchHealthGate => .task "$\x7bHealthGateArn\x7d" .completeChange (some .rollback)
  | .rollback => .task "$\x7bRollbackArn\x7d" .verifyRollback none
  | .verifyRollback => .task "$\x7bHealthGateArn\x7d" .rolledBack none
  | .completeChange => .succeed
  | .rolledBack => .fail "ChangeRolledBack"
  | .failChange => .fail "ChangeValidationFailed"

def changeOrchestrator : StateMachine ChangeState where
  startAt := .validateChange
  states := changeStates

/-! ## The courses of a change -/

/-- What comes before a change is applied, with an approval or without. -/
def preparation (approved : Bool) : List ChangeState :=
  [.validateChange, .impactAnalysis, .approvalRequired] ++
    if approved then [.waitForApproval] else []

/-- The tasks that apply a change and check it. -/
def application : List ChangeState :=
  [.applyAppConfig, .runTerraformPlan, .applyInfrastructure, .deployApplication, .smokeTests,
    .cloudWatchHealthGate]

def compensation : List ChangeState :=
  [.rollback, .verifyRollback, .rolledBack]

/-- The impact analysis has returned a `requiresApproval` other than `true`. -/
def NeedsNoApproval (execution : Execution ChangeState) : Prop :=
  ∃ input value, (ChangeState.approvalRequired, input) ∈ execution.entered ∧
    input.property "requiresApproval" = some value ∧ value ≠ .bool true

/-- The states entered are a preparation that lets the change be applied,
followed by the given ones. -/
def Applied (execution : Execution ChangeState) (rest : List ChangeState) : Prop :=
  ∃ approved, execution.names = preparation approved ++ rest ∧
    (approved = true ∨ NeedsNoApproval execution)

/-- A rollback has come as far as `steps`, from one of the tasks that apply the
change. -/
def Compensated (execution : Execution ChangeState) (steps : List ChangeState) : Prop :=
  ∃ done, done ≠ [] ∧ done <+: application ∧ Applied execution (done ++ steps)

/-- What has been entered when an execution is in a state. -/
def Arrived (execution : Execution ChangeState) : ChangeState → Prop
  | .validateChange => execution.names = [.validateChange]
  | .impactAnalysis => execution.names = [.validateChange, .impactAnalysis]
  | .approvalRequired => execution.names = preparation false
  | .waitForApproval => execution.names = preparation true
  | .applyAppConfig => Applied execution (application.take 1)
  | .runTerraformPlan => Applied execution (application.take 2)
  | .applyInfrastructure => Applied execution (application.take 3)
  | .deployApplication => Applied execution (application.take 4)
  | .smokeTests => Applied execution (application.take 5)
  | .cloudWatchHealthGate => Applied execution application
  | .rollback => Compensated execution (compensation.take 1)
  | .verifyRollback => Compensated execution (compensation.take 2)
  | .rolledBack => Compensated execution compensation
  | .completeChange => Applied execution (application ++ [.completeChange])
  | .failChange => execution.names = [.validateChange, .failChange] ∨
      execution.names = preparation true ++ [.failChange]

section Steps

variable {execution : Execution ChangeState} {name next : ChangeState} {output : Json}

theorem NeedsNoApproval.enter (none : NeedsNoApproval execution) :
    NeedsNoApproval (changeOrchestrator.enter execution next output) := by
  obtain ⟨input, value, member, found, differs⟩ := none
  exact ⟨input, value, List.mem_append_left _ member, found, differs⟩

theorem Applied.enter {rest : List ChangeState} (applied : Applied execution rest) :
    Applied (changeOrchestrator.enter execution next output) (rest ++ [next]) := by
  obtain ⟨approved, names, allowed⟩ := applied
  exact ⟨approved, by rw [StateMachine.names_enter, names, List.append_assoc],
    allowed.imp_right NeedsNoApproval.enter⟩

theorem Compensated.enter {steps : List ChangeState} (compensated : Compensated execution steps) :
    Compensated (changeOrchestrator.enter execution next output) (steps ++ [next]) := by
  obtain ⟨done, begun, isPrefix, applied⟩ := compensated
  refine ⟨done, begun, isPrefix, ?_⟩
  rw [← List.append_assoc]
  exact applied.enter

/-- A failure of a task that applies the change begins the rollback. -/
theorem Applied.rollback {count : Nat}
    (applied : Applied execution (application.take (count + 1))) :
    Compensated (changeOrchestrator.enter execution .rollback output) (compensation.take 1) :=
  ⟨application.take (count + 1), by simp [application], List.take_prefix _ _, applied.enter⟩

/-- A task that applies the change leads on to the next one, or its failure
begins the rollback. -/
theorem Applied.task (count : Nat) (applied : Applied execution (application.take (count + 1))) :
    Applied (changeOrchestrator.enter execution next output)
        (application.take (count + 1) ++ [next]) ∧
      ∀ handler, some .rollback = some handler →
        Arrived (changeOrchestrator.enter execution handler output) handler := by
  refine ⟨applied.enter, ?_⟩
  intro handler catches
  cases catches
  exact applied.rollback

/-- A task leads an execution from where it has arrived to where it arrives. -/
theorem Arrived.task {resource : String} {catchAll : Option ChangeState}
    (arrived : Arrived execution name)
    (state : changeStates name = .task resource next catchAll) :
    Arrived (changeOrchestrator.enter execution next output) next ∧
      ∀ handler, catchAll = some handler →
        Arrived (changeOrchestrator.enter execution handler output) handler := by
  cases name with
  | approvalRequired | completeChange | rolledBack | failChange => cases state
  | validateChange =>
      cases state
      have names : execution.names = [.validateChange] := arrived
      refine ⟨by simp [Arrived, names], ?_⟩
      intro handler catches
      cases catches
      exact Or.inl (by simp [names])
  | impactAnalysis =>
      cases state
      have names : execution.names = [.validateChange, .impactAnalysis] := arrived
      refine ⟨by simp [Arrived, names, preparation], ?_⟩
      intro handler catches
      cases catches
  | waitForApproval =>
      cases state
      have names : execution.names = preparation true := arrived
      refine ⟨⟨true, by simp [names, application], Or.inl rfl⟩, ?_⟩
      intro handler catches
      cases catches
      exact Or.inr (by simp [names])
  | applyAppConfig | runTerraformPlan | applyInfrastructure | deployApplication | smokeTests =>
      cases state
      exact Applied.task _ arrived
  | cloudWatchHealthGate =>
      cases state
      exact Applied.task 5 arrived
  | rollback =>
      cases state
      have compensated : Compensated execution (compensation.take 1) := arrived
      refine ⟨compensated.enter, ?_⟩
      intro handler catches
      cases catches
  | verifyRollback =>
      cases state
      have compensated : Compensated execution (compensation.take 2) := arrived
      refine ⟨compensated.enter, ?_⟩
      intro handler catches
      cases catches

/-- Without a `requiresApproval` that is `true` the change is applied. -/
theorem Arrived.choice {input value : Json} (arrived : Arrived execution .approvalRequired)
    (last : execution.entered.getLast? = some (.approvalRequired, input))
    (found : input.property "requiresApproval" = some value) :
    let next := if value = .bool true then ChangeState.waitForApproval else .applyAppConfig
    Arrived (changeOrchestrator.enter execution next input) next := by
  intro next
  have names : execution.names = preparation false := arrived
  by_cases required : value = .bool true
  · have isNext : next = .waitForApproval := if_pos required
    rw [isNext]
    simp [Arrived, names, preparation]
  · have isNext : next = .applyAppConfig := if_neg required
    have member : (ChangeState.approvalRequired, input) ∈ execution.entered :=
      List.mem_of_getLast? last
    have free : NeedsNoApproval execution := ⟨input, value, member, found, required⟩
    rw [isNext]
    exact ⟨false, by simp [names, application], Or.inr free.enter⟩

end Steps

/-! ## Executions -/

/-- What the status of an execution says about the last state it has entered. -/
def StatusFits (status : ExecutionStatus ChangeState) (last : ChangeState) (input : Json) : Prop :=
  match status with
  | .running name now => last = name ∧ input = now
  | .succeeded => last = .completeChange
  | .failed error =>
      last ≠ .completeChange ∧ (last ∈ application → error ∈ StateMachine.uncaughtErrors)

/-- An execution is on one of the courses of a change. -/
def OnCourse (execution : Execution ChangeState) : Prop :=
  ∃ last input, Arrived execution last ∧ execution.entered.getLast? = some (last, input) ∧
    StatusFits execution.status last input

theorem OnCourse.entered {execution : Execution ChangeState} {next : ChangeState} {output : Json}
    (arrived : Arrived (changeOrchestrator.enter execution next output) next) :
    OnCourse (changeOrchestrator.enter execution next output) := by
  refine ⟨next, output, arrived, by simp [StateMachine.enter], ?_⟩
  cases next with
  | completeChange => exact rfl
  | rolledBack | failChange => exact ⟨by simp, by simp [application]⟩
  | validateChange | impactAnalysis | approvalRequired | waitForApproval | applyAppConfig
  | runTerraformPlan | applyInfrastructure | deployApplication | smokeTests
  | cloudWatchHealthGate | rollback | verifyRollback => exact ⟨rfl, rfl⟩

/-- Only the tasks that apply a change are caught by the rollback, and all of
them are. -/
theorem mem_application_iff (name : ChangeState) :
    name ∈ application ↔
      ∃ resource next, changeStates name = .task resource next (some .rollback) := by
  cases name <;> simp [application, changeStates]

theorem OnCourse.step {execution : Execution ChangeState} (onCourse : OnCourse execution)
    (outcome : TaskOutcome) : OnCourse (changeOrchestrator.step execution outcome) := by
  obtain ⟨last, read, arrived, isLast, fits⟩ := onCourse
  unfold StateMachine.step
  cases status : execution.status with
  | succeeded => exact ⟨last, read, arrived, isLast, fits⟩
  | failed error => exact ⟨last, read, arrived, isLast, fits⟩
  | running name input =>
      rw [status] at fits
      obtain ⟨rfl, rfl⟩ := fits
      have fails : ∀ error, (last ∈ application → error ∈ StateMachine.uncaughtErrors) →
          last ≠ .completeChange → OnCourse { execution with status := .failed error } :=
        fun error uncaught incomplete => ⟨last, read, arrived, isLast, incomplete, uncaught⟩
      have unchanged : OnCourse execution :=
        ⟨last, read, arrived, isLast, by rw [status]; exact ⟨rfl, rfl⟩⟩
      change OnCourse (changeOrchestrator.leave execution (changeStates last) read outcome)
      cases state : changeStates last with
      | succeed | fail error => exact unchanged
      | choice field booleanEquals next default =>
          cases last <;> cases state
          unfold StateMachine.leave
          dsimp only
          cases found : read.property "requiresApproval" with
          | none => exact fails _ (fun _ => List.mem_cons_self) (by simp)
          | some value => exact OnCourse.entered (arrived.choice isLast found)
      | task resource next catchAll =>
          have leads := fun output => @Arrived.task _ _ _ output _ _ arrived state
          have incomplete : last ≠ .completeChange := by
            rintro rfl
            cases state
          cases outcome with
          | succeeded output => exact OnCourse.entered (leads output).1
          | failed error =>
              cases catches : catchAll with
              | some handler =>
                  unfold StateMachine.leave
                  dsimp only
                  by_cases uncaught : error ∈ StateMachine.uncaughtErrors
                  · rw [if_pos uncaught]
                    exact fails error (fun _ => uncaught) incomplete
                  · rw [if_neg uncaught]
                    exact OnCourse.entered ((leads _).2 handler catches)
              | none =>
                  apply fails error _ incomplete
                  intro member
                  obtain ⟨_, _, isTask⟩ := (mem_application_iff last).mp member
                  rw [state, catches] at isTask
                  cases isTask

theorem onCourse_execute (input : Json) (outcomes : List TaskOutcome) :
    OnCourse (changeOrchestrator.execute input outcomes) := by
  apply run_invariant_of_step
  · exact fun execution outcome onCourse => onCourse.step outcome
  · exact OnCourse.entered rfl

/-- How far each state is from the first, at the least. -/
def changeRank : ChangeState → Nat
  | .validateChange => 0
  | .impactAnalysis => 1
  | .approvalRequired => 2
  | .waitForApproval => 3
  | .applyAppConfig => 4
  | .runTerraformPlan => 5
  | .applyInfrastructure => 6
  | .deployApplication => 7
  | .smokeTests => 8
  | .cloudWatchHealthGate => 9
  | .rollback => 10
  | .verifyRollback => 11
  | .completeChange | .rolledBack | .failChange => 12

theorem changeRank_climbs (name : ChangeState) :
    ∀ next ∈ changeOrchestrator.successors name, changeRank name < changeRank next := by
  cases name <;>
    simp [StateMachine.successors, MachineState.successors, changeOrchestrator, changeStates,
      changeRank]

/-- The state that a change is applied from is entered with an approval, or
when none is needed. -/
theorem approved_of_applied {execution : Execution ChangeState} {rest : List ChangeState}
    (applied : Applied execution rest) :
    ChangeState.waitForApproval ∈ execution.names ∨ NeedsNoApproval execution := by
  obtain ⟨approved, names, allowed⟩ := applied
  apply allowed.imp_left
  rintro rfl
  rw [names]
  simp [preparation]

/-- The last state that is entered tells whether the change has been applied. -/
theorem Arrived.applied {execution : Execution ChangeState} {last : ChangeState}
    (arrived : Arrived execution last)
    (member : ChangeState.applyAppConfig ∈ execution.names) :
    (last ∈ application ∧ ∃ done, Applied execution done) ∨
      (last = .completeChange ∧ Applied execution (application ++ [.completeChange])) ∨
      ∃ steps, steps ≠ [] ∧ steps <+: compensation ∧ Compensated execution steps := by
  have prepared : ∀ approved, ChangeState.applyAppConfig ∉ preparation approved := by
    intro approved
    cases approved <;> simp [preparation]
  cases last with
  | validateChange =>
      have names : execution.names = [.validateChange] := arrived
      simp [names] at member
  | impactAnalysis =>
      have names : execution.names = [.validateChange, .impactAnalysis] := arrived
      simp [names] at member
  | approvalRequired =>
      have names : execution.names = preparation false := arrived
      exact absurd (names ▸ member) (prepared false)
  | waitForApproval =>
      have names : execution.names = preparation true := arrived
      exact absurd (names ▸ member) (prepared true)
  | failChange =>
      rcases arrived with names | names
      · simp [names] at member
      · simp [names, preparation] at member
  | applyAppConfig | runTerraformPlan | applyInfrastructure | deployApplication | smokeTests
  | cloudWatchHealthGate => exact Or.inl ⟨by simp [application], _, arrived⟩
  | completeChange => exact Or.inr (Or.inl ⟨rfl, arrived⟩)
  | rollback => exact Or.inr (Or.inr ⟨_, by simp [compensation], List.take_prefix _ _, arrived⟩)
  | verifyRollback =>
      exact Or.inr (Or.inr ⟨_, by simp [compensation], List.take_prefix _ _, arrived⟩)
  | rolledBack => exact Or.inr (Or.inr ⟨_, by simp [compensation], List.prefix_rfl, arrived⟩)

/-- What is certain of every execution, whatever its tasks do. -/
structure Orchestrated (execution : Execution ChangeState) : Prop where
  /-- Nothing is applied without an approval that the impact analysis asks for. -/
  approval : .applyAppConfig ∈ execution.names →
    .waitForApproval ∈ execution.names ∨ NeedsNoApproval execution
  /-- Success means that every task that applies and checks the change has run,
  in order and once, and no rollback. -/
  success : execution.status = .succeeded →
    ∃ approved, execution.names = preparation approved ++ application ++ [.completeChange]
  /-- A change that was begun and failed by an error that `States.ALL` catches has
  gone into the rollback, and nothing of it is applied after that. -/
  compensated : ∀ error, execution.status = .failed error →
    error ∉ StateMachine.uncaughtErrors → .applyAppConfig ∈ execution.names →
      ∃ approved done steps, done ≠ [] ∧ done <+: application ∧ steps ≠ [] ∧
        steps <+: compensation ∧ execution.names = preparation approved ++ done ++ steps

theorem OnCourse.orchestrated {execution : Execution ChangeState}
    (onCourse : OnCourse execution) : Orchestrated execution := by
  obtain ⟨last, read, arrived, isLast, fits⟩ := onCourse
  constructor
  · intro member
    rcases arrived.applied member with ⟨-, done, applied⟩ | ⟨-, applied⟩ | ⟨_, _, _, compensated⟩
    · exact approved_of_applied applied
    · exact approved_of_applied applied
    · obtain ⟨done, -, -, applied⟩ := compensated
      exact approved_of_applied applied
  · intro succeeded
    rw [succeeded] at fits
    have complete : last = .completeChange := fits
    subst complete
    obtain ⟨approved, names, -⟩ := arrived
    exact ⟨approved, by rw [names, List.append_assoc]⟩
  · intro error failed unusual member
    rw [failed] at fits
    rcases arrived.applied member with ⟨applies, -⟩ | ⟨complete, -⟩ |
      ⟨steps, begun, isPart, done, doneBegun, donePart, approved, names, -⟩
    · exact absurd (fits.2 applies) unusual
    · exact absurd complete fits.1
    · exact ⟨approved, done, steps, doneBegun, donePart, begun, isPart,
        by rw [names, List.append_assoc]⟩

/-- Every execution of the orchestrator is approved where it must be, complete
where it succeeds and compensated where it fails, and has ended after thirteen
steps. -/
theorem changeOrchestrator_executions (input : Json) (outcomes : List TaskOutcome) :
    Orchestrated (changeOrchestrator.execute input outcomes) ∧
      (13 ≤ outcomes.length → ∀ name last,
        (changeOrchestrator.execute input outcomes).status ≠ .running name last) := by
  refine ⟨(onCourse_execute input outcomes).orchestrated, ?_⟩
  intro enough name last
  apply StateMachine.ended_of_climbs changeRank_climbs _ enough
  intro state
  cases state <;> simp [changeRank]

end PlatformArchitecture.Infrastructure
