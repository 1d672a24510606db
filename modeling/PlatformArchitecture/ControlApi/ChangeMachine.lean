import PlatformArchitecture.ControlApi.Operators
import PlatformArchitecture.Foundations.Json

/-!
# The change state machine

`ChangeStateMachine` creates a change in `DRAFT` and moves it along the table
`forward`, appending an audit entry for every state it enters.
-/

namespace PlatformArchitecture.ControlApi

open PlatformArchitecture.Foundations

inductive ChangeState where
  | draft
  | validating
  | impactAnalysis
  | waitingApproval
  | approved
  | provisioning
  | deploying
  | verifying
  | stabilizing
  | completed
  | failed
  | rollingBack
  | rolledBack
  deriving DecidableEq, Repr

namespace ChangeState

def all : List ChangeState :=
  [draft, validating, impactAnalysis, waitingApproval, approved, provisioning,
    deploying, verifying, stabilizing, completed, failed, rollingBack, rolledBack]

def text : ChangeState → String
  | draft => "DRAFT"
  | validating => "VALIDATING"
  | impactAnalysis => "IMPACT_ANALYSIS"
  | waitingApproval => "WAITING_APPROVAL"
  | approved => "APPROVED"
  | provisioning => "PROVISIONING"
  | deploying => "DEPLOYING"
  | verifying => "VERIFYING"
  | stabilizing => "STABILIZING"
  | completed => "COMPLETED"
  | failed => "FAILED"
  | rollingBack => "ROLLING_BACK"
  | rolledBack => "ROLLED_BACK"

/-- The state a text names. -/
def ofText? (value : String) : Option ChangeState :=
  all.find? fun state => state.text = value

theorem ofText?_text (state : ChangeState) : ofText? state.text = some state := by
  cases state <;> decide

theorem text_of_ofText? {value : String} {state : ChangeState}
    (found : ofText? value = some state) : state.text = value := by
  simpa using List.find?_some found

theorem text_injective {first second : ChangeState} (same : first.text = second.text) :
    first = second := by
  have found := ofText?_text first
  rw [same, ofText?_text second] at found
  exact (Option.some.inj found).symm

/-- The transition table. -/
def forward : ChangeState → List ChangeState
  | draft => [validating]
  | validating => [impactAnalysis, failed]
  | impactAnalysis => [waitingApproval, approved, failed]
  | waitingApproval => [approved, failed]
  | approved => [provisioning, deploying, failed]
  | provisioning => [deploying, failed]
  | deploying => [verifying, failed]
  | verifying => [stabilizing, failed]
  | stabilizing => [completed, failed]
  | failed => [rollingBack]
  | rollingBack => [rolledBack]
  | completed => []
  | rolledBack => []

end ChangeState

/-- One entry of the audit list of a change. -/
structure ChangeAudit where
  state : ChangeState
  time : String
  actorId : String
  note : Option Json
  deriving DecidableEq

structure ChangeRequest where
  id : String
  environment : String
  actorId : String
  operation : Option Json
  capability : Option Json
  desired : Option Json
  state : ChangeState
  approvedBy : Option String
  createdAt : String
  updatedAt : String
  audit : List ChangeAudit
  deriving DecidableEq

/-- What `create` is given. -/
structure ChangeInput where
  operation : Option Json
  capability : Option Json
  desired : Option Json
  environment : String
  actorId : String

namespace ChangeStateMachine

/-- `id` is the random id, `now` the time of the call. -/
def create (id now : String) (input : ChangeInput) : ChangeRequest :=
  { id
    environment := input.environment
    actorId := input.actorId
    operation := input.operation
    capability := input.capability
    desired := input.desired
    state := .draft
    approvedBy := none
    createdAt := now
    updatedAt := now
    audit := [⟨.draft, now, input.actorId, none⟩] }

/-- The state of the table that a requested value names. -/
def requestedState (next : Option Json) : Option ChangeState :=
  match next with
  | some (.str value) => ChangeState.ofText? value
  | _ => none

/-- A value that the table does not allow throws an error without a status. -/
def transition (now : String) (change : ChangeRequest) (next : Option Json)
    (actorId : String) (note : Option Json) : Except ApiError ChangeRequest :=
  match requestedState next with
  | none => .error .internal
  | some state =>
      if state ∈ change.state.forward then
        .ok { change with
          state
          updatedAt := now
          audit := change.audit ++ [⟨state, now, actorId, note⟩] }
      else
        .error .internal

/-- What a transition that does not throw returns. -/
theorem transition_ok {now actorId : String} {change moved : ChangeRequest}
    {next note : Option Json}
    (passes : transition now change next actorId note = .ok moved) :
    ∃ state ∈ change.state.forward,
      requestedState next = some state ∧
      moved = { change with
        state
        updatedAt := now
        audit := change.audit ++ [⟨state, now, actorId, note⟩] } := by
  unfold transition at passes
  split at passes
  · cases passes
  · next state requested =>
    split at passes
    · next allowed =>
      cases passes
      exact ⟨state, allowed, requested, rfl⟩
    · cases passes

end ChangeStateMachine

inductive ControlOperation where
  | disableCapability
  | stopInfrastructure
  | destroyInfrastructure
  | changeProvider
  | computeMigration
  deriving DecidableEq

structure OperationSemantics where
  destructive : Bool
  description : String

def operationSemantics : ControlOperation → OperationSemantics
  | .disableCapability =>
      ⟨false, "Stop application usage and activate fallback/degraded mode; infrastructure remains intact."⟩
  | .stopInfrastructure =>
      ⟨false, "Stop/deactivate a provider only if the provider safely supports it."⟩
  | .destroyInfrastructure =>
      ⟨true, "Remove via IaC only after stabilization, approval, backup and retention checks."⟩
  | .changeProvider =>
      ⟨false, "Validated provider cutover with health verification and rollback."⟩
  | .computeMigration =>
      ⟨false, "Parallel environment migration with incremental traffic shift."⟩

/-- The operation a value of a request body names. -/
def ControlOperation.ofJson? : Option Json → Option ControlOperation
  | some (.str "disable-capability") => some .disableCapability
  | some (.str "stop-infrastructure") => some .stopInfrastructure
  | some (.str "destroy-infrastructure") => some .destroyInfrastructure
  | some (.str "change-provider") => some .changeProvider
  | some (.str "compute-migration") => some .computeMigration
  | _ => none

end PlatformArchitecture.ControlApi
