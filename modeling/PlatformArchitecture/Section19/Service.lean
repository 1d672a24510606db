import PlatformArchitecture.ControlApi.ChangeMachine
import PlatformArchitecture.Foundations.Checks
import PlatformArchitecture.Section19.Repository

/-!
# The control plane service

`ControlPlaneService` creates changes from an object, moves them along its own
copy of the transition table and activates configuration versions.
-/

namespace PlatformArchitecture.Section19

open PlatformArchitecture.ControlApi
open PlatformArchitecture.Foundations

/-- Who makes a request, and what the runtime supplies to it. -/
structure PlatformContext where
  operator : Operator
  requestId : String
  now : String
  randomId : String

def transitions : List (String × List String) :=
  [("DRAFT", ["VALIDATING"]),
    ("VALIDATING", ["IMPACT_ANALYSIS", "FAILED"]),
    ("IMPACT_ANALYSIS", ["WAITING_APPROVAL", "APPROVED", "FAILED"]),
    ("WAITING_APPROVAL", ["APPROVED", "FAILED"]),
    ("APPROVED", ["PROVISIONING", "DEPLOYING", "FAILED"]),
    ("PROVISIONING", ["DEPLOYING", "FAILED"]),
    ("DEPLOYING", ["VERIFYING", "FAILED"]),
    ("VERIFYING", ["STABILIZING", "FAILED"]),
    ("STABILIZING", ["COMPLETED", "FAILED"]),
    ("FAILED", ["ROLLING_BACK"]),
    ("ROLLING_BACK", ["ROLLED_BACK"])]

/-- `transitions[status] ?? []`; what is inherited has no `includes`. -/
def allowedNext (status : String) : Except ApiError (List String) :=
  match transitions.lookup status with
  | some allowed => .ok allowed
  | none => if status ∈ inheritedProperties then .error .internal else .ok []

/-- The table is that of `ChangeStateMachine`. -/
theorem transitions_eq_forward (state : ChangeState) :
    allowedNext state.text = .ok (state.forward.map ChangeState.text) := by
  cases state <;> decide

/-- A status with a next one names a state of that machine. -/
theorem state_of_allowedNext {status next : String} {allowed : List String}
    (found : allowedNext status = .ok allowed) (member : next ∈ allowed) :
    ∃ state : ChangeState, state.text = status := by
  unfold allowedNext at found
  split at found
  · next listed isListed =>
    have named : ∀ entry ∈ transitions, (ChangeState.ofText? entry.1).isSome := by
      decide
    have inTable : (status, listed) ∈ transitions := by
      obtain ⟨before, after, split, -⟩ := List.lookup_eq_some_iff.mp isListed
      rw [split]
      exact List.mem_append_right _ List.mem_cons_self
    obtain ⟨state, isState⟩ := Option.isSome_iff_exists.mp (named _ inTable)
    exact ⟨state, ChangeState.text_of_ofText? isState⟩
  · split at found
    · cases found
    · cases found
      cases member

/-- The checks of `transition` on the change it has read. -/
def checkTransition (actor : String) (change : PlatformChange) (next : ChangeState) :
    Except ApiError Unit := do
  let allowed ← allowedNext change.status
  throwIf (next.text ∉ allowed)
    ⟨409, "INVALID_CHANGE_TRANSITION",
      "Invalid transition " ++ change.status ++ " -> " ++ next.text⟩
  throwIf (next = .approved ∧ change.environment = "production" ∧
      actor = change.requestedBy)
    ⟨403, "SEPARATION_OF_DUTIES", "Production requestor cannot self-approve"⟩

/-- The change that `transition` saves. -/
def updatedChange (now actor : String) (change : PlatformChange) (next : ChangeState) :
    PlatformChange :=
  { change with
    status := next.text
    approvedBy := if next = .approved then some actor else change.approvedBy
    startedAt := if next ∈ [.provisioning, .deploying] then some now else change.startedAt
    completedAt := if next ∈ [.completed, .rolledBack] then some now else change.completedAt }

namespace ControlPlaneService

def requireChange (id : String) : PlatformProgram PlatformChange := do
  let change ← PostgresControlPlaneRepository.getChange id
  match change with
  | none => throw ⟨404, "CHANGE_NOT_FOUND", "Change not found"⟩
  | some change => return change

def audit (timestamp : String) (actor : Option Json) (action : String)
    (resource environment correlationId : Option Json) (oldValue newValue : Option Json) :
    PlatformProgram Unit :=
  PostgresControlPlaneRepository.appendAudit
    (defined
      [("actor", actor), ("action", some (.str action)), ("resource", resource),
        ("environment", environment), ("correlationId", correlationId),
        ("result", some (.str "SUCCESS")), ("timestamp", some (.str timestamp)),
        ("oldValue", oldValue), ("newValue", newValue)])

/-- The properties of the input hide the generated ones. -/
def newChange (context : PlatformContext) (input : JsObject) : JsObject :=
  spread
    [("changeId", .str context.randomId), ("requestedAt", .str context.now),
      ("status", .str "DRAFT")]
    input

def createChange (context : PlatformContext) (input : JsObject) :
    PlatformProgram JsObject := do
  Program.check
    (throwIf (input.lookup "riskLevel" = some (.str "LOCKED"))
      ⟨409, "LOCKED_CAPABILITY", "Locked capabilities cannot be changed"⟩)
  let change := newChange context input
  PostgresControlPlaneRepository.saveChange change
  audit context.now (input.lookup "requestedBy") "change.create" (change.lookup "changeId")
    (input.lookup "environment") (input.lookup "correlationId") (input.lookup "oldState")
    (input.lookup "desiredState")
  return change

def transition (context : PlatformContext) (id : String) (next : ChangeState) :
    PlatformProgram PlatformChange := do
  let actor := context.operator.userId
  let change ← requireChange id
  Program.check (checkTransition actor change next)
  let updated := updatedChange context.now actor change next
  PostgresControlPlaneRepository.saveChange updated.toObject
  audit context.now (some (.str actor)) ("change." ++ next.text.map Char.toLower)
    (some (.str id)) (some (.str change.environment)) (some (.str context.requestId))
    (some (.obj change.toObject)) (some (.obj updated.toObject))
  return updated

/-- `version` is `Number(request.params.version)`, where `NaN` is `none`. -/
def activateConfig (context : PlatformContext) (environment : String)
    (version : Option JsNumber) : PlatformProgram Unit := do
  PostgresControlPlaneRepository.activateConfigVersion environment version
  audit context.now (some (.str context.operator.userId)) "config.activate"
    (some (.str ((version.map fun number => (Json.num number).text).getD "NaN")))
    (some (.str environment)) (some (.str context.requestId)) none none

end ControlPlaneService

end PlatformArchitecture.Section19
