import PlatformArchitecture.ConfigEngine.Validate
import PlatformArchitecture.ControlApi.ControlStore
import PlatformArchitecture.ControlApi.SecretMetadata

/-!
# The routes of `/v1/control`

The handlers of the requests that can change something, statement by
statement.  A handler reads its operator, its parameters and a body of any
JSON shape; `now` and `randomId` are what the clock and `randomUUID` return
for the request.
-/

namespace PlatformArchitecture.ControlApi

open PlatformArchitecture.ConfigEngine
open PlatformArchitecture.Foundations
open PlatformArchitecture.PolicyEngine
open PlatformArchitecture.Postgres

/-- Who makes a request, and what the runtime supplies to it. -/
structure RequestContext where
  operator : Operator
  now : String
  randomId : String

/-- What a handler answers with when it succeeds. -/
inductive ControlAnswer where
  | change (change : ChangeRequest)
  | desiredState (configVersion : Nat) (desiredState : Json)
  | page (data : Json)
  | read

/-! ## `PUT /v1/control/desired-state` -/

def approvedMutationStates : List ChangeState :=
  [.approved, .provisioning, .deploying, .verifying, .stabilizing, .completed]

/-- The check that a production write names an approved change. -/
def ChangeRequest.allowsMutation (change : ChangeRequest) : Prop :=
  change.environment = "production" ∧ change.approvedBy.any (· ≠ "") ∧
    change.state ∈ approvedMutationStates

instance (change : ChangeRequest) : Decidable change.allowsMutation :=
  inferInstanceAs (Decidable (_ ∧ _ ∧ _))

def namedChange (changeId : Option String) : ControlProgram (Option ChangeRequest) :=
  match changeId with
  | none => pure none
  | some changeId => PostgresControlStore.getChange changeId

def requireApprovedChange (changeId : Option String) : ControlProgram Unit := do
  let change ← namedChange changeId
  Program.check
    (throwIf (¬ ∃ approved ∈ change, approved.allowsMutation)
      ⟨409, "APPROVED_PRODUCTION_CHANGE_REQUIRED",
        "Production desired-state changes require an approved control-plane change request."⟩)

def recordApplied (changeId : Option String) (operator : Operator) : ControlProgram Unit :=
  match changeId with
  | none => pure ()
  | some changeId =>
      PostgresControlStore.recordAudit
        [("type", .str "desired-state.applied-from-change"),
          ("changeId", .str changeId), ("actorId", .str operator.userId)]

/-- The desired state is written once every check has passed. -/
def applyDesiredState (changeId : Option String) (operator : Operator)
    (body : Option Json) : ControlProgram ControlAnswer := do
  PostgresControlStore.setDesiredState (body.getD .null) operator.userId
  recordApplied changeId operator
  let configVersion ← PostgresControlStore.getConfigVersion
  let desiredState ← PostgresControlStore.getDesiredState
  return .desiredState configVersion desiredState

def putDesiredState (environment : String) (operator : Operator)
    (changeHeader : Option String) (body : Option Json) :
    ControlProgram ControlAnswer := do
  Program.check (requireControlWrite operator)
  Program.check
    (throwIf (!(validatePlatformState body environment).valid)
      ⟨409, "INVALID_DESIRED_STATE",
        "Desired state failed schema, dependency or locked-capability validation"⟩)
  if environment = "production" then
    -- An empty header is falsy.
    let changeId := changeHeader.filter (· ≠ "")
    requireApprovedChange changeId
    applyDesiredState changeId operator body
  else
    applyDesiredState none operator body

/-! ## `PUT /v1/control/pages/:page` -/

def putPage (operator : Operator) (page : String) (body : Option Json) :
    ControlProgram ControlAnswer := do
  Program.check (requireControlWrite operator)
  match ControlPage.ofText? page with
  | none =>
      throw ⟨404, "CONTROL_PAGE_NOT_FOUND", "Unknown control-center page"⟩
  | some page =>
      if page = .secrets then
        Program.check (assertSecretMetadataOnly "secrets" (body.getD .null))
      PostgresControlStore.setPage page body operator.userId
      let data ← PostgresControlStore.getPage page
      return .page (if page = .secrets then redactSecretMaterial "" data else data)

/-! ## `POST /v1/control/changes` -/

/-- The change a request body asks for, after every check on it. -/
def requestedChange (environment : String) (context : RequestContext)
    (body : Option Json) : Except ApiError ChangeRequest := do
  throwIf (body.getD .null = .null) ApiError.internal
  let requested := optionalProperty body "environment"
  throwIf (truthy requested ∧ requested ≠ some (.str environment))
    ⟨409, "ENVIRONMENT_SCOPE_MISMATCH",
      "Control API is scoped to " ++ environment ++ "; requested " ++
        (requested.map Json.text).getD ""⟩
  let operation := optionalProperty body "operation"
  let capability := optionalProperty body "capability"
  let known := ControlOperation.ofJson? operation
  throwIf (known = some .destroyInfrastructure)
    ⟨409, "DESTRUCTIVE_ACTION_REQUIRES_ORCHESTRATOR",
      (operationSemantics .destroyInfrastructure).description⟩
  if environment = "production" ∧
      known ∈ [some .disableCapability, some .stopInfrastructure] then
    match capability with
    | some (.str capability) =>
        throwIf (isLockedProductionCapability capability)
          ⟨409, "LOCKED_PRODUCTION_CAPABILITY",
            capability ++ " cannot be disabled or stopped in production"⟩
    -- `trim` is not a function of other values.
    | _ => .error .internal
  return ChangeStateMachine.create context.randomId context.now
    { operation, capability
      desired := optionalProperty body "desired"
      environment
      actorId := context.operator.userId }

def postChange (environment : String) (context : RequestContext) (body : Option Json) :
    ControlProgram ControlAnswer := do
  Program.check (requireControlWrite context.operator)
  let change ← Program.check (requestedChange environment context body)
  PostgresControlStore.saveChange change
  return .change change

/-! ## `POST /v1/control/changes/:id/transition` -/

/-- What the handler makes of the change it has read. -/
def decideTransition (context : RequestContext) (current : ChangeRequest)
    (body : Option Json) : Except ApiError ChangeRequest := do
  throwIf (body.getD .null = .null) ApiError.internal
  let next := optionalProperty body "next"
  let approves := next = some (.str "APPROVED")
  throwIf (current.environment = "production" ∧ current.state = .impactAnalysis ∧ approves)
    ⟨409, "PRODUCTION_APPROVAL_STAGE_REQUIRED",
      "Production changes must enter WAITING_APPROVAL before APPROVED"⟩
  throwIf (current.environment = "production" ∧ approves ∧
      current.actorId = context.operator.userId)
    ⟨403, "SEPARATION_OF_DUTIES",
      "The production change requestor cannot approve their own change."⟩
  let moved ←
    ChangeStateMachine.transition context.now current next context.operator.userId
      (optionalProperty body "note")
  return if approves then { moved with approvedBy := some context.operator.userId }
    else moved

def postTransition (context : RequestContext) (id : String) (body : Option Json) :
    ControlProgram ControlAnswer := do
  Program.check (requireControlWrite context.operator)
  let current ← PostgresControlStore.getChange id
  match current with
  | none => throw ⟨404, "CHANGE_NOT_FOUND", "Change request not found"⟩
  | some current =>
      let next ← Program.check (decideTransition context current body)
      PostgresControlStore.saveChange next
      return .change next

/-! ## `POST /v1/control/emergency` -/

/-- `object[key] = value`; assigning a boolean to `__proto__` does nothing. -/
def assign (key : String) (value : Json) (fields : JsObject) : JsObject :=
  if key = "__proto__" then fields
  else upsertRow Prod.fst (fun _ field => field) (key, value) fields

/-- The emergency page after a request. -/
def emergencyData (current : Json) (body : Json) : JsObject :=
  let killSwitches := spreadable (current.property "killSwitches")
  let killSwitch := body.property "killSwitch"
  let switched :=
    if truthy killSwitch then
      assign ((killSwitch.map Json.text).getD "")
        (.bool (truthy (body.property "enabled"))) killSwitches
    else killSwitches
  let notNull := fun value : Option Json => value.filter (· ≠ .null)
  let maintenanceMode :=
    ((notNull (body.property "maintenanceMode")).or
      (notNull (current.property "maintenanceMode"))).getD (.bool false)
  assign "killSwitches" (.obj switched)
    (assign "maintenanceMode" maintenanceMode current.entries)

def postEmergency (operator : Operator) (body : Option Json) :
    ControlProgram ControlAnswer := do
  Program.check (requireControlWrite operator)
  let current ← PostgresControlStore.getPage .emergency
  Program.check (throwIf (body.getD .null = .null) ApiError.internal)
  let data := emergencyData current (body.getD .null)
  PostgresControlStore.setPage .emergency (some (.obj data)) operator.userId
  PostgresControlStore.recordAudit
    [("type", .str "emergency.desired-state.updated"),
      ("actorId", .str operator.userId), ("data", .obj data)]
  let page ← PostgresControlStore.getPage .emergency
  return .page page

/-! ## All requests -/

/-- A request of the `/v1/control` API.  `previewWorkflow` and `read` stand for
the routes that issue no write. -/
inductive ControlRequest where
  | putDesiredState (changeHeader : Option String) (body : Option Json)
  | putPage (page : String) (body : Option Json)
  | postChange (body : Option Json)
  | postTransition (id : String) (body : Option Json)
  | postEmergency (body : Option Json)
  | previewWorkflow
  | read

def handleControl (environment : String) (context : RequestContext) :
    ControlRequest → ControlProgram ControlAnswer
  | .putDesiredState changeHeader body =>
      putDesiredState environment context.operator changeHeader body
  | .putPage page body => putPage context.operator page body
  | .postChange body => postChange environment context body
  | .postTransition id body => postTransition context id body
  | .postEmergency body => postEmergency context.operator body
  | .previewWorkflow => do
      Program.check (requireControlWrite context.operator)
      return .read
  | .read => pure .read

end PlatformArchitecture.ControlApi
