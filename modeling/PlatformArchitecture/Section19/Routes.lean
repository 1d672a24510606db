import PlatformArchitecture.ConfigEngine.Validate
import PlatformArchitecture.PolicyEngine.PlatformPolicy
import PlatformArchitecture.Section19.Service

/-!
# The Section 19 routes

The handlers of `registerSection19Routes` that can change something.  A body is
spread over the fields that the route supplies, so it can hide any of them.
-/

namespace PlatformArchitecture.Section19

open PlatformArchitecture.ConfigEngine
open PlatformArchitecture.ControlApi
open PlatformArchitecture.Foundations
open PlatformArchitecture.PolicyEngine

/-- What a handler answers with when it succeeds. -/
inductive PlatformAnswer where
  | created (change : JsObject)
  | change (change : PlatformChange)
  | activated (version : Option JsNumber)
  | read

/-- The input that the route makes of a body. -/
def createInput (environment : String) (context : PlatformContext) (body : Option Json) :
    JsObject :=
  spread
    [("environment", .str environment), ("requestedBy", .str context.operator.userId),
      ("correlationId", .str context.requestId)]
    (spreadable body)

def create (environment : String) (context : PlatformContext) (body : Option Json) :
    PlatformProgram PlatformAnswer := do
  let change ← ControlPlaneService.createChange context (createInput environment context body)
  return .created change

def move (context : PlatformContext) (id : String) (next : ChangeState) :
    PlatformProgram PlatformAnswer := do
  let change ← ControlPlaneService.transition context id next
  return .change change

def checkDesiredState (environment : String) (body : Option Json) : Except ApiError Unit :=
  let desiredState := optionalProperty body "desiredState"
  throwIf (truthy desiredState ∧ !(validatePlatformState desiredState environment).valid)
    ⟨409, "INVALID_DESIRED_STATE", "Desired state validation failed"⟩

def validate (environment : String) (context : PlatformContext) (id : String)
    (body : Option Json) : PlatformProgram PlatformAnswer := do
  Program.check (checkDesiredState environment body)
  move context id .validating

def switchClassOf : RiskLevel → SwitchClass
  | .red => .computeMigration
  | .amber => .infrastructure
  | _ => .applicationProvider

def approvalPolicy (environment : String) (context : PlatformContext)
    (change : PlatformChange) : PolicyDecision :=
  evaluatePlatformPolicy
    { environment
      actorRoles := context.operator.context.roles
      switchClass := switchClassOf change.riskLevel
      operation := .changeProvider
      capability := change.capability
      approved := true }

def approve (environment : String) (context : PlatformContext) (id : String) :
    PlatformProgram PlatformAnswer := do
  let change ← ControlPlaneService.requireChange id
  let policy := approvalPolicy environment context change
  Program.check
    (throwIf (!policy.allowed)
      ⟨403, "POLICY_REJECTED", ",".intercalate policy.reasons⟩)
  move context id .approved

/-- A request of the `/platform` routes.  `read` stands for those that issue no
write. -/
inductive PlatformRequest where
  | create (body : Option Json)
  | validate (id : String) (body : Option Json)
  | plan (id : String)
  | approve (id : String)
  | apply (id : String)
  | rollback (id : String)
  | activateConfig (version : Option JsNumber)
  | read

def handlePlatform (environment : String) (context : PlatformContext) :
    PlatformRequest → PlatformProgram PlatformAnswer
  | .create body => create environment context body
  | .validate id body => validate environment context id body
  | .plan id => move context id .impactAnalysis
  | .approve id => approve environment context id
  | .apply id => move context id .provisioning
  | .rollback id => move context id .rollingBack
  | .activateConfig version => do
      ControlPlaneService.activateConfig context environment version
      return .activated version
  | .read => pure .read

/-- The body of a create request. -/
def PlatformRequest.created : PlatformRequest → Option (Option Json)
  | .create body => some body
  | _ => none

/-- The transition that a request asks for. -/
def PlatformRequest.transition : PlatformRequest → Option (String × ChangeState)
  | .validate id _ => some (id, .validating)
  | .plan id => some (id, .impactAnalysis)
  | .approve id => some (id, .approved)
  | .apply id => some (id, .provisioning)
  | .rollback id => some (id, .rollingBack)
  | _ => none

end PlatformArchitecture.Section19
