import PlatformArchitecture.Foundations.Checks
import PlatformArchitecture.Security.TenantContext

/-!
# Operators of the control API

Every request of the control API is made by an operator that passed
`authenticateControlOperator`; a route that changes something has to ask for
the write permission itself.
-/

namespace PlatformArchitecture.ControlApi

open PlatformArchitecture.Foundations
open PlatformArchitecture.Security

/-- The status, code and message of an error response. -/
structure ApiError where
  statusCode : Nat
  code : String
  message : String
  deriving DecidableEq

/-- What the error handler answers for an error without a status of its own. -/
def ApiError.internal : ApiError :=
  ⟨500, "INTERNAL_ERROR", "Control-plane request failed"⟩

def privilegedRoles : List String :=
  ["platform-admin", "sre", "security-admin"]

/-- A context that may use the control API. -/
structure Operator where
  context : TenantContext
  privileged : context.roles.any (· ∈ privilegedRoles) = true
  mfa : context.mfa = true

abbrev Operator.userId (operator : Operator) : String :=
  operator.context.userId

/-- An operator with the `sre` role. -/
def Operator.sre (userId : String) (permissions : List String) : Operator where
  context :=
    { tenantId := "platform"
      workspaceId := none
      userId
      roles := ["sre"]
      permissions
      sessionId := "session"
      mfa := true }
  privileged := by simp [privilegedRoles]
  mfa := rfl

/-- The permissions that allow a write. -/
def Operator.mayWrite (operator : Operator) : Prop :=
  "platform:write" ∈ operator.context.permissions ∨ "*" ∈ operator.context.permissions

instance (operator : Operator) : Decidable operator.mayWrite :=
  inferInstanceAs (Decidable (_ ∨ _))

def requireControlWrite (operator : Operator) : Except ApiError Unit :=
  throwIf (¬ operator.mayWrite)
    ⟨403, "PLATFORM_WRITE_PERMISSION_REQUIRED", "Platform write permission is required"⟩

end PlatformArchitecture.ControlApi
