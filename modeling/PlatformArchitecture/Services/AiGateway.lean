import PlatformArchitecture.Foundations.Checks
import PlatformArchitecture.Foundations.ProgramTraces
import PlatformArchitecture.Foundations.TextEncodings

/-!
# The AI gateway

`AIGateway.generate` checks a request, asks the routed or primary provider and
then the fallback, checks the response, and records its usage.  Providers,
validators, the usage store and telemetry are what surrounds it: a handled
request is a trace of the program.
-/

namespace PlatformArchitecture.Services

open PlatformArchitecture.Foundations

/-! ## Requests, responses and options -/

structure AIModelRequest where
  tenantId : String
  workspaceId : Option String
  input : Option String
  maxTokens : Option Int
  correlationId : String
  deriving DecidableEq

structure AIModelResponse where
  output : String
  model : String
  inputTokens : Int
  outputTokens : Int
  provider : String
  deriving DecidableEq

/-- The arguments of `addUsage`. -/
structure UsageRecord where
  tenantId : String
  workspaceId : Option String
  inputTokens : Int
  outputTokens : Int
  provider : String
  model : String
  deriving DecidableEq

inductive TelemetryName where
  | request
  | fallback
  | error
  deriving DecidableEq

structure TelemetryEvent where
  name : TelemetryName
  tenantId : String
  workspaceId : Option String
  correlationId : String
  provider : Option String
  model : Option String
  attempts : Nat
  error : Option String
  deriving DecidableEq

/-- The gateway's options; a provider is given by its name, and of a hook or a
port only whether there is one. -/
structure AIGatewayOptions where
  primary : String
  fallback : Option String
  route : AIModelRequest → Option String
  maxInputChars : Option Int
  maxOutputChars : Option Int
  maxOutputTokens : Option Int
  tenantTokenQuota : Option Int
  maxRetries : Option Int
  authorize : Bool
  validateInput : Bool
  validateOutput : Bool
  usage : Bool
  telemetry : Bool

/-- What is thrown: an `Error`, the gateway's own error, or another value. -/
inductive GatewayError where
  | error (message : String)
  | unavailable (message : String)
  | thrown
  deriving DecidableEq

/-- `error instanceof Error ? error.message : undefined`. -/
def GatewayError.message : GatewayError → Option String
  | .error message | .unavailable message => some message
  | .thrown => none

/-! ## The program -/

inductive ProviderRole where
  | primary
  | fallback
  deriving DecidableEq

/-- The calls that leave the gateway. -/
inductive GatewayCall where
  | authorize (tenantId : String) (workspaceId : Option String)
  | validateInput (input : Option String)
  | getUsedTokens (tenantId windowKey : String)
  | generate (role : ProviderRole) (provider : String) (request : AIModelRequest)
  | validateOutput (output : String)
  | addUsage (usage : UsageRecord)
  | record (event : TelemetryEvent)
  deriving DecidableEq

abbrev GatewayCall.Reply : GatewayCall → Type
  | .authorize _ _ => Bool
  | .getUsedTokens _ _ => Int
  | .generate _ _ _ => AIModelResponse
  | _ => Unit

abbrev GatewayProgram (Result : Type) :=
  Program GatewayCall GatewayCall.Reply GatewayError Result

abbrev GatewayEntry :=
  TraceEntry GatewayCall GatewayCall.Reply GatewayError

def awaitGateway (call : GatewayCall) : GatewayProgram call.Reply :=
  Program.call call

def failIf (condition : Prop) [Decidable condition] (message : String) : GatewayProgram PUnit :=
  Program.check (throwIf condition (GatewayError.error message))

namespace AIGatewayOptions

variable (options : AIGatewayOptions)

/-- `Math.max(0, maxRetries ?? 1)`. -/
def retries : Nat :=
  (options.maxRetries.getD 1).toNat

/-- One provider, asked again after each failure while retries remain.  A call
that takes longer than the timeout has failed. -/
def invoke (role : ProviderRole) (provider : String) (request : AIModelRequest) :
    Nat → Nat → GatewayProgram (AIModelResponse × Nat)
  | 0, attempt => do
      let result ← awaitGateway (.generate role provider request)
      return (result, attempt + 1)
  | remaining + 1, attempt =>
      Program.orElse
        (do
          let result ← awaitGateway (.generate role provider request)
          return (result, attempt + 1))
        fun _ => invoke role provider request remaining (attempt + 1)

/-- `telemetry?.record(event)`. -/
def recordEvent (event : TelemetryEvent) : GatewayProgram Unit :=
  if options.telemetry then awaitGateway (.record event) else pure ()

/-- `authorize` and `validateInput`, where the options have them. -/
def checkAccess (request : AIModelRequest) : GatewayProgram Unit :=
  if options.authorize then do
    let allowed ← awaitGateway (.authorize request.tenantId request.workspaceId)
    failIf (allowed = false) "AI_ACCESS_DENIED"
  else pure ()

def checkInput (request : AIModelRequest) : GatewayProgram Unit :=
  if options.validateInput then awaitGateway (.validateInput request.input) else pure ()

/-- The tenant's quota; a quota of zero is falsy. -/
def checkQuota (windowKey : String) (request : AIModelRequest) : GatewayProgram Unit :=
  if options.usage ∧ options.tenantTokenQuota.getD 0 ≠ 0 then do
    let used ← awaitGateway (.getUsedTokens request.tenantId windowKey)
    failIf (options.tenantTokenQuota.getD 0 ≤ used) "AI_TENANT_QUOTA_EXCEEDED"
  else pure ()

/-- The checks before a provider is asked. -/
def preflight (windowKey : String) (request : AIModelRequest) : GatewayProgram Unit := do
  failIf (request.tenantId = "" ∨ request.correlationId = "") "AI_CONTEXT_REQUIRED"
  failIf (options.maxInputChars.getD 100000 < (request.input.map utf16Length).getD 0)
    "AI_INPUT_LIMIT_EXCEEDED"
  failIf (options.maxOutputTokens.getD 8192 < request.maxTokens.getD 0)
    "AI_OUTPUT_TOKEN_LIMIT_EXCEEDED"
  options.checkAccess request
  options.checkInput request
  options.checkQuota windowKey request

/-- An event of a request that has no response. -/
def failureEvent (name : TelemetryName) (request : AIModelRequest) (attempts : Nat)
    (message : String) : TelemetryEvent where
  name := name
  tenantId := request.tenantId
  workspaceId := request.workspaceId
  correlationId := request.correlationId
  provider := none
  model := none
  attempts := attempts
  error := some message

/-- The response and the attempts it is reported with.  The primary's failure
leaves `attempts` at zero. -/
def respond (request : AIModelRequest) : GatewayProgram (AIModelResponse × Nat) :=
  Program.orElse
    (invoke .primary ((options.route request).getD options.primary) request options.retries 0)
    fun primaryError =>
      match options.fallback with
      | none => do
          options.recordEvent (failureEvent .error request 0
            (primaryError.message.getD "AI provider failed"))
          throw (.unavailable (primaryError.message.getD "AI capability is unavailable"))
      | some fallback => do
          options.recordEvent (failureEvent .fallback request 0
            (primaryError.message.getD "primary failed"))
          Program.orElse (invoke .fallback fallback request options.retries 0) fun _ =>
            throw (.unavailable "AI capability is unavailable")

def usageOf (request : AIModelRequest) (result : AIModelResponse) : UsageRecord where
  tenantId := request.tenantId
  workspaceId := request.workspaceId
  inputTokens := result.inputTokens
  outputTokens := result.outputTokens
  provider := result.provider
  model := result.model

def requestEvent (request : AIModelRequest) (result : AIModelResponse) (attempts : Nat) :
    TelemetryEvent where
  name := .request
  tenantId := request.tenantId
  workspaceId := request.workspaceId
  correlationId := request.correlationId
  provider := some result.provider
  model := some result.model
  attempts := attempts
  error := none

def checkOutput (result : AIModelResponse) : GatewayProgram Unit :=
  if options.validateOutput then awaitGateway (.validateOutput result.output) else pure ()

/-- `usage?.addUsage(…)`. -/
def account (request : AIModelRequest) (result : AIModelResponse) : GatewayProgram Unit :=
  if options.usage then awaitGateway (.addUsage (usageOf request result)) else pure ()

/-- The checks of a response, and its accounting. -/
def deliver (request : AIModelRequest) (result : AIModelResponse) (attempts : Nat) :
    GatewayProgram AIModelResponse := do
  failIf (options.maxOutputChars.getD 200000 < utf16Length result.output)
    "AI_OUTPUT_LIMIT_EXCEEDED"
  failIf (options.maxOutputTokens.getD 8192 < result.outputTokens)
    "AI_PROVIDER_OUTPUT_TOKEN_LIMIT_EXCEEDED"
  options.checkOutput result
  options.account request result
  options.recordEvent (requestEvent request result attempts)
  return result

/-- `AIGateway.generate`; `windowKey` is the month of the request. -/
def generate (windowKey : String) (request : AIModelRequest) :
    GatewayProgram AIModelResponse := do
  options.preflight windowKey request
  let (result, attempts) ← options.respond request
  options.deliver request result attempts

end AIGatewayOptions

end PlatformArchitecture.Services
