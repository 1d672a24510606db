import PlatformArchitecture.Api.RateLimitAgreement
import PlatformArchitecture.Api.Resources

/-!
# The gate in front of the routes

Every request but those for the health of the service is authenticated, charged
to the quota of its route and then to the daily quota of its tenant before its
handler runs.  Any number of replicas serve requests at once and count on one
Redis, whose answers may be lost.
-/

namespace PlatformArchitecture.Api

open PlatformArchitecture.Foundations
open PlatformArchitecture.Security

/-- The two limiters of the service. -/
inductive GateLimiter where
  | request
  | daily
  deriving DecidableEq

def GateLimiter.keyPrefix : GateLimiter → String
  | .request => "rate:request"
  | .daily => "rate:daily"

/-- `API_RPM`, which the limiter's constructor accepts, and `API_DAILY_QUOTA`. -/
structure GateSettings where
  rpm : ℚ
  rpm_pos : 0 < rpm
  dailyQuota : JsNumber

namespace GateSettings

def requestLimits (settings : GateSettings) : RateLimits where
  max := settings.rpm
  windowMs := 60000
  max_pos := settings.rpm_pos
  windowMs_pos := Nat.zero_lt_succ _

/-- `tenantDailyQuota`, which a quota that is no positive number leaves out. -/
def dailyLimits (settings : GateSettings) : Option RateLimits :=
  match settings.dailyQuota with
  | .infinite _ => none
  | .finite quota =>
      if positive : 0 < quota then
        some
          { max := quota
            windowMs := 86400000
            max_pos := positive
            windowMs_pos := Nat.zero_lt_succ _ }
      else
        none

def limits (settings : GateSettings) : GateLimiter → Option RateLimits
  | .request => some settings.requestLimits
  | .daily => settings.dailyLimits

end GateSettings

/-- What the hook reads of a request.  `routeUrl` is the route that the router
has found, and `requestId` the one of its context. -/
structure ApiRequest where
  url : String
  authorization : Option String
  routeUrl : Option String
  requestId : String

def publicPaths : List String :=
  ["/health", "/health/live", "/health/ready", "/health/startup"]

namespace ApiRequest

/-- `request.url.split('?')[0] ?? ''`. -/
def path (request : ApiRequest) : String :=
  String.ofList (request.url.toList.takeWhile (· ≠ '?'))

/-- `request.routeOptions.url || path`. -/
def route (request : ApiRequest) : String :=
  match request.routeUrl with
  | none => request.path
  | some url => if url = "" then request.path else url

def isPublic (request : ApiRequest) : Bool :=
  publicPaths.contains request.path

/-- The key that the quota of the route is counted under. -/
def limitKey (request : ApiRequest) (tenant : TenantContext) : String :=
  tenant.tenantId ++ ":" ++ tenant.workspace ++ ":" ++ request.route

/-- What each limiter counts the request under. -/
def keyFor (request : ApiRequest) (tenant : TenantContext) : GateLimiter → String
  | .request => request.limitKey tenant
  | .daily => tenant.tenantId

end ApiRequest

/-- What the service awaits for a request. -/
inductive GateStatement where
  | verify (token : String)
  | consume (limiter : GateLimiter) (key : String)
  | handle (tenant : Option TenantContext)

abbrev GateStatement.Reply : GateStatement → Type
  | .verify _ => Option TenantContext
  | .consume _ _ => RateLimitResult
  | .handle _ => Nat

abbrev GateProgram (Result : Type) :=
  Program GateStatement GateStatement.Reply ApiError Result

abbrev awaitGate (statement : GateStatement) : GateProgram statement.Reply :=
  Program.call statement

/-- The code of an error, its message and the request it answers. -/
structure ErrorEnvelope where
  code : String
  message : String
  requestId : String
  deriving DecidableEq

structure ApiResponse where
  statusCode : Nat
  error : Option ErrorEnvelope
  deriving DecidableEq

/-- The token of a header that starts with `Bearer `. -/
def bearerToken (authorization : Option String) : Option String :=
  authorization.bind fun header =>
    if "Bearer ".toList.isPrefixOf header.toList then some (String.ofList (header.toList.drop 7))
    else none

def authenticate (authorization : Option String) : GateProgram TenantContext :=
  match bearerToken authorization with
  | none => throw ⟨401, "AUTHENTICATION_REQUIRED", "Bearer token is required"⟩
  | some token => do
      match ← awaitGate (.verify token) with
      | some tenant => return tenant
      | none =>
          throw ⟨401, "INVALID_TOKEN",
            "Authentication token is invalid or does not satisfy policy"⟩

def enforceRateLimit (result : RateLimitResult) (code message : String) : GateProgram Unit :=
  if result.allowed = true then pure () else throw ⟨429, code, message⟩

/-- The hook `onRequest`: the tenant of the request, if it needs one. -/
def onRequest (settings : GateSettings) (request : ApiRequest) :
    GateProgram (Option TenantContext) := do
  if request.isPublic = true then
    return none
  else
    let tenant ← authenticate request.authorization
    let requestLimit ← awaitGate (.consume .request (request.limitKey tenant))
    enforceRateLimit requestLimit "RATE_LIMITED" "Request rate limit exceeded"
    if settings.dailyLimits.isSome = true then
      let quota ← awaitGate (.consume .daily tenant.tenantId)
      enforceRateLimit quota "QUOTA_EXCEEDED" "Tenant daily request quota exceeded"
    return some tenant

/-- The error handler. -/
def errorResponse (request : ApiRequest) (error : ApiError) : ApiResponse :=
  ⟨error.statusCode, some ⟨error.code, error.message, request.requestId⟩⟩

/-- A request from the hook to its response. -/
def serveRequest (settings : GateSettings) (request : ApiRequest) : GateProgram ApiResponse :=
  let served : GateProgram ApiResponse := do
    let tenant ← onRequest settings request
    let statusCode ← awaitGate (.handle tenant)
    return ⟨statusCode, none⟩
  served.orElse fun error => pure (errorResponse request error)

/-! ## The server -/

/-- A call of `consume` that Redis has counted, and when. -/
structure Charge (Pid : Type) where
  pid : Pid
  limiter : GateLimiter
  key : String
  moment : Nat
  resetAt : Nat
  allowed : Bool
  deriving DecidableEq

/-- The clock and the keys of Redis, and what has been verified, charged and
handled, each with the process of its request. -/
structure GateState (Pid : Type) where
  clock : Nat
  redis : RedisFixedWindowLimiter.Store
  verified : List (Pid × String × TenantContext)
  charges : List (Charge Pid)
  handled : List (Pid × Option TenantContext)

def GateState.initial {Pid : Type} : GateState Pid :=
  ⟨0, fun _ => none, [], [], []⟩

/-- What becomes of a call of Redis. -/
inductive CallFault where
  | none
  | refused
  | answerLost
  deriving DecidableEq

/-- What the environment decides about a statement: the time that has passed,
the fate of the call, what the identity provider says of a token, whether a key
lingers at its deadline, and how a handler ends. -/
structure GateChoice where
  elapsed : Nat
  fault : CallFault
  identity : Option TenantContext
  lingers : Bool
  handler : Except ApiError Nat

section Server

variable {Pid : Type}

/-- `limiter.consume(key)`. -/
def consumeFor (limits : RateLimits) (pid : Pid) (choice : GateChoice) (limiter : GateLimiter)
    (key : String) (state : GateState Pid) : Except ApiError RateLimitResult × GateState Pid :=
  let counted :=
    RedisFixedWindowLimiter.consume limits choice.lingers limiter.keyPrefix state.redis key
      state.clock
  let charged : GateState Pid :=
    { state with
      redis := counted.2
      charges :=
        ⟨pid, limiter, key, state.clock, counted.1.resetAt, counted.1.allowed⟩ :: state.charges }
  match choice.fault with
  | .none => (.ok counted.1, charged)
  | .refused => (.error .internal, state)
  | .answerLost => (.error .internal, charged)

def gateOutcome (settings : GateSettings) (pid : Pid) (choice : GateChoice)
    (statement : GateStatement) (before : GateState Pid) :
    Except ApiError statement.Reply × GateState Pid :=
  let state := { before with clock := before.clock + choice.elapsed }
  match statement with
  | .verify token =>
      match choice.identity with
      | none => (.ok none, state)
      | some tenant =>
          (.ok (some tenant), { state with verified := (pid, token, tenant) :: state.verified })
  | .consume limiter key =>
      match settings.limits limiter with
      | none => (.error .internal, state)
      | some limits => consumeFor limits pid choice limiter key state
  | .handle tenant => (choice.handler, { state with handled := (pid, tenant) :: state.handled })

def gateServer (settings : GateSettings) :
    Server Pid GateChoice (GateState Pid) GateStatement GateStatement.Reply ApiError where
  outcome pid choice statement state := some (gateOutcome settings pid choice statement state)
  disconnect _ state := state

abbrev GateWorld (Pid : Type) :=
  World Pid (GateState Pid) GateStatement GateStatement.Reply ApiError ApiResponse

/-- Every process with its request, over an empty Redis. -/
def gateStart (settings : GateSettings) (requests : Pid → ApiRequest) : GateWorld Pid :=
  World.start GateState.initial fun pid => serveRequest settings (requests pid)

end Server

end PlatformArchitecture.Api
