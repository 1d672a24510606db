import PlatformArchitecture.Foundations.JsNumbers
import PlatformArchitecture.Foundations.Run

/-!
# Calls of `cacheAside`

A call looks its key up in its cache, if the breaker lets it, and on a miss
joins the load that `inFlight` has under the key or starts one.  The table is
one for the whole module.  Steps are the pieces of code between two
suspensions; what the caches, the loaders and the clock do is chosen by the
events.
-/

namespace PlatformArchitecture.PlatformSdk

open PlatformArchitecture.Foundations

/-- `CacheCircuitBreaker`, with the values it was constructed with. -/
structure CacheCircuitBreaker where
  threshold : JsNumber
  resetMs : JsNumber
  failures : Nat
  openUntil : JsNumber
  deriving DecidableEq

namespace CacheCircuitBreaker

def canTry (breaker : CacheCircuitBreaker) (now : Nat) : Bool :=
  decide (breaker.openUntil ≤ (now : JsNumber))

def success (breaker : CacheCircuitBreaker) : CacheCircuitBreaker :=
  { breaker with failures := 0, openUntil := ((0 : Nat) : JsNumber) }

def failure (breaker : CacheCircuitBreaker) (now : Nat) : CacheCircuitBreaker :=
  let failures := breaker.failures + 1
  if breaker.threshold ≤ (failures : JsNumber) then
    { breaker with failures := failures, openUntil := JsNumber.after now breaker.resetMs }
  else
    { breaker with failures := failures }

end CacheCircuitBreaker

namespace CacheAside

variable {Cache Value Error : Type}

/-- The arguments of a call.  Its loader is known by the call. -/
structure Request (Cache : Type) where
  cache : Cache
  key : String
  ttlSeconds : JsNumber
  breaker : Nat
  telemetry : Bool
  deriving DecidableEq

/-- Where the value of a call came from. -/
inductive Source where
  | cache
  | load (owner : Nat)
  deriving DecidableEq

/-- Where a call is suspended or how it ended. -/
inductive Point (Cache Value Error : Type) where
  | absent
  | getting (request : Request Cache)
  | hit (request : Request Cache) (value : Value)
  | checking (request : Request Cache)
  | joined (request : Request Cache) (owner : Nat)
  | owning (request : Request Cache)
  | returned (request : Request Cache) (source : Source) (value : Value)
  | rejected (request : Request Cache) (owner : Nat) (error : Error)

/-- How far the promise in `inFlight` is. -/
inductive Stage (Value Error : Type) where
  | loading
  | setting (value : Value)
  | reporting (value : Value)
  | settled (outcome : Except Error Value)

/-- A load, by the call that passed the loader. -/
structure Load (Cache Value Error : Type) where
  request : Request Cache
  stage : Stage Value Error

inductive TelemetryEvent where
  | hit
  | miss
  | bypass
  | error

/-- What the code asks of caches and telemetry. -/
inductive Effect (Cache Value : Type) where
  | get (cache : Cache) (key : String)
  | set (cache : Cache) (key : String) (value : Value) (ttlSeconds : JsNumber)
  | record (event : TelemetryEvent) (key : String)

/-- Calls, loads and the module's table. -/
structure Flight (Cache Value Error : Type) where
  calls : Nat → Point Cache Value Error
  loads : Nat → Option (Load Cache Value Error)
  inFlight : String → Option Nat

structure State (Cache Value Error : Type) where
  flight : Flight Cache Value Error
  breakers : Nat → CacheCircuitBreaker
  effects : List (Effect Cache Value)

def initial (breakers : Nat → CacheCircuitBreaker) : State Cache Value Error :=
  ⟨⟨fun _ => .absent, fun _ => none, fun _ => none⟩, breakers, []⟩

inductive GetReply (Value : Type) where
  | value (cached : Value)
  | null
  | threw

inductive Event (Cache Value Error : Type) where
  | call (id : Nat) (request : Request Cache) (now : Nat)
  | getReplies (id : Nat) (reply : GetReply Value) (now : Nat)
  /-- The continuation of a call runs. -/
  | proceed (id : Nat)
  | loadSettles (id : Nat) (outcome : Except Error Value) (now : Nat)
  | setReplies (id : Nat) (threw : Bool) (now : Nat)
  | reported (id : Nat)

def Flight.setPoint (flight : Flight Cache Value Error) (id : Nat)
    (point : Point Cache Value Error) : Flight Cache Value Error :=
  { flight with calls := Function.update flight.calls id point }

def Flight.setStage (flight : Flight Cache Value Error) (id : Nat) (request : Request Cache)
    (stage : Stage Value Error) : Flight Cache Value Error :=
  { flight with loads := Function.update flight.loads id (some ⟨request, stage⟩) }

/-- `load()` is called and its promise put into the table, without suspension
since the table was read. -/
def Flight.start (flight : Flight Cache Value Error) (id : Nat) (request : Request Cache) :
    Flight Cache Value Error :=
  let loading := (flight.setPoint id (.owning request)).setStage id request .loading
  { loading with inFlight := Function.update flight.inFlight request.key (some id) }

/-- How a call ends that awaited a load. -/
def Point.ended (request : Request Cache) (owner : Nat) :
    Except Error Value → Point Cache Value Error
  | .ok value => .returned request (.load owner) value
  | .error error => .rejected request owner error

/-- The owner ends: `finally { if (inFlight.get(key) === pending) ... }`. -/
def Flight.finish (flight : Flight Cache Value Error) (id : Nat) (request : Request Cache)
    (outcome : Except Error Value) : Flight Cache Value Error :=
  let ended := flight.setPoint id (.ended request id outcome)
  if flight.inFlight request.key = some id then
    { ended with inFlight := Function.update flight.inFlight request.key none }
  else
    ended

namespace State

def withFlight (state : State Cache Value Error) (flight : Flight Cache Value Error) :
    State Cache Value Error :=
  { state with flight := flight }

def breaker (state : State Cache Value Error) (request : Request Cache) : CacheCircuitBreaker :=
  state.breakers request.breaker

def withBreaker (state : State Cache Value Error) (request : Request Cache)
    (breaker : CacheCircuitBreaker) : State Cache Value Error :=
  { state with breakers := Function.update state.breakers request.breaker breaker }

def perform (state : State Cache Value Error) (effect : Effect Cache Value) :
    State Cache Value Error :=
  { state with effects := state.effects ++ [effect] }

/-- `telemetry?.record(event, key)`. -/
def record (state : State Cache Value Error) (request : Request Cache)
    (event : TelemetryEvent) : State Cache Value Error :=
  if request.telemetry then state.perform (.record event request.key) else state

/-- From the start of the call to its first suspension. -/
def begin (state : State Cache Value Error) (id : Nat) (request : Request Cache) (now : Nat) :
    State Cache Value Error :=
  if (state.breaker request).canTry now then
    (state.withFlight (state.flight.setPoint id (.getting request))).perform
      (.get request.cache request.key)
  else
    (state.withFlight (state.flight.setPoint id (.checking request))).record request .bypass

/-- From the answer of `cache.get` to the next suspension. -/
def afterGet (state : State Cache Value Error) (id : Nat) (request : Request Cache)
    (reply : GetReply Value) (now : Nat) : State Cache Value Error :=
  match reply with
  | .value cached =>
      ((state.withFlight (state.flight.setPoint id (.hit request cached))).withBreaker request
        (state.breaker request).success).record request .hit
  | .null =>
      ((state.withFlight (state.flight.setPoint id (.checking request))).withBreaker request
        (state.breaker request).success).record request .miss
  | .threw =>
      ((state.withFlight (state.flight.setPoint id (.checking request))).withBreaker request
        ((state.breaker request).failure now)).record request .error

/-- From the look into the table to the next suspension. -/
def check (state : State Cache Value Error) (id : Nat) (request : Request Cache) :
    State Cache Value Error :=
  match state.flight.inFlight request.key with
  | some owner => state.withFlight (state.flight.setPoint id (.joined request owner))
  | none => state.withFlight (state.flight.start id request)

/-- From the end of `load()` to the next suspension of the pending promise. -/
def afterLoad (state : State Cache Value Error) (id : Nat) (request : Request Cache)
    (outcome : Except Error Value) (now : Nat) : State Cache Value Error :=
  match outcome with
  | .error error =>
      state.withFlight (state.flight.setStage id request (.settled (.error error)))
  | .ok value =>
      if (state.breaker request).canTry now then
        (state.withFlight (state.flight.setStage id request (.setting value))).perform
          (.set request.cache request.key value request.ttlSeconds)
      else
        state.withFlight (state.flight.setStage id request (.settled (.ok value)))

/-- From the answer of `cache.set` to the next suspension. -/
def afterSet (state : State Cache Value Error) (id : Nat) (request : Request Cache)
    (value : Value) (threw : Bool) (now : Nat) : State Cache Value Error :=
  if threw then
    ((state.withFlight (state.flight.setStage id request (.reporting value))).withBreaker request
      ((state.breaker request).failure now)).record request .error
  else
    (state.withFlight (state.flight.setStage id request (.settled (.ok value)))).withBreaker
      request (state.breaker request).success

/-- The outcome of a load that has settled. -/
def outcome (state : State Cache Value Error) (owner : Nat) : Option (Except Error Value) :=
  match state.flight.loads owner with
  | some ⟨_, .settled outcome⟩ => some outcome
  | _ => none

/-- The continuation of a call. -/
def proceed (state : State Cache Value Error) (id : Nat) : State Cache Value Error :=
  match state.flight.calls id with
  | .hit request value =>
      state.withFlight (state.flight.setPoint id (.returned request .cache value))
  | .checking request => state.check id request
  | .joined request owner =>
      match state.outcome owner with
      | some outcome => state.withFlight (state.flight.setPoint id (.ended request owner outcome))
      | none => state
  | .owning request =>
      match state.outcome id with
      | some outcome => state.withFlight (state.flight.finish id request outcome)
      | none => state
  | _ => state

end State

def step (state : State Cache Value Error) : Event Cache Value Error → State Cache Value Error
  | .call id request now =>
      match state.flight.calls id with
      | .absent => state.begin id request now
      | _ => state
  | .getReplies id reply now =>
      match state.flight.calls id with
      | .getting request => state.afterGet id request reply now
      | _ => state
  | .proceed id => state.proceed id
  | .loadSettles id outcome now =>
      match state.flight.loads id with
      | some ⟨request, .loading⟩ => state.afterLoad id request outcome now
      | _ => state
  | .setReplies id threw now =>
      match state.flight.loads id with
      | some ⟨request, .setting value⟩ => state.afterSet id request value threw now
      | _ => state
  | .reported id =>
      match state.flight.loads id with
      | some ⟨request, .reporting value⟩ =>
          state.withFlight (state.flight.setStage id request (.settled (.ok value)))
      | _ => state

end CacheAside

end PlatformArchitecture.PlatformSdk
