import PlatformArchitecture.Foundations.Concurrent
import PlatformArchitecture.Foundations.JsNumbers

/-!
# Workers

A `WorkerRunner` takes a job when it has capacity, looks its idempotency key
up, runs the handler and records the key.  What fails on the way is retried
through a hook, or handed to the dead-letter hook at the last attempt.  Any
number of runners share one idempotency port.
-/

namespace PlatformArchitecture.Workers

open PlatformArchitecture.Foundations

/-! ## Jobs -/

inductive JobState where
  | pending
  | running
  | completed
  | failed
  | retrying
  | deadLettered
  | cancelled
  deriving DecidableEq

structure JobEnvelope (Payload : Type) where
  jobId : String
  jobType : String
  tenantId : String
  workspaceId : Option String
  payload : Payload
  attempt : JsNumber
  maxAttempts : JsNumber
  createdAt : String
  correlationId : String
  idempotencyKey : String
  deriving DecidableEq

structure JobResult where
  state : JobState
  attempt : JsNumber
  errorCode : Option String
  deriving DecidableEq

/-- What a handler, a port or a hook throws: an `Error` with its name, or
anything else. -/
inductive Thrown where
  | error (name message : String)
  | other
  deriving DecidableEq

/-- `error instanceof Error ? error.name : 'UNKNOWN'`. -/
def Thrown.code : Thrown → String
  | .error name _ => name
  | .other => "UNKNOWN"

def workerNotAccepting : Thrown :=
  .error "Error" "WORKER_NOT_ACCEPTING"

def workerShutdownTimeout : Thrown :=
  .error "Error" "WORKER_SHUTDOWN_TIMEOUT"

/-- `random` is what `Math.random()` returns; `none` stands for NaN. -/
def retryDelayMs (arithmetic : Arithmetic) (random : Random) (attempt baseMs capMs : JsNumber) :
    Option JsNumber := do
  let exponent := max (.finite 0) (arithmetic.plus (-1) attempt)
  let scaled ← JsNumber.product baseMs (arithmetic.powerOfTwo exponent)
  let exp := min capMs (arithmetic.round scaled)
  let fifth ← JsNumber.product exp (arithmetic.rounded (1 / 5))
  let part ← JsNumber.product (.finite random.val)
    (max (.finite 1) (arithmetic.round fifth).floor)
  let delay ← JsNumber.sum exp (arithmetic.round part).floor
  return arithmetic.round delay

/-! ## Statements -/

section Statements

variable (Runner Payload : Type)

/-- What a runner awaits, and the synchronous steps in which it takes a job and
ends it. -/
inductive WorkerStatement where
  | accept (runner : Runner)
  | get (idemKey : String)
  | handle (job : JobEnvelope Payload)
  | putIfAbsent (idemKey jobId : String) (ttlSeconds : JsNumber)
  | onRetry (job : JobEnvelope Payload) (delayMs : Option JsNumber)
  | onDeadLetter (job : JobEnvelope Payload) (error : Thrown)
  | release (runner : Runner)
  | requestStop (runner : Runner)
  | awaitIdle (runner : Runner)

abbrev WorkerStatement.Reply : WorkerStatement Runner Payload → Type
  | .get _ => Option String
  | .putIfAbsent _ _ _ => Bool
  | _ => Unit

abbrev WorkerProgram (Result : Type) :=
  Program (WorkerStatement Runner Payload) (WorkerStatement.Reply Runner Payload) Thrown Result

end Statements

section Programs

variable {Runner Payload : Type}

abbrev awaitWorker (statement : WorkerStatement Runner Payload) :
    WorkerProgram Runner Payload (statement.Reply Runner Payload) :=
  Program.call statement

/-- Which hooks a runner was given. -/
structure WorkerHooks where
  idempotency : Bool
  idempotencyTtlSeconds : Option JsNumber
  onRetry : Bool
  onDeadLetter : Bool

def JobEnvelope.idemKey (job : JobEnvelope Payload) : String :=
  "job:" ++ job.tenantId ++ ":" ++ job.idempotencyKey

namespace WorkerHooks

variable (hooks : WorkerHooks)

def alreadyCompleted (job : JobEnvelope Payload) : WorkerProgram Runner Payload Bool :=
  if hooks.idempotency then do
    let found ← awaitWorker (.get job.idemKey)
    return found.isSome
  else
    return false

def recordCompletion (job : JobEnvelope Payload) : WorkerProgram Runner Payload Unit :=
  if hooks.idempotency then do
    let _stored ← awaitWorker
      (.putIfAbsent job.idemKey job.jobId (hooks.idempotencyTtlSeconds.getD (.finite 86400)))
    return ()
  else
    return ()

/-- The `try` block of `run`. -/
def complete (job : JobEnvelope Payload) : WorkerProgram Runner Payload JobResult := do
  if ← hooks.alreadyCompleted job then
    return ⟨.completed, job.attempt, none⟩
  else
    awaitWorker (.handle job)
    hooks.recordCompletion job
    return ⟨.completed, job.attempt, none⟩

/-- The call of the hook for a failed attempt. -/
def afterFailure (arithmetic : Arithmetic) (random : Random) (job : JobEnvelope Payload)
    (error : Thrown) : WorkerProgram Runner Payload Unit :=
  if job.maxAttempts ≤ job.attempt then
    if hooks.onDeadLetter then awaitWorker (.onDeadLetter job error) else return ()
  else
    if hooks.onRetry then
      awaitWorker (.onRetry job
        (retryDelayMs arithmetic random job.attempt (.finite 500) (.finite 60000)))
    else
      return ()

/-- The `catch` block of `run`. -/
def handleFailure (arithmetic : Arithmetic) (random : Random) (job : JobEnvelope Payload)
    (error : Thrown) : WorkerProgram Runner Payload JobResult := do
  let failed := { job with attempt := arithmetic.plus 1 job.attempt }
  hooks.afterFailure arithmetic random failed error
  return ⟨if job.maxAttempts ≤ failed.attempt then .deadLettered else .retrying,
    failed.attempt, some error.code⟩

/-! Which statements the blocks of `run` issue. -/

section Issues

variable {hooks} {kind : WorkerStatement Runner Payload → Prop} {job : JobEnvelope Payload}

theorem alreadyCompleted_issues (looksUp : ∀ idemKey, kind (.get idemKey)) :
    (hooks.alreadyCompleted job).Issues kind := by
  unfold alreadyCompleted
  split
  · exact Program.issues_bind (fun _ => by trivial) (Program.issues_call (looksUp _))
  · trivial

theorem recordCompletion_issues
    (records : ∀ idemKey jobId ttlSeconds, kind (.putIfAbsent idemKey jobId ttlSeconds)) :
    (hooks.recordCompletion job).Issues kind := by
  unfold recordCompletion
  split
  · exact Program.issues_bind (fun _ => by trivial) (Program.issues_call (records _ _ _))
  · trivial

theorem complete_issues (looksUp : ∀ idemKey, kind (.get idemKey))
    (handles : ∀ handled, kind (.handle handled))
    (records : ∀ idemKey jobId ttlSeconds, kind (.putIfAbsent idemKey jobId ttlSeconds)) :
    (hooks.complete job).Issues kind := by
  refine Program.issues_bind ?_ (alreadyCompleted_issues looksUp)
  intro completed
  cases completed with
  | true => trivial
  | false =>
      refine Program.issues_bind ?_ (Program.issues_call (handles job))
      intro _handled
      exact Program.issues_bind (fun _ => by trivial) (recordCompletion_issues records)

theorem handleFailure_issues {arithmetic : Arithmetic} {random : Random} {error : Thrown}
    (retries : ∀ failed delayMs, kind (.onRetry failed delayMs))
    (deadLetters : ∀ failed error, kind (.onDeadLetter failed error)) :
    (hooks.handleFailure arithmetic random job error).Issues kind := by
  refine Program.issues_bind (fun _ => by trivial) ?_
  unfold afterFailure
  split
  · split
    · exact Program.issues_call (deadLetters _ _)
    · trivial
  · split
    · exact Program.issues_call (retries _ _)
    · trivial

end Issues

end WorkerHooks

structure WorkerRunner (Runner : Type) where
  id : Runner
  concurrency : JsNumber
  hooks : WorkerHooks
  arithmetic : Arithmetic

namespace WorkerRunner

variable (runner : WorkerRunner Runner)

/-- What `run` does with a job it has accepted. -/
def work (random : Random) (job : JobEnvelope Payload) : WorkerProgram Runner Payload JobResult :=
  ((runner.hooks.complete job).orElse
    (runner.hooks.handleFailure runner.arithmetic random job)).finallyDo
      (awaitWorker (.release runner.id))

def run (random : Random) (job : JobEnvelope Payload) : WorkerProgram Runner Payload JobResult := do
  awaitWorker (.accept runner.id)
  runner.work random job

def requestStop : WorkerProgram Runner Payload Unit :=
  awaitWorker (.requestStop runner.id)

/-- `awaitIdle` is the loop that looks every 50 ms. -/
def gracefulShutdown : WorkerProgram Runner Payload Unit := do
  awaitWorker (.requestStop runner.id)
  awaitWorker (.awaitIdle runner.id)

end WorkerRunner

end Programs

end PlatformArchitecture.Workers
