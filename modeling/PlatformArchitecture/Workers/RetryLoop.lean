import Mathlib.Data.Rat.Floor
import PlatformArchitecture.Workers.Runner

/-!
# Redelivery of a failed job

A job whose run ends `RETRYING` is delivered again with the envelope that was
handed to the retry hook.  Each failure increases the attempt, so that with a
finite limit the deliveries end with a completion or with one call of the
dead-letter hook.  The attempts that are left are counted in whole ones: with
half an attempt left the handler runs once more.
-/

namespace PlatformArchitecture.Workers

open PlatformArchitecture.Foundations

section RetryLoop

variable {Runner Payload : Type}

/-- A runner with both hooks. -/
structure RetryingRunner (Runner : Type) extends WorkerRunner Runner where
  retries : hooks.onRetry = true
  deadLetters : hooks.onDeadLetter = true

/-- What the port and the handler do in each delivery. -/
structure JobOutcomes where
  lookup : Nat → Except Thrown (Option String)
  handler : Nat → Except Thrown Unit
  record : Nat → Except Thrown Bool
  random : Nat → Random

/-- A runner with capacity, whose hooks do not fail. -/
def JobOutcomes.environment (outcomes : JobOutcomes) (k : Nat) :
    Environment (WorkerStatement Runner Payload) (WorkerStatement.Reply Runner Payload) Thrown
  | .get _ => outcomes.lookup k
  | .handle _ => outcomes.handler k
  | .putIfAbsent _ _ _ => outcomes.record k
  | .accept _ | .onRetry _ _ | .onDeadLetter _ _ | .release _ | .requestStop _
  | .awaitIdle _ => .ok ()

/-! ## What a delivery calls -/

def WorkerStatement.handled : WorkerStatement Runner Payload → Option (JobEnvelope Payload)
  | .handle job => some job
  | _ => none

def WorkerStatement.retried : WorkerStatement Runner Payload → Option (JobEnvelope Payload)
  | .onRetry job _ => some job
  | _ => none

def WorkerStatement.deadLettered :
    WorkerStatement Runner Payload → Option (JobEnvelope Payload × Thrown)
  | .onDeadLetter job error => some (job, error)
  | _ => none

/-- A delivery of a job: what it issued, and how it ended. -/
structure Delivered (Runner Payload : Type) where
  job : JobEnvelope Payload
  issued : List (WorkerStatement Runner Payload)
  outcome : Except Thrown JobResult

namespace Delivered

variable (delivered : Delivered Runner Payload)

def handled : List (JobEnvelope Payload) :=
  delivered.issued.filterMap WorkerStatement.handled

def retried : List (JobEnvelope Payload) :=
  delivered.issued.filterMap WorkerStatement.retried

def deadLettered : List (JobEnvelope Payload × Thrown) :=
  delivered.issued.filterMap WorkerStatement.deadLettered

/-- The envelope of the redelivery after a `RETRYING` result. -/
def redelivery : Option (JobEnvelope Payload) :=
  match delivered.outcome with
  | .ok result => if result.state = .retrying then delivered.retried.head? else none
  | .error _ => none

end Delivered

def deliver (runner : WorkerRunner Runner) (outcomes : JobOutcomes) (k : Nat)
    (job : JobEnvelope Payload) : Delivered Runner Payload where
  job := job
  issued := (runner.run (outcomes.random k) job).issuedIn (outcomes.environment k)
  outcome := (runner.run (outcomes.random k) job).outcomeIn (outcomes.environment k)

/-- The deliveries of a job from the `k`-th on, `fuel` at most. -/
def deliveries (runner : WorkerRunner Runner) (outcomes : JobOutcomes) :
    Nat → Nat → JobEnvelope Payload → List (Delivered Runner Payload)
  | 0, _, _ => []
  | fuel + 1, k, job =>
      let delivered := deliver runner outcomes k job
      delivered ::
        match delivered.redelivery with
        | some next => deliveries runner outcomes fuel (k + 1) next
        | none => []

/-- The job after a failed attempt. -/
def JobEnvelope.failed (job : JobEnvelope Payload) (arithmetic : Arithmetic) :
    JobEnvelope Payload :=
  { job with attempt := arithmetic.plus 1 job.attempt }

/-! ## One delivery -/

section Delivery

variable {outcomes : JobOutcomes} {k : Nat} {job : JobEnvelope Payload}
  {environment : Environment (WorkerStatement Runner Payload)
    (WorkerStatement.Reply Runner Payload) Thrown}

/-- The `try` block completes with the attempt of the job. -/
theorem complete_outcome {hooks : WorkerHooks} {result : JobResult}
    (completed : (hooks.complete job : WorkerProgram Runner Payload JobResult).outcomeIn
      environment = .ok result) :
    result = ⟨.completed, job.attempt, none⟩ := by
  unfold WorkerHooks.complete at completed
  cases lookup : (hooks.alreadyCompleted job : WorkerProgram Runner Payload Bool).outcomeIn
      environment with
  | error error =>
      rw [Program.outcomeIn_bind_error lookup] at completed
      cases completed
  | ok found =>
      rw [Program.outcomeIn_bind_ok lookup] at completed
      cases found with
      | true => exact (Except.ok.inj completed).symm
      | false =>
          cases handled : environment (.handle job) with
          | error error =>
              have ended := (Program.outcomeIn_call _).trans handled
              rw [if_neg Bool.false_ne_true, Program.outcomeIn_bind_error ended] at completed
              cases completed
          | ok _ =>
              have ended := (Program.outcomeIn_call _).trans handled
              rw [if_neg Bool.false_ne_true, Program.outcomeIn_bind_ok ended] at completed
              cases recorded : (hooks.recordCompletion job :
                  WorkerProgram Runner Payload Unit).outcomeIn environment with
              | error error =>
                  rw [Program.outcomeIn_bind_error recorded] at completed
                  cases completed
              | ok _ =>
                  rw [Program.outcomeIn_bind_ok recorded] at completed
                  exact (Except.ok.inj completed).symm

/-- It calls the handler once at most. -/
theorem handled_complete (hooks : WorkerHooks) :
    (((hooks.complete job : WorkerProgram Runner Payload JobResult).issuedIn
      environment).filterMap WorkerStatement.handled).length ≤ 1 := by
  have looksUp := @Program.filterMap_issuedIn _ _ _ _ environment _ WorkerStatement.handled _
    (@WorkerHooks.alreadyCompleted_issues Runner Payload hooks _ job fun _ => rfl)
  have records := @Program.filterMap_issuedIn _ _ _ _ environment _ WorkerStatement.handled _
    (@WorkerHooks.recordCompletion_issues Runner Payload hooks _ job fun _ _ _ => rfl)
  unfold WorkerHooks.complete
  cases lookup : (hooks.alreadyCompleted job : WorkerProgram Runner Payload Bool).outcomeIn
      environment with
  | error error =>
      rw [Program.issuedIn_bind_error lookup, looksUp]
      exact Nat.zero_le 1
  | ok found =>
      rw [Program.issuedIn_bind_ok lookup, List.filterMap_append, looksUp, List.nil_append]
      cases found with
      | true => exact Nat.zero_le 1
      | false =>
          rw [if_neg Bool.false_ne_true]
          cases handled : environment (.handle job) with
          | error error =>
              have ended := (Program.outcomeIn_call _).trans handled
              rw [Program.issuedIn_bind_error ended, Program.issuedIn_call]
              exact Nat.le_refl 1
          | ok _ =>
              have ended := (Program.outcomeIn_call _).trans handled
              rw [Program.issuedIn_bind_ok ended, Program.issuedIn_call,
                List.filterMap_append]
              cases recorded : (hooks.recordCompletion job :
                  WorkerProgram Runner Payload Unit).outcomeIn environment with
              | error error =>
                  rw [Program.issuedIn_bind_error recorded, records]
                  exact Nat.le_refl 1
              | ok _ =>
                  rw [Program.issuedIn_bind_ok recorded, List.filterMap_append, records]
                  exact Nat.le_refl 1

section Runs

variable {runner : WorkerRunner Runner}

theorem outcomeIn_accept :
    (awaitWorker (.accept runner.id) : WorkerProgram Runner Payload Unit).outcomeIn
      (outcomes.environment k) = .ok () :=
  Program.outcomeIn_call _

theorem outcomeIn_release :
    (awaitWorker (.release runner.id) : WorkerProgram Runner Payload Unit).outcomeIn
      (outcomes.environment k) = .ok () :=
  Program.outcomeIn_call _

theorem deliver_completed {result : JobResult}
    (completed : (runner.hooks.complete job : WorkerProgram Runner Payload JobResult).outcomeIn
      (outcomes.environment k) = .ok result) :
    (deliver runner outcomes k job).outcome = .ok result ∧
      (deliver runner outcomes k job).issued =
        .accept runner.id ::
          ((runner.hooks.complete job).issuedIn (outcomes.environment k) ++
            [.release runner.id]) := by
  unfold deliver WorkerRunner.run WorkerRunner.work
  dsimp only
  rw [Program.outcomeIn_bind_ok outcomeIn_accept, Program.issuedIn_bind_ok outcomeIn_accept,
    Program.outcomeIn_finallyDo outcomeIn_release, Program.issuedIn_finallyDo outcomeIn_release,
    Program.outcomeIn_orElse_ok completed, Program.issuedIn_orElse_ok completed,
    Program.issuedIn_call, Program.issuedIn_call]
  exact ⟨rfl, rfl⟩

/-- What fails in the `try` block is left to the `catch` block. -/
theorem deliver_failed {error : Thrown}
    (failed : (runner.hooks.complete job : WorkerProgram Runner Payload JobResult).outcomeIn
      (outcomes.environment k) = .error error) :
    (deliver runner outcomes k job).outcome =
        (runner.hooks.handleFailure runner.arithmetic (outcomes.random k) job error :
          WorkerProgram Runner Payload JobResult).outcomeIn (outcomes.environment k) ∧
      (deliver runner outcomes k job).issued =
        .accept runner.id ::
          ((runner.hooks.complete job).issuedIn (outcomes.environment k) ++
            (runner.hooks.handleFailure runner.arithmetic (outcomes.random k) job error).issuedIn
              (outcomes.environment k) ++
            [.release runner.id]) := by
  unfold deliver WorkerRunner.run WorkerRunner.work
  dsimp only
  rw [Program.outcomeIn_bind_ok outcomeIn_accept, Program.issuedIn_bind_ok outcomeIn_accept,
    Program.outcomeIn_finallyDo outcomeIn_release, Program.issuedIn_finallyDo outcomeIn_release,
    Program.outcomeIn_orElse_error failed, Program.issuedIn_orElse_error failed,
    Program.issuedIn_call, Program.issuedIn_call]
  exact ⟨rfl, rfl⟩

theorem deliver_handled : (deliver runner outcomes k job).handled.length ≤ 1 := by
  have atMostOnce := @handled_complete Runner Payload job (outcomes.environment k) runner.hooks
  unfold Delivered.handled
  cases ended : (runner.hooks.complete job : WorkerProgram Runner Payload JobResult).outcomeIn
      (outcomes.environment k) with
  | ok result =>
      rw [(deliver_completed ended).2]
      simpa [List.filterMap_cons, WorkerStatement.handled] using atMostOnce
  | error error =>
      have failure := @Program.filterMap_issuedIn _ _ _ _ (outcomes.environment k) _
        WorkerStatement.handled _ (@WorkerHooks.handleFailure_issues Runner Payload runner.hooks _
          job runner.arithmetic (outcomes.random k) error (fun _ _ => rfl) fun _ _ => rfl)
      rw [(deliver_failed ended).2, List.filterMap_cons, List.filterMap_append,
        List.filterMap_append, failure]
      simpa [List.filterMap_cons, WorkerStatement.handled] using atMostOnce

end Runs

/-- A delivery completes without a hook, or fails and calls one of the two. -/
inductive DeliveryEnds (arithmetic : Arithmetic) (job : JobEnvelope Payload)
    (delivered : Delivered Runner Payload) : Prop where
  | completed (result : delivered.outcome = .ok ⟨.completed, job.attempt, none⟩)
      (noRetry : delivered.retried = []) (noDeadLetter : delivered.deadLettered = [])
  | retried (error : Thrown)
      (attemptsLeft : (job.failed arithmetic).attempt < job.maxAttempts)
      (result : delivered.outcome =
        .ok ⟨.retrying, (job.failed arithmetic).attempt, some error.code⟩)
      (retry : delivered.retried = [job.failed arithmetic])
      (noDeadLetter : delivered.deadLettered = [])
  | deadLettered (error : Thrown)
      (terminal : job.maxAttempts ≤ (job.failed arithmetic).attempt)
      (result : delivered.outcome =
        .ok ⟨.deadLettered, (job.failed arithmetic).attempt, some error.code⟩)
      (noRetry : delivered.retried = [])
      (deadLetter : delivered.deadLettered = [(job.failed arithmetic, error)])

/-- At the last attempt only the dead-letter hook is called. -/
theorem handleFailure_terminal (runner : RetryingRunner Runner) {error : Thrown}
    (terminal : job.maxAttempts ≤ (job.failed runner.arithmetic).attempt) :
    (runner.hooks.handleFailure runner.arithmetic (outcomes.random k) job error :
        WorkerProgram Runner Payload JobResult).outcomeIn (outcomes.environment k) =
      .ok ⟨.deadLettered, (job.failed runner.arithmetic).attempt, some error.code⟩ ∧
      (runner.hooks.handleFailure runner.arithmetic (outcomes.random k) job error :
        WorkerProgram Runner Payload JobResult).issuedIn (outcomes.environment k) =
      [.onDeadLetter (job.failed runner.arithmetic) error] := by
  unfold JobEnvelope.failed at terminal
  unfold WorkerHooks.handleFailure WorkerHooks.afterFailure
  simp only [runner.deadLetters, if_pos terminal, if_true]
  exact ⟨rfl, rfl⟩

/-- At every other attempt only the retry hook is called. -/
theorem handleFailure_retry (runner : RetryingRunner Runner) {error : Thrown}
    (attemptsLeft : ¬ job.maxAttempts ≤ (job.failed runner.arithmetic).attempt) :
    (runner.hooks.handleFailure runner.arithmetic (outcomes.random k) job error :
        WorkerProgram Runner Payload JobResult).outcomeIn (outcomes.environment k) =
      .ok ⟨.retrying, (job.failed runner.arithmetic).attempt, some error.code⟩ ∧
      (runner.hooks.handleFailure runner.arithmetic (outcomes.random k) job error :
        WorkerProgram Runner Payload JobResult).issuedIn (outcomes.environment k) =
      [.onRetry (job.failed runner.arithmetic)
        (retryDelayMs runner.arithmetic (outcomes.random k)
          (job.failed runner.arithmetic).attempt (.finite 500) (.finite 60000))] := by
  unfold JobEnvelope.failed at attemptsLeft
  unfold WorkerHooks.handleFailure WorkerHooks.afterFailure
  simp only [runner.retries, if_neg attemptsLeft, if_true]
  exact ⟨rfl, rfl⟩

theorem deliver_ends (runner : RetryingRunner Runner) (outcomes : JobOutcomes) (k : Nat)
    (job : JobEnvelope Payload) :
    DeliveryEnds runner.arithmetic job (deliver runner.toWorkerRunner outcomes k job) := by
  have noRetry := @Program.filterMap_issuedIn _ _ _ _ (outcomes.environment k) _
    WorkerStatement.retried _ (@WorkerHooks.complete_issues Runner Payload runner.hooks _ job
      (fun _ => rfl) (fun _ => rfl) fun _ _ _ => rfl)
  have noDeadLetter := @Program.filterMap_issuedIn _ _ _ _ (outcomes.environment k) _
    WorkerStatement.deadLettered _ (@WorkerHooks.complete_issues Runner Payload runner.hooks _ job
      (fun _ => rfl) (fun _ => rfl) fun _ _ _ => rfl)
  cases ended : (runner.hooks.complete job : WorkerProgram Runner Payload JobResult).outcomeIn
      (outcomes.environment k) with
  | ok result =>
      obtain ⟨outcome, issued⟩ := deliver_completed ended
      rw [complete_outcome ended] at outcome
      refine .completed outcome ?_ ?_
      · simp only [Delivered.retried, issued, List.filterMap_cons, List.filterMap_append, noRetry]
        rfl
      · simp only [Delivered.deadLettered, issued, List.filterMap_cons, List.filterMap_append,
          noDeadLetter]
        rfl
  | error error =>
      obtain ⟨outcome, issued⟩ := deliver_failed ended
      by_cases terminal : job.maxAttempts ≤ (job.failed runner.arithmetic).attempt
      · obtain ⟨ends, calls⟩ := @handleFailure_terminal _ _ outcomes k job runner error terminal
        refine .deadLettered error terminal (outcome.trans ends) ?_ ?_
        · simp only [Delivered.retried, issued, calls, List.filterMap_cons,
            List.filterMap_append, noRetry]
          rfl
        · simp only [Delivered.deadLettered, issued, calls, List.filterMap_cons,
            List.filterMap_append, noDeadLetter]
          rfl
      · obtain ⟨ends, calls⟩ := @handleFailure_retry _ _ outcomes k job runner error terminal
        refine .retried error (not_le.mp terminal) (outcome.trans ends) ?_ ?_
        · simp only [Delivered.retried, issued, calls, List.filterMap_cons,
            List.filterMap_append, noRetry]
          rfl
        · simp only [Delivered.deadLettered, issued, calls, List.filterMap_cons,
            List.filterMap_append, noDeadLetter]
          rfl

end Delivery

/-! ## The whole loop -/

section Loop

/-- A delivery that failed and leaves the job to its next attempt. -/
structure FailedAttempt (arithmetic : Arithmetic) (delivered : Delivered Runner Payload) :
    Prop where
  outcome : ∃ errorCode, delivered.outcome =
    .ok ⟨.retrying, (delivered.job.failed arithmetic).attempt, some errorCode⟩
  retried : delivered.retried = [delivered.job.failed arithmetic]
  noDeadLetter : delivered.deadLettered = []

/-- A delivery that is the last one of its job: the job completed, or it was
handed to the dead-letter hook once. -/
structure LastAttempt (arithmetic : Arithmetic) (delivered : Delivered Runner Payload) :
    Prop where
  noRetry : delivered.retried = []
  ended : Xor
    (delivered.outcome = .ok ⟨.completed, delivered.job.attempt, none⟩ ∧
      delivered.deadLettered = [])
    (∃ error,
      delivered.outcome =
          .ok ⟨.deadLettered, (delivered.job.failed arithmetic).attempt, some error.code⟩ ∧
        delivered.deadLettered = [(delivered.job.failed arithmetic, error)])

/-- The attempts that are left for a job, one at least. -/
def attemptsLeft (attempt maxAttempts : ℚ) : Int :=
  max 1 ⌈maxAttempts - attempt⌉

/-- The attempts of a job up to its limit need no rounding. -/
def AttemptsExact (arithmetic : Arithmetic) (attempt maxAttempts : ℚ) : Prop :=
  ∀ n : Nat, (n : Int) ≤ attemptsLeft attempt maxAttempts →
    arithmetic.rounded (attempt + n) = .finite (attempt + n)

/-- The deliveries of a job up to its last attempt. -/
structure EndsOnce (arithmetic : Arithmetic) (attempt maxAttempts : ℚ)
    (job : JobEnvelope Payload) (run : List (Delivered Runner Payload)) : Prop where
  handled : ((run.flatMap Delivered.handled).length : Int) ≤ attemptsLeft attempt maxAttempts
  attempts : ∀ (n : Nat) delivered, run[n]? = some delivered →
    delivered.job = { job with attempt := .finite (attempt + n) } ∧
      (delivered.job.failed arithmetic).attempt = .finite (attempt + n + 1)
  ends : ∃ retries last, run = retries ++ [last] ∧
    (∀ delivered ∈ retries, FailedAttempt arithmetic delivered) ∧ LastAttempt arithmetic last

section Rules

variable {arithmetic : Arithmetic} {attempt maxAttempts : ℚ} {job : JobEnvelope Payload}
  {delivered : Delivered Runner Payload}

theorem attemptsLeft_pos (attempt maxAttempts : ℚ) : 1 ≤ attemptsLeft attempt maxAttempts :=
  le_max_left _ _

/-- A failure before the limit takes one of the attempts that are left. -/
theorem attemptsLeft_succ (before : attempt + 1 < maxAttempts) :
    attemptsLeft (attempt + 1) maxAttempts = attemptsLeft attempt maxAttempts - 1 := by
  have oneLess : ⌈maxAttempts - (attempt + 1)⌉ = ⌈maxAttempts - attempt⌉ - 1 := by
    rw [← Int.ceil_sub_one, sub_sub]
  have someLeft : 0 < ⌈maxAttempts - (attempt + 1)⌉ := Int.ceil_pos.mpr (sub_pos.mpr before)
  unfold attemptsLeft
  omega

theorem AttemptsExact.succ (exact : AttemptsExact arithmetic attempt maxAttempts)
    (before : attempt + 1 < maxAttempts) :
    AttemptsExact arithmetic (attempt + 1) maxAttempts := by
  intro n within
  rw [attemptsLeft_succ before] at within
  have next := exact (n + 1) (by omega)
  have sameSum : attempt + 1 + n = attempt + (n + 1 : Nat) := by
    rw [Nat.cast_succ]
    ring
  rw [sameSum]
  exact next

/-- A failure increases the attempt by one. -/
theorem AttemptsExact.failed_attempt (exact : AttemptsExact arithmetic attempt maxAttempts)
    (isAttempt : job.attempt = .finite attempt) :
    (job.failed arithmetic).attempt = .finite (attempt + 1) := by
  have one := exact 1 (attemptsLeft_pos attempt maxAttempts)
  rw [Nat.cast_one] at one
  unfold JobEnvelope.failed
  rw [isAttempt]
  exact one

/-- The attempts of the first delivery. -/
theorem AttemptsExact.first (exact : AttemptsExact arithmetic attempt maxAttempts)
    (isAttempt : job.attempt = .finite attempt) :
    job = { job with attempt := .finite (attempt + (0 : Nat)) } ∧
      (job.failed arithmetic).attempt = .finite (attempt + (0 : Nat) + 1) := by
  rw [Nat.cast_zero, add_zero, exact.failed_attempt isAttempt, ← isAttempt]
  exact ⟨rfl, rfl⟩

theorem EndsOnce.last (exact : AttemptsExact arithmetic attempt maxAttempts)
    (isAttempt : job.attempt = .finite attempt) (ofJob : delivered.job = job)
    (calls : delivered.handled.length ≤ 1) (last : LastAttempt arithmetic delivered) :
    EndsOnce arithmetic attempt maxAttempts job [delivered] where
  handled := by
    have atLeast := attemptsLeft_pos attempt maxAttempts
    have once : (([delivered].flatMap Delivered.handled).length : Int) ≤ 1 := by
      simpa using calls
    omega
  attempts := by
    intro n other found
    cases n with
    | zero =>
        obtain rfl := Option.some.inj found
        rw [ofJob]
        exact exact.first isAttempt
    | succ n => cases found
  ends := ⟨[], delivered, rfl, by simp, last⟩

/-- A failed attempt in front of the deliveries of the next ones. -/
theorem EndsOnce.cons {run : List (Delivered Runner Payload)}
    (exact : AttemptsExact arithmetic attempt maxAttempts)
    (isAttempt : job.attempt = .finite attempt) (ofJob : delivered.job = job)
    (calls : delivered.handled.length ≤ 1) (failed : FailedAttempt arithmetic delivered)
    (before : attempt + 1 < maxAttempts)
    (rest : EndsOnce arithmetic (attempt + 1) maxAttempts (job.failed arithmetic) run) :
    EndsOnce arithmetic attempt maxAttempts job (delivered :: run) where
  handled := by
    have ofRest := rest.handled
    have split : ((delivered :: run).flatMap Delivered.handled).length =
        delivered.handled.length + (run.flatMap Delivered.handled).length := by
      rw [List.flatMap_cons, List.length_append]
    rw [attemptsLeft_succ before] at ofRest
    omega
  attempts := by
    intro n other found
    cases n with
    | zero =>
        obtain rfl := Option.some.inj found
        rw [ofJob]
        exact exact.first isAttempt
    | succ n =>
        have sameSum : attempt + (n + 1 : Nat) = attempt + 1 + n := by
          rw [Nat.cast_succ]
          ring
        rw [sameSum]
        exact rest.attempts n other found
  ends := by
    obtain ⟨retries, last, ended, allFailed, ofLast⟩ := rest.ends
    refine ⟨delivered :: retries, last, by rw [ended, List.cons_append], ?_, ofLast⟩
    intro other member
    rcases List.mem_cons.mp member with rfl | later
    · exact failed
    · exact allFailed other later

end Rules

theorem Delivered.redelivery_none {delivered : Delivered Runner Payload} {result : JobResult}
    (ended : delivered.outcome = .ok result) (final : result.state ≠ .retrying) :
    delivered.redelivery = none := by
  unfold Delivered.redelivery
  simp only [ended, if_neg final]

/-- With as many deliveries as attempts are left, the job reaches its end. -/
theorem deliveries_endsOnce_of_le (runner : RetryingRunner Runner) (outcomes : JobOutcomes)
    {maxAttempts : ℚ} (fuel : Nat) : ∀ (k : Nat) (job : JobEnvelope Payload) (attempt : ℚ),
      job.attempt = .finite attempt → job.maxAttempts = .finite maxAttempts →
        AttemptsExact runner.arithmetic attempt maxAttempts →
          attemptsLeft attempt maxAttempts ≤ fuel →
            EndsOnce runner.arithmetic attempt maxAttempts job
              (deliveries runner.toWorkerRunner outcomes fuel k job) := by
  induction fuel with
  | zero =>
      intro k job attempt _isAttempt _isMax _exact enough
      have atLeast := attemptsLeft_pos attempt maxAttempts
      omega
  | succ fuel inductionHypothesis =>
      intro k job attempt isAttempt isMax exact enough
      have calls := @deliver_handled _ _ outcomes k job runner.toWorkerRunner
      unfold deliveries
      dsimp only
      cases deliver_ends runner outcomes k job with
      | completed result noRetry noDeadLetter =>
          rw [Delivered.redelivery_none result JobState.noConfusion]
          refine .last exact isAttempt rfl calls ⟨noRetry, Or.inl ⟨⟨result, noDeadLetter⟩, ?_⟩⟩
          rintro ⟨error, -, deadLetter⟩
          rw [noDeadLetter] at deadLetter
          cases deadLetter
      | retried error left result retry noDeadLetter =>
          have next : (deliver runner.toWorkerRunner outcomes k job).redelivery =
              some (job.failed runner.arithmetic) := by
            unfold Delivered.redelivery
            simp only [result, retry, if_true, List.head?_cons]
          rw [next]
          have raised := exact.failed_attempt isAttempt
          have before : attempt + 1 < maxAttempts := by
            rw [raised, isMax] at left
            exact JsNumber.finite_lt_finite.mp left
          have enoughLeft : attemptsLeft (attempt + 1) maxAttempts ≤ fuel := by
            rw [attemptsLeft_succ before]
            omega
          exact .cons exact isAttempt rfl calls ⟨⟨error.code, result⟩, retry, noDeadLetter⟩
            before
            (inductionHypothesis (k + 1) (job.failed runner.arithmetic) (attempt + 1) raised isMax
              (exact.succ before) enoughLeft)
      | deadLettered error terminal result noRetry deadLetter =>
          rw [Delivered.redelivery_none result JobState.noConfusion]
          refine .last exact isAttempt rfl calls
            ⟨noRetry, Or.inr ⟨⟨error, result, deadLetter⟩, ?_⟩⟩
          rintro ⟨-, noDeadLetter⟩
          rw [noDeadLetter] at deadLetter
          cases deadLetter

/-- However many more deliveries are allowed, the handler runs once for each
attempt left at most, and the job ends completed or dead-lettered, not both. -/
theorem deliveries_endsOnce (runner : RetryingRunner Runner) (outcomes : JobOutcomes)
    (k more : Nat) (job : JobEnvelope Payload) {attempt maxAttempts : ℚ}
    (isAttempt : job.attempt = .finite attempt) (isMax : job.maxAttempts = .finite maxAttempts)
    (exact : AttemptsExact runner.arithmetic attempt maxAttempts) :
    EndsOnce runner.arithmetic attempt maxAttempts job
      (deliveries runner.toWorkerRunner outcomes
        ((attemptsLeft attempt maxAttempts).toNat + more) k job) := by
  refine deliveries_endsOnce_of_le runner outcomes _ k job attempt isAttempt isMax exact ?_
  have positive := attemptsLeft_pos attempt maxAttempts
  omega

/-! ## Half an attempt -/

/-- A runner with both hooks and no idempotency port. -/
def hookedRunner : RetryingRunner Unit where
  id := ()
  concurrency := .finite 10
  hooks := ⟨false, none, true, true⟩
  arithmetic := .unrounded
  retries := rfl
  deadLetters := rfl

/-- The handler fails every time. -/
def handlerFails : JobOutcomes where
  lookup _ := .ok none
  handler _ := .error (.error "Error" "boom")
  record _ := .ok true
  random _ := .zero

/-- A job with its attempt and its limit. -/
def limitedJob (attempt maxAttempts : JsNumber) : JobEnvelope Unit where
  jobId := "job-1"
  jobType := "invoice"
  tenantId := "tenant-1"
  workspaceId := none
  payload := ()
  attempt := attempt
  maxAttempts := maxAttempts
  createdAt := "2026-01-01T00:00:00.000Z"
  correlationId := "corr-1"
  idempotencyKey := "invoice-1"

/-- One attempt and a half are two deliveries at most. -/
theorem halfAttempt_endsOnce :
    EndsOnce .unrounded 0 (3 / 2) (limitedJob (.finite 0) (.finite (3 / 2)))
      (deliveries hookedRunner.toWorkerRunner handlerFails
        ((attemptsLeft 0 (3 / 2)).toNat + 1) 0 (limitedJob (.finite 0) (.finite (3 / 2)))) :=
  deliveries_endsOnce hookedRunner handlerFails 0 1 (limitedJob (.finite 0) (.finite (3 / 2)))
    rfl rfl fun _ _ => rfl

theorem halfAttempt_handledTwice :
    ¬ ((((deliveries hookedRunner.toWorkerRunner handlerFails 2 0
      (limitedJob (.finite 0) (.finite (3 / 2)))).flatMap Delivered.handled).length : ℚ) ≤
        max 1 (3 / 2 - 0)) := by
  have twice : ((deliveries hookedRunner.toWorkerRunner handlerFails 2 0
      (limitedJob (.finite 0) (.finite (3 / 2)))).flatMap Delivered.handled).length = 2 := by
    decide +kernel
  rw [twice]
  norm_num

/-- Without a limit every delivery that fails is followed by another one. -/
theorem unlimitedJob_neverEnds (fuel : Nat) : ∀ (k : Nat) (attempt : ℚ),
    (deliveries hookedRunner.toWorkerRunner handlerFails fuel k
      (limitedJob (.finite attempt) (.infinite false))).length = fuel := by
  induction fuel with
  | zero =>
      intro k attempt
      rfl
  | succ fuel inductionHypothesis =>
      intro k attempt
      have next : (deliver hookedRunner.toWorkerRunner handlerFails k
          (limitedJob (.finite attempt) (.infinite false))).redelivery =
            some (limitedJob (.finite (attempt + 1)) (.infinite false)) := by
        cases deliver_ends hookedRunner handlerFails k
            (limitedJob (.finite attempt) (.infinite false)) with
        | completed result =>
            cases result
        | retried error left result retry =>
            unfold Delivered.redelivery
            simp only [result, retry, if_true, List.head?_cons]
            rfl
        | deadLettered error terminal =>
            exact absurd terminal (not_le.mpr (JsNumber.finite_lt_infinite (attempt + 1)))
      unfold deliveries
      dsimp only
      rw [next, List.length_cons, inductionHypothesis (k + 1) (attempt + 1)]

end Loop

end RetryLoop

end PlatformArchitecture.Workers
