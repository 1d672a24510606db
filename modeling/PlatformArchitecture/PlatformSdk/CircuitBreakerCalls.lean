import PlatformArchitecture.PlatformSdk.CircuitBreaker

/-!
# Calls of a circuit breaker one after another

Where no two calls overlap, the two fields of a breaker stand for what has been
executed so far: the counter for the failures since the last success, and the
timestamp, while it is set, for the end of the last failure.  So a breaker
refuses a call exactly when the history says that it has to.
-/

namespace PlatformArchitecture.PlatformSdk

open PlatformArchitecture.Foundations

namespace CircuitBreaker

variable {Value Error : Type}

/-- A call of `run`: when it comes after the call before it, and what its
function settles with, and after how long, if it is invoked. -/
structure Call (Value Error : Type) where
  waited : Nat
  took : Nat
  outcome : Except Error Value

inductive CallError (Error : Type) where
  | circuitOpen
  | thrown (error : Error)

/-- How often a call invoked its function, and what its promise settled
with. -/
structure Served (Value Error : Type) where
  invocations : Nat
  answer : Except (CallError Error) Value

def Call.ended (call : Call Value Error) : Ended :=
  match call.outcome with
  | .ok _ => .fulfilled
  | .error _ => .rejected

/-- `run(fn)` with no other call in between: the state is that of the machine
after the call has arrived and, if it was admitted, settled. -/
def State.serve (breaker : CircuitBreaker) (state : State) (call : Call Value Error) :
    Served Value Error × State :=
  let arrived := step breaker state (.arrive call.waited)
  if state.isOpen breaker (state.clock + call.waited) then
    (⟨0, .error .circuitOpen⟩, arrived)
  else
    (⟨1, call.outcome.mapError .thrown⟩,
      step breaker arrived (.settle state.arrivals call.ended call.took))

/-! ## The history of executed calls -/

/-- A call whose function was invoked: when it completed, and how. -/
structure Execution where
  completedAt : Nat
  failed : Bool

/-- The breaker and what has been executed so far, the last call first. -/
structure Timeline where
  state : State
  history : List Execution

/-- A breaker constructed at a time, before any call. -/
def Timeline.fresh (clock : Nat) : Timeline :=
  ⟨initial clock, []⟩

def Timeline.serve (breaker : CircuitBreaker) (timeline : Timeline) (call : Call Value Error) :
    Timeline :=
  let served := timeline.state.serve breaker call
  { state := served.2
    history :=
      if served.1.invocations = 0 then timeline.history
      else ⟨served.2.clock, call.ended = .rejected⟩ :: timeline.history }

def failuresSinceSuccess (history : List Execution) : Nat :=
  (history.takeWhile Execution.failed).length

/-- The end of the last failure. -/
def lastFailure (history : List Execution) : Option Nat :=
  (history.find? Execution.failed).map Execution.completedAt

/-- At least `threshold` executed calls have failed since the last success, and
less than `resetMs` has passed since the last failure completed. -/
def MustRefuse (breaker : CircuitBreaker) (history : List Execution) (now : Nat) : Prop :=
  breaker.threshold ≤ (failuresSinceSuccess history : JsNumber) ∧
    ∃ completed ∈ lastFailure history,
      JsNumber.finite ((now : ℚ) - completed) < breaker.resetMs

instance (breaker : CircuitBreaker) (history : List Execution) (now : Nat) :
    Decidable (MustRefuse breaker history now) :=
  inferInstanceAs (Decidable (_ ∧ ∃ completed ∈ lastFailure history, _))

/-- What the history makes of a call. -/
def expectedAnswer (breaker : CircuitBreaker) (history : List Execution) (now : Nat)
    (call : Call Value Error) : Served Value Error :=
  if MustRefuse breaker history now then ⟨0, .error .circuitOpen⟩
  else ⟨1, call.outcome.mapError .thrown⟩

/-- What the fields of the breaker say of the history. -/
structure Recorded (breaker : CircuitBreaker) (timeline : Timeline) : Prop where
  positive : 0 < timeline.state.clock
  failures : timeline.state.failures = failuresSinceSuccess timeline.history
  tripped : breaker.threshold ≤ (failuresSinceSuccess timeline.history : JsNumber) →
    timeline.state.openedAt ≠ 0 ∧ lastFailure timeline.history = some timeline.state.openedAt
  closed : ¬ breaker.threshold ≤ (failuresSinceSuccess timeline.history : JsNumber) →
    timeline.state.openedAt = 0

/-- The breaker is open exactly when the history says so. -/
theorem Recorded.isOpen_iff {breaker : CircuitBreaker} {timeline : Timeline}
    (recorded : Recorded breaker timeline) (now : Nat) :
    timeline.state.isOpen breaker now = true ↔ MustRefuse breaker timeline.history now := by
  rw [State.isOpen, Bool.and_eq_true, bne_iff_ne, decide_eq_true_eq, MustRefuse]
  by_cases trips : breaker.threshold ≤ (failuresSinceSuccess timeline.history : JsNumber)
  · obtain ⟨known, last⟩ := recorded.tripped trips
    simp [known, last, trips]
  · simp [recorded.closed trips, trips]

/-! ## One call -/

@[simp]
theorem arrive_failures (breaker : CircuitBreaker) (state : State) (now : Nat) :
    (state.arrive breaker now).failures = state.failures := by
  unfold State.arrive
  dsimp only
  split
  · rfl
  · rfl

@[simp]
theorem arrive_openedAt (breaker : CircuitBreaker) (state : State) (now : Nat) :
    (state.arrive breaker now).openedAt = state.openedAt := by
  unfold State.arrive
  dsimp only
  split
  · rfl
  · rfl

@[simp]
theorem arrive_clock (breaker : CircuitBreaker) (state : State) (now : Nat) :
    (state.arrive breaker now).clock = now := by
  unfold State.arrive
  dsimp only
  split
  · rfl
  · rfl

@[simp]
theorem reject_clock (breaker : CircuitBreaker) (state : State) (call now : Nat) :
    (state.reject breaker call now).clock = now := by
  unfold State.reject
  dsimp only
  split
  · rfl
  · rfl

@[simp]
theorem reject_failures (breaker : CircuitBreaker) (state : State) (call now : Nat) :
    (state.reject breaker call now).failures = state.failures + 1 := by
  unfold State.reject
  dsimp only
  split
  · rfl
  · rfl

@[simp]
theorem reject_openedAt (breaker : CircuitBreaker) (state : State) (call now : Nat) :
    (state.reject breaker call now).openedAt =
      if state.trips breaker then now else state.openedAt := by
  unfold State.reject
  dsimp only
  split
  · rfl
  · rfl

/-- No breaker is open before a failure. -/
theorem not_threshold_le_zero {breaker : CircuitBreaker}
    (threshold : ((1 : Nat) : JsNumber) ≤ breaker.threshold) :
    ¬ breaker.threshold ≤ ((0 : Nat) : JsNumber) := by
  intro reached
  have oneLeZero := threshold.trans reached
  rw [JsNumber.natCast_le_natCast] at oneLeZero
  omega

section Step

variable {breaker : CircuitBreaker} {timeline : Timeline} {call : Call Value Error}

/-- A refused call only arrives. -/
theorem serve_refused
    (isOpen : timeline.state.isOpen breaker (timeline.state.clock + call.waited) = true) :
    timeline.serve breaker call =
      ⟨timeline.state.arrive breaker (timeline.state.clock + call.waited),
        timeline.history⟩ := by
  simp [Timeline.serve, State.serve, step, isOpen]

/-- An admitted call settles, and is the last one executed. -/
theorem serve_admitted
    (admitted : timeline.state.isOpen breaker (timeline.state.clock + call.waited) = false) :
    timeline.serve breaker call =
      let arrived := timeline.state.arrive breaker (timeline.state.clock + call.waited)
      let completed := timeline.state.clock + call.waited + call.took
      match call.ended with
      | .fulfilled =>
          ⟨arrived.fulfil timeline.state.arrivals completed,
            ⟨completed, false⟩ :: timeline.history⟩
      | .rejected =>
          ⟨arrived.reject breaker timeline.state.arrivals completed,
            ⟨completed, true⟩ :: timeline.history⟩ := by
  have executes : (timeline.state.arrive breaker
      (timeline.state.clock + call.waited)).executing.contains timeline.state.arrivals = true := by
    simp [State.arrive, admitted]
  cases ended : call.ended with
  | fulfilled =>
      simp only [Timeline.serve, State.serve, step, admitted, Bool.false_eq_true, if_false,
        executes, if_true, ended, arrive_clock, State.fulfil]
      simp
  | rejected =>
      simp only [Timeline.serve, State.serve, step, admitted, Bool.false_eq_true, if_false,
        executes, if_true, ended, arrive_clock, reject_clock]
      simp

/-- A refused call moves the clock and nothing else that the breaker reads. -/
theorem Recorded.refuse (recorded : Recorded breaker timeline)
    (isOpen : timeline.state.isOpen breaker (timeline.state.clock + call.waited) = true) :
    Recorded breaker (timeline.serve breaker call) := by
  rw [serve_refused isOpen]
  constructor
  · rw [arrive_clock]
    exact Nat.add_pos_left recorded.positive call.waited
  · rw [arrive_failures]
    exact recorded.failures
  · rw [arrive_openedAt]
    exact recorded.tripped
  · rw [arrive_openedAt]
    exact recorded.closed

/-- A success clears the counter and the timestamp. -/
theorem Recorded.fulfil (recorded : Recorded breaker timeline)
    (threshold : ((1 : Nat) : JsNumber) ≤ breaker.threshold)
    (admitted : timeline.state.isOpen breaker (timeline.state.clock + call.waited) = false)
    (fulfilled : call.ended = .fulfilled) : Recorded breaker (timeline.serve breaker call) := by
  have positive := recorded.positive
  have below := not_threshold_le_zero threshold
  rw [serve_admitted admitted, fulfilled]
  constructor
  · simp only [State.fulfil]
    omega
  · rfl
  · intro reached
    exact absurd reached below
  · intro _notReached
    rfl

/-- A failure is counted, and from the threshold on its end is kept. -/
theorem Recorded.reject (recorded : Recorded breaker timeline)
    (admitted : timeline.state.isOpen breaker (timeline.state.clock + call.waited) = false)
    (rejected : call.ended = .rejected) : Recorded breaker (timeline.serve breaker call) := by
  have positive := recorded.positive
  rw [serve_admitted admitted, rejected]
  dsimp only
  have count : failuresSinceSuccess
      (⟨timeline.state.clock + call.waited + call.took, true⟩ :: timeline.history) =
        timeline.state.failures + 1 := by
    rw [recorded.failures]
    rfl
  have trips : (timeline.state.arrive breaker
      (timeline.state.clock + call.waited)).trips breaker = true ↔
        breaker.threshold ≤ ((timeline.state.failures + 1 : Nat) : JsNumber) := by
    rw [State.trips, arrive_failures, decide_eq_true_eq]
  constructor
  · rw [reject_clock]
    omega
  · rw [reject_failures, arrive_failures, count]
  · rw [count]
    intro reached
    rw [reject_openedAt, if_pos (trips.mpr reached)]
    exact ⟨by omega, rfl⟩
  · rw [count]
    intro notReached
    rw [reject_openedAt, if_neg (mt trips.mp notReached), arrive_openedAt]
    refine recorded.closed ?_
    rw [← recorded.failures]
    intro reached
    refine notReached (reached.trans ?_)
    exact JsNumber.natCast_le_natCast.mpr (Nat.le_succ _)

end Step

theorem Recorded.serve {breaker : CircuitBreaker} {timeline : Timeline}
    (threshold : ((1 : Nat) : JsNumber) ≤ breaker.threshold)
    (recorded : Recorded breaker timeline) (call : Call Value Error) :
    Recorded breaker (timeline.serve breaker call) := by
  cases isOpen : timeline.state.isOpen breaker (timeline.state.clock + call.waited) with
  | true => exact recorded.refuse isOpen
  | false =>
      cases ended : call.ended with
      | fulfilled => exact recorded.fulfil threshold isOpen ended
      | rejected => exact recorded.reject isOpen ended

/-! ## Runs -/

theorem recorded_fresh {breaker : CircuitBreaker}
    (threshold : ((1 : Nat) : JsNumber) ≤ breaker.threshold) {clock : Nat} (positive : 0 < clock) :
    Recorded breaker (.fresh clock) where
  positive := positive
  failures := rfl
  tripped := by
    intro reached
    exact absurd reached (not_threshold_le_zero threshold)
  closed := fun _notReached => rfl

/-- After any calls one after another, a call is refused without invoking its
function exactly when the history demands it, and otherwise its function is
invoked once and its outcome returned. -/
theorem serve_eq_expectedAnswer (breaker : CircuitBreaker)
    (threshold : ((1 : Nat) : JsNumber) ≤ breaker.threshold) {clock : Nat} (positive : 0 < clock)
    (calls : List (Call Value Error)) (call : Call Value Error) :
    let timeline := run (Timeline.serve breaker) (.fresh clock) calls
    (timeline.state.serve breaker call).1 =
      expectedAnswer breaker timeline.history (timeline.state.clock + call.waited) call := by
  intro timeline
  have recorded : Recorded breaker timeline :=
    @run_invariant_of_step _ _ (Timeline.serve breaker) (Recorded breaker)
      (fun _timeline other kept => kept.serve threshold other) _ calls
      (recorded_fresh threshold positive)
  have refuses := recorded.isOpen_iff (timeline.state.clock + call.waited)
  unfold State.serve expectedAnswer
  dsimp only
  by_cases must : MustRefuse breaker timeline.history (timeline.state.clock + call.waited)
  · rw [if_pos must, if_pos (refuses.mpr must)]
  · rw [if_neg must, if_neg (mt refuses.mp must)]

theorem serve_eq_expectedAnswer_sensitive :
    let timeline := run (Timeline.serve sensitive) (.fresh 1000)
      [(⟨0, 5, .error "down"⟩ : Call Nat String)]
    (timeline.state.serve sensitive (⟨7, 1, .ok 3⟩ : Call Nat String)).1 =
      expectedAnswer sensitive timeline.history (timeline.state.clock + 7) ⟨7, 1, .ok 3⟩ :=
  serve_eq_expectedAnswer sensitive (le_refl _) (by decide) _ _

end CircuitBreaker

end PlatformArchitecture.PlatformSdk
