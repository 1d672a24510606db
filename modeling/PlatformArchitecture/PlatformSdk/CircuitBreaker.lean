import PlatformArchitecture.Foundations.JsNumbers
import PlatformArchitecture.Foundations.Run

/-!
# The circuit breaker

`run` refuses calls while the breaker is open and closes it when a call
succeeds.  It does not ask when that call was admitted, so a call from before
the opening can end the window early.  The clock only moves forward; each
event says by how much.
-/

namespace PlatformArchitecture.PlatformSdk

open PlatformArchitecture.Foundations

/-- The values a breaker was constructed with. -/
structure CircuitBreaker where
  threshold : JsNumber
  resetMs : JsNumber

namespace CircuitBreaker

inductive Ended where
  | fulfilled
  | rejected
  deriving DecidableEq

/-- The fields of the object, the calls whose functions execute, and the times
at which functions were started and the breaker opened. -/
structure State where
  failures : Nat
  openedAt : Nat
  clock : Nat
  executing : List Nat
  arrivals : Nat
  refused : List Nat
  starts : List Nat
  openings : List Nat

def initial (clock : Nat) : State :=
  ⟨0, 0, clock, [], 0, [], [], []⟩

inductive Event where
  | arrive (elapsed : Nat)
  | settle (call : Nat) (ended : Ended) (elapsed : Nat)

/-- `this.openedAt && Date.now() - this.openedAt < this.resetMs`. -/
def State.isOpen (breaker : CircuitBreaker) (state : State) (now : Nat) : Bool :=
  state.openedAt != 0 && decide (JsNumber.finite ((now : ℚ) - state.openedAt) < breaker.resetMs)

def State.arrive (breaker : CircuitBreaker) (state : State) (now : Nat) : State :=
  let arrived : State := { state with clock := now, arrivals := state.arrivals + 1 }
  if state.isOpen breaker now then
    { arrived with refused := state.refused ++ [state.arrivals] }
  else
    { arrived with
      executing := state.executing ++ [state.arrivals]
      starts := state.starts ++ [now] }

/-- `++this.failures >= this.threshold`. -/
def State.trips (breaker : CircuitBreaker) (state : State) : Bool :=
  decide (breaker.threshold ≤ ((state.failures + 1 : Nat) : JsNumber))

def State.fulfil (state : State) (call now : Nat) : State :=
  { state with
    failures := 0
    openedAt := 0
    clock := now
    executing := state.executing.erase call }

def State.reject (breaker : CircuitBreaker) (state : State) (call now : Nat) : State :=
  let failed : State :=
    { state with
      failures := state.failures + 1
      clock := now
      executing := state.executing.erase call }
  if state.trips breaker then
    { failed with openedAt := now, openings := state.openings ++ [now] }
  else
    failed

def step (breaker : CircuitBreaker) (state : State) : Event → State
  | .arrive elapsed => state.arrive breaker (state.clock + elapsed)
  | .settle call ended elapsed =>
      if state.executing.contains call then
        match ended with
        | .fulfilled => state.fulfil call (state.clock + elapsed)
        | .rejected => state.reject breaker call (state.clock + elapsed)
      else
        { state with clock := state.clock + elapsed }

/-- No function was started within `resetMs` after an opening. -/
def WindowsKept (breaker : CircuitBreaker) (state : State) : Prop :=
  ∀ opened ∈ state.openings, ∀ started ∈ state.starts,
    ¬ (opened < started ∧ (started : JsNumber) < JsNumber.after opened breaker.resetMs)

/-- No call succeeds while the breaker is open, and the breaker does not open
when the clock reads zero. -/
def KeepsOpen (breaker : CircuitBreaker) (state : State) : Event → Prop
  | .arrive _ => True
  | .settle call .fulfilled elapsed =>
      call ∈ state.executing → state.isOpen breaker (state.clock + elapsed) = false
  | .settle call .rejected elapsed =>
      call ∈ state.executing → state.trips breaker = true → state.clock + elapsed ≠ 0

/-- What holds between two steps: a window that has not run out is still
guarded by the fields, which know an opening no earlier than its own. -/
structure Guarded (breaker : CircuitBreaker) (state : State) : Prop where
  kept : WindowsKept breaker state
  starts : ∀ started ∈ state.starts, started ≤ state.clock
  openings : ∀ opened ∈ state.openings, opened ≤ state.clock
  windows : ∀ opened ∈ state.openings,
    (state.openedAt ≠ 0 ∧ opened ≤ state.openedAt) ∨
      JsNumber.after opened breaker.resetMs ≤ (state.clock : JsNumber)

/-- Where the breaker is closed, every window has run out. -/
theorem Guarded.windows_over {breaker : CircuitBreaker} {state : State} {now : Nat}
    (guarded : Guarded breaker state) (later : state.clock ≤ now)
    (closed : state.isOpen breaker now = false) :
    ∀ opened ∈ state.openings, JsNumber.after opened breaker.resetMs ≤ (now : JsNumber) := by
  intro opened member
  rcases guarded.windows opened member with ⟨known, before⟩ | ranOut
  · have elapsed : ¬ JsNumber.finite ((now : ℚ) - state.openedAt) < breaker.resetMs := by
      intro running
      have stillOpen : state.isOpen breaker now = true := by
        rw [State.isOpen, Bool.and_eq_true, bne_iff_ne, decide_eq_true_eq]
        exact ⟨known, running⟩
      rw [closed] at stillOpen
      cases stillOpen
    rw [JsNumber.elapsed_lt_iff, not_lt] at elapsed
    exact (JsNumber.after_mono breaker.resetMs before).trans elapsed
  · exact ranOut.trans (JsNumber.natCast_le_natCast.mpr later)

theorem Guarded.tick {breaker : CircuitBreaker} {state : State} {now : Nat}
    (guarded : Guarded breaker state) (later : state.clock ≤ now) :
    Guarded breaker { state with clock := now } where
  kept := guarded.kept
  starts started member := (guarded.starts started member).trans later
  openings opened member := (guarded.openings opened member).trans later
  windows opened member :=
    (guarded.windows opened member).imp_right fun ranOut =>
      ranOut.trans (JsNumber.natCast_le_natCast.mpr later)

theorem arrive_guarded {breaker : CircuitBreaker} {state : State} {now : Nat}
    (guarded : Guarded breaker state) (later : state.clock ≤ now) :
    Guarded breaker (state.arrive breaker now) := by
  have ticked := guarded.tick later
  unfold State.arrive
  dsimp only
  split
  · exact ⟨ticked.kept, ticked.starts, ticked.openings, ticked.windows⟩
  · next notOpen =>
    have elapsed := guarded.windows_over later (Bool.not_eq_true _ ▸ notOpen)
    refine ⟨?_, ?_, ticked.openings, ticked.windows⟩
    · intro opened member started isStart
      rcases List.mem_append.mp isStart with earlier | isNow
      · exact guarded.kept opened member started earlier
      · rw [List.mem_singleton.mp isNow]
        rintro ⟨_, running⟩
        exact not_lt.mpr (elapsed opened member) running
    · exact List.forall_mem_append.mpr
        ⟨ticked.starts, List.forall_mem_singleton.mpr (le_refl now)⟩

theorem fulfil_guarded {breaker : CircuitBreaker} {state : State} {now : Nat}
    (guarded : Guarded breaker state) (later : state.clock ≤ now)
    (closed : state.isOpen breaker now = false) (call : Nat) :
    Guarded breaker (state.fulfil call now) := by
  have ticked := guarded.tick later
  have elapsed := guarded.windows_over later closed
  exact ⟨ticked.kept, ticked.starts, ticked.openings,
    fun opened member => Or.inr (elapsed opened member)⟩

theorem reject_guarded {breaker : CircuitBreaker} {state : State} {now : Nat}
    (guarded : Guarded breaker state) (later : state.clock ≤ now)
    (positive : state.trips breaker = true → now ≠ 0) (call : Nat) :
    Guarded breaker (state.reject breaker call now) := by
  have ticked := guarded.tick later
  unfold State.reject
  dsimp only
  split
  · next tripped =>
    have bounded : ∀ opened ∈ state.openings ++ [now], opened ≤ now :=
      List.forall_mem_append.mpr
        ⟨ticked.openings, List.forall_mem_singleton.mpr (le_refl now)⟩
    refine ⟨?_, ticked.starts, bounded, ?_⟩
    · intro opened member started isStart
      rcases List.mem_append.mp member with earlier | isNow
      · exact guarded.kept opened earlier started isStart
      · rw [List.mem_singleton.mp isNow]
        rintro ⟨afterNow, _⟩
        exact not_lt.mpr (ticked.starts started isStart) afterNow
    · intro opened member
      exact Or.inl ⟨positive tripped, bounded opened member⟩
  · exact ⟨ticked.kept, ticked.starts, ticked.openings, ticked.windows⟩

theorem step_guarded {breaker : CircuitBreaker} (state : State) (event : Event)
    (guarded : Guarded breaker state) (condition : KeepsOpen breaker state event) :
    Guarded breaker (step breaker state event) := by
  cases event with
  | arrive elapsed => exact arrive_guarded guarded (Nat.le_add_right _ _)
  | settle call ended elapsed =>
      have later : state.clock ≤ state.clock + elapsed := Nat.le_add_right _ _
      dsimp only [step]
      split
      · next executes =>
        have member := List.contains_iff_mem.mp executes
        cases ended with
        | fulfilled => exact fulfil_guarded guarded later (condition member) call
        | rejected => exact reject_guarded guarded later (condition member) call
      · exact guarded.tick later

/-- The windows are kept in every run in which no call succeeds while the
breaker is open. -/
theorem windowsKept_of_keepsOpen (breaker : CircuitBreaker) (clock : Nat) (events : List Event)
    (every : EveryStep (step breaker) (KeepsOpen breaker) (initial clock) events) :
    WindowsKept breaker (run (step breaker) (initial clock) events) := by
  have start : Guarded breaker (initial clock) := by
    refine ⟨?_, ?_, ?_, ?_⟩
    · intro opened member
      exact absurd member List.not_mem_nil
    · intro started member
      exact absurd member List.not_mem_nil
    · intro opened member
      exact absurd member List.not_mem_nil
    · intro opened member
      exact absurd member List.not_mem_nil
  exact (run_invariant (fun state event => step_guarded state event) start every).kept

/-- Two calls are admitted; one opens the breaker and the other closes it. -/
def lateSuccess : List Event :=
  [.arrive 0, .arrive 0, .settle 1 .rejected 0, .settle 0 .fulfilled 1, .arrive 1]

/-- A breaker that opens at the first failure, for half a minute. -/
def sensitive : CircuitBreaker :=
  ⟨((1 : Nat) : JsNumber), ((30000 : Nat) : JsNumber)⟩

theorem windowsKept_thirdRefused :
    WindowsKept sensitive (run (step sensitive) (initial 1000)
      [.arrive 0, .arrive 0, .settle 1 .rejected 5, .arrive 7, .settle 0 .fulfilled 40000,
        .arrive 1]) :=
  windowsKept_of_keepsOpen sensitive 1000 _
    (by
      refine ⟨trivial, trivial, ?_, trivial, ?_, trivial, trivial⟩
      · intro _member _trips
        decide
      · intro _member
        decide +kernel)

theorem windowBrokenBySuccess :
    ¬ ∀ (breaker : CircuitBreaker) (clock : Nat) (events : List Event),
        WindowsKept breaker (run (step breaker) (initial clock) events) := by
  intro keepsWindows
  have kept := keepsWindows sensitive 1000 lateSuccess 1000 (by decide) 1002 (by decide)
  revert kept
  decide +kernel

end CircuitBreaker

end PlatformArchitecture.PlatformSdk
