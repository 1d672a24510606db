import Mathlib.Data.List.Basic
import PlatformArchitecture.Foundations.Run

/-!
# The queues of a BullMQ adapter

`BullMqJobQueueAdapter` makes one queue per name and keeps it.  `close` closes
the queues that it finds and empties the map when all of them have closed;
callers go on meanwhile.
-/

namespace PlatformArchitecture.Adapters

open PlatformArchitecture.Foundations

namespace BullMqJobQueueAdapter

/-- The map of queues, how many queues the factory has made, those whose `close`
has been called, and the calls of `close` that wait for them. -/
structure State where
  queues : List (String × Nat)
  created : Nat
  closed : List Nat
  closing : List Nat

def start : State :=
  ⟨[], 0, [], []⟩

/-- `this.queue(name)`. -/
def queue (name : String) (state : State) : Nat × State :=
  match state.queues.lookup name with
  | some existing => (existing, state)
  | none =>
      (state.created,
        { state with
          queues := state.queues ++ [(name, state.created)]
          created := state.created + 1 })

def healthQueue : String :=
  "__platform_health"

inductive Action where
  | enqueue (name : String)
  | health
  | closeBegins (caller : Nat)
  | closeReturns (caller : Nat) (succeeds : Bool)

/-- The queue that an action asks for; without a name nothing is enqueued. -/
def Action.wanted : Action → Option String
  | .enqueue name => if name = "" then none else some name
  | .health => some healthQueue
  | .closeBegins _ | .closeReturns _ _ => none

def step (state : State) (action : Action) : State :=
  match action with
  | .enqueue _ | .health =>
      match action.wanted with
      | none => state
      | some name => (queue name state).2
  | .closeBegins caller =>
      { state with
        closed := state.closed ++ state.queues.map Prod.snd
        closing := caller :: state.closing }
  | .closeReturns caller succeeds =>
      if caller ∈ state.closing then
        { state with
          closing := state.closing.erase caller
          queues := if succeeds then [] else state.queues }
      else state

/-- A queue that is open and that nobody can reach any more. -/
def Leaked (state : State) (made : Nat) : Prop :=
  made < state.created ∧ made ∉ state.closed ∧ ∀ name, (name, made) ∉ state.queues

/-- What an action can do. -/
theorem step_cases (state : State) (action : Action) :
    step state action = state ∨
    (∃ name, action.wanted = some name ∧ state.queues.lookup name = none ∧
      step state action =
        { state with
          queues := state.queues ++ [(name, state.created)]
          created := state.created + 1 }) ∨
    (∃ caller, action = .closeBegins caller ∧
      step state action =
        { state with
          closed := state.closed ++ state.queues.map Prod.snd
          closing := caller :: state.closing }) ∨
    ∃ caller succeeds, action = .closeReturns caller succeeds ∧ caller ∈ state.closing ∧
      step state action =
        { state with
          closing := state.closing.erase caller
          queues := if succeeds then [] else state.queues } := by
  have asks : ∀ name, action.wanted = some name → step state action = (queue name state).2 →
      step state action = state ∨ ∃ name, action.wanted = some name ∧
        state.queues.lookup name = none ∧
        step state action =
          { state with
            queues := state.queues ++ [(name, state.created)]
            created := state.created + 1 } := by
    intro name wanted same
    cases found : state.queues.lookup name with
    | some existing =>
        left
        rw [same, queue, found]
    | none =>
        right
        refine ⟨name, wanted, found, ?_⟩
        rw [same, queue, found]
  cases action with
  | enqueue name =>
      by_cases empty : name = ""
      · left
        simp [step, Action.wanted, empty]
      · have wanted : (Action.enqueue name).wanted = some name := by
          rw [Action.wanted, if_neg empty]
        rcases asks name wanted (by rw [step, wanted]) with same | new
        · exact .inl same
        · exact .inr (.inl new)
  | health =>
      rcases asks healthQueue rfl rfl with same | new
      · exact .inl same
      · exact .inr (.inl new)
  | closeBegins caller => exact .inr (.inr (.inl ⟨caller, rfl, rfl⟩))
  | closeReturns caller succeeds =>
      by_cases waits : caller ∈ state.closing
      · refine .inr (.inr (.inr ⟨caller, succeeds, rfl, waits, ?_⟩))
        rw [step, if_pos waits]
      · left
        rw [step, if_neg waits]

/-- The numbers of the queues have been given out. -/
def Numbered (state : State) : Prop :=
  (∀ entry ∈ state.queues, entry.2 < state.created) ∧ ∀ made ∈ state.closed, made < state.created

theorem Numbered.step {state : State} (numbered : Numbered state) (action : Action) :
    Numbered (step state action) := by
  obtain ⟨inMap, inClosed⟩ := numbered
  rcases step_cases state action with same | ⟨name, _, _, same⟩ | ⟨caller, _, same⟩ |
    ⟨caller, succeeds, _, _, same⟩
  · rw [same]
    exact ⟨inMap, inClosed⟩
  · rw [same]
    refine ⟨?_, fun made member => Nat.lt_succ_of_lt (inClosed made member)⟩
    intro entry member
    rcases List.mem_append.mp member with before | new
    · exact Nat.lt_succ_of_lt (inMap entry before)
    · rw [List.mem_singleton.mp new]
      exact Nat.lt_succ_self _
  · rw [same]
    refine ⟨inMap, ?_⟩
    intro made member
    rcases List.mem_append.mp member with before | now
    · exact inClosed made before
    · obtain ⟨entry, isEntry, rfl⟩ := List.mem_map.mp now
      exact inMap entry isEntry
  · rw [same]
    refine ⟨?_, inClosed⟩
    intro entry member
    cases succeeds with
    | true => cases member
    | false => exact inMap entry member

/-- A queue that has leaked is never closed. -/
theorem Leaked.step {state : State} {made : Nat} (leaked : Leaked state made) (action : Action) :
    Leaked (step state action) made := by
  obtain ⟨isMade, isOpen, unreachable⟩ := leaked
  rcases step_cases state action with same | ⟨name, _, _, same⟩ | ⟨caller, _, same⟩ |
    ⟨caller, succeeds, _, _, same⟩
  · rw [same]
    exact ⟨isMade, isOpen, unreachable⟩
  · rw [same]
    refine ⟨Nat.lt_succ_of_lt isMade, isOpen, ?_⟩
    intro other member
    rcases List.mem_append.mp member with before | new
    · exact unreachable other before
    · cases List.mem_singleton.mp new
      exact Nat.lt_irrefl _ isMade
  · rw [same]
    refine ⟨isMade, ?_, unreachable⟩
    intro member
    rcases List.mem_append.mp member with before | now
    · exact isOpen before
    · obtain ⟨⟨other, _⟩, isEntry, rfl⟩ := List.mem_map.mp now
      exact unreachable other isEntry
  · rw [same]
    refine ⟨isMade, isOpen, ?_⟩
    intro other member
    cases succeeds with
    | true => cases member
    | false => exact unreachable other member

/-- A queue that has been made and not been closed. -/
def IsOpen (made : Nat) (state : State) : Prop :=
  made < state.created ∧ made ∉ state.closed

/-- Only the start of a `close` closes queues. -/
theorem IsOpen.step {made : Nat} {state : State} (isOpen : IsOpen made state) {action : Action}
    (noClose : ∀ caller, action ≠ .closeBegins caller) : IsOpen made (step state action) := by
  obtain ⟨isMade, notClosed⟩ := isOpen
  rcases step_cases state action with same | ⟨name, _, _, same⟩ | ⟨caller, isBegin, same⟩ |
    ⟨caller, succeeds, _, _, same⟩
  · rw [same]
    exact ⟨isMade, notClosed⟩
  · rw [same]
    exact ⟨Nat.lt_succ_of_lt isMade, notClosed⟩
  · exact absurd isBegin (noClose caller)
  · rw [same]
    exact ⟨isMade, notClosed⟩

/-- The queue that an action makes is open. -/
theorem isOpen_of_made {state : State} (numbered : Numbered state) {action : Action}
    {name : String} (wanted : action.wanted = some name)
    (absent : state.queues.lookup name = none) :
    IsOpen state.created (BullMqJobQueueAdapter.step state action) := by
  have notClosed : state.created ∉ state.closed :=
    fun member => Nat.lt_irrefl _ (numbered.2 _ member)
  have asked : BullMqJobQueueAdapter.step state action = (queue name state).2 := by
    cases action with
    | enqueue other | health =>
        simp only [BullMqJobQueueAdapter.step, wanted]
    | closeBegins caller | closeReturns caller succeeds => cases wanted
  rw [asked, queue, absent]
  exact ⟨Nat.lt_succ_self _, notClosed⟩

/-- The success of a `close` leaves every open queue behind. -/
theorem IsOpen.leaked {made caller : Nat} {state : State} (isOpen : IsOpen made state)
    (waits : caller ∈ state.closing) :
    Leaked (BullMqJobQueueAdapter.step state (.closeReturns caller true)) made := by
  rw [BullMqJobQueueAdapter.step, if_pos waits]
  exact ⟨isOpen.1, isOpen.2, fun _ member => absurd member List.not_mem_nil⟩

/-- No queue is made while a `close` waits. -/
def MakesNoneWhileClosing (state : State) (action : Action) : Prop :=
  ∀ name, action.wanted = some name → state.queues.lookup name = none → state.closing = []

/-- Every open queue is in the map, and while a `close` waits there is none. -/
structure Kept (state : State) : Prop where
  reachable : ∀ made < state.created, made ∈ state.closed ∨ ∃ name, (name, made) ∈ state.queues
  closing : state.closing ≠ [] → ∀ entry ∈ state.queues, entry.2 ∈ state.closed

theorem Kept.step {state : State} (kept : Kept state) {action : Action}
    (quiet : MakesNoneWhileClosing state action) : Kept (step state action) := by
  rcases step_cases state action with same | ⟨name, wanted, absent, same⟩ | ⟨caller, _, same⟩ |
    ⟨caller, succeeds, _, waits, same⟩
  · rw [same]
    exact kept
  · rw [same]
    refine ⟨?_, fun waiting => absurd (quiet name wanted absent) waiting⟩
    intro made isMade
    rcases Nat.lt_succ_iff_lt_or_eq.mp isMade with before | rfl
    · rcases kept.reachable made before with isClosed | ⟨other, member⟩
      · exact .inl isClosed
      · exact .inr ⟨other, List.mem_append_left _ member⟩
    · exact .inr ⟨name, List.mem_append_right _ List.mem_cons_self⟩
  · rw [same]
    constructor
    · intro made isMade
      rcases kept.reachable made isMade with isClosed | inMap
      · exact .inl (List.mem_append_left _ isClosed)
      · exact .inr inMap
    · intro _ entry member
      exact List.mem_append_right _ (List.mem_map_of_mem member)
  · have allClosed := kept.closing (List.ne_nil_of_mem waits)
    rw [same]
    cases succeeds with
    | true =>
        refine ⟨?_, fun _ entry member => absurd member List.not_mem_nil⟩
        intro made isMade
        rcases kept.reachable made isMade with isClosed | ⟨name, member⟩
        · exact .inl isClosed
        · exact .inl (allClosed _ member)
    | false => exact ⟨kept.reachable, fun _ => allClosed⟩

/-- A name of the map leads to a queue that is closed. -/
def GetsClosed (name : String) (state : State) : Prop :=
  ∃ made, state.queues.lookup name = some made ∧ made ∈ state.closed

theorem GetsClosed.step {name : String} {state : State} (closed : GetsClosed name state)
    {action : Action} (fails : ∀ caller, action ≠ .closeReturns caller true) :
    GetsClosed name (step state action) := by
  obtain ⟨made, found, isClosed⟩ := closed
  rcases step_cases state action with same | ⟨other, _, _, same⟩ | ⟨caller, _, same⟩ |
    ⟨caller, succeeds, isReturn, _, same⟩
  · rw [same]
    exact ⟨made, found, isClosed⟩
  · rw [same]
    refine ⟨made, ?_, isClosed⟩
    rw [List.lookup_append, found, Option.some_or]
  · rw [same]
    exact ⟨made, found, List.mem_append_left _ isClosed⟩
  · rw [same]
    cases succeeds with
    | true => exact absurd isReturn (fails caller)
    | false => exact ⟨made, found, isClosed⟩

theorem mem_of_lookup {name : String} {made : Nat} {queues : List (String × Nat)}
    (found : queues.lookup name = some made) : (name, made) ∈ queues := by
  obtain ⟨front, back, rfl, _⟩ := List.lookup_eq_some_iff.mp found
  exact List.mem_append_right _ List.mem_cons_self

/-- The start of a `close` closes what the map holds. -/
theorem getsClosed_of_closeBegins {name : String} {made : Nat} {state : State}
    (found : state.queues.lookup name = some made) (caller : Nat) :
    GetsClosed name (step state (.closeBegins caller)) :=
  ⟨made, found, List.mem_append_right _ (List.mem_map_of_mem (mem_of_lookup found))⟩

theorem numbered_run (actions : List Action) : Numbered (run step start actions) :=
  @run_invariant_of_step _ _ step Numbered (fun _ action holds => holds.step action) start
    actions ⟨fun _ member => absurd member List.not_mem_nil,
      fun _ member => absurd member List.not_mem_nil⟩

theorem not_leaked_of_everyStep {actions : List Action}
    (every : EveryStep step MakesNoneWhileClosing start actions) (made : Nat) :
    ¬ Leaked (run step start actions) made := by
  intro leaked
  have kept : Kept (run step start actions) :=
    run_invariant (fun _ _ holds quiet => holds.step quiet)
      ⟨fun made isMade => absurd isMade (Nat.not_lt_zero made),
        fun waiting => absurd rfl waiting⟩ every
  rcases kept.reachable made leaked.1 with isClosed | ⟨name, member⟩
  · exact leaked.2.1 isClosed
  · exact leaked.2.2 name member

/-- A queue stays open until another `close` begins. -/
theorem isOpen_run {made : Nat} {state : State} (isOpen : IsOpen made state)
    {between : List Action} (noClose : ∀ other, .closeBegins other ∉ between) :
    IsOpen made (run step state between) := by
  have quiet : ∀ next ∈ between, ∀ other, next ≠ .closeBegins other := by
    rintro next member other rfl
    exact noClose other member
  exact @run_invariant _ _ step (fun _ next => ∀ other, next ≠ .closeBegins other)
    (IsOpen made) (fun _ _ holds noBegin => holds.step noBegin) state between isOpen
    (everyStep_of_mem quiet)

/-- A name gets a closed queue until a `close` succeeds. -/
theorem getsClosed_run {name : String} {state : State} (closed : GetsClosed name state)
    {later : List Action} (unsuccessful : ∀ other, .closeReturns other true ∉ later) :
    GetsClosed name (run step state later) := by
  have fails : ∀ action ∈ later, ∀ other, action ≠ .closeReturns other true := by
    rintro action member other rfl
    exact unsuccessful other member
  exact @run_invariant _ _ step (fun _ action => ∀ other, action ≠ .closeReturns other true)
    (GetsClosed name) (fun _ _ holds fails => holds.step fails) state later closed
    (everyStep_of_mem fails)

/-- While no queue is made during a `close`, none leaks.  A queue that is made
while a `close` waits is never closed if that `close` succeeds before another
one begins, and from the beginning of a `close` on every name of the map gets a
closed queue until some `close` succeeds. -/
theorem queues_closed (actions : List Action) :
    (EveryStep step MakesNoneWhileClosing start actions →
      ∀ made, ¬ Leaked (run step start actions) made) ∧
    (∀ action name between caller later, action.wanted = some name →
      (run step start actions).queues.lookup name = none →
        (∀ other, .closeBegins other ∉ between) →
          caller ∈ (run step start (actions ++ action :: between)).closing →
            Leaked
              (run step start
                (actions ++ action :: between ++ .closeReturns caller true :: later))
              (run step start actions).created) ∧
    ∀ caller later, (∀ other, .closeReturns other true ∉ later) →
      ∀ name made, (run step start actions).queues.lookup name = some made →
        let reached := run step start (actions ++ .closeBegins caller :: later)
        (queue name reached).1 ∈ reached.closed := by
  refine ⟨not_leaked_of_everyStep, ?_, ?_⟩
  · intro action name between caller later wanted absent noClose waits
    have isOpen : IsOpen (run step start actions).created
        (run step start (actions ++ action :: between)) := by
      rw [run_append, run_cons]
      exact isOpen_run (isOpen_of_made (numbered_run actions) wanted absent) noClose
    rw [run_append, run_cons]
    exact @run_invariant_of_step _ _ step (fun now => Leaked now (run step start actions).created)
      (fun _ next holds => holds.step next) _ later (isOpen.leaked waits)
  · intro caller later unsuccessful name made found reached
    have closed : GetsClosed name reached := by
      dsimp only [reached]
      rw [run_append, run_cons]
      exact getsClosed_run (getsClosed_of_closeBegins found caller) unsuccessful
    obtain ⟨now, isNow, isClosed⟩ := closed
    rw [queue, isNow]
    exact isClosed

end BullMqJobQueueAdapter

end PlatformArchitecture.Adapters
