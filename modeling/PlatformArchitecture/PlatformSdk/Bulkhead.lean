import PlatformArchitecture.Foundations.JsNumbers
import PlatformArchitecture.Foundations.Run

/-!
# The bulkhead

A call of `run` that finds no free slot leaves its resolver in `waiters`.  A
call that ends gives its slot back and resolves the first waiter, whose
continuation runs later: between the two another call can arrive and take the
slot, and the woken call does not look again.
-/

namespace PlatformArchitecture.PlatformSdk

open PlatformArchitecture.Foundations

/-- A constructed bulkhead: the constructor refuses a limit below one. -/
structure Bulkhead where
  limit : JsNumber
  positive : ¬ limit < ((1 : Nat) : JsNumber)

/-- How the function of a call settled. -/
inductive Settled where
  | fulfilled
  | rejected
  deriving DecidableEq

namespace Bulkhead

/-- The fields of the object and where its calls are.  Calls are numbered in
the order they arrive. -/
structure State where
  active : Nat
  waiters : List Nat
  /-- Resolved, with the continuation still to run. -/
  woken : List Nat
  executing : List Nat
  ended : List (Nat × Settled)
  arrivals : Nat
  deriving DecidableEq

def initial : State :=
  ⟨0, [], [], [], [], 0⟩

/-- What can run between two suspensions. -/
inductive Event where
  | arrive
  | resume (call : Nat)
  | complete (call : Nat) (settled : Settled)

/-- `this.active++; ... fn()`. -/
def State.start (state : State) (call : Nat) : State :=
  { state with active := state.active + 1, executing := state.executing ++ [call] }

/-- `this.active--; this.waiters.shift()?.()`. -/
def State.release (state : State) (call : Nat) (settled : Settled) : State :=
  let freed : State :=
    { state with
      active := state.active - 1
      executing := state.executing.erase call
      ended := state.ended ++ [(call, settled)] }
  match state.waiters with
  | [] => freed
  | first :: rest => { freed with waiters := rest, woken := state.woken ++ [first] }

def State.arrive (bulkhead : Bulkhead) (state : State) : State :=
  let arrived : State := { state with arrivals := state.arrivals + 1 }
  if bulkhead.limit ≤ (state.active : JsNumber) then
    { arrived with waiters := state.waiters ++ [state.arrivals] }
  else
    arrived.start state.arrivals

def step (bulkhead : Bulkhead) (state : State) : Event → State
  | .arrive => state.arrive bulkhead
  | .resume call =>
      if state.woken.contains call then
        ({ state with woken := state.woken.erase call } : State).start call
      else
        state
  | .complete call settled =>
      if state.executing.contains call then state.release call settled else state

/-- The calls of a state, each in the one place where it is. -/
def State.calls (state : State) : List Nat :=
  state.waiters ++ state.woken ++ state.executing ++ state.ended.map Prod.fst

/-- No call is lost or in two places, and `active` counts the functions that
execute. -/
structure Accounted (state : State) : Prop where
  calls : state.calls.Perm (List.range state.arrivals)
  active : state.active = state.executing.length

/-- Calls wait only while another call is active or a wake-up is pending. -/
def WaitersCovered (state : State) : Prop :=
  state.waiters ≠ [] → state.active ≠ 0 ∨ state.woken ≠ []

def WithinLimit (bulkhead : Bulkhead) (state : State) : Prop :=
  (state.executing.length : JsNumber) ≤ bulkhead.limit

/-- What the bulkhead promises of a state. -/
def Safe (bulkhead : Bulkhead) (state : State) : Prop :=
  WithinLimit bulkhead state ∧ WaitersCovered state

/-- The steps that start a function do so while a slot is free. -/
def StartsWithinLimit (bulkhead : Bulkhead) (state : State) : Event → Prop
  | .arrive =>
      (state.active : JsNumber) < bulkhead.limit →
        ((state.active + 1 : Nat) : JsNumber) ≤ bulkhead.limit
  | .resume call =>
      call ∈ state.woken → ((state.active + 1 : Nat) : JsNumber) ≤ bulkhead.limit
  | .complete _ _ => True

theorem calls_start (state : State) (call : Nat) :
    (state.start call).calls.Perm (call :: state.calls) := by
  rw [List.perm_iff_count]
  intro each
  simp only [State.calls, State.start, List.count_append, List.count_cons, List.count_nil]
  omega

private theorem count_erase_add {call : Nat} {calls : List Nat} (member : call ∈ calls)
    (each : Nat) : (calls.erase call).count each + [call].count each = calls.count each := by
  have split := (List.perm_cons_erase member).count_eq each
  simp only [List.count_cons, List.count_nil] at split ⊢
  omega

theorem calls_release {state : State} {call : Nat} (member : call ∈ state.executing)
    (settled : Settled) : (state.release call settled).calls.Perm state.calls := by
  rw [List.perm_iff_count]
  intro each
  have erased := count_erase_add member each
  unfold State.release State.calls
  split
  · next empty =>
    simp only [empty, List.map_append, List.map_cons, List.map_nil, List.count_append,
      List.count_nil]
    omega
  · next first rest isWaiters =>
    have isFirst : (first :: rest).count each = [first].count each + rest.count each := by
      rw [← List.singleton_append, List.count_append]
    simp only [isWaiters, List.map_append, List.map_cons, List.map_nil, List.count_append]
    omega

theorem release_executing (state : State) (call : Nat) (settled : Settled) :
    (state.release call settled).executing = state.executing.erase call ∧
      (state.release call settled).active = state.active - 1 ∧
        (state.release call settled).arrivals = state.arrivals := by
  unfold State.release
  split <;> exact ⟨rfl, rfl, rfl⟩

/-- After a completion the next waiter has been woken, if there was one. -/
theorem release_woken (state : State) (call : Nat) (settled : Settled)
    (waits : state.waiters ≠ []) : (state.release call settled).woken ≠ [] := by
  unfold State.release
  split
  · next empty => exact absurd empty waits
  · exact List.append_ne_nil_of_right_ne_nil _ (List.cons_ne_nil _ _)

theorem release_waiters_nil {state : State} {call : Nat} {settled : Settled}
    (none : state.waiters = []) : (state.release call settled).waiters = [] := by
  unfold State.release
  rw [none]

theorem start_accounted {state : State} {call : Nat}
    (calls : (call :: state.calls).Perm (List.range state.arrivals))
    (active : state.active = state.executing.length) : Accounted (state.start call) := by
  refine ⟨(calls_start state call).trans calls, ?_⟩
  show state.active + 1 = (state.executing ++ [call]).length
  rw [List.length_append, active, List.length_singleton]

theorem arrive_accounted {state : State} (bulkhead : Bulkhead) (accounted : Accounted state) :
    Accounted (state.arrive bulkhead) := by
  have isNext :
      (state.arrivals :: state.calls).Perm (List.range (state.arrivals + 1)) := by
    rw [List.range_succ]
    exact (accounted.calls.cons _).trans (List.perm_append_singleton _ _).symm
  unfold State.arrive
  dsimp only
  split
  · refine ⟨?_, accounted.active⟩
    refine List.Perm.trans ?_ isNext
    rw [List.perm_iff_count]
    intro each
    simp only [State.calls, List.count_append, List.count_cons, List.count_nil]
    omega
  · exact @start_accounted { state with arrivals := state.arrivals + 1 } _ isNext accounted.active

theorem resume_accounted {state : State} {call : Nat} (woken : call ∈ state.woken)
    (accounted : Accounted state) :
    Accounted (({ state with woken := state.woken.erase call } : State).start call) := by
  refine start_accounted ?_ accounted.active
  refine List.Perm.trans ?_ accounted.calls
  rw [List.perm_iff_count]
  intro each
  have erased := count_erase_add woken each
  simp only [State.calls, List.count_append, List.count_cons, List.count_nil] at erased ⊢
  omega

theorem release_accounted {state : State} {call : Nat} (member : call ∈ state.executing)
    (settled : Settled) (accounted : Accounted state) :
    Accounted (state.release call settled) := by
  obtain ⟨executing, active, arrivals⟩ := release_executing state call settled
  constructor
  · rw [arrivals]
    exact (calls_release member settled).trans accounted.calls
  · rw [executing, active, accounted.active, List.length_erase_of_mem member]

/-- One step keeps every call in one place. -/
theorem step_accounted {state : State} (bulkhead : Bulkhead) (event : Event)
    (accounted : Accounted state) : Accounted (step bulkhead state event) := by
  cases event with
  | arrive => exact arrive_accounted bulkhead accounted
  | resume call =>
      dsimp only [step]
      split
      · next isWoken => exact resume_accounted (List.contains_iff_mem.mp isWoken) accounted
      · exact accounted
  | complete call settled =>
      dsimp only [step]
      split
      · next executes =>
        exact release_accounted (List.contains_iff_mem.mp executes) settled accounted
      · exact accounted

theorem step_waitersCovered {bulkhead : Bulkhead} {state : State} (event : Event)
    (covered : WaitersCovered state) : WaitersCovered (step bulkhead state event) := by
  intro waits
  cases event with
  | arrive =>
      left
      dsimp only [step, State.arrive]
      split
      · next full =>
        intro noneActive
        apply bulkhead.positive
        rw [show state.active = 0 from noneActive] at full
        exact full.trans_lt (by decide)
      · exact Nat.succ_ne_zero state.active
  | resume call =>
      dsimp only [step] at waits ⊢
      split
      · exact Or.inl (Nat.succ_ne_zero state.active)
      · next notWoken =>
        rw [if_neg notWoken] at waits
        exact covered waits
  | complete call settled =>
      dsimp only [step] at waits ⊢
      split
      · next executes =>
        rw [if_pos executes] at waits
        right
        apply release_woken
        intro none
        exact waits (release_waiters_nil none)
      · next idle =>
        rw [if_neg idle] at waits
        exact covered waits

/-- A step that starts no function, or starts it in a free slot, stays within
the limit, and a step within the limit started its function in a free slot. -/
theorem step_withinLimit_iff {bulkhead : Bulkhead} {state : State} (event : Event)
    (accounted : Accounted state) (within : WithinLimit bulkhead state) :
    WithinLimit bulkhead (step bulkhead state event) ↔
      StartsWithinLimit bulkhead state event := by
  have started : ∀ (other : State) (call : Nat), other.executing = state.executing →
      (WithinLimit bulkhead (other.start call) ↔
        ((state.active + 1 : Nat) : JsNumber) ≤ bulkhead.limit) := by
    intro other call same
    have length : (other.start call).executing.length = state.active + 1 := by
      show (other.executing ++ [call]).length = state.active + 1
      rw [List.length_append, List.length_singleton, same, accounted.active]
    rw [WithinLimit, length]
  cases event with
  | arrive =>
      dsimp only [step, State.arrive, StartsWithinLimit]
      split
      · next full =>
        constructor
        · intro _within free
          exact absurd full (not_le.mpr free)
        · intro _condition
          exact within
      · next free =>
        rw [started { state with arrivals := state.arrivals + 1 } state.arrivals rfl]
        exact (imp_iff_right (not_le.mp free)).symm
  | resume call =>
      dsimp only [step, StartsWithinLimit]
      split
      · next isWoken =>
        rw [started { state with woken := state.woken.erase call } call rfl]
        exact (imp_iff_right (List.contains_iff_mem.mp isWoken)).symm
      · next notWoken =>
        constructor
        · intro _within isWoken
          exact absurd (List.contains_iff_mem.mpr isWoken) notWoken
        · intro _condition
          exact within
  | complete call settled =>
      dsimp only [step, StartsWithinLimit]
      refine iff_of_true ?_ trivial
      split
      · have executing := (release_executing state call settled).1
        rw [WithinLimit, executing]
        exact (JsNumber.natCast_le_natCast.mpr List.length_erase_le).trans within
      · exact within

theorem initial_accounted : Accounted initial :=
  ⟨List.Perm.refl _, rfl⟩

/-- The bulkhead keeps its promise throughout a run exactly when every function
of the run is started in a free slot. -/
theorem safe_iff_startsWithinLimit (bulkhead : Bulkhead) (events : List Event) :
    (∀ prior, prior <+: events → Safe bulkhead (run (step bulkhead) initial prior)) ↔
      EveryStep (step bulkhead) (StartsWithinLimit bulkhead) initial events := by
  refine
    @everyState_iff_everyStep _ _ (step bulkhead) (StartsWithinLimit bulkhead)
      (fun state => Accounted state ∧ Safe bulkhead state) (Safe bulkhead) ?_
      (fun state holds => holds.2) ?_ initial events ?_
  · rintro state event ⟨accounted, within, covered⟩ condition
    exact ⟨step_accounted bulkhead event accounted,
      (step_withinLimit_iff event accounted within).mpr condition,
      step_waitersCovered event covered⟩
  · rintro state event ⟨accounted, within, _covered⟩ safe
    exact (step_withinLimit_iff event accounted within).mp safe.1
  · refine ⟨initial_accounted, ?_, fun waits => absurd rfl waits⟩
    exact (JsNumber.natCast_le_natCast.mpr (Nat.zero_le 1)).trans (not_lt.mp bulkhead.positive)

theorem release_woken_length (state : State) (call : Nat) (settled : Settled) :
    (state.release call settled).woken.length ≤ state.woken.length + 1 := by
  unfold State.release
  split
  · exact Nat.le_succ _
  · exact List.length_append.le

/-- A completion hands its slot to the waiter it wakes: slots taken and slots
promised together stay within a whole limit, unless a call arrives while a
wake-up is pending. -/
theorem step_slots {bulkhead : Bulkhead} {slots : Nat}
    (whole : bulkhead.limit = (slots : JsNumber)) {state : State} (event : Event)
    (accounted : Accounted state) (noBarging : event = .arrive → state.woken = [])
    (within : state.executing.length + state.woken.length ≤ slots) :
    (step bulkhead state event).executing.length +
      (step bulkhead state event).woken.length ≤ slots := by
  cases event with
  | arrive =>
      have noneWoken : state.woken.length = 0 := List.length_eq_zero_iff.mpr (noBarging rfl)
      dsimp only [step, State.arrive]
      split
      · exact within
      · next free =>
        rw [whole, JsNumber.natCast_le_natCast, accounted.active] at free
        show (state.executing ++ [state.arrivals]).length + state.woken.length ≤ slots
        rw [List.length_append, List.length_singleton]
        omega
  | resume call =>
      dsimp only [step]
      split
      · next isWoken =>
        have erased := List.length_erase_of_mem (List.contains_iff_mem.mp isWoken)
        have someWoken := List.length_pos_of_mem (List.contains_iff_mem.mp isWoken)
        show (state.executing ++ [call]).length + (state.woken.erase call).length ≤ slots
        rw [List.length_append, List.length_singleton]
        omega
      · exact within
  | complete call settled =>
      dsimp only [step]
      split
      · next executes =>
        have member := List.contains_iff_mem.mp executes
        have erased := List.length_erase_of_mem member
        have someExecute := List.length_pos_of_mem member
        have wakes := release_woken_length state call settled
        rw [(release_executing state call settled).1]
        omega
      · exact within

/-- With a whole number of slots it is enough that no call arrives while a
wake-up is pending. -/
theorem withinLimit_of_noArrivalWhileWoken {bulkhead : Bulkhead} {slots : Nat}
    (whole : bulkhead.limit = (slots : JsNumber)) {events : List Event}
    (every : EveryStep (step bulkhead)
      (fun state event => event = .arrive → state.woken = []) initial events) :
    WithinLimit bulkhead (run (step bulkhead) initial events) := by
  have atEnd :=
    @run_invariant _ _ (step bulkhead) (fun state event => event = .arrive → state.woken = [])
      (fun state => Accounted state ∧ state.executing.length + state.woken.length ≤ slots)
      (fun _state event holds noBarging =>
        ⟨step_accounted bulkhead event holds.1, step_slots whole event holds.1 noBarging holds.2⟩)
      initial events ⟨initial_accounted, Nat.zero_le slots⟩ every
  rw [WithinLimit, whole, JsNumber.natCast_le_natCast]
  exact (Nat.le_add_right _ _).trans atEnd.2

/-- With one slot, a call that arrives between a completion and the woken
waiter runs beside it. -/
theorem limitExceededByArrival :
    ¬ ∀ (bulkhead : Bulkhead) (events : List Event),
        Safe bulkhead (run (step bulkhead) initial events) := by
  intro staysSafe
  have within := (staysSafe ⟨((1 : Nat) : JsNumber), by decide⟩
    [.arrive, .arrive, .complete 0 .fulfilled, .arrive, .resume 1]).1
  revert within
  unfold WithinLimit
  decide

end Bulkhead

end PlatformArchitecture.PlatformSdk
