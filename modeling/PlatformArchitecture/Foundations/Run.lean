import Mathlib.Data.List.Basic

/-!
# Runs of a step function

A component is given by a state and a function that takes one action at a
time.  A run is a list of actions executed in order.  Properties of runs are
proved from one fact about a single step, either for all actions or only for
runs whose every step meets a condition on the action and the state before it.
-/

namespace PlatformArchitecture.Foundations

universe u v w

variable {State : Type u} {Action : Type v}

/-- The state reached by executing the actions in order. -/
def run (step : State → Action → State) (start : State)
    (actions : List Action) : State :=
  actions.foldl step start

@[simp]
theorem run_cons (step : State → Action → State) (start : State)
    (action : Action) (rest : List Action) :
    run step start (action :: rest) = run step (step start action) rest :=
  rfl

theorem run_append (step : State → Action → State) (start : State) (prior rest : List Action) :
    run step start (prior ++ rest) = run step (run step start prior) rest :=
  List.foldl_append

/-- The origin rule: what holds at the end of a run and not at its start has
become true at one of its steps. -/
theorem exists_step_of_holds {step : State → Action → State} {fact : State → Prop} :
    ∀ {start : State} {actions : List Action}, ¬ fact start → fact (run step start actions) →
      ∃ prior action, prior ++ [action] <+: actions ∧ ¬ fact (run step start prior) ∧
        fact (step (run step start prior) action) := by
  intro start actions
  induction actions generalizing start with
  | nil =>
      intro notYet holds
      exact absurd holds notYet
  | cons first rest inductionHypothesis =>
      intro notYet holds
      by_cases becomes : fact (step start first)
      · exact ⟨[], first, ⟨rest, rfl⟩, notYet, becomes⟩
      · obtain ⟨prior, action, isPrefix, before, after⟩ := inductionHypothesis becomes holds
        exact ⟨first :: prior, action, (List.prefix_cons_inj first).mpr isPrefix, before, after⟩

/-- Every action of the run satisfies `condition` together with the state it
is executed in. -/
def EveryStep (step : State → Action → State)
    (condition : State → Action → Prop) : State → List Action → Prop
  | _, [] => True
  | state, action :: rest =>
      condition state action ∧ EveryStep step condition (step state action) rest

instance decidableEveryStep {step : State → Action → State}
    {condition : State → Action → Prop}
    [decide : ∀ state action, Decidable (condition state action)] :
    ∀ start actions, Decidable (EveryStep step condition start actions)
  | _, [] => inferInstanceAs (Decidable True)
  | start, action :: rest =>
      @instDecidableAnd _ _ (decide start action)
        (decidableEveryStep (step start action) rest)

/-- The invariant rule: a property of the first state that every step meeting
the condition keeps holds at the end of the run. -/
theorem run_invariant {step : State → Action → State}
    {condition : State → Action → Prop} {invariant : State → Prop}
    (preserved : ∀ state action,
      invariant state → condition state action → invariant (step state action)) :
    ∀ {start : State} {actions : List Action},
      invariant start → EveryStep step condition start actions →
        invariant (run step start actions) := by
  intro start actions
  induction actions generalizing start with
  | nil =>
      intro holds _every
      exact holds
  | cons action rest inductionHypothesis =>
      intro holds every
      have stepHolds : invariant (step start action) :=
        preserved start action holds every.1
      rw [run_cons]
      exact inductionHypothesis stepHolds every.2

/-- The invariant rule for runs without a condition on their steps. -/
theorem run_invariant_of_step {step : State → Action → State}
    {invariant : State → Prop}
    (preserved : ∀ state action, invariant state → invariant (step state action)) :
    ∀ {start : State} (actions : List Action),
      invariant start → invariant (run step start actions) := by
  intro start actions
  induction actions generalizing start with
  | nil =>
      intro holds
      exact holds
  | cons action rest inductionHypothesis =>
      intro holds
      rw [run_cons]
      exact inductionHypothesis (preserved start action holds)

/-- The step rule: in a run that keeps an invariant, whatever the invariant
and the condition imply of a single step is true of every step. -/
theorem everyStep_of_invariant {step : State → Action → State}
    {condition conclusion : State → Action → Prop} {invariant : State → Prop}
    (preserved : ∀ state action,
      invariant state → condition state action → invariant (step state action))
    (implies : ∀ state action,
      invariant state → condition state action → conclusion state action) :
    ∀ {start : State} {actions : List Action},
      invariant start → EveryStep step condition start actions →
        EveryStep step conclusion start actions := by
  intro start actions
  induction actions generalizing start with
  | nil =>
      intro _holds _every
      trivial
  | cons action rest inductionHypothesis =>
      intro holds every
      have stepHolds : invariant (step start action) :=
        preserved start action holds every.1
      exact
        ⟨implies start action holds every.1,
          inductionHypothesis stepHolds every.2⟩

/-- A condition that no step can violate holds of every step. -/
theorem everyStep_of_forall {step : State → Action → State}
    {condition : State → Action → Prop}
    (always : ∀ state action, condition state action) :
    ∀ (start : State) (actions : List Action),
      EveryStep step condition start actions := by
  intro start actions
  induction actions generalizing start with
  | nil =>
      trivial
  | cons action rest inductionHypothesis =>
      exact
        ⟨always start action,
          inductionHypothesis (step start action)⟩

/-- A condition on the actions alone holds of every step if it holds of every
action. -/
theorem everyStep_of_mem {step : State → Action → State} {condition : Action → Prop} :
    ∀ {start : State} {actions : List Action}, (∀ action ∈ actions, condition action) →
      EveryStep step (fun _ action => condition action) start actions := by
  intro start actions
  induction actions generalizing start with
  | nil =>
      intro _each
      trivial
  | cons action rest inductionHypothesis =>
      intro each
      exact
        ⟨each action List.mem_cons_self,
          inductionHypothesis fun other member => each other (List.mem_cons_of_mem _ member)⟩

/-- It holds of every step just when it holds of every action. -/
theorem everyStep_action_iff (step : State → Action → State) (start : State)
    {condition : Action → Prop} {actions : List Action} :
    EveryStep step (fun _ action => condition action) start actions ↔
      ∀ action ∈ actions, condition action := by
  constructor
  · induction actions generalizing start with
    | nil =>
        intro _every action member
        exact absurd member List.not_mem_nil
    | cons first rest inductionHypothesis =>
        intro every action member
        rcases List.mem_cons.mp member with rfl | later
        · exact every.1
        · exact inductionHypothesis (step start first) every.2 action later
  · exact everyStep_of_mem

/-- The exact rule under an assumption on the steps: where the condition keeps
an invariant that implies a property, and a step cannot arrive at the property
without meeting the condition, the runs that have the property in every state
are those whose every step meets the condition. -/
theorem everyState_iff_everyStep_of_everyStep {step : State → Action → State}
    {assumption condition : State → Action → Prop} {invariant property : State → Prop}
    (preserved : ∀ state action,
      invariant state → assumption state action → condition state action →
        invariant (step state action))
    (implies : ∀ state, invariant state → property state)
    (necessary : ∀ state action,
      invariant state → assumption state action → property (step state action) →
        condition state action)
    {start : State} {actions : List Action} :
    EveryStep step assumption start actions → invariant start →
      ((∀ prior, prior <+: actions → property (run step start prior)) ↔
        EveryStep step condition start actions) := by
  induction actions generalizing start with
  | nil =>
      intro _assumed holds
      constructor
      · intro _always
        trivial
      · intro _every prior isPrefix
        rw [List.prefix_nil.mp isPrefix]
        exact implies start holds
  | cons action rest inductionHypothesis =>
      intro assumed holds
      have kept : condition start action → invariant (step start action) :=
        preserved start action holds assumed.1
      constructor
      · intro always
        have first : property (step start action) :=
          always [action] ⟨rest, rfl⟩
        have meets := necessary start action holds assumed.1 first
        refine ⟨meets, (inductionHypothesis assumed.2 (kept meets)).mp ?_⟩
        intro prior isPrefix
        exact always (action :: prior) ((List.prefix_cons_inj action).mpr isPrefix)
      · intro every prior isPrefix
        cases prior with
        | nil => exact implies start holds
        | cons first others =>
            obtain ⟨rfl, isRest⟩ := List.cons_prefix_cons.mp isPrefix
            exact (inductionHypothesis assumed.2 (kept every.1)).mpr every.2 others isRest

/-- The exact rule for runs without an assumption on their steps. -/
theorem everyState_iff_everyStep {step : State → Action → State}
    {condition : State → Action → Prop} {invariant property : State → Prop}
    (preserved : ∀ state action,
      invariant state → condition state action → invariant (step state action))
    (implies : ∀ state, invariant state → property state)
    (necessary : ∀ state action,
      invariant state → property (step state action) → condition state action)
    {start : State} (actions : List Action) (holds : invariant start) :
    (∀ prior, prior <+: actions → property (run step start prior)) ↔
      EveryStep step condition start actions :=
  everyState_iff_everyStep_of_everyStep
    (fun state action kept _assumed => preserved state action kept) implies
    (fun state action kept _assumed => necessary state action kept)
    (@everyStep_of_forall _ _ step (fun _ _ => True) (fun _ _ => trivial) start actions) holds

/-- A frame rule: a view of the state that no step of the run changes is the
same at the end of the run. -/
theorem run_unchanged {step : State → Action → State}
    {condition : State → Action → Prop} {View : Type w} (view : State → View)
    (unchanged : ∀ state action,
      condition state action → view (step state action) = view state)
    {start : State} {actions : List Action}
    (every : EveryStep step condition start actions) :
    view (run step start actions) = view start :=
  @run_invariant _ _ step condition (fun state => view state = view start)
    (fun state action same meets => (unchanged state action meets).trans same)
    start actions rfl every

end PlatformArchitecture.Foundations
