import PlatformArchitecture.Foundations.Concurrent

/-!
# A program that runs undisturbed

While one process alone issues statements and the environment only makes choices
of an allowed kind, its program completes: no statement waits, and it ends as
the postcondition says.  The rules follow the constructors of programs, and what
completes in this sense has ended after some number of steps of the world.
-/

namespace PlatformArchitecture.Foundations

namespace Program

variable {Pid Choice State Op Error Result Other : Type} {Reply : Op → Type}

/-- Whatever allowed choices the environment makes, every statement of the
process is answered and the program ends as `post` says. -/
def Completes (server : Server Pid Choice State Op Reply Error) (pid : Pid)
    (allowed : Choice → Prop) :
    Program Op Reply Error Result → (Except Error Result → State → Prop) → State → Prop
  | done result, post, state => post (.ok result) state
  | fail error, post, state => post (.error error) state
  | perform op next, post, state =>
      ∀ choice, allowed choice →
        ∃ reply after, server.outcome pid choice op state = some (reply, after) ∧
          (next reply).Completes server pid allowed post after

variable {server : Server Pid Choice State Op Reply Error} {pid : Pid} {allowed : Choice → Prop}

/-- The rule of consequence. -/
theorem Completes.mono {post weaker : Except Error Result → State → Prop}
    (weaken : ∀ result state, post result state → weaker result state)
    {program : Program Op Reply Error Result} {state : State}
    (completes : program.Completes server pid allowed post state) :
    program.Completes server pid allowed weaker state := by
  induction program generalizing state with
  | done result => exact weaken (.ok result) state completes
  | fail error => exact weaken (.error error) state completes
  | perform op next inductionHypothesis =>
      intro choice isAllowed
      obtain ⟨reply, after, answer, continues⟩ := completes choice isAllowed
      exact ⟨reply, after, answer, inductionHypothesis reply continues⟩

/-- The rule of composition. -/
theorem completes_bind {post : Except Error Other → State → Prop}
    {program : Program Op Reply Error Result} {rest : Result → Program Op Reply Error Other}
    {state : State}
    (completes : program.Completes server pid allowed
      (fun
        | .ok result, after => (rest result).Completes server pid allowed post after
        | .error error, after => post (.error error) after) state) :
    (program >>= rest).Completes server pid allowed post state := by
  induction program generalizing state with
  | done result => exact completes
  | fail error => exact completes
  | perform op next inductionHypothesis =>
      intro choice isAllowed
      obtain ⟨reply, after, answer, continues⟩ := completes choice isAllowed
      exact ⟨reply, after, answer, inductionHypothesis reply continues⟩

/-- The rule for a handler that is not needed. -/
theorem completes_orElse {post : Except Error Result → State → Prop}
    {program : Program Op Reply Error Result} {handler : Error → Program Op Reply Error Result}
    {state : State}
    (completes : program.Completes server pid allowed
      (fun ended after => (∃ result, ended = .ok result) ∧ post ended after) state) :
    (program.orElse handler).Completes server pid allowed post state := by
  induction program generalizing state with
  | done result => exact completes.2
  | fail error =>
      obtain ⟨⟨_, failed⟩, _⟩ := completes
      cases failed
  | perform op next inductionHypothesis =>
      intro choice isAllowed
      obtain ⟨reply, after, answer, continues⟩ := completes choice isAllowed
      exact ⟨reply, after, answer, inductionHypothesis reply continues⟩

/-- The rule for one statement. -/
theorem completes_call {op : Op} {post : Except Error (Reply op) → State → Prop} {state : State}
    (answered : ∀ choice, allowed choice → ∃ reply after,
      server.outcome pid choice op state = some (reply, after) ∧ post reply after) :
    (call op).Completes server pid allowed post state := by
  intro choice isAllowed
  obtain ⟨reply, after, answer, holds⟩ := answered choice isAllowed
  refine ⟨reply, after, answer, ?_⟩
  cases reply with
  | ok value => exact holds
  | error error => exact holds

variable [DecidableEq Pid]

/-- What completes has ended after some number of its statements. -/
theorem Completes.ends {post : Except Error Result → State → Prop}
    {program : Program Op Reply Error Result}
    {world : World Pid State Op Reply Error Result}
    (current : world.programs pid = some program)
    (completes : program.Completes server pid allowed post world.shared)
    (choose : Nat → Choice) (allAllowed : ∀ index, allowed (choose index)) :
    ∃ count, ∃ ended : Except Error Result,
      let later := Foundations.run (World.step server) world
        ((List.range count).map fun index => Event.statement pid (choose index))
      later.programs pid = some (check ended) ∧ post ended later.shared := by
  induction program generalizing world choose with
  | done result => exact ⟨0, .ok result, current, completes⟩
  | fail error => exact ⟨0, .error error, current, completes⟩
  | perform op next inductionHypothesis =>
      obtain ⟨reply, after, answer, continues⟩ := completes (choose 0) (allAllowed 0)
      have stepped := World.step_statement current answer
      have nextCurrent : (World.step server world (.statement pid (choose 0))).programs pid =
          some (next reply) := by
        rw [stepped]
        exact Function.update_self _ _ _
      have nextCompletes : (next reply).Completes server pid allowed post
          (World.step server world (.statement pid (choose 0))).shared := by
        rw [stepped]
        exact continues
      obtain ⟨count, ended, atEnd⟩ := inductionHypothesis reply nextCurrent nextCompletes
        (fun index => choose (index + 1)) fun index => allAllowed (index + 1)
      refine ⟨count + 1, ended, ?_⟩
      rw [List.range_succ_eq_map, List.map_cons, List.map_map, run_cons]
      exact atEnd

end Program

end PlatformArchitecture.Foundations
