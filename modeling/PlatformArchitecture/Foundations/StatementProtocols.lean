import PlatformArchitecture.Foundations.Concurrent

/-!
# Programs that obey a protocol

A protocol says which statements a process may issue at a stage, which answers it
can expect, and to which stage an answer leads.  A program obeys it from a stage
on when it issues nothing else, whatever the answers.  The rules follow the
constructors of programs.

In a world of such programs every process is at a stage.  What the stages and the
shared state satisfy together is kept by every event, when it is kept by the
allowed statements.
-/

namespace PlatformArchitecture.Foundations

structure StatementProtocol (Stage Op : Type) (Reply : Op → Type) (Error : Type) where
  allowed : Stage → Op → Prop
  expected : (op : Op) → Except Error (Reply op) → Prop
  advance : Stage → (op : Op) → Except Error (Reply op) → Stage

namespace Program

variable {Stage Op Error Result Other : Type} {Reply : Op → Type}

/-- The program issues only allowed statements, and ends at a stage as `post`
says. -/
def Obeys (protocol : StatementProtocol Stage Op Reply Error) :
    Program Op Reply Error Result → (Except Error Result → Stage → Prop) → Stage → Prop
  | done result, post, stage => post (.ok result) stage
  | fail error, post, stage => post (.error error) stage
  | perform op next, post, stage =>
      protocol.allowed stage op ∧
        ∀ reply, protocol.expected op reply →
          (next reply).Obeys protocol post (protocol.advance stage op reply)

variable {protocol : StatementProtocol Stage Op Reply Error}

/-- The rule of consequence. -/
theorem Obeys.mono {post weaker : Except Error Result → Stage → Prop}
    (weaken : ∀ result stage, post result stage → weaker result stage)
    {program : Program Op Reply Error Result} {stage : Stage}
    (obeys : program.Obeys protocol post stage) : program.Obeys protocol weaker stage := by
  induction program generalizing stage with
  | done result => exact weaken (.ok result) stage obeys
  | fail error => exact weaken (.error error) stage obeys
  | perform op next inductionHypothesis =>
      refine ⟨obeys.1, ?_⟩
      intro reply expected
      exact inductionHypothesis reply (obeys.2 reply expected)

/-- The rule of composition: an error skips the rest. -/
theorem obeys_bind {post : Except Error Other → Stage → Prop}
    {rest : Result → Program Op Reply Error Other} {program : Program Op Reply Error Result}
    {stage : Stage}
    (obeys : program.Obeys protocol
      (fun result stage =>
        match result with
        | .ok value => (rest value).Obeys protocol post stage
        | .error error => post (.error error) stage) stage) :
    (program >>= rest).Obeys protocol post stage := by
  induction program generalizing stage with
  | done result => exact obeys
  | fail error => exact obeys
  | perform op next inductionHypothesis =>
      refine ⟨obeys.1, ?_⟩
      intro reply expected
      exact inductionHypothesis reply (obeys.2 reply expected)

/-- The rule of recovery: an error is handled at the stage it left. -/
theorem obeys_orElse {post : Except Error Result → Stage → Prop}
    {handler : Error → Program Op Reply Error Result} {program : Program Op Reply Error Result}
    {stage : Stage}
    (obeys : program.Obeys protocol
      (fun result stage =>
        match result with
        | .ok value => post (.ok value) stage
        | .error error => (handler error).Obeys protocol post stage) stage) :
    (program.orElse handler).Obeys protocol post stage := by
  induction program generalizing stage with
  | done result => exact obeys
  | fail error => exact obeys
  | perform op next inductionHypothesis =>
      refine ⟨obeys.1, ?_⟩
      intro reply expected
      exact inductionHypothesis reply (obeys.2 reply expected)

/-- The rule for one statement. -/
theorem obeys_call {op : Op} {post : Except Error (Reply op) → Stage → Prop} {stage : Stage}
    (isAllowed : protocol.allowed stage op)
    (ends : ∀ reply, protocol.expected op reply → post reply (protocol.advance stage op reply)) :
    (call op : Program Op Reply Error (Reply op)).Obeys protocol post stage := by
  refine ⟨isAllowed, ?_⟩
  intro reply expected
  cases reply with
  | ok value => exact ends (.ok value) expected
  | error error => exact ends (.error error) expected

/-- A condition on the results of a program that does not fail. -/
def ifOk (holds : Result → Stage → Prop) : Except Error Result → Stage → Prop
  | .ok result, stage => holds result stage
  | .error _, _ => True

theorem Obeys.anyResult {post : Except Error Result → Stage → Prop}
    {program : Program Op Reply Error Result} {stage : Stage}
    (obeys : program.Obeys protocol post stage) :
    program.Obeys protocol (ifOk fun _ _ => True) stage := by
  refine obeys.mono ?_
  intro result after _
  cases result with
  | ok value => trivial
  | error error => trivial

/-- The rule of composition for results. -/
theorem obeys_andThen {holds : Other → Stage → Prop}
    {rest : Result → Program Op Reply Error Other} {program : Program Op Reply Error Result}
    {stage : Stage}
    (obeys : program.Obeys protocol
      (ifOk fun result after => (rest result).Obeys protocol (ifOk holds) after) stage) :
    (program >>= rest).Obeys protocol (ifOk holds) stage := by
  refine obeys_bind (obeys.mono ?_)
  intro result after found
  cases result with
  | ok value => exact found
  | error error => trivial

/-- The same after a program whose stage and result do not matter. -/
theorem obeys_andThen_always {holds : Other → Stage → Prop}
    {rest : Result → Program Op Reply Error Other} {program : Program Op Reply Error Result}
    {stage : Stage} (obeys : program.Obeys protocol (ifOk fun _ _ => True) stage)
    (goesOn : ∀ result after, (rest result).Obeys protocol (ifOk holds) after) :
    (program >>= rest).Obeys protocol (ifOk holds) stage := by
  refine obeys_andThen (obeys.mono ?_)
  intro result after _
  cases result with
  | ok value => exact goesOn value after
  | error error => trivial

theorem obeys_check {verdict : Except Error Result} {post : Except Error Result → Stage → Prop}
    {stage : Stage} (ends : post verdict stage) :
    (check verdict : Program Op Reply Error Result).Obeys protocol post stage := by
  cases verdict with
  | ok value => exact ends
  | error error => exact ends

end Program

namespace World

variable {Pid Choice State Stage Op Error Result : Type} {Reply : Op → Type}

/-- Every process that has not crashed obeys the protocol from a stage on, and the
stages suit the shared state. -/
def Staged (protocol : StatementProtocol Stage Op Reply Error)
    (invariant : State → (Pid → Stage) → Prop)
    (world : World Pid State Op Reply Error Result) : Prop :=
  ∃ stages : Pid → Stage,
    invariant world.shared stages ∧
      ∀ pid program, world.programs pid = some program →
        program.Obeys protocol (fun _ _ => True) (stages pid)

variable {protocol : StatementProtocol Stage Op Reply Error}
  {invariant : State → (Pid → Stage) → Prop}

theorem start_staged {shared : State} {programs : Pid → Program Op Reply Error Result}
    (stages : Pid → Stage) (holds : invariant shared stages)
    (obey : ∀ pid, (programs pid).Obeys protocol (fun _ _ => True) (stages pid)) :
    (start shared programs).Staged protocol invariant := by
  refine ⟨stages, holds, ?_⟩
  intro pid program running
  cases running
  exact obey pid

variable [DecidableEq Pid] {server : Server Pid Choice State Op Reply Error}

/-- The rule of protocols: one event keeps the world staged when every allowed
statement gets an expected answer and suits the stage it leads to. -/
theorem Staged.step
    (own : ∀ state stages pid choice op reply shared,
      invariant state stages → protocol.allowed (stages pid) op →
      server.outcome pid choice op state = some (reply, shared) →
        protocol.expected op reply ∧
          invariant shared
            (Function.update stages pid (protocol.advance (stages pid) op reply)))
    (lost : ∀ pid state stages, invariant state stages →
      invariant (server.disconnect pid state) stages)
    {world : World Pid State Op Reply Error Result} (event : Event Pid Choice)
    (staged : world.Staged protocol invariant) :
    (world.step server event).Staged protocol invariant := by
  obtain ⟨stages, holds, obey⟩ := staged
  rcases step_cases server world event with
    unchanged | ⟨pid, choice, op, next, reply, shared, rfl, current, answer, moved⟩ |
      ⟨pid, programs, moved, remaining⟩
  · rw [unchanged]
    exact ⟨stages, holds, obey⟩
  · obtain ⟨isAllowed, goesOn⟩ := obey pid _ current
    obtain ⟨isExpected, kept⟩ :=
      own world.shared stages pid choice op reply shared holds isAllowed answer
    rw [moved]
    refine ⟨_, kept, ?_⟩
    intro other program running
    rcases update_cases running with ⟨rfl, isNext⟩ | ⟨different, before⟩
    · cases isNext
      rw [Function.update_self]
      exact goesOn reply isExpected
    · rw [Function.update_of_ne different]
      exact obey other program before
  · rw [moved]
    refine ⟨stages, lost pid world.shared stages holds, ?_⟩
    intro other program running
    exact obey other program (remaining other program running)

end World

end PlatformArchitecture.Foundations
